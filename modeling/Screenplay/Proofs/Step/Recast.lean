/-
Steps under the names of a cast.

A script names its speakers as it likes, and a cast says which engine characters they are.
`recast` gives the speakers of side messages their names in a cast, at every depth, and changes
nothing else.

* `recastAll_eq_map`: the steps of a list are recast one by one.
-/
import Screenplay.Cast
import Screenplay.Step.Basic

namespace Screenplay

/-- The name a speaker has under a cast: that of the engine character, or the one in the script. -/
def Cast.actor (cast : Cast) (name : String) : String := (cast.resolve? name).getD name

namespace Step

mutual

/-- The step with the names of a cast for those who speak in it. -/
def recast (cast : Cast) : Step → Step
  | .sideMessage person text =>
    .sideMessage { person with character := cast.actor person.character } text
  | .branch condition thenSteps elseSteps =>
    .branch condition (recastAll cast thenSteps) (recastAll cast elseSteps)
  | step => step

/-- The steps of a list with the names of a cast. -/
def recastAll (cast : Cast) : List Step → List Step
  | [] => []
  | step :: steps => step.recast cast :: recastAll cast steps

end

theorem recastAll_eq_map (cast : Cast) (steps : List Step) :
    recastAll cast steps = steps.map (recast cast) := by
  induction steps with
  | nil => rfl
  | cons step steps ih => rw [recastAll, ih, List.map_cons]

theorem length_recastAll (cast : Cast) (steps : List Step) :
    (recastAll cast steps).length = steps.length := by
  rw [recastAll_eq_map, List.length_map]

theorem recastAll_reverse (cast : Cast) (steps : List Step) :
    recastAll cast steps.reverse = (recastAll cast steps).reverse := by
  rw [recastAll_eq_map, recastAll_eq_map, List.map_reverse]

end Step

end Screenplay
