/-
File paths.

A path is a text whose parts are separated by slashes.  Repeated slashes and the part `.` do not
count, except for a `.` at the very start, which is how a path says that it begins here.  Nothing in
this module looks at a disk, so `..` is a part like any other.

* `precedes_total`, `precedes_antisymm`, `precedes_trans`: paths are ordered part by part, and the
  order is linear.
-/
import Screenplay.Text.Pieces

namespace Screenplay.Path

open Text

/-- Whether a path begins at the root of the file system. -/
def isAbsolute (path : String) : Bool := path.toList.head? = some '/'

/-- The path `path`, taken relative to `base`; an absolute path stays as it is. -/
def join (base path : String) : String :=
  if isAbsolute path ∨ base = "" then path
  else if base.toList.getLast? = some '/' then base ++ path
  else base ++ "/" ++ path

/-- Everything between the slashes of a path, empty pieces included. -/
def slashPieces (path : String) : List String := (pieces '/' path.toList).map String.ofList

/-- The parts of a path that count. -/
def parts (path : String) : List String :=
  let kept := fun (piece : String) => piece ≠ "" ∧ piece ≠ "."
  match slashPieces path with
  | "." :: rest => "." :: rest.filter kept
  | all => all.filter kept

/-- The text of a path with the given parts. -/
def ofParts (absolute : Bool) (parts : List String) : String :=
  (if absolute then "/" else "") ++ "/".intercalate parts

/-- The non-empty beginnings of a list, shortest first. -/
def beginnings : List String → List (List String)
  | [] => []
  | part :: parts => [part] :: (beginnings parts).map (part :: ·)

/-- The folders a file lies in, innermost first.  The folder that a relative path starts from and
the root of the file system are not among them. -/
def folders (path : String) : List String :=
  (beginnings (parts path).dropLast).reverse.map (ofParts (isAbsolute path))

/-- Whether one list of parts stands before another or equals it.  Lists are compared part by part,
and a beginning stands before what it begins. -/
def precedes : List String → List String → Bool
  | [], _ => true
  | _ :: _, [] => false
  | part :: parts, other :: others =>
    if part = other then precedes parts others else decide (part ≤ other)

theorem precedes_total (xs ys : List String) : precedes xs ys || precedes ys xs := by
  induction xs generalizing ys with
  | nil => simp [precedes]
  | cons x xs ih =>
    cases ys with
    | nil => simp [precedes]
    | cons y ys =>
      by_cases h : x = y
      · simpa [precedes, h] using ih ys
      · have h' : y ≠ x := fun e => h e.symm
        simpa [precedes, h, h'] using String.le_total x y

theorem precedes_antisymm {xs ys : List String} (h : precedes xs ys) (h' : precedes ys xs) :
    xs = ys := by
  induction xs generalizing ys with
  | nil =>
    cases ys with
    | nil => rfl
    | cons y ys => simp [precedes] at h'
  | cons x xs ih =>
    cases ys with
    | nil => simp [precedes] at h
    | cons y ys =>
      by_cases hxy : x = y
      · subst hxy
        simp only [precedes, if_true] at h h'
        rw [ih h h']
      · have hyx : y ≠ x := fun e => hxy e.symm
        simp only [precedes, hxy, hyx, if_false, decide_eq_true_eq] at h h'
        exact absurd (String.le_antisymm h h') hxy

theorem precedes_trans {xs ys zs : List String} (h : precedes xs ys) (h' : precedes ys zs) :
    precedes xs zs := by
  induction xs generalizing ys zs with
  | nil => rfl
  | cons x xs ih =>
    cases ys with
    | nil => simp [precedes] at h
    | cons y ys =>
      cases zs with
      | nil => simp [precedes] at h'
      | cons z zs =>
        simp only [precedes] at h h' ⊢
        by_cases hxy : x = y
        · subst hxy
          by_cases hxz : x = z
          · subst hxz
            simp only [if_true] at h h' ⊢
            exact ih h h'
          · simpa only [hxz, if_false] using h'
        · simp only [hxy, if_false, decide_eq_true_eq] at h
          by_cases hyz : y = z
          · subst hyz
            simpa [hxy] using h
          · simp only [hyz, if_false, decide_eq_true_eq] at h'
            have hxz : x ≠ z := fun e => hxy (String.le_antisymm h (e ▸ h'))
            simpa [hxz] using String.le_trans h h'

/-- Whether a file name ends in an extension.  A name that begins with its only dot has none. -/
def hasExtension (extension name : String) : Bool :=
  let tail := '.' :: extension.toList
  tail.isSuffixOf name.toList && tail.length < name.toList.length

/-- A path without the marks `./` at its start, however many there are. -/
def withoutHere : List Char → List Char
  | '.' :: '/' :: rest => withoutHere rest
  | path => path

end Screenplay.Path
