/-
The warnings of a computation.

Of the notices that a computation makes on its way, the warnings are those for lines that are
dropped.  A composite computation that comes to a result has the warnings of its parts, one behind
the other; what is made of a result, and how a fault is worded, does not change them.

* `warnings_bind_of_ok`, `warnings_note_bind`: the warnings of a composite computation;
* `warnings_map`, `warnings_mapFault`: what leaves the warnings alone.
-/
import Screenplay.Notice

namespace Screenplay.Reported

variable {ε ε' α β : Type}

/-- The warnings among the notices of a computation, in their order. -/
def warnings (x : Logged ε α) : List Notice := x.log.filter (·.level = .warn)

@[simp] theorem warnings_pure (a : α) : (pure a : Logged ε α).warnings = [] := rfl

@[simp] theorem warnings_fail (fault : ε) : (fail fault : Logged ε α).warnings = [] := rfl

theorem warnings_note (entry : Notice) :
    (note entry : Logged ε Unit).warnings = [entry].filter (·.level = .warn) := rfl

theorem warnings_bind_of_ok {x : Logged ε α} {a : α} (h : x.result = .ok a)
    (f : α → Logged ε β) : (x >>= f).warnings = x.warnings ++ (f a).warnings := by
  rw [warnings, log_bind_ok h, List.filter_append]
  rfl

theorem warnings_note_bind (entry : Notice) (f : Unit → Logged ε β) :
    (note entry >>= f).warnings = [entry].filter (·.level = .warn) ++ (f ()).warnings := by
  rw [warnings_bind_of_ok (result_note entry), warnings_note]

@[simp] theorem warnings_map (f : α → β) (x : Logged ε α) : (f <$> x).warnings = x.warnings := by
  rw [warnings, log_map, warnings]

@[simp] theorem warnings_mapFault (context : ε → ε') (x : Logged ε α) :
    (x.mapFault context).warnings = x.warnings := rfl

end Screenplay.Reported
