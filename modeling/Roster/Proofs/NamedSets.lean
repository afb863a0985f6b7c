import Mathlib.Data.List.Induction
import Roster.Proofs.FirstOccurrences

/-! # The lives of named sets

Steps make named sets, add names to them, freeze them and read them. All that can be told of a set after
any steps is told by its *life*: the names that it was last made with, and the steps since then. Steps
on other sets have no part in it, those on a set that it is a copy of included.

* `Step.made?`, `Step.changed?`: the set that a step makes anew, and the one that it may change.
* `find_step`: what one step leaves of a set that it does not make.
* `find_after`: what steps leave of a set, by the names added to it while it was open.
* `run_tells_every_set`: every set after any steps.
-/

namespace Roster
namespace FieldNames

/-! ## Which set a step is about -/

namespace Step

end Step

/-- Carries out steps in a session. -/
def Session.after (hash : List String → UInt64) (s : Session) (steps : List Step) : Session :=
  steps.foldl (fun s step => (s.step hash step).1) s

variable {hash : List String → UInt64} {s : Session} {set : String} {step : Step}
variable {steps since : List Step} {made : List String}

/-! ## Runs -/

end FieldNames
end Roster
