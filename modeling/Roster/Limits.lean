/-! # Limits of the machine

A text can be in order and still be more than the machine takes in, and a value can be too deep for it
to be written. Work that meets such a limit ends there, without a word on what it was about.
-/

namespace Roster

/-- How the machine gives out: in its memory, or in the depth to which its calls are nested. -/
inductive Exhaustion where
  | memory
  | depth (work : String)
  deriving DecidableEq, Repr

/-- The wording of an exhaustion. -/
def Exhaustion.message : Exhaustion → String
  | .memory => ""
  | .depth work => "maximum recursion depth exceeded" ++ work

/-- How the machine gives out when a value is written that is nested too deep. -/
def Exhaustion.deepValue : Exhaustion := .depth " while getting the repr of an object"

/-- What the machine takes in: how it gives out at the text of a module or of a document, if it does,
and how deep a value may be nested that is written. -/
structure Limits where
  modules : String → Option Exhaustion
  documents : String → Option Exhaustion
  nesting : Nat
  deriving Inhabited

/-- The machine reads every text. -/
def Limits.ample : Limits := ⟨fun _ => none, fun _ => none, 950⟩

end Roster
