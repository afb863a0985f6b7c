import Roster.ConfigFault
import Roster.Document.Reading
import Roster.SourceScan

/-! # Input faults

What can go wrong while the settings, a manifest or source trees are read.

* `FileTree.readDocument` reads a text as a document, as far as the machine goes.
-/

namespace Roster

/-- Why an input cannot be used. -/
inductive InputFault where
  | config (fault : ConfigFault)
  | unknownHome
  | file (fault : FileFault)
  | encoding (fault : Text.Utf8Fault)
  | document (fault : Document.Fault)
  | scan (fault : ScanFault)
  /-- A host's source breaks down, with a message. -/
  | host (message : String)
  deriving DecidableEq, Repr

namespace InputFault

/-- The wording of a fault. -/
def message : InputFault → String
  | .config fault => fault.message
  | .unknownHome => Path.unknownHome
  | .file fault => fault.message
  | .encoding fault => fault.message
  | .document fault => fault.message
  | .scan fault => fault.message
  | .host message => message

/-- A document's fault: a malformed text is the fault of the configuration file of that name. -/
def ofDocument (fileName : String) : Document.Fault → InputFault
  | .malformed => .config (.malformedFile fileName Document.Fault.malformed.message)
  | fault => .document fault

/-- A fault of reading a text file. -/
def ofRead : FileFault ⊕ Text.Utf8Fault → InputFault
  | .inl fault => .file fault
  | .inr fault => .encoding fault

end InputFault

/-- Reads the text of a configuration file as a document. -/
def FileTree.readDocument (t : FileTree) (truths : Bool) (fileName text : String) :
    Except InputFault Document.Value :=
  match t.limits.documents text with
  | some how => .error (.document (.exhausted how))
  | none => (Document.readText truths text).mapError (.ofDocument fileName)

theorem FileTree.readDocument_eq_ok_iff {t : FileTree} {truths : Bool} {fileName text : String}
    {v : Document.Value} :
    t.readDocument truths fileName text = .ok v ↔
      t.limits.documents text = none ∧ Document.readText truths text = .ok v := by
  rw [readDocument]
  cases t.limits.documents text with
  | some how => simp
  | none =>
    cases Document.readText truths text with
    | error fault =>
      constructor
      · intro h
        contradiction
      · rintro ⟨-, h⟩
        contradiction
    | ok w =>
      constructor
      · intro h
        exact ⟨rfl, congrArg _ (Except.ok.inj h)⟩
      · rintro ⟨-, ⟨⟩⟩
        rfl

end Roster
