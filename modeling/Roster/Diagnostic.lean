/-! # Diagnostics

Messages about a type or about a round itself. A round succeeds when none of them is an error.
-/

namespace Roster

/-- How severe a diagnostic is. -/
inductive Severity where
  | note
  | warning
  | error
  deriving DecidableEq, Repr, Inhabited

namespace Severity

/-- The name of a severity. -/
def name : Severity → String
  | .note => "note"
  | .warning => "warning"
  | .error => "error"

/-- The severity of a name. -/
def ofName? : String → Option Severity
  | "note" => some .note
  | "warning" => some .warning
  | "error" => some .error
  | _ => none

end Severity

/-- A message about a type, or about the round. -/
structure Diagnostic where
  severity : Severity
  sourceType : Option String
  message : String
  code : Option String
  deriving DecidableEq, Repr, Inhabited

namespace Diagnostic

/-- A note. -/
def note (sourceType : Option String) (message : String) : Diagnostic :=
  ⟨.note, sourceType, message, none⟩

/-- An error. -/
def error (sourceType : Option String) (message : String) (code : Option String) : Diagnostic :=
  ⟨.error, sourceType, message, code⟩

/-- Whether it is an error. -/
def isError (d : Diagnostic) : Bool := d.severity = .error

/-- The diagnostic as one text; a type without name is left out. -/
def text (d : Diagnostic) : String :=
  let subject := match d.sourceType with
    | some name => if name ≠ "" then name ++ ": " else ""
    | none => ""
  d.severity.name ++ ": " ++ subject ++ d.message

end Diagnostic

/-- The errors among diagnostics. -/
def errorsOf (ds : List Diagnostic) : List Diagnostic := ds.filter Diagnostic.isError

/-- Whether diagnostics hold no error. -/
def succeeded (ds : List Diagnostic) : Bool := (errorsOf ds).isEmpty

@[simp] theorem errorsOf_append (ds es : List Diagnostic) :
    errorsOf (ds ++ es) = errorsOf ds ++ errorsOf es :=
  List.filter_append ..

@[simp] theorem errorsOf_nil : errorsOf [] = [] := rfl

@[simp] theorem errorsOf_note_cons (sourceType : Option String) (message : String)
    (ds : List Diagnostic) : errorsOf (.note sourceType message :: ds) = errorsOf ds := rfl

@[simp] theorem errorsOf_error_cons (sourceType : Option String) (message : String)
    (code : Option String) (ds : List Diagnostic) :
    errorsOf (.error sourceType message code :: ds)
      = .error sourceType message code :: errorsOf ds := rfl

theorem succeeded_iff (ds : List Diagnostic) : succeeded ds = true ↔ errorsOf ds = [] :=
  List.isEmpty_iff

end Roster
