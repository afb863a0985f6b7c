import Roster.Artifact
import Roster.Text.Blank
import Roster.Text.Escaped
import Roster.Text.Lowercase
import Roster.Text.Quoted

/-! # Renderings

The source text of a companion in one of three languages: a header comment, the field names as
literals in declaration order, an accessor, and, for a debuggable companion, a description. A custom
layout replaces the text by its own, with a few values filled in.

The layouts of the three languages are written out as lines here: the line of a field stands once for
each field, and lines that depend on the companion stand under a condition. Where a layout has a line for
such a loop or condition alone, the text has none.

* `Rendering.render` joins the parts of a companion, leaving out the description if it is not wanted.
* `Layout.render`: an unknown value makes a custom layout unusable.
-/

namespace Roster

/-! ## Languages -/

/-- The language of a companion. -/
inductive Language where
  | python
  | java
  | kotlin
  deriving DecidableEq, Repr, Inhabited

namespace Language

/-- The name of a language. -/
def name : Language → String
  | .python => "python"
  | .java => "java"
  | .kotlin => "kotlin"

/-- The ending of a source file. -/
def extension : Language → String
  | .python => ".py"
  | .java => ".java"
  | .kotlin => ".kt"

/-- The names of all languages, sorted. -/
def allNames : List String := ["java", "kotlin", "python"]

/-- A language by its lower-case name. -/
def ofLowerName? : String → Option Language
  | "python" => some .python
  | "java" => some .java
  | "kotlin" => some .kotlin
  | _ => none

/-- A language by its name in any case. -/
def ofName? (name : String) : Option Language := ofLowerName? (Text.lowercase name)

/-- The wording for an unknown name. -/
def unsupported (name : String) : String :=
  "Unsupported language '" ++ Text.lowercase name ++ "' (expected one of: "
    ++ String.intercalate ", " allNames ++ ")"

end Language

namespace Rendering

/-- The first line of every companion. -/
def header : String := "Generated code from fielder. Do not modify!"

/-- A field name or a type name as a literal of the language. -/
def literal : Language → String → String
  | .python => Text.escaped
  | .java => Text.escaped
  | .kotlin => Text.escapedDollar

/-- The lines of a companion: what comes before the fields, the fields, what follows them, the
lines of a debuggable companion only, and the end. -/
structure Parts where
  opening : List String
  fields : List String
  accessor : List String
  debugging : List String
  closing : List String

/-- The parts in one list. -/
def Parts.lines (p : Parts) (debuggable : Bool) : List String :=
  p.opening ++ p.fields ++ p.accessor ++ (if debuggable then p.debugging else []) ++ p.closing

/-! ## The three languages -/

/-- A companion as a class of a module. -/
def pythonParts (a : Artifact) : Parts where
  opening := [
    "# " ++ header,
    "# Source: " ++ a.sourceType,
    "from __future__ import annotations",
    "",
    "from typing import Final, Tuple, final",
    "",
    "__all__ = [\"" ++ a.name ++ "\"]",
    "",
    "",
    "@final",
    "class " ++ a.name ++ ":",
    "    \"\"\"Field names declared on " ++ a.sourceType ++ " and its ancestors.\"\"\"",
    "",
    "    __slots__ = ()",
    "",
    "    FIELDS: Final[Tuple[str, ...]] = ("]
  fields := a.fieldNames.toList.map fun f => "        " ++ literal .python f ++ ","
  accessor := [
    "    )",
    "",
    "    def __init_subclass__(cls, **kwargs: object) -> None:",
    "        raise TypeError(\"" ++ a.name ++ " cannot be subclassed\")",
    "",
    "    @staticmethod",
    "    def fields() -> Tuple[str, ...]:",
    "        return " ++ a.name ++ ".FIELDS"]
  debugging := [
    "",
    "    @classmethod",
    "    def describe(cls) -> str:",
    "        return \"" ++ a.name ++ "(source=%s, fields=[%s])\" % ("
      ++ literal .python a.sourceType ++ ", \", \".join(cls.FIELDS))",
    "",
    "    def __repr__(self) -> str:",
    "        return type(self).describe()"]
  closing := []

/-- Lines with a comma after each but the last. -/
def commaSeparated : List String → List String
  | [] => []
  | [line] => [line]
  | line :: rest => (line ++ ",") :: commaSeparated rest

/-- A companion as a final class that cannot be made. -/
def javaParts (a : Artifact) : Parts where
  opening := [
    "// " ++ header,
    "// Source: " ++ a.sourceType]
    ++ (if a.package ≠ "" then ["package " ++ a.package ++ ";", ""] else [])
    ++ [
    "import java.util.Arrays;",
    "import java.util.Collections;",
    "import java.util.List;",
    "",
    "public final class " ++ a.name ++ " \x7b",
    "",
    "    public static final List<String> FIELDS = "
      ++ "Collections.unmodifiableList(Arrays.<String>asList("]
  fields := commaSeparated (a.fieldNames.toList.map fun f => "            " ++ literal .java f)
  accessor := [
    "    ));",
    "",
    "    private " ++ a.name ++ "() \x7b",
    "        throw new AssertionError(\"No instances.\");",
    "    \x7d",
    "",
    "    public static List<String> fields() \x7b",
    "        return FIELDS;",
    "    \x7d"]
  debugging := [
    "",
    "    public static String describe() \x7b",
    "        return \"" ++ a.name ++ "(source=\" + " ++ literal .java a.sourceType
      ++ " + \", fields=\" + FIELDS + \")\";",
    "    \x7d"]
  closing := ["\x7d"]

/-- A companion as an object. -/
def kotlinParts (a : Artifact) : Parts where
  opening := [
    "// " ++ header,
    "// Source: " ++ a.sourceType]
    ++ (if a.package ≠ "" then ["package " ++ a.package, ""] else [])
    ++ [
    "object " ++ a.name ++ " \x7b",
    "",
    "    @JvmField",
    "    val FIELDS: List<String> = listOf<String>("]
  fields := a.fieldNames.toList.map fun f => "        " ++ literal .kotlin f ++ ","
  accessor := [
    "    )",
    "",
    "    @JvmStatic",
    "    fun fields(): List<String> = FIELDS"]
  debugging := [
    "",
    "    @JvmStatic",
    "    fun describe(): String = \"" ++ a.name ++ "(source=\" + " ++ literal .kotlin a.sourceType
      ++ " + \", fields=\" + FIELDS.joinToString(\", \") + \")\"",
    "",
    "    override fun toString(): String = describe()"]
  closing := ["\x7d"]

/-- The parts of a companion. -/
def parts : Language → Artifact → Parts
  | .python => pythonParts
  | .java => javaParts
  | .kotlin => kotlinParts

/-- Lines as a text, each with an end of line. -/
def joinLines (lines : List String) : String :=
  lines.foldr (fun line text => line ++ "\n" ++ text) ""

/-- The standard rendering of a companion. -/
def render (language : Language) (a : Artifact) : String :=
  joinLines ((parts language a).lines a.debuggable)

end Rendering

/-! ## Custom layouts -/

/-- A piece of a custom layout: plain text, or the name of a value. -/
inductive LayoutPiece where
  | plain (text : String)
  | value (name : String)
  deriving DecidableEq, Repr

/-- How companions are laid out. -/
inductive Layout where
  | standard
  | custom (pieces : List LayoutPiece)
  deriving DecidableEq, Repr

/-- Why a layout cannot be filled. -/
inductive LayoutFault where
  | unknownValue (name : String)
  deriving DecidableEq, Repr

/-- The wording of a layout fault. -/
def LayoutFault.message : LayoutFault → String
  | .unknownValue name => Text.quoted name ++ " is undefined"

namespace Layout

/-- Cuts a text into pieces; `value` tells whether the place is between doubled braces. -/
def cut : (value : Bool) → (before : List Char) → List Char → List LayoutPiece
  | false, before, [] => [.plain (String.ofList before)]
  | true, before, [] => [.plain (String.ofList ('\x7b' :: '\x7b' :: before))]
  | false, before, '\x7b' :: '\x7b' :: rest => .plain (String.ofList before) :: cut true [] rest
  | true, before, '\x7d' :: '\x7d' :: rest =>
    .value (Text.trimmed (String.ofList before)) :: cut false [] rest
  | value, before, c :: rest => cut value (before ++ [c]) rest

/-- A layout from its text, every end of line made a line feed. -/
def ofText (text : String) : Layout := .custom (cut false [] (Text.unifyLineEnds text.toList))

/-- The value of a name in a custom layout. -/
def valueOf? (a : Artifact) : String → Option String
  | "header" => some Rendering.header
  | "name" => some a.name
  | "package" => some a.package
  | "source" => some a.sourceType
  | _ => none

/-- Fills in the values of a companion. -/
def fill (a : Artifact) : List LayoutPiece → Except LayoutFault String
  | [] => .ok ""
  | .plain text :: rest => do .ok (text ++ (← fill a rest))
  | .value name :: rest =>
    match valueOf? a name with
    | some text => do .ok (text ++ (← fill a rest))
    | none => .error (.unknownValue name)

/-- The text of a companion in a layout. -/
def render (layout : Layout) (language : Language) (a : Artifact) : Except LayoutFault String :=
  match layout with
  | .standard => .ok (Rendering.render language a)
  | .custom pieces => fill a pieces

end Layout
end Roster
