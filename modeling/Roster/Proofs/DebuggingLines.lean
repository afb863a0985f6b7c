import Mathlib.Data.List.Basic
import Roster.Document.Value
import Roster.Proofs.EscapedText
import Roster.Proofs.Splitting
import Roster.Rendering

/-! # The lines of a debuggable companion only

Whether a companion is debuggable shows in one place of its text: some lines between the accessor of
its names and the end. Two renderings of a companion that differ in the flag are the same before these
lines and after them, whatever values the flags are, as long as one counts as true and the other not.

* `splitText_joinLines`: the lines of a text that is made of lines.
* `splitText_render`: the lines of a companion, part by part.
* `lines_of_flagged`: a companion with any flag, cut into lines.
-/

namespace Roster

open Document (Value)

/-! ## Lines -/

/-- The lines that texts have one after the other. -/
def cutLines (texts : List String) : List String := texts.flatMap (splitText '\n')

theorem cutLines_append (texts more : List String) :
    cutLines (texts ++ more) = cutLines texts ++ cutLines more := List.flatMap_append

theorem cutLines_of_notMem {texts : List String} (h : ∀ s ∈ texts, '\n' ∉ s.toList) :
    cutLines texts = texts := by
  induction texts with
  | nil => rfl
  | cons s texts ih =>
    rw [List.forall_mem_cons] at h
    rw [cutLines, List.flatMap_cons, splitText_of_notMem h.1, ← cutLines, ih h.2]
    rfl

/-- Behind the last line feed there is an empty line. -/
theorem splitText_joinLines (texts : List String) :
    splitText '\n' (Rendering.joinLines texts) = cutLines texts ++ [""] := by
  induction texts with
  | nil => decide
  | cons s texts ih =>
    have hfeed : ("\n" : String) = String.singleton '\n' := rfl
    rw [Rendering.joinLines, List.foldr_cons, ← Rendering.joinLines, hfeed, splitText_append, ih,
      ← List.append_assoc]
    rfl

/-- A companion's lines are those of its parts, one part after the other. -/
theorem splitText_render (language : Language) (a : Artifact) :
    splitText '\n' (Rendering.render language a)
      = cutLines (Rendering.parts language a).opening
        ++ cutLines (Rendering.parts language a).fields
        ++ cutLines (Rendering.parts language a).accessor
        ++ cutLines (if a.debuggable then (Rendering.parts language a).debugging else [])
        ++ (cutLines (Rendering.parts language a).closing ++ [""]) := by
  rw [Rendering.render, splitText_joinLines, Rendering.Parts.lines]
  simp only [cutLines_append, List.append_assoc]

/-! ## What the parts say -/

/-- What a comment on one line starts with. -/
def commentMark : Language → String
  | .python => "# "
  | .java | .kotlin => "// "

/-- The line that opens the listing of the names. -/
def listingOpener : Language → String
  | .python => "    FIELDS: Final[Tuple[str, ...]] = ("
  | .java => "    public static final List<String> FIELDS = "
      ++ "Collections.unmodifiableList(Arrays.<String>asList("
  | .kotlin => "    val FIELDS: List<String> = listOf<String>("

/-- How far the names of a listing are indented. -/
def listingMargin : Language → String
  | .python | .kotlin => "        "
  | .java => "            "

/-- What stands behind a name of a listing, `more` telling whether another one follows. -/
def listingComma : Language → (more : Bool) → String
  | .python, _ | .kotlin, _ => ","
  | .java, more => if more then "," else ""

/-- The listing of names: each as a literal on a line of its own. -/
def listedLines (language : Language) : List String → List String
  | [] => []
  | name :: rest =>
    (listingMargin language ++ Rendering.literal language name
      ++ listingComma language (!rest.isEmpty)) :: listedLines language rest

/-- The lines of the accessor, for a companion of the given name. -/
def accessorLines (name : String) : Language → List String
  | .python => [
      "    @staticmethod",
      "    def fields() -> Tuple[str, ...]:",
      "        return " ++ name ++ ".FIELDS"]
  | .java => [
      "    public static List<String> fields() \x7b",
      "        return FIELDS;",
      "    \x7d"]
  | .kotlin => [
      "    @JvmStatic",
      "    fun fields(): List<String> = FIELDS"]

theorem listedLines_eq_map {language : Language} {comma : String}
    (h : ∀ more, listingComma language more = comma) (names : List String) :
    listedLines language names
      = names.map fun name => listingMargin language ++ Rendering.literal language name ++ comma := by
  induction names with
  | nil => rfl
  | cons name names ih => rw [listedLines, List.map_cons, ih, h]

theorem listedLines_java (names : List String) :
    listedLines .java names
      = Rendering.commaSeparated (names.map fun name =>
          "            " ++ Rendering.literal .java name) := by
  induction names with
  | nil => rfl
  | cons name names ih =>
    cases names with
    | nil => simp [listedLines, listingMargin, listingComma, Rendering.commaSeparated]
    | cons next names =>
      rw [listedLines, ih]
      rfl

theorem fields_eq_listedLines (language : Language) (a : Artifact) :
    (Rendering.parts language a).fields = listedLines language a.fieldNames.toList := by
  cases language with
  | python =>
    have hcomma : ∀ more, listingComma .python more = "," := fun _ => rfl
    exact (listedLines_eq_map hcomma _).symm
  | java => exact (listedLines_java _).symm
  | kotlin =>
    have hcomma : ∀ more, listingComma .kotlin more = "," := fun _ => rfl
    exact (listedLines_eq_map hcomma _).symm

/-! ## Literals stay on their lines -/

theorem newline_notMem_literal (language : Language) (s : String) :
    '\n' ∉ (Rendering.literal language s).toList := by
  have hescaped : '\n' ∉ Text.escapedChars s.toList := Text.notMem_escapedChars (by decide) _
  cases language with
  | python | java => rwa [Rendering.literal, Text.escaped, String.toList_ofList]
  | kotlin =>
    rw [Rendering.literal, Text.escapedDollar, String.toList_ofList, Text.guardDollars,
      List.mem_flatMap]
    rintro ⟨c, hc, hnewline⟩
    split at hnewline
    · simp at hnewline
    · obtain rfl := List.mem_singleton.mp hnewline
      exact hescaped hc

theorem cutLines_listedLines (language : Language) (names : List String) :
    cutLines (listedLines language names) = listedLines language names := by
  have hmargin : '\n' ∉ (listingMargin language).toList := by cases language <;> decide
  have hcomma : ∀ more, '\n' ∉ (listingComma language more).toList := by
    cases language <;> decide
  induction names with
  | nil => rfl
  | cons name names ih =>
    have hline : '\n' ∉ (listingMargin language ++ Rendering.literal language name
        ++ listingComma language (!names.isEmpty)).toList := by
      rw [String.toList_append, String.toList_append, List.mem_append, List.mem_append]
      rintro ((h | h) | h)
      · exact hmargin h
      · exact newline_notMem_literal language name h
      · exact hcomma _ h
    rw [listedLines, cutLines, List.flatMap_cons, splitText_of_notMem hline, ← cutLines, ih]
    rfl

/-! ## Two renderings of one companion -/

/-- The lines that name the package; one language has it in the path only. -/
def packageLines (package : String) : Language → List String
  | .python => []
  | .java => if package ≠ "" then ["package " ++ package ++ ";"] else []
  | .kotlin => if package ≠ "" then ["package " ++ package] else []

/-- The lines above the names: the header, the package, and the start of the listing at the end. -/
theorem opening_eq (language : Language) (a : Artifact) :
    ∃ front back, (Rendering.parts language a).opening
      = [commentMark language ++ Rendering.header] ++ front ++ packageLines a.package language
        ++ back ++ [listingOpener language] := by
  cases language with
  | python => exact ⟨((Rendering.pythonParts a).opening.drop 1).dropLast, [], rfl⟩
  | java =>
    refine ⟨["// Source: " ++ a.sourceType], (if a.package ≠ "" then [""] else [])
      ++ ["import java.util.Arrays;", "import java.util.Collections;", "import java.util.List;", "",
        "public final class " ++ a.name ++ " \x7b", ""], ?_⟩
    rw [Rendering.parts, Rendering.javaParts, packageLines]
    split <;> rfl
  | kotlin =>
    refine ⟨["// Source: " ++ a.sourceType], (if a.package ≠ "" then [""] else [])
      ++ ["object " ++ a.name ++ " \x7b", "", "    @JvmField"], ?_⟩
    rw [Rendering.parts, Rendering.kotlinParts, packageLines]
    split <;> rfl

/-- The lines below the names end with the accessor. -/
theorem accessor_eq (language : Language) (a : Artifact) :
    ∃ middle, (Rendering.parts language a).accessor = middle ++ accessorLines a.name language := by
  cases language with
  | python => exact ⟨(Rendering.pythonParts a).accessor.take 5, rfl⟩
  | java => exact ⟨(Rendering.javaParts a).accessor.take 6, rfl⟩
  | kotlin => exact ⟨(Rendering.kotlinParts a).accessor.take 2, rfl⟩

/-- A companion whose flag is any value, which counts as a condition. -/
def Artifact.flagged (a : Artifact) (flag : Value) : Artifact := { a with debuggable := flag.truthy }

/-- The lines of a companion under any flag. Above the names there are the header and the package;
then come all names in their order, each as a literal on a line of its own, and further below the
accessor. All of this is there whatever the flag is, and so are the lines at the end. If the flag
counts as true, there is one block of lines more between the two, the same one for all such flags. -/
theorem lines_of_flagged (language : Language) (a : Artifact) :
    ∃ heading middle block closing : List String,
      heading.head? = some (commentMark language ++ Rendering.header) ∧
      cutLines (packageLines a.package language) <:+: heading ∧
      heading.getLast? = some (listingOpener language) ∧
      block ≠ [] ∧
      ∀ flag : Value,
        splitText '\n' (Rendering.render language (a.flagged flag))
          = heading ++ listedLines language a.fieldNames.toList ++ middle
            ++ cutLines (accessorLines a.name language)
            ++ (if flag.truthy then block else []) ++ closing := by
  obtain ⟨front, back, hopening⟩ := opening_eq language a
  obtain ⟨middle, haccessor⟩ := accessor_eq language a
  have hheader : cutLines [commentMark language ++ Rendering.header]
      = [commentMark language ++ Rendering.header] := by
    apply cutLines_of_notMem
    cases language <;> decide
  have hopener : cutLines [listingOpener language] = [listingOpener language] := by
    apply cutLines_of_notMem
    cases language <;> decide
  have hheading : cutLines (Rendering.parts language a).opening
      = [commentMark language ++ Rendering.header] ++ cutLines front
        ++ cutLines (packageLines a.package language) ++ cutLines back
        ++ [listingOpener language] := by
    rw [hopening, cutLines_append, cutLines_append, cutLines_append, cutLines_append, hheader, hopener]
  have hblock : cutLines (Rendering.parts language a).debugging ≠ [] := by
    have hempty : "" ∈ (Rendering.parts language a).debugging := by
      cases language <;> exact List.mem_cons_self
    exact List.ne_nil_of_mem (List.mem_flatMap.mpr ⟨"", hempty, List.mem_cons_self⟩)
  refine ⟨cutLines (Rendering.parts language a).opening, cutLines middle,
    cutLines (Rendering.parts language a).debugging,
    cutLines (Rendering.parts language a).closing ++ [""], ?_, ?_, ?_, hblock, ?_⟩
  · rw [hheading]
    rfl
  · rw [hheading]
    exact ⟨_, _, (List.append_assoc _ _ _).symm⟩
  · rw [hheading, List.getLast?_concat]
  · intro flag
    have hparts : Rendering.parts language (a.flagged flag) = Rendering.parts language a := by
      cases language <;> rfl
    rw [splitText_render, hparts, fields_eq_listedLines, cutLines_listedLines, haccessor,
      cutLines_append, Artifact.flagged]
    cases flag.truthy <;> simp [cutLines]

end Roster
