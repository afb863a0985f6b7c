import Roster.Proofs.DecimalNumerals
import Roster.Proofs.PairDocuments
import Roster.Proofs.ScannedFiles
import Roster.Proofs.SettingsFile
import Roster.Settings

/-! # Options keep their spelling

An option is given by a line of the settings file or by a pair on the command line. The command line takes
its key and its value as they are written. The settings file tells numbers and days from texts first, and
writes what it has read as a text again: so an option is the same both ways if its key and its value are
what comes of them.

* `optionSpelling?_eq_self_iff`: the values that are written as they were.
* `options_of_lines`: what options come of lines of the settings file.
* `parseOptions_pairs`: what options come of pairs on the command line.
* `options_agree_iff`: when they are the same.
* `options_differ_in_project`: a number and a day for which they are not.
-/

namespace Roster

open Document (Value)

/-! ## What comes of a plain text -/

/-- What is written for the value of an option, read as a plain text. -/
def optionSpelling? (text : String) : Option String :=
  (Document.plainValue false text).toOption.bind fun v =>
    (Settings.optionText? v).bind Except.toOption

/-- What is written for the key of an option; a plain text stands for no collection, so that none has to
be written. -/
def keySpelling? (text : String) : Option String :=
  (Document.plainValue false text).toOption.bind fun k => (k.plainText? 0).toOption

/-- What is written for an option. -/
def pairSpelling? (p : String × String) : Option (String × String) := do
  let key ← keySpelling? p.1
  let value ← optionSpelling? p.2
  some (key, value)

/-- The words for truth values are texts. -/
theorem ofForm_ne_bool (text : String) : Document.Tag.ofForm false text ≠ .bool := by
  unfold Document.Tag.ofForm
  simp only [Bool.false_and, Bool.false_eq_true, if_false]
  repeat' split
  all_goals decide

theorem toOption_eq_some_iff {ε α : Type} {x : Except ε α} {a : α} :
    x.toOption = some a ↔ x = .ok a := by
  cases x <;> simp [Except.toOption]

theorem exists_of_map_eq_ok {ε α β : Type} {x : Except ε α} {f : α → β} {b : β} (h : x.map f = .ok b) :
    ∃ a, x = .ok a ∧ f a = b := by
  cases x with
  | error e => contradiction
  | ok a => exact ⟨a, rfl, Except.ok.inj h⟩

theorem Settings.numberText_eq_ok_iff {n : Int} {text : String} :
    numberText n = .ok text ↔ Text.isWritable n = true ∧ toString n = text := by
  rw [numberText]
  cases Text.isWritable n <;> simp

section Forms

variable {text : String}

theorem optionSpelling?_of_text (h : Document.Tag.ofForm false text = .text) :
    optionSpelling? text = some text := by
  rw [optionSpelling?, Document.plainValue, h]
  rfl

theorem optionSpelling?_of_int (h : Document.Tag.ofForm false text = .int) :
    optionSpelling? text
      = (Document.readInteger text).toOption.bind fun n => (Settings.numberText n).toOption := by
  rw [optionSpelling?, Document.plainValue, h]
  simp only [Document.scalarValue?, Option.getD_some]
  cases Document.readInteger text <;> rfl

theorem optionSpelling?_of_float (h : Document.Tag.ofForm false text = .float) :
    optionSpelling? text = (Document.readFloat text).toOption.map (·.text) := by
  rw [optionSpelling?, Document.plainValue, h]
  simp only [Document.scalarValue?, Option.getD_some]
  cases Document.readFloat text <;> rfl

/-- A timestamp is a day or a moment. -/
theorem value_of_timestamp {v : Value} (h : Document.readTimestamp text = .ok v) :
    (∃ d, v = .date d) ∨ ∃ m, v = .moment m := by
  unfold Document.readTimestamp at h
  split at h
  · contradiction
  · rename_i stamp _
    have hvalue := ok_of_mapError_eq_ok h
    unfold Document.Stamp.value at hvalue
    split at hvalue
    · obtain ⟨d, -, hd⟩ := bind_eq_ok_iff.mp hvalue
      exact .inl ⟨d, (Except.ok.inj hd).symm⟩
    · obtain ⟨zone, -, hvalue⟩ := bind_eq_ok_iff.mp hvalue
      obtain ⟨d, -, hvalue⟩ := bind_eq_ok_iff.mp hvalue
      split_ifs at hvalue
      exact .inr ⟨_, (Except.ok.inj hvalue).symm⟩

/-- Days, moments and the two marks of maps are no values of options. -/
theorem optionSpelling?_of_other (htext : Document.Tag.ofForm false text ≠ .text)
    (hint : Document.Tag.ofForm false text ≠ .int) (hfloat : Document.Tag.ofForm false text ≠ .float) :
    optionSpelling? text = none := by
  have hbool := ofForm_ne_bool text
  rw [optionSpelling?, Document.plainValue]
  cases hform : Document.Tag.ofForm false text with
  | text => exact absurd hform htext
  | int => exact absurd hform hint
  | float => exact absurd hform hfloat
  | bool => exact absurd hform hbool
  | timestamp =>
    simp only [Document.scalarValue?, Option.getD_some]
    cases hread : Document.readTimestamp text with
    | error f => rfl
    | ok v => obtain ⟨d, rfl⟩ | ⟨m, rfl⟩ := value_of_timestamp hread <;> rfl
  | binary =>
    simp only [Document.scalarValue?, Option.getD_some]
    cases Document.readBytes text <;> rfl
  | null | seq | map | set | omap | pairs | merge | value | unknown => rfl

/-- The values that are written as they were: all texts, whole numbers in decimal digits without needless
signs and zeros if there are not too many digits, and other numbers in their shortest form. -/
theorem optionSpelling?_eq_self_iff (text : String) :
    optionSpelling? text = some text ↔
      Document.Tag.ofForm false text = .text ∨
      (Document.Tag.ofForm false text = .int ∧
        ∃ n : Int, Text.isWritable n = true ∧ text = toString n) ∨
      Document.Tag.ofForm false text = .float ∧ ∃ x, Document.readFloat text = .ok x ∧ text = x.text := by
  by_cases htext : Document.Tag.ofForm false text = .text
  · simp [optionSpelling?_of_text htext, htext]
  by_cases hint : Document.Tag.ofForm false text = .int
  · have hread : ((Document.readInteger text).toOption.bind fun n => (Settings.numberText n).toOption)
          = some text ↔ ∃ n : Int, Text.isWritable n = true ∧ text = toString n := by
      constructor
      · intro hsome
        obtain ⟨n, -, hnumber⟩ := Option.bind_eq_some_iff.mp hsome
        obtain ⟨hwritable, htext⟩ := Settings.numberText_eq_ok_iff.mp (toOption_eq_some_iff.mp hnumber)
        exact ⟨n, hwritable, htext.symm⟩
      · rintro ⟨n, hwritable, rfl⟩
        rw [Document.readInteger_toString hwritable]
        exact toOption_eq_some_iff.mpr (Settings.numberText_eq_ok_iff.mpr ⟨hwritable, rfl⟩)
    rw [optionSpelling?_of_int hint, hread]
    simp [hint]
  by_cases hfloat : Document.Tag.ofForm false text = .float
  · rw [optionSpelling?_of_float hfloat]
    cases hread : Document.readFloat text <;> simp [Except.toOption, hfloat, eq_comm (a := text)]
  · simp [optionSpelling?_of_other htext hint hfloat, htext, hint, hfloat]

end Forms

/-! ## Related lists -/

theorem exists_of_forall₂ {α β : Type} {R : α → β → Prop} {as : List α} {bs : List β}
    (h : List.Forall₂ R as bs) {b : β} (hb : b ∈ bs) : ∃ a ∈ as, R a b := by
  induction h with
  | nil => contradiction
  | @cons a _ as _ hab _ ih =>
    rcases List.mem_cons.mp hb with rfl | hmore
    · exact ⟨a, List.mem_cons_self, hab⟩
    · obtain ⟨a', ha', hR⟩ := ih hmore
      exact ⟨a', List.mem_cons_of_mem _ ha', hR⟩

/-- What sets the items of a list apart sets those apart that they are related to. -/
theorem pairwise_of_forall₂ {α β : Type} {R : α → β → Prop} {S : α → α → Prop} {T : β → β → Prop}
    {as : List α} {bs : List β} (h : List.Forall₂ R as bs) (hS : as.Pairwise S)
    (himp : ∀ a b a' b', R a b → R a' b' → S a a' → T b b') : bs.Pairwise T := by
  induction h with
  | nil => exact .nil
  | cons hab hrest ih =>
    obtain ⟨hfirst, hmore⟩ := List.pairwise_cons.mp hS
    refine List.pairwise_cons.mpr ⟨fun b' hb' => ?_, ih hmore⟩
    obtain ⟨a', ha', hR⟩ := exists_of_forall₂ hrest hb'
    exact himp _ _ _ _ hab hR (hfirst a' ha')

theorem mapM_eq_some_iff {α β : Type} {f : α → Option β} {as : List α} {bs : List β} :
    as.mapM f = some bs ↔ List.Forall₂ (fun a b => f a = some b) as bs := by
  induction as generalizing bs with
  | nil => simp [eq_comm]
  | cons a as ih =>
    rw [List.mapM_cons]
    cases hb : f a with
    | none =>
      refine iff_of_false (by simp) fun hall => ?_
      cases hall with
      | cons hhead _ => simp [hb] at hhead
    | some b =>
      cases bs with
      | nil => exact iff_of_false (by cases as.mapM f <;> simp) fun hall => by cases hall
      | cons b' bs =>
        rw [List.forall₂_cons, ← ih, hb]
        cases as.mapM f <;> simp

/-! ## Options of a map -/

/-- The value of a plain text is nothing only if the text is a word for it, and no value is a collection,
so that none refers to another and none needs room. -/
theorem plainValue_eq_ok {text : String} {v : Value} (h : Document.plainValue false text = .ok v) :
    (v = .null → Document.Tag.ofForm false text = .null) ∧
      (∀ outer depth, Value.unroll outer depth v = v) ∧
      ∀ room, v.writeFault? room = v.writeFault? 0 := by
  rw [Document.plainValue] at h
  -- one case for each kind of plain scalar; no scalar holds other values
  cases hform : Document.Tag.ofForm false text with
  | bool => exact absurd hform (ofForm_ne_bool text)
  | null =>
    rw [hform] at h
    obtain rfl := Except.ok.inj h
    exact ⟨fun _ => rfl, fun _ _ => rfl, fun room => by cases room <;> rfl⟩
  | text =>
    rw [hform] at h
    obtain rfl := Except.ok.inj h
    exact ⟨fun heq => by simp at heq, fun _ _ => rfl, fun room => by cases room <;> rfl⟩
  | int | float | binary =>
    rw [hform, Document.scalarValue?, Option.getD_some] at h
    obtain ⟨_, -, rfl⟩ := exists_of_map_eq_ok h
    exact ⟨fun heq => by simp at heq, fun _ _ => rfl, fun room => by cases room <;> rfl⟩
  | timestamp =>
    rw [hform] at h
    obtain ⟨d, rfl⟩ | ⟨m, rfl⟩ := value_of_timestamp h
    · exact ⟨fun heq => by simp at heq, fun _ _ => rfl, fun room => by cases room <;> rfl⟩
    · exact ⟨fun heq => by simp at heq, fun _ _ => rfl, fun room => by cases room <;> rfl⟩
  | seq | map | set | omap | pairs | merge | value | unknown =>
    simp [hform, Document.scalarValue?] at h

/-- The text of an entry of a map of options. -/
def entrySpelling? (nesting : Nat) (e : Value × Value) : Option (String × String) := do
  let value ← (Settings.optionText? e.2).bind Except.toOption
  let key ← (e.1.plainText? nesting).toOption
  some (key, value)

/-- The options of entries that have a value each: all of them have to have a text. -/
theorem optionsOf_eq {es : List (Value × Value)} (h : ∀ e ∈ es, e.2 ≠ .null) (nesting : Nat)
    (options : OrderedMap String String) :
    (Settings.optionsOf nesting options es).toOption
      = (es.mapM (entrySpelling? nesting)).map fun read =>
          read.foldl (fun m e => m.insert e.1 e.2) options := by
  induction es generalizing options with
  | nil => rfl
  | cons e es ih =>
    obtain ⟨key, v⟩ := e
    obtain ⟨hv, hes⟩ := List.forall_mem_cons.mp h
    rw [Settings.optionsOf, List.mapM_cons, entrySpelling?]
    · rcases hvalue : Settings.optionText? v with _ | (fault | value)
      · cases hkey : key.plainText? nesting <;> rfl
      · rfl
      · cases hkey : key.plainText? nesting with
        | error fault => rfl
        | ok name =>
          change (Settings.optionsOf nesting (options.insert name value) es).toOption = _
          rw [ih hes]
          cases es.mapM (entrySpelling? nesting) <;> rfl
    · exact hv

/-- The options of a settings file that has nothing else. -/
theorem options_ofValue {nesting : Nat} {root : Path} {es : List (Value × Value)}
    (h : ∀ e ∈ es, ∀ outer depth, Value.unroll outer depth e.2 = e.2) :
    (Settings.ofValue nesting root (.map [(.text "options", .map es)])).toOption.map (·.options)
      = (Settings.optionsOf nesting OrderedMap.empty es).toOption := by
  have hunroll : ∀ outer depth, Value.unrollEntries outer depth es = es := by
    intro outer depth
    induction es with
    | nil => rfl
    | cons e es ih =>
      obtain ⟨he, hes⟩ := List.forall_mem_cons.mp h
      rw [Value.unrollEntries, he, ih hes]
  have hfield : ∀ name : String, (Value.map [(.text "options", .map es)]).field? name
      = if "options" = name then some (.map es) else none := by
    intro name
    simp only [Value.field?, Value.entries?, Value.unrollEntries, Value.unroll, hunroll, Option.bind_some,
      Value.lookup, Value.sameKey, decide_eq_true_eq]
  have hentries : (Value.map es).entries? = some es := by rw [Value.entries?, hunroll]
  rw [Settings.ofValue]
  simp only [hfield, String.reduceEq, if_false, if_true, Settings.textList, Settings.nonemptyText,
    Option.bind_none, Option.map_none, Settings.workerCount, Settings.optionMap, hentries, bind,
    Except.bind]
  cases Settings.optionsOf nesting OrderedMap.empty es <;> rfl

/-! ## Lines of the settings file -/

/-- A line for an option: the command line could give its key, and its value is no word for nothing. -/
structure IsOptionLine (p : String × String) : Prop extends Document.IsPairLine p where
  unparted : '=' ∉ p.1.toList
  trimmed : Text.trimmed p.1 = p.1
  given : Document.Tag.ofForm false p.2 ≠ .null

/-- Two options are told apart, as they are written and as they are read. -/
def KeysDiffer (p q : String × String) : Prop :=
  p.1 ≠ q.1 ∧ ∀ k l, Document.plainValue false p.1 = .ok k → Document.plainValue false q.1 = .ok l →
    Value.sameKey k l = false ∧ k.plainText ≠ l.plainText

theorem mem_of_ofForm_value {text : String} (h : Document.Tag.ofForm false text = .value) :
    '=' ∈ text.toList := by
  have hword : String.ofList (Document.withoutFinalBreak text.toList) = "=" := by
    unfold Document.Tag.ofForm at h
    simp only [Bool.false_and, Bool.false_eq_true, if_false] at h
    split_ifs at h
    assumption
  have hlist : Document.withoutFinalBreak text.toList = ['='] := by
    rw [← String.toList_ofList (l := Document.withoutFinalBreak text.toList), hword]
    rfl
  unfold Document.withoutFinalBreak at hlist
  split at hlist
  · exact List.mem_of_mem_dropLast (hlist ▸ List.mem_singleton_self _)
  · exact hlist ▸ List.mem_singleton_self _

theorem isHeading_options : Document.IsHeading "options" where
  key := .of_isWord (by decide) (by decide)
  short := by decide
  front := by simp

/-- The entries of pairs are those whose values have texts. -/
theorem mapM_entrySpelling? (nesting : Nat) (pairs : List (String × String)) :
    (Document.plainPairs false pairs).toOption.bind (fun es => es.mapM (entrySpelling? nesting))
      = pairs.mapM pairSpelling? := by
  induction pairs with
  | nil => rfl
  | cons p pairs ih =>
    rw [List.mapM_cons, ← ih, Document.plainPairs, pairSpelling?, keySpelling?, optionSpelling?]
    cases hk : Document.plainValue false p.1 with
    | error f => rfl
    | ok k =>
      have hroom : k.plainText? 0 = k.plainText? nesting := by
        rw [Value.plainText?, Value.plainText?, (plainValue_eq_ok hk).2.2 nesting]
      have hok : ∀ {α : Type} (a : α), (Except.ok a : Except Document.Fault α).toOption = some a :=
        fun _ => rfl
      have herror : ∀ {α : Type} (f : Document.Fault),
        (Except.error f : Except Document.Fault α).toOption = none := fun _ => rfl
      cases Document.plainValue false p.2 with
      | error f => cases hkey : (k.plainText? 0).toOption <;> simp [bind, Except.bind, hok, herror, hkey]
      | ok v =>
        cases hkey : (k.plainText? nesting).toOption <;>
          cases hv : (Settings.optionText? v).bind Except.toOption <;>
          cases Document.plainPairs false pairs <;>
          simp [bind, Except.bind, hok, herror, hroom, hkey, hv, List.mapM_cons, entrySpelling?]

theorem forall₂_plainPairs {pairs : List (String × String)} {es : List (Value × Value)}
    (h : Document.plainPairs false pairs = .ok es) :
    List.Forall₂ (fun p e => Document.plainValue false p.1 = .ok e.1 ∧
      Document.plainValue false p.2 = .ok e.2) pairs es := by
  induction pairs generalizing es with
  | nil =>
    obtain rfl := Except.ok.inj h
    exact .nil
  | cons p pairs ih =>
    obtain ⟨k, hk, h⟩ := bind_eq_ok_iff.mp h
    obtain ⟨v, hv, h⟩ := bind_eq_ok_iff.mp h
    obtain ⟨more, hmore, h⟩ := bind_eq_ok_iff.mp h
    obtain rfl := Except.ok.inj h
    exact .cons ⟨hk, hv⟩ (ih hmore)

/-! ## The options of a project -/

variable {t : FileTree} {path file : Path} {width : Nat} {pairs : List (String × String)}

/-- The settings file holds the lines as a text. -/
theorem readText_lines (hread : t.read file = .ok (Document.headedPairs "options" width pairs).toUTF8)
    (hlines : ∀ p ∈ pairs, IsOptionLine p) :
    t.readText file = .ok (Document.headedPairs "options" width pairs) := by
  have hreturn : '\r' ∉ (Document.headedPairs "options" width pairs).toList := by
    rw [Document.headedPairs, String.toList_ofList, List.mem_append, List.mem_cons, List.mem_cons,
      List.mem_flatMap]
    rintro (hhead | hcolon | hfeed | ⟨p, hp, hline⟩)
    · exact absurd hhead (by decide)
    · exact absurd hcolon (by decide)
    · exact absurd hfeed (by decide)
    · exact Document.notMem_pairLine (hlines p hp).toIsPairLine hline
  rw [FileTree.readText, hread]
  simp only [Text.decodeUtf8_toUTF8, Text.unifyLineEnds_of_notMem hreturn, String.ofList_toList]

/-- The settings come of what the file holds, if that is a map. -/
theorem loadSettings_of_map {α : Type} {text : String} {read : Option α}
    {entries : α → List (Value × Value)}
    (hfile : settingsPath t path = .ok file) (htext : t.readText file = .ok text)
    (htaken : t.limits.documents text = none) (hfilled : Text.trimmed text ≠ "")
    (hdocument : (Document.readText false text).toOption = read.map fun a => .map (entries a)) :
    (loadSettings t path).toOption
      = read.bind fun a =>
          (Settings.ofValue t.limits.nesting file.parent (.map (entries a))).toOption := by
  have hthere : t.exists? file = .ok true := FileTree.exists?_of_readText htext
  rw [loadSettings, hfile]
  simp only [hthere, Except.mapError, bind, Except.bind, if_true, readSettingsFile, htext, hfilled,
    if_false,
    FileTree.readDocument, htaken]
  cases hread : Document.readText false text with
  | error f =>
    rw [hread] at hdocument
    cases read with
    | none => rfl
    | some a => simp [Except.toOption] at hdocument
  | ok v =>
    rw [hread] at hdocument
    cases read with
    | none => simp [Except.toOption] at hdocument
    | some a =>
      obtain rfl := Option.some.inj hdocument
      rfl

/-- What options come of lines in the settings file: those of the pairs, as they are written after they
have been read. If one of them has no text, there are no settings. -/
theorem options_of_lines (hfile : settingsPath t path = .ok file)
    (hread : t.read file = .ok (Document.headedPairs "options" width pairs).toUTF8)
    (htaken : t.limits.documents (Document.headedPairs "options" width pairs) = none)
    (hwidth : 0 < width) (hne : pairs ≠ []) (hlines : ∀ p ∈ pairs, IsOptionLine p)
    (hdiffer : pairs.Pairwise KeysDiffer) :
    (loadSettings t path).toOption.map (·.options) = (pairs.mapM pairSpelling?).map OrderedMap.ofList := by
  have htext := readText_lines hread hlines
  have hfilled : Text.trimmed (Document.headedPairs "options" width pairs) ≠ "" := by
    rw [Ne, Text.trimmed_eq_empty_iff]
    intro hblank
    have hletter := hblank 'o' (by simp [Document.headedPairs])
    exact absurd hletter (by decide)
  have hkeys : ∀ p ∈ pairs, Document.Tag.ofForm false p.1 ≠ .value := by
    -- the one text of this form is an equal sign
    intro p hp hvalue
    exact (hlines p hp).unparted (mem_of_ofForm_value hvalue)
  have hdistinct : ∀ es, Document.plainPairs false pairs = .ok es →
      es.Pairwise fun a b => Value.sameKey a.1 b.1 = false := by
    intro es hes
    refine pairwise_of_forall₂ (forall₂_plainPairs hes) hdiffer fun p a q b hp hq hpq => ?_
    exact (hpq.2 a.1 b.1 hp.1 hq.1).1
  have hdocument := Document.readText_headedPairs isHeading_options (by decide) hwidth hne
    (fun p hp => (hlines p hp).toIsPairLine) hkeys hdistinct
  have hloaded : (loadSettings t path).toOption.map (·.options)
      = (Document.plainPairs false pairs).toOption.bind fun es =>
          (Settings.optionsOf t.limits.nesting OrderedMap.empty es).toOption := by
    rw [loadSettings_of_map hfile htext htaken hfilled hdocument]
    cases hpairs : Document.plainPairs false pairs with
    | error f => rfl
    | ok es =>
      refine options_ofValue fun e he => ?_
      obtain ⟨p, -, -, hv⟩ := exists_of_forall₂ (forall₂_plainPairs hpairs) he
      exact (plainValue_eq_ok hv).2.1
  rw [hloaded, ← mapM_entrySpelling? t.limits.nesting]
  cases hpairs : Document.plainPairs false pairs with
  | error f => rfl
  | ok es =>
    have hfull : ∀ e ∈ es, e.2 ≠ .null := by
      intro e he hnull
      obtain ⟨p, hp, -, hv⟩ := exists_of_forall₂ (forall₂_plainPairs hpairs) he
      exact (hlines p hp).given ((plainValue_eq_ok hv).1 hnull)
    exact optionsOf_eq hfull t.limits.nesting OrderedMap.empty

/-- Pairs on the command line are options as they are written. -/
theorem parseOptions_pairs (hlines : ∀ p ∈ pairs, IsOptionLine p) :
    parseOptions (pairs.map fun p => p.1 ++ "=" ++ p.2) = .ok (OrderedMap.ofList pairs) := by
  have hadd : ∀ options, addOptions options (pairs.map fun p => p.1 ++ "=" ++ p.2)
      = .ok (pairs.foldl (fun m e => m.insert e.1 e.2) options) := by
    induction pairs with
    | nil => exact fun _ => rfl
    | cons p pairs ih =>
      intro options
      obtain ⟨hp, hpairs⟩ := List.forall_mem_cons.mp hlines
      have hsplit : splitPair (p.1 ++ "=" ++ p.2) = (p.1, some p.2) := by
        have hkey : (p.1 ++ "=" ++ p.2).toList.takeWhile (· ≠ '=') = p.1.toList := by
          rw [String.toList_append, String.toList_append, List.append_assoc,
            List.takeWhile_append_of_pos]
          · simp
          · intro c hc
            refine decide_eq_true ?_
            rintro rfl
            exact hp.unparted hc
        have hrest : (p.1 ++ "=" ++ p.2).toList.drop p.1.toList.length = '=' :: p.2.toList := by simp
        simp only [splitPair, hkey, hrest, String.ofList_toList]
      rw [List.map_cons, addOptions, hsplit]
      simp only [hp.trimmed, hp.key.nonempty, if_false, Option.getD_some, ih hpairs, List.foldl_cons]
  exact hadd OrderedMap.empty

theorem pairSpelling?_eq_some_iff {p q : String × String} :
    pairSpelling? p = some q ↔ keySpelling? p.1 = some q.1 ∧ optionSpelling? p.2 = some q.2 := by
  obtain ⟨key, value⟩ := q
  rw [pairSpelling?]
  cases keySpelling? p.1 <;> cases optionSpelling? p.2 <;> simp

theorem plainText?_eq_ok_iff {room : Nat} {v : Value} {text : String} :
    v.plainText? room = .ok text ↔ v.writeFault? room = none ∧ v.plainText = text := by
  rw [Value.plainText?]
  cases v.writeFault? room <;> simp

/-- Keys that are told apart are so as they are written afterwards. -/
theorem nodup_of_mapM {read : List (String × String)} (hdiffer : pairs.Pairwise KeysDiffer)
    (h : pairs.mapM pairSpelling? = some read) : (read.map (·.1)).Nodup := by
  refine List.pairwise_map.mpr (pairwise_of_forall₂ (mapM_eq_some_iff.mp h) hdiffer
    fun p p' q q' hp hq hpq => ?_)
  obtain ⟨k, hk, hkey⟩ := Option.bind_eq_some_iff.mp (pairSpelling?_eq_some_iff.mp hp).1
  obtain ⟨l, hl, hkey'⟩ := Option.bind_eq_some_iff.mp (pairSpelling?_eq_some_iff.mp hq).1
  rw [← (plainText?_eq_ok_iff.mp (toOption_eq_some_iff.mp hkey)).2,
    ← (plainText?_eq_ok_iff.mp (toOption_eq_some_iff.mp hkey')).2]
  exact (hpq.2 k l (toOption_eq_some_iff.mp hk) (toOption_eq_some_iff.mp hl)).2

/-- The options of pairs on the command line are the pairs as they are written. Those of the same lines in
the settings file are what comes of reading the keys and the values: they are the same if and only if each
key stays as it is and each value is a text, a whole number in decimal digits without needless signs and
zeros that does not have too many digits, or another number in its shortest form. -/
theorem options_agree_iff (hfile : settingsPath t path = .ok file)
    (hread : t.read file = .ok (Document.headedPairs "options" width pairs).toUTF8)
    (htaken : t.limits.documents (Document.headedPairs "options" width pairs) = none)
    (hwidth : 0 < width) (hne : pairs ≠ []) (hlines : ∀ p ∈ pairs, IsOptionLine p)
    (hdiffer : pairs.Pairwise KeysDiffer) :
    parseOptions (pairs.map fun p => p.1 ++ "=" ++ p.2) = .ok (OrderedMap.ofList pairs) ∧
      (loadSettings t path).toOption.map (·.options) = (pairs.mapM pairSpelling?).map OrderedMap.ofList ∧
      ((loadSettings t path).toOption.map (·.options)
          = (parseOptions (pairs.map fun p => p.1 ++ "=" ++ p.2)).toOption ↔
        ∀ p ∈ pairs, keySpelling? p.1 = some p.1 ∧
          (Document.Tag.ofForm false p.2 = .text ∨
            (Document.Tag.ofForm false p.2 = .int ∧
              ∃ n : Int, Text.isWritable n = true ∧ p.2 = toString n) ∨
            Document.Tag.ofForm false p.2 = .float ∧
              ∃ x, Document.readFloat p.2 = .ok x ∧ p.2 = x.text)) := by
  have hloaded := options_of_lines hfile hread htaken hwidth hne hlines hdiffer
  have hparsed := parseOptions_pairs hlines
  have hkeys : (pairs.map (·.1)).Nodup := List.pairwise_map.mpr (hdiffer.imp fun h => h.1)
  have hsame : (pairs.mapM pairSpelling?).map OrderedMap.ofList = some (OrderedMap.ofList pairs) ↔
      pairs.mapM pairSpelling? = some pairs := by
    constructor
    · -- the keys differ before and after the reading, so the maps have the same entries
      intro h
      obtain ⟨read, hread, hmaps⟩ := Option.map_eq_some_iff.mp h
      have hentries := congrArg OrderedMap.entries hmaps
      rw [OrderedMap.entries_ofList (nodup_of_mapM hdiffer hread),
        OrderedMap.entries_ofList hkeys] at hentries
      rw [hread, hentries]
    · intro h
      rw [h, Option.map_some]
  refine ⟨hparsed, hloaded, ?_⟩
  rw [hloaded, hparsed]
  refine hsame.trans (mapM_eq_some_iff.trans (List.forall₂_same.trans (forall₂_congr fun p _ => ?_)))
  rw [pairSpelling?_eq_some_iff, optionSpelling?_eq_self_iff]

/-- A project whose settings are lines for options. -/
def optionProject (pairs : List (String × String)) : FileTree where
  entries := [(["p"], .directory),
    (["p", ".fielder.yml"], .file (Document.headedPairs "options" 2 pairs).toUTF8)]
  current := ["p"]
  home := []

theorem settingsPath_optionProject (pairs : List (String × String)) :
    settingsPath (optionProject pairs) (Path.parse "/p") = .ok ⟨.slash, ["p", ".fielder.yml"]⟩ := by
  rfl

theorem read_optionProject (pairs : List (String × String)) :
    (optionProject pairs).read ⟨.slash, ["p", ".fielder.yml"]⟩
      = .ok (Document.headedPairs "options" 2 pairs).toUTF8 := by
  rfl

theorem IsOptionLine.of_words {p : String × String}
    (hkey : p.1 ≠ "" ∧ Document.isWord ':' p.1 = true ∧ p.1.toList.length ≤ 1024)
    (hvalue : p.2 ≠ "" ∧ Document.isWord '\n' p.2 = true)
    (hpair : '=' ∉ p.1.toList ∧ Text.trimmed p.1 = p.1 ∧ Document.Tag.ofForm false p.2 ≠ .null) :
    IsOptionLine p where
  key := .of_isWord hkey.1 hkey.2.1
  short := hkey.2.2
  value := .of_isWord hvalue.1 hvalue.2
  unparted := hpair.1
  trimmed := hpair.2.1
  given := hpair.2.2

/-- A word and a whole number are the same both ways. -/
theorem options_agree_in_project :
    let pairs := [("strict", "no"), ("port", "8080")]
    (∀ p ∈ pairs, IsOptionLine p) ∧ pairs.Pairwise KeysDiffer ∧
      (loadSettings (optionProject pairs) (Path.parse "/p")).toOption.map (·.options)
        = (parseOptions ["strict=no", "port=8080"]).toOption := by
  intro pairs
  have hlines : ∀ p ∈ pairs, IsOptionLine p := by
    refine List.forall_mem_cons.mpr ⟨?strict, List.forall_mem_singleton.mpr ?port⟩
    case strict => exact .of_words (by decide) (by decide) (by decide)
    case port => exact .of_words (by decide) (by decide) (by decide)
  have hdiffer : pairs.Pairwise KeysDiffer := by
    refine List.pairwise_pair.mpr ⟨by decide, fun k l hk hl => ?_⟩
    obtain rfl : Value.text "strict" = k := Except.ok.inj hk
    obtain rfl : Value.text "port" = l := Except.ok.inj hl
    decide
  obtain ⟨-, -, hagree⟩ := options_agree_iff (settingsPath_optionProject pairs) (read_optionProject pairs)
    rfl (by decide) (by decide) hlines hdiffer
  refine ⟨hlines, hdiffer,
    hagree.mpr (List.forall_mem_cons.mpr ⟨?strict, List.forall_mem_singleton.mpr ?port⟩)⟩
  case strict => exact ⟨by decide, .inl (by decide)⟩
  case port => exact ⟨by decide, .inr (.inl ⟨by decide, 8080, by decide, by decide⟩)⟩

/-- The options of a project with one line. -/
theorem options_of_line {p : String × String} (hline : IsOptionLine p) :
    (loadSettings (optionProject [p]) (Path.parse "/p")).toOption.map (·.options)
      = (pairSpelling? p).map fun q => OrderedMap.ofList [q] := by
  rw [options_of_lines (settingsPath_optionProject [p]) (read_optionProject [p]) rfl (by decide)
    (List.cons_ne_nil _ _) (List.forall_mem_singleton.mpr hline) (List.pairwise_singleton ..),
    List.mapM_cons]
  cases pairSpelling? p <;> rfl

/-- A number in other digits is not written as it was, and a day is no value of an option. The command line
takes both. -/
theorem options_differ_in_project :
    (IsOptionLine ("port", "0x10") ∧
      (loadSettings (optionProject [("port", "0x10")]) (Path.parse "/p")).toOption.map (·.options.entries)
        = some [("port", "16")] ∧
      (parseOptions ["port=0x10"]).toOption.map (·.entries) = some [("port", "0x10")]) ∧
    IsOptionLine ("day", "2001-02-03") ∧
      (loadSettings (optionProject [("day", "2001-02-03")]) (Path.parse "/p")).toOption.map (·.options.entries)
        = none ∧
      (parseOptions ["day=2001-02-03"]).toOption.map (·.entries) = some [("day", "2001-02-03")] := by
  have hport : IsOptionLine ("port", "0x10") := .of_words (by decide) (by decide) (by decide)
  have hday : IsOptionLine ("day", "2001-02-03") := .of_words (by decide) (by decide) (by decide)
  have hloaded := congrArg (Option.map OrderedMap.entries) (options_of_line hport)
  have hrejected := congrArg (Option.map OrderedMap.entries) (options_of_line hday)
  rw [Option.map_map] at hloaded hrejected
  exact ⟨⟨hport, hloaded.trans (by decide), by decide⟩, hday, hrejected.trans (by decide), by decide⟩

end Roster
