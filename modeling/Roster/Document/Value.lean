import Roster.Decimal.Shortest
import Roster.Document.Fault

/-! # Document values

What a settings file or a manifest holds once it is read: nothing, truth values, numbers, texts,
bytes, dates, lists, maps, sets and pairs. A value may contain itself; then `loop` points back to
an enclosing list or map, counted from the inside.

* `Value.items?` and `Value.entries?` open a list or a map, its loops unrolled once.
* `Value.shown` and `Value.plainText` are the value as a text, quoted or plain; `Value.shown?` and
  `Value.plainText?` are so as far as the machine can write it.
-/

namespace Roster.Document

/-- A day of the calendar. -/
structure Date where
  year : Nat
  month : Nat
  day : Nat
  deriving DecidableEq, Repr, Inhabited

/-- A day and a time of day, with the zone's distance from universal time in minutes. -/
structure Moment where
  date : Date
  hour : Nat
  minute : Nat
  second : Nat
  microsecond : Nat
  zone : Option Int
  deriving DecidableEq, Repr, Inhabited

/-- A value. -/
inductive Value where
  | null
  | bool (b : Bool)
  | int (n : Int)
  | float (x : Decimal.Binary64)
  | text (s : String)
  | bytes (bs : List UInt8)
  | date (d : Date)
  | moment (m : Moment)
  | seq (items : List Value)
  | map (entries : List (Value × Value))
  | set (members : List Value)
  | pair (first second : Value)
  | loop (depth : Nat)
  deriving Repr, Inhabited

/-! ## Dates as texts -/

/-- A number with zeros in front up to `width` digits. -/
def padded (width n : Nat) : String :=
  let ds := Nat.toDigits 10 n
  String.ofList (List.replicate (width - ds.length) '0' ++ ds)

/-- A day as year, month and day. -/
def Date.text (d : Date) : String :=
  padded 4 d.year ++ "-" ++ padded 2 d.month ++ "-" ++ padded 2 d.day

/-- A day as the call that makes it. -/
def Date.shown (d : Date) : String :=
  "datetime.date(" ++ toString d.year ++ ", " ++ toString d.month ++ ", " ++ toString d.day ++ ")"

/-- The distance of a zone with its sign. -/
def zoneText (minutes : Int) : String :=
  (if minutes < 0 then "-" else "+") ++ padded 2 (minutes.natAbs / 60) ++ ":"
    ++ padded 2 (minutes.natAbs % 60)

/-- A span of minutes as the call that makes it; negative spans count from the day before. -/
def spanShown (minutes : Int) : String :=
  let seconds := minutes * 60
  let days := seconds.fdiv 86400
  let rest := seconds.fmod 86400
  let parts := (if days ≠ 0 then ["days=" ++ toString days] else [])
    ++ (if rest ≠ 0 then ["seconds=" ++ toString rest] else [])
  "datetime.timedelta(" ++ (if parts.isEmpty then "0" else String.intercalate ", " parts) ++ ")"

/-- A zone as the call that makes it. -/
def zoneShown (minutes : Int) : String :=
  if minutes = 0 then "datetime.timezone.utc"
  else "datetime.timezone(" ++ spanShown minutes ++ ")"

/-- A moment with a blank between day and time. -/
def Moment.text (m : Moment) : String :=
  m.date.text ++ " " ++ padded 2 m.hour ++ ":" ++ padded 2 m.minute ++ ":" ++ padded 2 m.second
    ++ (if m.microsecond ≠ 0 then "." ++ padded 6 m.microsecond else "")
    ++ (match m.zone with
        | some z => zoneText z
        | none => "")

/-- A moment as the call that makes it; zero seconds are left out. -/
def Moment.shown (m : Moment) : String :=
  let numbers := [m.date.year, m.date.month, m.date.day, m.hour, m.minute]
    ++ (if m.second ≠ 0 || m.microsecond ≠ 0 then [m.second] else [])
    ++ (if m.microsecond ≠ 0 then [m.microsecond] else [])
  let zone := match m.zone with
    | some z => ["tzinfo=" ++ zoneShown z]
    | none => []
  "datetime.datetime(" ++ String.intercalate ", " (numbers.map toString ++ zone) ++ ")"

/-- The number of a day, counted without gaps. -/
def Date.ordinal (d : Date) : Int :=
  let y : Int := if d.month ≤ 2 then (d.year : Int) - 1 else d.year
  let m : Int := if d.month ≤ 2 then (d.month : Int) + 9 else (d.month : Int) - 3
  365 * y + y.fdiv 4 - y.fdiv 100 + y.fdiv 400 + (153 * m + 2) / 5 + d.day

/-- A moment in microseconds of universal time. -/
def Moment.instant (m : Moment) : Int :=
  let minutes := m.date.ordinal * 1440 + m.hour * 60 + m.minute - m.zone.getD 0
  (minutes * 60 + m.second) * 1000000 + m.microsecond

/-- Whether two moments are the same: both have a zone or neither, and they are at one instant. -/
def Moment.same (a b : Moment) : Bool :=
  a.zone.isSome = b.zone.isSome && a.instant = b.instant

namespace Value

/-! ## Loops -/

mutual
/-- Puts `outer` for the loops that point `depth` levels out. -/
def unroll (outer : Value) (depth : Nat) : Value → Value
  | .loop k => if k = depth then outer else .loop k
  | .seq items => .seq (unrollItems outer (depth + 1) items)
  | .map entries => .map (unrollEntries outer (depth + 1) entries)
  | .pair a b => .pair (unroll outer depth a) (unroll outer depth b)
  | v => v

/-- `unroll` in a list. -/
def unrollItems (outer : Value) (depth : Nat) : List Value → List Value
  | [] => []
  | v :: rest => unroll outer depth v :: unrollItems outer depth rest

/-- `unroll` in the values of entries. -/
def unrollEntries (outer : Value) (depth : Nat) : List (Value × Value) → List (Value × Value)
  | [] => []
  | (k, v) :: rest => (k, unroll outer depth v) :: unrollEntries outer depth rest
end

/-- The items of a list. -/
def items? : Value → Option (List Value)
  | .seq items => some (unrollItems (.seq items) 0 items)
  | _ => none

/-- The entries of a map. -/
def entries? : Value → Option (List (Value × Value))
  | .map entries => some (unrollEntries (.map entries) 0 entries)
  | _ => none

/-! ## Keys -/

/-- The whole number or float that a truth value or a number stands for. -/
def number? : Value → Option (Int ⊕ Decimal.Binary64)
  | .bool b => some (.inl (if b then 1 else 0))
  | .int n => some (.inl n)
  | .float x => some (.inr x)
  | _ => none

/-- Whether two numbers are equal in value; a number that is none equals itself. -/
def sameNumber : Int ⊕ Decimal.Binary64 → Int ⊕ Decimal.Binary64 → Bool
  | .inl m, .inl n => m = n
  | .inl n, .inr x => x.isInteger n
  | .inr x, .inl n => x.isInteger n
  | .inr x, .inr y => x.sameValue y || (x = .nan && y = .nan)

/-- Whether two values are one key of a map. Truth values and numbers are compared by value. -/
def sameKey : Value → Value → Bool
  | .null, .null => true
  | .text s, .text t => s = t
  | .bytes a, .bytes b => a = b
  | .date a, .date b => a = b
  | .moment a, .moment b => a.same b
  | a, b =>
    match a.number?, b.number? with
    | some m, some n => sameNumber m n
    | _, _ => false

/-- The value of a key. -/
def lookup (key : Value) : List (Value × Value) → Option Value
  | [] => none
  | (k, v) :: rest => if sameKey k key then some v else lookup key rest

/-- The value of a key that is a text, in a map. -/
def field? (v : Value) (name : String) : Option Value := v.entries?.bind (lookup (.text name))

/-- Gives a key a value: a known key stays as it was first written. -/
def putEntry (key value : Value) : List (Value × Value) → List (Value × Value)
  | [] => [(key, value)]
  | (k, v) :: rest => if sameKey k key then (k, value) :: rest else (k, v) :: putEntry key value rest

/-! ## Values as conditions and as texts -/

/-- A value as a condition: nothing, zero and what is empty count as false. -/
def truthy : Value → Bool
  | .null => false
  | .bool b => b
  | .int n => n ≠ 0
  | .float x => !x.isZero
  | .text s => s ≠ ""
  | .bytes bs => !bs.isEmpty
  | .seq items => !items.isEmpty
  | .map entries => !entries.isEmpty
  | .set members => !members.isEmpty
  | _ => true

/-- The sign of a collection that contains itself. -/
inductive Bracket where
  | square
  | curly

/-- A collection inside itself as a text. -/
def Bracket.ellipsis : Bracket → String
  | .square => "[...]"
  | .curly => "\x7b...\x7d"

mutual
/-- A value as a source literal inside the collections `outside`. -/
def shownIn (outside : List Bracket) : Value → String
  | .null => "None"
  | .bool b => if b then "True" else "False"
  | .int n => toString n
  | .float x => x.text
  | .text s => Text.quoted s
  | .bytes bs => Text.quotedBytes bs
  | .date d => d.shown
  | .moment m => m.shown
  | .seq items => "[" ++ String.intercalate ", " (shownItems (.square :: outside) items) ++ "]"
  | .map entries =>
    "\x7b" ++ String.intercalate ", " (shownEntries (.curly :: outside) entries) ++ "\x7d"
  | .set members =>
    if members.isEmpty then "set()"
    else "\x7b" ++ String.intercalate ", " (shownItems outside members) ++ "\x7d"
  | .pair a b => "(" ++ shownIn outside a ++ ", " ++ shownIn outside b ++ ")"
  | .loop k =>
    match outside[k]? with
    | some bracket => bracket.ellipsis
    | none => "..."

/-- `shownIn` for each of a list. -/
def shownItems (outside : List Bracket) : List Value → List String
  | [] => []
  | v :: rest => shownIn outside v :: shownItems outside rest

/-- `shownIn` for keys and values. -/
def shownEntries (outside : List Bracket) : List (Value × Value) → List String
  | [] => []
  | (k, v) :: rest =>
    (shownIn outside k ++ ": " ++ shownIn outside v) :: shownEntries outside rest
end

/-- A value as a source literal. -/
def shown (v : Value) : String := shownIn [] v

/-- A value as plain text: a text itself, a date as a date, all else as a literal. -/
def plainText : Value → String
  | .text s => s
  | .date d => d.text
  | .moment m => m.text
  | v => v.shown

/-! ## What can be written -/

mutual
/-- The first thing in a value that keeps it from being written as a literal: a whole number with too
many digits, or a collection inside so many others that there is no room left for it. -/
def writeFault? : (room : Nat) → Value → Option Fault
  | _, .int n => if Text.isWritable n then none else some .longNumber
  | 0, .seq _ | 0, .map _ | 0, .set _ | 0, .pair _ _ => some (.exhausted .deepValue)
  | room + 1, .seq items => writeFaultItems? room items
  | room + 1, .map entries => writeFaultEntries? room entries
  | room + 1, .set members => writeFaultItems? room members
  | room + 1, .pair a b => (writeFault? room a).or (writeFault? room b)
  | _, _ => none

/-- `writeFault?` in a list. -/
def writeFaultItems? (room : Nat) : List Value → Option Fault
  | [] => none
  | v :: rest => (writeFault? room v).or (writeFaultItems? room rest)

/-- `writeFault?` in keys and values. -/
def writeFaultEntries? (room : Nat) : List (Value × Value) → Option Fault
  | [] => none
  | (k, v) :: rest =>
    ((writeFault? room k).or (writeFault? room v)).or (writeFaultEntries? room rest)
end

/-- What keeps a value from being written: a number, or the machine. -/
def IsWriteFault (fault : Fault) : Prop := fault = .longNumber ∨ fault = .exhausted .deepValue

mutual
theorem isWriteFault_of_writeFault? {fault : Fault} : ∀ {room : Nat} {v : Value},
    v.writeFault? room = some fault → IsWriteFault fault
  | _, .int n, h => by
    unfold writeFault? at h
    split at h
    · contradiction
    · exact .inl (Option.some.inj h).symm
  | 0, .seq _, h | 0, .map _, h | 0, .set _, h | 0, .pair _ _, h => .inr (Option.some.inj h).symm
  | room + 1, .seq items, h => isWriteFault_of_writeFaultItems? h
  | room + 1, .map entries, h => isWriteFault_of_writeFaultEntries? h
  | room + 1, .set members, h => isWriteFault_of_writeFaultItems? h
  | room + 1, .pair a b, h => by
    rcases Option.or_eq_some_iff.mp h with ha | ⟨-, hb⟩
    · exact isWriteFault_of_writeFault? ha
    · exact isWriteFault_of_writeFault? hb

theorem isWriteFault_of_writeFaultItems? {fault : Fault} : ∀ {room : Nat} {items : List Value},
    writeFaultItems? room items = some fault → IsWriteFault fault
  | room, v :: rest, h => by
    rcases Option.or_eq_some_iff.mp h with hv | ⟨-, hrest⟩
    · exact isWriteFault_of_writeFault? hv
    · exact isWriteFault_of_writeFaultItems? hrest

theorem isWriteFault_of_writeFaultEntries? {fault : Fault} : ∀ {room : Nat}
    {entries : List (Value × Value)},
    writeFaultEntries? room entries = some fault → IsWriteFault fault
  | room, (k, v) :: rest, h => by
    rcases Option.or_eq_some_iff.mp h with hentry | ⟨-, hrest⟩
    · rcases Option.or_eq_some_iff.mp hentry with hk | ⟨-, hv⟩
      · exact isWriteFault_of_writeFault? hk
      · exact isWriteFault_of_writeFault? hv
    · exact isWriteFault_of_writeFaultEntries? hrest
end

/-- A value as a source literal, where collections can be nested `room` deep. -/
def shown? (room : Nat) (v : Value) : Except Fault String :=
  match v.writeFault? room with
  | some fault => .error fault
  | none => .ok v.shown

/-- A value as plain text, where collections can be nested `room` deep. -/
def plainText? (room : Nat) (v : Value) : Except Fault String :=
  match v.writeFault? room with
  | some fault => .error fault
  | none => .ok v.plainText

end Value
end Roster.Document
