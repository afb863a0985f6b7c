import Roster.Text.Quoted

/-! # Strict reading and writing of UTF-8

Bytes are a text or have a first fault: a byte that cannot start a character, a byte that should
continue one and does not, or an end in the middle of one. A text has bytes unless a half of a surrogate
pair is in it.

* `decodeUtf8_toUTF8`: a written text reads back.
* `encodeFault?`: what keeps a text from being written.
-/

namespace Roster.Text

/-- Why a sequence of bytes is not UTF-8. -/
inductive Utf8Cause where
  | invalidStart
  | invalidContinuation
  | unexpectedEnd
  deriving DecidableEq, Repr

/-- The first fault: its cause, the bytes that it covers and their position. -/
structure Utf8Fault where
  cause : Utf8Cause
  first : UInt8
  position : Nat
  length : Nat
  deriving DecidableEq, Repr

/-- The wording of a cause. -/
def Utf8Cause.message : Utf8Cause → String
  | .invalidStart => "invalid start byte"
  | .invalidContinuation => "invalid continuation byte"
  | .unexpectedEnd => "unexpected end of data"

/-- The wording of a fault. -/
def Utf8Fault.message (f : Utf8Fault) : String :=
  let place :=
    if f.length == 1 then
      "byte 0x" ++ String.ofList (hexDigits 2 f.first.toNat) ++ " in position " ++ toString f.position
    else "bytes in position " ++ toString f.position ++ "-" ++ toString (f.position + f.length - 1)
  "'utf-8' codec can't decode " ++ place ++ ": " ++ f.cause.message

/-- Whether a byte continues a character. -/
def isContinuation (b : UInt8) : Bool := 0x80 ≤ b && b < 0xC0

/-- How many bytes a start byte announces, and the bounds of its second byte. -/
def utf8Shape (b : UInt8) : Option (Nat × UInt8 × UInt8) :=
  if b < 0x80 then some (1, 0, 0)
  else if b < 0xC2 then none
  else if b < 0xE0 then some (2, 0x80, 0xBF)
  else if b < 0xF0 then
    some (3, if b == 0xE0 then 0xA0 else 0x80, if b == 0xED then 0x9F else 0xBF)
  else if b < 0xF5 then
    some (4, if b == 0xF0 then 0x90 else 0x80, if b == 0xF4 then 0x8F else 0xBF)
  else none

/-- The fault of the character at the front, if it has one, and else its length. -/
def frontFault (bytes : List UInt8) : Nat ⊕ (Utf8Cause × Nat) :=
  match bytes with
  | [] => .inl 0
  | b :: rest =>
    match utf8Shape b with
    | none => .inr (.invalidStart, 1)
    | some (1, _) => .inl 1
    | some (n, low, high) =>
      match rest with
      | [] => .inr (.unexpectedEnd, 1)
      | c :: more =>
        if c < low || high < c then .inr (.invalidContinuation, 1)
        else
          let tail := more.take (n - 2)
          let good := tail.takeWhile isContinuation
          if good.length < tail.length then .inr (.invalidContinuation, 2 + good.length)
          else if tail.length < n - 2 then .inr (.unexpectedEnd, 2 + tail.length)
          else .inl n

/-- The first fault of bytes that start at `position`; `fuel` bounds the number of characters. -/
def firstFault : Nat → Nat → List UInt8 → Utf8Fault
  | 0, position, _ => ⟨.unexpectedEnd, 0, position, 1⟩
  | fuel + 1, position, bytes =>
    match frontFault bytes with
    | .inr (cause, length) => ⟨cause, bytes.headD 0, position, length⟩
    | .inl n => firstFault fuel (position + n) (bytes.drop n)

/-- Reads bytes as UTF-8. -/
def decodeUtf8 (bytes : ByteArray) : Except Utf8Fault String :=
  match String.fromUTF8? bytes with
  | some s => .ok s
  | none => .error (firstFault (bytes.size + 1) 0 bytes.data.toList)

theorem decodeUtf8_toUTF8 (s : String) : decodeUtf8 s.toUTF8 = .ok s := by
  have h : String.fromUTF8? s.toUTF8 = some s := by
    simp [String.fromUTF8?, String.fromUTF8, s.isValidUTF8]
  unfold decodeUtf8
  rw [h]

/-! ## Writing -/

/-- Why a text cannot be written as UTF-8: the first half of a pair that is in the way, where it stands,
and how many of them stand there in a row. -/
structure EncodeFault where
  codePoint : Nat
  position : Nat
  length : Nat
  deriving DecidableEq, Repr

/-- The wording of a fault. -/
def EncodeFault.message (f : EncodeFault) : String :=
  let place :=
    if f.length == 1 then
      "character '\\u" ++ String.ofList (hexDigits 4 f.codePoint) ++ "' in position " ++ toString f.position
    else
      "characters in position " ++ toString f.position ++ "-" ++ toString (f.position + f.length - 1)
  "'utf-8' codec can't encode " ++ place ++ ": surrogates not allowed"

/-- The first fault of characters that stand from `position` on, where those that are `refused` cannot be
written. -/
def encodeFault? (refused : Char → Bool) : (position : Nat) → List Char → Option EncodeFault
  | _, [] => none
  | position, c :: rest =>
    if refused c then some ⟨codePoint c, position, (rest.takeWhile isLone).length + 1⟩
    else encodeFault? refused (position + 1) rest

theorem encodeFault?_eq_none_iff {refused : Char → Bool} {position : Nat} {cs : List Char} :
    encodeFault? refused position cs = none ↔ ∀ c ∈ cs, refused c = false := by
  induction cs generalizing position with
  | nil => simp [encodeFault?]
  | cons c cs ih =>
    rw [encodeFault?, List.forall_mem_cons, ← @ih (position + 1)]
    cases refused c <;> simp

/-- What keeps a text from being written to a file. -/
def fileFault? (text : String) : Option EncodeFault := encodeFault? isLone 0 text.toList

theorem fileFault?_eq_none_iff {text : String} :
    fileFault? text = none ↔ ∀ c ∈ text.toList, isLone c = false := encodeFault?_eq_none_iff

end Roster.Text
