import Mathlib

/-!
# Byte writers and readers

A `Put` is what a writer has produced: bytes, or nothing at all once it was
asked for a value its format cannot say. A `Get` consumes a leading part of its
input or refuses. Both are sticky: one failure decides the whole.

`Sends` says a reader gives back what a writer put down, whatever follows it;
`Echoes` says a reader accepts only what the writer would have put down. The
rules below follow the shape of a message: a list of fields in order, a
sized string, a counted list.
-/

namespace Ckmux.Grammar

/-- What goes over a wire. -/
abbrev Bytes := List UInt8

/-- A writer's output so far, or nothing once a value could not be said. -/
abbrev Put := Option Bytes

namespace Put

/-- A writer that has written nothing yet. -/
def start : Put := some []

/-- One writer after another; either failure is the failure of both. -/
def append (first second : Put) : Put :=
  match first, second with
  | some front, some back => some (front ++ back)
  | _, _ => none

/-- Fields written one after another. -/
def seq : List Put → Put
  | [] => start
  | field :: fields => append field (seq fields)

/-- No fields are no bytes. -/
@[simp] theorem seq_nil : seq [] = some [] := rfl

/-- The first field's bytes come first. -/
@[simp] theorem seq_cons (field : Put) (fields : List Put) :
    seq (field :: fields) = append field (seq fields) := rfl

/-- A sequence of writers succeeds exactly when both halves do. -/
theorem append_eq_some {first second : Put} {bytes : Bytes} :
    append first second = some bytes ↔
      ∃ front back, first = some front ∧ second = some back ∧ bytes = front ++ back := by
  cases first <;> cases second <;> simp [append, eq_comm]

/-- What both say is one behind the other. -/
@[simp] theorem append_some (front back : Bytes) :
    append (some front) (some back) = some (front ++ back) := rfl

/-- Nothing is said if the second cannot be. -/
@[simp] theorem append_none (first : Put) : append first none = none := by
  cases first <;> rfl

/-- Nothing is said if the first cannot be. -/
@[simp] theorem none_append (second : Put) : append none second = none := rfl

/-- No bytes behind make no difference. -/
@[simp] theorem append_start (first : Put) : append first (some []) = first := by
  cases first <;> simp [append]

/-- No bytes before make no difference. -/
@[simp] theorem start_append (second : Put) : append (some []) second = second := by
  cases second <;> simp [append]

/-- It does not matter which two of three are put together first. -/
theorem append_assoc (first second third : Put) :
    append (append first second) third = append first (append second third) := by
  cases first <;> cases second <;> cases third <;> simp [append]

/-- Fields and more fields are said one behind the other. -/
theorem seq_append (front back : List Put) :
    seq (front ++ back) = append (seq front) (seq back) := by
  induction front with
  | nil => simp
  | cons field fields ih => simp [ih, append_assoc]

/-- A byte is itself. -/
def u8 (value : UInt8) : Put := some [value]

/-- The low byte goes first. -/
def u16 (value : UInt16) : Put :=
  seq [u8 (value &&& 0xFF).toUInt8, u8 ((value >>> 8) &&& 0xFF).toUInt8]

/-- The low half goes first. -/
def u32 (value : UInt32) : Put :=
  seq [u16 (value &&& 0xFFFF).toUInt16, u16 ((value >>> 16) &&& 0xFFFF).toUInt16]

/-- The low half goes first. -/
def u64 (value : UInt64) : Put :=
  seq [u32 (value &&& 0xFFFFFFFF).toUInt32, u32 ((value >>> 32) &&& 0xFFFFFFFF).toUInt32]

/-- Signed values travel as their two's-complement bit pattern. -/
def i16 (value : Int16) : Put := u16 value.toUInt16
/-- A signed word goes as its bits. -/
def i32 (value : Int32) : Put := u32 value.toUInt32
/-- A signed word goes as its bits. -/
def i64 (value : Int64) : Put := u64 value.toUInt64

/-- A string behind a two-byte length; a longer one cannot be said. -/
def str (text : Bytes) : Put :=
  if text.length > 0xFFFF then none
  else seq [u16 (UInt16.ofNat text.length), some text]

/-- A blob behind a four-byte length. -/
def blob (bytes : Bytes) : Put :=
  if bytes.length > 0xFFFFFFFF then none
  else seq [u32 (UInt32.ofNat bytes.length), some bytes]

/-- A list behind its four-byte count. -/
def counted {α : Type} (entry : α → Put) (entries : List α) : Put :=
  seq [u32 (UInt32.ofNat entries.length), seq (entries.map entry)]

end Put

/-- A reader over the bytes that remain; `none` is a reader that has failed. -/
abbrev Get := StateT Bytes Option

namespace Get

/-- Fail unless the condition holds. -/
def require (condition : Prop) [Decidable condition] : Get Unit :=
  if condition then pure () else failure

/-- A reader whose value must also convert. -/
def convert {α β : Type} (reader : Get α) (meaning : α → Option β) : Get β := do
  let value ← reader
  match meaning value with
  | some converted => pure converted
  | none => failure

/-- How many bytes are left. -/
def remaining : Get Nat := fun bytes => some (bytes.length, bytes)

/-- The next `count` bytes, when there are that many. -/
def take (count : Nat) : Get Bytes := fun bytes =>
  if bytes.length < count then none else some (bytes.take count, bytes.drop count)

/-- A byte is taken from the front. -/
def u8 : Get UInt8
  | [] => none
  | byte :: rest => some (byte, rest)

/-- The low byte comes first. -/
def u16 : Get UInt16 := do
  let low ← u8
  let high ← u8
  pure (low.toUInt16 ||| (high.toUInt16 <<< 8))

/-- The low half comes first. -/
def u32 : Get UInt32 := do
  let low ← u16
  let high ← u16
  pure (low.toUInt32 ||| (high.toUInt32 <<< 16))

/-- The low half comes first. -/
def u64 : Get UInt64 := do
  let low ← u32
  let high ← u32
  pure (low.toUInt64 ||| (high.toUInt64 <<< 32))

/-- A signed word is its bits. -/
def i16 : Get Int16 := do pure (← u16).toInt16
/-- A signed word is its bits. -/
def i32 : Get Int32 := do pure (← u32).toInt32
/-- A signed word is its bits. -/
def i64 : Get Int64 := do pure (← u64).toInt64

/-- A text comes behind its length in two bytes. -/
def str : Get Bytes := do
  let length ← u16
  take length.toNat

/-- A blob of at most `cap` bytes. -/
def blob (cap : Nat) : Get Bytes := do
  let length ← u32
  require (length.toNat ≤ cap)
  take length.toNat

/-- A count checked against what is left, divided by the smallest entry. -/
def count (entryBytes : Nat) : Get Nat := do
  let value ← u32
  let left ← remaining
  require (entryBytes ≠ 0 ∧ value.toNat ≤ left / entryBytes)
  pure value.toNat

/-- One reader, run a number of times in a row. -/
def many {α : Type} (entry : Get α) : Nat → Get (List α)
  | 0 => pure []
  | more + 1 => do
      let first ← entry
      let others ← many entry more
      pure (first :: others)

/-- A list behind a checked count. -/
def counted {α : Type} (entryBytes : Nat) (entry : Get α) : Get (List α) := do
  let entries ← count entryBytes
  many entry entries

end Get

end Ckmux.Grammar
