import Mathlib
import Ckmux.Grammar.Wire

/-!
# What a reader owes a writer

`Sends` and `Echoes` are the two halves of a codec: what was written is read
back, and only what would have been written is accepted. `Restates` weakens the
second for a reader that replaces part of what it was told: it accepts the same
inputs as a verbatim reader, and writing its value again gives the bytes it read
exactly when a stated condition on the verbatim value holds. `Occupies` counts
the bytes of a field, which is what a checked count is checked against.

Each notion has one rule for a field followed by the rest of a message and one
for the end of the message, so a message is proved in the order it is written.
-/

namespace Ckmux.Grammar

variable {α β γ δ : Type}

namespace Get

/-- A value that is given takes nothing. -/
@[simp] theorem run_pure (value : α) (input : Bytes) :
    (pure value : Get α).run input = some (value, input) := rfl

/-- A reader followed by another succeeds exactly when both do, in order. -/
theorem run_bind_eq_some {first : Get α} {next : α → Get β} {input rest : Bytes} {value : β} :
    (first >>= next).run input = some (value, rest) ↔
      ∃ head middle, first.run input = some (head, middle) ∧
        (next head).run middle = some (value, rest) := by
  rw [StateT.run_bind]
  rcases first.run input with - | ⟨head, middle⟩
  · simp
  · constructor
    · intro success
      exact ⟨head, middle, rfl, success⟩
    · rintro ⟨_, _, same, success⟩
      cases same
      exact success

/-- What was read first decides how the rest is. -/
theorem run_bind_of_some {first : Get α} {next : α → Get β} {input middle : Bytes} {head : α}
    (read : first.run input = some (head, middle)) :
    (first >>= next).run input = (next head).run middle := by
  rw [StateT.run_bind, read]
  rfl

/-- Nothing is read if the first part cannot be. -/
theorem run_bind_of_none {first : Get α} {next : α → Get β} {input : Bytes}
    (failed : first.run input = none) : (first >>= next).run input = none := by
  rw [StateT.run_bind, failed]
  rfl

/-- A condition takes nothing, and lets what meets it go on. -/
theorem run_require {condition : Prop} [Decidable condition] {input rest : Bytes} :
    (require condition).run input = some ((), rest) ↔ condition ∧ input = rest := by
  unfold require
  by_cases holds : condition
  · simp [holds]
  · rw [if_neg holds]
    simp only [holds, false_and, iff_false]
    intro success
    cases success

/-- A condition that is met lets everything go on. -/
theorem run_require_of {condition : Prop} [Decidable condition] (holds : condition)
    (input : Bytes) : (require condition).run input = some ((), input) := by
  simp [run_require, holds]

/-- What is read is what it means, if it means anything. -/
theorem run_convert {reader : Get α} {meaning : α → Option β} {input rest : Bytes} {value : β} :
    (convert reader meaning).run input = some (value, rest) ↔
      ∃ stated, reader.run input = some (stated, rest) ∧ meaning stated = some value := by
  unfold convert
  rw [run_bind_eq_some]
  constructor
  · rintro ⟨stated, middle, read, converted⟩
    cases known : meaning stated with
    | none =>
        rw [known] at converted
        cases converted
    | some other =>
        rw [known] at converted
        cases converted
        exact ⟨stated, read, known⟩
  · rintro ⟨stated, read, known⟩
    refine ⟨stated, rest, read, ?_⟩
    rw [known]
    rfl

/-- Asking how much is left takes nothing. -/
@[simp] theorem run_remaining (input : Bytes) :
    remaining.run input = some (input.length, input) := rfl

/-- Taking `count` bytes splits the input there. -/
theorem run_take {count : Nat} {input rest taken : Bytes} :
    (take count).run input = some (taken, rest) ↔ input = taken ++ rest ∧ taken.length = count := by
  change (if input.length < count then none else some (input.take count, input.drop count)) =
    some (taken, rest) ↔ _
  by_cases short : input.length < count
  · simp only [short, if_true, reduceCtorEq, false_iff, not_and]
    rintro rfl sized
    simp only [List.length_append] at short
    omega
  · simp only [short, if_false, Option.some.injEq, Prod.mk.injEq]
    constructor
    · rintro ⟨rfl, rfl⟩
      refine ⟨(List.take_append_drop count input).symm, ?_⟩
      rw [List.length_take]
      omega
    · rintro ⟨rfl, rfl⟩
      simp

/-- A byte is read where there is one. -/
theorem run_u8 {input rest : Bytes} {value : UInt8} :
    u8.run input = some (value, rest) ↔ input = value :: rest := by
  cases input with
  | nil =>
      constructor
      · intro success
        cases success
      · intro equal
        cases equal
  | cons byte tail =>
      change some (byte, tail) = some (value, rest) ↔ _
      simp

end Get

/-! ### Words from bytes -/

/-- Bits below and bits above are added. -/
private theorem or_shift {low high width : Nat} (fits : low < 2 ^ width) :
    low ||| (high <<< width) = low + high * 2 ^ width := by
  rw [Nat.or_comm, ← Nat.shiftLeft_add_eq_or_of_lt fits, Nat.shiftLeft_eq]
  omega

/-- The low bits are what is left. -/
private theorem and_mask (value width : Nat) : value &&& (2 ^ width - 1) = value % 2 ^ width :=
  Nat.and_two_pow_sub_one_eq_mod _ width

/-- Two bytes as a number. -/
theorem toNat_join16 (low high : UInt8) :
    (low.toUInt16 ||| (high.toUInt16 <<< 8)).toNat = low.toNat + high.toNat * 2 ^ 8 := by
  have lowFits := low.toNat_lt
  have highFits := high.toNat_lt
  simp only [UInt16.toNat_or, UInt16.toNat_shiftLeft, UInt8.toNat_toUInt16]
  rw [show UInt16.toNat 8 % 16 = 8 from rfl, Nat.mod_eq_of_lt (by rw [Nat.shiftLeft_eq]; omega)]
  exact or_shift lowFits

/-- The low byte of a word. -/
theorem toNat_low16 (value : UInt16) : (value &&& 0xFF).toUInt8.toNat = value.toNat % 2 ^ 8 := by
  simp only [UInt16.toNat_toUInt8, UInt16.toNat_and]
  rw [show UInt16.toNat 0xFF = 2 ^ 8 - 1 from rfl, and_mask, Nat.mod_mod]

/-- The high byte of a word. -/
theorem toNat_high16 (value : UInt16) :
    ((value >>> 8) &&& 0xFF).toUInt8.toNat = value.toNat / 2 ^ 8 := by
  have fits := value.toNat_lt
  simp only [UInt16.toNat_toUInt8, UInt16.toNat_and, UInt16.toNat_shiftRight]
  rw [show UInt16.toNat 0xFF = 2 ^ 8 - 1 from rfl, and_mask,
    show UInt16.toNat 8 % 16 = 8 from rfl, Nat.shiftRight_eq_div_pow]
  omega

/-- Two halves as a number. -/
theorem toNat_join32 (low high : UInt16) :
    (low.toUInt32 ||| (high.toUInt32 <<< 16)).toNat = low.toNat + high.toNat * 2 ^ 16 := by
  have lowFits := low.toNat_lt
  have highFits := high.toNat_lt
  simp only [UInt32.toNat_or, UInt32.toNat_shiftLeft, UInt16.toNat_toUInt32]
  rw [show UInt32.toNat 16 % 32 = 16 from rfl, Nat.mod_eq_of_lt (by rw [Nat.shiftLeft_eq]; omega)]
  exact or_shift lowFits

/-- The low half of a word. -/
theorem toNat_low32 (value : UInt32) :
    (value &&& 0xFFFF).toUInt16.toNat = value.toNat % 2 ^ 16 := by
  simp only [UInt32.toNat_toUInt16, UInt32.toNat_and]
  rw [show UInt32.toNat 0xFFFF = 2 ^ 16 - 1 from rfl, and_mask, Nat.mod_mod]

/-- The high half of a word. -/
theorem toNat_high32 (value : UInt32) :
    ((value >>> 16) &&& 0xFFFF).toUInt16.toNat = value.toNat / 2 ^ 16 := by
  have fits := value.toNat_lt
  simp only [UInt32.toNat_toUInt16, UInt32.toNat_and, UInt32.toNat_shiftRight]
  rw [show UInt32.toNat 0xFFFF = 2 ^ 16 - 1 from rfl, and_mask,
    show UInt32.toNat 16 % 32 = 16 from rfl, Nat.shiftRight_eq_div_pow]
  omega

/-- Two halves as a number. -/
theorem toNat_join64 (low high : UInt32) :
    (low.toUInt64 ||| (high.toUInt64 <<< 32)).toNat = low.toNat + high.toNat * 2 ^ 32 := by
  have lowFits := low.toNat_lt
  have highFits := high.toNat_lt
  simp only [UInt64.toNat_or, UInt64.toNat_shiftLeft, UInt32.toNat_toUInt64]
  rw [show UInt64.toNat 32 % 64 = 32 from rfl, Nat.mod_eq_of_lt (by rw [Nat.shiftLeft_eq]; omega)]
  exact or_shift lowFits

/-- The low half of a word. -/
theorem toNat_low64 (value : UInt64) :
    (value &&& 0xFFFFFFFF).toUInt32.toNat = value.toNat % 2 ^ 32 := by
  simp only [UInt64.toNat_toUInt32, UInt64.toNat_and]
  rw [show UInt64.toNat 0xFFFFFFFF = 2 ^ 32 - 1 from rfl, and_mask, Nat.mod_mod]

/-- The high half of a word. -/
theorem toNat_high64 (value : UInt64) :
    ((value >>> 32) &&& 0xFFFFFFFF).toUInt32.toNat = value.toNat / 2 ^ 32 := by
  have fits := value.toNat_lt
  simp only [UInt64.toNat_toUInt32, UInt64.toNat_and, UInt64.toNat_shiftRight]
  rw [show UInt64.toNat 0xFFFFFFFF = 2 ^ 32 - 1 from rfl, and_mask,
    show UInt64.toNat 32 % 64 = 32 from rfl, Nat.shiftRight_eq_div_pow]
  omega

/-! ### How many bytes a field takes -/

/-- Whatever the writer produces, it is `size` bytes. -/
def Occupies (writer : Put) (size : Nat) : Prop :=
  ∀ bytes, writer = some bytes → bytes.length = size

namespace Occupies

/-- No fields take no bytes. -/
theorem nil : Occupies (Put.seq []) 0 := by
  rintro bytes written
  cases written
  rfl

/-- Two fields take what each takes. -/
theorem append {first second : Put} {front back : Nat}
    (head : Occupies first front) (tail : Occupies second back) :
    Occupies (Put.append first second) (front + back) := by
  intro bytes written
  obtain ⟨frontBytes, backBytes, firstWritten, secondWritten, rfl⟩ := Put.append_eq_some.mp written
  rw [List.length_append, head _ firstWritten, tail _ secondWritten]

/-- A field and the fields after it take what each takes. -/
theorem cons {field : Put} {fields : List Put} {front back : Nat}
    (head : Occupies field front) (tail : Occupies (Put.seq fields) back) :
    Occupies (Put.seq (field :: fields)) (front + back) :=
  append head tail

/-- A size may be said in another way. -/
theorem congr {writer : Put} {size other : Nat} (occupies : Occupies writer size)
    (same : size = other) : Occupies writer other :=
  same ▸ occupies

/-- Bytes as they are take as many as there are. -/
theorem raw (bytes : Bytes) : Occupies (some bytes) bytes.length := by
  rintro _ written
  cases written
  rfl

/-- A byte takes one. -/
theorem u8 (value : UInt8) : Occupies (Put.u8 value) 1 := raw _

/-- A word of sixteen bits takes two. -/
theorem u16 (value : UInt16) : Occupies (Put.u16 value) 2 := cons (u8 _) (cons (u8 _) nil)

/-- A word of thirty-two bits takes four. -/
theorem u32 (value : UInt32) : Occupies (Put.u32 value) 4 := cons (u16 _) (cons (u16 _) nil)

/-- A word of sixty-four bits takes eight. -/
theorem u64 (value : UInt64) : Occupies (Put.u64 value) 8 := cons (u32 _) (cons (u32 _) nil)

theorem i16 (value : Int16) : Occupies (Put.i16 value) 2 := u16 _

theorem i32 (value : Int32) : Occupies (Put.i32 value) 4 := u32 _

theorem i64 (value : Int64) : Occupies (Put.i64 value) 8 := u64 _

/-- A text takes two bytes for its length. -/
theorem str (text : Bytes) : Occupies (Put.str text) (2 + text.length) := by
  unfold Put.str
  split
  · intro bytes impossible
    cases impossible
  · exact cons (u16 _) (cons (raw text) nil)

/-- A blob takes four bytes for its length. -/
theorem blob (content : Bytes) : Occupies (Put.blob content) (4 + content.length) := by
  unfold Put.blob
  split
  · intro bytes impossible
    cases impossible
  · exact cons (u32 _) (cons (raw content) nil)

/-- Entries take what each of them takes. -/
theorem seq_map {entry : α → Put} {size : α → Nat} (each : ∀ value, Occupies (entry value) (size value))
    (entries : List α) : Occupies (Put.seq (entries.map entry)) (entries.map size).sum := by
  induction entries with
  | nil => exact nil
  | cons value others ih => exact cons (each value) ih

/-- A list takes four bytes for its count. -/
theorem counted {entry : α → Put} {size : α → Nat} (each : ∀ value, Occupies (entry value) (size value))
    (entries : List α) : Occupies (Put.counted entry entries) (4 + (entries.map size).sum) :=
  cons (u32 _) (cons (seq_map each entries) nil)

/-- Entries of at least `least` bytes each take at least that many together. -/
theorem sum_at_least {size : α → Nat} {least : Nat} (atLeast : ∀ value, least ≤ size value)
    (entries : List α) : least * entries.length ≤ (entries.map size).sum := by
  induction entries with
  | nil => simp
  | cons value others ih =>
      have first := atLeast value
      simp only [List.length_cons, List.map_cons, List.sum_cons, Nat.mul_add, Nat.mul_one]
      omega

end Occupies

/-! ### What can be said -/

/-- The writer produces something: it was asked for nothing its format cannot say. -/
def Says (writer : Put) : Prop := ∃ bytes, writer = some bytes

namespace Says

/-- Bytes as they are can be said. -/
theorem raw (bytes : Bytes) : Says (some bytes) := ⟨bytes, rfl⟩

/-- No fields can be said. -/
theorem nil : Says (Put.seq []) := raw []

/-- A field and the fields after it can be said if each can. -/
theorem cons {field : Put} {fields : List Put} (head : Says field) (tail : Says (Put.seq fields)) :
    Says (Put.seq (field :: fields)) := by
  obtain ⟨front, first⟩ := head
  obtain ⟨back, others⟩ := tail
  exact ⟨front ++ back, by rw [Put.seq_cons, first, others, Put.append_some]⟩

theorem u8 (value : UInt8) : Says (Put.u8 value) := raw _

theorem u16 (value : UInt16) : Says (Put.u16 value) := cons (u8 _) (cons (u8 _) nil)

theorem u32 (value : UInt32) : Says (Put.u32 value) := cons (u16 _) (cons (u16 _) nil)

theorem u64 (value : UInt64) : Says (Put.u64 value) := cons (u32 _) (cons (u32 _) nil)

/-- A text can be said if two bytes hold its length. -/
theorem str {text : Bytes} (short : text.length ≤ 0xFFFF) : Says (Put.str text) := by
  rw [Put.str, if_neg (Nat.not_lt.mpr short)]
  exact cons (u16 _) (cons (raw text) nil)

/-- Entries can be said if each can. -/
theorem seq_map {entry : α → Put} {entries : List α} (each : ∀ value ∈ entries, Says (entry value)) :
    Says (Put.seq (entries.map entry)) := by
  induction entries with
  | nil => exact nil
  | cons value others ih =>
      exact cons (each value List.mem_cons_self) (ih fun other listed =>
        each other (List.mem_cons_of_mem _ listed))

/-- A list can be said if its entries can. -/
theorem counted {entry : α → Put} {entries : List α} (each : ∀ value ∈ entries, Says (entry value)) :
    Says (Put.counted entry entries) :=
  cons (u32 _) (cons (seq_map each) nil)

/-- A writer that says something of a size says exactly that many bytes. -/
theorem sized {writer : Put} {size : Nat} (said : Says writer) (occupies : Occupies writer size) :
    ∃ bytes, writer = some bytes ∧ bytes.length = size := by
  obtain ⟨bytes, written⟩ := said
  exact ⟨bytes, written, occupies bytes written⟩

end Says

/-! ### What is written is read back -/

/-- Whatever the writer produced, the reader takes exactly that from the front
of any input and gives the value back. -/
def Sends (writer : Put) (reader : Get α) (value : α) : Prop :=
  ∀ bytes, writer = some bytes → bytes.length < 2 ^ 32 →
    ∀ rest, reader.run (bytes ++ rest) = some (value, rest)

namespace Sends

/-- Nothing is read back from nothing. -/
theorem nil (value : α) : Sends (Put.seq []) (pure value) value := by
  rintro bytes written _ rest
  cases written
  rfl

/-- A first field and the fields after it. -/
theorem cons {field : Put} {fields : List Put} {reader : Get α} {next : α → Get β}
    {head : α} {value : β} (first : Sends field reader head)
    (others : Sends (Put.seq fields) (next head) value) :
    Sends (Put.seq (field :: fields)) (reader >>= next) value := by
  intro bytes written small rest
  obtain ⟨front, back, fieldWritten, restWritten, rfl⟩ := Put.append_eq_some.mp written
  simp only [List.length_append] at small
  rw [List.append_assoc, Get.run_bind_of_some (first front fieldWritten (by omega) (back ++ rest))]
  exact others back restWritten (by omega) rest

/-- A message of one field. -/
theorem one {field : Put} {reader : Get α} {value : α} (first : Sends field reader value) :
    Sends (Put.seq [field]) reader value := by
  intro bytes written
  rw [Put.seq_cons, Put.seq_nil, Put.append_start] at written
  exact first bytes written

/-- A condition the value meets is passed. -/
theorem require {fields : List Put} {condition : Prop} [Decidable condition]
    {next : Unit → Get α} {value : α} (holds : condition)
    (others : Sends (Put.seq fields) (next ()) value) :
    Sends (Put.seq fields) (Get.require condition >>= next) value := by
  intro bytes written small rest
  rw [Get.run_bind_of_some (Get.run_require_of holds _)]
  exact others bytes written small rest

/-- The value may be said in another way. -/
theorem congr {writer : Put} {reader : Get α} {value other : α}
    (sends : Sends writer reader value) (same : value = other) : Sends writer reader other :=
  same ▸ sends

/-- As many bytes as there are can be taken again. -/
theorem take (bytes : Bytes) : Sends (some bytes) (Get.take bytes.length) bytes := by
  intro written same _ rest
  cases same
  exact Get.run_take.mpr ⟨rfl, rfl⟩

theorem u8 (value : UInt8) : Sends (Put.u8 value) Get.u8 value := by
  intro bytes written _ rest
  cases written
  exact Get.run_u8.mpr rfl

theorem u16 (value : UInt16) : Sends (Put.u16 value) Get.u16 value := by
  refine cons (u8 _) (cons (u8 _) ((nil _).congr ?_))
  apply UInt16.toNat_inj.mp
  rw [toNat_join16, toNat_low16, toNat_high16]
  exact Nat.mod_add_div' _ _

theorem u32 (value : UInt32) : Sends (Put.u32 value) Get.u32 value := by
  refine cons (u16 _) (cons (u16 _) ((nil _).congr ?_))
  apply UInt32.toNat_inj.mp
  rw [toNat_join32, toNat_low32, toNat_high32]
  exact Nat.mod_add_div' _ _

theorem u64 (value : UInt64) : Sends (Put.u64 value) Get.u64 value := by
  refine cons (u32 _) (cons (u32 _) ((nil _).congr ?_))
  apply UInt64.toNat_inj.mp
  rw [toNat_join64, toNat_low64, toNat_high64]
  exact Nat.mod_add_div' _ _

/-- A field whose value is read as another type and converted. -/
theorem map {writer : Put} {reader : Get α} {value : α} (convert : α → β)
    (sends : Sends writer reader value) :
    Sends writer (reader >>= fun read => pure (convert read)) (convert value) := by
  intro bytes written small rest
  rw [Get.run_bind_of_some (sends bytes written small rest)]
  rfl

/-- A field whose value is read as another type that must convert. -/
theorem convert {writer : Put} {reader : Get α} {stated : α} {meaning : α → Option β} {value : β}
    (sends : Sends writer reader stated) (means : meaning stated = some value) :
    Sends writer (Get.convert reader meaning) value := by
  intro bytes written small rest
  exact Get.run_convert.mpr ⟨stated, sends bytes written small rest, means⟩

theorem i16 (value : Int16) : Sends (Put.i16 value) Get.i16 value :=
  ((u16 value.toUInt16).map UInt16.toInt16).congr (Int16.toInt16_toUInt16 value)

theorem i32 (value : Int32) : Sends (Put.i32 value) Get.i32 value :=
  ((u32 value.toUInt32).map UInt32.toInt32).congr (Int32.toInt32_toUInt32 value)

theorem i64 (value : Int64) : Sends (Put.i64 value) Get.i64 value :=
  ((u64 value.toUInt64).map UInt64.toInt64).congr (Int64.toInt64_toUInt64 value)

/-- A text is read back. -/
theorem str (text : Bytes) : Sends (Put.str text) Get.str text := by
  unfold Put.str
  split
  · intro bytes impossible
    cases impossible
  · rename_i fits
    refine cons (u16 _) (one ?_)
    have sized : (UInt16.ofNat text.length).toNat = text.length :=
      UInt16.toNat_ofNat_of_lt (show text.length < 2 ^ 16 by omega)
    rw [sized]
    exact take text

/-- A blob is read back if it is no longer than its reader accepts. -/
theorem blob {cap : Nat} (content : Bytes) (within : content.length ≤ cap) :
    Sends (Put.blob content) (Get.blob cap) content := by
  unfold Put.blob
  split
  · intro bytes impossible
    cases impossible
  · rename_i fits
    have sized : (UInt32.ofNat content.length).toNat = content.length :=
      UInt32.toNat_ofNat_of_lt (show content.length < 2 ^ 32 by omega)
    refine cons (u32 _) (require (by omega) (one ?_))
    rw [sized]
    exact take content

/-- Entries are read back if each of them is. -/
theorem many {entry : α → Put} {reader : Get α} {entries : List α}
    (each : ∀ value ∈ entries, Sends (entry value) reader value) :
    Sends (Put.seq (entries.map entry)) (Get.many reader entries.length) entries := by
  induction entries with
  | nil => exact nil []
  | cons value others ih =>
      have tail := ih fun other member => each other (List.mem_cons_of_mem _ member)
      intro bytes written small rest
      obtain ⟨front, back, headWritten, tailWritten, rfl⟩ := Put.append_eq_some.mp written
      simp only [List.length_append] at small
      have headRead := each value List.mem_cons_self front headWritten (by omega) (back ++ rest)
      have tailRead := tail back tailWritten (by omega) rest
      rw [List.append_assoc]
      change (reader >>= fun first => Get.many reader others.length >>= fun more =>
        pure (first :: more)).run _ = _
      rw [Get.run_bind_of_some headRead, Get.run_bind_of_some tailRead]
      rfl

/-- A counted list is read back when no entry is smaller than the count check
assumes. -/
theorem counted {entry : α → Put} {reader : Get α} {entries : List α} {size : α → Nat}
    {entryBytes : Nat} (positive : 0 < entryBytes)
    (sized : ∀ value, Occupies (entry value) (size value))
    (atLeast : ∀ value, entryBytes ≤ size value)
    (each : ∀ value ∈ entries, Sends (entry value) reader value) :
    Sends (Put.counted entry entries) (Get.counted entryBytes reader) entries := by
  intro bytes written small rest
  obtain ⟨front, back, countWritten, entriesWritten, rfl⟩ := Put.append_eq_some.mp written
  rw [Put.seq_cons, Put.seq_nil, Put.append_start] at entriesWritten
  simp only [List.length_append] at small
  -- Every entry takes at least `entryBytes`, so the entries bound their own count.
  have room : entryBytes * entries.length ≤ back.length := by
    rw [Occupies.seq_map sized entries back entriesWritten]
    exact Occupies.sum_at_least atLeast entries
  have fewer : entries.length ≤ back.length :=
    le_trans (Nat.le_mul_of_pos_left _ positive) room
  have counted : (UInt32.ofNat entries.length).toNat = entries.length :=
    UInt32.toNat_ofNat_of_lt (show entries.length < 2 ^ 32 by omega)
  have checked : entryBytes ≠ 0 ∧
      (UInt32.ofNat entries.length).toNat ≤ (back ++ rest).length / entryBytes := by
    refine ⟨by omega, ?_⟩
    rw [counted, Nat.le_div_iff_mul_le positive, List.length_append, Nat.mul_comm]
    omega
  have countRead : (Get.count entryBytes).run (front ++ (back ++ rest)) =
      some (entries.length, back ++ rest) := by
    unfold Get.count
    rw [Get.run_bind_of_some (u32 _ front countWritten (by omega) _),
      Get.run_bind_of_some (Get.run_remaining _), Get.run_bind_of_some (Get.run_require_of checked _),
      Get.run_pure, counted]
  rw [List.append_assoc]
  unfold Get.counted
  rw [Get.run_bind_of_some countRead]
  exact many each back entriesWritten (by omega) rest

end Sends

/-! ### What is written and not read -/

/-- Whatever the writer produced, the reader refuses it. -/
def Refuses (writer : Put) (reader : Get α) : Prop :=
  ∀ bytes, writer = some bytes → bytes.length < 2 ^ 32 → ∀ rest, reader.run (bytes ++ rest) = none

namespace Refuses

/-- A first field that is refused. -/
theorem here {field : Put} {fields : List Put} {reader : Get α} {next : α → Get β}
    (first : Refuses field reader) : Refuses (Put.seq (field :: fields)) (reader >>= next) := by
  intro bytes written small rest
  obtain ⟨front, back, fieldWritten, -, rfl⟩ := Put.append_eq_some.mp written
  simp only [List.length_append] at small
  rw [List.append_assoc]
  exact Get.run_bind_of_none (first front fieldWritten (by omega) (back ++ rest))

/-- A first field that is read and a later one that is refused. -/
theorem cons {field : Put} {fields : List Put} {reader : Get α} {next : α → Get β} {head : α}
    (first : Sends field reader head) (others : Refuses (Put.seq fields) (next head)) :
    Refuses (Put.seq (field :: fields)) (reader >>= next) := by
  intro bytes written small rest
  obtain ⟨front, back, fieldWritten, restWritten, rfl⟩ := Put.append_eq_some.mp written
  simp only [List.length_append] at small
  rw [List.append_assoc, Get.run_bind_of_some (first front fieldWritten (by omega) (back ++ rest))]
  exact others back restWritten (by omega) rest

/-- What is refused is refused whatever it would be converted to. -/
theorem map {writer : Put} {reader : Get α} (convert : α → β) (refuses : Refuses writer reader) :
    Refuses writer (reader >>= fun read => pure (convert read)) := by
  intro bytes written small rest
  exact Get.run_bind_of_none (refuses bytes written small rest)

/-- A blob past the reader's cap, whatever its length field could say. -/
theorem blob {cap : Nat} {content : Bytes} (past : cap < content.length) :
    Refuses (Put.blob content) (Get.blob cap) := by
  unfold Put.blob
  split
  · intro bytes impossible
    cases impossible
  · have sized : (UInt32.ofNat content.length).toNat = content.length :=
      UInt32.toNat_ofNat_of_lt (show content.length < 2 ^ 32 by omega)
    refine cons (.u32 _) ?_
    intro bytes _ _ rest
    refine Get.run_bind_of_none ?_
    rw [Get.require, if_neg (by omega)]
    rfl

end Refuses

/-! ### Only what is written is accepted -/

/-- With `fields` already read, the latest first, the reader accepts only what
finishes writing the value it returns. -/
def EchoesFrom (fields : List Put) (reader : Get α) (write : α → Put) : Prop :=
  ∀ input value rest, reader.run input = some (value, rest) →
    ∃ consumed, input = consumed ++ rest ∧ write value = Put.append (Put.seq fields.reverse) (some consumed)

/-- The reader accepts only what the writer puts down for the value it returns. -/
def Echoes (reader : Get α) (write : α → Put) : Prop :=
  ∀ input value rest, reader.run input = some (value, rest) →
    ∃ consumed, input = consumed ++ rest ∧ write value = some consumed

namespace EchoesFrom

/-- At the end, what was read is what would have been written. -/
theorem done {fields : List Put} {write : α → Put} {value : α}
    (written : write value = Put.seq fields.reverse) : EchoesFrom fields (pure value) write := by
  rintro input other rest read
  cases read
  exact ⟨[], rfl, by rw [written, Put.append_start]⟩

/-- A field, then the rest of the message with that field added. -/
theorem field {fields : List Put} {reader : Get α} {next : α → Get β} {part : α → Put}
    {write : β → Put} (first : Echoes reader part)
    (others : ∀ head, EchoesFrom (part head :: fields) (next head) write) :
    EchoesFrom fields (reader >>= next) write := by
  intro input value rest read
  obtain ⟨head, middle, headRead, restRead⟩ := Get.run_bind_eq_some.mp read
  obtain ⟨front, rfl, headWritten⟩ := first input head middle headRead
  obtain ⟨back, rfl, written⟩ := others head middle value rest restRead
  refine ⟨front ++ back, (List.append_assoc ..).symm, ?_⟩
  rw [written, List.reverse_cons, Put.seq_append, Put.append_assoc, Put.seq_cons, Put.seq_nil, Put.append_start,
    headWritten, Put.append_some]

/-- A condition is no field. -/
theorem require {fields : List Put} {condition : Prop} [Decidable condition]
    {next : Unit → Get α} {write : α → Put}
    (others : condition → EchoesFrom fields (next ()) write) :
    EchoesFrom fields (Get.require condition >>= next) write := by
  intro input value rest read
  obtain ⟨_, middle, checked, restRead⟩ := Get.run_bind_eq_some.mp read
  obtain ⟨holds, rfl⟩ := Get.run_require.mp checked
  exact others holds input value rest restRead

end EchoesFrom

namespace Echoes

/-- A reader that echoes its fields from the first on echoes. -/
theorem of_fields {reader : Get α} {write : α → Put} (echoes : EchoesFrom [] reader write) :
    Echoes reader write := by
  intro input value rest read
  obtain ⟨consumed, split, written⟩ := echoes input value rest read
  exact ⟨consumed, split, by simpa using written⟩

theorem u8 : Echoes Get.u8 Put.u8 := by
  intro input value rest read
  exact ⟨[value], Get.run_u8.mp read, rfl⟩

theorem u16 : Echoes Get.u16 Put.u16 := by
  refine of_fields (.field u8 fun low => .field u8 fun high => .done ?_)
  have lowFits := low.toNat_lt
  have lowByte : ((low.toUInt16 ||| (high.toUInt16 <<< 8)) &&& 0xFF).toUInt8 = low := by
    apply UInt8.toNat_inj.mp
    rw [toNat_low16, toNat_join16]
    omega
  have highByte : (((low.toUInt16 ||| (high.toUInt16 <<< 8)) >>> 8) &&& 0xFF).toUInt8 = high := by
    apply UInt8.toNat_inj.mp
    rw [toNat_high16, toNat_join16]
    omega
  unfold Put.u16
  rw [lowByte, highByte]
  rfl

theorem u32 : Echoes Get.u32 Put.u32 := by
  refine of_fields (.field u16 fun low => .field u16 fun high => .done ?_)
  have lowFits := low.toNat_lt
  have lowWord : ((low.toUInt32 ||| (high.toUInt32 <<< 16)) &&& 0xFFFF).toUInt16 = low := by
    apply UInt16.toNat_inj.mp
    rw [toNat_low32, toNat_join32]
    omega
  have highWord : (((low.toUInt32 ||| (high.toUInt32 <<< 16)) >>> 16) &&& 0xFFFF).toUInt16 = high := by
    apply UInt16.toNat_inj.mp
    rw [toNat_high32, toNat_join32]
    omega
  unfold Put.u32
  rw [lowWord, highWord]
  rfl

theorem u64 : Echoes Get.u64 Put.u64 := by
  refine of_fields (.field u32 fun low => .field u32 fun high => .done ?_)
  have lowFits := low.toNat_lt
  have lowWord :
      ((low.toUInt64 ||| (high.toUInt64 <<< 32)) &&& 0xFFFFFFFF).toUInt32 = low := by
    apply UInt32.toNat_inj.mp
    rw [toNat_low64, toNat_join64]
    omega
  have highWord :
      (((low.toUInt64 ||| (high.toUInt64 <<< 32)) >>> 32) &&& 0xFFFFFFFF).toUInt32 = high := by
    apply UInt32.toNat_inj.mp
    rw [toNat_high64, toNat_join64]
    omega
  unfold Put.u64
  rw [lowWord, highWord]
  rfl

/-- A field read as another type and converted back before it is written. -/
theorem map {reader : Get α} {part : α → Put} {write : β → Put} (convert : α → β)
    (echoes : Echoes reader part) (same : ∀ value, write (convert value) = part value) :
    Echoes (reader >>= fun read => pure (convert read)) write :=
  of_fields (.field echoes fun value => .done (by rw [same]; simp))

/-- A field read as another type that must convert. -/
theorem convert {reader : Get α} {part : α → Put} {meaning : α → Option β} {write : β → Put}
    (echoes : Echoes reader part)
    (same : ∀ stated value, meaning stated = some value → write value = part stated) :
    Echoes (Get.convert reader meaning) write := by
  intro input value rest read
  obtain ⟨stated, statedRead, means⟩ := Get.run_convert.mp read
  obtain ⟨consumed, split, written⟩ := echoes input stated rest statedRead
  exact ⟨consumed, split, by rw [same stated value means, written]⟩

theorem i16 : Echoes Get.i16 Put.i16 :=
  map UInt16.toInt16 u16 fun value => by rw [Put.i16, UInt16.toUInt16_toInt16]

theorem i32 : Echoes Get.i32 Put.i32 :=
  map UInt32.toInt32 u32 fun value => by rw [Put.i32, UInt32.toUInt32_toInt32]

theorem i64 : Echoes Get.i64 Put.i64 :=
  map UInt64.toInt64 u64 fun value => by rw [Put.i64, UInt64.toUInt64_toInt64]

/-- A text read is written as it was read. -/
theorem str : Echoes Get.str Put.str := by
  intro input text rest read
  obtain ⟨length, middle, lengthRead, textRead⟩ := Get.run_bind_eq_some.mp read
  obtain ⟨front, rfl, lengthWritten⟩ := u16 input length middle lengthRead
  obtain ⟨rfl, sized⟩ := Get.run_take.mp textRead
  have fits := length.toNat_lt
  have same : UInt16.ofNat text.length = length := by rw [sized, UInt16.ofNat_toNat]
  refine ⟨front ++ text, (List.append_assoc ..).symm, ?_⟩
  rw [Put.str, if_neg (by omega), same, Put.seq_cons, lengthWritten]
  simp

/-- A blob read is written as it was read. -/
theorem blob (cap : Nat) : Echoes (Get.blob cap) Put.blob := by
  intro input content rest read
  obtain ⟨length, middle, lengthRead, checkRead⟩ := Get.run_bind_eq_some.mp read
  obtain ⟨front, rfl, lengthWritten⟩ := u32 input length middle lengthRead
  obtain ⟨_, _, checked, contentRead⟩ := Get.run_bind_eq_some.mp checkRead
  obtain ⟨_, rfl⟩ := Get.run_require.mp checked
  obtain ⟨rfl, sized⟩ := Get.run_take.mp contentRead
  have fits := length.toNat_lt
  have same : UInt32.ofNat content.length = length := by rw [sized, UInt32.ofNat_toNat]
  refine ⟨front ++ content, (List.append_assoc ..).symm, ?_⟩
  rw [Put.blob, if_neg (by omega), same, Put.seq_cons, lengthWritten]
  simp

/-- Entries read are written as they were read, as many as were asked for. -/
theorem many {entry : α → Put} {reader : Get α} (each : Echoes reader entry) (count : Nat) :
    ∀ input values rest, (Get.many reader count).run input = some (values, rest) →
      ∃ consumed, input = consumed ++ rest ∧ values.length = count ∧
        Put.seq (values.map entry) = some consumed := by
  induction count with
  | zero =>
      rintro input values rest read
      cases read
      exact ⟨[], rfl, rfl, rfl⟩
  | succ count ih =>
      intro input values rest read
      obtain ⟨head, middle, headRead, restRead⟩ := Get.run_bind_eq_some.mp read
      obtain ⟨front, rfl, headWritten⟩ := each input head middle headRead
      obtain ⟨others, last, othersRead, done⟩ := Get.run_bind_eq_some.mp restRead
      obtain ⟨back, rfl, sized, othersWritten⟩ := ih _ others last othersRead
      cases done
      refine ⟨front ++ back, (List.append_assoc ..).symm, by simp [sized], ?_⟩
      rw [List.map_cons, Put.seq_cons, headWritten, othersWritten, Put.append_some]

/-- A checked count is the count of what follows it, and leaves the input there. -/
theorem count {entryBytes : Nat} {input rest : Bytes} {entries : Nat}
    (read : (Get.count entryBytes).run input = some (entries, rest)) :
    ∃ front, input = front ++ rest ∧ Put.u32 (UInt32.ofNat entries) = some front := by
  obtain ⟨value, middle, valueRead, leftRead⟩ := Get.run_bind_eq_some.mp read
  obtain ⟨front, rfl, valueWritten⟩ := u32 input value middle valueRead
  obtain ⟨left, _, leftSame, checkRead⟩ := Get.run_bind_eq_some.mp leftRead
  cases leftSame
  obtain ⟨_, _, checked, done⟩ := Get.run_bind_eq_some.mp checkRead
  obtain ⟨_, rfl⟩ := Get.run_require.mp checked
  cases done
  exact ⟨front, rfl, by rw [UInt32.ofNat_toNat, valueWritten]⟩

/-- A list read is written as it was read. -/
theorem counted {entryBytes : Nat} {entry : α → Put} {reader : Get α} (each : Echoes reader entry) :
    Echoes (Get.counted entryBytes reader) (Put.counted entry) := by
  intro input values rest read
  obtain ⟨entries, middle, countRead, valuesRead⟩ := Get.run_bind_eq_some.mp read
  obtain ⟨front, rfl, countWritten⟩ := count countRead
  obtain ⟨back, rfl, sized, written⟩ := many each entries _ values rest valuesRead
  refine ⟨front ++ back, (List.append_assoc ..).symm, ?_⟩
  rw [Put.counted, sized, Put.seq_cons, countWritten, Put.seq_cons, written]
  simp

end Echoes

/-! ### A reader that restates part of what it was told -/

/-- With `fields` read and written again, the latest first, and `agreed` saying they came out as
they went in: the reader accepts what the verbatim reader accepts, and writing
its value again gives the same number of bytes, the same bytes exactly when the
verbatim value is `faithful`. -/
def RestatesFrom (fields : List Put) (agreed : Prop) (reader : Get α) (verbatim : Get β)
    (write : α → Put) (faithful : β → Prop) : Prop :=
  ∀ input value rest, reader.run input = some (value, rest) →
    ∃ consumed written stated, input = consumed ++ rest ∧
      verbatim.run input = some (stated, rest) ∧
      write value = Put.append (Put.seq fields.reverse) (some written) ∧
      written.length = consumed.length ∧
      (faithful stated ↔ agreed ∧ written = consumed)

/-- The reader accepts what the verbatim reader accepts, and writing its value
again gives the bytes it read exactly when the verbatim value is `faithful`. -/
def Restates (reader : Get α) (verbatim : Get β) (write : α → Put) (faithful : β → Prop) : Prop :=
  ∀ input value rest, reader.run input = some (value, rest) →
    ∃ consumed written stated, input = consumed ++ rest ∧
      verbatim.run input = some (stated, rest) ∧ write value = some written ∧
      written.length = consumed.length ∧ (faithful stated ↔ written = consumed)

namespace RestatesFrom

/-- At the end, what was stated is what would be written, if all of it was agreed. -/
theorem done {fields : List Put} {agreed : Prop} {write : α → Put} {faithful : β → Prop}
    {value : α} {stated : β} (written : write value = Put.seq fields.reverse)
    (same : faithful stated ↔ agreed) :
    RestatesFrom fields agreed (pure value) (pure stated) write faithful := by
  rintro input other rest read
  cases read
  exact ⟨[], [], stated, rfl, rfl, by rw [written, Put.append_start], rfl, by simp [same]⟩

/-- A field that may come out changed, then the rest of the message. -/
theorem field {fields : List Put} {agreed : Prop} {reader : Get α} {verbatim : Get β}
    {part : α → Put} {kept : β → Prop} {next : α → Get γ} {verbatimNext : β → Get δ}
    {write : γ → Put} {faithful : δ → Prop} (first : Restates reader verbatim part kept)
    (others : ∀ head stated, RestatesFrom (part head :: fields) (agreed ∧ kept stated)
      (next head) (verbatimNext stated) write faithful) :
    RestatesFrom fields agreed (reader >>= next) (verbatim >>= verbatimNext) write faithful := by
  intro input value rest read
  obtain ⟨head, middle, headRead, restRead⟩ := Get.run_bind_eq_some.mp read
  obtain ⟨front, frontWritten, headStated, rfl, headVerbatim, headWrote, headSized, headSame⟩ :=
    first input head middle headRead
  obtain ⟨back, backWritten, stated, rfl, restVerbatim, wrote, sized, same⟩ :=
    others head headStated middle value rest restRead
  refine ⟨front ++ back, frontWritten ++ backWritten, stated, (List.append_assoc ..).symm, ?_, ?_,
    by simp [headSized, sized], ?_⟩
  · rw [Get.run_bind_of_some headVerbatim]
    exact restVerbatim
  · rw [wrote, List.reverse_cons, Put.seq_append, Put.append_assoc, Put.seq_cons, Put.seq_nil, Put.append_start,
      headWrote, Put.append_some]
  · rw [same, headSame]
    constructor
    · rintro ⟨⟨holds, rfl⟩, rfl⟩
      exact ⟨holds, rfl⟩
    · rintro ⟨holds, equal⟩
      obtain ⟨frontEqual, backEqual⟩ := List.append_inj equal headSized
      exact ⟨⟨holds, frontEqual⟩, backEqual⟩

/-- A field that always comes out as it went in. -/
theorem keep {fields : List Put} {agreed : Prop} {reader : Get α} {part : α → Put}
    {next : α → Get γ} {verbatimNext : α → Get δ} {write : γ → Put} {faithful : δ → Prop}
    (first : Echoes reader part)
    (others : ∀ head, RestatesFrom (part head :: fields) agreed
      (next head) (verbatimNext head) write faithful) :
    RestatesFrom fields agreed (reader >>= next) (reader >>= verbatimNext) write faithful := by
  intro input value rest read
  obtain ⟨head, middle, headRead, restRead⟩ := Get.run_bind_eq_some.mp read
  obtain ⟨front, rfl, headWrote⟩ := first input head middle headRead
  obtain ⟨back, backWritten, stated, rfl, restVerbatim, wrote, sized, same⟩ :=
    others head middle value rest restRead
  refine ⟨front ++ back, front ++ backWritten, stated, (List.append_assoc ..).symm, ?_, ?_,
    by simp [sized], ?_⟩
  · rw [Get.run_bind_of_some headRead]
    exact restVerbatim
  · rw [wrote, List.reverse_cons, Put.seq_append, Put.append_assoc, Put.seq_cons, Put.seq_nil, Put.append_start,
      headWrote, Put.append_some]
  · rw [same, List.append_cancel_left_eq]

/-- A condition both readers ask for is no field. -/
theorem require {fields : List Put} {agreed condition : Prop} [Decidable condition]
    {next : Unit → Get α} {verbatimNext : Unit → Get β} {write : α → Put} {faithful : β → Prop}
    (others : condition → RestatesFrom fields agreed (next ()) (verbatimNext ()) write faithful) :
    RestatesFrom fields agreed (Get.require condition >>= next)
      (Get.require condition >>= verbatimNext) write faithful := by
  intro input value rest read
  obtain ⟨_, middle, checked, restRead⟩ := Get.run_bind_eq_some.mp read
  obtain ⟨holds, rfl⟩ := Get.run_require.mp checked
  obtain ⟨consumed, written, stated, split, verbatimRead, others⟩ :=
    others holds input value rest restRead
  refine ⟨consumed, written, stated, split, ?_, others⟩
  rw [Get.run_bind_of_some (Get.run_require_of holds _)]
  exact verbatimRead

end RestatesFrom

namespace Restates

/-- Readers that restate field by field restate. -/
theorem of_fields {reader : Get α} {verbatim : Get β} {write : α → Put} {faithful : β → Prop}
    (restates : RestatesFrom [] True reader verbatim write faithful) :
    Restates reader verbatim write faithful := by
  intro input value rest read
  obtain ⟨consumed, written, stated, split, verbatimRead, wrote, sized, same⟩ :=
    restates input value rest read
  exact ⟨consumed, written, stated, split, verbatimRead, by simpa using wrote, sized,
    by simpa using same⟩

/-- When a statement is faithful may be said in another way. -/
theorem congr {reader : Get α} {verbatim : Get β} {write : α → Put} {faithful other : β → Prop}
    (restates : Restates reader verbatim write faithful)
    (same : ∀ stated, faithful stated ↔ other stated) : Restates reader verbatim write other := by
  intro input value rest read
  obtain ⟨consumed, written, stated, split, verbatimRead, wrote, sized, kept⟩ :=
    restates input value rest read
  exact ⟨consumed, written, stated, split, verbatimRead, wrote, sized, (same stated).symm.trans kept⟩

/-- What echoes restates, and always faithfully. -/
theorem of_echoes {reader : Get α} {write : α → Put} (echoes : Echoes reader write) :
    Restates reader reader write fun _ => True := by
  intro input value rest read
  obtain ⟨consumed, split, written⟩ := echoes input value rest read
  exact ⟨consumed, consumed, value, split, read, written, rfl, by simp⟩

/-- A part read and wrapped. -/
theorem map {reader : Get α} {verbatim : Get β} {part : α → Put} {kept : β → Prop}
    {write : γ → Put} {faithful : δ → Prop} (wrap : α → γ) (wrapStated : β → δ)
    (restates : Restates reader verbatim part kept) (same : ∀ value, write (wrap value) = part value)
    (agree : ∀ stated, faithful (wrapStated stated) ↔ kept stated) :
    Restates (reader >>= fun read => pure (wrap read))
      (verbatim >>= fun read => pure (wrapStated read)) write faithful :=
  .of_fields <| .field restates fun value stated =>
    .done (by simp [same]) (by simp [agree])

/-- Entries are restated one by one, and faithfully if each is. -/
theorem many {reader : Get α} {verbatim : Get β} {entry : α → Put} {faithful : β → Prop}
    (each : Restates reader verbatim entry faithful) (count : Nat) :
    ∀ input values rest, (Get.many reader count).run input = some (values, rest) →
      ∃ consumed written stated, input = consumed ++ rest ∧ values.length = count ∧
        (Get.many verbatim count).run input = some (stated, rest) ∧
        Put.seq (values.map entry) = some written ∧ written.length = consumed.length ∧
        ((∀ value ∈ stated, faithful value) ↔ written = consumed) := by
  induction count with
  | zero =>
      rintro input values rest read
      cases read
      exact ⟨[], [], [], rfl, rfl, rfl, rfl, rfl, by simp⟩
  | succ count ih =>
      intro input values rest read
      obtain ⟨head, middle, headRead, restRead⟩ := Get.run_bind_eq_some.mp read
      obtain ⟨front, frontWritten, headStated, rfl, headVerbatim, headWrote, headSized, headSame⟩ :=
        each input head middle headRead
      obtain ⟨others, last, othersRead, done⟩ := Get.run_bind_eq_some.mp restRead
      obtain ⟨back, backWritten, stated, rfl, counted, verbatimRead, wrote, sized, same⟩ :=
        ih _ others last othersRead
      cases done
      refine ⟨front ++ back, frontWritten ++ backWritten, headStated :: stated,
        (List.append_assoc ..).symm, by simp [counted], ?_, ?_, by simp [headSized, sized], ?_⟩
      · change (verbatim >>= fun first => Get.many verbatim count >>= fun more =>
          pure (first :: more)).run _ = _
        rw [Get.run_bind_of_some headVerbatim, Get.run_bind_of_some verbatimRead]
        rfl
      · rw [List.map_cons, Put.seq_cons, headWrote, wrote, Put.append_some]
      · rw [List.forall_mem_cons, headSame, same]
        constructor
        · rintro ⟨rfl, rfl⟩
          rfl
        · intro equal
          exact List.append_inj equal headSized

/-- A list is restated entry by entry. -/
theorem counted {entryBytes : Nat} {reader : Get α} {verbatim : Get β} {entry : α → Put}
    {faithful : β → Prop} (each : Restates reader verbatim entry faithful) :
    Restates (Get.counted entryBytes reader) (Get.counted entryBytes verbatim) (Put.counted entry)
      fun stated => ∀ value ∈ stated, faithful value := by
  intro input values rest read
  obtain ⟨entries, middle, countRead, valuesRead⟩ := Get.run_bind_eq_some.mp read
  obtain ⟨front, rfl, countWritten⟩ := Echoes.count countRead
  obtain ⟨back, backWritten, stated, rfl, counted, verbatimRead, wrote, sized, same⟩ :=
    many each entries _ values rest valuesRead
  refine ⟨front ++ back, front ++ backWritten, stated, (List.append_assoc ..).symm, ?_, ?_,
    by simp [sized], same.trans (List.append_cancel_left_eq ..).to_iff.symm⟩
  · change (Get.count entryBytes >>= fun count => Get.many verbatim count).run _ = _
    rw [Get.run_bind_of_some countRead]
    exact verbatimRead
  · rw [Put.counted, counted, Put.seq_cons, countWritten, Put.seq_cons, wrote]
    simp

end Restates

end Ckmux.Grammar
