import Mathlib

/-!
# Arithmetic of machine words

A machine forms the sum of two words whether or not it fits. A program written over an
`Arithmetic` can be read twice: as the machine runs it, and so that it ends at the first sum,
difference or product that wraps. One that does not end so computes the same either way.
-/

namespace Ckmux

namespace Data

/-- Words of so many bits, whose sums, differences and products wrap. -/
class Word (W : Type) extends Add W, Sub W, Mul W where
  bits : Nat
  toNat : W → Nat
  toNat_add : ∀ first second : W, toNat (first + second) = (toNat first + toNat second) % 2 ^ bits
  toNat_sub : ∀ first second : W,
    toNat (first - second) = (2 ^ bits - toNat second + toNat first) % 2 ^ bits
  toNat_mul : ∀ first second : W, toNat (first * second) = toNat first * toNat second % 2 ^ bits
  toNat_lt : ∀ word : W, toNat word < 2 ^ bits

instance : Word UInt32 where
  bits := 32
  toNat := UInt32.toNat
  toNat_add := UInt32.toNat_add
  toNat_sub := UInt32.toNat_sub
  toNat_mul := UInt32.toNat_mul
  toNat_lt := UInt32.toNat_lt

instance : Word UInt64 where
  bits := 64
  toNat := UInt64.toNat
  toNat_add := UInt64.toNat_add
  toNat_sub := UInt64.toNat_sub
  toNat_mul := UInt64.toNat_mul
  toNat_lt := UInt64.toNat_lt

/-- A word of thirty-two bits as a number. -/
@[simp] theorem toNat_uint32 (word : UInt32) : Word.toNat word = word.toNat := rfl

/-- A word of sixty-four bits as a number. -/
@[simp] theorem toNat_uint64 (word : UInt64) : Word.toNat word = word.toNat := rfl

/-- How many bits a word has. -/
@[simp] theorem bits_uint32 : Word.bits UInt32 = 32 := rfl

/-- How many bits a word has. -/
@[simp] theorem bits_uint64 : Word.bits UInt64 = 64 := rfl

/-- How sums, differences and products are formed. -/
structure Arithmetic (M : Type → Type) where
  add : {W : Type} → [Word W] → W → W → M W
  sub : {W : Type} → [Word W] → W → W → M W
  mul : {W : Type} → [Word W] → W → W → M W

/-- As a machine forms them. -/
def machine : Arithmetic Id where
  add first second := first + second
  sub first second := first - second
  mul first second := first * second

section

variable {W : Type} [Word W] (first second : W)

/-- A sum, if it fits. -/
def fittingSum : Option W :=
  if Word.toNat first + Word.toNat second < 2 ^ Word.bits W then some (first + second) else none

/-- A difference, if there is one. -/
def fittingDifference : Option W :=
  if Word.toNat second ≤ Word.toNat first then some (first - second) else none

/-- A product, if it fits. -/
def fittingProduct : Option W :=
  if Word.toNat first * Word.toNat second < 2 ^ Word.bits W then some (first * second) else none

end

/-- Those only that fit. -/
def fitting : Arithmetic Option where
  add := fittingSum
  sub := fittingDifference
  mul := fittingProduct

/-! ### What fits -/

section

variable {W : Type} [Word W] (first second : W)

/-- A sum that fits is the number it ought to be. -/
theorem fitting_add (fits : Word.toNat first + Word.toNat second < 2 ^ Word.bits W) :
    fitting.add first second = some (first + second) ∧
      Word.toNat (first + second) = Word.toNat first + Word.toNat second :=
  ⟨if_pos fits, (Word.toNat_add first second).trans (Nat.mod_eq_of_lt fits)⟩

/-- A difference that there is is the number it ought to be. -/
theorem fitting_sub (fits : Word.toNat second ≤ Word.toNat first) :
    fitting.sub first second = some (first - second) ∧
      Word.toNat (first - second) = Word.toNat first - Word.toNat second := by
  refine ⟨if_pos fits, (Word.toNat_sub first second).trans ?_⟩
  have small := Word.toNat_lt first
  have moved : 2 ^ Word.bits W - Word.toNat second + Word.toNat first =
      2 ^ Word.bits W + (Word.toNat first - Word.toNat second) := by omega
  rw [moved, Nat.add_mod_left]
  exact Nat.mod_eq_of_lt (by omega)

/-- A product that fits is the number it ought to be. -/
theorem fitting_mul (fits : Word.toNat first * Word.toNat second < 2 ^ Word.bits W) :
    fitting.mul first second = some (first * second) ∧
      Word.toNat (first * second) = Word.toNat first * Word.toNat second :=
  ⟨if_pos fits, (Word.toNat_mul first second).trans (Nat.mod_eq_of_lt fits)⟩

end

/-! ### What the machine then computes -/

/-- Where nothing wraps, the machine computes the same. -/
structure Agrees {A : Type} (fit : Option A) (run : Id A) : Prop where
  same : ∀ value, fit = some value → run = value

namespace Agrees

variable {A B : Type}

/-- A value agrees with itself. -/
theorem pure (value : A) : Agrees (Pure.pure value) (Pure.pure value) :=
  ⟨fun _ same => Option.some.inj same⟩

/-- Steps that agree agree one after the other. -/
theorem bind {fit : Option A} {run : Id A} {next : A → Option B} {continues : A → Id B}
    (first : Agrees fit run) (rest : ∀ value, Agrees (next value) (continues value)) :
    Agrees (fit >>= next) (run >>= continues) where
  same value ends := by
    obtain ⟨middle, fits, ends⟩ := Option.bind_eq_some_iff.mp ends
    rw [first.same middle fits]
    exact (rest middle).same value ends

/-- Choices that agree agree whichever is made. -/
theorem ite {condition : Prop} [Decidable condition] {fit other : Option A} {run another : Id A}
    (held : Agrees fit run) (otherwise : Agrees other another) :
    Agrees (if condition then fit else other) (if condition then run else another) := by
  split
  · exact held
  · exact otherwise

/-- A value that is given under a condition agrees where it is given. -/
theorem guarded {condition : Prop} [Decidable condition] (value : A) :
    Agrees (if condition then some value else none) (Pure.pure value : Id A) where
  same other fits := by
    split at fits
    · exact Option.some.inj fits
    · cases fits

variable {W : Type} [Word W]

/-- A sum that fits is the machine's. -/
theorem add (first second : W) : Agrees (fitting.add first second) (machine.add first second) :=
  guarded _

/-- A difference that there is is the machine's. -/
theorem sub (first second : W) : Agrees (fitting.sub first second) (machine.sub first second) :=
  guarded _

/-- A product that fits is the machine's. -/
theorem mul (first second : W) : Agrees (fitting.mul first second) (machine.mul first second) :=
  guarded _

end Agrees

/-! ### Products divided bit by bit -/

/-- The quotient and the remainder that a multiple of a number leaves. -/
structure Divided (number divisor multiplier : Nat) (quotient remainder : Nat) : Prop where
  below : remainder < divisor
  whole : quotient * divisor + remainder = multiplier * number

namespace Divided

variable {number divisor multiplier quotient remainder : Nat}

/-- What was divided bit by bit is the quotient. -/
theorem quotient_eq (divided : Divided number divisor multiplier quotient remainder) :
    quotient = multiplier * number / divisor := by
  rw [← divided.whole, Nat.add_comm, Nat.add_mul_div_right _ _ (Nat.zero_lt_of_lt divided.below),
    Nat.div_eq_of_lt divided.below, Nat.zero_add]

/-- Less than the divisor makes no more than the multiplier. -/
theorem quotient_le (divided : Divided number divisor multiplier quotient remainder)
    (small : number < divisor) : quotient ≤ multiplier := by
  rw [divided.quotient_eq]
  refine Nat.div_le_of_le_mul ?_
  rw [Nat.mul_comm divisor]
  exact Nat.mul_le_mul_left _ small.le

/-- A shift is twice the next, and the bit between them. -/
theorem shiftRight_bit (number bit : Nat) :
    number >>> bit = 2 * (number >>> (bit + 1)) + (number.testBit bit).toNat := by
  have bit_eq : (number.testBit bit).toNat = (number >>> bit) % 2 := by
    rw [Nat.testBit_eq_decide_div_mod_eq, Nat.shiftRight_eq_div_pow]
    rcases Nat.mod_two_eq_zero_or_one (number / 2 ^ bit) with even | odd
    · simp [even]
    · simp [odd]
  rw [bit_eq, Nat.shiftRight_succ, Nat.div_add_mod]

end Divided

end Data

end Ckmux
