import Mathlib
import Ckmux.Grammar.Wire

/-!
# Text with escape sequences in it

What a terminal is sent: printable characters, controls, and escape sequences between them. A
control sequence ends at its final byte. A string ends where it is terminated, and may hold
whatever else, an escape too. Any other escape sequence is a final byte behind as many
intermediate ones as there are.
-/

namespace Ckmux.Grammar

/-- What begins every sequence. -/
abbrev escape : UInt8 := 0x1B
/-- What may end an operating system command. -/
abbrev bell : UInt8 := 0x07
/-- What ends a string, behind an escape. -/
abbrev backslash : UInt8 := 0x5C

/-- Neither a control nor a deletion. -/
def Graphic (byte : UInt8) : Prop := 0x20 ≤ byte ∧ byte ≠ 0x7F

instance (byte : UInt8) : Decidable (Graphic byte) := inferInstanceAs (Decidable (_ ∧ _))

/-- A byte between an escape and what ends its sequence. -/
def Intermediate (byte : UInt8) : Prop := 0x20 ≤ byte ∧ byte ≤ 0x2F

/-- A byte of a control sequence's parameters. -/
def Parameter (byte : UInt8) : Prop := 0x30 ≤ byte ∧ byte ≤ 0x3F

instance (byte : UInt8) : Decidable (Intermediate byte) := inferInstanceAs (Decidable (_ ∧ _))

/-- What begins a sequence that does not end with it. -/
def Introducer (byte : UInt8) : Prop :=
  byte = 0x5B ∨ byte = 0x5D ∨ byte = 0x50 ∨ byte = 0x58 ∨ byte = 0x5E ∨ byte = 0x5F

/-- A character that is drawn: none of the controls, of either set. -/
def Printable (char : Char) : Prop :=
  0x20 ≤ char.val ∧ ¬(0x7F ≤ char.val ∧ char.val ≤ 0x9F)

/-- The strings that only `ESC \` ends. -/
inductive StringKind where
  | device | start | privacy | application

/-- The byte that a string of a kind begins with, behind an escape. -/
def StringKind.introducer : StringKind → UInt8
  | .device => 0x50
  | .start => 0x58
  | .privacy => 0x5E
  | .application => 0x5F

/-- Nothing in it ends it. -/
structure Unterminated (bellEnds : Bool) (payload : Bytes) : Prop where
  noBell : bellEnds = true → bell ∉ payload
  noEscape : ¬[escape, backslash] <:+: payload

/-- One thing of a stream. -/
inductive Item where
  | text (char : Char) (printable : Printable char)
  | control (byte : UInt8) (controls : ¬Graphic byte) (plain : byte ≠ escape)
  | controlSequence (parameters intermediates : Bytes) (final : UInt8)
      (parameters_ok : ∀ byte ∈ parameters, Parameter byte)
      (intermediates_ok : ∀ byte ∈ intermediates, Intermediate byte)
      (ends : 0x40 ≤ final ∧ final ≤ 0x7E)
  | command (payload : Bytes) (belled : Bool) (whole : Unterminated true payload)
  | string (kind : StringKind) (payload : Bytes) (whole : Unterminated false payload)
  | escape (intermediates : Bytes) (final : UInt8)
      (intermediates_ok : ∀ byte ∈ intermediates, Intermediate byte)
      (ends : 0x30 ≤ final ∧ final ≤ 0x7E)
      (other : intermediates = [] → ¬Introducer final)

/-- How a thing is written. -/
def Item.write : Item → Bytes
  | .text char _ => String.utf8EncodeChar char
  | .control byte _ _ => [byte]
  | .controlSequence parameters intermediates final _ _ _ =>
      Grammar.escape :: 0x5B :: (parameters ++ intermediates ++ [final])
  | .command payload belled _ =>
      Grammar.escape :: 0x5D ::
        (payload ++ if belled then [bell] else [Grammar.escape, backslash])
  | .string kind payload _ =>
      Grammar.escape :: kind.introducer :: (payload ++ [Grammar.escape, backslash])
  | .escape intermediates final _ _ _ => Grammar.escape :: (intermediates ++ [final])

/-- Items one behind the other. -/
def writeItems (items : List Item) : Bytes := items.flatMap Item.write

/-! ### Characters -/

/-- A byte of the upper half is graphic. -/
theorem graphic_of_large {number : Nat} (large : 0x80 ≤ number) (small : number < 0x100) :
    Graphic (UInt8.ofNat number) := by
  have same : (UInt8.ofNat number).toNat = number := UInt8.toNat_ofNat_of_lt' small
  constructor
  · rw [UInt8.le_iff_toNat_le, same]
    exact (show 0x20 ≤ 0x80 by decide).trans large
  · intro deleted
    rw [deleted] at same
    have limit : UInt8.toNat 0x7F = 0x7F := rfl
    omega

/-- A character that is drawn is written without a control. -/
theorem graphic_of_printable {char : Char} (printable : Printable char) :
    ∀ byte ∈ String.utf8EncodeChar char, Graphic byte := by
  obtain ⟨drawn, other⟩ := printable
  rw [UInt32.le_iff_toNat_le] at drawn
  rw [UInt32.le_iff_toNat_le, UInt32.le_iff_toNat_le] at other
  have space : UInt32.toNat 0x20 = 0x20 := rfl
  have deletion : UInt32.toNat 0x7F = 0x7F := rfl
  have last : UInt32.toNat 0x9F = 0x9F := rfl
  rw [String.utf8EncodeChar]
  split
  · rename_i ascii
    have same : (UInt8.ofNat char.val.toNat).toNat = char.val.toNat :=
      UInt8.toNat_ofNat_of_lt' (show char.val.toNat < 256 by omega)
    intro byte listed
    obtain rfl := List.mem_singleton.mp listed
    refine ⟨UInt8.le_iff_toNat_le.mpr ?_, fun deleted => ?_⟩
    · rw [same]
      exact drawn
    · rw [deleted] at same
      have limit : UInt8.toNat 0x7F = 0x7F := rfl
      omega
  · split
    · simp only [List.forall_mem_cons]
      refine ⟨?_, ?_, fun byte listed => by cases listed⟩ <;> apply graphic_of_large <;> omega
    · split
      · simp only [List.forall_mem_cons]
        refine ⟨?_, ?_, ?_, fun byte listed => by cases listed⟩ <;> apply graphic_of_large <;> omega
      · simp only [List.forall_mem_cons]
        refine ⟨?_, ?_, ?_, ?_, fun byte listed => by cases listed⟩ <;>
          apply graphic_of_large <;> omega

/-- An intermediate byte is graphic. -/
theorem Intermediate.graphic {byte : UInt8} (intermediate : Intermediate byte) : Graphic byte := by
  refine ⟨intermediate.1, fun deleted => ?_⟩
  subst deleted
  exact absurd intermediate.2 (by decide)

/-- An intermediate byte begins no string and no control sequence. -/
theorem Intermediate.not_introducer {byte : UInt8} (intermediate : Intermediate byte) :
    ¬Introducer byte := by
  rintro (rfl | rfl | rfl | rfl | rfl | rfl) <;> exact absurd intermediate.2 (by decide)

end Ckmux.Grammar
