import Mathlib
import Ckmux.Grammar.WireLaws
import Ckmux.Proto.Codec

/-!
# The wire format, field by field

For each part of a message: how many bytes it takes, that what is written is
read back, and that what is read is what would have been written. Cells are the
one part a reader does not keep as stated, so what holds cells is read back when
its cells are the ones the terminal library would build, and restated when they
are not.
-/

namespace Ckmux.Proto

open Grammar

/-! ### Colours -/

/-- Bits set beside bits that are clear are added. -/
private theorem shifted_or {high low : Nat} (width : Nat) (fits : low < 2 ^ width) :
    (high * 2 ^ width) ||| low = high * 2 ^ width + low := by
  rw [← Nat.shiftLeft_eq, Nat.shiftLeft_add_eq_or_of_lt fits]

/-- The word of an RGB colour, as arithmetic. -/
theorem toNat_rgb (red green blue : UInt8) :
    (((2 : UInt32) <<< 24) ||| (red.toUInt32 <<< 16) ||| (green.toUInt32 <<< 8) |||
      blue.toUInt32).toNat =
      2 * 2 ^ 24 + red.toNat * 2 ^ 16 + green.toNat * 2 ^ 8 + blue.toNat := by
  have redFits := red.toNat_lt
  have greenFits := green.toNat_lt
  have blueFits := blue.toNat_lt
  simp only [UInt32.toNat_or, UInt32.toNat_shiftLeft, UInt8.toNat_toUInt32, Nat.shiftLeft_eq]
  rw [show (UInt32.toNat 2 * 2 ^ (UInt32.toNat 24 % 32)) % 2 ^ 32 = 2 * 2 ^ 24 from rfl,
    show UInt32.toNat 16 % 32 = 16 from rfl, show UInt32.toNat 8 % 32 = 8 from rfl,
    Nat.mod_eq_of_lt (by omega), Nat.mod_eq_of_lt (by omega)]
  have joined : (2 * 2 ^ 24 ||| red.toNat * 2 ^ 16) = (2 * 2 ^ 8 + red.toNat) * 2 ^ 16 := by
    rw [shifted_or 24 (by omega)]
    omega
  have joined' : (2 * 2 ^ 8 + red.toNat) * 2 ^ 16 ||| green.toNat * 2 ^ 8 =
      ((2 * 2 ^ 8 + red.toNat) * 2 ^ 8 + green.toNat) * 2 ^ 8 := by
    rw [shifted_or 16 (by omega)]
    omega
  rw [joined, joined', shifted_or 8 blueFits]
  omega

/-- The word of an indexed colour, as arithmetic. -/
theorem toNat_indexed (index : UInt8) :
    (((1 : UInt32) <<< 24) ||| index.toUInt32).toNat = 2 ^ 24 + index.toNat := by
  have fits := index.toNat_lt
  rw [UInt32.toNat_or, UInt8.toNat_toUInt32,
    show ((1 : UInt32) <<< 24).toNat = 1 * 2 ^ 24 from rfl, shifted_or 24 (by omega), Nat.one_mul]

/-- The kind of a colour is the word's top byte. -/
theorem toNat_kind (word : UInt32) : (word >>> 24).toNat = word.toNat / 2 ^ 24 := by
  rw [UInt32.toNat_shiftRight, show UInt32.toNat 24 % 32 = 24 from rfl, Nat.shiftRight_eq_div_pow]

/-- The byte of a word at a place. -/
theorem toNat_byte (word : UInt32) (place : UInt32) (small : place.toNat < 32) :
    ((word >>> place) &&& 0xFF).toUInt8.toNat = word.toNat / 2 ^ place.toNat % 2 ^ 8 := by
  rw [UInt32.toNat_toUInt8, UInt32.toNat_and, UInt32.toNat_shiftRight,
    show UInt32.toNat 0xFF = 2 ^ 8 - 1 from rfl, Nat.and_two_pow_sub_one_eq_mod, Nat.mod_mod,
    Nat.mod_eq_of_lt small, Nat.shiftRight_eq_div_pow]

/-- The last byte of a word is what is left of it. -/
theorem toNat_lastByte (word : UInt32) : (word &&& 0xFF).toUInt8.toNat = word.toNat % 2 ^ 8 := by
  rw [UInt32.toNat_toUInt8, UInt32.toNat_and, show UInt32.toNat 0xFF = 2 ^ 8 - 1 from rfl,
    Nat.and_two_pow_sub_one_eq_mod, Nat.mod_mod]

/-- No payload bits: the word is its kind. -/
theorem payload_zero_iff (word : UInt32) :
    word &&& 0x00FFFFFF = 0 ↔ word.toNat % 2 ^ 24 = 0 := by
  rw [← UInt32.toNat_inj, UInt32.toNat_and, show UInt32.toNat 0x00FFFFFF = 2 ^ 24 - 1 from rfl,
    Nat.and_two_pow_sub_one_eq_mod]
  rfl

/-- No payload bits above the last byte. -/
theorem payload_index_iff (word : UInt32) :
    word &&& 0x00FFFF00 = 0 ↔ word.toNat / 2 ^ 8 % 2 ^ 16 = 0 := by
  have mask : word.toNat &&& 0x00FFFF00 = (word.toNat / 2 ^ 8 % 2 ^ 16) * 2 ^ 8 := by
    apply Nat.eq_of_testBit_eq
    intro bit
    rw [← Nat.and_two_pow_sub_one_eq_mod, ← Nat.shiftLeft_eq, Nat.testBit_shiftLeft,
      Nat.testBit_and, ← Nat.shiftRight_eq_div_pow]
    rw [show (0x00FFFF00 : Nat) = (2 ^ 16 - 1) <<< 8 from rfl, Nat.testBit_shiftLeft,
      Nat.testBit_and, Nat.testBit_shiftRight]
    by_cases low : 8 ≤ bit
    · simp [low]
    · simp [low]
  rw [← UInt32.toNat_inj, UInt32.toNat_and, show UInt32.toNat 0x00FFFF00 = 0x00FFFF00 from rfl,
    mask, show UInt32.toNat 0 = 0 from rfl]
  omega

/-- Every colour is read back from its word. -/
theorem Color.ofWord_toWord (color : Color) : Color.ofWord (Color.toWord color) = some color := by
  cases color with
  | default => rfl
  | indexed index =>
      have fits := index.toNat_lt
      have word := toNat_indexed index
      have kind : (Color.toWord (.indexed index) >>> 24).toNat = 1 := by
        rw [toNat_kind, Color.toWord, word]
        omega
      have clear : Color.toWord (.indexed index) &&& 0x00FFFF00 = 0 := by
        rw [payload_index_iff, Color.toWord, word]
        omega
      have last : (Color.toWord (.indexed index) &&& 0xFF).toUInt8 = index := by
        apply UInt8.toNat_inj.mp
        rw [toNat_lastByte, Color.toWord, word]
        omega
      unfold Color.ofWord
      rw [kind]
      simp only [clear, if_true, last]
  | rgb red green blue =>
      have redFits := red.toNat_lt
      have greenFits := green.toNat_lt
      have blueFits := blue.toNat_lt
      have word := toNat_rgb red green blue
      have kind : (Color.toWord (.rgb red green blue) >>> 24).toNat = 2 := by
        rw [toNat_kind, Color.toWord, word]
        omega
      have first : ((Color.toWord (.rgb red green blue) >>> 16) &&& 0xFF).toUInt8 = red := by
        apply UInt8.toNat_inj.mp
        rw [toNat_byte _ _ (by decide), Color.toWord, word, show UInt32.toNat 16 = 16 from rfl]
        omega
      have second : ((Color.toWord (.rgb red green blue) >>> 8) &&& 0xFF).toUInt8 = green := by
        apply UInt8.toNat_inj.mp
        rw [toNat_byte _ _ (by decide), Color.toWord, word, show UInt32.toNat 8 = 8 from rfl]
        omega
      have last : (Color.toWord (.rgb red green blue) &&& 0xFF).toUInt8 = blue := by
        apply UInt8.toNat_inj.mp
        rw [toNat_lastByte, Color.toWord, word]
        omega
      unfold Color.ofWord
      rw [kind]
      simp only [first, second, last]

/-- A word that stands for a colour is the one it is written as. -/
theorem Color.toWord_ofWord {word : UInt32} {color : Color} (means : Color.ofWord word = some color) :
    Color.toWord color = word := by
  have small := word.toNat_lt
  have kind := toNat_kind word
  unfold Color.ofWord at means
  split at means
  · rename_i zero
    obtain ⟨clear, same⟩ := Option.ite_none_right_eq_some.mp means
    cases same
    rw [payload_zero_iff] at clear
    apply UInt32.toNat_inj.mp
    change 0 = word.toNat
    omega
  · rename_i one
    obtain ⟨clear, same⟩ := Option.ite_none_right_eq_some.mp means
    cases same
    rw [payload_index_iff] at clear
    apply UInt32.toNat_inj.mp
    rw [Color.toWord, toNat_indexed, toNat_lastByte]
    omega
  · rename_i two
    cases means
    apply UInt32.toNat_inj.mp
    rw [Color.toWord, toNat_rgb, toNat_byte _ _ (by decide), toNat_byte _ _ (by decide),
      toNat_lastByte, show UInt32.toNat 16 = 16 from rfl, show UInt32.toNat 8 = 8 from rfl]
    omega
  · cases means

/-- A colour written is read back. -/
theorem Color.sends (color : Color) : Sends (Color.write color) Color.read color :=
  .convert (.u32 _) (Color.ofWord_toWord color)

/-- A colour read is written as it was read. -/
theorem Color.echoes : Echoes Color.read Color.write :=
  .convert .u32 fun _ _ means => by rw [Color.write, Color.toWord_ofWord means]

/-- A colour takes four bytes. -/
theorem Color.occupies (color : Color) : Occupies (Color.write color) 4 := .u32 _

/-! ### Cells -/

/-- The fields of a cell as the wire has them. -/
def cellFields (text : Bytes) (width : UInt8) (style : Style) : Put := Put.seq [
  Put.str text, Put.u8 width, Color.write style.fg, Color.write style.bg, Put.u8 style.attrs,
  Put.u16 0]

/-- A cell's fields take fourteen bytes beside its text. -/
theorem cellFields_occupies (text : Bytes) (width : UInt8) (style : Style) :
    Occupies (cellFields text width style) (14 + text.length) :=
  (Occupies.cons (.str _) <| .cons (.u8 _) <| .cons (Color.occupies _) <|
    .cons (Color.occupies _) <| .cons (.u8 _) <| .cons (.u16 _) .nil).congr (by omega)

/-- A different width byte is the only way two cells of one text and style are
written differently. -/
theorem cellFields_width {text : Bytes} {width : UInt8} (other : UInt8) {style : Style}
    {bytes : Bytes} (written : cellFields text width style = some bytes) :
    ∃ same, cellFields text other style = some same ∧ (same = bytes ↔ other = width) := by
  obtain ⟨front, _, frontWritten, restWritten, rfl⟩ := Put.append_eq_some.mp written
  obtain ⟨byte, back, byteWritten, backWritten, rfl⟩ := Put.append_eq_some.mp restWritten
  cases byteWritten
  refine ⟨front ++ ([other] ++ back), ?_, by simp⟩
  exact Put.append_eq_some.mpr ⟨front, _, frontWritten,
    Put.append_eq_some.mpr ⟨[other], back, rfl, backWritten, rfl⟩, rfl⟩

/-- A byte's own width is written as that byte. -/
theorem widthByte_toNat (byte : UInt8) : widthByte byte.toNat = byte := by
  have fits := byte.toNat_lt
  have same : (max 0 (min (byte.toNat : Int) 255)).toNat = byte.toNat := by omega
  rw [widthByte, same, UInt8.ofNat_toNat]

/-- A cell of some width is not written as a continuation. -/
theorem widthByte_pos {width : Int} (positive : 0 < width) : widthByte width ≠ 0 := by
  intro zero
  have same := congrArg UInt8.toNat zero
  have small : (max 0 (min width 255)).toNat < 2 ^ 8 := by omega
  have kept : (widthByte width).toNat = (max 0 (min width 255)).toNat :=
    UInt8.toNat_ofNat_of_lt small
  have none : UInt8.toNat 0 = 0 := rfl
  omega

/-- A cell takes fourteen bytes beside its text. -/
theorem Cell.occupies (cell : Cell) : Occupies (Cell.write cell) (14 + cell.grapheme.length) :=
  cellFields_occupies cell.grapheme (widthByte cell.width) cell.style

section Cells

variable [CkVision]

/-- What the wire can say of a cell: a plain style, a short text exactly where
there is a width, and the width the terminal library measures. -/
structure WireFaithful (cell : Cell) : Prop where
  plain : cell.style.underline = 0 ∧ cell.style.underlineColor = .default
  short : cell.grapheme.length ≤ kMaxCellTextBytes
  texted : cell.grapheme ≠ [] ↔ 0 < cell.width
  derived : cell.width =
    if cell.grapheme = [] then 0 else (CkVision.fromGrapheme cell.grapheme cell.style).width

/-- A cell as it was stated, whatever the terminal library would measure. -/
def asStated : Rebuild := fun text width style => ⟨text, width.toNat, style⟩

/-- A stated cell whose width the terminal library would measure the same. -/
def KeepsWidth (stated : Cell) : Prop :=
  stated.grapheme ≠ [] →
    widthByte (CkVision.fromGrapheme stated.grapheme stated.style).width = widthByte stated.width

/-- A cell that its text, width and style make is read back. -/
theorem Cell.sends [CkVision.Lawful] {cell : Cell} (faithful : WireFaithful cell) :
    Sends (Cell.write cell) (Cell.read measured) cell := by
  obtain ⟨⟨flat, uncoloured⟩, short, texted, derived⟩ := faithful
  have plain : ({ fg := cell.style.fg, bg := cell.style.bg, attrs := cell.style.attrs } : Style) =
      cell.style := by
    rw [← flat, ← uncoloured]
  refine .cons (.str _) <| .require short <| .cons (.u8 _) <| .cons (Color.sends _) <|
    .cons (Color.sends _) <| .cons (.u8 _) <| .cons (.u16 _) <| .require rfl ?_
  by_cases empty : cell.grapheme = []
  · rw [if_pos empty] at derived
    have zero : widthByte cell.width = 0 := by rw [derived]; rfl
    rw [if_pos zero]
    refine .require empty ((Sends.nil _).congr ?_)
    rw [plain, CkVision.Lawful.continuation_eq, ← empty, ← derived]
  · rw [if_neg empty] at derived
    rw [if_neg (widthByte_pos (texted.mp empty))]
    refine .require empty ((Sends.nil _).congr ?_)
    rw [plain, measured]
    have text := CkVision.Lawful.fromGrapheme_grapheme _ cell.style empty
    have style := CkVision.Lawful.fromGrapheme_style _ cell.style empty
    generalize CkVision.fromGrapheme cell.grapheme cell.style = built at *
    cases built
    cases cell
    simp_all

/-- What the fields of a cell amount to, once read. -/
theorem Cell.run_built {rebuild : Rebuild} {text : Bytes} {width : UInt8} {style : Style}
    {input rest : Bytes} {cell : Cell} :
    (if width = 0 then do
        Get.require (text = [])
        pure (CkVision.continuation style)
      else do
        Get.require (text ≠ [])
        pure (rebuild text width style) : Get Cell).run input = some (cell, rest) ↔
      input = rest ∧ (width = 0 ↔ text = []) ∧
        cell = if width = 0 then CkVision.continuation style else rebuild text width style := by
  by_cases zero : width = 0
  · rw [if_pos zero, Get.run_bind_eq_some]
    constructor
    · rintro ⟨_, _, checked, done⟩
      obtain ⟨empty, rfl⟩ := Get.run_require.mp checked
      cases done
      simp [zero, empty]
    · rintro ⟨rfl, texted, rfl⟩
      exact ⟨(), input, Get.run_require_of (texted.mp zero) _, by simp [zero]⟩
  · rw [if_neg zero, Get.run_bind_eq_some]
    constructor
    · rintro ⟨_, _, checked, done⟩
      obtain ⟨texted, rfl⟩ := Get.run_require.mp checked
      cases done
      simp [zero, texted]
    · rintro ⟨rfl, texted, rfl⟩
      exact ⟨(), input, Get.run_require_of (show text ≠ [] from fun empty => zero (texted.mpr empty)) _,
        by simp [zero]⟩

/-- What a reader of cells accepts, and what it makes of it. -/
theorem Cell.run_read {rebuild : Rebuild} {input rest : Bytes} {cell : Cell} :
    (Cell.read rebuild).run input = some (cell, rest) ↔
      ∃ text width fg bg attrs consumed, input = consumed ++ rest ∧
        cellFields text width { fg := fg, bg := bg, attrs := attrs } = some consumed ∧
        text.length ≤ kMaxCellTextBytes ∧ (width = 0 ↔ text = []) ∧
        cell = if width = 0 then CkVision.continuation { fg := fg, bg := bg, attrs := attrs }
          else rebuild text width { fg := fg, bg := bg, attrs := attrs } := by
  constructor
  · intro read
    obtain ⟨text, _, textRead, afterText⟩ := Get.run_bind_eq_some.mp read
    obtain ⟨textBytes, rfl, textWritten⟩ := Echoes.str _ _ _ textRead
    obtain ⟨_, _, shortChecked, afterShort⟩ := Get.run_bind_eq_some.mp afterText
    obtain ⟨short, rfl⟩ := Get.run_require.mp shortChecked
    obtain ⟨width, _, widthRead, afterWidth⟩ := Get.run_bind_eq_some.mp afterShort
    obtain ⟨widthBytes, rfl, widthWritten⟩ := Echoes.u8 _ _ _ widthRead
    obtain ⟨fg, _, fgRead, afterFg⟩ := Get.run_bind_eq_some.mp afterWidth
    obtain ⟨fgBytes, rfl, fgWritten⟩ := Color.echoes _ _ _ fgRead
    obtain ⟨bg, _, bgRead, afterBg⟩ := Get.run_bind_eq_some.mp afterFg
    obtain ⟨bgBytes, rfl, bgWritten⟩ := Color.echoes _ _ _ bgRead
    obtain ⟨attrs, _, attrsRead, afterAttrs⟩ := Get.run_bind_eq_some.mp afterBg
    obtain ⟨attrsBytes, rfl, attrsWritten⟩ := Echoes.u8 _ _ _ attrsRead
    obtain ⟨reserved, _, reservedRead, afterReserved⟩ := Get.run_bind_eq_some.mp afterAttrs
    obtain ⟨reservedBytes, rfl, reservedWritten⟩ := Echoes.u16 _ _ _ reservedRead
    obtain ⟨_, last, zeroChecked, built⟩ := Get.run_bind_eq_some.mp afterReserved
    obtain ⟨rfl, rfl⟩ := Get.run_require.mp zeroChecked
    have written : cellFields text width { fg := fg, bg := bg, attrs := attrs } =
        some (textBytes ++ (widthBytes ++ (fgBytes ++ (bgBytes ++ (attrsBytes ++
          (reservedBytes ++ [])))))) := by
      simp [cellFields, textWritten, widthWritten, fgWritten, bgWritten, attrsWritten,
        reservedWritten]
    obtain ⟨rfl, texted, value⟩ := Cell.run_built.mp built
    exact ⟨text, width, fg, bg, attrs, _, by simp, written, short, texted, value⟩
  · rintro ⟨text, width, fg, bg, attrs, consumed, rfl, written, short, texted, rfl⟩
    have sized := cellFields_occupies _ _ _ consumed written
    have small : consumed.length < 2 ^ 32 := by
      rw [kMaxCellTextBytes] at short
      omega
    refine Sends.cons (.str _) (.require short <| .cons (.u8 _) <| .cons (Color.sends _) <|
      .cons (Color.sends _) <| .cons (.u8 _) <| .cons (.u16 _) <| .require rfl ?_)
      consumed written small rest
    intro bytes done _ after
    cases done
    exact Cell.run_built.mpr ⟨rfl, texted, rfl⟩

/-- A cell comes out as it went in exactly when its stated width is the one the
terminal library measures. -/
theorem Cell.restates [CkVision.Lawful] :
    Restates (Cell.read measured) (Cell.read asStated) Cell.write KeepsWidth := by
  intro input cell rest read
  obtain ⟨text, width, fg, bg, attrs, consumed, split, written, short, texted, built⟩ :=
    Cell.run_read.mp read
  have verbatim := (@Cell.run_read _ asStated _ _ _).mpr
    ⟨text, width, fg, bg, attrs, consumed, split, written, short, texted, rfl⟩
  by_cases zero : width = 0
  · -- A continuation is stated and rebuilt alike.
    have empty := texted.mp zero
    rw [if_pos zero, CkVision.Lawful.continuation_eq] at built verbatim
    refine ⟨consumed, consumed, _, split, verbatim, ?_, rfl, by simp [KeepsWidth]⟩
    rw [built, ← written, empty, zero]
    rfl
  · have some_text : text ≠ [] := fun empty => zero (texted.mpr empty)
    rw [if_neg zero] at built verbatim
    obtain ⟨restated, wrote, same⟩ := cellFields_width (widthByte cell.width) written
    have text_kept : cell.grapheme = text := by
      rw [built]
      exact CkVision.Lawful.fromGrapheme_grapheme _ _ some_text
    have style_kept : cell.style = { fg := fg, bg := bg, attrs := attrs } := by
      rw [built]
      exact CkVision.Lawful.fromGrapheme_style _ _ some_text
    refine ⟨consumed, restated, _, split, verbatim, ?_, ?_, ?_⟩
    · rw [← wrote, Cell.write, text_kept, style_kept]
      rfl
    · rw [cellFields_occupies _ _ _ _ wrote, cellFields_occupies _ _ _ _ written]
    · rw [same, built]
      simp only [KeepsWidth, asStated, widthByte_toNat, measured]
      exact ⟨fun keeps => keeps some_text, fun keeps _ => keeps⟩

end Cells

/-! ### Runs and lines -/

/-- What the wire can say of a run. -/
def CellRun.Faithful [CkVision] (run : CellRun) : Prop :=
  run.runLength ≠ 0 ∧ WireFaithful run.cell

/-- A run takes what was reckoned for it. -/
theorem CellRun.occupies (run : CellRun) : Occupies (CellRun.write run) run.encodedSize :=
  (Occupies.cons (.u16 _) <| .cons (Cell.occupies _) .nil).congr (by
    rw [CellRun.encodedSize]
    omega)

/-- Runs take what was reckoned for them. -/
theorem encodedRuns_occupies (runs : List CellRun) : Occupies (writeRuns runs) (encodedRuns runs) :=
  .counted CellRun.occupies runs

/-- Lines take what was reckoned for them. -/
theorem encodedLines_occupies (lines : List (List CellRun)) :
    Occupies (writeLines lines) (encodedLines lines) :=
  .counted encodedRuns_occupies lines

section Runs

variable [CkVision] [CkVision.Lawful]

/-- A run of cells that can be read back is. -/
theorem CellRun.sends {run : CellRun} (faithful : run.Faithful) :
    Sends (CellRun.write run) (CellRun.read measured) run :=
  .cons (.u16 _) <| .require faithful.1 <| .cons (Cell.sends faithful.2) <| .nil _

/-- A run read with its cells measured again is the one that was stated, but for the widths. -/
theorem CellRun.restates : Restates (CellRun.read measured) (CellRun.read asStated)
    CellRun.write fun stated => KeepsWidth stated.cell :=
  .of_fields <| .keep .u16 fun _ => .require fun _ => .field Cell.restates fun _ _ =>
    .done rfl (by simp)

/-- Runs are read back if each of them is. -/
theorem readRuns_sends {runs : List CellRun} (faithful : ∀ run ∈ runs, run.Faithful) :
    Sends (writeRuns runs) (readRuns measured) runs :=
  .counted (by decide) CellRun.occupies (fun run => Nat.le_add_right 16 _) fun run member =>
    CellRun.sends (faithful run member)

/-- Runs are restated run by run. -/
theorem readRuns_restates : Restates (readRuns measured) (readRuns asStated) writeRuns
    fun stated => ∀ run ∈ stated, KeepsWidth run.cell :=
  .counted CellRun.restates

/-- Lines are read back if every run in them is. -/
theorem readLines_sends {lines : List (List CellRun)}
    (faithful : ∀ run ∈ lines.flatten, run.Faithful) :
    Sends (writeLines lines) (readLines measured) lines :=
  .counted (by decide) encodedRuns_occupies (fun runs => Nat.le_add_right 4 _) fun line member =>
    readRuns_sends fun run inside => faithful run (List.mem_flatten.mpr ⟨line, member, inside⟩)

/-- Lines are restated run by run. -/
theorem readLines_restates : Restates (readLines measured) (readLines asStated) writeLines
    fun stated => ∀ run ∈ stated.flatten, KeepsWidth run.cell :=
  (Restates.counted readRuns_restates).congr fun _ => List.forall_mem_flatten.symm

end Runs

/-! ### Enumerations -/

section Enumerations

variable {Enum : Type} [DecidableEq Enum] [WireEnum Enum]

/-- An enumerated value takes one byte. -/
theorem writeEnum_occupies (value : Enum) : Occupies (writeEnum value) 1 := .u8 _

/-- A reader that knows the highest declared value reads every declared value. -/
theorem enumOf_sends {highest : UInt8}
    (covered : (WireEnum.values : List Enum).length = highest.toNat + 1) (value : Enum) :
    Sends (writeEnum value) (enumOf Enum highest) value := by
  refine .convert (.u8 _) ?_
  have below := WireEnum.toWire_toNat_lt value
  rw [if_neg (by rw [gt_iff_lt, UInt8.lt_iff_toNat_lt]; omega), WireEnum.ofWire_toWire]

/-- A value read is written as it was read. -/
theorem enumOf_echoes {highest : UInt8} : Echoes (enumOf Enum highest) writeEnum :=
  .convert .u8 fun stated value means => by
    split at means
    · cases means
    · rw [writeEnum, WireEnum.toWire_ofWire means]

end Enumerations

/-! ### Parts of messages -/

/-- A rectangle takes eight bytes. -/
theorem Rect.occupies (value : Rect) : Occupies (Rect.write value) 8 :=
  .cons (.i16 _) <| .cons (.i16 _) <| .cons (.u16 _) <| .cons (.u16 _) <| .nil

theorem Rect.sends (value : Rect) : Sends (Rect.write value) Rect.read value :=
  .cons (.i16 _) <| .cons (.i16 _) <| .cons (.u16 _) <| .cons (.u16 _) <| .nil _

theorem Rect.echoes : Echoes Rect.read Rect.write :=
  .of_fields <| .field .i16 fun _ => .field .i16 fun _ => .field .u16 fun _ =>
    .field .u16 fun _ => .done rfl

/-- A share takes eight bytes. -/
theorem TileFraction.occupies (value : TileFraction) : Occupies (TileFraction.write value) 8 :=
  .cons (.u16 _) <| .cons (.u16 _) <| .cons (.u16 _) <| .cons (.u16 _) <| .nil

theorem TileFraction.sends (value : TileFraction) :
    Sends (TileFraction.write value) TileFraction.read value :=
  .cons (.u16 _) <| .cons (.u16 _) <| .cons (.u16 _) <| .cons (.u16 _) <| .nil _

theorem TileFraction.echoes : Echoes TileFraction.read TileFraction.write :=
  .of_fields <| .field .u16 fun _ => .field .u16 fun _ => .field .u16 fun _ =>
    .field .u16 fun _ => .done rfl

/-- A cursor takes seven bytes. -/
theorem CursorOp.occupies (value : CursorOp) : Occupies (CursorOp.write value) 7 :=
  .cons (.u16 _) <| .cons (.u16 _) <| .cons (.u8 _) <| .cons (.u8 _) <| .cons (.u8 _) <| .nil

theorem CursorOp.sends (value : CursorOp) : Sends (CursorOp.write value) CursorOp.read value :=
  .cons (.u16 _) <| .cons (.u16 _) <| .cons (.u8 _) <| .cons (.u8 _) <| .cons (.u8 _) <| .nil _

theorem CursorOp.echoes : Echoes CursorOp.read CursorOp.write :=
  .of_fields <| .field .u16 fun _ => .field .u16 fun _ => .field .u8 fun _ => .field .u8 fun _ =>
    .field .u8 fun _ => .done rfl

/-- A job's description takes twenty-five bytes. -/
theorem PrintJobInfo.occupies (value : PrintJobInfo) : Occupies (PrintJobInfo.write value) 25 :=
  .cons (.u64 _) <| .cons (writeEnum_occupies _) <| .cons (.u32 _) <| .cons (.u32 _) <|
    .cons (.i64 _) <| .nil

theorem PrintJobInfo.sends (value : PrintJobInfo) :
    Sends (PrintJobInfo.write value) PrintJobInfo.read value :=
  .cons (.u64 _) <| .cons (enumOf_sends rfl _) <| .cons (.u32 _) <| .cons (.u32 _) <|
    .cons (.i64 _) <| .nil _

theorem PrintJobInfo.echoes : Echoes PrintJobInfo.read PrintJobInfo.write :=
  .of_fields <| .field .u64 fun _ => .field enumOf_echoes fun _ => .field .u32 fun _ =>
    .field .u32 fun _ => .field .i64 fun _ => .done rfl

/-- A session takes twenty-nine bytes beside its name. -/
theorem SessionInfo.occupies (session : SessionInfo) :
    Occupies (SessionInfo.write session) (29 + session.name.length) :=
  (Occupies.cons (.u64 _) <| .cons (.str _) <| .cons (.u16 _) <| .cons (.u8 _) <|
    .cons (.i64 _) <| .cons (.i64 _) <| .nil).congr (by omega)

theorem SessionInfo.sends (session : SessionInfo) :
    Sends (SessionInfo.write session) SessionInfo.read session :=
  .cons (.u64 _) <| .cons (.str _) <| .cons (.u16 _) <| .cons (.u8 _) <| .cons (.i64 _) <|
    .cons (.i64 _) <| .nil _

theorem SessionInfo.echoes : Echoes SessionInfo.read SessionInfo.write :=
  .of_fields <| .field .u64 fun _ => .field .str fun _ => .field .u16 fun _ => .field .u8 fun _ =>
    .field .i64 fun _ => .field .i64 fun _ => .done rfl

/-- A window takes twenty-seven bytes. -/
theorem LayoutEntry.occupies (entry : LayoutEntry) : Occupies (LayoutEntry.write entry) 27 :=
  .cons (.u64 _) <| .cons (Rect.occupies _) <| .cons (.u16 _) <| .cons (.u8 _) <|
    .cons (TileFraction.occupies _) <| .nil

theorem LayoutEntry.sends (entry : LayoutEntry) :
    Sends (LayoutEntry.write entry) LayoutEntry.read entry :=
  .cons (.u64 _) <| .cons (Rect.sends _) <| .cons (.u16 _) <| .cons (.u8 _) <|
    .cons (TileFraction.sends _) <| .nil _

theorem LayoutEntry.echoes : Echoes LayoutEntry.read LayoutEntry.write :=
  .of_fields <| .field .u64 fun _ => .field Rect.echoes fun _ => .field .u16 fun _ =>
    .field .u8 fun _ => .field TileFraction.echoes fun _ => .done rfl

/-- As many image ids as there are can be read back. -/
theorem images_sends (images : List UInt64) :
    Sends (Put.counted Put.u64 images) (Get.counted 8 Get.u64) images :=
  .counted (by decide) .u64 (fun _ => le_refl 8) fun image _ => .u64 image

/-- As many jobs as there are can be read back. -/
theorem printJobs_sends (jobs : List PrintJobInfo) :
    Sends (Put.counted PrintJobInfo.write jobs) (Get.counted 25 PrintJobInfo.read) jobs :=
  .counted (by decide) PrintJobInfo.occupies (fun _ => le_refl 25) fun job _ => job.sends

/-- As many windows as there are can be read back. -/
theorem layoutEntries_sends (entries : List LayoutEntry) :
    Sends (Put.counted LayoutEntry.write entries) (Get.counted 27 LayoutEntry.read) entries :=
  .counted (by decide) LayoutEntry.occupies (fun _ => le_refl 27) fun entry _ => entry.sends

/-- As many sessions as there are can be read back. -/
theorem sessions_sends (sessions : List SessionInfo) :
    Sends (Put.counted SessionInfo.write sessions) (Get.counted 29 SessionInfo.read) sessions :=
  .counted (by decide) SessionInfo.occupies (fun _ => Nat.le_add_right 29 _) fun session _ =>
    session.sends

/-! ### Terminal states -/

/-- Every run of a terminal's grid and of its history. -/
def TerminalState.runs (state : TerminalState) : List CellRun :=
  state.grid ++ state.scrollback.flatten

/-- A terminal takes what was reckoned for it. -/
theorem TerminalState.occupies (state : TerminalState) :
    Occupies (TerminalState.write state) state.encodedSize :=
  (Occupies.cons (.u64 _) <| .cons (.u16 _) <| .cons (.str _) <| .cons (.str _) <|
    .cons (.u8 _) <| .cons (.u16 _) <| .cons (.u16 _) <| .cons (Rect.occupies _) <|
    .cons (.u16 _) <| .cons (.u8 _) <| .cons (TileFraction.occupies _) <|
    .cons (CursorOp.occupies _) <| .cons (.u32 _) <| .cons (encodedRuns_occupies _) <|
    .cons (encodedLines_occupies _) <| .cons (.counted .u64 _) <| .cons (writeEnum_occupies _) <|
    .cons (writeEnum_occupies _) <| .cons (writeEnum_occupies _) <| .cons (.u32 _) <|
    .cons (.counted PrintJobInfo.occupies _) <| .cons (.u64 _) <| .cons (.u8 _) <|
    .cons (.i32 _) <| .cons (.u8 _) <| .cons (writeEnum_occupies _) <| .cons (.str _) <|
    .cons (.u32 _) <| .cons (.u32 _) <| .nil).congr (by
      simp only [TerminalState.encodedSize, List.map_const', List.sum_replicate, smul_eq_mul]
      omega)

section States

variable [CkVision] [CkVision.Lawful]

/-- A terminal is read back if every run of its screen and history is. -/
theorem TerminalState.sends {state : TerminalState} (faithful : ∀ run ∈ state.runs, run.Faithful) :
    Sends (TerminalState.write state) (TerminalState.read measured) state := by
  have grid : ∀ run ∈ state.grid, run.Faithful := fun run member =>
    faithful run (List.mem_append_left _ member)
  have scrollback : ∀ run ∈ state.scrollback.flatten, run.Faithful := fun run member =>
    faithful run (List.mem_append_right _ member)
  exact
    .cons (.u64 _) <| .cons (.u16 _) <| .cons (.str _) <| .cons (.str _) <| .cons (.u8 _) <|
      .cons (.u16 _) <| .cons (.u16 _) <| .cons (Rect.sends _) <| .cons (.u16 _) <|
      .cons (.u8 _) <| .cons (TileFraction.sends _) <| .cons (CursorOp.sends _) <|
      .cons (.u32 _) <| .cons (readRuns_sends grid) <| .cons (readLines_sends scrollback) <|
      .cons (images_sends _) <| .cons (enumOf_sends rfl _) <| .cons (enumOf_sends rfl _) <|
      .cons (enumOf_sends rfl _) <| .cons (.u32 _) <| .cons (printJobs_sends _) <|
      .cons (.u64 _) <| .cons (.u8 _) <| .cons (.i32 _) <| .cons (.u8 _) <|
      .cons (enumOf_sends rfl _) <| .cons (.str _) <| .cons (.u32 _) <| .cons (.u32 _) <| .nil _

/-- A terminal is restated run by run. -/
theorem TerminalState.restates : Restates (TerminalState.read measured)
    (TerminalState.read asStated) TerminalState.write
    fun stated => ∀ run ∈ stated.runs, KeepsWidth run.cell :=
  .of_fields <| .keep .u64 fun _ => .keep .u16 fun _ => .keep .str fun _ => .keep .str fun _ =>
    .keep .u8 fun _ => .keep .u16 fun _ => .keep .u16 fun _ => .keep Rect.echoes fun _ =>
    .keep .u16 fun _ => .keep .u8 fun _ => .keep TileFraction.echoes fun _ =>
    .keep CursorOp.echoes fun _ => .keep .u32 fun _ => .field readRuns_restates fun _ _ =>
    .field readLines_restates fun _ _ => .keep (.counted .u64) fun _ =>
    .keep enumOf_echoes fun _ => .keep enumOf_echoes fun _ => .keep enumOf_echoes fun _ =>
    .keep .u32 fun _ => .keep (.counted PrintJobInfo.echoes) fun _ => .keep .u64 fun _ =>
    .keep .u8 fun _ => .keep .i32 fun _ => .keep .u8 fun _ => .keep enumOf_echoes fun _ =>
    .keep .str fun _ => .keep .u32 fun _ => .keep .u32 fun _ => .done rfl (by
      simp only [TerminalState.runs, List.forall_mem_append, true_and])

end States

/-! ### Grid operations -/

/-- Every run an operation carries. -/
def GridOp.runs : GridOp → List CellRun
  | .cells op => op.runs
  | .scrollbackPush op => op.lines.flatten
  | _ => []

/-- The bytes of an operation, its tag included. -/
def GridOp.encodedSize : GridOp → Nat
  | .scroll _ => 7
  | .cells op => op.encodedSize
  | .cursor _ => 8
  | .modes _ => 9
  | .title op => 3 + op.title.length
  | .scrollbackPush op => 1 + encodedLines op.lines
  | .resize _ => 5

/-- An operation takes what was reckoned for it. -/
theorem GridOp.occupies (op : GridOp) : Occupies (GridOp.write op) op.encodedSize := by
  have tag : ∀ tag : GridOpTag, Occupies (writeEnum tag) 1 := writeEnum_occupies
  cases op with
  | scroll op => exact .cons (tag _) <| .cons (.u16 _) <| .cons (.u16 _) <| .cons (.i16 _) .nil
  | cells op =>
      refine (Occupies.cons (tag _) <| .cons (.u16 _) <| .cons (.u16 _) <|
        .cons (encodedRuns_occupies _) .nil).congr ?_
      simp only [GridOp.encodedSize, CellsOp.encodedSize]
      omega
  | cursor op => exact .cons (tag _) <| .cons (CursorOp.occupies _) .nil
  | modes op => exact .cons (tag _) <| .cons (.u32 _) <| .cons (.u32 _) .nil
  | title op =>
      refine (Occupies.cons (tag _) <| .cons (.str _) .nil).congr ?_
      simp only [GridOp.encodedSize]
      omega
  | scrollbackPush op =>
      have lines := encodedLines_occupies op.lines
      exact (Occupies.cons (tag _) <| .cons lines .nil).congr rfl
  | resize op => exact .cons (tag _) <| .cons (.u16 _) <| .cons (.u16 _) .nil

/-- No operation takes less than three bytes. -/
theorem GridOp.encodedSize_ge (op : GridOp) : 3 ≤ op.encodedSize := by
  cases op <;> simp only [GridOp.encodedSize, CellsOp.encodedSize, encodedLines] <;> omega

section Operations

variable [CkVision] [CkVision.Lawful]

/-- An operation is read back if every run in it is. -/
theorem GridOp.sends {op : GridOp} (faithful : ∀ run ∈ op.runs, run.Faithful) :
    Sends (GridOp.write op) (GridOp.read measured) op := by
  have tag : ∀ tag : GridOpTag, Sends (writeEnum tag) (enumOf GridOpTag 6) tag := enumOf_sends rfl
  cases op with
  | scroll op =>
      exact .cons (tag .scroll) <| .cons (.u16 _) <| .cons (.u16 _) <| .cons (.i16 _) <| .nil _
  | cells op =>
      exact .cons (tag .cells) <| .cons (.u16 _) <| .cons (.u16 _) <|
        .cons (readRuns_sends faithful) <| .nil _
  | cursor op => exact .cons (tag .cursor) <| .cons (CursorOp.sends _) <| .nil _
  | modes op => exact .cons (tag .modes) <| .cons (.u32 _) <| .cons (.u32 _) <| .nil _
  | title op => exact .cons (tag .title) <| .cons (.str _) <| .nil _
  | scrollbackPush op =>
      exact .cons (tag .scrollbackPush) <| .cons (readLines_sends faithful) <| .nil _
  | resize op => exact .cons (tag .resize) <| .cons (.u16 _) <| .cons (.u16 _) <| .nil _

/-- An operation is restated run by run. -/
theorem GridOp.restates : Restates (GridOp.read measured) (GridOp.read asStated) GridOp.write
    fun stated => ∀ run ∈ stated.runs, KeepsWidth run.cell := by
  refine .of_fields <| .keep (enumOf_echoes : Echoes (enumOf GridOpTag 6) writeEnum) fun tag => ?_
  cases tag with
  | scroll =>
      exact .keep .u16 fun _ => .keep .u16 fun _ => .keep .i16 fun _ =>
        .done rfl (by simp [GridOp.runs])
  | cells =>
      exact .keep .u16 fun _ => .keep .u16 fun _ => .field readRuns_restates fun _ _ =>
        .done rfl (by simp [GridOp.runs])
  | cursor => exact .keep CursorOp.echoes fun _ => .done rfl (by simp [GridOp.runs])
  | modes => exact .keep .u32 fun _ => .keep .u32 fun _ => .done rfl (by simp [GridOp.runs])
  | title => exact .keep .str fun _ => .done rfl (by simp [GridOp.runs])
  | scrollbackPush =>
      exact .field readLines_restates fun _ _ => .done rfl (by simp only [GridOp.runs, true_and])
  | resize => exact .keep .u16 fun _ => .keep .u16 fun _ => .done rfl (by simp [GridOp.runs])

end Operations

/-! ### Messages -/

/-- What carries nothing is read back from nothing. -/
theorem Empty.sends {type : MessageType} (message : Empty type) :
    Sends (Empty.write message) Empty.read message :=
  .nil _

theorem Empty.echoes {type : MessageType} : Echoes Empty.read (@Empty.write type) :=
  .of_fields <| .done rfl

theorem TerminalRef.sends {type : MessageType} (message : TerminalRef type) :
    Sends (TerminalRef.write message) TerminalRef.read message :=
  .cons (.u64 _) <| .nil _

theorem TerminalRef.echoes {type : MessageType} : Echoes TerminalRef.read (@TerminalRef.write type) :=
  .of_fields <| .field .u64 fun _ => .done rfl

theorem ImageRef.sends {type : MessageType} (message : ImageRef type) :
    Sends (ImageRef.write message) ImageRef.read message :=
  .cons (.u64 _) <| .nil _

theorem ImageRef.echoes {type : MessageType} : Echoes ImageRef.read (@ImageRef.write type) :=
  .of_fields <| .field .u64 fun _ => .done rfl

theorem Nonce.sends {type : MessageType} (message : Nonce type) :
    Sends (Nonce.write message) Nonce.read message :=
  .cons (.u64 _) <| .nil _

theorem Nonce.echoes {type : MessageType} : Echoes Nonce.read (@Nonce.write type) :=
  .of_fields <| .field .u64 fun _ => .done rfl

theorem Hello.sends (message : Hello) : Sends (Hello.write message) Hello.read message :=
  .cons (.u32 _) <| .cons (.str _) <| .cons (enumOf_sends rfl _) <| .nil _

theorem Hello.echoes : Echoes Hello.read Hello.write :=
  .of_fields <| .field .u32 fun _ => .field .str fun _ => .field enumOf_echoes fun _ => .done rfl

theorem HelloAck.sends (message : HelloAck) :
    Sends (HelloAck.write message) HelloAck.read message :=
  .cons (.u32 _) <| .cons (.str _) <| .nil _

theorem HelloAck.echoes : Echoes HelloAck.read HelloAck.write :=
  .of_fields <| .field .u32 fun _ => .field .str fun _ => .done rfl

theorem Refuse.sends (message : Refuse) : Sends (Refuse.write message) Refuse.read message :=
  .cons (.str _) <| .nil _

theorem Refuse.echoes : Echoes Refuse.read Refuse.write :=
  .of_fields <| .field .str fun _ => .done rfl

theorem NewSession.sends (message : NewSession) :
    Sends (NewSession.write message) NewSession.read message :=
  .cons (.str _) <| .cons (.u8 _) <| .cons (.str _) <| .nil _

theorem NewSession.echoes : Echoes NewSession.read NewSession.write :=
  .of_fields <| .field .str fun _ => .field .u8 fun _ => .field .str fun _ => .done rfl

theorem Attach.sends (message : Attach) : Sends (Attach.write message) Attach.read message :=
  .cons (.u64 _) <| .cons (.u16 _) <| .cons (.u16 _) <| .cons (.u16 _) <| .cons (.u16 _) <|
    .cons (.u8 _) <| .cons (.u8 _) <| .nil _

theorem Attach.echoes : Echoes Attach.read Attach.write :=
  .of_fields <| .field .u64 fun _ => .field .u16 fun _ => .field .u16 fun _ =>
    .field .u16 fun _ => .field .u16 fun _ => .field .u8 fun _ => .field .u8 fun _ => .done rfl

theorem SetReaderMode.sends (message : SetReaderMode) :
    Sends (SetReaderMode.write message) SetReaderMode.read message :=
  .cons (.u8 _) <| .cons (.u8 _) <| .nil _

theorem SetReaderMode.echoes : Echoes SetReaderMode.read SetReaderMode.write :=
  .of_fields <| .field .u8 fun _ => .field .u8 fun _ => .done rfl

theorem ReaderMode.sends (message : ReaderMode) :
    Sends (ReaderMode.write message) ReaderMode.read message :=
  .cons (.u8 _) <| .nil _

theorem ReaderMode.echoes : Echoes ReaderMode.read ReaderMode.write :=
  .of_fields <| .field .u8 fun _ => .done rfl

theorem ClientResize.sends (message : ClientResize) :
    Sends (ClientResize.write message) ClientResize.read message :=
  .cons (.u16 _) <| .cons (.u16 _) <| .cons (.u16 _) <| .cons (.u16 _) <| .nil _

theorem ClientResize.echoes : Echoes ClientResize.read ClientResize.write :=
  .of_fields <| .field .u16 fun _ => .field .u16 fun _ => .field .u16 fun _ =>
    .field .u16 fun _ => .done rfl

theorem NewTerminal.sends (message : NewTerminal) :
    Sends (NewTerminal.write message) NewTerminal.read message :=
  .cons (.u64 _) <| .cons (.str _) <| .cons (Rect.sends _) <| .cons (.u8 _) <| .nil _

theorem NewTerminal.echoes : Echoes NewTerminal.read NewTerminal.write :=
  .of_fields <| .field .u64 fun _ => .field .str fun _ => .field Rect.echoes fun _ =>
    .field .u8 fun _ => .done rfl

theorem MoveTerminal.sends (message : MoveTerminal) :
    Sends (MoveTerminal.write message) MoveTerminal.read message :=
  .cons (.u64 _) <| .cons (.u64 _) <| .cons (.u8 _) <| .nil _

theorem MoveTerminal.echoes : Echoes MoveTerminal.read MoveTerminal.write :=
  .of_fields <| .field .u64 fun _ => .field .u64 fun _ => .field .u8 fun _ => .done rfl

theorem CloseTerminal.sends (message : CloseTerminal) :
    Sends (CloseTerminal.write message) CloseTerminal.read message :=
  .cons (.u64 _) <| .cons (.u8 _) <| .cons (.u16 _) <| .nil _

theorem CloseTerminal.echoes : Echoes CloseTerminal.read CloseTerminal.write :=
  .of_fields <| .field .u64 fun _ => .field .u8 fun _ => .field .u16 fun _ => .done rfl

theorem MoveResize.sends (message : MoveResize) :
    Sends (MoveResize.write message) MoveResize.read message :=
  .cons (.u64 _) <| .cons (Rect.sends _) <| .nil _

theorem MoveResize.echoes : Echoes MoveResize.read MoveResize.write :=
  .of_fields <| .field .u64 fun _ => .field Rect.echoes fun _ => .done rfl

theorem ZoomTerm.sends (message : ZoomTerm) :
    Sends (ZoomTerm.write message) ZoomTerm.read message :=
  .cons (.u64 _) <| .cons (.u8 _) <| .nil _

theorem ZoomTerm.echoes : Echoes ZoomTerm.read ZoomTerm.write :=
  .of_fields <| .field .u64 fun _ => .field .u8 fun _ => .done rfl

theorem RenameSession.sends (message : RenameSession) :
    Sends (RenameSession.write message) RenameSession.read message :=
  .cons (.u64 _) <| .cons (.str _) <| .nil _

theorem RenameSession.echoes : Echoes RenameSession.read RenameSession.write :=
  .of_fields <| .field .u64 fun _ => .field .str fun _ => .done rfl

theorem RenameTerminal.sends (message : RenameTerminal) :
    Sends (RenameTerminal.write message) RenameTerminal.read message :=
  .cons (.u64 _) <| .cons (.str _) <| .nil _

theorem RenameTerminal.echoes : Echoes RenameTerminal.read RenameTerminal.write :=
  .of_fields <| .field .u64 fun _ => .field .str fun _ => .done rfl

theorem KillSession.sends (message : KillSession) :
    Sends (KillSession.write message) KillSession.read message :=
  .cons (.u64 _) <| .cons (.u8 _) <| .cons (.u16 _) <| .nil _

theorem KillSession.echoes : Echoes KillSession.read KillSession.write :=
  .of_fields <| .field .u64 fun _ => .field .u8 fun _ => .field .u16 fun _ => .done rfl

/-- What was typed is read back if it is no longer than a reader accepts. -/
theorem Input.sends (message : Input)
    (within : message.bytes.length ≤ kMaxStringBytes) :
    Sends (Input.write message) Input.read message :=
  .cons (.u64 _) <| .cons (.blob _ within) <| .nil _

theorem Input.echoes : Echoes Input.read Input.write :=
  .of_fields <| .field .u64 fun _ => .field (.blob kMaxStringBytes) fun _ => .done rfl

/-- A chunk of a paste is read back if it is no longer than a reader accepts. -/
theorem PasteChunk.sends (message : PasteChunk)
    (within : message.bytes.length ≤ kMaxStringBytes) :
    Sends (PasteChunk.write message) PasteChunk.read message :=
  .cons (.u64 _) <| .cons (.u32 _) <| .cons (.u8 _) <| .cons (.blob _ within) <| .nil _

theorem PasteChunk.echoes : Echoes PasteChunk.read PasteChunk.write :=
  .of_fields <| .field .u64 fun _ => .field .u32 fun _ => .field .u8 fun _ =>
    .field (.blob kMaxStringBytes) fun _ => .done rfl

theorem PasteAck.sends (message : PasteAck) :
    Sends (PasteAck.write message) PasteAck.read message :=
  .cons (.u32 _) <| .nil _

theorem PasteAck.echoes : Echoes PasteAck.read PasteAck.write :=
  .of_fields <| .field .u32 fun _ => .done rfl

theorem SessionList.sends (message : SessionList) :
    Sends (SessionList.write message) SessionList.read message :=
  .cons (sessions_sends _) <| .nil _

theorem SessionList.echoes : Echoes SessionList.read SessionList.write :=
  .of_fields <| .field (.counted SessionInfo.echoes) fun _ => .done rfl

/-- A snapshot is read back if every run in it is. -/
theorem Attached.sends [CkVision] [CkVision.Lawful] {message : Attached}
    (faithful : ∀ state ∈ message.snapshot.terminals, ∀ run ∈ state.runs, run.Faithful) :
    Sends (Attached.write message) (Attached.read measured) message :=
  .cons (.u64 _) <| .cons (.u16 _) <| .cons (.u16 _) <| .cons (.u64 _) <|
    .cons (.counted (by decide) TerminalState.occupies
      (fun state => by simp only [TerminalState.encodedSize, encodedRuns, encodedLines]; omega)
      fun state member => TerminalState.sends (faithful state member)) <| .nil _

/-- A snapshot is restated run by run. -/
theorem Attached.restates [CkVision] [CkVision.Lawful] :
    Restates (Attached.read measured) (Attached.read asStated) Attached.write
      fun stated => ∀ state ∈ stated.snapshot.terminals, ∀ run ∈ state.runs,
        KeepsWidth run.cell :=
  .of_fields <| .keep .u64 fun _ => .keep .u16 fun _ => .keep .u16 fun _ => .keep .u64 fun _ =>
    .field (.counted TerminalState.restates) fun _ _ => .done rfl (by simp only [true_and])

theorem Detached.sends (message : Detached) :
    Sends (Detached.write message) Detached.read message :=
  .cons (enumOf_sends rfl _) <| .cons (.str _) <| .nil _

theorem Detached.echoes : Echoes Detached.read Detached.write :=
  .of_fields <| .field enumOf_echoes fun _ => .field .str fun _ => .done rfl

theorem SetLayout.sends (message : SetLayout) :
    Sends (SetLayout.write message) SetLayout.read message :=
  .cons (layoutEntries_sends _) <| .nil _

theorem SetLayout.echoes : Echoes SetLayout.read SetLayout.write :=
  .of_fields <| .field (.counted LayoutEntry.echoes) fun _ => .done rfl

theorem WatchStats.sends (message : WatchStats) :
    Sends (WatchStats.write message) WatchStats.read message :=
  .cons (.u8 _) <| .nil _

theorem WatchStats.echoes : Echoes WatchStats.read WatchStats.write :=
  .of_fields <| .field .u8 fun _ => .done rfl

theorem SetDesktopSize.sends (message : SetDesktopSize) :
    Sends (SetDesktopSize.write message) SetDesktopSize.read message :=
  .cons (.u16 _) <| .cons (.u16 _) <| .nil _

theorem SetDesktopSize.echoes : Echoes SetDesktopSize.read SetDesktopSize.write :=
  .of_fields <| .field .u16 fun _ => .field .u16 fun _ => .done rfl

theorem LayoutDelta.sends (message : LayoutDelta) :
    Sends (LayoutDelta.write message) LayoutDelta.read message :=
  .cons (.u64 _) <| .cons (layoutEntries_sends _) <| .cons (.u64 _) <| .cons (.u16 _) <|
    .cons (.u16 _) <| .nil _

theorem LayoutDelta.echoes : Echoes LayoutDelta.read LayoutDelta.write :=
  .of_fields <| .field .u64 fun _ => .field (.counted LayoutEntry.echoes) fun _ =>
    .field .u64 fun _ => .field .u16 fun _ => .field .u16 fun _ => .done rfl

theorem TermOpened.sends (message : TermOpened) :
    Sends (TermOpened.write message) TermOpened.read message :=
  .cons (.u64 _) <| .cons (.u64 _) <| .cons (.u16 _) <| .cons (Rect.sends _) <| .cons (.str _) <|
    .cons (.u16 _) <| .cons (.u16 _) <| .nil _

theorem TermOpened.echoes : Echoes TermOpened.read TermOpened.write :=
  .of_fields <| .field .u64 fun _ => .field .u64 fun _ => .field .u16 fun _ =>
    .field Rect.echoes fun _ => .field .str fun _ => .field .u16 fun _ => .field .u16 fun _ =>
    .done rfl

theorem TermClosed.sends (message : TermClosed) :
    Sends (TermClosed.write message) TermClosed.read message :=
  .cons (.u64 _) <| .cons (.u8 _) <| .cons (.i32 _) <| .cons (.u8 _) <| .nil _

theorem TermClosed.echoes : Echoes TermClosed.read TermClosed.write :=
  .of_fields <| .field .u64 fun _ => .field .u8 fun _ => .field .i32 fun _ => .field .u8 fun _ =>
    .done rfl

theorem TermMeta.sends (message : TermMeta) :
    Sends (TermMeta.write message) TermMeta.read message :=
  .cons (.u64 _) <| .cons (.u16 _) <| .cons (.str _) <| .cons (.str _) <| .cons (.u8 _) <|
    .cons (.u32 _) <| .cons (.u32 _) <| .nil _

theorem TermMeta.echoes : Echoes TermMeta.read TermMeta.write :=
  .of_fields <| .field .u64 fun _ => .field .u16 fun _ => .field .str fun _ =>
    .field .str fun _ => .field .u8 fun _ => .field .u32 fun _ => .field .u32 fun _ => .done rfl

/-- A delta is read back if every run in it is. -/
theorem GridDelta.sends [CkVision] [CkVision.Lawful] {message : GridDelta}
    (faithful : ∀ op ∈ message.ops, ∀ run ∈ op.runs, run.Faithful) :
    Sends (GridDelta.write message) (GridDelta.read measured) message :=
  .cons (.u64 _) <| .cons (.u32 _) <|
    .cons (.counted (by decide) GridOp.occupies GridOp.encodedSize_ge
      fun op member => GridOp.sends (faithful op member)) <| .nil _

/-- A delta is restated run by run. -/
theorem GridDelta.restates [CkVision] [CkVision.Lawful] :
    Restates (GridDelta.read measured) (GridDelta.read asStated) GridDelta.write
      fun stated => ∀ op ∈ stated.ops, ∀ run ∈ op.runs, KeepsWidth run.cell :=
  .of_fields <| .keep .u64 fun _ => .keep .u32 fun _ =>
    .field (.counted GridOp.restates) fun _ _ => .done rfl (by simp only [true_and])

theorem ImageAddBegin.sends (message : ImageAddBegin) :
    Sends (ImageAddBegin.write message) ImageAddBegin.read message :=
  .cons (.u64 _) <| .cons (.u16 _) <| .cons (.u16 _) <| .nil _

theorem ImageAddBegin.echoes : Echoes ImageAddBegin.read ImageAddBegin.write :=
  .of_fields <| .field .u64 fun _ => .field .u16 fun _ => .field .u16 fun _ => .done rfl

/-- A chunk of an image is read back if it is no longer than a reader accepts. -/
theorem ImageChunk.sends (message : ImageChunk)
    (within : message.bytes.length ≤ kMaxChunkPayloadBytes) :
    Sends (ImageChunk.write message) ImageChunk.read message :=
  .cons (.u64 _) <| .cons (.u32 _) <| .cons (.blob _ within) <| .nil _

theorem ImageChunk.echoes : Echoes ImageChunk.read ImageChunk.write :=
  .of_fields <| .field .u64 fun _ => .field .u32 fun _ =>
    .field (.blob kMaxChunkPayloadBytes) fun _ => .done rfl

theorem ImagePlace.sends (message : ImagePlace) :
    Sends (ImagePlace.write message) ImagePlace.read message :=
  .cons (.u64 _) <| .cons (.u64 _) <| .cons (Rect.sends _) <| .cons (.i16 _) <| .cons (.i16 _) <|
    .nil _

theorem ImagePlace.echoes : Echoes ImagePlace.read ImagePlace.write :=
  .of_fields <| .field .u64 fun _ => .field .u64 fun _ => .field Rect.echoes fun _ =>
    .field .i16 fun _ => .field .i16 fun _ => .done rfl

theorem ImageRemove.sends (message : ImageRemove) :
    Sends (ImageRemove.write message) ImageRemove.read message :=
  .cons (.u64 _) <| .cons (.u64 _) <| .nil _

theorem ImageRemove.echoes : Echoes ImageRemove.read ImageRemove.write :=
  .of_fields <| .field .u64 fun _ => .field .u64 fun _ => .done rfl

/-- A text for the clipboard is read back if it is no longer than a reader accepts. -/
theorem ClipboardSet.sends (message : ClipboardSet)
    (within : message.text.length ≤ kMaxStringBytes) :
    Sends (ClipboardSet.write message) ClipboardSet.read message :=
  .cons (.u64 _) <| .cons (.blob _ within) <| .nil _

theorem ClipboardSet.echoes : Echoes ClipboardSet.read ClipboardSet.write :=
  .of_fields <| .field .u64 fun _ => .field (.blob kMaxStringBytes) fun _ => .done rfl

theorem TermDiagnostic.sends (message : TermDiagnostic) :
    Sends (TermDiagnostic.write message) TermDiagnostic.read message :=
  .cons (.u64 _) <| .cons (enumOf_sends rfl _) <| .cons (.str _) <| .nil _

theorem TermDiagnostic.echoes : Echoes TermDiagnostic.read TermDiagnostic.write :=
  .of_fields <| .field .u64 fun _ => .field enumOf_echoes fun _ => .field .str fun _ => .done rfl

theorem TermStats.sends (message : TermStats) :
    Sends (TermStats.write message) TermStats.read message :=
  .cons (.u64 _) <| .cons (.u32 _) <| .cons (.u64 _) <| .cons (.u64 _) <| .cons (.u8 _) <|
    .cons (enumOf_sends rfl _) <| .cons (enumOf_sends rfl _) <| .cons (enumOf_sends rfl _) <|
    .cons (.u32 _) <| .cons (.u32 _) <| .cons (.u32 _) <| .nil _

theorem TermStats.echoes : Echoes TermStats.read TermStats.write :=
  .of_fields <| .field .u64 fun _ => .field .u32 fun _ => .field .u64 fun _ =>
    .field .u64 fun _ => .field .u8 fun _ => .field enumOf_echoes fun _ =>
    .field enumOf_echoes fun _ => .field enumOf_echoes fun _ => .field .u32 fun _ =>
    .field .u32 fun _ => .field .u32 fun _ => .done rfl

theorem Error.sends (message : Error) : Sends (Error.write message) Error.read message :=
  .cons (.u16 _) <| .cons (.str _) <| .cons (.str _) <| .nil _

theorem Error.echoes : Echoes Error.read Error.write :=
  .of_fields <| .field .u16 fun _ => .field .str fun _ => .field .str fun _ => .done rfl

theorem SetPrinterPolicy.sends (message : SetPrinterPolicy) :
    Sends (SetPrinterPolicy.write message) SetPrinterPolicy.read message :=
  .cons (enumOf_sends rfl _) <| .cons (.u64 _) <| .cons (enumOf_sends rfl _) <| .cons (.u32 _) <|
    .cons (.u32 _) <| .nil _

theorem SetPrinterPolicy.echoes : Echoes SetPrinterPolicy.read SetPrinterPolicy.write :=
  .of_fields <| .field enumOf_echoes fun _ => .field .u64 fun _ => .field enumOf_echoes fun _ =>
    .field .u32 fun _ => .field .u32 fun _ => .done rfl

theorem PrintState.sends (message : PrintState) :
    Sends (PrintState.write message) PrintState.read message :=
  .cons (.u64 _) <| .cons (enumOf_sends rfl _) <| .cons (enumOf_sends rfl _) <| .cons (.u32 _) <|
    .cons (.u16 _) <| .nil _

theorem PrintState.echoes : Echoes PrintState.read PrintState.write :=
  .of_fields <| .field .u64 fun _ => .field enumOf_echoes fun _ => .field enumOf_echoes fun _ =>
    .field .u32 fun _ => .field .u16 fun _ => .done rfl

theorem PrintJobAdded.sends (message : PrintJobAdded) :
    Sends (PrintJobAdded.write message) PrintJobAdded.read message :=
  .cons (.u64 _) <| .cons (PrintJobInfo.sends _) <| .nil _

theorem PrintJobAdded.echoes : Echoes PrintJobAdded.read PrintJobAdded.write :=
  .of_fields <| .field .u64 fun _ => .field PrintJobInfo.echoes fun _ => .done rfl

theorem PrintJobFetch.sends (message : PrintJobFetch) :
    Sends (PrintJobFetch.write message) PrintJobFetch.read message :=
  .cons (.u64 _) <| .cons (.u64 _) <| .nil _

theorem PrintJobFetch.echoes : Echoes PrintJobFetch.read PrintJobFetch.write :=
  .of_fields <| .field .u64 fun _ => .field .u64 fun _ => .done rfl

/-- A chunk of a print job is read back if it is no longer than a reader accepts. -/
theorem PrintJobData.sends (message : PrintJobData)
    (within : message.bytes.length ≤ kMaxChunkPayloadBytes) :
    Sends (PrintJobData.write message) PrintJobData.read message :=
  .cons (.u64 _) <| .cons (.u64 _) <| .cons (.u32 _) <| .cons (.u8 _) <| .cons (.blob _ within) <|
    .nil _

theorem PrintJobData.echoes : Echoes PrintJobData.read PrintJobData.write :=
  .of_fields <| .field .u64 fun _ => .field .u64 fun _ => .field .u32 fun _ => .field .u8 fun _ =>
    .field (.blob kMaxChunkPayloadBytes) fun _ => .done rfl

theorem PrintJobDiscard.sends (message : PrintJobDiscard) :
    Sends (PrintJobDiscard.write message) PrintJobDiscard.read message :=
  .cons (.u64 _) <| .cons (.u64 _) <| .nil _

theorem PrintJobDiscard.echoes : Echoes PrintJobDiscard.read PrintJobDiscard.write :=
  .of_fields <| .field .u64 fun _ => .field .u64 fun _ => .done rfl

end Ckmux.Proto
