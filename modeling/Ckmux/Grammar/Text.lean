import Mathlib
import Ckmux.Grammar.Wire

/-!
# Text

A text is the bytes it is written in. A line may have blanks around it, and a text is its
lines, each ended by a newline; the last may lack it.
-/

namespace Ckmux

open Grammar (Bytes)

/-- A text as its bytes. -/
def utf8 (text : String) : Bytes := text.toUTF8.data.toList

namespace Grammar

/-! ### Blanks -/

/-- A space, a tab or a carriage return. -/
def isSpace (byte : UInt8) : Bool := byte = 0x20 ∨ byte = 0x09 ∨ byte = 0x0D

/-- A text without the blanks around it. -/
def trim (text : Bytes) : Bytes := (text.dropWhile isSpace).rdropWhile isSpace

section

variable {text front : Bytes}

/-- A text whose last byte is no blank has nothing to lose at its end. -/
theorem rdropWhile_of_getLast {byte : UInt8} (last : text.getLast? = some byte)
    (solid : isSpace byte = false) : text.rdropWhile isSpace = text := by
  rw [List.rdropWhile_eq_self_iff]
  intro filled blank
  rw [List.getLast?_eq_some_getLast filled, Option.some_inj] at last
  rw [last, solid] at blank
  cases blank

/-- Blanks behind something solid are dropped there and no further. -/
theorem rdropWhile_append {byte : UInt8} (last : front.getLast? = some byte)
    (solid : isSpace byte = false) (rest : Bytes) :
    (front ++ rest).rdropWhile isSpace = front ++ rest.rdropWhile isSpace := by
  induction rest using List.reverseRecOn with
  | nil =>
      rw [List.append_nil, rdropWhile_of_getLast last solid]
      exact (List.append_nil _).symm
  | append_singleton rest final ih =>
      rw [← List.append_assoc]
      cases blank : isSpace final with
      | true =>
          rw [List.rdropWhile_concat_pos _ _ _ blank, List.rdropWhile_concat_pos _ _ _ blank, ih]
      | false =>
          rw [List.rdropWhile_concat_neg _ _ _ (by simp [blank]),
            List.rdropWhile_concat_neg _ _ _ (by simp [blank]), List.append_assoc]

/-- A text that begins with something solid is trimmed at its end alone. -/
theorem trim_of_head {byte : UInt8} (first : text.head? = some byte)
    (solid : isSpace byte = false) : trim text = text.rdropWhile isSpace := by
  cases text with
  | nil => cases first
  | cons other rest =>
      obtain rfl := Option.some.inj first
      rw [trim, List.dropWhile_cons_of_neg (by simp [solid])]

/-- A blank in front makes no difference. -/
theorem trim_blank_cons {byte : UInt8} (blank : isSpace byte = true) (rest : Bytes) :
    trim (byte :: rest) = trim rest := by
  rw [trim, trim, List.dropWhile_cons_of_pos blank]

/-- A trimmed text begins with something solid, unless it is empty. -/
theorem head_of_trimmed (trimmed : trim text = text) {byte : UInt8}
    (first : text.head? = some byte) : isSpace byte = false := by
  cases text with
  | nil => cases first
  | cons other rest =>
      obtain rfl := Option.some.inj first
      by_contra blank
      rw [Bool.not_eq_false] at blank
      have shorter := (List.rdropWhile_prefix isSpace (rest.dropWhile isSpace)).length_le
      have fewer := (List.dropWhile_suffix isSpace (l := rest)).length_le
      rw [trim_blank_cons blank, trim] at trimmed
      rw [trimmed, List.length_cons] at shorter
      omega

/-- And it ends with something solid. -/
theorem getLast_of_trimmed (trimmed : trim text = text) {byte : UInt8}
    (last : text.getLast? = some byte) : isSpace byte = false := by
  cases first : text.head? with
  | none =>
      rw [List.head?_eq_none_iff] at first
      subst first
      cases last
  | some front =>
      rw [trim_of_head first (head_of_trimmed trimmed first), List.rdropWhile_eq_self_iff] at trimmed
      have filled : text ≠ [] := by
        rintro rfl
        cases last
      rw [List.getLast?_eq_some_getLast filled, Option.some_inj] at last
      exact last ▸ Bool.eq_false_iff.mpr (trimmed filled)

/-- A text with a blank at neither end stays. -/
theorem trim_of_ends (first : ∀ byte, text.head? = some byte → isSpace byte = false)
    (last : ∀ byte, text.getLast? = some byte → isSpace byte = false) : trim text = text := by
  cases head : text.head? with
  | none =>
      rw [List.head?_eq_none_iff] at head
      rw [head]
      rfl
  | some byte =>
      rw [trim_of_head head (first byte head)]
      have filled : text ≠ [] := by
        rintro rfl
        cases head
      exact rdropWhile_of_getLast (List.getLast?_eq_some_getLast filled)
        (last _ (List.getLast?_eq_some_getLast filled))

/-- A text that was trimmed stays. -/
@[simp] theorem trim_trim (text : Bytes) : trim (trim text) = trim text := by
  rw [trim, trim]
  apply trim_of_ends
  · intro byte first
    have front := List.rdropWhile_prefix isSpace (text.dropWhile isSpace)
    have first_of : (text.dropWhile isSpace).head? = some byte := by
      obtain ⟨rest, joined⟩ := front
      rw [← joined, List.head?_append, first]
      rfl
    have solid := List.head?_dropWhile_not isSpace text
    rw [first_of] at solid
    exact solid
  · intro byte last
    have filled : (text.dropWhile isSpace).rdropWhile isSpace ≠ [] := by
      intro empty
      rw [empty] at last
      cases last
    rw [List.getLast?_eq_some_getLast filled, Option.some_inj] at last
    have solid := List.rdropWhile_last_not isSpace (text.dropWhile isSpace) filled
    rw [last] at solid
    exact Bool.eq_false_iff.mpr solid

end

/-! ### Lines -/

/-- The lines of a text, behind what there is of the first already. -/
def linesFrom (line : Bytes) : Bytes → List Bytes
  | [] => if line = [] then [] else [line]
  | byte :: rest =>
      if byte = 0x0A then line :: linesFrom [] rest else linesFrom (line ++ [byte]) rest

/-- The lines of a text, as a stream reads them. -/
def readLines (text : Bytes) : List Bytes := linesFrom [] text

/-- The text of some lines, each with its newline. -/
def writeLines (lines : List Bytes) : Bytes := lines.flatMap fun line => line ++ [0x0A]

/-- A line has no newline in it. -/
def OneLine (line : Bytes) : Prop := 0x0A ∉ line

/-- A line break ends the line that was begun. -/
theorem linesFrom_append {line : Bytes} (single : OneLine line) (begun rest : Bytes) :
    linesFrom begun (line ++ 0x0A :: rest) = (begun ++ line) :: linesFrom [] rest := by
  induction line generalizing begun with
  | nil => simp [linesFrom]
  | cons byte line ih =>
      have other : byte ≠ 0x0A := fun same => single (same ▸ List.mem_cons_self)
      have single : OneLine line := fun listed => single (List.mem_cons_of_mem _ listed)
      rw [List.cons_append, linesFrom, if_neg other, ih single, List.append_assoc]
      rfl

/-- The lines of a text that was written line by line. -/
theorem readLines_writeLines {lines : List Bytes} (single : ∀ line ∈ lines, OneLine line) :
    readLines (writeLines lines) = lines := by
  induction lines with
  | nil => rfl
  | cons line lines ih =>
      rw [List.forall_mem_cons] at single
      rw [writeLines, List.flatMap_cons, List.append_assoc, readLines, List.singleton_append,
        linesFrom_append single.1]
      exact congrArg (line :: ·) (ih single.2)

/-- No line that is read holds a line break. -/
theorem linesFrom_oneLine {begun : Bytes} (single : OneLine begun) (text : Bytes) :
    ∀ line ∈ linesFrom begun text, OneLine line := by
  induction text generalizing begun with
  | nil =>
      rw [linesFrom]
      split
      · simp
      · simpa using single
  | cons byte rest ih =>
      rw [linesFrom]
      split
      · exact List.forall_mem_cons.mpr ⟨single, ih List.not_mem_nil⟩
      · rename_i other
        refine ih fun listed => ?_
        rcases List.mem_append.mp listed with before | last
        · exact single before
        · exact other (List.mem_singleton.mp last).symm

/-- No line of a text holds a line break. -/
theorem readLines_oneLine (text : Bytes) : ∀ line ∈ readLines text, OneLine line :=
  linesFrom_oneLine List.not_mem_nil text

end Grammar

end Ckmux
