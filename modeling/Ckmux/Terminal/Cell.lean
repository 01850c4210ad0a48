import Mathlib
import Ckmux.Grammar.Wire

/-!
# Cells

The terminal library a ckmux build links against owns the cell. What this
program reads of one is its grapheme, its width and its style; what it asks for
is a cell built from a text, whose width the library measures, and the far half
of a wide character. `CkVision` is that library, and `CkVision.Lawful` what the
program relies on: a built cell keeps its text and its style.
-/

namespace Ckmux

open Grammar (Bytes)

/-- A colour as a child names it. -/
inductive Color where
  | default
  | indexed (index : UInt8)
  | rgb (red green blue : UInt8)
deriving DecidableEq, Inhabited

/-- How a cell is drawn. -/
structure Style where
  fg : Color := .default
  bg : Color := .default
  attrs : UInt8 := 0
  underline : UInt8 := 0
  underlineColor : Color := .default
deriving DecidableEq, Inhabited

/-- A grapheme cluster, how wide it is, and how it is drawn. -/
structure Cell where
  grapheme : Bytes
  width : Int
  style : Style
deriving DecidableEq, Inhabited

/-- How the terminal library builds a cell. -/
class CkVision where
  fromGrapheme : Bytes → Style → Cell
  continuation : Style → Cell

/-- A built cell keeps what it was built from, and a continuation is the far
half of a character: no text and no width of its own. -/
class CkVision.Lawful [CkVision] : Prop where
  fromGrapheme_grapheme : ∀ (text : Bytes) (style : Style), text ≠ [] →
    (CkVision.fromGrapheme text style).grapheme = text
  fromGrapheme_style : ∀ (text : Bytes) (style : Style), text ≠ [] →
    (CkVision.fromGrapheme text style).style = style
  continuation_eq : ∀ style : Style, CkVision.continuation style = ⟨[], 0, style⟩

/-- The library as it measures ASCII text: one column each. -/
abbrev asciiVision : CkVision where
  fromGrapheme text style := ⟨text, 1, style⟩
  continuation style := ⟨[], 0, style⟩

/-- Measuring every character as one cell wide is lawful. -/
theorem asciiVision_lawful : @CkVision.Lawful asciiVision :=
  @CkVision.Lawful.mk asciiVision (fun _ _ _ => rfl) (fun _ _ _ => rfl) fun _ => rfl

/-- What a grid is filled with where nothing has been written. -/
def blankCell [CkVision] : Cell := CkVision.fromGrapheme " ".toUTF8.toList {}

end Ckmux
