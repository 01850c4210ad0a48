import Mathlib
import Ckmux.Config.Save

/-!
# The last word on a setting

Of the lines that give a setting a value it accepts, the last one counts; the lines for keys are all
kept, in their order.
-/

namespace Ckmux

namespace Config

open Grammar (Bytes readLines)

variable {Named : Type} [KeyNames Named]

/-- The value that a line gives a setting. -/
def gives (field : Field) (line : Option Bytes × Bytes) : Option (field.Value Named) :=
  if isKnown line.1 then
    match parseLine line.2 with
    | .assignment key value _ =>
        if fieldAt (line.1.getD []) key = some field then field.check.parse (unescape value) else none
    | _ => none
  else none

variable (Named) in
/-- What a line says of keys. -/
def directiveOf (line : Option Bytes × Bytes) : Option BindDirective :=
  if isKnown line.1 then
    match parseLine line.2 with
    | .directive text => (readDirective Named text).toOption
    | _ => none
  else none

/-- A line gives a setting what it gives it, and leaves it otherwise. -/
theorem obey_value (settings : Settings Named) (line : Option Bytes × Bytes) (field : Field) :
    (obey settings line).value field = (gives field line).getD (settings.value field) := by
  unfold obey gives
  split
  · cases parsed : parseLine line.2 with
    | assignment key value comment =>
        dsimp only
        rw [applyAssignment]
        cases named : fieldAt (line.1.getD []) key with
        | none => simp
        | some other =>
            by_cases same : other = field
            · subst same
              rw [if_pos rfl]
              dsimp only
              cases (other.check : Check (other.Value Named)).parse (unescape value) with
              | none => rfl
              | some given => exact settings_set_self settings other given
            · rw [if_neg fun equal => same (Option.some.inj equal)]
              dsimp only
              cases (other.check : Check (other.Value Named)).parse (unescape value) with
              | none => rfl
              | some given => exact Function.update_of_ne (Ne.symm same) _ _
    | directive text =>
        dsimp only
        split <;> rfl
    | blank | comment | header | malformed => rfl
  · rfl

/-- A line says of keys what it says, behind what was said before. -/
theorem obey_binds (settings : Settings Named) (line : Option Bytes × Bytes) :
    (obey settings line).binds = settings.binds ++ (directiveOf Named line).toList := by
  unfold obey directiveOf
  split
  · cases parsed : parseLine line.2 with
    | assignment key value comment =>
        dsimp only
        rw [applyAssignment]
        split
        · dsimp only
          split <;> simp [Settings.set]
        · simp
    | directive text =>
        dsimp only
        cases readDirective Named text with
        | ok directive => rfl
        | error problem => simp [Except.toOption]
    | blank | comment | header | malformed => simp
  · simp

/-- The directives of a file are kept in their order. -/
theorem foldl_obey_binds (lines : List (Option Bytes × Bytes)) (settings : Settings Named) :
    (lines.foldl obey settings).binds = settings.binds ++ lines.filterMap (directiveOf Named) := by
  induction lines generalizing settings with
  | nil => simp
  | cons line lines ih =>
      rw [List.foldl_cons, ih, obey_binds, List.append_assoc, List.filterMap_cons]
      cases directiveOf Named line <;> simp

/-- What is loaded of a setting is what the last line gave it that gave it anything, and what is
built in where none did. -/
theorem loaded_last_word {path : Bytes} (named : path ≠ []) (text : Bytes) (field : Field)
    (given : field.Value Named) :
    (loadSettings path (.read text) : LoadedSettings Named).settings.value field = given ↔
      (∃ before line later, sectioned none (readLines text) = before ++ line :: later ∧
        gives field line = some given ∧
        ∀ each ∈ later, ¬(gives field each : Option (field.Value Named)).isSome = true) ∨
      builtIn field = given ∧ ∀ each ∈ sectioned none (readLines text),
        ¬(gives field each : Option (field.Value Named)).isSome = true := by
  have loaded : (loadSettings path (.read text) : LoadedSettings Named).settings =
      (sectioned none (readLines text)).foldl obey Settings.initial :=
    loadSettings_settings named (some text)
  rw [loaded]
  refine @Data.last_word _ _ obey (fun settings : Settings Named => settings.value field = given)
    _ _ (fun settings line => ?_) (sectioned none (readLines text)) Settings.initial
  rw [obey_value]
  cases (gives field line : Option (field.Value Named)) with
  | none => simp
  | some other => simp

/-- Of two lines for the scrollback the second counts. -/
theorem loaded_last_word_scrollback :
    (loadSettings (utf8 "ckmux.conf") (.read (utf8 "[general]\nscrollback = 5\nscrollback = 7\n")) :
      LoadedSettings NamedKey).settings.value .scrollback = (7 : Int) := by
  apply (@loaded_last_word NamedKey _ (utf8 "ckmux.conf") (by decide)
    (utf8 "[general]\nscrollback = 5\nscrollback = 7\n") .scrollback (7 : Int)).mpr
  left
  have given : @Eq (Option Int) (@gives NamedKey _ .scrollback (some (utf8 "general"),
      utf8 "scrollback = 7")) (some 7) :=
    @of_decide_eq_true _ ((inferInstance : DecidableEq (Option Int)) _ _) (by decide +kernel)
  exact ⟨[(some (utf8 "general"), utf8 "[general]"), (some (utf8 "general"), utf8 "scrollback = 5")],
    (some (utf8 "general"), utf8 "scrollback = 7"), [], by decide +kernel, given, by simp⟩

end Config

end Ckmux
