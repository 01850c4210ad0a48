import Mathlib
import Ckmux.Client.Commands
import Ckmux.Config.LastWord

/-!
# The keys in force

From the reader's file to the command that a key executes: the last line that has a say in a key
has it, the footer shows a key where it is and nowhere else, and a line that is not carried out is
the only thing that is complained of.
-/

namespace Ckmux

namespace Config

open Data (Matching)
open Grammar (Bytes readLines)

namespace Keymap

variable {keymap : Keymap} {chord : Bytes} {key : CommandKey}

/-! ### What there is to say about a line -/

/-- What is said of a line that is not carried out. -/
def complaint (directive : BindDirective) : Bytes :=
  if directive.context ≠ .terminal then
    utf8 "bind " ++ keyContextName directive.context ++ utf8 " " ++ directive.chord ++
      utf8 ": the " ++ keyContextName directive.context ++
      utf8 " context has no keys yet — only 'terminal' bindings are honoured today"
  else utf8 "bind terminal " ++ directive.chord ++
    utf8 ": the digits 1-9 focus a terminal by number and cannot be rebound"

/-- Every action is one of a command in the table. -/
def Complete (keymap : Keymap) : Prop := ∀ action, (keymap.keyFor action).isSome = true

/-- To begin with every action has a command. -/
theorem defaults_complete : defaults.Complete := by
  intro action
  cases action <;> decide +kernel

/-- Another default chord leaves which command an action is. -/
theorem keyFor_setDefaultChord (keymap : Keymap) (action : Action) (chord : Bytes)
    (other : Action) : (keymap.setDefaultChord action chord).keyFor other = keymap.keyFor other := by
  rw [setDefaultChord]
  cases keymap.rowFor action with
  | none => rfl
  | some row =>
      dsimp only
      split
      · rfl
      · rw [keyFor_rechord, keyFor_clearChord]

/-- A directive is complained of exactly if it cannot be obeyed. -/
theorem applyDirective_complaints (complete : keymap.Complete) (directive : BindDirective) :
    (keymap.applyDirective directive).2 = if Obeys directive then [] else [complaint directive] := by
  by_cases context : directive.context = .terminal
  · by_cases digit : digitChord directive.chord = 0
    · have obeys : Obeys directive := ⟨context, digit⟩
      rw [if_pos obeys, (applyDirective_spec keymap directive).2.2]
      refine ⟨obeys, fun bound => ?_⟩
      obtain ⟨action, bound⟩ := Option.isSome_iff_exists.mp bound
      simp [meant, bound, complete action]
    · simp [applyDirective, Obeys, complaint, context, digit]
  · simp [applyDirective, Obeys, complaint, context]

/-- Of all the lines those are complained of that are not carried out, each once and in their
order. -/
theorem apply_complaints (complete : keymap.Complete) (directives : List BindDirective)
    (problems : List Bytes) :
    (keymap.apply directives problems).2 =
      problems ++ (directives.filter fun directive => ¬Obeys directive).map complaint := by
  induction directives generalizing keymap problems with
  | nil => simp [apply]
  | cons directive directives ih =>
      obtain ⟨_, named, _⟩ := applyDirective_spec keymap directive
      have rest := @ih (keymap.applyDirective directive).1
        (fun action => (congrArg Option.isSome (named action)).trans (complete action))
        (problems ++ (keymap.applyDirective directive).2)
      rw [apply, List.foldl_cons]
      refine rest.trans ?_
      rw [applyDirective_complaints complete]
      by_cases obeys : Obeys directive
      · simp [obeys]
      · simp [obeys]

end Keymap

variable {Named : Type} [KeyNames Named]

/-- The table before the reader's lines. -/
def builtInKeymap (settings : Settings Named) : Keymap :=
  Keymap.defaults.setDefaultChord .sendPrefix (chordSpelling (settings.value .prefixChord))

/-- Whatever the settings say, every action has a command. -/
theorem builtInKeymap_complete (settings : Settings Named) : (builtInKeymap settings).Complete := by
  intro action
  rw [builtInKeymap, Keymap.keyFor_setDefaultChord]
  exact Keymap.defaults_complete action

/-- Starting says exactly which lines for keys are not carried out: each once, in their order, and
behind what was warned of before. -/
theorem startKeymap_complaints (settings : Settings Named) (warnings : List Bytes) :
    (startKeymap settings warnings).2 = warnings ++
      (settings.binds.filter fun directive => ¬Keymap.Obeys directive).map Keymap.complaint :=
  Keymap.apply_complaints (builtInKeymap_complete settings) settings.binds warnings

/-! ### From a line to a key -/

variable (Named) in
/-- A line gives a key to a command. -/
def Binds (chord : Bytes) (key : CommandKey) (line : Option Bytes × Bytes) : Prop :=
  ∃ directive ∈ directiveOf Named line, Keymap.Obeys directive ∧ directive.chord = chord ∧
    Keymap.defaults.meant directive = some key

variable (Named) in
/-- A line has a say in whether a key reaches a command. -/
def Rebinds (chord : Bytes) (key : CommandKey) (line : Option Bytes × Bytes) : Prop :=
  ∃ directive ∈ directiveOf Named line, Keymap.defaults.Concerns chord key directive

/-- What a directive means does not depend on the settings' chords. -/
theorem meant_builtIn (settings : Settings Named) (directive : BindDirective) :
    (builtInKeymap settings).meant directive = Keymap.defaults.meant directive := by
  apply congrArg directive.action.bind
  ext1 action
  exact Keymap.keyFor_setDefaultChord _ _ _ action

/-- What a line of the file does to who has which key. -/
def rebind (keymap : Keymap) (matching : Matching CommandKey Bytes) (line : Option Bytes × Bytes) :
    Matching CommandKey Bytes :=
  ((directiveOf Named line).toList.flatMap keymap.moves).foldl Matching.step matching

/-- A file's directives are moves of chords, one after the other. -/
theorem foldl_rebind (keymap : Keymap) (lines : List (Option Bytes × Bytes))
    (matching : Matching CommandKey Bytes) :
    lines.foldl (@rebind Named _ keymap) matching =
      ((lines.filterMap (directiveOf Named)).flatMap keymap.moves).foldl Matching.step matching := by
  induction lines generalizing matching with
  | nil => rfl
  | cons line lines ih =>
      rw [List.foldl_cons, ih, List.filterMap_cons, rebind]
      cases directiveOf Named line with
      | none => simp
      | some directive => simp [List.foldl_append]

/-- What one line leaves of who has a key, and what it gives. -/
theorem rebind_label (settings : Settings Named) {chord : Bytes} (some_ : chord ≠ [])
    (key : CommandKey) (matching : Matching CommandKey Bytes) (line : Option Bytes × Bytes) :
    (@rebind Named _ (builtInKeymap settings) matching line).label key = some chord ↔
      Binds Named chord key line ∨
        matching.label key = some chord ∧ ¬Rebinds Named chord key line := by
  rw [rebind, Binds, Rebinds]
  cases directiveOf Named line with
  | none => simp
  | some directive =>
      have moved := @Keymap.moves_label key chord (builtInKeymap settings) some_ directive matching
      simp only [Keymap.Concerns, meant_builtIn] at moved
      simpa [Keymap.Concerns] using moved

variable [EscapeKey Named]

/-- From the file to the key that is pressed: it executes a command exactly if it is looked up and a
line gave its chord to the command, or it does so with no lines for keys, and no line since has a say
in it. -/
theorem pressed_last_word {path : Bytes} (named : path ≠ []) (text : Bytes) (event : KeyEvent Named)
    (key : CommandKey) :
    let loaded : LoadedSettings Named := loadSettings path (.read text)
    let chord := chordSpelling event.chord
    (startKeymap loaded.settings loaded.warnings).1.pressed event = some (.execute key) ↔
      (event.LooksUp ∧ ∃ before line later,
        sectioned none (readLines text) = before ++ line :: later ∧
          Binds Named chord key line ∧ ∀ each ∈ later, ¬Rebinds Named chord key each) ∨
      (builtInKeymap loaded.settings).pressed event = some (.execute key) ∧
        ∀ each ∈ sectioned none (readLines text), ¬Rebinds Named chord key each := by
  intro loaded chord
  have loaded_eq : loaded.settings = (sectioned none (readLines text)).foldl obey Settings.initial :=
    loadSettings_settings named (some text)
  have binds : loaded.settings.binds =
      (sectioned none (readLines text)).filterMap (directiveOf Named) := by
    rw [loaded_eq, foldl_obey_binds]
    rfl
  have started : (startKeymap loaded.settings loaded.warnings).1.matching =
      (sectioned none (readLines text)).foldl (@rebind Named _ (builtInKeymap loaded.settings))
        (builtInKeymap loaded.settings).matching := by
    rw [foldl_rebind, ← binds]
    exact (Keymap.apply_spec (builtInKeymap loaded.settings) _ _).1
  rw [Keymap.pressed_execute, Keymap.pressed_execute, started, and_assoc, ← and_or_left]
  refine and_congr_right fun looksUp => ?_
  exact @Data.last_word _ _ _ (fun matching : Matching CommandKey Bytes =>
    matching.label key = some chord) _ _ (rebind_label loaded.settings looksUp.2.2.1 key) _ _

/-- Of the keys in the tests one is Escape. -/
instance escapeNamedKey : EscapeKey NamedKey where
  isEscape name := name = .escape

/-- A letter going down. -/
def letterDown (letter : String) : KeyEvent NamedKey := ⟨.press, ⟨.char, {}, utf8 letter⟩⟩

/-- A reader who wants to detach with `c`. -/
theorem pressed_last_word_detach :
    let loaded : LoadedSettings NamedKey :=
      loadSettings (utf8 "ckmux.conf") (.read (utf8 "[keys]\nbind terminal c detach\n"))
    (startKeymap loaded.settings loaded.warnings).1.pressed (letterDown "c") =
      some (.execute (own "ckmux.session.detach")) := by
  refine (@pressed_last_word NamedKey _ _ (utf8 "ckmux.conf") (by decide)
    (utf8 "[keys]\nbind terminal c detach\n") (letterDown "c")
    (own "ckmux.session.detach")).mpr (.inl ⟨⟨by decide, by decide, by decide +kernel,
      by decide +kernel⟩, [(some (utf8 "keys"), utf8 "[keys]")],
      (some (utf8 "keys"), utf8 "bind terminal c detach"), [], by decide +kernel, ?_, by simp⟩)
  exact ⟨⟨.terminal, utf8 "c", some .detach⟩, by decide +kernel, by decide +kernel, rfl,
    by decide +kernel⟩

/-! ### The footer -/

/-- What is in the footer: what has a chord, and with the prefix not pending is worth a place. -/
theorem Keymap.mem_footer {keymap : Keymap} {context : FooterContext} {binding : KeyBinding} :
    binding ∈ keymap.footer context ↔
      binding ∈ keymap.bindings ∧ binding.chord ≠ [] ∧
        (context = .prefixPending ∨ 0 < binding.footerPriority) := by
  rw [Keymap.footer]
  split
  · simp [*]
  · simp [*, List.mem_mergeSort]

/-- The footer is honest but for Escape: each key that it shows does what it says when it goes down,
the digits by number, and Escape cancels wherever it is shown; with the prefix pending it shows every
key that executes anything, and otherwise those that are worth a place, the most important first. -/
theorem footer_honest (keymap : Keymap) (context : FooterContext) :
    (∀ binding ∈ keymap.footer context, ∀ event : KeyEvent Named, event.action ≠ .release →
      chordSpelling event.chord = binding.chord → keymap.pressed event = some
        (if event.chord.isEscape then .cancelled
        else if digitChord binding.chord = 0 then .execute binding.key
        else .focusTerminal (digitChord binding.chord))) ∧
    (∀ (event : KeyEvent Named) command, keymap.pressed event = some (.execute command) →
      ∃ binding, binding.chord = chordSpelling event.chord ∧ binding.key = command ∧
        (binding ∈ keymap.footer context ↔
          context = .prefixPending ∨ 0 < binding.footerPriority)) ∧
    (context ≠ .prefixPending → (keymap.footer context).Pairwise fun first second =>
      second.footerPriority ≤ first.footerPriority) := by
  refine ⟨?_, ?_, ?_⟩
  · intro binding among event down spelled
    obtain ⟨listed, some_, _⟩ := Keymap.mem_footer.mp among
    rw [← spelled] at some_
    cases escape : event.chord.isEscape with
    | true => simp [Keymap.pressed, PrefixOverlay.onKey, PrefixOverlay.finish, down, escape,
        Keymap.resolvePrefix]
    | false =>
        rw [if_neg Bool.false_ne_true, ← spelled]
        by_cases digit : digitChord (chordSpelling event.chord) = 0
        · rw [if_pos digit, Keymap.pressed_execute]
          exact ⟨⟨down, escape, some_, digit⟩,
            Keymap.chordOf_eq_some.mpr ⟨binding, listed, rfl, spelled.symm, some_⟩⟩
        · simp [Keymap.pressed, PrefixOverlay.onKey, PrefixOverlay.finish, down, escape,
            Keymap.resolvePrefix, some_, digit]
  · intro event command executes
    obtain ⟨looksUp, labelled⟩ := Keymap.pressed_execute.mp executes
    obtain ⟨binding, listed, named, held, some_⟩ := Keymap.chordOf_eq_some.mp labelled
    exact ⟨binding, held, named, by simp [Keymap.mem_footer, listed, held, some_]⟩
  · intro idle
    rw [Keymap.footer, if_neg idle]
    have sorted := @List.pairwise_mergeSort _
      (fun first second : KeyBinding => decide (second.footerPriority ≤ first.footerPriority))
      (fun first second third before also => by simp at *; omega)
      (fun first second => by simp; omega)
      (keymap.bindings.filter fun binding => binding.chord ≠ [] ∧ 0 < binding.footerPriority)
    simpa using sorted

end Config

end Ckmux
