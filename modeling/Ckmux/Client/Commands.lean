import Mathlib
import Ckmux.Config.Settings
import Ckmux.Data.Keyed
import Ckmux.Data.Matching
import Ckmux.Data.Overwrite

/-!
# The keys behind the prefix

A table of commands, each with the key that reaches it once the prefix was pressed. A reader's
`bind` and `unbind` lines move the keys; they never add a row or take one away. One table is
dispatched by, shown in the footer and listed when the prefix is pending, so that a key is shown
where it is and nowhere else.
-/

namespace Ckmux

namespace Config

open Data (Matching)
open Grammar (Bytes)

/-! ### The table -/

/-- The commands that the window library declares itself. -/
inductive StandardCommand where
  | cascade | menu | minimize | nextWindow | previousWindow | quit | tileGrid | tileHorizontally
  | tileVertically | windowList | zoom
deriving DecidableEq

/-- The durable name of a command. -/
inductive CommandKey where
  | ckmux (name : Bytes)
  | standard (command : StandardCommand)
deriving DecidableEq

/-- One row. `chord` is empty for a command that only a menu reaches, and there is no action for the
row of the digits. -/
structure KeyBinding where
  chord : Bytes
  key : CommandKey
  hint : Bytes
  footerPriority : Nat
  action : Option Action
  defaultChord : Bytes := []
deriving DecidableEq

/-- A row as the table writes it. -/
def row (chord : String) (key : CommandKey) (hint : String) (footerPriority : Nat)
    (action : Option Action) : KeyBinding :=
  { chord := utf8 chord, key, hint := utf8 hint, footerPriority, action }

/-- A command of this program's own. -/
def own (name : String) : CommandKey := .ckmux (utf8 name)

/-- The commands there are, each with the chord it has to begin with. -/
def defaultBindings : List KeyBinding := [
  row "c" (own "ckmux.terminal.new") "new term" 90 (some .newTerminal),
  row "x" (own "ckmux.terminal.close") "close term" 40 (some .closeTerminal),
  row "" (own "ckmux.terminal.kill") "kill term" 0 (some .killTerminal),
  row "." (own "ckmux.terminal.move-session") "move to session" 0 (some .moveTerminal),
  row "," (own "ckmux.terminal.rename") "rename term" 0 (some .renameTerminal),
  row "P" (own "ckmux.terminal.print-output") "print" 0 (some .printOutput),
  row "" (own "ckmux.terminal.printer-settings") "printer" 0 (some .printerSettings),
  row "n" (.standard .nextWindow) "next" 70 (some .nextTerminal),
  row "p" (.standard .previousWindow) "prev" 60 (some .previousTerminal),
  row "1-9" (own "ckmux.terminal.focus-by-number") "focus n" 0 none,
  row "w" (.standard .windowList) "windows" 30 (some .windowList),
  row "z" (.standard .zoom) "zoom" 20 (some .zoom),
  row "_" (.standard .minimize) "minimize" 0 (some .minimize),
  row "M" (own "ckmux.window.move-resize") "move/size" 0 (some .moveResize),
  row "h" (.standard .tileHorizontally) "tile rows" 0 (some .tileHorizontally),
  row "v" (.standard .tileVertically) "tile columns" 0 (some .tileVertically),
  row "g" (.standard .tileGrid) "tile grid" 0 (some .tileGrid),
  row "T" (.standard .cascade) "cascade" 0 (some .cascade),
  row "m" (.standard .menu) "menu" 95 (some .menuBar),
  row "[" (own "ckmux.terminal.copy-mode") "copy" 45 (some .copyMode),
  row "]" (own "ckmux.terminal.paste") "paste" 25 (some .paste),
  row "" (own "ckmux.terminal.send-prefix") "send prefix" 0 (some .sendPrefix),
  row "d" (own "ckmux.session.detach") "detach" 80 (some .detach),
  row "s" (own "ckmux.session.list") "sessions" 0 (some .sessions),
  row "S" (own "ckmux.session.new") "new session" 0 (some .newSession),
  row "R" (own "ckmux.session.rename") "rename" 0 (some .renameSession),
  row "K" (own "ckmux.session.kill") "end session" 0 (some .killSession),
  row "?" (own "ckmux.help.keys") "keys" 50 (some .keyReference),
  row "q" (.standard .quit) "quit" 10 (some .quit),
  row "" (own "ckmux.settings") "settings" 0 (some .settings),
  row "b" (own "ckmux.window.status-bar") "status bar" 0 (some .toggleStatusBar),
  row "" (own "ckmux.session.fit-desktop") "fit desktop" 0 (some .fitDesktop),
  row "" (own "ckmux.view.show-cpu") "cpu" 0 (some .showCpuUsage),
  row "" (own "ckmux.view.show-memory-rss") "rss" 0 (some .showMemoryRss),
  row "" (own "ckmux.view.show-memory-real") "real" 0 (some .showMemoryReal),
  row "t" (own "ckmux.view.clock") "clock" 0 (some .showClock),
  row "" (own "ckmux.view.date") "date" 0 (some .showDate),
  row "" (own "ckmux.view.date-time") "date+time" 0 (some .showDateTime),
  row "" (own "ckmux.help.about") "about" 0 (some .about)]

/-- Rows of which no two are one command, do one thing or are reached by one key. -/
structure Keymap where
  bindings : List KeyBinding
  keysApart : (bindings.map KeyBinding.key).Nodup
  actionsApart : bindings.Pairwise fun first second =>
    first.action = second.action → first.action = none
  chordsApart : bindings.Pairwise fun first second =>
    first.chord = second.chord → first.chord = []

/-- No command is listed twice. -/
theorem defaultBindings_keys : (defaultBindings.map KeyBinding.key).Nodup := by decide +kernel

/-- No action belongs to two commands. -/
theorem defaultBindings_actions : defaultBindings.Pairwise fun first second =>
    first.action = second.action → first.action = none := by decide +kernel

/-- No chord begins with two commands. -/
theorem defaultBindings_chords : defaultBindings.Pairwise fun first second =>
    first.chord = second.chord → first.chord = [] := by decide +kernel

/-- 1 to 9 for the chord of a digit, otherwise 0. -/
def digitChord : Bytes → Nat
  | [digit] => if 0x31 ≤ digit ∧ digit ≤ 0x39 then digit.toNat - 0x30 else 0
  | _ => 0

/-- What an action is called in a file. -/
def actionName (action : Action) : Bytes :=
  ((kActions.find? fun entry => entry.2 = action).map Prod.fst).getD []

/-- What a context is called in a file. -/
def keyContextName (context : KeyContext) : Bytes :=
  ((kContexts.find? fun entry => entry.2 = context).map Prod.fst).getD []

namespace Keymap

/-- The table with other chords in its rows. -/
def rechord (keymap : Keymap) (chord default : KeyBinding → Bytes)
    (apart : keymap.bindings.Pairwise fun first second =>
      chord first = chord second → chord first = []) : Keymap where
  bindings := keymap.bindings.map fun row =>
    { row with chord := chord row, defaultChord := default row }
  keysApart := by
    rw [List.map_map]
    exact keymap.keysApart
  actionsApart := List.pairwise_map.mpr keymap.actionsApart
  chordsApart := List.pairwise_map.mpr apart

/-- Taking a chord away leaves every other with one command. -/
theorem cleared_apart (keymap : Keymap) (chord : Bytes) :
    keymap.bindings.Pairwise fun first second =>
      (if first.chord = chord then [] else first.chord) =
        (if second.chord = chord then [] else second.chord) →
      (if first.chord = chord then [] else first.chord) = [] := by
  refine keymap.chordsApart.imp fun {first second} apart same => ?_
  split
  · rfl
  · rename_i other
    rw [if_neg other] at same
    split at same
    · exact same
    · exact apart same

/-- Whatever holds a chord loses it. -/
def clearChord (keymap : Keymap) (chord : Bytes) : Keymap :=
  keymap.rechord (fun row => if row.chord = chord then [] else row.chord) KeyBinding.defaultChord
    (keymap.cleared_apart chord)

/-- Nobody has a chord that was taken away. -/
theorem mem_clearChord {keymap : Keymap} {chord : Bytes} {binding : KeyBinding}
    (listed : binding ∈ (keymap.clearChord chord).bindings) (held : binding.chord = chord) :
    chord = [] := by
  obtain ⟨before, _, rfl⟩ := List.mem_map.mp listed
  dsimp only at held
  split at held
  · exact held.symm
  · contradiction

/-- A chord taken away and then given belongs to one command. -/
theorem given_apart (keymap : Keymap) (key : CommandKey) (chord : Bytes) :
    (keymap.clearChord chord).bindings.Pairwise fun first second =>
      (if first.key = key then chord else first.chord) =
        (if second.key = key then chord else second.chord) →
      (if first.key = key then chord else first.chord) = [] := by
  have keys := List.pairwise_map.mp (keymap.clearChord chord).keysApart
  refine (keys.and (keymap.clearChord chord).chordsApart).imp_of_mem
    fun {first second} listed also apart same => ?_
  split
  · rename_i mine
    rw [if_pos mine, if_neg fun yours => apart.1 (mine.trans yours.symm)] at same
    exact mem_clearChord also same.symm
  · rename_i other
    rw [if_neg other] at same
    split at same
    · rw [same]
      exact mem_clearChord listed same
    · exact apart.2 same

/-- A chord moved to a row. -/
def giveChord (keymap : Keymap) (key : CommandKey) (chord : Bytes) : Keymap :=
  (keymap.clearChord chord).rechord (fun row => if row.key = key then chord else row.chord)
    KeyBinding.defaultChord (keymap.given_apart key chord)

/-- The built-in table. -/
def defaults : Keymap where
  bindings := defaultBindings.map fun row => { row with defaultChord := row.chord }
  keysApart := by
    rw [List.map_map]
    exact defaultBindings_keys
  actionsApart := List.pairwise_map.mpr defaultBindings_actions
  chordsApart := List.pairwise_map.mpr defaultBindings_chords

variable (keymap : Keymap)

/-- The row of an action's command, if one has it. -/
def rowFor (action : Action) : Option KeyBinding :=
  keymap.bindings.find? fun binding => binding.action = some action

/-- The row of an action has another default from now on, and whatever held that chord loses it. -/
def setDefaultChord (action : Action) (chord : Bytes) : Keymap :=
  match keymap.rowFor action with
  | none => keymap
  | some row =>
      if chord = [] then keymap
      else
        (keymap.clearChord chord).rechord (fun each => if each.key = row.key then chord else each.chord)
          (fun each => if each.key = row.key then chord else each.defaultChord)
          (keymap.given_apart row.key chord)

/-- One line of the reader's, and what is to be said of it. -/
def applyDirective (directive : BindDirective) : Keymap × List Bytes :=
  if directive.context ≠ .terminal then
    (keymap, [utf8 "bind " ++ keyContextName directive.context ++ utf8 " " ++ directive.chord ++
      utf8 ": the " ++ keyContextName directive.context ++
      utf8 " context has no keys yet — only 'terminal' bindings are honoured today"])
  else if digitChord directive.chord ≠ 0 then
    (keymap, [utf8 "bind terminal " ++ directive.chord ++
      utf8 ": the digits 1-9 focus a terminal by number and cannot be rebound"])
  else
    match directive.action with
    | none => (keymap.clearChord directive.chord, [])
    | some action =>
        match keymap.rowFor action with
        | none =>
            (keymap.clearChord directive.chord, [utf8 "bind terminal " ++ directive.chord ++
              utf8 " " ++ actionName action ++ utf8 ": ckmux has no such command"])
        | some row => (keymap.giveChord row.key directive.chord, [])

/-- The reader's lines in the order of the file, and the problems with them. -/
def apply (directives : List BindDirective) (problems : List Bytes) : Keymap × List Bytes :=
  directives.foldl (fun applied directive =>
    let one := applied.1.applyDirective directive
    (one.1, applied.2 ++ one.2)) (keymap, problems)

/-- The row a chord reaches. The digits are dispatched before anything is looked up. -/
def find (chord : Bytes) : Option KeyBinding :=
  if chord = [] ∨ digitChord chord ≠ 0 then none
  else keymap.bindings.find? fun binding => binding.chord = chord

end Keymap

/-- Which hints the footer shows. -/
inductive FooterContext where
  | terminal | desktop | prefixPending
deriving DecidableEq

/-- The hints of the footer, the most important first; with the prefix pending, everything a key
reaches, in the order of the table. -/
def Keymap.footer (keymap : Keymap) (context : FooterContext) : List KeyBinding :=
  if context = .prefixPending then keymap.bindings.filter fun binding => binding.chord ≠ []
  else
    (keymap.bindings.filter fun binding => binding.chord ≠ [] ∧ 0 < binding.footerPriority).mergeSort
      fun first second => second.footerPriority ≤ first.footerPriority

/-- What a chord behind the prefix comes to. -/
inductive PrefixOutcome where
  | cancelled
  | focusTerminal (number : Nat)
  | execute (command : CommandKey)
deriving DecidableEq

/-- What is done with the chord that ended the wait for one. No chord cancels it. -/
def Keymap.resolvePrefix (keymap : Keymap) (chord : Bytes) : PrefixOutcome :=
  if chord = [] then .cancelled
  else if digitChord chord ≠ 0 then .focusTerminal (digitChord chord)
  else
    match keymap.find chord with
    | none => .cancelled
    | some binding => .execute binding.key

/-! ### The key behind the prefix -/

/-- What became of a key. -/
inductive KeyAction where
  | press | repeat_ | release
deriving DecidableEq

/-- A key as the terminal library reports it. -/
structure KeyEvent (Named : Type) where
  action : KeyAction
  chord : KeyChord Named

/-- Which of the keys that have a name is Escape. -/
class EscapeKey (Named : Type) where
  isEscape : Named → Bool

/-- Whether a chord is of Escape, with whatever is held beside it. -/
def KeyChord.isEscape {Named : Type} [EscapeKey Named] (chord : KeyChord Named) : Bool :=
  match chord.key with
  | .named name => EscapeKey.isEscape name
  | .none | .char => false

/-- What takes the key behind the prefix. It has its say once. -/
structure PrefixOverlay where
  finished : Bool := false

namespace PrefixOverlay

/-- The chord that is handed on, unless one has been. -/
def finish (overlay : PrefixOverlay) (chord : Bytes) : PrefixOverlay × Option Bytes :=
  if overlay.finished then (overlay, none) else ({ finished := true }, some chord)

/-- Every key that goes down ends the wait. Escape is handed on as no chord, whatever the table
has under its spelling. -/
def onKey {Named : Type} [KeyNames Named] [EscapeKey Named] (overlay : PrefixOverlay)
    (event : KeyEvent Named) : PrefixOverlay × Option Bytes :=
  if event.action = .release then (overlay, none)
  else
    let chord := chordSpelling event.chord
    overlay.finish (if event.chord.isEscape then [] else chord)

end PrefixOverlay

/-- What a key does once the prefix was pressed, if it does anything yet. -/
def Keymap.pressed {Named : Type} [KeyNames Named] [EscapeKey Named] (keymap : Keymap)
    (event : KeyEvent Named) : Option PrefixOutcome :=
  (PrefixOverlay.onKey {} event).2.map keymap.resolvePrefix

/-- Whether a key behind the prefix is looked up in the table: it goes down, has a spelling, and is
neither Escape nor one of the digits, which go by number. -/
def KeyEvent.LooksUp {Named : Type} [KeyNames Named] [EscapeKey Named] (event : KeyEvent Named) :
    Prop :=
  event.action ≠ .release ∧ event.chord.isEscape = false ∧ chordSpelling event.chord ≠ [] ∧
    digitChord (chordSpelling event.chord) = 0

/-- The table a client starts with: the prefix pressed twice sends it, unless the reader says
otherwise. -/
def startKeymap {Named : Type} [KeyNames Named] (settings : Settings Named) (warnings : List Bytes) :
    Keymap × List Bytes :=
  (Keymap.defaults.setDefaultChord .sendPrefix (chordSpelling (settings.value .prefixChord))).apply
    settings.binds warnings

/-! ### The table as labels given out -/

namespace Keymap

/-- The command that an action is the name of. -/
def keyFor (keymap : Keymap) (action : Action) : Option CommandKey :=
  (keymap.rowFor action).map KeyBinding.key

/-- The chord of a command, if it has one. -/
def chordOf (keymap : Keymap) (key : CommandKey) : Option Bytes :=
  (keymap.bindings.find? fun binding => binding.key = key).bind fun binding =>
    if binding.chord = [] then none else some binding.chord

variable {keymap : Keymap} {key : CommandKey} {chord : Bytes}

/-- A command has a chord where its row has. -/
theorem chordOf_eq_some : keymap.chordOf key = some chord ↔
    ∃ binding ∈ keymap.bindings, binding.key = key ∧ binding.chord = chord ∧ chord ≠ [] := by
  unfold chordOf
  constructor
  · intro held
    obtain ⟨binding, found, held⟩ := Option.bind_eq_some_iff.mp held
    rw [Option.ite_none_left_eq_some] at held
    have named := of_decide_eq_true
      (List.find?_some (p := fun binding : KeyBinding => binding.key = key) found)
    have chord_eq := Option.some.inj held.2
    exact ⟨binding, List.mem_of_find?_eq_some found, named, chord_eq, chord_eq ▸ held.1⟩
  · rintro ⟨binding, listed, rfl, rfl, some_⟩
    rw [Data.find_of_mem keymap.keysApart listed, Option.bind_some, if_neg some_]

/-- No chord reaches two rows. -/
theorem same_row {first second : KeyBinding} (one : first ∈ keymap.bindings)
    (other : second ∈ keymap.bindings) (same : first.chord = second.chord)
    (some_ : first.chord ≠ []) : first = second := by
  by_contra different
  have : Std.Symm fun first second : KeyBinding =>
      first.chord = second.chord → first.chord = [] :=
    ⟨fun first second apart same => same.trans (apart same.symm)⟩
  exact some_ (keymap.chordsApart.forall one other different same)

/-- The table as an assignment of chords to commands. -/
def matching (keymap : Keymap) : Matching CommandKey Bytes where
  label := keymap.chordOf
  apart first second given held also := by
    obtain ⟨one, listed, rfl, rfl, some_⟩ := chordOf_eq_some.mp held
    obtain ⟨other, there, rfl, same, _⟩ := chordOf_eq_some.mp also
    rw [same_row listed there same.symm some_]

/-- What the rows of a table with other chords are called. -/
theorem chordOf_rechord {chord default : KeyBinding → Bytes}
    {apart : keymap.bindings.Pairwise fun first second =>
      chord first = chord second → chord first = []} (key : CommandKey) :
    (keymap.rechord chord default apart).chordOf key =
      (keymap.bindings.find? fun binding => binding.key = key).bind fun binding =>
        if chord binding = [] then none else some (chord binding) := by
  rw [chordOf, rechord]
  dsimp only
  rw [List.find?_map, Option.bind_map]
  rfl

/-- Clearing a chord takes it from whatever holds it. -/
theorem matching_clearChord (keymap : Keymap) (chord : Bytes) :
    (keymap.clearChord chord).matching = keymap.matching.take chord := by
  apply Matching.ext
  funext key
  change (keymap.clearChord chord).chordOf key =
    if keymap.chordOf key = some chord then none else keymap.chordOf key
  rw [clearChord, chordOf_rechord, chordOf]
  cases keymap.bindings.find? fun binding => binding.key = key with
  | none => simp
  | some binding =>
      rw [Option.bind_some, Option.bind_some]
      by_cases held : binding.chord = chord
      · rw [if_pos held, if_pos rfl]
        split
        · simp
        · rw [held, if_pos rfl]
      · rw [if_neg held]
        split
        · simp
        · rw [if_neg fun same => held (Option.some.inj same)]

/-- A chord moved to a row is given to it. -/
theorem matching_giveChord {binding : KeyBinding} (listed : binding ∈ keymap.bindings)
    {chord : Bytes} (some_ : chord ≠ []) :
    (keymap.giveChord binding.key chord).matching = keymap.matching.give binding.key chord := by
  apply Matching.ext
  funext key
  change (keymap.giveChord binding.key chord).chordOf key =
    if key = binding.key then some chord else (keymap.matching.take chord).label key
  rw [← matching_clearChord, giveChord, chordOf_rechord]
  change _ = if key = binding.key then some chord else (keymap.clearChord chord).chordOf key
  rw [chordOf]
  cases found : (keymap.clearChord chord).bindings.find? fun each => each.key = key with
  | none =>
      rw [Option.bind_none, Option.bind_none, if_neg]
      rintro rfl
      have there : { binding with
          chord := if binding.chord = chord then [] else binding.chord } ∈
          (keymap.clearChord chord).bindings := List.mem_map.mpr ⟨binding, listed, rfl⟩
      exact absurd (List.find?_eq_none.mp found _ there) (by simp)
  | some each =>
      have named := of_decide_eq_true
        (List.find?_some (p := fun binding : KeyBinding => binding.key = key) found)
      rw [Option.bind_some, Option.bind_some, named]
      split
      · rfl
      · rfl

/-- A row without its chord is released. -/
theorem matching_giveChord_nil (keymap : Keymap) (key : CommandKey) :
    (keymap.giveChord key []).matching = keymap.matching.release key := by
  apply Matching.ext
  funext other
  change (keymap.giveChord key []).chordOf other = if other = key then none else keymap.chordOf other
  have same : (keymap.clearChord []).chordOf other = keymap.chordOf other := by
    have cleared := congrArg (fun matching => matching.label other) (matching_clearChord keymap [])
    refine cleared.trans ?_
    change (if keymap.chordOf other = some [] then none else keymap.chordOf other) = _
    rw [if_neg]
    intro held
    obtain ⟨_, _, _, _, some_⟩ := chordOf_eq_some.mp held
    exact some_ rfl
  rw [← same, giveChord, chordOf_rechord, chordOf]
  cases found : (keymap.clearChord []).bindings.find? fun each => each.key = other with
  | none => simp
  | some each =>
      have named := of_decide_eq_true
        (List.find?_some (p := fun binding : KeyBinding => binding.key = other) found)
      rw [Option.bind_some, Option.bind_some, named]
      split
      · rfl
      · rfl

/-! ### What the reader's lines come to -/

/-- Whether a line is carried out at all. -/
def Obeys (directive : BindDirective) : Prop :=
  directive.context = .terminal ∧ digitChord directive.chord = 0

instance (directive : BindDirective) : Decidable (Obeys directive) :=
  inferInstanceAs (Decidable (_ ∧ _))

/-- The row a line names, if it names one. -/
def meant (keymap : Keymap) (directive : BindDirective) : Option CommandKey :=
  directive.action.bind keymap.keyFor

/-- What a line moves. -/
def moves (keymap : Keymap) (directive : BindDirective) : List (Matching.Move CommandKey Bytes) :=
  if ¬Obeys directive then []
  else
    match keymap.meant directive with
    | none => [.take directive.chord]
    | some key =>
        if directive.chord = [] then [.release key] else [.give key directive.chord]

/-- No line changes which row an action has. -/
theorem keyFor_rechord {chord default : KeyBinding → Bytes}
    {apart : keymap.bindings.Pairwise fun first second =>
      chord first = chord second → chord first = []} (action : Action) :
    (keymap.rechord chord default apart).keyFor action = keymap.keyFor action := by
  rw [keyFor, rowFor, rechord, keyFor, rowFor]
  dsimp only
  rw [List.find?_map, Option.map_map]
  rfl

/-- Taking chords away leaves which command an action is. -/
theorem keyFor_clearChord (keymap : Keymap) (chord : Bytes) (action : Action) :
    (keymap.clearChord chord).keyFor action = keymap.keyFor action := by
  rw [clearChord, keyFor_rechord]

/-- Giving a chord leaves which command an action is. -/
theorem keyFor_giveChord (keymap : Keymap) (key : CommandKey) (chord : Bytes) (action : Action) :
    (keymap.giveChord key chord).keyFor action = keymap.keyFor action := by
  rw [giveChord, keyFor_rechord, keyFor_clearChord]

/-- What one line does: it moves what it says, and is complained of otherwise. -/
theorem applyDirective_spec (keymap : Keymap) (directive : BindDirective) :
    (keymap.applyDirective directive).1.matching =
        (keymap.moves directive).foldl Matching.step keymap.matching ∧
      (∀ action, (keymap.applyDirective directive).1.keyFor action = keymap.keyFor action) ∧
      ((keymap.applyDirective directive).2 = [] ↔
        Obeys directive ∧ (directive.action.isSome → (keymap.meant directive).isSome)) := by
  unfold applyDirective moves Obeys meant
  by_cases context : directive.context = .terminal
  · rw [if_neg (not_not.mpr context)]
    by_cases digit : digitChord directive.chord = 0
    · rw [if_neg (not_not.mpr digit), if_neg (not_not.mpr ⟨context, digit⟩)]
      cases bound : directive.action with
      | none =>
          refine ⟨matching_clearChord keymap _, keyFor_clearChord keymap _, ?_⟩
          simp [context, digit]
      | some action =>
          dsimp only [Option.bind_some]
          cases found : keymap.rowFor action with
          | none =>
              have none_ : keymap.keyFor action = none := by rw [keyFor, found, Option.map_none]
              rw [none_]
              refine ⟨matching_clearChord keymap _, keyFor_clearChord keymap _, ?_⟩
              simp
          | some binding =>
              have named : keymap.keyFor action = some binding.key := by
                rw [keyFor, found, Option.map_some]
              rw [named]
              dsimp only
              refine ⟨?_, keyFor_giveChord keymap _ _, ?_⟩
              · split
                · rename_i empty
                  rw [empty]
                  exact matching_giveChord_nil keymap _
                · rename_i some_
                  exact matching_giveChord (List.mem_of_find?_eq_some found) some_
              · simp [context, digit]
    · rw [if_pos digit, if_pos fun obeys => digit obeys.2]
      exact ⟨rfl, fun _ => rfl, by simp [digit]⟩
  · rw [if_pos context, if_pos fun obeys => context obeys.1]
    exact ⟨rfl, fun _ => rfl, by simp [context]⟩

/-- What all the lines come to. -/
theorem apply_spec (keymap : Keymap) (directives : List BindDirective) (problems : List Bytes) :
    (keymap.apply directives problems).1.matching =
        (directives.flatMap keymap.moves).foldl Matching.step keymap.matching ∧
      ∀ action, (keymap.apply directives problems).1.keyFor action = keymap.keyFor action := by
  induction directives generalizing keymap problems with
  | nil => exact ⟨rfl, fun _ => rfl⟩
  | cons directive directives ih =>
      obtain ⟨moved, named, _⟩ := applyDirective_spec keymap directive
      have same : (keymap.applyDirective directive).1.moves = keymap.moves := by
        funext each
        rw [moves, moves, meant, meant, funext named]
      obtain ⟨rest, kept⟩ := ih (keymap.applyDirective directive).1
        (problems ++ (keymap.applyDirective directive).2)
      rw [apply, List.foldl_cons]
      refine ⟨?_, fun action => (kept action).trans (named action)⟩
      rw [List.flatMap_cons, List.foldl_append, ← moved, ← same]
      exact rest

/-- A chord reaches the command that has it. -/
theorem find_eq_some {binding : KeyBinding} : keymap.find chord = some binding ↔
    binding ∈ keymap.bindings ∧ binding.chord = chord ∧ chord ≠ [] ∧ digitChord chord = 0 := by
  unfold find
  rw [Option.ite_none_left_eq_some, not_or, not_not]
  constructor
  · rintro ⟨⟨some_, other⟩, found⟩
    exact ⟨List.mem_of_find?_eq_some found, of_decide_eq_true
      (List.find?_some (p := fun binding : KeyBinding => binding.chord = chord) found), some_, other⟩
  · rintro ⟨listed, rfl, some_, other⟩
    refine ⟨⟨some_, other⟩, ?_⟩
    cases found : keymap.bindings.find? fun each => each.chord = binding.chord with
    | none => exact absurd (List.find?_eq_none.mp found binding listed) (by simp)
    | some each =>
        have same := of_decide_eq_true
          (List.find?_some (p := fun each : KeyBinding => each.chord = binding.chord) found)
        rw [same_row listed (List.mem_of_find?_eq_some found) same.symm some_]

/-- A chord that is no digit executes the command it belongs to, and no other. -/
theorem resolvePrefix_execute (some_ : chord ≠ []) (other : digitChord chord = 0) :
    keymap.resolvePrefix chord = .execute key ↔ keymap.matching.label key = some chord := by
  change _ ↔ keymap.chordOf key = some chord
  rw [resolvePrefix, if_neg some_, if_neg (not_not.mpr other), chordOf_eq_some]
  cases found : keymap.find chord with
  | none =>
      simp only [reduceCtorEq, false_iff]
      rintro ⟨binding, listed, _, held, _⟩
      have there := find_eq_some.mpr ⟨listed, held, some_, other⟩
      rw [found] at there
      cases there
  | some binding =>
      simp only [PrefixOutcome.execute.injEq]
      obtain ⟨listed, held, _, _⟩ := find_eq_some.mp found
      constructor
      · rintro rfl
        exact ⟨binding, listed, rfl, held, some_⟩
      · rintro ⟨each, there, rfl, also, _⟩
        rw [same_row there listed (also.trans held.symm) (also ▸ some_)]

/-- Whether a line has a say in whether a key reaches a command. -/
def Concerns (keymap : Keymap) (chord : Bytes) (key : CommandKey) (directive : BindDirective) : Prop :=
  Obeys directive ∧ (directive.chord = chord ∨ keymap.meant directive = some key)

/-- What one line leaves of who has a chord, and what it gives. -/
theorem moves_label (keymap : Keymap) (some_ : chord ≠ []) (directive : BindDirective)
    (matching : Matching CommandKey Bytes) :
    ((keymap.moves directive).foldl Matching.step matching).label key = some chord ↔
      (Obeys directive ∧ directive.chord = chord ∧ keymap.meant directive = some key) ∨
        matching.label key = some chord ∧ ¬keymap.Concerns chord key directive := by
  unfold moves Concerns
  by_cases obeys : Obeys directive
  · rw [if_neg (not_not.mpr obeys)]
    cases named : keymap.meant directive with
    | none =>
        rw [List.foldl_cons, List.foldl_nil, Matching.step_label]
        simp [Matching.Move.Touches, obeys]
    | some other =>
        dsimp only
        split
        · rename_i empty
          rw [List.foldl_cons, List.foldl_nil, Matching.step_label]
          simp [Matching.Move.Touches, obeys, empty, some_.symm]
        · rw [List.foldl_cons, List.foldl_nil, Matching.step_label]
          simp [Matching.Move.Touches, obeys, and_comm, or_comm]
  · simp [obeys]

/-- A key executes the command that has its spelling, if it is looked up at all. -/
theorem pressed_execute {Named : Type} [KeyNames Named] [EscapeKey Named] {event : KeyEvent Named} :
    keymap.pressed event = some (.execute key) ↔
      event.LooksUp ∧ keymap.matching.label key = some (chordSpelling event.chord) := by
  unfold pressed PrefixOverlay.onKey KeyEvent.LooksUp
  by_cases up : event.action = .release
  · simp [up]
  · rw [if_neg up]
    cases escape : event.chord.isEscape with
    | true => simp [PrefixOverlay.finish, resolvePrefix]
    | false =>
        by_cases some_ : chordSpelling event.chord = []
        · simp [PrefixOverlay.finish, resolvePrefix, some_]
        · by_cases other : digitChord (chordSpelling event.chord) = 0
          · have resolved := @resolvePrefix_execute keymap key _ some_ other
            simp [PrefixOverlay.finish, up, some_, other, resolved]
          · simp [PrefixOverlay.finish, resolvePrefix, some_, other]

end Keymap

end Config

end Ckmux
