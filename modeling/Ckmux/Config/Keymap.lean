import Mathlib
import Ckmux.Grammar.Text

/-!
# The keymap's vocabulary

What a key binding is written in: the names of actions and of contexts, and how a chord is
spelled. A chord is looked up by its spelling, so that there should be one spelling for each.
-/

namespace Ckmux

namespace Config

open Grammar (Bytes)

/-! ### Actions and contexts -/

/-- What a chord may be bound to. -/
inductive Action where
  | newTerminal | closeTerminal | killTerminal | moveTerminal | renameTerminal | printOutput
  | printerSettings | nextTerminal | previousTerminal | windowList | zoom | minimize | moveResize
  | tileHorizontally | tileVertically | tileGrid | cascade | menuBar | copyMode | paste | detach
  | sessions | newSession | renameSession | killSession | keyReference | settings
  | toggleStatusBar | fitDesktop | showCpuUsage | showMemoryRss | showMemoryReal | showClock
  | showDate | showDateTime | about | sendPrefix | quit
deriving DecidableEq

/-- Where a chord is pressed. -/
inductive KeyContext where
  | terminal | desktop | copyMode | picker | moveResize
deriving DecidableEq

/-- The names of the actions in a file. -/
def kActions : List (Bytes × Action) :=
  [(utf8 "new-terminal", .newTerminal), (utf8 "close-terminal", .closeTerminal),
    (utf8 "kill-terminal", .killTerminal), (utf8 "move-terminal", .moveTerminal),
    (utf8 "rename-terminal", .renameTerminal), (utf8 "print-output", .printOutput),
    (utf8 "printer-settings", .printerSettings), (utf8 "next-terminal", .nextTerminal),
    (utf8 "previous-terminal", .previousTerminal), (utf8 "window-list", .windowList),
    (utf8 "zoom", .zoom), (utf8 "minimize", .minimize), (utf8 "move-resize", .moveResize),
    (utf8 "tile-horizontally", .tileHorizontally), (utf8 "tile-vertically", .tileVertically),
    (utf8 "tile-grid", .tileGrid), (utf8 "cascade", .cascade), (utf8 "menu-bar", .menuBar),
    (utf8 "copy-mode", .copyMode), (utf8 "paste", .paste), (utf8 "detach", .detach),
    (utf8 "sessions", .sessions), (utf8 "new-session", .newSession),
    (utf8 "rename-session", .renameSession), (utf8 "kill-session", .killSession),
    (utf8 "key-reference", .keyReference), (utf8 "settings", .settings),
    (utf8 "status-bar", .toggleStatusBar), (utf8 "fit-desktop", .fitDesktop),
    (utf8 "show-cpu", .showCpuUsage), (utf8 "show-memory-rss", .showMemoryRss),
    (utf8 "show-memory-real", .showMemoryReal), (utf8 "show-clock", .showClock),
    (utf8 "show-date", .showDate), (utf8 "show-date-time", .showDateTime),
    (utf8 "about", .about), (utf8 "send-prefix", .sendPrefix), (utf8 "quit", .quit)]

/-- The names of the contexts in a file. -/
def kContexts : List (Bytes × KeyContext) :=
  [(utf8 "terminal", .terminal), (utf8 "desktop", .desktop), (utf8 "copy-mode", .copyMode),
    (utf8 "picker", .picker), (utf8 "move-resize", .moveResize)]

/-- The action of a name. -/
def parseAction (name : Bytes) : Option Action := kActions.lookup name

/-- The context of a name. -/
def parseKeyContext (name : Bytes) : Option KeyContext := kContexts.lookup name

/-- Names one after the other, as a warning lists them. -/
def joinNames {Value : Type} (table : List (Bytes × Value)) : Bytes :=
  (utf8 ", ").intercalate (table.map Prod.fst)

/-- All the names of actions. -/
def actionNameList : Bytes := joinNames kActions

/-- All the names of contexts. -/
def keyContextNameList : Bytes := joinNames kContexts

/-! ### Chords -/

/-- A key held while another is pressed. -/
inductive Modifier where
  | ctrl | shift | alt
deriving DecidableEq

/-- A set of modifiers. -/
structure Modifiers where
  ctrl : Bool := false
  shift : Bool := false
  alt : Bool := false
deriving DecidableEq

namespace Modifiers

/-- Whether a modifier is held. -/
def has (held : Modifiers) : Modifier → Bool
  | .ctrl => held.ctrl
  | .shift => held.shift
  | .alt => held.alt

/-- A modifier held beside the others. -/
def add (held : Modifiers) : Modifier → Modifiers
  | .ctrl => { held with ctrl := true }
  | .shift => { held with shift := true }
  | .alt => { held with alt := true }

end Modifiers

/-- The names of the keys that have one, as the terminal library knows them. -/
class KeyNames (Named : Type) where
  keyFromName : Bytes → Option Named
  keyName : Named → Bytes

variable {Named : Type} [KeyNames Named]

/-- No key, a character, or a key with a name. -/
inductive Key (Named : Type) where
  | none
  | char
  | named (name : Named)
deriving DecidableEq

/-- A key, what is held with it, and the text it makes. -/
structure KeyChord (Named : Type) where
  key : Key Named
  modifiers : Modifiers
  text : Bytes := []
deriving DecidableEq

/-- A letter, a digit or a sign. -/
def isPrintableAscii (byte : UInt8) : Bool := 0x20 < byte ∧ byte < 0x7F

/-- A capital letter made small. -/
def lowerAscii (byte : UInt8) : UInt8 :=
  if 0x41 ≤ byte ∧ byte ≤ 0x5A then byte - 0x41 + 0x61 else byte

/-- A small letter made a capital. -/
def upperAscii (byte : UInt8) : UInt8 :=
  if 0x61 ≤ byte ∧ byte ≤ 0x7A then byte - 0x61 + 0x41 else byte

/-- `C`, `S`, and `A` or `M`. -/
def modifierOf (letter : UInt8) : Option Modifier :=
  if letter = 0x43 then some .ctrl
  else if letter = 0x53 then some .shift
  else if letter = 0x41 ∨ letter = 0x4D then some .alt
  else none

/-- The modifiers in front of a chord, each at most once, and what is behind them. -/
def takeModifiers (held : Modifiers) : Bytes → Option (Modifiers × Bytes)
  | letter :: 0x2D :: rest =>
      match modifierOf letter with
      | none => some (held, letter :: 0x2D :: rest)
      | some modifier => if held.has modifier then none else takeModifiers (held.add modifier) rest
  | text => some (held, text)

/-- The character of `^B`. -/
def caretLetter : Bytes → Option UInt8
  | [0x5E, letter] => if isPrintableAscii letter then some letter else none
  | _ => none

/-- One printable character that stands for itself. -/
def printableLetter : Bytes → Option UInt8
  | [letter] => if isPrintableAscii letter then some letter else none
  | _ => none

/-- The key behind the modifiers. -/
def parseKey (held : Modifiers) (text : Bytes) : Option (KeyChord Named) :=
  if text = [] then none
  else
    match caretLetter text with
    | some letter =>
        if held ≠ {} then none
        else some { key := .char, modifiers := { ctrl := true }, text := [lowerAscii letter] }
    | none =>
        if text = utf8 "Space" then some { key := .char, modifiers := held, text := [0x20] }
        else
          match KeyNames.keyFromName text with
          | some name => some { key := .named name, modifiers := held }
          | none =>
              match printableLetter text with
              | none => none
              | some letter =>
                  if held.shift then none
                  else
                    let text := if held.ctrl then [lowerAscii letter] else [letter]
                    some { key := .char, modifiers := held, text }

/-- A chord as it is spelt: modifiers first, and a key behind them. -/
def parseChord (text : Bytes) : Option (KeyChord Named) :=
  (takeModifiers {} text).bind fun taken => parseKey taken.1 taken.2

/-- `C-` and the like, where it is held. -/
def modifierPrefix (held : Bool) (letter : UInt8) : Bytes := if held then [letter, 0x2D] else []

/-- How a chord is spelt. -/
def chordSpelling (chord : KeyChord Named) : Bytes :=
  let spelling := modifierPrefix chord.modifiers.ctrl 0x43 ++ modifierPrefix chord.modifiers.alt 0x41
  match chord.key with
  | .none => []
  | .char =>
      if chord.modifiers = { ctrl := true } ∧ chord.text.length = 1 ∧ chord.text ≠ [0x20] then
        [0x5E, upperAscii (chord.text.headD 0)]
      -- the case of a character is its shift
      else spelling ++ if chord.text = [0x20] then utf8 "Space" else chord.text
  | .named name =>
      spelling ++ modifierPrefix chord.modifiers.shift 0x53 ++ KeyNames.keyName name

/-- A modifier that is not held is not spelt. -/
@[simp] theorem modifierPrefix_false (letter : UInt8) : modifierPrefix false letter = [] := rfl

/-! ### How a chord is read -/

/-- A letter of either case folds to the same one, and is printable in both if it is in one. -/
theorem ascii_cases : ∀ byte : UInt8, lowerAscii (upperAscii byte) = lowerAscii byte ∧
    lowerAscii (lowerAscii byte) = lowerAscii byte ∧
    isPrintableAscii (lowerAscii byte) = isPrintableAscii byte ∧
    isPrintableAscii (upperAscii byte) = isPrintableAscii byte := by
  decide +kernel

/-- A letter made a capital and then small is the small one. -/
theorem lowerAscii_upperAscii (byte : UInt8) : lowerAscii (upperAscii byte) = lowerAscii byte :=
  (ascii_cases byte).1

/-- A small letter stays small. -/
theorem lowerAscii_lowerAscii (byte : UInt8) : lowerAscii (lowerAscii byte) = lowerAscii byte :=
  (ascii_cases byte).2.1

/-- Making a letter small leaves whether it is printable. -/
theorem isPrintableAscii_lowerAscii (byte : UInt8) :
    isPrintableAscii (lowerAscii byte) = isPrintableAscii byte :=
  (ascii_cases byte).2.2.1

/-- Making a letter a capital leaves whether it is printable. -/
theorem isPrintableAscii_upperAscii (byte : UInt8) :
    isPrintableAscii (upperAscii byte) = isPrintableAscii byte :=
  (ascii_cases byte).2.2.2

/-- A printable byte is no blank. -/
theorem not_blank_of_printable {byte : UInt8} (printable : isPrintableAscii byte = true) :
    byte ≠ 0x20 := by
  rintro rfl
  cases printable

/-- The letters of some modifiers as they stand in front of a chord. -/
def modifierText (letters : List UInt8) : Bytes := letters.flatMap fun letter => [letter, 0x2D]

/-- Each modifier is its letter and a dash. -/
theorem modifierText_cons (letter : UInt8) (letters : List UInt8) :
    modifierText (letter :: letters) = letter :: 0x2D :: modifierText letters :=
  rfl

/-- A text has no modifier in front. -/
def Unmodified (text : Bytes) : Prop :=
  ∀ letter rest, text = letter :: 0x2D :: rest → modifierOf letter = none

/-- Where no modifier is spelt none is taken. -/
theorem takeModifiers_unmodified {text : Bytes} (unmodified : Unmodified text) (held : Modifiers) :
    takeModifiers held text = some (held, text) := by
  fun_cases takeModifiers held text with
  | case1 letter rest found => rfl
  | case2 letter rest modifier found => cases (unmodified letter rest rfl).symm.trans found
  | case3 letter rest modifier found => cases (unmodified letter rest rfl).symm.trans found
  | case4 text other => rfl

/-- A single letter spells no modifier. -/
theorem unmodified_single (letter : UInt8) : Unmodified [letter] := by
  intro first rest same
  cases same

/-- A letter behind a caret spells no modifier. -/
theorem unmodified_caret (letter : UInt8) : Unmodified [0x5E, letter] := by
  intro first rest same
  obtain rfl := (List.cons.inj same).1
  rfl

/-- What is taken is the text without the modifiers in front of it. -/
theorem takeModifiers_parts {held : Modifiers} {text : Bytes} {taken : Modifiers × Bytes}
    (took : takeModifiers held text = some taken) :
    Unmodified taken.2 ∧ ∃ letters, (∀ letter ∈ letters, (modifierOf letter).isSome) ∧
      text = modifierText letters ++ taken.2 ∧ taken.1.shift = (held.shift || 0x53 ∈ letters) := by
  fun_induction takeModifiers held text with
  | case1 held letter rest plain =>
      obtain rfl := Option.some.inj took
      refine ⟨?_, [], by simp, rfl, by simp⟩
      intro first behind same
      obtain ⟨rfl, -⟩ := List.cons.inj same
      exact plain
  | case2 held letter rest modifier found repeated => cases took
  | case3 held letter rest modifier found fresh ih =>
      obtain ⟨unmodified, letters, valid, rest_eq, shift_eq⟩ := ih took
      refine ⟨unmodified, letter :: letters, ?_, ?_, ?_⟩
      · simpa [found] using valid
      · rw [rest_eq]
        rfl
      · rw [shift_eq]
        have shifts : (held.add modifier).shift = (held.shift || decide (letter = 0x53)) := by
          simp only [modifierOf] at found
          split_ifs at found <;> obtain rfl := Option.some.inj found <;> simp_all [Modifiers.add]
        rw [shifts, Bool.or_assoc]
        simp [eq_comm]
  | case4 held text other =>
      obtain rfl := Option.some.inj took
      refine ⟨?_, [], by simp, rfl, by simp⟩
      intro first behind same
      exact absurd same (other first behind)

/-- Behind the same text without modifiers, the letters in front are the same. -/
theorem modifierText_inj {letters others : List UInt8} {text rest : Bytes}
    (valid : ∀ letter ∈ letters, (modifierOf letter).isSome)
    (others_valid : ∀ letter ∈ others, (modifierOf letter).isSome)
    (unmodified : Unmodified text) (rest_unmodified : Unmodified rest)
    (same : modifierText letters ++ text = modifierText others ++ rest) :
    letters = others ∧ text = rest := by
  induction letters generalizing others with
  | nil =>
      cases others with
      | nil => exact ⟨rfl, same⟩
      | cons letter others =>
          have plain := unmodified letter (modifierText others ++ rest) same
          have := others_valid letter List.mem_cons_self
          rw [plain] at this
          cases this
  | cons letter letters ih =>
      cases others with
      | nil =>
          have plain := rest_unmodified letter (modifierText letters ++ text) same.symm
          have := valid letter List.mem_cons_self
          rw [plain] at this
          cases this
      | cons other others =>
          rw [modifierText_cons, modifierText_cons] at same
          simp only [List.cons_append, List.cons.injEq, true_and] at same
          obtain ⟨rfl, same⟩ := same
          obtain ⟨rfl, text_eq⟩ := ih (fun _ listed => valid _ (List.mem_cons_of_mem _ listed))
            (fun _ listed => others_valid _ (List.mem_cons_of_mem _ listed)) same
          exact ⟨rfl, text_eq⟩

/-- The modifiers of a spelling are read as they were held. -/
theorem takeModifiers_spelled {text : Bytes} (unmodified : Unmodified text) (held : Modifiers) :
    takeModifiers {} (modifierPrefix held.ctrl 0x43 ++ modifierPrefix held.alt 0x41 ++
      modifierPrefix held.shift 0x53 ++ text) = some (held, text) := by
  have rest := takeModifiers_unmodified unmodified
  obtain ⟨ctrl, shift, alt⟩ := held
  cases ctrl <;> cases shift <;> cases alt <;>
    simp [modifierPrefix, takeModifiers, modifierOf, Modifiers.has, Modifiers.add, rest]

/-- What a key may be read as. -/
inductive KeyRead (held : Modifiers) : Bytes → KeyChord Named → Prop where
  | caret (letter : UInt8) (printable : isPrintableAscii letter = true) (bare : held = {}) :
      KeyRead held [0x5E, letter] ⟨.char, { ctrl := true }, [lowerAscii letter]⟩
  | space : KeyRead held (utf8 "Space") ⟨.char, held, [0x20]⟩
  | named (text : Bytes) (name : Named) (filled : text ≠ []) (apart : caretLetter text = none)
      (other : text ≠ utf8 "Space") (found : KeyNames.keyFromName text = some name) :
      KeyRead held text ⟨.named name, held, []⟩
  | letter (letter : UInt8) (printable : isPrintableAscii letter = true)
      (unshifted : held.shift = false) :
      KeyRead held [letter] ⟨.char, held, if held.ctrl then [lowerAscii letter] else [letter]⟩

/-- A letter behind a caret is spelt with just that. -/
theorem caretLetter_eq {text : Bytes} {letter : UInt8} (found : caretLetter text = some letter) :
    text = [0x5E, letter] ∧ isPrintableAscii letter = true := by
  fun_cases caretLetter text with
  | case1 => simp_all [caretLetter]
  | case2 => simp_all [caretLetter]
  | case3 => simp_all [caretLetter]

/-- A printable letter is spelt by itself. -/
theorem printableLetter_eq {text : Bytes} {letter : UInt8}
    (found : printableLetter text = some letter) :
    text = [letter] ∧ isPrintableAscii letter = true := by
  fun_cases printableLetter text with
  | case1 => simp_all [printableLetter]
  | case2 => simp_all [printableLetter]
  | case3 => simp_all [printableLetter]

/-- Every key that is read is read in one of the ways there are. -/
theorem keyRead_of_parseKey {held : Modifiers} {text : Bytes} {chord : KeyChord Named}
    (parsed : parseKey held text = some chord) : KeyRead held text chord := by
  rw [parseKey] at parsed
  split at parsed
  · cases parsed
  rename_i filled
  split at parsed
  · rename_i letter found
    obtain ⟨rfl, printable⟩ := caretLetter_eq found
    split at parsed
    · cases parsed
    · rename_i bare
      obtain rfl := Option.some.inj parsed
      exact .caret letter printable (not_not.mp bare)
  · rename_i apart
    split at parsed
    · rename_i blank
      obtain rfl := Option.some.inj parsed
      exact blank ▸ .space
    · rename_i other
      split at parsed
      · rename_i name found
        obtain rfl := Option.some.inj parsed
        exact .named text name filled apart other found
      · split at parsed
        · cases parsed
        · rename_i letter found
          obtain ⟨rfl, printable⟩ := printableLetter_eq found
          split at parsed
          · cases parsed
          · rename_i unshifted
            obtain rfl := Option.some.inj parsed
            exact .letter letter printable (Bool.not_eq_true _ |>.mp unshifted)

/-- The parts of a text that is a chord. -/
theorem parseChord_parts {text : Bytes} {chord : KeyChord Named}
    (accepted : parseChord text = some chord) :
    ∃ held rest letters, KeyRead held rest chord ∧ Unmodified rest ∧
      (∀ letter ∈ letters, (modifierOf letter).isSome) ∧ text = modifierText letters ++ rest ∧
      held.shift = decide (0x53 ∈ letters) := by
  obtain ⟨taken, took, parsed⟩ := Option.bind_eq_some_iff.mp accepted
  obtain ⟨unmodified, letters, valid, text_eq, shift_eq⟩ := takeModifiers_parts took
  exact ⟨taken.1, taken.2, letters, keyRead_of_parseKey parsed, unmodified, valid, text_eq,
    shift_eq.trans (Bool.false_or _)⟩

/-! ### What is read back from a spelling -/

/-- A key is spelled with the name that it is read by, and one printable character stands for
itself. -/
structure KeyNames.Lawful (Named : Type) [KeyNames Named] : Prop where
  spelled : ∀ text (name : Named), KeyNames.keyFromName text = some name →
    KeyNames.keyName name = text
  single : ∀ letter, isPrintableAscii letter = true →
    (KeyNames.keyFromName [letter] : Option Named) = none

/-- The space key as a character. -/
def spaceChord (held : Modifiers) : KeyChord Named := ⟨.char, held, [0x20]⟩

/-- The name of the space key spells no modifier. -/
theorem unmodified_space : Unmodified (utf8 "Space") := by
  intro letter rest same
  cases same

/-- Of the space key, Shift is not read back. -/
theorem parseChord_spelling_space (held : Modifiers) :
    parseChord (chordSpelling (spaceChord held : KeyChord Named)) =
      some (spaceChord { held with shift := false } : KeyChord Named) := by
  have spelling : chordSpelling (spaceChord held : KeyChord Named) =
      modifierPrefix held.ctrl 0x43 ++ modifierPrefix held.alt 0x41 ++
        modifierPrefix false 0x53 ++ utf8 "Space" := by
    simp [chordSpelling, spaceChord]
  have taken := takeModifiers_spelled unmodified_space { held with shift := false }
  dsimp only at taken
  rw [parseChord, spelling, taken]
  rfl

/-- Any other chord is read back as it is. -/
theorem parseChord_spelling (lawful : KeyNames.Lawful Named) {held : Modifiers} {text : Bytes}
    {chord : KeyChord Named} (read : KeyRead held text chord) (unmodified : Unmodified text)
    (other : text ≠ utf8 "Space") : parseChord (chordSpelling chord) = some chord := by
  have caret (letter : UInt8) (printable : isPrintableAscii letter = true) :
      (parseChord [0x5E, letter] : Option (KeyChord Named)) =
        some ⟨.char, { ctrl := true }, [lowerAscii letter]⟩ := by
    rw [parseChord, takeModifiers_unmodified (unmodified_caret letter)]
    simp [parseKey, caretLetter, printable]
  cases read with
  | caret letter printable bare =>
      have lower_printable := (isPrintableAscii_lowerAscii letter).trans printable
      have spelling : chordSpelling
          (⟨.char, { ctrl := true }, [lowerAscii letter]⟩ : KeyChord Named) =
            [0x5E, upperAscii (lowerAscii letter)] := by
        simp [chordSpelling, not_blank_of_printable lower_printable]
      rw [spelling, caret _ ((isPrintableAscii_upperAscii _).trans lower_printable),
        lowerAscii_upperAscii, lowerAscii_lowerAscii]
  | space => exact absurd rfl other
  | named text name filled apart other found =>
      have spelling : chordSpelling (⟨.named name, held, []⟩ : KeyChord Named) =
          modifierPrefix held.ctrl 0x43 ++ modifierPrefix held.alt 0x41 ++
            modifierPrefix held.shift 0x53 ++ text := by
        simp [chordSpelling, lawful.spelled text name found]
      rw [parseChord, spelling, takeModifiers_spelled unmodified, Option.bind_some, parseKey,
        if_neg filled]
      simp only [apart, if_neg other, found]
  | letter letter printable unshifted =>
      have same : (if held.ctrl then [lowerAscii letter] else [letter]) =
          [if held.ctrl then lowerAscii letter else letter] := by
        split <;> rfl
      generalize kept_eq : (if held.ctrl then lowerAscii letter else letter) = kept at same
      have kept_printable : isPrintableAscii kept = true := by
        rw [← kept_eq]
        split
        · exact (isPrintableAscii_lowerAscii letter).trans printable
        · exact printable
      have folds : (if held.ctrl then [lowerAscii kept] else [kept]) = [kept] := by
        rw [← kept_eq]
        split
        · rw [lowerAscii_lowerAscii]
        · rfl
      rw [same]
      by_cases ctrl_only : held = { ctrl := true }
      · subst ctrl_only
        have spelling : chordSpelling (⟨.char, { ctrl := true }, [kept]⟩ : KeyChord Named) =
            [0x5E, upperAscii kept] := by
          simp [chordSpelling, not_blank_of_printable kept_printable]
        rw [spelling, caret _ ((isPrintableAscii_upperAscii kept).trans kept_printable),
          lowerAscii_upperAscii]
        rw [if_pos rfl] at folds
        rw [List.singleton_inj.mp folds]
      · have spelling : chordSpelling (⟨.char, held, [kept]⟩ : KeyChord Named) =
            modifierPrefix held.ctrl 0x43 ++ modifierPrefix held.alt 0x41 ++
              modifierPrefix held.shift 0x53 ++ [kept] := by
          simp [chordSpelling, ctrl_only, unshifted, modifierPrefix,
            not_blank_of_printable kept_printable]
        have kept_other : [kept] ≠ utf8 "Space" := by
          intro same
          cases same
        rw [parseChord, spelling, takeModifiers_spelled (unmodified_single kept), Option.bind_some,
          parseKey, if_neg (List.cons_ne_nil _ _)]
        simp only [caretLetter, if_neg kept_other, lawful.single kept kept_printable,
          printableLetter, kept_printable, if_true, unshifted, Bool.false_eq_true, if_false]
        rw [folds]

/-! ### One spelling for each chord -/

/-- `Space` behind its modifiers. -/
def NamesSpace (text : Bytes) : Prop :=
  ∃ letters, (∀ letter ∈ letters, (modifierOf letter).isSome) ∧
    text = modifierText letters ++ utf8 "Space"

/-- `Space` behind its modifiers, Shift among them. -/
def ShiftsSpace (text : Bytes) : Prop :=
  ∃ letters, (∀ letter ∈ letters, (modifierOf letter).isSome) ∧ 0x53 ∈ letters ∧
    text = modifierText letters ++ utf8 "Space"

section

variable {text : Bytes} {chord : KeyChord Named}

/-- Nothing but its name is read as the space key. -/
theorem keyRead_blank {held : Modifiers} (read : KeyRead held text chord)
    (blank : chord.text = [0x20]) : text = utf8 "Space" ∧ chord = spaceChord held := by
  cases read with
  | caret letter printable bare =>
      have lower_printable := (isPrintableAscii_lowerAscii letter).trans printable
      exact absurd (List.singleton_inj.mp blank) (not_blank_of_printable lower_printable)
  | space => exact ⟨rfl, rfl⟩
  | named => cases blank
  | letter letter printable unshifted =>
      dsimp only at blank
      split at blank
      · have lower_printable := (isPrintableAscii_lowerAscii letter).trans printable
        exact absurd (List.singleton_inj.mp blank) (not_blank_of_printable lower_printable)
      · exact absurd (List.singleton_inj.mp blank) (not_blank_of_printable printable)

/-- The name of the space key is read as that key, and nothing else is. -/
theorem namesSpace_iff (accepted : parseChord text = some chord) :
    NamesSpace text ↔ ∃ held, chord = spaceChord held := by
  obtain ⟨held, rest, letters, read, unmodified, valid, rfl, _⟩ := parseChord_parts accepted
  constructor
  · rintro ⟨others, others_valid, same⟩
    obtain ⟨_, rfl⟩ := modifierText_inj valid others_valid unmodified unmodified_space same
    cases read with
    | space => exact ⟨held, rfl⟩
    | named _ _ _ _ other => exact absurd rfl other
  · rintro ⟨other, rfl⟩
    obtain ⟨rfl, _⟩ := keyRead_blank read rfl
    exact ⟨letters, valid, rfl⟩

/-- A spelling holds shift over the space bar exactly if its chord does. -/
theorem shiftsSpace_iff (accepted : parseChord text = some chord) :
    ShiftsSpace text ↔ ∃ held, chord = spaceChord held ∧ held.shift = true := by
  obtain ⟨held, rest, letters, read, unmodified, valid, rfl, shift_eq⟩ := parseChord_parts accepted
  constructor
  · rintro ⟨others, others_valid, shifts, same⟩
    obtain ⟨rfl, rfl⟩ := modifierText_inj valid others_valid unmodified unmodified_space same
    cases read with
    | space => exact ⟨held, rfl, shift_eq.trans (decide_eq_true shifts)⟩
    | named _ _ _ _ other => exact absurd rfl other
  · rintro ⟨other, rfl, shifts⟩
    obtain ⟨rfl, same⟩ := keyRead_blank read rfl
    obtain rfl : other = held := congrArg KeyChord.modifiers same
    exact ⟨letters, valid, of_decide_eq_true (shift_eq.symm.trans shifts), rfl⟩

/-- The space key can be asked for with any modifiers. -/
theorem parseChord_space (held : Modifiers) :
    parseChord (modifierPrefix held.ctrl 0x43 ++ modifierPrefix held.alt 0x41 ++
      modifierPrefix held.shift 0x53 ++ utf8 "Space") =
        some (spaceChord held : KeyChord Named) := by
  rw [parseChord, takeModifiers_spelled unmodified_space]
  rfl

/-- A chord other than the space key is read back from its spelling. -/
theorem parseChord_spelled (lawful : KeyNames.Lawful Named)
    (accepted : parseChord text = some chord) (other : ¬NamesSpace text) :
    parseChord (chordSpelling chord) = some chord := by
  obtain ⟨held, rest, letters, read, unmodified, valid, rfl, _⟩ := parseChord_parts accepted
  refine parseChord_spelling lawful read unmodified ?_
  rintro rfl
  exact other ⟨letters, valid, rfl⟩

end

/-- A spelling is read back as the chord that it was made of, unless that is the space key with
Shift; and no other chord is spelled the same, unless it is the space key. -/
theorem chordSpelling_canonical (lawful : KeyNames.Lawful Named) {text : Bytes}
    {chord : KeyChord Named} (accepted : parseChord text = some chord) :
    (parseChord (chordSpelling chord) = some chord ↔ ¬ShiftsSpace text) ∧
    ((∀ other (otherChord : KeyChord Named), parseChord other = some otherChord →
      chordSpelling otherChord = chordSpelling chord → otherChord = chord) ↔ ¬NamesSpace text) := by
  by_cases blank : NamesSpace text
  · obtain ⟨held, rfl⟩ := (namesSpace_iff accepted).mp blank
    constructor
    · rw [parseChord_spelling_space, Option.some_inj, shiftsSpace_iff accepted]
      constructor
      · rintro same ⟨other, same_space, shifts⟩
        obtain rfl : held = other := congrArg KeyChord.modifiers same_space
        have unshifted : false = held.shift :=
          congrArg (fun chord => chord.modifiers.shift) same
        rw [shifts] at unshifted
        cases unshifted
      · intro unshifted
        have shift_eq : held.shift = false := by
          by_contra shifts
          exact unshifted ⟨held, rfl, Bool.not_eq_false _ |>.mp shifts⟩
        rw [← shift_eq]
    · refine iff_of_false (fun unique => ?_) (not_not.mpr blank)
      -- the space key with Shift, or without, is spelled the same
      have same := unique _ (spaceChord { held with shift := !held.shift }) (parseChord_space _)
        (by simp [chordSpelling, spaceChord])
      have shift_eq : (!held.shift) = held.shift :=
        congrArg (fun chord => chord.modifiers.shift) same
      exact Bool.not_ne_self _ shift_eq
  · have back := parseChord_spelled lawful accepted blank
    constructor
    · refine iff_of_true back ?_
      rintro ⟨letters, valid, _, text_eq⟩
      exact blank ⟨letters, valid, text_eq⟩
    · refine iff_of_true (fun other otherChord other_accepted same => ?_) blank
      by_cases other_blank : NamesSpace other
      · obtain ⟨held, rfl⟩ := (namesSpace_iff other_accepted).mp other_blank
        have other_back := @parseChord_spelling_space Named _ held
        rw [same, back, Option.some_inj] at other_back
        exact absurd ((namesSpace_iff accepted).mpr ⟨_, other_back⟩) blank
      · have other_back := parseChord_spelled lawful other_accepted other_blank
        rw [same, back, Option.some_inj] at other_back
        exact other_back.symm

/-- Three of the keys that have a name. -/
inductive NamedKey where
  | enter | up | escape
deriving DecidableEq

/-- Some keys with names, as a terminal library has them. -/
instance namedKeys : KeyNames NamedKey where
  keyFromName text :=
    if text = utf8 "Enter" then some .enter
    else if text = utf8 "Up" then some .up
    else if text = utf8 "Esc" then some .escape
    else none
  keyName
    | .enter => utf8 "Enter"
    | .up => utf8 "Up"
    | .escape => utf8 "Esc"

/-- The names are told apart and are no letters. -/
theorem namedKeys_lawful : KeyNames.Lawful NamedKey where
  spelled text name found := by
    simp only [KeyNames.keyFromName] at found
    split_ifs at found with enter up escape
    · obtain rfl := Option.some.inj found
      exact enter.symm
    · obtain rfl := Option.some.inj found
      exact up.symm
    · obtain rfl := Option.some.inj found
      exact escape.symm
  single letter _ := by
    have no_enter : [letter] ≠ utf8 "Enter" := by
      intro same
      cases same
    have no_up : [letter] ≠ utf8 "Up" := by
      intro same
      cases same
    have no_escape : [letter] ≠ utf8 "Esc" := by
      intro same
      cases same
    simp only [KeyNames.keyFromName, if_neg no_enter, if_neg no_up, if_neg no_escape]

/-- A letter with Ctrl and Alt, as it is read. -/
def letterChord : KeyChord NamedKey := ⟨.char, { ctrl := true, alt := true }, utf8 "x"⟩

/-- `C-A-X` is spelled `C-A-x`, and that is read as the same chord. -/
theorem chordSpelling_canonical_letter :
    parseChord (utf8 "C-A-X") = some letterChord ∧
      parseChord (chordSpelling letterChord) = some letterChord := by
  have accepted : parseChord (utf8 "C-A-X") = some letterChord := by decide
  refine ⟨accepted, (chordSpelling_canonical namedKeys_lawful accepted).1.mpr ?_⟩
  rw [shiftsSpace_iff accepted]
  rintro ⟨held, same, _⟩
  have text_eq : utf8 "x" = [0x20] := congrArg KeyChord.text same
  cases text_eq

/-- `S-Space` is accepted with Shift and spelled without it, as `Space` is. -/
theorem chordSpelling_loses_shift :
    ∃ shifted plain : KeyChord NamedKey, parseChord (utf8 "S-Space") = some shifted ∧
      parseChord (utf8 "Space") = some plain ∧ shifted ≠ plain ∧
      chordSpelling shifted = chordSpelling plain ∧
      parseChord (chordSpelling shifted) ≠ some shifted :=
  ⟨spaceChord { shift := true }, spaceChord {}, by decide⟩

end Config

end Ckmux
