import Mathlib
import Ckmux.Config.Keymap
import Ckmux.Config.Line

/-!
# Settings

Every setting has a section and a key, a grammar for its values and a default. The loader goes
through the lines of the file in order; what it does not obey it warns about, and leaves the
settings as they were.
-/

namespace Ckmux

namespace Config

open Grammar (Bytes readLines trim)

/-! ### Values -/

/-- How the desktop is coloured. -/
inductive Theme where
  | dark | light | mono
deriving DecidableEq

/-- What the clock shows. -/
inductive ClockMode where
  | seconds | minutes | off
deriving DecidableEq

/-- What becomes of a window whose child has ended. -/
inductive ExitPolicy where
  | close | hold | holdOnError
deriving DecidableEq

/-- Whether Sixel is offered to children. -/
inductive SixelMode where
  | auto | off
deriving DecidableEq

/-- What becomes of what a child prints. -/
inductive PrinterMode where
  | ask | capture | off
deriving DecidableEq

/-- How a print job is saved. -/
inductive PrinterSaveFormat where
  | text | ansi
deriving DecidableEq

/-- Whose screen the desktop follows. -/
inductive DesktopSizePolicy where
  | fixed | fitSmallest | fitLatest
deriving DecidableEq

/-- A way to the reader's clipboard. -/
inductive ClipboardKind where
  | osc52 | pbcopy | exec
deriving DecidableEq

/-- A way to the clipboard, with its command if it needs one. -/
structure ClipboardTarget where
  kind : ClipboardKind := .osc52
  command : Bytes := []
deriving DecidableEq

/-- The themes by name. -/
def kThemes : List (Bytes × Theme) :=
  [(utf8 "dark", .dark), (utf8 "light", .light), (utf8 "mono", .mono)]

/-- The clock's modes by name. -/
def kClockModes : List (Bytes × ClockMode) :=
  [(utf8 "seconds", .seconds), (utf8 "minutes", .minutes), (utf8 "off", .off)]

/-- The policies by name. -/
def kExitPolicies : List (Bytes × ExitPolicy) :=
  [(utf8 "close", .close), (utf8 "hold", .hold), (utf8 "hold-on-error", .holdOnError)]

/-- The modes by name. -/
def kSixelModes : List (Bytes × SixelMode) := [(utf8 "auto", .auto), (utf8 "off", .off)]

/-- The modes by name. -/
def kPrinterModes : List (Bytes × PrinterMode) :=
  [(utf8 "ask", .ask), (utf8 "capture", .capture), (utf8 "off", .off)]

/-- The policies by name. -/
def kDesktopSizePolicies : List (Bytes × DesktopSizePolicy) :=
  [(utf8 "fixed", .fixed), (utf8 "fit-smallest", .fitSmallest), (utf8 "fit-latest", .fitLatest)]

/-- The formats by name. -/
def kSaveFormats : List (Bytes × PrinterSaveFormat) := [(utf8 "txt", .text), (utf8 "ansi", .ansi)]

/-- The largest size a setting takes. -/
def kByteSizeMax : Nat := 1024 * 1024 * 1024

/-- A number in digits. -/
def number (value : Int) : Bytes := utf8 (toString value)

/-- A switch as it is written. -/
def boolSetting (value : Bool) : Bytes := if value then utf8 "true" else utf8 "false"

/-- A switch is one of two words. -/
def parseBool (text : Bytes) : Option Bool :=
  if trim text = utf8 "true" then some true
  else if trim text = utf8 "false" then some false
  else none

/-- The number that some digits write, at least one of them. -/
def digits (text : Bytes) : Option Nat :=
  if text = [] then none
  else text.foldlM (fun value byte =>
    if 0x30 ≤ byte ∧ byte ≤ 0x39 then some (10 * value + (byte.toNat - 0x30)) else none) 0

/-- A whole text as an `int`. -/
def intFromChars (text : Bytes) : Option Int :=
  let value : Option Int :=
    if text.head? = some 0x2D then (digits text.tail).map fun value => -value
    else (digits text).map fun value => value
  value.filter fun value => -2 ^ 31 ≤ value ∧ value < 2 ^ 31

/-- A whole number between two others. -/
def parseIntInRange (text : Bytes) (minimum maximum : Int) : Option Int :=
  (intFromChars (trim text)).filter fun value => minimum ≤ value ∧ value ≤ maximum

/-- `K`, `M` and `G`, upper case only. -/
def byteMultiplier (text : Bytes) : Nat :=
  if text.getLast? = some 0x4B then 1024
  else if text.getLast? = some 0x4D then 1024 * 1024
  else if text.getLast? = some 0x47 then 1024 * 1024 * 1024
  else 1

/-- A size, in kilo-, mega- or gigabytes if its last letter says so. -/
def parseByteSize (text : Bytes) : Option Nat :=
  let multiplier := byteMultiplier (trim text)
  let body := if multiplier ≠ 1 then (trim text).dropLast else trim text
  let value := (digits body).filter (· < 2 ^ 64)
  (value.filter (· ≤ kByteSizeMax / multiplier)).map (· * multiplier)

/-- A way to the clipboard by its name, or a command behind the word for one. -/
def parseClipboardTarget (entry : Bytes) : Option ClipboardTarget :=
  if entry = utf8 "osc52" then some { kind := .osc52 }
  else if entry = utf8 "pbcopy" then some { kind := .pbcopy }
  else if (utf8 "exec:").isPrefixOf entry then
    let command := trim (entry.drop 5)
    if command = [] then none else some { kind := .exec, command }
  else none

/-- Ways to the clipboard, with commas between them. -/
def parseClipboardTargets (text : Bytes) : Option (List ClipboardTarget) :=
  if trim text = [] then none
  else ((trim text).splitOn 0x2C).mapM fun entry => parseClipboardTarget (trim entry)

/-! ### The settings -/

/-- The settings that there are, section by section. -/
inductive Field where
  | prefixChord | shell | loginShell | scrollback | maxTerminals | audibleBell | theme | onExit
  | confirmKill | killGraceSeconds | killEmptySession | clock | desktopSize | resizeWindowsToFit
  | showCpu | showMemoryRss | showMemoryReal
  | term | mouse | alternateScroll | sixel | sixelMaxMegapixels | osc52 | clipboard
  | printerMode | printerAskCacheBytes | printerSpoolLimitBytes | printerSaveFormat
  | printerSaveFolder | printerSaveAskName
  | maxFps
deriving DecidableEq

section

variable (Named : Type)

/-- What a setting may be. -/
def Field.Value : Field → Type
  | .prefixChord => KeyChord Named
  | .shell | .term | .printerSaveFolder => Bytes
  | .loginShell | .audibleBell | .confirmKill | .killEmptySession | .resizeWindowsToFit
  | .showCpu | .showMemoryRss | .showMemoryReal | .mouse | .alternateScroll | .osc52
  | .printerSaveAskName => Bool
  | .scrollback | .maxTerminals | .killGraceSeconds | .sixelMaxMegapixels | .maxFps => Int
  | .theme => Theme
  | .onExit => ExitPolicy
  | .clock => ClockMode
  | .desktopSize => DesktopSizePolicy
  | .sixel => SixelMode
  | .clipboard => List ClipboardTarget
  | .printerMode => PrinterMode
  | .printerAskCacheBytes | .printerSpoolLimitBytes => Nat
  | .printerSaveFormat => PrinterSaveFormat

/-- One `bind` or `unbind` line; there is no action in the latter. -/
structure BindDirective where
  context : KeyContext
  chord : Bytes
  action : Option Action
deriving DecidableEq

/-- Every field's value, and the directives for keys. -/
structure Settings where
  value : (field : Field) → field.Value Named
  binds : List BindDirective

end

variable {Named : Type} [KeyNames Named]

/-- What applies where the file says nothing. -/
def builtIn : (field : Field) → field.Value Named
  | .prefixChord => ({ key := .char, modifiers := { ctrl := true }, text := utf8 "b" } : KeyChord _)
  | .shell => ([] : Bytes)
  | .loginShell => true
  | .scrollback => (10000 : Int)
  | .maxTerminals => (64 : Int)
  | .audibleBell => false
  | .theme => Theme.dark
  | .onExit => ExitPolicy.holdOnError
  | .confirmKill => true
  | .killGraceSeconds => (5 : Int)
  | .killEmptySession => true
  | .clock => ClockMode.seconds
  | .desktopSize => DesktopSizePolicy.fixed
  | .resizeWindowsToFit => false
  | .showCpu => false
  | .showMemoryRss => false
  | .showMemoryReal => false
  | .term => utf8 "auto"
  | .mouse => true
  | .alternateScroll => true
  | .sixel => SixelMode.auto
  | .sixelMaxMegapixels => (64 : Int)
  | .osc52 => true
  | .clipboard => [({ kind := .osc52 } : ClipboardTarget), { kind := .pbcopy }]
  | .printerMode => PrinterMode.ask
  | .printerAskCacheBytes => (256 * 1024 : Nat)
  | .printerSpoolLimitBytes => (1024 * 1024 : Nat)
  | .printerSaveFormat => PrinterSaveFormat.text
  | .printerSaveFolder => utf8 "~/Documents"
  | .printerSaveAskName => true
  | .maxFps => (30 : Int)

namespace Settings

/-- What holds where no file says anything. -/
def initial : Settings Named := { value := builtIn, binds := [] }

/-- One field's value changed. -/
def set (settings : Settings Named) (field : Field) (value : field.Value Named) :
    Settings Named :=
  { settings with value := Function.update settings.value field value }

end Settings

/-- How the values of a setting are written: the grammar, what a refusal asks for, and how it
names the value that it keeps. -/
structure Check (Value : Type) where
  parse : Bytes → Option Value
  wanted : Bytes
  kept : Value → Bytes

/-- A switch is checked. -/
def boolean : Check Bool := ⟨parseBool, utf8 "true or false", boolSetting⟩

/-- A number is checked against its bounds. -/
def wholeNumber (unit : Bytes) (minimum maximum : Int) : Check Int where
  parse text := parseIntInRange text minimum maximum
  wanted := utf8 "a whole number" ++ unit ++ utf8 " between " ++ number minimum ++ utf8 " and " ++
    number maximum
  kept := number

/-- A size is checked. -/
def byteSize : Check Nat :=
  ⟨parseByteSize, utf8 "a byte size such as 256K or 1M", fun size => number size ++ utf8 " bytes"⟩

/-- What may be written, as a warning lists it. -/
def enumNames {Value : Type} (table : List (Bytes × Value)) : Bytes :=
  (utf8 " | ").intercalate (table.map Prod.fst)

/-- The name of a value. -/
def enumSpelling {Value : Type} [DecidableEq Value] (table : List (Bytes × Value)) (value : Value) :
    Bytes :=
  ((table.find? (·.2 = value)).map Prod.fst).getD []

/-- A name is looked up. -/
def enumerated {Value : Type} [DecidableEq Value] (table : List (Bytes × Value)) : Check Value :=
  ⟨fun text => table.lookup text, enumNames table, enumSpelling table⟩

/-- A text that is taken as it is, or as something else. -/
def anyText (read : Bytes → Bytes) : Check Bytes := ⟨fun text => some (read text), [], id⟩

/-- How each field's text is checked. -/
def Field.check : (field : Field) → Check (field.Value Named)
  | .prefixChord => ⟨parseChord, utf8 "a chord such as ^B, ^A, F12 or Esc", chordSpelling⟩
  | .shell => anyText fun text => if text = utf8 "$SHELL" then [] else text
  | .loginShell => boolean
  | .scrollback => wholeNumber [] 0 1000000
  | .maxTerminals => wholeNumber [] 1 4096
  | .audibleBell => boolean
  | .theme => (enumerated kThemes : Check Theme)
  | .onExit => (enumerated kExitPolicies : Check ExitPolicy)
  | .confirmKill => boolean
  | .killGraceSeconds => wholeNumber (utf8 " of seconds") 0 600
  | .killEmptySession => boolean
  | .clock => (enumerated kClockModes : Check ClockMode)
  | .desktopSize => (enumerated kDesktopSizePolicies : Check DesktopSizePolicy)
  | .resizeWindowsToFit => boolean
  | .showCpu => boolean
  | .showMemoryRss => boolean
  | .showMemoryReal => boolean
  | .term => anyText fun text => if text = [] then utf8 "auto" else text
  | .mouse => boolean
  | .alternateScroll => boolean
  | .sixel => (enumerated kSixelModes : Check SixelMode)
  | .sixelMaxMegapixels => wholeNumber (utf8 " of megapixels") 1 4096
  | .osc52 => boolean
  | .clipboard => ⟨parseClipboardTargets,
      utf8 "a comma-separated list of osc52, pbcopy or exec:<command>",
      fun _ => utf8 "the built-in order"⟩
  | .printerMode => (enumerated kPrinterModes : Check PrinterMode)
  | .printerAskCacheBytes => byteSize
  | .printerSpoolLimitBytes => byteSize
  | .printerSaveFormat => (enumerated kSaveFormats : Check PrinterSaveFormat)
  | .printerSaveFolder => anyText id
  | .printerSaveAskName => boolean
  | .maxFps => wholeNumber [] 1 240

/-! ### Where a setting is written -/

/-- The sections there are. -/
def kSections : List Bytes :=
  [utf8 "general", utf8 "terminal", utf8 "printer", utf8 "render", utf8 "keys"]

/-- What may be set in the first section. -/
def generalKeys : List (Bytes × Field) :=
  [(utf8 "prefix", .prefixChord), (utf8 "shell", .shell), (utf8 "login-shell", .loginShell),
    (utf8 "scrollback", .scrollback), (utf8 "max-terminals", .maxTerminals),
    (utf8 "theme", .theme), (utf8 "on-exit", .onExit), (utf8 "audible-bell", .audibleBell),
    (utf8 "confirm-kill", .confirmKill), (utf8 "kill-empty-session", .killEmptySession),
    (utf8 "kill-grace-seconds", .killGraceSeconds), (utf8 "clock", .clock),
    (utf8 "resize-windows-to-fit", .resizeWindowsToFit), (utf8 "desktop-size", .desktopSize),
    (utf8 "show-cpu", .showCpu), (utf8 "show-memory-rss", .showMemoryRss),
    (utf8 "show-memory-real", .showMemoryReal)]

/-- What may be set for terminals. -/
def terminalKeys : List (Bytes × Field) :=
  [(utf8 "term", .term), (utf8 "mouse", .mouse), (utf8 "alternate-scroll", .alternateScroll),
    (utf8 "sixel", .sixel), (utf8 "sixel-max-megapixels", .sixelMaxMegapixels),
    (utf8 "osc52", .osc52), (utf8 "clipboard", .clipboard)]

/-- What may be set for printers. -/
def printerKeys : List (Bytes × Field) :=
  [(utf8 "mode", .printerMode), (utf8 "ask-cache", .printerAskCacheBytes),
    (utf8 "spool-limit", .printerSpoolLimitBytes), (utf8 "save-format", .printerSaveFormat),
    (utf8 "save-folder", .printerSaveFolder), (utf8 "save-ask-name", .printerSaveAskName)]

/-- What may be set for drawing. -/
def renderKeys : List (Bytes × Field) := [(utf8 "max-fps", .maxFps)]

/-- The setting of a key in a section. -/
def fieldAt (name key : Bytes) : Option Field :=
  if name = utf8 "general" then generalKeys.lookup key
  else if name = utf8 "terminal" then terminalKeys.lookup key
  else if name = utf8 "printer" then printerKeys.lookup key
  else if name = utf8 "render" then renderKeys.lookup key
  else none

/-! ### One line after the other -/

/-- Whether an assignment was obeyed, and if not, whether its key is known. -/
inductive AssignmentOutcome where
  | applied | refused | unknown
deriving DecidableEq

/-- What came of an assignment, and the settings behind it. -/
structure AssignmentResult (Named : Type) where
  outcome : AssignmentOutcome
  message : Bytes
  settings : Settings Named

/-- Every rejection says what was asked for, what was written, and what is in force instead. -/
def rejected (key wanted written kept : Bytes) : Bytes :=
  key ++ utf8 " wants " ++ wanted ++ utf8 ", not '" ++ written ++ utf8 "' — keeping " ++ kept

/-- An assignment obeyed if its key is known and its value taken. -/
def applyAssignment (name key value : Bytes) (settings : Settings Named) :
    AssignmentResult Named :=
  match fieldAt name key with
  | some field =>
      let check : Check (field.Value Named) := field.check
      match check.parse (unescape value) with
      | some given => ⟨.applied, [], settings.set field given⟩
      | none =>
          ⟨.refused, rejected key check.wanted value (check.kept (settings.value field)), settings⟩
  | none =>
      ⟨.unknown, utf8 "unknown key '" ++ key ++ utf8 "'" ++
        (if name = [] then utf8 " outside any section" else utf8 " in [" ++ name ++ utf8 "]"),
        settings⟩

/-- The section that does know a key, if any. -/
def sectionThatKnows (key writtenIn : Bytes) : Option Bytes :=
  kSections.find? fun candidate => candidate ≠ writtenIn ∧
    (applyAssignment candidate key [] (Settings.initial : Settings Named)).outcome ≠ .unknown

/-- What is said of a key in another section than its own. -/
def misplaced (key owner writtenIn : Bytes) : Bytes :=
  key ++ utf8 " belongs in [" ++ owner ++ utf8 "], not [" ++ writtenIn ++
    utf8 "] — not obeyed; [" ++ owner ++ utf8 "]'s value stands"

variable (Named) in
/-- A `bind` or `unbind` line, or what is wrong with it. -/
def readDirective (line : Bytes) : Except Bytes BindDirective :=
  let words := splitWords line
  match words.head? with
  | none => .error (utf8 "not a bind or unbind line")
  | some first =>
      let unbinding := first = utf8 "unbind"
      if words.length ≠ if unbinding then 3 else 4 then
        .error (first ++ utf8 " wants " ++
          if unbinding then utf8 "a context and a chord: unbind <context> <chord>"
          else utf8 "a context, a chord and an action: bind <context> <chord> <action>")
      else
        match parseKeyContext (words.getD 1 []) with
        | none => .error (utf8 "no such context '" ++ words.getD 1 [] ++ utf8 "' — try one of " ++
            keyContextNameList)
        | some context =>
            match (parseChord (words.getD 2 []) : Option (KeyChord Named)) with
            | none => .error (utf8 "'" ++ words.getD 2 [] ++
                utf8 "' is not a chord — try a character, C-x, A-x, F1-F12, or a named key such " ++
                utf8 "as Enter, Esc, Space or Up")
            | some chord =>
                if unbinding then .ok ⟨context, chordSpelling chord, none⟩
                else
                  match parseAction (words.getD 3 []) with
                  | none => .error (utf8 "no such action '" ++ words.getD 3 [] ++
                      utf8 "' — try one of " ++ actionNameList)
                  | some action => .ok ⟨context, chordSpelling chord, some action⟩

/-- The loader in the middle of a file. -/
structure Loading (Named : Type) where
  name : Bytes := []
  known : Bool := true
  assigned : List (Bytes × Bytes) := []
  settings : Settings Named := Settings.initial
  warnings : List Bytes := []

/-- A warning names the file and the line. -/
def warning (path : Bytes) (lineNumber : Nat) (text : Bytes) : Bytes :=
  path ++ utf8 ":" ++ number lineNumber ++ utf8 ": " ++ text

/-- What is said of a file as a whole. -/
def fileWarning (path text : Bytes) : Bytes := path ++ utf8 ": " ++ text

namespace Loading

/-- One more warning. -/
def warn (loading : Loading Named) (path : Bytes) (lineNumber : Nat) (text : Bytes) :
    Loading Named :=
  { loading with warnings := loading.warnings ++ [warning path lineNumber text] }

/-- An assignment obeyed or complained of, and complained of if its key was assigned before. -/
def assign (loading : Loading Named) (path : Bytes) (lineNumber : Nat) (key value : Bytes) :
    Loading Named :=
  let result := applyAssignment loading.name key value loading.settings
  match result.outcome with
  | .applied =>
      let loading := { loading with settings := result.settings }
      if (loading.name, key) ∈ loading.assigned then
        loading.warn path lineNumber (key ++ utf8 " is set again here — the earlier line in [" ++
          loading.name ++ utf8 "] no longer applies")
      else { loading with assigned := (loading.name, key) :: loading.assigned }
  | .refused => loading.warn path lineNumber result.message
  | .unknown =>
      match @sectionThatKnows Named _ key loading.name with
      | some owner => loading.warn path lineNumber (misplaced key owner loading.name)
      | none => loading.warn path lineNumber result.message

/-- One line of a file obeyed or complained of. -/
def readLine (loading : Loading Named) (path : Bytes) (lineNumber : Nat) (line : Bytes) :
    Loading Named :=
  match parseLine line with
  | .blank | .comment => loading
  | .header name =>
      let loading := { loading with name, known := name ∈ kSections }
      if loading.known then loading
      else
        -- one warning here, and none for each key below
        loading.warn path lineNumber (utf8 "no such section '[" ++ name ++ utf8 "]' — try one of " ++
          (utf8 ", ").intercalate kSections ++ utf8 "; nothing under this header was read")
  | .malformed => loading.warn path lineNumber (utf8 "not a section header or key = value")
  | .assignment key value _ => if loading.known then loading.assign path lineNumber key value else loading
  | .directive text =>
      if loading.known then
        match readDirective Named text with
        | .ok directive =>
            { loading with settings :=
                { loading.settings with binds := loading.settings.binds ++ [directive] } }
        | .error problem => loading.warn path lineNumber problem
      else loading

end Loading

/-- What became of an attempt to read the file. -/
inductive FileRead where
  | absent
  | unreadable (reason : Bytes)
  | read (text : Bytes)

/-- What a file makes of the settings, and what is to be said of it. -/
structure LoadedSettings (Named : Type) where
  settings : Settings Named := Settings.initial
  warnings : List Bytes := []

/-- The lines of a file one after the other, counted from one. -/
def loadLines (path : Bytes) (lines : List Bytes) : Loading Named :=
  lines.zipIdx.foldl (fun loading line => loading.readLine path (line.2 + 1) line.1) {}

/-- A file that is absent changes nothing; one that cannot be read is warned of. -/
def loadSettings (path : Bytes) (file : FileRead) : LoadedSettings Named :=
  if path = [] then {}
  else
    match file with
    | .absent => {}
    | .unreadable reason =>
        { warnings := [fileWarning path (utf8 "could not be read (" ++ reason ++
            utf8 ") — keeping the built-in settings")] }
    | .read text =>
        let loading : Loading Named := loadLines path (readLines text)
        { settings := loading.settings, warnings := loading.warnings }

/-- Before the first header there is no section, rather than an unknown one. -/
def isKnown : Option Bytes → Bool
  | none => true
  | some name => name ∈ kSections

end Config

end Ckmux
