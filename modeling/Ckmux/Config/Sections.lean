import Mathlib
import Ckmux.Config.Settings
import Ckmux.Data.Overwrite

/-!
# Sections

A line is read in the section in force, the one of the last header. What the lines come to is
what they do to the settings, one after the other; a setting belongs to one section and key, and
nothing else has any part in it.
-/

namespace Ckmux

namespace Config

open Data (Overwrites)
open Grammar (Bytes OneLine isSpace trim)

/-- The section in force from a line on. -/
def inForce (label : Option Bytes) (line : Bytes) : Option Bytes :=
  match parseLine line with
  | .header name => some name
  | _ => label

/-- Lines with their sections in force. -/
def sectioned (label : Option Bytes) : List Bytes → List (Option Bytes × Bytes)
  | [] => []
  | line :: lines => (inForce label line, line) :: sectioned (inForce label line) lines

variable {Named : Type} [KeyNames Named]

/-- What a line does to the settings. -/
def obey (settings : Settings Named) (line : Option Bytes × Bytes) : Settings Named :=
  if isKnown line.1 then
    match parseLine line.2 with
    | .assignment key value _ => (applyAssignment (line.1.getD []) key value settings).settings
    | .directive text =>
        match readDirective Named text with
        | .ok directive => { settings with binds := settings.binds ++ [directive] }
        | .error _ => settings
    | _ => settings
  else settings

/-! ### What the loader does -/

/-- The loader stands in a section, with some settings. -/
structure Loading.Stands (loading : Loading Named) (label : Option Bytes)
    (settings : Settings Named) : Prop where
  name : loading.name = label.getD []
  known : loading.known = isKnown label
  settings : loading.settings = settings

/-- An assignment that is not applied leaves the settings as they were. -/
theorem applyAssignment_unapplied {name key value : Bytes} {settings : Settings Named}
    (unapplied : (applyAssignment name key value settings).outcome ≠ .applied) :
    (applyAssignment name key value settings).settings = settings := by
  rw [applyAssignment] at unapplied ⊢
  cases found : fieldAt name key with
  | none => rfl
  | some field =>
      rw [found] at unapplied
      dsimp only at unapplied ⊢
      split
      · rename_i given parsed
        rw [parsed] at unapplied
        exact absurd rfl unapplied
      · rfl

namespace Loading.Stands

variable {loading : Loading Named} {label : Option Bytes} {settings : Settings Named}

omit [KeyNames Named] in
/-- At first no section is in force and everything is as it begins. -/
theorem start : ({} : Loading Named).Stands none Settings.initial := ⟨rfl, rfl, rfl⟩

omit [KeyNames Named] in
/-- A warning leaves section and settings. -/
theorem warn (stands : loading.Stands label settings) (path : Bytes) (lineNumber : Nat)
    (text : Bytes) : (loading.warn path lineNumber text).Stands label settings :=
  ⟨stands.name, stands.known, stands.settings⟩

/-- An assignment is of the section in force. -/
theorem assign (stands : loading.Stands label settings) (path : Bytes) (lineNumber : Nat)
    (key value : Bytes) : (loading.assign path lineNumber key value).Stands label
      (applyAssignment (label.getD []) key value settings).settings := by
  obtain ⟨name_eq, known_eq, rfl⟩ := stands
  have kept := @applyAssignment_unapplied _ _ (label.getD []) key value loading.settings
  rw [Loading.assign, name_eq]
  generalize applyAssignment (label.getD []) key value loading.settings = result at kept ⊢
  obtain ⟨outcome, message, after⟩ := result
  cases outcome with
  | applied =>
      dsimp only
      split
      · exact ⟨rfl, known_eq, rfl⟩
      · exact ⟨rfl, known_eq, rfl⟩
  | refused => exact ⟨name_eq, known_eq, (kept (by simp)).symm⟩
  | unknown =>
      dsimp only
      split
      · exact ⟨name_eq, known_eq, (kept (by simp)).symm⟩
      · exact ⟨name_eq, known_eq, (kept (by simp)).symm⟩

/-- A line is obeyed in the section in force, and nothing else happens to the settings. -/
theorem readLine (stands : loading.Stands label settings) (path : Bytes) (lineNumber : Nat)
    (line : Bytes) : (loading.readLine path lineNumber line).Stands (inForce label line)
      (obey settings (inForce label line, line)) := by
  rw [Loading.readLine, inForce, obey]
  cases parsed : parseLine line with
  | blank => simpa using stands
  | comment => simpa using stands
  | header name =>
      dsimp only
      split
      · rename_i known
        exact ⟨rfl, rfl, by simpa using stands.settings⟩
      · exact ⟨rfl, rfl, by simpa [Loading.warn] using stands.settings⟩
  | malformed => simpa using stands.warn path lineNumber _
  | assignment key value comment =>
      dsimp only
      rw [stands.known]
      split
      · exact stands.assign path lineNumber key value
      · exact stands
  | directive text =>
      dsimp only
      rw [stands.known]
      split
      · cases read : readDirective Named text with
        | ok directive => exact ⟨stands.name, rfl, by rw [← stands.settings]⟩
        | error problem => exact stands.warn path lineNumber _
      · exact stands

end Loading.Stands

/-- The settings of a file are what its lines come to, in their sections. -/
theorem loadLines_settings (path : Bytes) (lines : List Bytes) :
    (loadLines path lines : Loading Named).settings =
      (sectioned none lines).foldl obey Settings.initial := by
  have reads (lines : List Bytes) (start : Nat) (loading : Loading Named) (label : Option Bytes)
      (settings : Settings Named) (stands : loading.Stands label settings) :
      ((lines.zipIdx start).foldl (fun loading line => loading.readLine path (line.2 + 1) line.1)
        loading).settings = (sectioned label lines).foldl obey settings := by
    induction lines generalizing start loading label settings with
    | nil => exact stands.settings
    | cons line lines ih =>
        rw [List.zipIdx_cons, List.foldl_cons, sectioned, List.foldl_cons]
        exact ih _ _ _ _ (stands.readLine path _ line)
  exact reads lines 0 {} none _ .start

/-! ### Where a setting belongs -/

/-- All settings with their sections and keys. -/
def allKeys : List ((Bytes × Bytes) × Field) :=
  generalKeys.map (fun entry => ((utf8 "general", entry.1), entry.2)) ++
    terminalKeys.map (fun entry => ((utf8 "terminal", entry.1), entry.2)) ++
      printerKeys.map (fun entry => ((utf8 "printer", entry.1), entry.2)) ++
        renderKeys.map (fun entry => ((utf8 "render", entry.1), entry.2))

/-- What is looked up is in the table. -/
theorem mem_of_lookup {Value : Type} {table : List (Bytes × Value)} {key : Bytes} {value : Value}
    (found : table.lookup key = some value) : (key, value) ∈ table := by
  induction table with
  | nil => cases found
  | cons entry table ih =>
      rw [List.lookup_cons] at found
      split at found
      · rename_i same
        obtain rfl := Option.some.inj found
        rw [beq_iff_eq] at same
        exact same ▸ List.mem_cons_self
      · exact List.mem_cons_of_mem _ (ih found)

/-- A field that is known is in the table. -/
theorem fieldAt_mem {name key : Bytes} {field : Field} (known : fieldAt name key = some field) :
    ((name, key), field) ∈ allKeys := by
  rw [fieldAt] at known
  have listed (table : List (Bytes × Field)) (other : Bytes)
      (found : table.lookup key = some field) :
      ((other, key), field) ∈ table.map fun entry => ((other, entry.1), entry.2) :=
    List.mem_map.mpr ⟨_, mem_of_lookup found, rfl⟩
  simp only [allKeys, List.mem_append]
  split_ifs at known with general terminal printer render
  · exact .inl (.inl (.inl (general ▸ listed _ _ known)))
  · exact .inl (.inl (.inr (terminal ▸ listed _ _ known)))
  · exact .inl (.inr (printer ▸ listed _ _ known))
  · exact .inr (render ▸ listed _ _ known)

/-- No field has two keys. -/
theorem allKeys_fields : (allKeys.map Prod.snd).Nodup := by decide +kernel

/-- A setting has one place. -/
theorem fieldAt_inj {name other key otherKey : Bytes} {field : Field}
    (known : fieldAt name key = some field) (also : fieldAt other otherKey = some field) :
    name = other ∧ key = otherKey := by
  have same := List.inj_on_of_nodup_map allKeys_fields (fieldAt_mem known) (fieldAt_mem also) rfl
  simpa using same

/-- Every key and every section can be written in a line of its own. -/
theorem fieldAt_plain {name key : Bytes} {field : Field} (known : fieldAt name key = some field) :
    PlainKey key ∧ PlainName name ∧ name ∈ kSections := by
  have plain : ∀ entry ∈ allKeys,
      (entry.1.2 ≠ [] ∧ (∀ byte ∈ entry.1.2, isSpace byte = false) ∧
        (0x23 ∉ entry.1.2 ∧ 0x3D ∉ entry.1.2 ∧ 0x5B ∉ entry.1.2 ∧ 0x0A ∉ entry.1.2) ∧
        (entry.1.2 ≠ utf8 "bind" ∧ entry.1.2 ≠ utf8 "unbind")) ∧
      (trim entry.1.1 = entry.1.1 ∧ (0x5D ∉ entry.1.1 ∧ 0x0A ∉ entry.1.1)) ∧
        entry.1.1 ∈ kSections := by
    decide +kernel
  obtain ⟨⟨filled, solid, apart, word⟩, ⟨trimmed, name_apart⟩, listed⟩ :=
    plain _ (fieldAt_mem known)
  exact ⟨⟨filled, solid, apart, word⟩, ⟨trimmed, name_apart⟩, listed⟩

/-! ### What a line has to do with a setting -/

/-- A line assigns a key in a section. -/
def Assigns (name key : Bytes) (line : Option Bytes × Bytes) : Prop :=
  line.1 = some name ∧ ∃ value comment, parseLine line.2 = .assignment key value comment

omit [KeyNames Named] in
/-- A field that is set has its value. -/
@[simp] theorem settings_set_self (settings : Settings Named) (field : Field)
    (value : field.Value Named) : (settings.set field value).value field = value := by
  exact Function.update_self field value settings.value

omit [KeyNames Named] in
/-- Of two values the last stays. -/
theorem settings_set_again (settings : Settings Named) (field : Field)
    (first second : field.Value Named) :
    (settings.set field first).set field second = settings.set field second := by
  rw [Settings.set, Settings.set, Settings.set, Function.update_idem]

omit [KeyNames Named] in
/-- Two fields may be set in either order. -/
theorem settings_set_comm (settings : Settings Named) {field other : Field} (apart : field ≠ other)
    (first : field.Value Named) (second : other.Value Named) :
    (settings.set field first).set other second = (settings.set other second).set field first := by
  simp only [Settings.set, Function.update_comm apart]

/-- A setting is written by the lines that assign it and is of no account to any other. -/
theorem obey_overwrites {name key : Bytes} {field : Field} (known : fieldAt name key = some field)
    (value : field.Value Named) :
    Overwrites obey (Assigns name key) fun settings : Settings Named => settings.set field value where
  again settings := settings_set_again settings field value value
  absorbs settings line := by
    rintro ⟨label_eq, text, comment, parsed⟩
    rw [obey]
    split
    · rw [parsed, label_eq]
      dsimp only [Option.getD_some]
      rw [applyAssignment, known]
      dsimp only
      split
      · exact settings_set_again settings field _ value
      · rfl
    · rfl
  passes settings line other := by
    rw [obey, obey]
    split
    · cases parsed : parseLine line.2 with
      | assignment otherKey text comment =>
          dsimp only
          rw [applyAssignment, applyAssignment]
          cases found : fieldAt (line.1.getD []) otherKey with
          | none => rfl
          | some otherField =>
              have apart : otherField ≠ field := by
                rintro rfl
                obtain ⟨name_eq, rfl⟩ := fieldAt_inj found known
                refine other ⟨?_, text, comment, parsed⟩
                cases label : line.1 with
                | none =>
                    rw [label, Option.getD_none] at name_eq
                    rw [← name_eq] at known
                    cases known
                | some given =>
                    rw [label, Option.getD_some] at name_eq
                    rw [name_eq]
              dsimp only
              split
              · exact settings_set_comm settings apart _ value
              · rfl
      | directive text =>
          dsimp only
          split
          · rfl
          · rfl
      | blank => rfl
      | comment => rfl
      | header name => rfl
      | malformed => rfl
    · rfl

end Config

end Ckmux
