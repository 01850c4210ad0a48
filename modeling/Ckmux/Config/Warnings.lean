import Mathlib
import Ckmux.Config.LastWord

/-!
# A file without warnings

Whatever of a file is not obeyed is warned about: settings that were loaded without a warning mean
what every line says. A file is free of warnings exactly if every line is well formed and said of a
section, a key and a value that there are, and no setting is given twice.
-/

namespace Ckmux

namespace Config

open Grammar (Bytes readLines)

variable {Named : Type} [KeyNames Named]

/-- Settings mean what a line says. -/
structure Heeds (settings : Settings Named) (line : Option Bytes × Bytes) : Prop where
  known : isKnown line.1 = true
  formed : parseLine line.2 ≠ .malformed
  assigned : ∀ key value comment, parseLine line.2 = .assignment key value comment →
    ∃ field, fieldAt (line.1.getD []) key = some field ∧
      field.check.parse (unescape value) = some (settings.value field)
  bound : ∀ text, parseLine line.2 = .directive text →
    ∃ directive, readDirective Named text = .ok directive ∧ directive ∈ settings.binds

omit [KeyNames Named] in
/-- Where there is one warning more there is one. -/
theorem Loading.warn_warns (loading : Loading Named) (path : Bytes) (lineNumber : Nat)
    (text : Bytes) : (loading.warn path lineNumber text).warnings ≠ [] := by
  simp [Loading.warn]

/-- An assignment without a warning is applied, for the first time. -/
theorem Loading.assign_quiet {loading : Loading Named} {path : Bytes} {lineNumber : Nat}
    {key value : Bytes} (quiet : (loading.assign path lineNumber key value).warnings = []) :
    loading.warnings = [] ∧ (loading.name, key) ∉ loading.assigned ∧
      (loading.assign path lineNumber key value).assigned = (loading.name, key) :: loading.assigned ∧
      ∃ (field : Field) (given : field.Value Named), fieldAt loading.name key = some field ∧
        field.check.parse (unescape value) = some given ∧
        (loading.assign path lineNumber key value).settings = loading.settings.set field given := by
  unfold Loading.assign at quiet ⊢
  unfold applyAssignment at quiet ⊢
  cases named : fieldAt loading.name key with
  | none =>
      rw [named] at quiet
      dsimp only at quiet
      split at quiet
      · exact absurd quiet (Loading.warn_warns _ _ _ _)
      · exact absurd quiet (Loading.warn_warns _ _ _ _)
  | some field =>
      rw [named] at quiet
      dsimp only at quiet ⊢
      cases parsed : (field.check : Check (field.Value Named)).parse (unescape value) with
      | none =>
          rw [parsed] at quiet
          exact absurd quiet (Loading.warn_warns _ _ _ _)
      | some given =>
          rw [parsed] at quiet
          dsimp only at quiet ⊢
          split at quiet
          · exact absurd quiet (Loading.warn_warns _ _ _ _)
          · rename_i fresh
            rw [if_neg fresh]
            exact ⟨quiet, fresh, rfl, field, given, rfl, parsed, rfl⟩

/-- What a line without a warning is, and that nothing was warned of before. -/
theorem Loading.readLine_quiet {loading : Loading Named} {path line : Bytes} {lineNumber : Nat}
    (quiet : (loading.readLine path lineNumber line).warnings = []) :
    loading.warnings = [] ∧ parseLine line ≠ .malformed ∧
      (∀ name, parseLine line = .header name → name ∈ kSections) ∧
      (∀ text, parseLine line = .directive text → loading.known = true →
        ∃ directive, readDirective Named text = .ok directive) := by
  unfold Loading.readLine at quiet
  cases parsed : parseLine line with
  | blank => exact ⟨by rwa [parsed] at quiet, by simp, by simp, by simp⟩
  | comment => exact ⟨by rwa [parsed] at quiet, by simp, by simp, by simp⟩
  | header name =>
      rw [parsed] at quiet
      dsimp only at quiet
      split at quiet
      · rename_i known
        refine ⟨quiet, by simp, ?_, by simp⟩
        rintro other ⟨⟩
        exact of_decide_eq_true known
      · exact absurd quiet (Loading.warn_warns _ _ _ _)
  | malformed =>
      rw [parsed] at quiet
      exact absurd quiet (Loading.warn_warns _ _ _ _)
  | assignment key value comment =>
      rw [parsed] at quiet
      dsimp only at quiet
      split at quiet
      · exact ⟨(assign_quiet quiet).1, by simp, by simp, by simp⟩
      · exact ⟨quiet, by simp, by simp, by simp⟩
  | directive text =>
      rw [parsed] at quiet
      dsimp only at quiet
      split at quiet
      · cases read : readDirective Named text with
        | ok directive =>
            rw [read] at quiet
            refine ⟨quiet, by simp, by simp, ?_⟩
            rintro other ⟨⟩ _
            exact ⟨directive, read⟩
        | error problem =>
            rw [read] at quiet
            exact absurd quiet (Loading.warn_warns _ _ _ _)
      · rename_i unknown
        refine ⟨quiet, by simp, by simp, ?_⟩
        exact fun _ _ known => absurd known unknown

/-- The last line is read behind the others. -/
theorem loadLines_concat (path : Bytes) (lines : List Bytes) (line : Bytes) :
    (loadLines path (lines ++ [line]) : Loading Named) =
      (loadLines path lines).readLine path (lines.length + 1) line := by
  rw [loadLines, List.zipIdx_append, List.foldl_append]
  simp [loadLines]

/-- The section in force is the one behind the lines read. -/
theorem loadLines_stands (path : Bytes) (lines : List Bytes) :
    (loadLines path lines : Loading Named).Stands (sectionBehind none lines)
      (loadLines path lines : Loading Named).settings := by
  induction lines using List.reverseRecOn with
  | nil => exact .start
  | append_singleton lines line ih =>
      have stands := ih.readLine path (lines.length + 1) line
      rw [loadLines_concat, sectionBehind_concat]
      exact ⟨stands.name, stands.known, rfl⟩

/-- What holds of the lines read as long as nothing has been warned of. -/
structure Heeded (lines : List Bytes) (loading : Loading Named) : Prop where
  heeds : ∀ line ∈ sectioned none lines, Heeds loading.settings line
  listed : ∀ line ∈ sectioned none lines, ∀ key value comment,
    parseLine line.2 = .assignment key value comment → (line.1.getD [], key) ∈ loading.assigned
  known : isKnown (sectionBehind none lines) = true

/-- A line still holds where the settings that it assigns are the same and no key is forgotten. -/
theorem Heeds.mono {settings after : Settings Named} {line : Option Bytes × Bytes}
    (heeds : Heeds settings line)
    (values : ∀ key value comment field, parseLine line.2 = .assignment key value comment →
      fieldAt (line.1.getD []) key = some field → after.value field = settings.value field)
    (binds : ∀ directive ∈ settings.binds, directive ∈ after.binds) : Heeds after line where
  known := heeds.known
  formed := heeds.formed
  assigned key value comment parsed := by
    obtain ⟨field, named, given⟩ := heeds.assigned key value comment parsed
    exact ⟨field, named, by rw [values key value comment field parsed named, given]⟩
  bound text parsed := by
    obtain ⟨directive, read, listed⟩ := heeds.bound text parsed
    exact ⟨directive, read, binds directive listed⟩

/-- An assignment that is applied for the first time undoes none before it. -/
theorem Heeded.assign {lines : List Bytes} {loading : Loading Named} (heeded : Heeded lines loading)
    {path line : Bytes} (stands : loading.Stands (sectionBehind none lines) loading.settings)
    {key value comment : Bytes} (parsed : parseLine line = .assignment key value comment)
    (quiet : (loading.assign path (lines.length + 1) key value).warnings = []) :
    Heeded (lines ++ [line]) (loading.assign path (lines.length + 1) key value) := by
  obtain ⟨_, fresh, noted, field, given, named, accepted, set⟩ := Loading.assign_quiet quiet
  have now : inForce (sectionBehind none lines) line = sectionBehind none lines := by
    rw [inForce, parsed]
  rw [stands.name] at named fresh noted
  constructor
  · rw [sectioned_concat, now, List.forall_mem_append, List.forall_mem_singleton, set]
    refine ⟨fun entry among => ?_, ?_⟩
    · refine (heeded.heeds entry among).mono (fun other text beside each also known => ?_)
        fun directive listed => listed
      refine Function.update_of_ne (fun same => ?_) _ _
      obtain ⟨same_name, same_key⟩ := fieldAt_inj (same ▸ known) named
      have listed := heeded.listed entry among other text beside also
      rw [same_name, same_key] at listed
      exact fresh listed
    · refine ⟨heeded.known, by simp [parsed], ?_, by simp [parsed]⟩
      intro other text beside also
      rw [parsed] at also
      cases also
      exact ⟨field, named, by rw [settings_set_self]; exact accepted⟩
  · rw [sectioned_concat, now, List.forall_mem_append, List.forall_mem_singleton, noted]
    refine ⟨fun entry among other text beside also => ?_, fun other text beside also => ?_⟩
    · exact List.mem_cons_of_mem _ (heeded.listed entry among other text beside also)
    · rw [parsed] at also
      cases also
      exact List.mem_cons_self
  · rw [sectionBehind_concat, now]
    exact heeded.known

/-- Any other line without a warning leaves the settings, or says something more of keys. -/
theorem Heeded.other {lines : List Bytes} {loading after : Loading Named}
    (heeded : Heeded lines loading) {line : Bytes}
    (unassigned : ∀ key value comment, parseLine line ≠ .assignment key value comment)
    (formed : parseLine line ≠ .malformed)
    (headed : ∀ name, parseLine line = .header name → name ∈ kSections)
    (values : after.settings.value = loading.settings.value)
    (binds : ∀ directive ∈ loading.settings.binds, directive ∈ after.settings.binds)
    (bound : ∀ text, parseLine line = .directive text →
      ∃ directive, readDirective Named text = .ok directive ∧ directive ∈ after.settings.binds)
    (noted : after.assigned = loading.assigned) : Heeded (lines ++ [line]) after := by
  have known : isKnown (inForce (sectionBehind none lines) line) = true := by
    rw [inForce]
    split
    · rename_i name parsed
      exact decide_eq_true (headed name parsed)
    · exact heeded.known
  constructor
  · rw [sectioned_concat, List.forall_mem_append, List.forall_mem_singleton]
    refine ⟨fun entry among => ?_, known, formed, ?_, bound⟩
    · exact (heeded.heeds entry among).mono (fun _ _ _ field _ _ => congrFun values field) binds
    · exact fun key value comment parsed => absurd parsed (unassigned key value comment)
  · rw [sectioned_concat, List.forall_mem_append, List.forall_mem_singleton, noted]
    exact ⟨heeded.listed, fun key value comment parsed => absurd parsed (unassigned key value comment)⟩
  · rw [sectionBehind_concat]
    exact known

/-- Where nothing was warned of every line was heeded. -/
theorem heeded (path : Bytes) (lines : List Bytes)
    (quiet : (loadLines path lines : Loading Named).warnings = []) :
    Heeded lines (loadLines path lines : Loading Named) := by
  induction lines using List.reverseRecOn with
  | nil =>
      exact ⟨fun _ among => absurd among List.not_mem_nil,
        fun _ among => absurd among List.not_mem_nil, rfl⟩
  | append_singleton lines line ih =>
      rw [loadLines_concat] at quiet ⊢
      obtain ⟨before, formed, headed, read⟩ := Loading.readLine_quiet quiet
      have heeded := ih before
      have stands := @loadLines_stands Named _ path lines
      have known : (loadLines path lines : Loading Named).known = true :=
        stands.known.trans heeded.known
      unfold Loading.readLine at quiet ⊢
      cases parsed : parseLine line with
      | assignment key value comment =>
          rw [parsed] at quiet
          dsimp only at quiet ⊢
          rw [if_pos known] at quiet ⊢
          exact heeded.assign stands parsed quiet
      | malformed => exact absurd parsed formed
      | directive text =>
          obtain ⟨directive, read_eq⟩ := read text parsed known
          dsimp only
          rw [if_pos known, read_eq]
          refine heeded.other (by simp [parsed]) formed headed rfl (by simp_all) ?_ rfl
          intro other also
          rw [parsed] at also
          cases also
          exact ⟨directive, read_eq, by simp⟩
      | header name =>
          dsimp only
          rw [if_pos (decide_eq_true (headed name parsed))]
          exact heeded.other (by simp [parsed]) formed headed rfl (fun _ listed => listed)
            (by simp [parsed]) rfl
      | blank =>
          exact heeded.other (by simp [parsed]) formed headed rfl (fun _ listed => listed)
            (by simp [parsed]) rfl
      | comment =>
          exact heeded.other (by simp [parsed]) formed headed rfl (fun _ listed => listed)
            (by simp [parsed]) rfl

/-! ### Which files there is nothing to say about -/

variable (Named) in
/-- A line of which there is nothing to complain, taken for itself. -/
@[mk_iff] structure Faultless (line : Option Bytes × Bytes) : Prop where
  known : isKnown line.1 = true
  formed : parseLine line.2 ≠ .malformed
  assigned : ∀ key value comment, parseLine line.2 = .assignment key value comment →
    ∃ (field : Field) (given : field.Value Named), fieldAt (line.1.getD []) key = some field ∧
      field.check.parse (unescape value) = some given
  bound : ∀ text, parseLine line.2 = .directive text →
    ∃ directive, readDirective Named text = .ok directive

/-- The section and the key that a line assigns. -/
def assignedKey (line : Option Bytes × Bytes) : Option (Bytes × Bytes) :=
  match parseLine line.2 with
  | .assignment key _ _ => some (line.1.getD [], key)
  | _ => none

/-- The keys that are assigned, each with its section. -/
def assignedKeys (lines : List Bytes) : List (Bytes × Bytes) :=
  (sectioned none lines).filterMap assignedKey

/-- The last line adds its key if it assigns one. -/
theorem assignedKeys_concat (lines : List Bytes) (line : Bytes) :
    assignedKeys (lines ++ [line]) = assignedKeys lines ++
      (assignedKey (inForce (sectionBehind none lines) line, line)).toList := by
  simp [assignedKeys, sectioned_concat, List.filterMap_append, List.filterMap_cons]
  cases assignedKey (inForce (sectionBehind none lines) line, line) <;> rfl

/-- What is assigned without a warning: for the first time, and a value that its setting takes. -/
theorem Loading.assign_warnings {loading : Loading Named} (quiet : loading.warnings = [])
    (path : Bytes) (lineNumber : Nat) (key value : Bytes) :
    (loading.assign path lineNumber key value).warnings = [] ↔
      (∃ (field : Field) (given : field.Value Named), fieldAt loading.name key = some field ∧
        field.check.parse (unescape value) = some given) ∧
      (loading.name, key) ∉ loading.assigned := by
  constructor
  · intro still
    obtain ⟨_, fresh, _, field, given, named, accepted, _⟩ := Loading.assign_quiet still
    exact ⟨⟨field, given, named, accepted⟩, fresh⟩
  · rintro ⟨⟨field, given, named, accepted⟩, fresh⟩
    simp [Loading.assign, applyAssignment, named, accepted, fresh, quiet]

/-- What a loader that has warned of nothing finds of one more line. -/
theorem Loading.readLine_warnings {loading : Loading Named} {label : Option Bytes}
    (name : loading.name = label.getD []) (known : loading.known = true)
    (listed : isKnown label = true) (quiet : loading.warnings = []) (path line : Bytes)
    (lineNumber : Nat) :
    (loading.readLine path lineNumber line).warnings = [] ↔
      Faultless Named (inForce label line, line) ∧
        ∀ entry ∈ assignedKey (inForce label line, line), entry ∉ loading.assigned := by
  cases parsed : parseLine line with
  | blank => simp [Loading.readLine, inForce, assignedKey, faultless_iff, parsed, quiet, listed]
  | comment => simp [Loading.readLine, inForce, assignedKey, faultless_iff, parsed, quiet, listed]
  | header found =>
      by_cases here : found ∈ kSections
      · simp [Loading.readLine, inForce, assignedKey, faultless_iff, isKnown, parsed, quiet, here]
      · simp [Loading.readLine, inForce, faultless_iff, isKnown, parsed, here, Loading.warn_warns]
  | malformed => simp [Loading.readLine, faultless_iff, parsed, Loading.warn_warns]
  | assignment key value comment =>
      simp [Loading.readLine, inForce, assignedKey, faultless_iff, parsed, listed, known,
        Loading.assign_warnings quiet, name]
  | directive text =>
      cases read : readDirective Named text with
      | ok directive =>
          simp [Loading.readLine, inForce, assignedKey, faultless_iff, parsed, quiet, listed, known,
            read]
      | error problem =>
          simp [Loading.readLine, inForce, faultless_iff, parsed, known, read, Loading.warn_warns]

/-- What a loader that still has warned of nothing has noted of one more line. -/
theorem Loading.readLine_assigned {loading : Loading Named} {label : Option Bytes}
    (name : loading.name = label.getD []) (known : loading.known = true) {path line : Bytes}
    {lineNumber : Nat} (quiet : (loading.readLine path lineNumber line).warnings = []) :
    (loading.readLine path lineNumber line).assigned =
      (assignedKey (inForce label line, line)).toList ++ loading.assigned := by
  cases parsed : parseLine line with
  | blank => simp [Loading.readLine, assignedKey, parsed]
  | comment => simp [Loading.readLine, assignedKey, parsed]
  | header found => simp [Loading.readLine, assignedKey, parsed, apply_ite, Loading.warn]
  | malformed => simp [Loading.readLine, assignedKey, parsed, Loading.warn]
  | assignment key value comment =>
      simp only [Loading.readLine, parsed, known, if_true] at quiet ⊢
      rw [(Loading.assign_quiet quiet).2.2.1, name]
      simp [inForce, assignedKey, parsed]
  | directive text =>
      cases read : readDirective Named text with
      | ok directive => simp [Loading.readLine, assignedKey, parsed, known, read]
      | error problem => simp [Loading.readLine, assignedKey, parsed, known, read, Loading.warn]

/-- A file has no warnings exactly if each line is faultless and no setting is assigned twice. -/
theorem loadLines_warnings (path : Bytes) (lines : List Bytes) :
    ((loadLines path lines : Loading Named).warnings = [] ↔
      (∀ line ∈ sectioned none lines, Faultless Named line) ∧ (assignedKeys lines).Nodup) ∧
    ((loadLines path lines : Loading Named).warnings = [] →
      (loadLines path lines : Loading Named).assigned = (assignedKeys lines).reverse) := by
  induction lines using List.reverseRecOn with
  | nil => simp [loadLines, sectioned, assignedKeys]
  | append_singleton lines line ih =>
      obtain ⟨whole, noted⟩ := ih
      rw [loadLines_concat, assignedKeys_concat, sectioned_concat, List.forall_mem_append,
        List.forall_mem_singleton]
      by_cases quiet : (loadLines path lines : Loading Named).warnings = []
      · have stands := @loadLines_stands Named _ path lines
        have listed := (heeded path lines quiet).known
        have known := stands.known.trans listed
        constructor
        · rw [Loading.readLine_warnings stands.name known listed quiet, noted quiet]
          obtain ⟨fine, apart⟩ := whole.mp quiet
          rw [and_iff_right fine, List.nodup_append_comm]
          generalize assignedKey (inForce (sectionBehind none lines) line, line) = entry
          cases entry with
          | none => simp [apart]
          | some entry => simp [apart]
        · intro still
          rw [Loading.readLine_assigned stands.name known still, noted quiet]
          generalize assignedKey (inForce (sectionBehind none lines) line, line) = entry
          cases entry <;> simp
      · have loud : ((loadLines path lines : Loading Named).readLine path (lines.length + 1)
            line).warnings ≠ [] := fun still => quiet (Loading.readLine_quiet still).1
        refine ⟨iff_of_false loud fun all => quiet (whole.mpr ⟨all.1.1, ?_⟩), fun still => absurd still loud⟩
        exact (List.nodup_append.mp all.2).1

/-- A file is loaded without a warning exactly if each of its lines is faultless, in a section that
there is, and no setting is assigned twice; the settings then mean what every line says. -/
theorem loadSettings_warnings {path : Bytes} (named : path ≠ []) (text : Bytes) :
    let loaded : LoadedSettings Named := loadSettings path (.read text)
    (loaded.warnings = [] ↔ (∀ line ∈ sectioned none (readLines text), Faultless Named line) ∧
      (assignedKeys (readLines text)).Nodup) ∧
    (loaded.warnings = [] →
      ∀ line ∈ sectioned none (readLines text), Heeds loaded.settings line) := by
  have loaded_eq : (loadSettings path (.read text) : LoadedSettings Named) =
      { settings := (loadLines path (readLines text) : Loading Named).settings
        warnings := (loadLines path (readLines text) : Loading Named).warnings } := by
    simp [loadSettings, named]
  rw [loaded_eq]
  exact ⟨(loadLines_warnings path (readLines text)).1,
    fun quiet => (heeded path (readLines text) quiet).heeds⟩

/-- A file that says how long the scrollback is, and means it. -/
theorem loadSettings_warnings_scrollback :
    Heeds (loadSettings (utf8 "ckmux.conf") (.read (utf8 "[general]\nscrollback = 5\n")) :
      LoadedSettings NamedKey).settings (some (utf8 "general"), utf8 "scrollback = 5") :=
  (@loadSettings_warnings NamedKey _ (utf8 "ckmux.conf") (by decide)
    (utf8 "[general]\nscrollback = 5\n")).2 (by decide +kernel) _ (by decide +kernel)

end Config

end Ckmux
