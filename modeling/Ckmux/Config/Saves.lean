import Mathlib
import Ckmux.Config.Warnings

/-!
# Settings saved one after another

However many settings are saved, and in whatever order, what is loaded is what was saved of each
last, and nothing that the user wrote about anything else is touched. No save brings a warning with
it, and of one setting only the last save shows in the text.
-/

namespace Ckmux

namespace Config

open Grammar (Bytes OneLine readLines trim writeLines)

/-! ### What one save leaves alone -/

section

variable {name key value : Bytes} {lines saved : List Bytes}

/-- Entries that are changed only where they do not count count as they did. -/
theorem filter_map_apart {Entry : Type} (counts : Entry → Bool) (change : Entry → Entry)
    (apart : ∀ entry, change entry = entry ∨ counts entry = false ∧ counts (change entry) = false)
    (entries : List Entry) : (entries.map change).filter counts = entries.filter counts := by
  induction entries with
  | nil => rfl
  | cons entry entries ih =>
      rcases apart entry with same | ⟨before, after⟩
      · simp [List.filter_cons, same, ih]
      · simp [before, after, ih]

/-- The lines that say nothing of the setting are there as they were, in their sections and their
order; behind them there may be the section that it needed. -/
theorem Saved.spared (change : Saved name key value lines saved) (written : Written key value)
    (plain : PlainName name) (spares : Option Bytes × Bytes → Bool)
    (own : ∀ line, spares line = true → assignedComment name key line = none) :
    ∃ opened, (sectioned none saved).filter spares = (sectioned none lines).filter spares ++ opened ∧
      ∀ line ∈ opened, parseLine line.2 = .blank ∨ parseLine line.2 = .header name := by
  have touched {line : Option Bytes × Bytes} {comment : Bytes}
      (beside : assignedComment name key line = some comment) : spares line = false := by
    rw [Bool.eq_false_iff]
    intro spared
    rw [own line spared] at beside
    cases beside
  have mine : spares (some name, assignmentText key value) = false := touched written.comment
  cases change with
  | again assigned =>
      refine ⟨[], ?_, by simp⟩
      rw [sectioned_rewritten written, List.append_nil]
      apply filter_map_apart
      intro line
      cases beside : assignedComment name key line with
      | none => exact .inl (by simp [rewritten, beside])
      | some comment =>
          have still := (@assignedComment_rewritten name key _ written line).trans beside
          exact .inr ⟨touched beside, touched still⟩
  | inserted before after parts behind unassigned =>
      refine ⟨[], ?_, by simp⟩
      rw [sectioned_inserted written behind, parts, sectioned_append, behind]
      simp [mine]
  | opened absent =>
      rw [sectioned_opened written plain]
      refine ⟨(sectioned (sectionBehind none lines) (openSection lines name)).filter spares, ?_, ?_⟩
      · simp [mine]
      · intro line among
        exact (sectioned_openSection plain _ lines).1 line (List.mem_of_mem_filter among)

/-! ### No warning comes of it -/

variable {Named : Type} [KeyNames Named]

/-- A line that was written is faultless. -/
theorem Written.faultless (written : Written key value) {field : Field} {given : field.Value Named}
    (known : fieldAt name key = some field) (accepted : field.check.parse value = some given)
    {comment : Bytes} (comments : comment = [] ∨ Comment comment) :
    Faultless Named (some name, withComment (assignmentText key value) comment) where
  known := decide_eq_true (fieldAt_plain known).2.2
  formed := by simp [written.parse comments]
  assigned other text beside parsed := by
    obtain ⟨rfl, rfl, rfl⟩ := ParsedLine.assignment.inj ((written.parse comments).symm.trans parsed)
    exact ⟨field, given, known, by rwa [unescape_escape]⟩
  bound text parsed := by
    rw [written.parse comments] at parsed
    cases parsed

/-- What is written assigns its key in its section. -/
theorem Written.assignedKey (written : Written key value) {comment : Bytes}
    (comments : comment = [] ∨ Comment comment) :
    assignedKey (some name, withComment (assignmentText key value) comment) = some (name, key) := by
  simp [Config.assignedKey, written.parse comments]

/-- No section has an empty name: a line above all sections assigns nothing of any. -/
theorem assigns_of_assignedKey (listed : name ∈ kSections) {line : Option Bytes × Bytes}
    (same : assignedKey line = some (name, key)) : Assigns name key line := by
  obtain ⟨label, line⟩ := line
  have filled : name ≠ [] := by
    rintro rfl
    exact absurd listed (by decide +kernel)
  cases parsed : parseLine line with
  | assignment other text comment =>
      rw [assignedKey, parsed] at same
      obtain ⟨labelled, rfl⟩ := Prod.mk.inj (Option.some.inj same)
      cases label with
      | none => exact absurd labelled.symm filled
      | some found => exact ⟨congrArg some labelled, text, comment, parsed⟩
  | _ => simp [assignedKey, parsed] at same

/-- Behind lines without a fault there is a section that there is. -/
theorem isKnown_behind (fine : ∀ line ∈ sectioned none lines, Faultless Named line) :
    isKnown (sectionBehind none lines) = true := by
  induction lines using List.reverseRecOn with
  | nil => rfl
  | append_singleton lines line ih =>
      rw [sectioned_concat, List.forall_mem_append, List.forall_mem_singleton] at fine
      rw [sectionBehind_concat]
      exact fine.2.known

/-- A setting saved into lines without a fault leaves them without one. -/
theorem Saved.faultless (change : Saved name key value lines saved) (written : Written key value)
    {field : Field} {given : field.Value Named} (known : fieldAt name key = some field)
    (accepted : field.check.parse value = some given)
    (fine : ∀ line ∈ sectioned none lines, Faultless Named line) :
    ∀ line ∈ sectioned none saved, Faultless Named line := by
  obtain ⟨_, plain, listed⟩ := fieldAt_plain known
  have mine : Faultless Named (some name, assignmentText key value) :=
    written.faultless known accepted (.inl rfl)
  cases change with
  | again assigned =>
      rw [sectioned_rewritten written, List.forall_mem_map]
      intro line among
      cases beside : assignedComment name key line with
      | none => simpa [rewritten, beside] using fine line among
      | some comment =>
          obtain ⟨labelled, _, parsed⟩ := assignedComment_eq_some.mp beside
          rw [rewritten, beside, labelled]
          exact written.faultless known accepted (parseLine_comment parsed).1
  | inserted before after parts behind unassigned =>
      rw [parts, sectioned_append, behind, List.forall_mem_append] at fine
      rw [sectioned_inserted written behind, List.forall_mem_append, List.forall_mem_cons]
      exact ⟨fine.1, mine, fine.2⟩
  | opened absent =>
      rw [sectioned_opened written plain, List.forall_mem_append, List.forall_mem_append,
        List.forall_mem_singleton]
      refine ⟨⟨fine, ?_⟩, mine⟩
      have behind := isKnown_behind fine
      have header := parseLine_header plain
      have blank : parseLine [] = .blank := rfl
      rw [openSection]
      split
      · simp [sectioned, inForce, header, blank, faultless_iff, behind, mine.known]
      · simp [sectioned, inForce, header, faultless_iff, mine.known]

/-- Nor is any setting assigned twice that was not. -/
theorem Saved.assignedKeys_nodup (change : Saved name key value lines saved)
    (written : Written key value) {field : Field} (known : fieldAt name key = some field)
    (apart : (assignedKeys lines).Nodup) : (assignedKeys saved).Nodup := by
  obtain ⟨_, plain, listed⟩ := fieldAt_plain known
  have mine : assignedKey (some name, assignmentText key value) = some (name, key) :=
    written.assignedKey (.inl rfl)
  have absent_of (unassigned : ∀ line ∈ sectioned none lines, ¬Assigns name key line) :
      (name, key) ∉ assignedKeys lines := by
    intro among
    obtain ⟨line, line_in, same⟩ := List.mem_filterMap.mp among
    exact unassigned line line_in (assigns_of_assignedKey listed same)
  cases change with
  | again assigned =>
      have same : assignedKey ∘ (fun line => (line.1, rewritten name key value line)) =
          assignedKey := by
        ext1 line
        cases beside : assignedComment name key line with
        | none => simp [rewritten, beside]
        | some comment =>
            obtain ⟨labelled, text, parsed⟩ := assignedComment_eq_some.mp beside
            rw [Function.comp_apply, rewritten, beside, labelled,
              written.assignedKey (parseLine_comment parsed).1, assignedKey, parsed, labelled]
            rfl
      rwa [assignedKeys, sectioned_rewritten written, List.filterMap_map, same]
  | inserted before after parts behind unassigned =>
      have fresh := absent_of unassigned
      rw [assignedKeys, parts, sectioned_append, behind, List.filterMap_append] at apart fresh
      rw [assignedKeys, sectioned_inserted written behind, List.filterMap_append,
        List.filterMap_cons_some mine, List.nodup_middle]
      exact List.nodup_cons.mpr ⟨fresh, apart⟩
  | opened absent =>
      have fresh := absent_of (unassigned_of_absent absent)
      have opening : (sectioned (sectionBehind none lines) (openSection lines name)).filterMap
          assignedKey = [] := by
        rw [List.filterMap_eq_nil_iff]
        intro line among
        rcases (sectioned_openSection plain _ lines).1 line among with parsed | parsed
        · simp [assignedKey, parsed]
        · simp [assignedKey, parsed]
      rw [assignedKeys, sectioned_opened written plain, List.filterMap_append,
        List.filterMap_append, opening, List.append_nil, List.filterMap_cons_some mine,
        List.filterMap_nil, ← assignedKeys, List.nodup_append_comm]
      exact List.nodup_cons.mpr ⟨fresh, apart⟩

/-- Without an assignment of the setting there is nothing to write again: the writer does the same
whatever the value. -/
theorem scan_unassigned (unassigned : ∀ line ∈ sectioned none lines, ¬Assigns name key line)
    (insertAt : Nat) (first second : Bytes) :
    lines.foldl (Saving.scan name key first) { insertAt } =
      lines.foldl (Saving.scan name key second) { insertAt } := by
  induction lines using List.reverseRecOn with
  | nil => rfl
  | append_singleton lines line ih =>
      rw [sectioned_concat, List.forall_mem_append, List.forall_mem_singleton] at unassigned
      have scanned := Saving.Scanned.run name key second lines insertAt
      rw [List.foldl_concat, List.foldl_concat, ih unassigned.1]
      generalize lines.foldl (Saving.scan name key second) { insertAt } = saving at scanned ⊢
      rw [Saving.scan, Saving.scan]
      cases parsed : parseLine line with
      | assignment other text comment =>
          by_cases mine : saving.inSection = true ∧ other = key
          · obtain ⟨inside, rfl⟩ := mine
            rw [scanned.inSection, decide_eq_true_iff] at inside
            refine absurd ⟨?_, text, comment, parsed⟩ unassigned.2
            rwa [inForce, parsed]
          · rcases not_and_or.mp mine with outside | apart
            · simp [outside]
            · simp [apart]
      | _ => rfl

/-- Where a new line goes, in its section, has nothing to do with the value on it. -/
theorem savedLines_unassigned (plain : PlainName name)
    (unassigned : ∀ line ∈ sectioned none lines, ¬Assigns name key line) :
    ∃ before after, (∀ value, savedLines lines name key value =
        before ++ assignmentText key value :: after) ∧
      sectionBehind none before = some name ∧
      (∀ line ∈ sectioned none before, ¬Assigns name key line) ∧
      ∀ line ∈ sectioned (some name) after, ¬Assigns name key line := by
  have scanned := Saving.Scanned.run name key [] lines (lines.length + 1)
  have same (value : Bytes) := scan_unassigned unassigned (lines.length + 1) value []
  simp only [savedLines, same]
  generalize lines.foldl (Saving.scan name key []) { insertAt := lines.length + 1 } = saving
    at scanned ⊢
  have lines_eq : saving.lines = lines := scanned.lines.trans (rewritten_unassigned unassigned)
  simp only [if_pos (scanned.rewrites.mpr unassigned), lines_eq]
  by_cases seen : saving.sectionSeen = true ∧ saving.insertAt ≤ lines.length
  · have behind := (scanned.spot seen.1).2
    rw [← List.take_append_drop saving.insertAt lines, sectioned_append, behind,
      List.forall_mem_append] at unassigned
    exact ⟨_, _, fun _ => if_pos seen, behind, unassigned.1, unassigned.2⟩
  · refine ⟨lines ++ openSection lines name, [], fun _ => if_neg seen, ?_, ?_, by simp [sectioned]⟩
    · rw [sectionBehind, List.foldl_append]
      exact (sectioned_openSection plain _ lines).2
    · rw [sectioned_append, List.forall_mem_append]
      exact ⟨unassigned, fun line among =>
        assignedComment_eq_none.mp (unassigned_openSection plain _ lines line among)⟩

/-- Saving a setting that is there writes each line of it again. -/
theorem savedLines_assigned (assigned : ∃ line ∈ sectioned none lines, Assigns name key line) :
    savedLines lines name key value = (sectioned none lines).map (rewritten name key value) := by
  obtain ⟨line, listed, assigns⟩ := assigned
  have change := savedLines_saved lines name key value
  generalize savedLines lines name key value = saved at change
  cases change with
  | again _ => rfl
  | inserted before after parts behind unassigned => exact absurd assigns (unassigned line listed)
  | opened absent => exact absurd assigns (unassigned_of_absent absent line listed)

/-- Of two values saved for a setting only the second shows. -/
theorem savedLines_twice {first second : Bytes} (written : Written key first)
    (plain : PlainName name) :
    savedLines (savedLines lines name key first) name key second =
      savedLines lines name key second := by
  have assigned := ((savedLines_saved lines name key first).fixed written plain).1
  rw [savedLines_assigned assigned]
  by_cases before : ∃ line ∈ sectioned none lines, Assigns name key line
  · rw [savedLines_assigned before, savedLines_assigned before, sectioned_rewritten written,
      List.map_map]
    apply List.map_congr_left
    intro line _
    have still := @assignedComment_rewritten name key _ written line
    cases beside : assignedComment name key line with
    | none => simp [rewritten, beside]
    | some comment =>
        rw [beside] at still
        simp only [Function.comp_apply, rewritten, beside] at still ⊢
        rw [still]
  · push Not at before
    obtain ⟨above, below, put, behind, above_free, below_free⟩ := savedLines_unassigned plain before
    have kept {line : Option Bytes × Bytes} (free : ¬Assigns name key line) :
        rewritten name key second line = line.2 := by
      rw [rewritten, assignedComment_eq_none.mpr free]
    have mine : rewritten name key second (some name, assignmentText key first) =
        assignmentText key second := by
      rw [rewritten, written.comment]
      rfl
    rw [put, put, sectioned_inserted written behind, List.map_append, List.map_cons, mine,
      List.map_congr_left fun line among => kept (above_free line among),
      List.map_congr_left fun line among => kept (below_free line among), sectioned_lines,
      sectioned_lines]

end

/-! ### A run of saves -/

variable (Named : Type) [KeyNames Named] in
/-- A setting and a value that it takes, in the words that it is saved in. -/
structure SettingChange where
  name : Bytes
  key : Bytes
  value : Bytes
  field : Field
  given : field.Value Named
  known : fieldAt name key = some field
  accepted : field.check.parse value = some given
  single : OneLine value
  trimmed : trim value = value

variable {Named : Type} [KeyNames Named]

namespace SettingChange

variable (change : SettingChange Named)

/-- A section that is known has a plain name. -/
theorem plain : PlainName change.name := (fieldAt_plain change.known).2.1

/-- A value that is taken can be written. -/
theorem written : Written change.key change.value :=
  ⟨(fieldAt_plain change.known).1, change.trimmed, change.single⟩

/-- The file when the change has been saved into it. -/
def save (original : Option Bytes) : Option Bytes :=
  some (saveSetting original change.name change.key change.value)

/-- What the change does to settings. -/
def apply (settings : Settings Named) : Settings Named := settings.set change.field change.given

/-- A line that says nothing of the setting. -/
def spares (line : Option Bytes × Bytes) : Bool :=
  (assignedComment change.name change.key line).isNone

end SettingChange

/-- Changes saved one after the other. -/
def saveAll (original : Option Bytes) (changes : List (SettingChange Named)) : Option Bytes :=
  changes.foldl (fun file change => change.save file) original

/-- No line of a file holds a line break. -/
theorem linesOf_oneLine (original : Option Bytes) : ∀ line ∈ linesOf original, OneLine line := by
  cases original with
  | none => simp [linesOf]
  | some text => exact Grammar.readLines_oneLine text

/-- The lines of what is saved are the saved lines. -/
theorem linesOf_save (change : SettingChange Named) (original : Option Bytes) :
    linesOf (change.save original) =
      savedLines (linesOf original) change.name change.key change.value :=
  Grammar.readLines_writeLines ((savedLines_saved _ _ _ _).single change.written change.plain
    (linesOf_oneLine original))

/-- The lines of a file that say nothing of some settings, each with its section. -/
def sparedLines (changes : List (SettingChange Named)) (original : Option Bytes) :
    List (Option Bytes × Bytes) :=
  (sectioned none (linesOf original)).filter fun line => changes.all fun change => change.spares line

/-- A line that opens a section for one of the changes, or sets it off. -/
def Opens (changes : List (SettingChange Named)) (line : Option Bytes × Bytes) : Prop :=
  parseLine line.2 = .blank ∨ ∃ change ∈ changes, parseLine line.2 = .header change.name

/-- Saves of some of the changes leave all the lines that none of them is about. -/
theorem sparedLines_saveAll (changes : List (SettingChange Named)) (original : Option Bytes)
    (some_ : List (SettingChange Named)) (among : some_ ⊆ changes) :
    ∃ opened, sparedLines changes (saveAll original some_) = sparedLines changes original ++ opened ∧
      ∀ line ∈ opened, Opens changes line := by
  induction some_ using List.reverseRecOn with
  | nil => exact ⟨[], by simp [saveAll], by simp⟩
  | append_singleton before change ih =>
      rw [List.append_subset, List.cons_subset] at among
      obtain ⟨early, early_eq, early_opens⟩ := ih among.1
      have own (line : Option Bytes × Bytes)
          (spared : (changes.all fun change => change.spares line) = true) :
          assignedComment change.name change.key line = none := by
        simpa [SettingChange.spares] using List.all_eq_true.mp spared change among.2.1
      obtain ⟨late, late_eq, late_opens⟩ := (savedLines_saved (linesOf (saveAll original before))
        change.name change.key change.value).spared change.written change.plain _ own
      rw [← linesOf_save] at late_eq
      refine ⟨early ++ late, ?_, ?_⟩
      · rw [← List.append_assoc, ← early_eq, saveAll, List.foldl_concat]
        exact late_eq
      · rw [List.forall_mem_append]
        exact ⟨early_opens, fun line opened =>
          (late_opens line opened).imp_right fun parsed => ⟨change, among.2.1, parsed⟩⟩

/-- Nothing is warned of exactly if every line is faultless and no key is assigned twice. -/
theorem loadSettings_quiet_iff {path : Bytes} (named : path ≠ []) (original : Option Bytes) :
    (loadSettings path (fileOf original) : LoadedSettings Named).warnings = [] ↔
      (∀ line ∈ sectioned none (linesOf original), Faultless Named line) ∧
        (assignedKeys (linesOf original)).Nodup := by
  cases original with
  | none => simp [loadSettings, fileOf, linesOf, sectioned, assignedKeys]
  | some text =>
      simp only [loadSettings, if_neg named, fileOf]
      exact (loadLines_warnings path (readLines text)).1

/-- The key of the history's limit is known. -/
theorem scrollback_field : fieldAt (utf8 "general") (utf8 "scrollback") = some .scrollback := by
  decide +kernel

/-- The scrollback set to some number of lines. -/
def scrollbackChange (value : Bytes) (given : Int)
    (taken : parseIntInRange value 0 1000000 = some given ∧ 0x0A ∉ value ∧ trim value = value) :
    SettingChange NamedKey where
  name := utf8 "general"
  key := utf8 "scrollback"
  value
  field := .scrollback
  given
  known := scrollback_field
  accepted := taken.1
  single := taken.2.1
  trimmed := taken.2.2

/-- Five is a limit that is taken. -/
theorem five_taken : parseIntInRange (utf8 "5") 0 1000000 = some 5 ∧ 0x0A ∉ utf8 "5" ∧
    trim (utf8 "5") = utf8 "5" := by
  decide +kernel

/-- A hundred is a limit that is taken. -/
theorem hundred_taken : parseIntInRange (utf8 "100") 0 1000000 = some 100 ∧ 0x0A ∉ utf8 "100" ∧
    trim (utf8 "100") = utf8 "100" := by
  decide +kernel

/-- The scrollback changed twice. -/
def scrollbackChanges : List (SettingChange NamedKey) :=
  [scrollbackChange (utf8 "100") 100 hundred_taken, scrollbackChange (utf8 "5") 5 five_taken]

/-- After any saves, in any order, what is loaded is what was loaded with each setting as it was
saved last; a file that there was nothing to warn about is still one; and the lines that are about
nothing saved are all there as they were, with no more behind them than the sections needed. -/
theorem saves_loaded {path : Bytes} (named : path ≠ []) (original : Option Bytes)
    (changes : List (SettingChange Named)) :
    let before : LoadedSettings Named := loadSettings path (fileOf original)
    let after : LoadedSettings Named := loadSettings path (fileOf (saveAll original changes))
    after.settings = changes.foldl (fun settings change => change.apply settings) before.settings ∧
      (before.warnings = [] → after.warnings = []) ∧
      ∃ opened, sparedLines changes (saveAll original changes) =
          sparedLines changes original ++ opened ∧ ∀ line ∈ opened, Opens changes line := by
  refine ⟨?_, ?_, sparedLines_saveAll changes original changes (List.Subset.refl _)⟩
  · rw [loadSettings_settings named, loadSettings_settings named]
    induction changes using List.reverseRecOn with
    | nil => rfl
    | append_singleton before change ih =>
        rw [saveAll, List.foldl_concat, ← saveAll, linesOf_save, List.foldl_concat, ← ih]
        exact (savedLines_saved _ _ _ _).settings change.written change.known change.accepted _
  · rw [loadSettings_quiet_iff named, loadSettings_quiet_iff named]
    rintro ⟨fine, apart⟩
    induction changes using List.reverseRecOn with
    | nil => exact ⟨fine, apart⟩
    | append_singleton before change ih =>
        have saved := savedLines_saved (linesOf (saveAll original before)) change.name change.key
          change.value
        rw [saveAll, List.foldl_concat, ← saveAll, linesOf_save]
        exact ⟨saved.faultless change.written change.known change.accepted ih.1,
          saved.assignedKeys_nodup change.written change.known ih.2⟩

/-- Of two saves of the scrollback the second is loaded. -/
theorem saves_loaded_scrollback :
    (loadSettings (utf8 "ckmux.conf") (fileOf (saveAll (some (utf8 "[general]\n# none\n"))
      scrollbackChanges)) : LoadedSettings NamedKey).settings.value .scrollback = (5 : Int) := by
  rw [(@saves_loaded NamedKey _ (utf8 "ckmux.conf") (by decide)
    (some (utf8 "[general]\n# none\n")) scrollbackChanges).1]
  exact settings_set_self _ _ _

/-- Of two saves of one key the last is all that counts. -/
theorem save_twice (first last : SettingChange Named) (original : Option Bytes)
    (name_eq : first.name = last.name) (key_eq : first.key = last.key) :
    last.save (first.save original) = last.save original := by
  have lines := linesOf_save first original
  have written := first.written
  have plain := first.plain
  rw [name_eq] at lines plain
  rw [key_eq] at lines written
  apply congrArg some
  change writeLines (savedLines (linesOf (first.save original)) last.name last.key last.value) =
    writeLines (savedLines (linesOf original) last.name last.key last.value)
  rw [lines, savedLines_twice written plain]

/-- However often one setting has been saved, the text is what the last save alone makes of the
original. -/
theorem saves_last (original : Option Bytes) (earlier : List (SettingChange Named))
    (last : SettingChange Named)
    (same : ∀ change ∈ earlier, change.name = last.name ∧ change.key = last.key) :
    saveAll original (earlier ++ [last]) = saveAll original [last] := by
  induction earlier using List.reverseRecOn with
  | nil => rfl
  | append_singleton before change ih =>
      rw [List.forall_mem_append, List.forall_mem_singleton] at same
      calc saveAll original (before ++ [change] ++ [last])
          = last.save (change.save (saveAll original before)) := by simp [saveAll]
        _ = last.save (saveAll original before) := save_twice change last _ same.2.1 same.2.2
        _ = saveAll original (before ++ [last]) := by simp [saveAll]
        _ = saveAll original [last] := ih same.1

/-- Of the limits that were saved the last is all that counts. -/
theorem saves_last_scrollback :
    saveAll (some (utf8 "[general]\n# none\n")) scrollbackChanges =
      saveAll (some (utf8 "[general]\n# none\n"))
        [scrollbackChange (utf8 "5") 5 five_taken] :=
  saves_last (some (utf8 "[general]\n# none\n"))
    [scrollbackChange (utf8 "100") 100 hundred_taken] (scrollbackChange (utf8 "5") 5 five_taken)
    (by simp [scrollbackChange])

end Config

end Ckmux
