import Mathlib
import Ckmux.Config.Sections

/-!
# Saving a setting

A setting is saved into the text that is there. Every line that assigns it is written again, with
the comment beside it; if there is none, a line is put at the end of its section, or a section at
the end of the text. Nothing else is touched.
-/

namespace Ckmux

namespace Config

open Data (Overwrites)
open Grammar (Bytes OneLine isSpace readLines trim writeLines)

/-- The writer in the middle of a file, with the lines as they will be. -/
structure Saving where
  lines : List Bytes := []
  rewrites : Nat := 0
  insertAt : Nat
  inSection : Bool := false
  sectionSeen : Bool := false

/-- One more line that is there. -/
def Saving.keep (saving : Saving) (line : Bytes) : Saving :=
  { saving with lines := saving.lines ++ [line] }

/-- A line kept, or written anew if it assigns the key in its section. -/
def Saving.scan (name key value : Bytes) (saving : Saving) (line : Bytes) : Saving :=
  let behind := saving.lines.length + 1
  match parseLine line with
  | .header other =>
      if other = name then
        -- an empty section takes the key directly
        { saving.keep line with inSection := true, sectionSeen := true, insertAt := behind }
      else { saving.keep line with inSection := false }
  | .blank => saving.keep line
  | .assignment other _ comment =>
      if !saving.inSection then saving.keep line
      else if other = key then
        -- every occurrence, and what the reader wrote beside it
        { saving.keep (withComment (assignmentText key value) comment) with
          insertAt := behind, rewrites := saving.rewrites + 1 }
      else { saving.keep line with insertAt := behind }
  | _ =>
      if !saving.inSection then saving.keep line else { saving.keep line with insertAt := behind }

/-- The lines behind a text in which the section does not occur. -/
def openSection (lines : List Bytes) (name : Bytes) : List Bytes :=
  -- a blank line in between, if the text does not end in one
  (if lines ≠ [] ∧ trim (lines.getLastD []) ≠ [] then [[]] else []) ++ [headerText name]

/-- Each assignment of the key written anew; where there is none it goes into its section, and where
there is no section both go to the end. -/
def savedLines (lines : List Bytes) (name key value : Bytes) : List Bytes :=
  let saving := lines.foldl (Saving.scan name key value) { insertAt := lines.length + 1 }
  if saving.rewrites = 0 then
    if saving.sectionSeen ∧ saving.insertAt ≤ saving.lines.length then
      saving.lines.take saving.insertAt ++ assignmentText key value ::
        saving.lines.drop saving.insertAt
    else saving.lines ++ openSection saving.lines name ++ [assignmentText key value]
  else saving.lines

/-- The text that is written for what was read, if there was a file. -/
def saveSetting (original : Option Bytes) (name key value : Bytes) : Bytes :=
  writeLines (savedLines ((original.map readLines).getD []) name key value)

/-! ### What is said of a line -/

/-- The comment beside an assignment of a key in a section, for a line that is one. -/
def assignedComment (name key : Bytes) (line : Option Bytes × Bytes) : Option Bytes :=
  if line.1 = some name then
    match parseLine line.2 with
    | .assignment other _ comment => if other = key then some comment else none
    | _ => none
  else none

/-- A line as it is when the setting has been saved. -/
def rewritten (name key value : Bytes) (line : Option Bytes × Bytes) : Bytes :=
  match assignedComment name key line with
  | some comment => withComment (assignmentText key value) comment
  | none => line.2

/-- The lines that do not assign a key in a section. -/
def otherLines (name key : Bytes) (lines : List Bytes) : List Bytes :=
  ((sectioned none lines).filter fun line => (assignedComment name key line).isNone).map Prod.snd

/-- The comments beside the assignments of a key in a section. -/
def commentsOf (name key : Bytes) (lines : List Bytes) : List Bytes :=
  (sectioned none lines).filterMap (assignedComment name key)

/-- A section occurs in some lines. -/
def occurs (name : Bytes) (lines : List Bytes) : Bool :=
  (sectioned none lines).any fun line => line.1 = some name

section

variable {name key value : Bytes} {line : Option Bytes × Bytes} {comment : Bytes}

/-- A line's comment is found if the line assigns the key in its section. -/
theorem assignedComment_eq_some : assignedComment name key line = some comment ↔
    line.1 = some name ∧ ∃ text, parseLine line.2 = .assignment key text comment := by
  rw [assignedComment]
  constructor
  · intro found
    split_ifs at found with labelled
    split at found
    · rename_i other text beside parsed
      split_ifs at found with same
      obtain rfl := Option.some.inj found
      exact ⟨labelled, text, same ▸ parsed⟩
    · cases found
  · rintro ⟨labelled, text, parsed⟩
    rw [if_pos labelled, parsed]
    exact if_pos rfl

/-- A line assigns the key exactly if its comment is found. -/
theorem assigns_iff_comment :
    Assigns name key line ↔ ∃ comment, assignedComment name key line = some comment := by
  simp only [assignedComment_eq_some, Assigns]
  constructor
  · rintro ⟨labelled, text, comment, parsed⟩
    exact ⟨comment, labelled, text, parsed⟩
  · rintro ⟨comment, labelled, text, parsed⟩
    exact ⟨labelled, text, comment, parsed⟩

/-- No comment is found where the key is not assigned. -/
theorem assignedComment_eq_none :
    assignedComment name key line = none ↔ ¬Assigns name key line := by
  rw [assigns_iff_comment, Option.eq_none_iff_forall_ne_some, not_exists]

end

/-! ### Sections again -/

/-- The section in force behind some lines. -/
def sectionBehind (label : Option Bytes) (lines : List Bytes) : Option Bytes :=
  lines.foldl inForce label

/-- The section goes on where the lines go on. -/
theorem sectioned_append (label : Option Bytes) (before after : List Bytes) :
    sectioned label (before ++ after) =
      sectioned label before ++ sectioned (sectionBehind label before) after := by
  induction before generalizing label with
  | nil => rfl
  | cons line before ih => exact congrArg (_ :: ·) (ih _)

/-- Beside their sections the lines are the same. -/
theorem sectioned_lines (label : Option Bytes) (lines : List Bytes) :
    (sectioned label lines).map Prod.snd = lines := by
  induction lines generalizing label with
  | nil => rfl
  | cons line lines ih => exact congrArg (line :: ·) (ih _)

/-- What the writer puts down of a key: a line that is read as an assignment, with a value. -/
structure Written (key value : Bytes) : Prop where
  plain : PlainKey key
  trimmed : trim value = value
  single : OneLine value

section

variable {name key value : Bytes}

/-- What is written is read as the assignment. -/
theorem Written.parse (written : Written key value) {comment : Bytes}
    (comments : comment = [] ∨ Comment comment) :
    parseLine (withComment (assignmentText key value) comment) =
      .assignment key (escape value) comment :=
  parseLine_assignment written.plain written.trimmed comments

/-- What is written without a comment is read as the assignment. -/
theorem Written.parse_bare (written : Written key value) :
    parseLine (assignmentText key value) = .assignment key (escape value) [] :=
  written.parse (.inl rfl)

/-- A line that is written again is still in its section, with its comment. -/
theorem assignedComment_rewritten (written : Written key value) (line : Option Bytes × Bytes) :
    assignedComment name key (line.1, rewritten name key value line) =
      assignedComment name key line := by
  cases found : assignedComment name key line with
  | none => rwa [rewritten, found]
  | some comment =>
      obtain ⟨labelled, text, parsed⟩ := assignedComment_eq_some.mp found
      rw [rewritten, found, assignedComment_eq_some]
      exact ⟨labelled, _, written.parse (parseLine_comment parsed).1⟩

/-- Writing an assignment anew leaves the section. -/
theorem inForce_rewritten (written : Written key value) (label : Option Bytes) (line : Bytes) :
    inForce label (rewritten name key value (inForce label line, line)) = inForce label line := by
  cases found : assignedComment name key (inForce label line, line) with
  | none => rw [rewritten, found]
  | some comment =>
      obtain ⟨labelled, text, parsed⟩ := assignedComment_eq_some.mp found
      dsimp only at parsed
      rw [rewritten, found]
      simp only [inForce, parsed, written.parse (parseLine_comment parsed).1]

/-- Writing assignments anew leaves every line in its section. -/
theorem sectioned_rewritten (written : Written key value) (label : Option Bytes)
    (lines : List Bytes) :
    sectioned label ((sectioned label lines).map (rewritten name key value)) =
      (sectioned label lines).map fun line => (line.1, rewritten name key value line) := by
  induction lines generalizing label with
  | nil => rfl
  | cons line lines ih =>
      rw [sectioned, List.map_cons, sectioned, List.map_cons, inForce_rewritten written, ih]

/-- One more assignment in a section that is in force. -/
theorem sectioned_inserted (written : Written key value) {before : List Bytes}
    (behind : sectionBehind none before = some name) (after : List Bytes) :
    sectioned none (before ++ assignmentText key value :: after) =
      sectioned none before ++ (some name, assignmentText key value) ::
        sectioned (some name) after := by
  have label : inForce (some name) (assignmentText key value) = some name := by
    rw [inForce, written.parse_bare]
  rw [sectioned_append, sectioned, behind, label]

end

/-! ### What the writer has gone through -/

/-- The last line is in the section in force behind the others. -/
theorem sectioned_concat (done : List Bytes) (line : Bytes) :
    sectioned none (done ++ [line]) = sectioned none done ++
      [(inForce (sectionBehind none done) line, line)] :=
  sectioned_append none done [line]

/-- The last line says which section is in force behind it. -/
theorem sectionBehind_concat (done : List Bytes) (line : Bytes) :
    sectionBehind none (done ++ [line]) = inForce (sectionBehind none done) line :=
  List.foldl_concat ..

/-- A section occurs if it did before or the last line opens it. -/
theorem occurs_concat (name : Bytes) (done : List Bytes) (line : Bytes) :
    occurs name (done ++ [line]) =
      (occurs name done || decide (inForce (sectionBehind none done) line = some name)) := by
  rw [occurs, sectioned_concat, List.any_append]
  simp [occurs]

/-- A section in force has occurred. -/
theorem occurs_of_behind {name : Bytes} {done : List Bytes}
    (behind : sectionBehind none done = some name) : occurs name done = true := by
  induction done using List.reverseRecOn with
  | nil => cases behind
  | append_singleton done line _ =>
      rw [sectionBehind_concat] at behind
      rw [occurs_concat, behind]
      simp

/-- The writer has gone through some lines. -/
structure Saving.Scanned (name key value : Bytes) (done : List Bytes) (saving : Saving) : Prop where
  lines : saving.lines = (sectioned none done).map (rewritten name key value)
  rewrites : saving.rewrites = 0 ↔ ∀ line ∈ sectioned none done, ¬Assigns name key line
  inSection : saving.inSection = decide (sectionBehind none done = some name)
  seen : saving.sectionSeen = occurs name done
  spot : saving.sectionSeen = true → saving.insertAt ≤ done.length ∧
    sectionBehind none (done.take saving.insertAt) = some name

namespace Saving.Scanned

variable {name key value : Bytes} {done : List Bytes} {saving next : Saving} {line : Bytes}

/-- Nothing has been scanned. -/
theorem start (insertAt : Nat) : Scanned name key value [] { insertAt } where
  lines := rfl
  rewrites := by simp [sectioned]
  inSection := rfl
  seen := rfl
  spot seen := by cases seen

/-- As many lines are kept as were scanned. -/
theorem length (scanned : saving.Scanned name key value done) :
    saving.lines.length = done.length := by
  rw [scanned.lines, List.length_map, ← List.length_map Prod.snd, sectioned_lines]

/-- What has to be seen to of one more line. -/
theorem step (scanned : saving.Scanned name key value done) {now : Option Bytes}
    (now_eq : inForce (sectionBehind none done) line = now)
    (lines : next.lines = saving.lines ++ [rewritten name key value (now, line)])
    (rewrites : next.rewrites = 0 ↔ saving.rewrites = 0 ∧ ¬Assigns name key (now, line))
    (inSection : next.inSection = decide (now = some name))
    (seen : next.sectionSeen = (saving.sectionSeen || decide (now = some name)))
    (spot : next.insertAt = saving.lines.length + 1 ∧ now = some name ∨
      next.insertAt = saving.insertAt ∧ (now = some name → saving.sectionSeen = true)) :
    next.Scanned name key value (done ++ [line]) where
  lines := by
    rw [lines, scanned.lines, sectioned_concat, now_eq, List.map_append]
    rfl
  rewrites := by
    rw [rewrites, scanned.rewrites, sectioned_concat, now_eq]
    simp [or_imp, forall_and]
  inSection := by rw [inSection, sectionBehind_concat, now_eq]
  seen := by rw [seen, scanned.seen, occurs_concat, now_eq]
  spot := by
    intro next_seen
    rcases spot with ⟨spot_eq, labelled⟩ | ⟨spot_eq, was_seen⟩
    · have whole : next.insertAt = (done ++ [line]).length := by
        rw [spot_eq, scanned.length, List.length_append, List.length_singleton]
      refine ⟨whole.le, ?_⟩
      rw [whole, List.take_length, sectionBehind_concat, now_eq, labelled]
    · have before : saving.sectionSeen = true := by
        rw [seen, Bool.or_eq_true] at next_seen
        exact next_seen.elim id fun labelled => was_seen (of_decide_eq_true labelled)
      obtain ⟨inside, labelled⟩ := scanned.spot before
      rw [spot_eq, List.take_append_of_le_length inside, List.length_append]
      exact ⟨Nat.le_add_right_of_le inside, labelled⟩

/-- One more line is seen to. -/
theorem scan (scanned : saving.Scanned name key value done) (line : Bytes) :
    (saving.scan name key value line).Scanned name key value (done ++ [line]) := by
  have was_seen (labelled : sectionBehind none done = some name) : saving.sectionSeen = true :=
    scanned.seen.trans (occurs_of_behind labelled)
  have seen_or : saving.sectionSeen =
      (saving.sectionSeen || decide (sectionBehind none done = some name)) := by
    by_cases labelled : sectionBehind none done = some name
    · simp [was_seen labelled]
    · simp [labelled]
  -- of a line that is neither a header nor an assignment of the key, only its place counts
  have other (now_eq : inForce (sectionBehind none done) line = sectionBehind none done)
      (absent : ¬Assigns name key (sectionBehind none done, line)) (insertAt : Nat)
      (spot : insertAt = saving.lines.length + 1 ∧ sectionBehind none done = some name ∨
        insertAt = saving.insertAt) :
      ({ saving.keep line with insertAt } : Saving).Scanned name key value (done ++ [line]) := by
    refine scanned.step now_eq ?_ ?_ scanned.inSection seen_or ?_
    · rw [rewritten, assignedComment_eq_none.mpr absent]
      rfl
    · exact (and_iff_left absent).symm
    · exact spot.imp id fun same => ⟨same, was_seen⟩
  have in_section (inside : saving.inSection = true) : sectionBehind none done = some name :=
    of_decide_eq_true (scanned.inSection.symm.trans inside)
  have solid (now_eq : inForce (sectionBehind none done) line = sectionBehind none done)
      (absent : ∀ text comment, parseLine line ≠ .assignment key text comment) :
      (if !saving.inSection then saving.keep line
        else { saving.keep line with insertAt := saving.lines.length + 1 }).Scanned name key value
          (done ++ [line]) := by
    have absent : ¬Assigns name key (sectionBehind none done, line) := by
      rintro ⟨_, text, comment, assigned⟩
      exact absent text comment assigned
    split
    · exact other now_eq absent saving.insertAt (.inr rfl)
    · rename_i inside
      exact other now_eq absent _ (.inl ⟨rfl, in_section (by simpa using inside)⟩)
  rw [Saving.scan]
  cases parsed : parseLine line with
  | header found =>
      have now_eq : inForce (sectionBehind none done) line = some found := by rw [inForce, parsed]
      have absent : ¬Assigns name key (some found, line) := by
        rintro ⟨_, text, comment, assigned⟩
        cases parsed.symm.trans assigned
      have kept : rewritten name key value (some found, line) = line := by
        rw [rewritten, assignedComment_eq_none.mpr absent]
      dsimp only
      split
      · rename_i same
        refine scanned.step now_eq (by rw [kept]; rfl) (and_iff_left absent).symm ?_ ?_ ?_
        · simp [same]
        · simp [same]
        · exact .inl ⟨rfl, congrArg some same⟩
      · rename_i apart
        refine scanned.step now_eq (by rw [kept]; rfl) (and_iff_left absent).symm ?_ ?_ ?_
        · simp [apart]
        · simp [apart, Saving.keep]
        · exact .inr ⟨rfl, fun same => absurd (Option.some.inj same) apart⟩
  | blank =>
      refine other (by rw [inForce, parsed]) ?_ saving.insertAt (.inr rfl)
      rintro ⟨_, text, comment, assigned⟩
      cases parsed.symm.trans assigned
  | assignment found text comment =>
      have now_eq : inForce (sectionBehind none done) line = sectionBehind none done := by
        rw [inForce, parsed]
      dsimp only
      split
      · rename_i outside
        refine other now_eq ?_ saving.insertAt (.inr rfl)
        rintro ⟨labelled, _⟩
        rw [scanned.inSection] at outside
        simp only [Bool.not_eq_eq_eq_not, Bool.not_true, decide_eq_false_iff_not] at outside
        exact outside labelled
      · rename_i inside
        rw [Bool.not_eq_true, Bool.not_eq_false'] at inside
        split
        · rename_i same
          subst same
          have assigned : assignedComment name found (sectionBehind none done, line) = some comment :=
            assignedComment_eq_some.mpr ⟨in_section inside, text, parsed⟩
          refine scanned.step now_eq ?_ ?_ scanned.inSection seen_or (.inl ⟨rfl, in_section inside⟩)
          · rw [rewritten, assigned]
            rfl
          · refine iff_of_false (Nat.succ_ne_zero _) fun absent => absent.2 ?_
            exact assigns_iff_comment.mpr ⟨comment, assigned⟩
        · rename_i apart
          refine other now_eq ?_ _ (.inl ⟨rfl, in_section inside⟩)
          rintro ⟨_, _, _, assigned⟩
          exact apart (ParsedLine.assignment.inj (parsed.symm.trans assigned)).1
  | comment => exact solid (by rw [inForce, parsed]) (by simp [parsed])
  | directive text => exact solid (by rw [inForce, parsed]) (by simp [parsed])
  | malformed => exact solid (by rw [inForce, parsed]) (by simp [parsed])

/-- Every line is scanned. -/
theorem run (name key value : Bytes) (lines : List Bytes) (insertAt : Nat) :
    (lines.foldl (Saving.scan name key value) { insertAt }).Scanned name key value lines := by
  induction lines using List.reverseRecOn with
  | nil => exact start insertAt
  | append_singleton lines line ih =>
      rw [List.foldl_concat]
      exact ih.scan line

end Saving.Scanned

/-! ### What is saved -/

/-- The lines when a setting has been saved: written again, put in, or put behind in a section of
their own. -/
inductive Saved (name key value : Bytes) (lines : List Bytes) : List Bytes → Prop where
  | again (assigned : ∃ line ∈ sectioned none lines, Assigns name key line) :
      Saved name key value lines ((sectioned none lines).map (rewritten name key value))
  | inserted (before after : List Bytes) (parts : lines = before ++ after)
      (behind : sectionBehind none before = some name)
      (unassigned : ∀ line ∈ sectioned none lines, ¬Assigns name key line) :
      Saved name key value lines (before ++ assignmentText key value :: after)
  | opened (absent : occurs name lines = false) :
      Saved name key value lines (lines ++ openSection lines name ++ [assignmentText key value])

section

variable {name key value : Bytes} {lines saved : List Bytes}

/-- Where nothing assigns the key nothing is written anew. -/
theorem rewritten_unassigned (unassigned : ∀ line ∈ sectioned none lines, ¬Assigns name key line) :
    (sectioned none lines).map (rewritten name key value) = lines := by
  have same : (sectioned none lines).map (rewritten name key value) =
      (sectioned none lines).map Prod.snd := by
    refine List.map_congr_left fun line listed => ?_
    rw [rewritten, assignedComment_eq_none.mpr (unassigned line listed)]
  exact same.trans (sectioned_lines none lines)

/-- What is saved is saved as it should be. -/
theorem savedLines_saved (lines : List Bytes) (name key value : Bytes) :
    Saved name key value lines (savedLines lines name key value) := by
  have scanned := Saving.Scanned.run name key value lines (lines.length + 1)
  rw [savedLines]
  generalize lines.foldl (Saving.scan name key value) { insertAt := lines.length + 1 } = saving
    at scanned ⊢
  split
  · rename_i untouched
    have unassigned := scanned.rewrites.mp untouched
    have lines_eq : saving.lines = lines := scanned.lines.trans (rewritten_unassigned unassigned)
    rw [lines_eq]
    split
    · rename_i seen
      exact .inserted _ _ (List.take_append_drop ..).symm (scanned.spot seen.1).2 unassigned
    · rename_i unseen
      refine .opened ?_
      rw [← scanned.seen, Bool.eq_false_iff]
      exact fun seen => unseen ⟨seen, (scanned.spot seen).1⟩
  · rename_i touched
    rw [scanned.lines]
    refine .again ?_
    by_contra unassigned
    push Not at unassigned
    exact touched (scanned.rewrites.mpr unassigned)

/-- Where a section does not occur nothing in it is assigned. -/
theorem unassigned_of_absent (absent : occurs name lines = false) :
    ∀ line ∈ sectioned none lines, ¬Assigns name key line := by
  rintro line listed ⟨labelled, _⟩
  rw [occurs, List.any_eq_false] at absent
  exact absent line listed (decide_eq_true labelled)

/-- A section that is opened is a blank line, perhaps, and its header. -/
theorem sectioned_openSection (plain : PlainName name) (label : Option Bytes) (lines : List Bytes) :
    (∀ line ∈ sectioned label (openSection lines name), parseLine line.2 = .blank ∨
      parseLine line.2 = .header name) ∧
    sectionBehind label (openSection lines name) = some name := by
  have header := parseLine_header plain
  have blank : parseLine [] = .blank := rfl
  rw [openSection]
  split
  · simp [sectioned, sectionBehind, inForce, header, blank]
  · simp [sectioned, sectionBehind, inForce, header]

/-- A section opened at the end has its assignment in it. -/
theorem sectioned_opened (written : Written key value) (plain : PlainName name) (lines : List Bytes) :
    sectioned none (lines ++ openSection lines name ++ [assignmentText key value]) =
      sectioned none lines ++ sectioned (sectionBehind none lines) (openSection lines name) ++
        [(some name, assignmentText key value)] := by
  have behind : sectionBehind none (lines ++ openSection lines name) = some name := by
    rw [sectionBehind, List.foldl_append]
    exact (sectioned_openSection plain _ lines).2
  rw [sectioned_inserted written behind, sectioned_append]
  rfl

/-- Opening a section assigns nothing. -/
theorem unassigned_openSection (plain : PlainName name) (label : Option Bytes)
    (lines : List Bytes) :
    ∀ line ∈ sectioned label (openSection lines name), assignedComment name key line = none := by
  intro line listed
  rw [assignedComment_eq_none]
  rintro ⟨_, text, comment, assigned⟩
  rcases (sectioned_openSection plain label lines).1 line listed with parsed | parsed
  · cases parsed.symm.trans assigned
  · cases parsed.symm.trans assigned

/-- What is written has no comment. -/
theorem Written.comment (written : Written key value) :
    assignedComment name key (some name, assignmentText key value) = some [] :=
  assignedComment_eq_some.mpr ⟨rfl, _, written.parse_bare⟩

/-- What is written stays if it is written anew. -/
theorem Written.rewrites (written : Written key value) :
    rewritten name key value (some name, assignmentText key value) = assignmentText key value := by
  rw [rewritten, written.comment]
  rfl

namespace Saved

/-- The lines that do not assign the key are the same, in their order. -/
theorem others (change : Saved name key value lines saved) (written : Written key value)
    (plain : PlainName name) :
    otherLines name key saved =
      otherLines name key lines ++ if occurs name lines then [] else openSection lines name := by
  have mine : (assignedComment name key (some name, assignmentText key value)).isNone = false := by
    rw [written.comment]
    rfl
  cases change with
  | again assigned =>
      obtain ⟨line, listed, labelled, _⟩ := assigned
      have seen : occurs name lines = true :=
        List.any_eq_true.mpr ⟨line, listed, decide_eq_true labelled⟩
      rw [otherLines, otherLines, sectioned_rewritten written, seen, if_pos rfl, List.append_nil,
        List.filter_map, List.map_map]
      have same : (fun line => (assignedComment name key line).isNone) ∘
          (fun line => (line.1, rewritten name key value line)) =
            fun line => (assignedComment name key line).isNone := by
        funext line
        exact congrArg Option.isNone (assignedComment_rewritten written line)
      rw [same]
      refine List.map_congr_left fun line kept => ?_
      have unassigned := Option.isNone_iff_eq_none.mp (List.mem_filter.mp kept).2
      simp only [Function.comp_apply, rewritten, unassigned]
  | inserted before after parts behind unassigned =>
      have seen : occurs name lines = true := by
        rw [occurs, parts, sectioned_append, List.any_append, ← occurs, occurs_of_behind behind,
          Bool.true_or]
      rw [seen, if_pos rfl, List.append_nil, otherLines, otherLines, sectioned_inserted written behind,
        parts, sectioned_append, behind, List.filter_append, List.filter_append,
        List.filter_cons_of_neg (by rw [mine]; exact Bool.false_ne_true)]
  | opened absent =>
      have kept : (sectioned (sectionBehind none lines) (openSection lines name)).filter
          (fun line => (assignedComment name key line).isNone) =
            sectioned (sectionBehind none lines) (openSection lines name) :=
        List.filter_eq_self.mpr fun line listed =>
          Option.isNone_iff_eq_none.mpr (unassigned_openSection plain _ lines line listed)
      rw [absent, if_neg Bool.false_ne_true, otherLines, otherLines, sectioned_opened written plain,
        List.filter_append, List.filter_append, kept,
        List.filter_cons_of_neg (by rw [mine]; exact Bool.false_ne_true), List.filter_nil,
        List.append_nil, List.map_append, sectioned_lines]

/-- So are the comments beside what is written again; what is put in has none. -/
theorem comments (change : Saved name key value lines saved) (written : Written key value)
    (plain : PlainName name) :
    commentsOf name key saved =
      if commentsOf name key lines = [] then [[]] else commentsOf name key lines := by
  have none_of (unassigned : ∀ line ∈ sectioned none lines, ¬Assigns name key line) :
      commentsOf name key lines = [] := by
    rw [commentsOf, List.filterMap_eq_nil_iff]
    exact fun line listed => assignedComment_eq_none.mpr (unassigned line listed)
  cases change with
  | again assigned =>
      obtain ⟨line, listed, assigned⟩ := assigned
      obtain ⟨comment, beside⟩ := assigns_iff_comment.mp assigned
      have filled : commentsOf name key lines ≠ [] :=
        List.ne_nil_of_mem (List.mem_filterMap.mpr ⟨line, listed, beside⟩)
      rw [if_neg filled, commentsOf, commentsOf, sectioned_rewritten written, List.filterMap_map]
      congr 1
      funext line
      exact assignedComment_rewritten written line
  | inserted before after parts behind unassigned =>
      have empty := none_of unassigned
      rw [if_pos empty]
      rw [commentsOf, parts, sectioned_append, behind, List.filterMap_append,
        List.append_eq_nil_iff] at empty
      rw [commentsOf, sectioned_inserted written behind, List.filterMap_append,
        List.filterMap_cons_some written.comment, empty.1, empty.2]
      rfl
  | opened absent =>
      have empty := none_of (unassigned_of_absent absent)
      rw [if_pos empty]
      rw [commentsOf] at empty
      rw [commentsOf, sectioned_opened written plain, List.filterMap_append, List.filterMap_append,
        empty, List.filterMap_cons_some written.comment,
        List.filterMap_eq_nil_iff.mpr (unassigned_openSection plain _ lines)]
      rfl

/-- What is saved assigns the key, and only in the words that it is saved in. -/
theorem fixed (change : Saved name key value lines saved) (written : Written key value)
    (plain : PlainName name) :
    (∃ line ∈ sectioned none saved, Assigns name key line) ∧
      ∀ line ∈ sectioned none saved, rewritten name key value line = line.2 := by
  have mine : Assigns name key (some name, assignmentText key value) :=
    assigns_iff_comment.mpr ⟨_, written.comment⟩
  have untouched {line : Option Bytes × Bytes} (unassigned : ¬Assigns name key line) :
      rewritten name key value line = line.2 := by
    rw [rewritten, assignedComment_eq_none.mpr unassigned]
  cases change with
  | again assigned =>
      obtain ⟨line, listed, assigned⟩ := assigned
      rw [sectioned_rewritten written]
      constructor
      · refine ⟨_, List.mem_map_of_mem listed, ?_⟩
        rw [assigns_iff_comment, assignedComment_rewritten written]
        exact assigns_iff_comment.mp assigned
      · intro entry listed
        obtain ⟨line, _, rfl⟩ := List.mem_map.mp listed
        rw [rewritten, assignedComment_rewritten written]
        cases found : assignedComment name key line with
        | none => rfl
        | some comment => rw [rewritten, found]
  | inserted before after parts behind unassigned =>
      rw [parts, sectioned_append, behind] at unassigned
      rw [sectioned_inserted written behind]
      constructor
      · exact ⟨_, List.mem_append_right _ List.mem_cons_self, mine⟩
      · intro line listed
        rcases List.mem_append.mp listed with first | rest
        · exact untouched (unassigned line (List.mem_append_left _ first))
        · rcases List.mem_cons.mp rest with rfl | rest
          · exact written.rewrites
          · exact untouched (unassigned line (List.mem_append_right _ rest))
  | opened absent =>
      rw [sectioned_opened written plain]
      constructor
      · exact ⟨_, List.mem_append_right _ (List.mem_singleton_self _), mine⟩
      · intro line listed
        rcases List.mem_append.mp listed with front | last
        · rcases List.mem_append.mp front with first | opening
          · exact untouched (unassigned_of_absent absent line first)
          · exact untouched (assignedComment_eq_none.mp
              (unassigned_openSection plain _ lines line opening))
        · obtain rfl := List.mem_singleton.mp last
          exact written.rewrites

/-- Saving again what is saved changes nothing. -/
theorem settled (change : Saved name key value lines saved) (written : Written key value)
    (plain : PlainName name) : savedLines saved name key value = saved := by
  obtain ⟨⟨line, listed, assigned⟩, same⟩ := change.fixed written plain
  have next := savedLines_saved saved name key value
  generalize savedLines saved name key value = again at next
  cases next with
  | again _ => exact (List.map_congr_left same).trans (sectioned_lines none saved)
  | inserted before after parts behind unassigned => exact absurd assigned (unassigned line listed)
  | opened absent => exact absurd assigned (unassigned_of_absent absent line listed)

/-- All of it is lines, as it was. -/
theorem single (change : Saved name key value lines saved) (written : Written key value)
    (plain : PlainName name) (lines_single : ∀ line ∈ lines, OneLine line) :
    ∀ line ∈ saved, OneLine line := by
  have mine : OneLine (assignmentText key value) :=
    oneLine_written written.plain written.single (List.not_mem_nil (a := 0x0A))
  cases change with
  | again assigned =>
      intro line listed
      obtain ⟨entry, entry_in, rfl⟩ := List.mem_map.mp listed
      have entry_single : OneLine entry.2 := by
        apply lines_single
        rw [← sectioned_lines none lines]
        exact List.mem_map_of_mem entry_in
      rw [rewritten]
      split
      · rename_i comment found
        obtain ⟨_, _, parsed⟩ := assignedComment_eq_some.mp found
        exact oneLine_written written.plain written.single ((parseLine_comment parsed).2 entry_single)
      · exact entry_single
  | inserted before after parts behind unassigned =>
      rw [parts, List.forall_mem_append] at lines_single
      exact List.forall_mem_append.mpr
        ⟨lines_single.1, List.forall_mem_cons.mpr ⟨mine, lines_single.2⟩⟩
  | opened absent =>
      have header : OneLine (headerText name) := by
        simpa [OneLine, headerText] using plain.apart.2
      have opening : ∀ line ∈ openSection lines name, OneLine line := by
        intro line listed
        rcases List.mem_append.mp listed with blank | last
        · split at blank
          · obtain rfl := List.mem_singleton.mp blank
            exact List.not_mem_nil
          · cases blank
        · obtain rfl := List.mem_singleton.mp last
          exact header
      exact List.forall_mem_append.mpr
        ⟨List.forall_mem_append.mpr ⟨lines_single, opening⟩, List.forall_mem_singleton.mpr mine⟩

variable {Named : Type} [KeyNames Named]

/-- A line that was written gives the setting the value that it was written with. -/
theorem obey_written (written : Written key value) {field : Field} {given : field.Value Named}
    (known : fieldAt name key = some field) (accepted : field.check.parse value = some given)
    {comment : Bytes} (comments : comment = [] ∨ Comment comment) (settings : Settings Named) :
    obey settings (some name, withComment (assignmentText key value) comment) =
      settings.set field given := by
  have listed : isKnown (some name) = true := decide_eq_true (fieldAt_plain known).2.2
  rw [obey, if_pos listed, written.parse comments]
  dsimp only [Option.getD_some]
  rw [applyAssignment, known]
  dsimp only
  rw [unescape_escape, accepted]

/-- What is loaded is what was loaded, but for the one setting. -/
theorem settings (change : Saved name key value lines saved) (written : Written key value)
    {field : Field} {given : field.Value Named} (known : fieldAt name key = some field)
    (accepted : field.check.parse value = some given) (start : Settings Named) :
    (sectioned none saved).foldl obey start =
      ((sectioned none lines).foldl obey start).set field given := by
  have overwrites := obey_overwrites known given
  have mine : ∀ settings : Settings Named, obey settings (some name, assignmentText key value) =
      settings.set field given := obey_written written known accepted (.inl rfl)
  cases change with
  | again assigned =>
      rw [sectioned_rewritten written]
      refine (overwrites.foldl_replaced ?_ rfl).2 (.inl assigned)
      refine List.forall₂_map_right_iff.mpr (List.forall₂_same.mpr fun line _ => ?_)
      cases found : assignedComment name key line with
      | none =>
          refine .inr ⟨assignedComment_eq_none.mp found, ?_⟩
          rw [rewritten, found]
      | some comment =>
          refine .inl ⟨assigns_iff_comment.mpr ⟨comment, found⟩, fun settings => ?_⟩
          obtain ⟨labelled, _, parsed⟩ := assignedComment_eq_some.mp found
          rw [rewritten, found, labelled]
          exact obey_written written known accepted (parseLine_comment parsed).1 settings
  | inserted before after parts behind unassigned =>
      rw [parts, sectioned_append, behind] at unassigned
      rw [sectioned_inserted written behind, parts, sectioned_append, behind]
      exact overwrites.foldl_inserted mine (fun line listed =>
        unassigned line (List.mem_append_right _ listed)) start
  | opened absent =>
      have plain := (fieldAt_plain known).2.1
      have opening : ∀ settings : Settings Named,
          (sectioned (sectionBehind none lines) (openSection lines name)).foldl obey settings =
            settings := by
        have idle := (sectioned_openSection plain (sectionBehind none lines) lines).1
        generalize sectioned (sectionBehind none lines) (openSection lines name) = entries at idle
        induction entries with
        | nil => exact fun _ => rfl
        | cons entry entries ih =>
            rw [List.forall_mem_cons] at idle
            intro settings
            rw [List.foldl_cons, ih idle.2, obey]
            rcases idle.1 with parsed | parsed
            · rw [parsed]
              exact ite_self _
            · rw [parsed]
              exact ite_self _
      rw [sectioned_opened written plain, List.foldl_append, List.foldl_append, opening,
        List.foldl_cons, List.foldl_nil, mine]

end Saved

end

/-! ### Saved and loaded -/

variable {Named : Type} [KeyNames Named]

/-- What there is to load, where there was a file or none. -/
def fileOf : Option Bytes → FileRead
  | none => .absent
  | some text => .read text

/-- The lines of a file, where there is one. -/
def linesOf (original : Option Bytes) : List Bytes := (original.map readLines).getD []

/-- The settings of a file are its lines obeyed in their order. -/
theorem loadSettings_settings {path : Bytes} (named : path ≠ []) (original : Option Bytes) :
    (loadSettings path (fileOf original) : LoadedSettings Named).settings =
      (sectioned none (linesOf original)).foldl obey Settings.initial := by
  cases original with
  | none =>
      simp only [loadSettings, if_neg named, fileOf]
      rfl
  | some text =>
      simp only [loadSettings, if_neg named, fileOf]
      exact loadLines_settings path (readLines text)

/-- A setting that is saved is loaded with its value, and all else as it was. The lines that do not
assign it are there in their order, with no more than the section that it needed, and so are the
comments beside those that do. Saving it again writes the same text. -/
theorem saveSetting_round {path : Bytes} (named : path ≠ []) (original : Option Bytes)
    {name key value : Bytes} {field : Field} {given : field.Value Named}
    (known : fieldAt name key = some field) (accepted : field.check.parse value = some given)
    (single : OneLine value) (trimmed : trim value = value) :
    let saved := saveSetting original name key value
    (loadSettings path (.read saved) : LoadedSettings Named).settings =
      (loadSettings path (fileOf original) : LoadedSettings Named).settings.set field given ∧
    otherLines name key (readLines saved) = otherLines name key (linesOf original) ++
      (if occurs name (linesOf original) then [] else openSection (linesOf original) name) ∧
    commentsOf name key (readLines saved) =
      (if commentsOf name key (linesOf original) = [] then [[]]
        else commentsOf name key (linesOf original)) ∧
    saveSetting (some saved) name key value = saved := by
  obtain ⟨plain_key, plain_name, _⟩ := fieldAt_plain known
  have written : Written key value := ⟨plain_key, trimmed, single⟩
  have change := savedLines_saved (linesOf original) name key value
  have lines_single : ∀ line ∈ linesOf original, OneLine line := by
    cases original with
    | none => exact fun line listed => absurd listed List.not_mem_nil
    | some text => exact Grammar.readLines_oneLine text
  have read : readLines (saveSetting original name key value) =
      savedLines (linesOf original) name key value :=
    Grammar.readLines_writeLines (change.single written plain_name lines_single)
  intro saved
  refine ⟨?_, ?_, ?_, ?_⟩
  · have loaded : (loadSettings path (.read saved) : LoadedSettings Named).settings =
        (sectioned none (readLines saved)).foldl obey Settings.initial :=
      loadSettings_settings named (some saved)
    rw [loaded, loadSettings_settings named original, read]
    exact change.settings written known accepted Settings.initial
  · rw [read]
    exact change.others written plain_name
  · rw [read]
    exact change.comments written plain_name
  · rw [saveSetting, Option.map_some, Option.getD_some, read, change.settled written plain_name]
    rfl

/-- A value with a comment beside it is saved, and is loaded as it was saved. -/
theorem saveSetting_round_scrollback :
    saveSetting (some (utf8 "[general]\nscrollback = 5 # lines\n")) (utf8 "general")
        (utf8 "scrollback") (utf8 "100") = utf8 "[general]\nscrollback = 100  # lines\n" ∧
      (loadSettings (utf8 "ckmux.conf") (.read (saveSetting
        (some (utf8 "[general]\nscrollback = 5 # lines\n")) (utf8 "general") (utf8 "scrollback")
          (utf8 "100"))) : LoadedSettings NamedKey).settings.value .scrollback = (100 : Int) := by
  have accepted : parseIntInRange (utf8 "100") 0 1000000 = some 100 := by decide +kernel
  have single : (0x0A : UInt8) ∉ utf8 "100" := by decide +kernel
  have round := @saveSetting_round NamedKey _ (utf8 "ckmux.conf") (by decide)
    (some (utf8 "[general]\nscrollback = 5 # lines\n")) (utf8 "general") (utf8 "scrollback")
    (utf8 "100") .scrollback (100 : Int) (by decide +kernel) accepted single (by decide +kernel)
  constructor
  · decide +kernel
  · rw [round.1]
    exact settings_set_self _ _ _

end Config

end Ckmux
