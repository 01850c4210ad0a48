import Mathlib
import Ckmux.Grammar.Escape

/-!
# Print jobs as text

A job that is saved as text keeps what is printed and the lines it is printed on. Sequences are
removed and not obeyed: a job that placed its text by them loses its layout, but holds nothing of
them either.
-/

namespace Ckmux

open Grammar (Bytes Graphic Introducer Item StringKind Unterminated backslash bell escape
  graphic_of_printable writeItems)

/-- What ends a control sequence. -/
def isCsiFinal (byte : UInt8) : Bool := 0x40 ≤ byte ∧ byte ≤ 0x7E

/-- What follows a string that `ESC \` ends, or a bell where one does; nothing if it does not end. -/
def endOfStringSequence (bellEnds : Bool) : Bytes → Bytes
  | [] => []
  | byte :: rest =>
      if bellEnds ∧ byte = bell then rest
      else if byte = escape ∧ rest.head? = some backslash then rest.tail
      else endOfStringSequence bellEnds rest

/-- What follows a control sequence: whatever is behind its final byte. -/
def endOfControlSequence (job : Bytes) : Bytes :=
  (job.dropWhile fun byte => !isCsiFinal byte).drop 1

/-- Skipping a string leaves no more. -/
theorem endOfStringSequence_length (bellEnds : Bool) (job : Bytes) :
    (endOfStringSequence bellEnds job).length ≤ job.length := by
  induction job with
  | nil => exact le_refl 0
  | cons byte rest ih =>
      rw [endOfStringSequence]
      split
      · simp
      · split
        · simp only [List.length_tail, List.length_cons]
          omega
        · simp only [List.length_cons]
          omega

/-- Skipping a control sequence leaves no more. -/
theorem endOfControlSequence_length (job : Bytes) :
    (endOfControlSequence job).length ≤ job.length := by
  have fewer := (List.dropWhile_sublist (l := job) fun byte => !isCsiFinal byte).length_le
  rw [endOfControlSequence, List.length_drop]
  omega

/-- What is left of a print job without its control codes and sequences. -/
def printJobAsText : Bytes → Bytes
  | [] => []
  | byte :: rest =>
      if byte = escape then
        match rest with
        | [] => []
        | kind :: after =>
            if kind = 0x5B then printJobAsText (endOfControlSequence after)
            else if kind = 0x5D then printJobAsText (endOfStringSequence true after)
            else if kind = 0x50 ∨ kind = 0x58 ∨ kind = 0x5E ∨ kind = 0x5F then
              printJobAsText (endOfStringSequence false after)
            else printJobAsText after
      else if byte = 0x0A ∨ byte = 0x09 then byte :: printJobAsText rest
      else if byte = 0x0C then 0x0A :: printJobAsText rest
      else if byte = 0x0D then printJobAsText rest
      else if byte < 0x20 ∨ byte = 0x7F then printJobAsText rest
      else byte :: printJobAsText rest
termination_by job => job.length
decreasing_by
  all_goals simp only [List.length_cons]
  · exact Nat.lt_succ_of_lt (Nat.lt_succ_of_le (endOfControlSequence_length after))
  · exact Nat.lt_succ_of_lt (Nat.lt_succ_of_le (endOfStringSequence_length true after))
  · exact Nat.lt_succ_of_lt (Nat.lt_succ_of_le (endOfStringSequence_length false after))
  all_goals omega

/-- A byte that begins no sequence is kept, turned into a line break or dropped. -/
theorem printJobAsText_plain {byte : UInt8} (plain : byte ≠ escape) (rest : Bytes) :
    printJobAsText (byte :: rest) =
      if byte = 0x0A ∨ byte = 0x09 then byte :: printJobAsText rest
      else if byte = 0x0C then 0x0A :: printJobAsText rest
      else if byte = 0x0D then printJobAsText rest
      else if byte < 0x20 ∨ byte = 0x7F then printJobAsText rest
      else byte :: printJobAsText rest := by
  rw [printJobAsText.eq_def]
  dsimp only
  rw [if_neg plain]

/-- What follows an escape says how far the sequence goes. -/
theorem printJobAsText_escape (kind : UInt8) (after : Bytes) :
    printJobAsText (escape :: kind :: after) =
      if kind = 0x5B then printJobAsText (endOfControlSequence after)
      else if kind = 0x5D then printJobAsText (endOfStringSequence true after)
      else if kind = 0x50 ∨ kind = 0x58 ∨ kind = 0x5E ∨ kind = 0x5F then
        printJobAsText (endOfStringSequence false after)
      else printJobAsText after := by
  rw [printJobAsText, if_pos rfl]

/-! ### What is to be left of a stream, and what is -/

/-- What a stream's item is as text: what is drawn, and the ends of lines. -/
def Item.asText : Item → Bytes
  | .text char _ => String.utf8EncodeChar char
  | .control byte _ _ =>
      if byte = 0x0A ∨ byte = 0x09 then [byte] else if byte = 0x0C then [0x0A] else []
  | .controlSequence .. | .command .. | .string .. | .escape .. => []

/-- What is left of it: of an escape sequence, whatever follows its second byte. -/
def Item.left : Item → Bytes
  | .escape intermediates final _ _ _ => (intermediates ++ [final]).tail
  | item => Item.asText item

/-- No intermediate byte stands between the escape and the final byte. -/
def Item.Short : Item → Prop
  | .escape intermediates _ _ _ _ => intermediates = []
  | _ => True

/-- Of an item what should be left is, exactly if it is short. -/
theorem Item.left_eq_iff (item : Item) : Item.left item = Item.asText item ↔ Item.Short item := by
  cases item with
  | escape intermediates final =>
      cases intermediates with
      | nil => exact iff_of_true rfl rfl
      | cons first others => simp [Item.left, Item.asText, Item.Short]
  | text => exact iff_of_true rfl trivial
  | control => exact iff_of_true rfl trivial
  | controlSequence => exact iff_of_true rfl trivial
  | command => exact iff_of_true rfl trivial
  | string => exact iff_of_true rfl trivial

/-- A graphic byte stays. -/
theorem printJobAsText_graphic {byte : UInt8} (graphic : Graphic byte) (rest : Bytes) :
    printJobAsText (byte :: rest) = byte :: printJobAsText rest := by
  obtain ⟨drawn, kept⟩ := graphic
  have above (control : UInt8) (small : control < 0x20) : byte ≠ control := by
    rintro rfl
    exact absurd (UInt8.lt_of_lt_of_le small drawn) (UInt8.lt_irrefl _)
  rw [printJobAsText_plain (above escape (by decide)),
    if_neg (not_or.mpr ⟨above 0x0A (by decide), above 0x09 (by decide)⟩),
    if_neg (above 0x0C (by decide)), if_neg (above 0x0D (by decide)),
    if_neg (not_or.mpr ⟨UInt8.not_lt.mpr drawn, kept⟩)]

/-- Graphic bytes stay. -/
theorem printJobAsText_graphics {bytes : Bytes} (graphic : ∀ byte ∈ bytes, Graphic byte)
    (rest : Bytes) : printJobAsText (bytes ++ rest) = bytes ++ printJobAsText rest := by
  induction bytes with
  | nil => rfl
  | cons byte bytes ih =>
      obtain ⟨first, others⟩ := List.forall_mem_cons.mp graphic
      rw [List.cons_append, printJobAsText_graphic first, ih others, List.cons_append]

/-- Of a control what should be left is. -/
theorem printJobAsText_control {byte : UInt8} (controls : ¬Graphic byte) (plain : byte ≠ escape)
    (rest : Bytes) : printJobAsText (byte :: rest) =
      Item.asText (.control byte controls plain) ++ printJobAsText rest := by
  have dropped : byte < 0x20 ∨ byte = 0x7F := by
    by_contra graphic
    rw [not_or, UInt8.not_lt] at graphic
    exact controls graphic
  rw [printJobAsText_plain plain, if_pos dropped, ite_self, Item.asText]
  split
  · rfl
  · split
    · rfl
    · rfl

/-- A control sequence ends with its first final byte. -/
theorem endOfControlSequence_final {before : Bytes} {final : UInt8}
    (inside : ∀ byte ∈ before, isCsiFinal byte = false) (ends : isCsiFinal final = true)
    (rest : Bytes) : endOfControlSequence (before ++ final :: rest) = rest := by
  have passed : ∀ byte ∈ before, (!isCsiFinal byte) = true :=
    fun byte listed => Bool.not_eq_true' _ |>.mpr (inside byte listed)
  rw [endOfControlSequence, List.dropWhile_append_of_pos passed]
  simp [ends]

/-- A string that does not end before its end ends there. -/
theorem endOfStringSequence_terminated {bellEnds : Bool} {payload ends : Bytes}
    (whole : Unterminated bellEnds payload)
    (terminates : ends = [escape, backslash] ∨ bellEnds = true ∧ ends = [bell]) (rest : Bytes) :
    endOfStringSequence bellEnds (payload ++ ends ++ rest) = rest := by
  induction payload with
  | nil =>
      rcases terminates with rfl | ⟨rfl, rfl⟩
      · simp [endOfStringSequence, show escape ≠ bell by decide]
      · simp [endOfStringSequence]
  | cons byte payload ih =>
      have later : Unterminated bellEnds payload :=
        ⟨fun bells listed => whole.noBell bells (List.mem_cons_of_mem _ listed),
          fun inside => whole.noEscape (List.infix_cons inside)⟩
      have ringless : ¬(bellEnds = true ∧ byte = bell) := by
        rintro ⟨bells, rfl⟩
        exact whole.noBell bells List.mem_cons_self
      have goes : ¬(byte = escape ∧ (payload ++ ends ++ rest).head? = some backslash) := by
        rintro ⟨rfl, next⟩
        cases payload with
        | nil => rcases terminates with rfl | ⟨_, rfl⟩ <;> cases next
        | cons after payload =>
            obtain rfl : after = backslash := Option.some.inj next
            exact whole.noEscape (List.prefix_append [escape, backslash] payload).isInfix
      rw [List.cons_append, List.cons_append, endOfStringSequence, if_neg ringless, if_neg goes,
        ih later]

/-- An escape takes the byte behind it along, if that introduces nothing. -/
theorem printJobAsText_single {kind : UInt8} (single : ¬Introducer kind) (rest : Bytes) :
    printJobAsText (escape :: kind :: rest) = printJobAsText rest := by
  simp only [Introducer, not_or] at single
  obtain ⟨bracket, command, device, start, privacy, application⟩ := single
  rw [printJobAsText_escape, if_neg bracket, if_neg command,
    if_neg (by simp only [not_or]; exact ⟨device, start, privacy, application⟩)]

/-- Of one item what is left is settled by it alone. -/
theorem printJobAsText_item (item : Item) (rest : Bytes) :
    printJobAsText (item.write ++ rest) = Item.left item ++ printJobAsText rest := by
  cases item with
  | text char printable => exact printJobAsText_graphics (graphic_of_printable printable) rest
  | control byte controls plain => exact printJobAsText_control controls plain rest
  | controlSequence parameters intermediates final parameters_ok intermediates_ok ends =>
      have inside : ∀ byte ∈ parameters ++ intermediates, isCsiFinal byte = false := by
        intro byte listed
        have small : byte < 0x40 := by
          rcases List.mem_append.mp listed with listed | listed
          · exact UInt8.lt_of_le_of_lt (parameters_ok byte listed).2 (by decide)
          · exact UInt8.lt_of_le_of_lt (intermediates_ok byte listed).2 (by decide)
        exact decide_eq_false fun final => UInt8.not_lt.mpr final.1 small
      have passed := endOfControlSequence_final inside (decide_eq_true ends) rest
      change printJobAsText (escape :: 0x5B :: (parameters ++ intermediates ++ [final] ++ rest)) = _
      rw [printJobAsText_escape, if_pos rfl, List.append_assoc, List.singleton_append, passed]
      rfl
  | command payload belled whole =>
      cases belled with
      | false =>
          have passed := endOfStringSequence_terminated whole (.inl rfl) rest
          change printJobAsText
            (escape :: 0x5D :: (payload ++ [escape, backslash] ++ rest)) = _
          rw [printJobAsText_escape, if_neg (by decide), if_pos rfl, passed]
          rfl
      | true =>
          have passed := endOfStringSequence_terminated whole (.inr ⟨rfl, rfl⟩) rest
          change printJobAsText (escape :: 0x5D :: (payload ++ [bell] ++ rest)) = _
          rw [printJobAsText_escape, if_neg (by decide), if_pos rfl, passed]
          rfl
  | string kind payload whole =>
      have passed := endOfStringSequence_terminated whole (.inl rfl) rest
      change printJobAsText
        (escape :: kind.introducer :: (payload ++ [escape, backslash] ++ rest)) = _
      rw [printJobAsText_escape, passed]
      cases kind <;> rfl
  | escape intermediates final intermediates_ok ends other =>
      cases intermediates with
      | nil =>
          exact printJobAsText_single (other rfl) rest
      | cons first others =>
          obtain ⟨first_ok, others_ok⟩ := List.forall_mem_cons.mp intermediates_ok
          have graphic : ∀ byte ∈ others ++ [final], Graphic byte := by
            intro byte listed
            rcases List.mem_append.mp listed with listed | listed
            · exact (others_ok byte listed).graphic
            · obtain rfl := List.mem_singleton.mp listed
              refine ⟨UInt8.le_trans (by decide) ends.1, fun deleted => ?_⟩
              subst deleted
              exact absurd ends.2 (by decide)
          have kept := printJobAsText_graphics graphic rest
          exact (printJobAsText_single first_ok.not_introducer _).trans kept

/-- Of items what is left is what is left of each. -/
theorem printJobAsText_writeItems (items : List Item) :
    printJobAsText (writeItems items) = items.flatMap Item.left := by
  induction items with
  | nil => rw [writeItems, List.flatMap_nil, List.flatMap_nil, printJobAsText]
  | cons item items ih =>
      rw [writeItems, List.flatMap_cons, List.flatMap_cons, printJobAsText_item, ← ih]
      rfl

/-- Whatever a job is, its text has no control in it but the ends of lines and tabs. -/
theorem printJobAsText_controls (job : Bytes) :
    ∀ byte ∈ printJobAsText job, Graphic byte ∨ byte = 0x0A ∨ byte = 0x09 := by
  fun_induction printJobAsText job with
  | case1 => exact fun _ listed => by cases listed
  | case2 => exact fun _ listed => by cases listed
  | case3 after ih => exact ih
  | case4 after _ ih => exact ih
  | case5 kind after _ _ _ ih => exact ih
  | case6 kind after _ _ _ ih => exact ih
  | case7 byte rest _ kept ih => exact List.forall_mem_cons.mpr ⟨.inr kept, ih⟩
  | case8 rest _ _ ih => exact List.forall_mem_cons.mpr ⟨.inr (.inl rfl), ih⟩
  | case9 rest _ _ _ ih => exact ih
  | case10 byte rest _ _ _ _ _ ih => exact ih
  | case11 byte rest _ _ _ _ graphic ih =>
      rw [not_or, UInt8.not_lt] at graphic
      exact List.forall_mem_cons.mpr ⟨.inl graphic, ih⟩

/-! ### When a stream is printed as its text -/

/-- A stream is printed as its text, and without a control but for the ends of lines and tabs. -/
def Strips (items : List Item) : Prop :=
  printJobAsText (writeItems items) = items.flatMap Item.asText ∧
    ∀ byte ∈ printJobAsText (writeItems items), Graphic byte ∨ byte = 0x0A ∨ byte = 0x09

/-- No less is left than should be. -/
theorem Item.asText_length_le (items : List Item) :
    (items.flatMap Item.asText).length ≤ (items.flatMap Item.left).length := by
  induction items with
  | nil => exact le_refl 0
  | cons item items ih =>
      have first : (Item.asText item).length ≤ (Item.left item).length := by
        by_cases short : Item.Short item
        · rw [(Item.left_eq_iff item).mpr short]
        · cases item with
          | escape => exact Nat.zero_le _
          | _ => exact absurd trivial short
      simp only [List.flatMap_cons, List.length_append]
      omega

/-- What should be left is, exactly if every item is short. -/
theorem Item.left_eq_asText_iff (items : List Item) :
    items.flatMap Item.left = items.flatMap Item.asText ↔ ∀ item ∈ items, Item.Short item := by
  induction items with
  | nil => exact iff_of_true rfl fun _ listed => by cases listed
  | cons item items ih =>
      rw [List.forall_mem_cons, ← ih, List.flatMap_cons, List.flatMap_cons]
      constructor
      · intro same
        have short : Item.Short item := by
          by_contra long
          have fewer := Item.asText_length_le items
          have lengths := congrArg List.length same
          cases item with
          | escape intermediates final =>
              simp only [Item.left, Item.asText, List.length_append, List.length_tail,
                List.length_nil, List.length_singleton] at lengths
              exact long (List.length_eq_zero_iff.mp (by omega))
          | _ => exact long trivial
        rw [(Item.left_eq_iff item).mpr short] at same
        exact ⟨short, List.append_cancel_left same⟩
      · rintro ⟨short, same⟩
        rw [(Item.left_eq_iff item).mpr short, same]

/-- A stream is printed as its text exactly where no escape sequence in it has an intermediate
byte: of one that has, all behind the first of them is left in the text. -/
theorem strips_iff (items : List Item) : Strips items ↔ ∀ item ∈ items, Item.Short item := by
  rw [Strips, printJobAsText_writeItems, Item.left_eq_asText_iff, ← printJobAsText_writeItems]
  exact and_iff_left (printJobAsText_controls _)

/-- A character set selected is left as the letter that names it. -/
theorem strips_not_charset : ¬∀ items, Strips items := by
  intro strips
  have selects : ∀ byte ∈ [(0x28 : UInt8)], Grammar.Intermediate byte :=
    List.forall_mem_singleton.mpr (by decide)
  have charset := (strips [.escape [0x28] 0x42 selects (by decide) fun none => by cases none]).1
  rw [printJobAsText_writeItems] at charset
  cases charset

/-! ### What a job keeps -/

/-- What a string leaves is the end of what there was. -/
theorem endOfStringSequence_suffix (bellEnds : Bool) (job : Bytes) :
    endOfStringSequence bellEnds job <:+ job := by
  induction job with
  | nil => exact List.suffix_rfl
  | cons byte rest ih =>
      rw [endOfStringSequence]
      split
      · exact List.suffix_cons byte rest
      · split
        · exact (List.tail_suffix rest).trans (List.suffix_cons byte rest)
        · exact ih.trans (List.suffix_cons byte rest)

/-- What a control sequence leaves is the end of what there was. -/
theorem endOfControlSequence_suffix (job : Bytes) : endOfControlSequence job <:+ job :=
  (List.drop_suffix 1 _).trans (List.dropWhile_suffix _)

/-- A page break is kept as the end of a line. -/
def pageBroken (byte : UInt8) : UInt8 := if byte = 0x0C then 0x0A else byte

/-- Nothing is put into a job's text, and nothing changes places. -/
theorem printJobAsText_sublist (job : Bytes) :
    (printJobAsText job).Sublist (job.map pageBroken) := by
  have behind {byte kind : UInt8} {after left : Bytes} (less : left <:+ after)
      (ih : (printJobAsText left).Sublist (left.map pageBroken)) :
      (printJobAsText left).Sublist ((byte :: kind :: after).map pageBroken) := by
    refine ih.trans (List.Sublist.map _ ?_)
    exact (less.sublist.cons kind).cons byte
  fun_induction printJobAsText job with
  | case1 => exact List.Sublist.refl _
  | case2 => exact List.nil_sublist _
  | case3 after ih => exact behind (endOfControlSequence_suffix after) ih
  | case4 after _ ih => exact behind (endOfStringSequence_suffix true after) ih
  | case5 kind after _ _ _ ih => exact behind (endOfStringSequence_suffix false after) ih
  | case6 kind after _ _ _ ih => exact behind List.suffix_rfl ih
  | case7 byte rest _ kept ih =>
      have same : pageBroken byte = byte := by
        rcases kept with rfl | rfl <;> rfl
      rw [List.map_cons, same]
      exact ih.cons_cons byte
  | case8 rest _ _ ih => exact ih.cons_cons 0x0A
  | case9 rest _ _ _ ih => exact ih.cons _
  | case10 byte rest _ _ _ _ _ ih => exact ih.cons _
  | case11 byte rest _ _ other _ _ ih =>
      have same : pageBroken byte = byte := if_neg other
      rw [List.map_cons, same]
      exact ih.cons_cons byte

/-- Text without controls stays as it is. -/
theorem printJobAsText_of_text {job : Bytes}
    (text : ∀ byte ∈ job, Graphic byte ∨ byte = 0x0A ∨ byte = 0x09) : printJobAsText job = job := by
  induction job with
  | nil => rw [printJobAsText]
  | cons byte rest ih =>
      rw [List.forall_mem_cons] at text
      have plain : byte ≠ escape := by
        rintro rfl
        exact absurd text.1 (by decide)
      rw [printJobAsText_plain plain, ih text.2]
      rcases text.1 with ⟨drawn, kept⟩ | line
      · have large : ¬(byte < 0x20 ∨ byte = 0x7F) := not_or.mpr ⟨UInt8.not_lt.mpr drawn, kept⟩
        have apart (control : UInt8) (low : control < 0x20) : byte ≠ control := by
          rintro rfl
          exact large (.inl low)
        simp [large, apart 0x0C (by decide), apart 0x0D (by decide)]
      · simp [line]

/-- The text of a job has of it what it has, in its order, with page breaks as ends of lines; it is
the whole job exactly if that is text already, and so its own text. -/
theorem printJobAsText_keeps (job : Bytes) :
    (printJobAsText job).Sublist (job.map pageBroken) ∧
      (printJobAsText job = job ↔ ∀ byte ∈ job, Graphic byte ∨ byte = 0x0A ∨ byte = 0x09) ∧
      printJobAsText (printJobAsText job) = printJobAsText job := by
  refine ⟨printJobAsText_sublist job, ⟨fun same => ?_, printJobAsText_of_text⟩,
    printJobAsText_of_text (printJobAsText_controls job)⟩
  rw [← same]
  exact printJobAsText_controls job

end Ckmux
