import Mathlib
import Ckmux.Grammar.Text

/-!
# A line of the configuration

A line is a section header, an assignment, a directive, or nothing to read. A `#` begins a
comment; written `\#` it is a character of the value, and this is the only escape there is. The
loader and the writer of settings both go by what is said here.
-/

namespace Ckmux

namespace Config

open Grammar (Bytes OneLine isSpace trim)

/-- Where a comment begins. -/
def findComment : Bytes → Option Nat
  | [] => none
  | 0x5C :: 0x23 :: rest => (findComment rest).map (· + 2)
  | 0x23 :: _ => some 0
  | _ :: rest => (findComment rest).map (· + 1)

/-- A hash behind a backslash is a hash. -/
def unescape : Bytes → Bytes
  | [] => []
  | 0x5C :: 0x23 :: rest => 0x23 :: unescape rest
  | byte :: rest => byte :: unescape rest

/-- A hash is written behind a backslash. -/
def escape (value : Bytes) : Bytes :=
  value.flatMap fun byte => if byte = 0x23 then [0x5C, 0x23] else [byte]

/-- What a line is, read by the loader and by the writer alike. -/
inductive ParsedLine where
  | blank
  | comment
  | header (name : Bytes)
  | assignment (key value trailingComment : Bytes)
  | directive (text : Bytes)
  | malformed
deriving DecidableEq

/-- The words of a directive, each without its escapes. -/
def splitWords (text : Bytes) : List Bytes :=
  ((text.splitOnP fun byte => byte = 0x20 ∨ byte = 0x09).filter (· ≠ [])).map unescape

/-- The blanks before a comment, in bytes. -/
theorem utf8_blanks : utf8 "  " = [0x20, 0x20] := rfl

/-- The sign of an assignment, in bytes. -/
theorem utf8_equals : utf8 " = " = [0x20, 0x3D, 0x20] := rfl

/-- Whether a line begins with a word and a blank. -/
def startsWithWord (body word : Bytes) : Bool :=
  (word ++ [0x20]).isPrefixOf body || (word ++ [0x09]).isPrefixOf body

/-- What is in front of a comment, and the comment. -/
def splitComment (text : Bytes) : Bytes × Bytes :=
  match findComment text with
  | some hash => (text.take hash, text.drop hash)
  | none => (text, [])

/-- What a line is, by its first characters and the sign in it. -/
def parseLine (line : Bytes) : ParsedLine :=
  let body := trim line
  match body.head? with
  | none => .blank
  | some first =>
      if first = 0x23 then .comment
      else if startsWithWord body (utf8 "bind") || startsWithWord body (utf8 "unbind") then
        .directive (trim (splitComment body).1)
      else if first = 0x5B then
        match body.idxOf? 0x5D with
        | none => .malformed
        | some close => .header (trim ((body.take close).drop 1))
      else
        match body.idxOf? 0x3D with
        | none => .malformed
        | some equals =>
            let value := splitComment (body.drop (equals + 1))
            .assignment (trim (body.take equals)) (trim value.1) (trim value.2)

/-! ### Escapes -/

/-- Each byte is escaped by itself. -/
theorem escape_cons (byte : UInt8) (value : Bytes) :
    escape (byte :: value) = (if byte = 0x23 then [0x5C, 0x23] else [byte]) ++ escape value :=
  List.flatMap_cons

/-- A value is never written with a `#` in front. -/
theorem escape_head (value : Bytes) : (escape value).head? ≠ some 0x23 := by
  cases value with
  | nil => simp [escape]
  | cons byte value =>
      rw [escape_cons]
      split
      · simp
      · simpa

/-- What a `#` is not behind, is as it was. -/
theorem unescape_cons {byte : UInt8} {rest : Bytes}
    (apart : byte ≠ 0x5C ∨ rest.head? ≠ some 0x23) :
    unescape (byte :: rest) = byte :: unescape rest := by
  rw [unescape.eq_3]
  rintro other rfl rfl
  simp at apart

/-- What is written with its escapes is read as it was. -/
theorem unescape_escape (value : Bytes) : unescape (escape value) = value := by
  induction value with
  | nil => rfl
  | cons byte value ih =>
      rw [escape_cons]
      split
      · rename_i hash
        rw [hash, List.cons_append, List.cons_append, List.nil_append, unescape, ih]
      · rw [List.singleton_append, unescape_cons (.inr (escape_head value)), ih]

/-- A byte that begins no comment puts it one further back. -/
theorem findComment_cons {byte : UInt8} {rest : Bytes} (other : byte ≠ 0x23)
    (apart : byte ≠ 0x5C ∨ rest.head? ≠ some 0x23) :
    findComment (byte :: rest) = (findComment rest).map (· + 1) := by
  rw [findComment.eq_4]
  · rintro more rfl rfl
    simp at apart
  · exact other

/-- No comment begins in what is written with its escapes. -/
theorem findComment_escape (value : Bytes) {rest : Bytes} (apart : rest.head? ≠ some 0x23) :
    findComment (escape value ++ rest) = (findComment rest).map (· + (escape value).length) := by
  induction value with
  | nil => simp [escape]
  | cons byte value ih =>
      rw [escape_cons]
      split
      · rw [List.append_assoc, List.cons_append, List.cons_append, List.nil_append, findComment, ih,
          Option.map_map]
        rfl
      · rename_i other
        have behind : (escape value ++ rest).head? ≠ some 0x23 := by
          rw [List.head?_append]
          cases written : (escape value).head? with
          | none => simpa [written] using apart
          | some first =>
              have := escape_head value
              rwa [written] at this
        rw [List.append_assoc, List.singleton_append, findComment_cons other (.inr behind), ih,
          Option.map_map]
        rfl

/-! ### Lines that are written -/

/-- A key that an assignment can be written with. -/
structure PlainKey (key : Bytes) : Prop where
  filled : key ≠ []
  solid : ∀ byte ∈ key, isSpace byte = false
  apart : 0x23 ∉ key ∧ 0x3D ∉ key ∧ 0x5B ∉ key ∧ 0x0A ∉ key
  word : key ≠ utf8 "bind" ∧ key ≠ utf8 "unbind"

/-- A name that a section header can be written with. -/
structure PlainName (name : Bytes) : Prop where
  trimmed : trim name = name
  apart : 0x5D ∉ name ∧ 0x0A ∉ name

/-- A comment behind a value, from its `#` on. -/
structure Comment (text : Bytes) : Prop where
  hash : text.head? = some 0x23
  trimmed : trim text = text

/-- A section's header as it is written. -/
def headerText (name : Bytes) : Bytes := [0x5B] ++ name ++ [0x5D]

/-- An assignment as it is written. -/
def assignmentText (key value : Bytes) : Bytes := key ++ utf8 " = " ++ escape value

/-- A trailing comment stands two spaces behind what it is about. -/
def withComment (text trailingComment : Bytes) : Bytes :=
  if trailingComment = [] then text else text ++ utf8 "  " ++ trailingComment

section

variable {key value name text : Bytes}

/-- Blanks behind a text are trimmed. -/
theorem trim_append_blanks {blanks : Bytes} (all : ∀ byte ∈ blanks, isSpace byte = true) :
    trim (text ++ blanks) = trim text := by
  have dropped (front : Bytes) : (front ++ blanks).rdropWhile isSpace = front.rdropWhile isSpace := by
    induction blanks using List.reverseRecOn with
    | nil => rw [List.append_nil]
    | append_singleton blanks final ih =>
        rw [List.forall_mem_append] at all
        rw [← List.append_assoc, List.rdropWhile_concat_pos _ _ _ (all.2 final (by simp)), ih all.1]
  rw [trim, trim, List.dropWhile_append]
  split
  · rename_i none_left
    rw [List.isEmpty_iff] at none_left
    have all_dropped : blanks.dropWhile isSpace = [] := List.dropWhile_eq_nil_iff.mpr all
    rw [none_left, all_dropped]
  · exact dropped _

/-- A value that is trimmed is so when it is escaped. -/
theorem trim_escape (trimmed : trim value = value) : trim (escape value) = escape value := by
  apply Grammar.trim_of_ends
  · intro byte first
    cases value with
    | nil => cases first
    | cons other rest =>
        have solid := Grammar.head_of_trimmed trimmed (List.head?_cons ..)
        rw [escape_cons] at first
        split at first
        · obtain rfl := Option.some.inj first
          rfl
        · obtain rfl := Option.some.inj first
          exact solid
  · intro byte last
    induction value using List.reverseRecOn with
    | nil => cases last
    | append_singleton rest final _ =>
        have solid := Grammar.getLast_of_trimmed trimmed (List.getLast?_concat ..)
        rw [escape, List.flatMap_append, List.flatMap_singleton] at last
        split at last
        · rename_i hash
          rw [List.getLast?_append_cons, List.getLast?_cons_cons, List.getLast?_singleton] at last
          obtain rfl := Option.some.inj last
          rfl
        · rw [List.getLast?_concat] at last
          obtain rfl := Option.some.inj last
          exact solid

/-- There is no blank in the word that binds. -/
theorem solid_bind : ∀ byte ∈ utf8 "bind", isSpace byte = false := by decide +kernel

/-- There is no blank in the word that unbinds. -/
theorem solid_unbind : ∀ byte ∈ utf8 "unbind", isSpace byte = false := by decide +kernel

/-- A key that is another word does not begin as that word. -/
theorem startsWithWord_key (plain : PlainKey key) {word rest : Bytes} (other : key ≠ word)
    (solid : ∀ byte ∈ word, isSpace byte = false) :
    startsWithWord (key ++ 0x20 :: rest) word = false := by
  have first (text : Bytes) (text_solid : ∀ byte ∈ text, isSpace byte = false) (blank : UInt8)
      (is_blank : isSpace blank = true) (more : Bytes) :
      (text ++ blank :: more).takeWhile (fun byte => !isSpace byte) = text := by
    rw [List.takeWhile_append_of_pos (by simpa using text_solid)]
    simp [is_blank]
  have no_prefix (blank : UInt8) (is_blank : isSpace blank = true) :
      (word ++ [blank]).isPrefixOf (key ++ 0x20 :: rest) = false := by
    rw [Bool.eq_false_iff]
    intro begins
    obtain ⟨more, same⟩ := List.isPrefixOf_iff_prefix.mp begins
    rw [List.append_assoc, List.singleton_append] at same
    have words := congrArg (List.takeWhile fun byte => !isSpace byte) same
    rw [first word solid blank is_blank, first key plain.solid 0x20 rfl] at words
    exact other words.symm
  rw [startsWithWord, no_prefix 0x20 rfl, no_prefix 0x09 rfl]
  rfl

/-- A byte that is not in the front is first found behind it. -/
theorem idxOf?_append_cons {byte : UInt8} {front : Bytes} (absent : byte ∉ front) (rest : Bytes) :
    (front ++ byte :: rest).idxOf? byte = some front.length := by
  induction front with
  | nil => simp [List.idxOf?_cons]
  | cons other front ih =>
      rw [List.mem_cons, not_or] at absent
      rw [List.cons_append, List.idxOf?_cons, if_neg (by simpa using Ne.symm absent.1), ih absent.2]
      rfl

/-- The value of an assignment is what was written, and its comment stands behind it. -/
theorem splitComment_value (trimmed : trim value = value) {comment : Bytes}
    (comments : comment = [] ∨ Comment comment) :
    let split := splitComment ((withComment (0x20 :: escape value) comment).rdropWhile isSpace)
    trim split.1 = escape value ∧ trim split.2 = comment := by
  have trimmed_escape := trim_escape trimmed
  rcases comments with rfl | comments
  · cases last : (escape value).getLast? with
    | none =>
        rw [List.getLast?_eq_none_iff] at last
        rw [last]
        exact ⟨rfl, rfl⟩
    | some byte =>
        have kept : (0x20 :: escape value).rdropWhile isSpace = 0x20 :: escape value := by
          refine Grammar.rdropWhile_of_getLast ?_ (Grammar.getLast_of_trimmed trimmed_escape last)
          rw [List.getLast?_cons, last]
          rfl
        have none_found : findComment (0x20 :: escape value) = none := by
          have found := findComment_escape value (show ([] : Bytes).head? ≠ some 0x23 by simp)
          rw [List.append_nil] at found
          rw [findComment_cons (by decide) (.inl (by decide)), found]
          rfl
        intro split
        simp only [split, withComment, if_true, kept, splitComment, none_found]
        exact ⟨(Grammar.trim_blank_cons rfl _).trans trimmed_escape, rfl⟩
  · have filled : comment ≠ [] := by
      rintro rfl
      cases comments.hash
    have written : withComment (0x20 :: escape value) comment =
        (0x20 :: (escape value ++ [0x20, 0x20])) ++ comment := by
      rw [withComment, if_neg filled]
      simp [utf8_blanks]
    have kept : (withComment (0x20 :: escape value) comment).rdropWhile isSpace =
        (0x20 :: (escape value ++ [0x20, 0x20])) ++ comment := by
      rw [written]
      have last := List.getLast?_eq_some_getLast filled
      refine Grammar.rdropWhile_of_getLast ?_ (Grammar.getLast_of_trimmed comments.trimmed last)
      rw [List.getLast?_append, last]
      rfl
    have found : findComment ((0x20 :: (escape value ++ [0x20, 0x20])) ++ comment) =
        some (0x20 :: (escape value ++ [0x20, 0x20])).length := by
      have begins : findComment comment = some 0 := by
        cases comment with
        | nil => exact absurd rfl filled
        | cons byte rest =>
            obtain rfl := Option.some.inj comments.hash
            rw [findComment]
      have behind : findComment (escape value ++ (0x20 :: 0x20 :: comment)) =
          some (2 + (escape value).length) := by
        rw [findComment_escape value (by simp), findComment_cons (by decide) (.inl (by decide)),
          findComment_cons (by decide) (.inl (by decide)), begins]
        rfl
      have shape : (0x20 :: (escape value ++ [0x20, 0x20])) ++ comment =
          0x20 :: (escape value ++ (0x20 :: 0x20 :: comment)) := by simp
      rw [shape, findComment_cons (by decide) (.inl (by decide)), behind]
      simp only [Option.map_some, List.length_cons, List.length_append, List.length_nil]
      congr 1
      omega
    intro split
    simp only [split, kept, splitComment, found, List.take_left, List.drop_left]
    refine ⟨?_, comments.trimmed⟩
    rw [Grammar.trim_blank_cons rfl, trim_append_blanks (by simp [isSpace]), trimmed_escape]

/-- An assignment that is written is read as one. -/
theorem parseLine_assignment (plain : PlainKey key) (trimmed : trim value = value)
    {comment : Bytes} (comments : comment = [] ∨ Comment comment) :
    parseLine (withComment (assignmentText key value) comment) =
      .assignment key (escape value) comment := by
  obtain ⟨first, begins⟩ : ∃ first, key.head? = some first :=
    ⟨_, List.head?_eq_some_head plain.filled⟩
  have first_in : first ∈ key := List.mem_of_head? begins
  have written : withComment (assignmentText key value) comment =
      (key ++ [0x20, 0x3D]) ++ withComment (0x20 :: escape value) comment := by
    rw [withComment, withComment, assignmentText]
    split <;> simp [utf8_equals]
  have body : trim (withComment (assignmentText key value) comment) =
      (key ++ [0x20, 0x3D]) ++ (withComment (0x20 :: escape value) comment).rdropWhile isSpace := by
    have front_first : ((key ++ [0x20, 0x3D]) ++
        withComment (0x20 :: escape value) comment).head? = some first := by
      rw [List.append_assoc, List.head?_append, begins]
      rfl
    have front_last : (key ++ [0x20, 0x3D]).getLast? = some 0x3D := by
      rw [List.getLast?_append]
      rfl
    rw [written, Grammar.trim_of_head front_first (plain.solid first first_in),
      Grammar.rdropWhile_append front_last rfl]
  have value_split := splitComment_value trimmed comments
  dsimp only at value_split
  generalize (withComment (0x20 :: escape value) comment).rdropWhile isSpace = rest at body value_split
  have shape : key ++ [0x20, 0x3D] ++ rest = (key ++ [0x20]) ++ 0x3D :: rest := by simp
  have equals : ((key ++ [0x20]) ++ 0x3D :: rest).idxOf? 0x3D = some (key ++ [0x20]).length := by
    apply idxOf?_append_cons
    simpa using plain.apart.2.1
  have begins_body : ((key ++ [0x20]) ++ 0x3D :: rest).head? = some first := by
    rw [List.append_assoc, List.head?_append, begins]
    rfl
  have no_word (word : Bytes) (other : key ≠ word) (solid : ∀ byte ∈ word, isSpace byte = false) :
      startsWithWord ((key ++ [0x20]) ++ 0x3D :: rest) word = false := by
    rw [List.append_assoc]
    exact startsWithWord_key plain other solid
  have trimmed_key : trim (key ++ [0x20]) = key := by
    rw [trim_append_blanks (by simp [isSpace])]
    apply Grammar.trim_of_ends
    · exact fun byte front => plain.solid byte (List.mem_of_head? front)
    · exact fun byte final => plain.solid byte (List.mem_of_getLast? final)
  have no_hash : first ≠ 0x23 := fun same => plain.apart.1 (same ▸ first_in)
  have no_bracket : first ≠ 0x5B := fun same => plain.apart.2.2.1 (same ▸ first_in)
  have behind : ((key ++ [0x20]) ++ 0x3D :: rest).drop ((key ++ [0x20]).length + 1) = rest := by
    rw [← List.drop_drop, List.drop_left]
    rfl
  rw [parseLine, body, shape]
  simp only [begins_body, no_word _ plain.word.1 solid_bind, no_word _ plain.word.2 solid_unbind,
    equals, if_neg no_hash, if_neg no_bracket, Bool.or_false, Bool.false_eq_true, if_false,
    List.take_left, behind, trimmed_key, value_split]

/-- A header that is written is read as one. -/
theorem parseLine_header (plain : PlainName name) : parseLine (headerText name) = .header name := by
  have body : trim (headerText name) = [0x5B] ++ name ++ [0x5D] := by
    apply Grammar.trim_of_ends
    · intro byte first
      obtain rfl := Option.some.inj first
      rfl
    · intro byte last
      rw [headerText, List.getLast?_concat] at last
      obtain rfl := Option.some.inj last
      rfl
  have closes : ([0x5B] ++ name ++ [0x5D]).idxOf? 0x5D = some ([0x5B] ++ name).length := by
    apply idxOf?_append_cons
    simpa using plain.apart.1
  have first : ([0x5B] ++ name ++ [0x5D]).head? = some 0x5B := rfl
  have no_bind : startsWithWord ([0x5B] ++ name ++ [0x5D]) (utf8 "bind") = false := rfl
  have no_unbind : startsWithWord ([0x5B] ++ name ++ [0x5D]) (utf8 "unbind") = false := rfl
  simp only [parseLine, body, first, no_bind, no_unbind, closes, List.take_left]
  simp [plain.trimmed]

/-- A comment begins with its `#`. -/
theorem findComment_begins {text : Bytes} {hash : Nat} (found : findComment text = some hash) :
    (text.drop hash).head? = some 0x23 := by
  fun_induction findComment text generalizing hash with
  | case1 => cases found
  | case2 rest ih =>
      obtain ⟨behind, behind_eq, rfl⟩ := Option.map_eq_some_iff.mp found
      exact ih behind_eq
  | case3 rest =>
      obtain rfl := Option.some.inj found
      rfl
  | case4 byte rest _ _ ih =>
      obtain ⟨behind, behind_eq, rfl⟩ := Option.map_eq_some_iff.mp found
      exact ih behind_eq

/-- What is split off is nothing or a comment. -/
theorem splitComment_comment (text : Bytes) :
    trim (splitComment text).2 = [] ∨ Comment (trim (splitComment text).2) := by
  rw [splitComment]
  split
  · rename_i hash found
    have begins := findComment_begins found
    refine .inr ⟨?_, Grammar.trim_trim _⟩
    have solid : isSpace 0x23 = false := rfl
    cases comment : text.drop hash with
    | nil => rw [comment] at begins; cases begins
    | cons byte rest =>
        rw [comment] at begins
        obtain rfl := Option.some.inj begins
        rw [Grammar.trim_of_head (List.head?_cons ..) solid, ← List.singleton_append,
          Grammar.rdropWhile_append (List.getLast?_singleton ..) solid]
        rfl
  · exact .inl rfl

/-- What is left of a text was in it. -/
theorem mem_trim {byte : UInt8} (listed : byte ∈ trim text) : byte ∈ text :=
  (List.dropWhile_suffix isSpace).subset ((List.rdropWhile_prefix isSpace _).subset listed)

/-- What is kept of a line when its value is written again is on one line, too. -/
theorem parseLine_comment {line comment : Bytes}
    (parsed : parseLine line = .assignment key value comment) :
    (comment = [] ∨ Comment comment) ∧ (OneLine line → OneLine comment) := by
  rw [parseLine] at parsed
  split at parsed
  · cases parsed
  split at parsed
  · cases parsed
  split at parsed
  · cases parsed
  split at parsed
  · split at parsed <;> cases parsed
  split at parsed
  · cases parsed
  · obtain ⟨_, _, rfl⟩ := ParsedLine.assignment.inj parsed
    refine ⟨splitComment_comment _, fun single listed => single ?_⟩
    have listed := mem_trim listed
    rw [splitComment] at listed
    split at listed
    · exact mem_trim (List.mem_of_mem_drop (List.mem_of_mem_drop listed))
    · cases listed

/-- Escaping breaks no line. -/
theorem oneLine_escape (single : OneLine value) : OneLine (escape value) := by
  intro listed
  obtain ⟨byte, byte_in, written⟩ := List.mem_flatMap.mp listed
  split at written
  · simp at written
  · obtain rfl := List.mem_singleton.mp written
    exact single byte_in

/-- Two texts without a line break have none together. -/
theorem oneLine_append {front rest : Bytes} (first : OneLine front) (second : OneLine rest) :
    OneLine (front ++ rest) := fun listed =>
  (List.mem_append.mp listed).elim first second

/-- An assignment is written on one line. -/
theorem oneLine_written (plain : PlainKey key) (single : OneLine value) {comment : Bytes}
    (comment_single : OneLine comment) :
    OneLine (withComment (assignmentText key value) comment) := by
  have written : OneLine (assignmentText key value) := by
    refine oneLine_append (oneLine_append plain.apart.2.2.2 ?_) (oneLine_escape single)
    rw [utf8_equals]
    simp [OneLine]
  rw [withComment]
  split
  · exact written
  · refine oneLine_append (oneLine_append written ?_) comment_single
    rw [utf8_blanks]
    simp [OneLine]

end

end Config

end Ckmux
