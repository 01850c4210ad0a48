import Mathlib
import Ckmux.Server.Partition

/-!
# The names of sessions

No two sessions go by the same name: a name that is asked for is looked for first, and one that
is chosen has a number past all that are taken. The number is kept in a signed word of 64 bits,
so a name is well chosen as long as the largest number taken is not the largest there is.
-/

namespace Ckmux

open Grammar (Bytes)
open Proto (Message)
open Semantics (System)

/-! ### Numbers written out -/

/-- A digit is one byte. -/
theorem digit_byte {digit : Char} (is : digit.isDigit = true) :
    String.utf8EncodeChar digit = [digit.val.toUInt8] ∧ digit.val.toUInt8.toNat = digit.toNat ∧
      48 ≤ digit.toNat ∧ digit.toNat ≤ 57 := by
  simp only [Char.isDigit, Bool.and_eq_true, decide_eq_true_eq] at is
  have low : 48 ≤ digit.toNat := UInt32.le_iff_toNat_le.mp is.1
  have high : digit.toNat ≤ 57 := UInt32.le_iff_toNat_le.mp is.2
  have one : digit.utf8Size = 1 := by
    rw [Char.utf8Size, if_pos]
    exact UInt32.le_trans is.2 (by decide)
  refine ⟨String.utf8EncodeChar_eq_singleton one, ?_, low, high⟩
  rw [UInt32.toNat_toUInt8]
  exact Nat.mod_eq_of_lt (Nat.lt_of_le_of_lt high (by decide))

/-- A number is written with its decimal digits, one byte each. -/
theorem utf8_number (number : Nat) :
    utf8 (toString number) = (Nat.toDigits 10 number).map fun digit => digit.val.toUInt8 := by
  have spelled : ∀ digits : List Char, (∀ digit ∈ digits, digit.isDigit = true) →
      digits.utf8Encode.data.toList = digits.map fun digit => digit.val.toUInt8 := by
    intro digits all
    have each : digits.flatMap String.utf8EncodeChar = digits.map fun digit => digit.val.toUInt8 := by
      rw [← List.flatMap_singleton' (digits.map _), List.flatMap_map]
      exact List.flatMap_congr fun digit among => (digit_byte (all digit among)).1
    rw [List.utf8Encode, each]
    simp
  have bytes : (String.ofList (Nat.toDigits 10 number)).toUTF8 =
      (Nat.toDigits 10 number).utf8Encode := by simp
  rw [Nat.toString_eq_ofList_toDigits, utf8, bytes]
  exact spelled _ fun digit among => Nat.isDigit_of_mem_toDigits (by decide) (by decide) among

/-- A number written out is a session's name's number. -/
theorem sessionNumber_spelled {number : Nat} (small : number < 2 ^ 63) :
    sessionNumber (utf8 "session-" ++ utf8 (toString number)) = some number := by
  have digits : ∀ digit ∈ Nat.toDigits 10 number, digit.isDigit = true := fun digit among =>
    Nat.isDigit_of_mem_toDigits (by decide) (by decide) among
  have value : (utf8 (toString number)).foldl
      (fun value digit => 10 * value + (digit.toNat - 48)) 0 = number := by
    rw [utf8_number, List.foldl_map]
    refine Eq.trans ?_ Nat.ofDigitChars_ten_toDigits
    rw [Nat.ofDigitChars_eq_foldl]
    refine List.foldl_ext _ _ _ fun value digit among => ?_
    rw [(digit_byte (digits digit among)).2.1]
    rfl
  have plain : ¬((utf8 (toString number)).isEmpty ∨
      (utf8 (toString number)).any fun digit => digit < 48 ∨ digit > 57) := by
    rw [utf8_number]
    rintro (nothing | other)
    · rw [List.isEmpty_iff, List.map_eq_nil_iff] at nothing
      exact Nat.toDigits_ne_nil nothing
    · obtain ⟨byte, among, out⟩ := List.any_eq_true.mp other
      obtain ⟨digit, spelled, rfl⟩ := List.mem_map.mp among
      obtain ⟨_, value, low, high⟩ := digit_byte (digits digit spelled)
      rw [← value] at low high
      have inside : ¬(digit.val.toUInt8 < 48 ∨ digit.val.toUInt8 > 57) := not_or.mpr
        ⟨UInt8.not_lt.mpr (UInt8.le_iff_toNat_le.mpr low),
          UInt8.not_lt.mpr (UInt8.le_iff_toNat_le.mpr high)⟩
      exact inside (of_decide_eq_true out)
  unfold sessionNumber
  dsimp only
  rw [List.take_left, if_neg (not_not.mpr rfl), List.drop_left, if_neg plain, value,
    Nat.min_eq_left (Nat.le_sub_one_of_lt small)]

namespace Server

variable {origin server before after : Server}

/-! ### The next name -/

/-- The highest number taken is at most a bound when every numbered name's number is. -/
theorem highestNumber_le_iff (server : Server) (bound : Nat) :
    server.highestNumber ≤ bound ↔ ∀ session ∈ server.sessions, ∀ number,
      sessionNumber session.name = some number → number ≤ bound := by
  have largest : ∀ (numbers : List Nat) (first : Nat),
      numbers.foldl max first ≤ bound ↔ first ≤ bound ∧ ∀ number ∈ numbers, number ≤ bound := by
    intro numbers
    induction numbers with
    | nil => simp
    | cons number numbers ih =>
        intro first
        rw [List.foldl_cons, ih, List.forall_mem_cons, max_le_iff, and_assoc]
  rw [highestNumber, largest]
  simp only [Nat.zero_le, true_and, List.mem_filterMap, forall_exists_index, and_imp]
  exact ⟨fun all session listed number is => all number session listed is,
    fun all number session listed is => all session listed number is⟩

/-- The highest number taken is one `strtol` can return. -/
theorem highestNumber_le (server : Server) : server.highestNumber ≤ 2 ^ 63 - 1 := by
  refine (highestNumber_le_iff ..).mpr fun session _ number is => ?_
  unfold sessionNumber at is
  dsimp only at is
  repeat' split at is
  · cases is
  · cases is
  · exact Option.some.inj is ▸ Nat.min_le_right ..

/-- Whether a name chosen now is nobody's, and its number no more than a signed word holds. -/
def ChoosesWell (server : Server) : Prop :=
  server.nextSessionName ∉ server.sessions.map Session.name ∧
    (Int64.ofNat server.highestNumber + 1).toInt = server.highestNumber + 1

/-- A name is well chosen exactly if there is a number left. -/
theorem choosesWell_iff (server : Server) :
    server.ChoosesWell ↔ server.highestNumber < 2 ^ 63 - 1 := by
  have within := server.highestNumber_le
  constructor
  · rintro ⟨_, counts⟩
    refine Nat.lt_of_le_of_ne within fun last => ?_
    rw [last] at counts
    exact absurd counts (by decide)
  · intro more
    have counts : (Int64.ofNat server.highestNumber + 1).toInt = server.highestNumber + 1 := by
      have small : server.highestNumber + 1 < 2 ^ 63 := by omega
      exact (congrArg Int64.toInt (Int64.ofNat_add ..).symm).trans (Int64.toInt_ofNat_of_lt small)
    refine ⟨fun taken => ?_, counts⟩
    obtain ⟨session, listed, named⟩ := List.mem_map.mp taken
    have spelled : server.nextSessionName =
        utf8 "session-" ++ utf8 (toString (server.highestNumber + 1)) := by
      have shown : toString (Int64.ofNat server.highestNumber + 1) =
          toString ((server.highestNumber + 1 : Nat) : Int) := congrArg toString counts
      rw [nextSessionName, shown]
      rfl
    have numbered := @sessionNumber_spelled (server.highestNumber + 1) (by omega)
    rw [← spelled, ← named] at numbered
    have past := (highestNumber_le_iff server _).mp (Nat.le_refl _) session listed _ numbered
    exact absurd past (Nat.not_succ_le_self _)

/-! ### What becomes of the names -/

/-- What an act may do to the names: some go, one is made or one is changed. -/
inductive Renames (origin : Server) (event : ServerEvent) (before after : Server) : Prop where
  | fewer (some : (after.sessions.map fun session => (session.id, session.name)).Sublist
      (before.sessions.map fun session => (session.id, session.name)))
  | made {name : Bytes} (named : origin.Names event before name)
      (sessions : after.sessions = (before.createSession name).2.sessions)
  | renamed {session : Session} {name : Bytes} (found : before.sessionFor session.id = some session)
      (fresh : before.sessionNamed name session.id = none)
      (sessions : after.sessions = (before.setSession session.id fun session =>
        { session with name := if name.isEmpty then session.name else name }).sessions)

/-- A session changed but for its number and its name. -/
theorem setSession_label (server : Server) (id : SessionId) {change : Session → Session}
    (kept : ∀ session, ((change session).id, (change session).name) = (session.id, session.name)) :
    ((server.setSession id change).sessions.map fun session => (session.id, session.name)) =
      server.sessions.map fun session => (session.id, session.name) := by
  refine (List.map_map ..).trans (List.map_congr_left fun session _ => ?_)
  dsimp only [Function.comp_apply]
  split
  · exact kept session
  · rfl

/-- A snapshot changes no session. -/
theorem sendSnapshot_sessions [Emulator] (server : Server) (id : ClientId) :
    (server.sendSnapshot id).sessions = server.sessions := by
  cases found : server.client id with
  | none =>
      unfold Server.sendSnapshot
      rw [found]
  | some client => exact (Tells.sendSnapshot found).sessions

/-- Forgetting a session leaves the others as they were, in their order. -/
theorem forgetSession_fewer (server : Server) (id : SessionId) (reason : Proto.DetachReason)
    (text : Bytes) : (server.forgetSession id reason text).sessions.Sublist server.sessions := by
  obtain ⟨left, leaves, told⟩ := Tells.forgetSession server id reason text
  rw [told.sessions, ← leaves.sessions]
  exact List.filter_sublist

namespace Renames

variable {event : ServerEvent}

/-- Nothing is renamed where every session keeps its id and its name. -/
theorem same (still : (after.sessions.map fun session => (session.id, session.name)) =
    before.sessions.map fun session => (session.id, session.name)) :
    Renames origin event before after := .fewer (still ▸ .refl _)

/-- Telling the clients renames nothing. -/
theorem tells {news : ClientId → Message → Prop} {notes : Terminal → Terminal → Prop}
    (tells : Tells news notes before after) : Renames origin event before after :=
  .same (by rw [tells.sessions])

/-- What a client types renames nothing. -/
theorem typed (server : Server) (id : ClientId) (given : Proto.Input) :
    Renames origin event server (server.input id given) := by
  unfold Server.input
  split
  · exact .same rfl
  · dsimp only
    split
    · exact .same rfl
    · rename_i home _
      refine .same (setSession_label _ home.id ?_)
      exact fun _ => rfl

/-- What every act does to the names. -/
theorem act [CkVision] [Emulator] (kept : before.ledger.Kept)
    (act : Act origin event before after) : Renames origin event before after := by
  cases act with
  | speak told => exact tells told
  | fetch => exact tells (Tells.sendChunks ..)
  | connect | sweep | wait | closes | kills | respawn | lose | deed | kill | policies | observed =>
      exact .same rfl
  | create named => exact .made named rfl
  | rename found fresh => exact .renamed found fresh rfl
  | @print _ id said => exact .same (setSession_label before id (by exact fun _ => rfl))
  | @reshape _ session wanted asked =>
      unfold Server.changeDesktop
      split
      · exact .same rfl
      · have told := Tells.announceLayout
          (before.setSession session.id fun session => { session with desktop := wanted }) session.id
        refine .same ?_
        rw [told.sessions]
        exact setSession_label before session.id fun _ => rfl
  | forget found empty => exact .fewer ((forgetSession_fewer ..).map _)
  | @bury _ session text due =>
      have same : (session.terminals.foldl closeTerminal before).sessions = before.sessions :=
        foldl_keeps Server.sessions _ (by exact fun _ _ => rfl) before
      refine .fewer (.map _ ?_)
      exact same ▸ forgetSession_fewer (session.terminals.foldl closeTerminal before) session.id
        .sessionKilled text
  | @spawn _ home spec _ _ asked made found first =>
      rw [openTerminal_eq found]
      exact .same (setSession_label _ home.id (by exact fun _ => rfl))
  | @opens _ home spec columns rows _ _ asked found first =>
      have told := Tells.tellOpened (before.openTerminal home.id spec).2 home.id
        { term := before.nextTerminal, session := home.id, columns := columns, rows := rows }
      refine .same ?_
      rw [told.sessions, openTerminal_eq found]
      exact setSession_label _ home.id fun _ => rfl
  | @respawnIn _ terminal home _ _ columns rows =>
      have told := Tells.tellOpened (before.relaunch terminal.id) home.id
        { term := terminal.id, session := home.id, columns := columns, rows := rows }
      exact .same (by rw [told.sessions]; rfl)
  | @rehome _ term source target _ _ asked named known holds found apart =>
      refine .same ?_
      exact (setSession_label _ target.id (by exact fun _ => rfl)).trans
        (setSession_label before source.id fun _ => rfl)
  | @takeOut _ term home ends holds =>
      exact .same (setSession_label (before.closeTerminal term) home.id (by exact fun _ => rfl))
  | types => exact typed ..
  | @welcome _ id request session asked found =>
      obtain ⟨_, _, sessions⟩ := seat_terminals before id request session
      refine .same ?_
      rw [sendSnapshot_sessions, sessions]
      exact setSession_label before session.id fun _ => rfl
  | heal => exact .same (by rw [sendSnapshot_sessions])
  | @news _ terminal ticks found => exact tells (Tells.announceNews kept.distinct terminal fun _ _ => places_of_tidings)
  | @layout _ session => exact tells (Tells.announceSessionLayout before session false)

end Renames

/-- Whether an event that has a name chosen finds a number left to choose it by. -/
def CountsOn (server : Server) (event : ServerEvent) : Prop :=
  server.ChoosesName event → server.highestNumber < 2 ^ 63 - 1

/-- Whether no two sessions have the same name. -/
def NamesApart (server : Server) : Prop := (server.sessions.map Session.name).Nodup

/-- Names stay apart through one step, if the name it may number can be counted on to. -/
theorem Renames.apart {event : ServerEvent} (counts : origin.CountsOn event)
    (numbered : ∀ session ∈ origin.sessions, session.id ≠ 0)
    (kept : before.ledger.Kept) (apart : before.NamesApart)
    (renames : Renames origin event before after) : after.NamesApart := by
  have names : ∀ server : Server, server.sessions.map Session.name =
      (server.sessions.map fun session => (session.id, session.name)).map Prod.snd := by
    intro server
    rw [List.map_map]
    rfl
  cases renames with
  | fewer some =>
      have fewer := some.map Prod.snd
      rw [← names, ← names] at fewer
      exact apart.sublist fewer
  | @made name named sessions =>
      obtain ⟨still, _, named⟩ := named
      have free : (if name.isEmpty then before.nextSessionName else name) ∉
          before.sessions.map Session.name := by
        split at named
        · rename_i empty
          have more : before.highestNumber < 2 ^ 63 - 1 := by
            rw [highestNumber, still]
            exact counts named
          rw [if_pos (by rw [empty]; rfl)]
          exact ((choosesWell_iff before).mpr more).1
        · rename_i given
          rw [if_neg (by simpa using given), still]
          intro taken
          obtain ⟨session, listed, called⟩ := List.mem_map.mp taken
          have fresh := named.2
          rw [sessionNamed, if_neg (by simpa using given)] at fresh
          exact List.find?_eq_none.mp fresh session listed
            (decide_eq_true ⟨numbered session listed, called⟩)
      rw [NamesApart, sessions, createSession, List.map_append, List.nodup_append]
      refine ⟨apart, List.nodup_singleton _, ?_⟩
      rintro one there _ only rfl
      rw [List.mem_singleton.mp only] at there
      exact free there
  | @renamed session name found fresh sessions =>
      have ids : (before.sessions.map Session.id).Nodup := ledger_keys before ▸ kept.apart
      have another : ∀ one ∈ before.sessions, one.id = session.id → ∀ other ∈ before.sessions,
          other.id ≠ session.id → (if name.isEmpty then one.name else name) ≠ other.name := by
        intro one here first other there second called
        split at called
        · exact second (List.inj_on_of_nodup_map apart here there called ▸ first)
        · rename_i given
          rw [sessionNamed, if_neg given] at fresh
          exact List.find?_eq_none.mp fresh other there (decide_eq_true ⟨second, called.symm⟩)
      rw [NamesApart, sessions, setSession, List.map_map]
      refine List.Nodup.map_on ?_ ids.of_map
      intro one here other there same
      dsimp only [Function.comp_apply] at same
      by_cases first : one.id = session.id <;> by_cases second : other.id = session.id
      · exact List.inj_on_of_nodup_map ids here there (first.trans second.symm)
      · rw [if_pos first, if_neg second] at same
        exact absurd same (another one here first other there second)
      · rw [if_neg first, if_pos second] at same
        exact absurd same.symm (another other there second one here first)
      · rw [if_neg first, if_neg second] at same
        exact List.inj_on_of_nodup_map apart here there same

/-- A server that tells its sessions apart by number and by name. -/
structure Named (server : Server) : Prop where
  filed : server.Filed
  counting : 0 < server.nextSession
  numbered : ∀ session ∈ server.sessions, session.id ≠ 0
  apart : server.NamesApart

variable [CkVision] [Emulator]

/-- A fresh server has no session to name. -/
theorem Named.start (fresh : serverSystem.initial server) : server.Named := by
  have filed := Filed.start fresh
  obtain ⟨settings, kernel, now, rfl⟩ := fresh
  have one : (0 : SessionId) < 1 := by decide
  exact ⟨filed, one, fun _ there => absurd there List.not_mem_nil,
    List.nodup_nil⟩

/-- Every event keeps the sessions apart, if the next name can be counted on to. -/
theorem Named.step (named : server.Named) (unspent : server.Unspent) {event : ServerEvent}
    (counts : server.CountsOn event) : (server.step event).Named := by
  obtain ⟨moved, filed⟩ := named.filed.step unspent event
  have kept : server.Moved (server.step event) ∧ (server.step event).NamesApart :=
    @Acts.keep _ _ (fun after => server.Moved after ∧ after.NamesApart) _ _
      (fun _ _ _ kept act => ⟨kept.1.file unspent named.filed (Files.act kept.1.filed act),
        (Renames.act kept.1.filed act).apart counts named.numbered kept.1.filed kept.2⟩)
      ⟨⟨named.filed.kept, .refl .., .refl ..⟩, named.apart⟩
  refine ⟨filed, ?_, fun session listed none => ?_, kept.2⟩
  · have on := (moved.sessions.below unspent.2 named.filed.sessions).1
    exact UInt64.lt_of_lt_of_le named.counting on
  · have there : session.id ∈ (server.step event).ledger.homes.map Prod.fst := by
      rw [ledger_keys]
      exact List.mem_map_of_mem listed
    rcases moved.sessions.known there with was | first
    · rw [ledger_keys] at was
      obtain ⟨before, held, same⟩ := List.mem_map.mp was
      exact named.numbered before held (same.trans none)
    · exact UInt64.lt_irrefl 0 ((first.symm.trans none) ▸ named.counting)

end Server

/-- The server while there are numbers left, to be given out and to choose names by. -/
def namingSystem [CkVision] [Emulator] : System Server ServerEvent :=
  numberedSystem.guarded Server.CountsOn

namespace Server

variable [CkVision] [Emulator] {server : Server}

/-- No two sessions ever have the same name, while a number is left whenever a name is to be
chosen; and a name chosen is then nobody's, and its number one that can be counted to. -/
theorem names_apart (reached : namingSystem.Reachable server) :
    server.NamesApart ∧ ∀ event, server.ChoosesName event →
      (server.ChoosesWell ↔ server.CountsOn event) := by
  have named := @System.Reachable.invariant _ _ namingSystem (fun server => server.Named)
    (fun _ fresh => .start fresh)
    (fun _ event named allowed => named.step allowed.1.2 allowed.2) _ reached
  refine ⟨named.apart, fun event chooses => (choosesWell_iff server).trans ?_⟩
  exact ⟨fun more _ => more, fun counts => counts chooses⟩

end Server

/-! ### Names chosen and given -/

/-- "A session, whatever it is called." -/
def anySession : ServerEvent := .message 1 (.newSession { spawnFirst := 0 })

/-- A session named for its number, two that are named, and one whose name is chosen. The first takes
that name with another number then, and a name is not given that is taken. -/
def namedEvents : List ServerEvent :=
  [.connect, .message 1 (.hello { protoVersion := Proto.kProtocolVersion, clientKind := .cli }),
    anySession, .message 1 (.newSession { name := utf8 "work", spawnFirst := 0 }),
    .message 1 (.newSession { name := utf8 "session-7", spawnFirst := 0 }), anySession,
    .message 1 (.renameSession { id := 1, name := utf8 "session-12" }),
    .message 1 (.renameSession { id := 2, name := utf8 "session-12" })]

/-- The server after its sessions have been made and renamed. -/
def namedServer : Server := namedEvents.foldl (@serverSystem asciiVision blankEmulator).step freshServer

/-- Its run is one of the naming system's. -/
theorem namedServer_reached : (@namingSystem asciiVision blankEmulator).Reachable namedServer := by
  have fresh : (@namingSystem asciiVision blankEmulator).Reachable freshServer :=
    .start ⟨{}, _, 0, rfl⟩
  have both : (@numberedSystem asciiVision blankEmulator).AllowsAll freshServer namedEvents ∧
      (@numberedSystem asciiVision blankEmulator).Throughout
        (fun server _ => server.highestNumber < 2 ^ 63 - 1) freshServer namedEvents := by
    decide +kernel
  have counts : ∀ (server : Server) event, server.highestNumber < 2 ^ 63 - 1 →
      server.CountsOn event :=
    fun _ _ more _ => more
  exact fresh.follow namedEvents (both.1.guard counts both.2)

namespace Server

/-- The names are apart, and the next one chosen is nobody's. -/
theorem names_apart_named :
    namedServer.sessions.map Session.name =
        [utf8 "session-12", utf8 "work", utf8 "session-7", utf8 "session-8"] ∧
      namedServer.NamesApart ∧ namedServer.nextSessionName = utf8 "session-13" ∧
      namedServer.ChoosesWell := by
  have there : namedServer.sessions.map Session.name =
        [utf8 "session-12", utf8 "work", utf8 "session-7", utf8 "session-8"] ∧
      namedServer.nextSessionName = utf8 "session-13" ∧ namedServer.highestNumber < 2 ^ 63 - 1 ∧
      namedServer.Obeys 1 (.newSession { spawnFirst := 0 }) := by
    decide +kernel
  obtain ⟨names, next, more, obeys⟩ := there
  obtain ⟨apart, chooses⟩ := @names_apart asciiVision blankEmulator _ namedServer_reached
  exact ⟨names, apart, next,
    (chooses anySession (.inl ⟨1, _, ⟨rfl, obeys⟩, rfl⟩)).mpr fun _ => more⟩

end Server

/-! ### The last number there is -/

/-- A command line that gives its session the last number there is. -/
def lastEvents : List ServerEvent :=
  [.connect, .message 1 (.hello { protoVersion := Proto.kProtocolVersion, clientKind := .cli }),
    .message 1 (.newSession { name := utf8 "session-9223372036854775807", spawnFirst := 0 })]

/-- The server whose only session holds the last number there is. -/
def lastServer : Server := lastEvents.foldl (@serverSystem asciiVision blankEmulator).step freshServer

/-- Such a server is reached. -/
theorem lastServer_reached : (@serverSystem asciiVision blankEmulator).Reachable lastServer :=
  (@freshServer_reached asciiVision blankEmulator).follow lastEvents (by decide +kernel)

namespace Server

/-- The last number there is has no successor. -/
theorem name_overflows :
    (@serverSystem asciiVision blankEmulator).Reachable lastServer ∧
      (@serverSystem asciiVision blankEmulator).allows lastServer anySession ∧
      lastServer.ChoosesName anySession ∧ ¬lastServer.ChoosesWell := by
  have there : (@serverSystem asciiVision blankEmulator).allows lastServer anySession ∧
      lastServer.Obeys 1 (.newSession { spawnFirst := 0 }) ∧
      ¬lastServer.highestNumber < 2 ^ 63 - 1 := by
    decide +kernel
  obtain ⟨allowed, obeys, last⟩ := there
  exact ⟨lastServer_reached, allowed, .inl ⟨1, _, ⟨rfl, obeys⟩, rfl⟩,
    fun well => last ((choosesWell_iff lastServer).mp well)⟩

end Server

end Ckmux
