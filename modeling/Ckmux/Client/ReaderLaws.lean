import Mathlib
import Ckmux.Client.Reader

/-!
# What a client sends by itself

A client attaches by itself in two places: behind a batch, if one of its mirrors has
lost track, and where the server speaks of a screen it does not know. Both keep still
while an answer is on its way.
-/

namespace Ckmux

open Grammar (Bytes)
open Proto (Message LayoutEntry)

section

variable (base : Nat)

/-- Messages that ask for no session have no place among those that do. -/
theorem attachPlaces_none {messages : List Message}
    (none : ∀ message ∈ messages, message.isAttach = false) : attachPlaces base messages = [] := by
  induction messages generalizing base with
  | nil => rfl
  | cons message messages ih =>
      simp only [List.forall_mem_cons] at none
      simp [attachPlaces, none.1, ih _ none.2]

end

namespace ServerSession

/-- One state of a client behind another, between which it sent no attach. -/
def Quiet (before after : ServerSession) : Prop :=
  ∃ said, after.sent = before.sent ++ said ∧ ∀ message ∈ said, message.isAttach = false

variable {before between after : ServerSession} (session : ServerSession)

/-- Nothing sent is no attach sent. -/
theorem Quiet.still (same : after.sent = before.sent) : Quiet before after :=
  ⟨[], by simpa using same, by simp⟩

/-- Nothing was said. -/
theorem Quiet.refl : Quiet session session := .still rfl

/-- Two steps that ask for no session ask for none. -/
theorem Quiet.trans (first : Quiet before between) (second : Quiet between after) :
    Quiet before after := by
  obtain ⟨earlier, led, calm⟩ := first
  obtain ⟨later, leads, calmer⟩ := second
  refine ⟨earlier ++ later, by rw [leads, led, List.append_assoc], ?_⟩
  intro message said
  rcases List.mem_append.mp said with said | said
  · exact calm message said
  · exact calmer message said

/-- A message that asks for no session is quiet. -/
theorem Quiet.request {message : Message} (quiet : Quiet before after)
    (other : message.isAttach = false) : Quiet before (after.request message) :=
  quiet.trans ⟨[message], rfl, by simpa using other⟩

/-- A step that adds nothing to what was sent. -/
theorem Quiet.update (quiet : Quiet before between) (same : after.sent = between.sent) :
    Quiet before after := quiet.trans (.still same)

/-! ### One thing after another -/

/-- A terminal that comes says nothing. -/
theorem ensureTerminal_sent (id : TerminalId) : (session.ensureTerminal id).sent = session.sent := by
  unfold ensureTerminal
  split <;> rfl

/-- Another desktop says nothing. -/
theorem adoptSessionDesktop_sent (columns rows : UInt16) :
    (session.adoptSessionDesktop columns rows).sent = session.sent := by
  unfold adoptSessionDesktop
  split <;> rfl

/-- Sending what waits of pastes asks for no session. -/
theorem pumpPaste_quiet : Quiet session session.pumpPaste := by
  refine ⟨_, rfl, ?_⟩
  intro message said
  obtain ⟨_, _, rfl⟩ := List.mem_map.mp said
  rfl

/-- Being detached asks for no session. -/
theorem onDetached_quiet : Quiet session session.onDetached := by
  unfold onDetached
  split
  · exact .refl _
  · exact Quiet.request (.still rfl) rfl

/-- Asking for stats asks for no session. -/
theorem setStatsWatched_quiet (on : Bool) : Quiet session (session.setStatsWatched on) := by
  unfold setStatsWatched
  split
  · exact .refl _
  · exact Quiet.request (.still rfl) rfl

/-- Another size of the screen asks for no session. -/
theorem desktopResized_quiet (desktop cellPixels : Size) :
    Quiet session (session.desktopResized desktop cellPixels) := by
  unfold desktopResized
  dsimp only
  split
  · exact .refl _
  · split
    · exact .refl _
    · split
      · exact .still rfl
      · exact Quiet.request (.still rfl) rfl

/-- Reporting the windows asks for no session. -/
theorem reportLayout_quiet (entries : List LayoutEntry) :
    Quiet session (session.reportLayout entries) := by
  unfold reportLayout
  split
  · exact .refl _
  · exact Quiet.request (.still rfl) rfl

/-- A paste asks for no session. -/
theorem paste_quiet (term : TerminalId) (bytes : Bytes) : Quiet session (session.paste term bytes) := by
  unfold paste
  split
  · exact .refl _
  · exact (Quiet.still rfl).trans (pumpPaste_quiet _)

/-- Asking for a mode asks for no session. -/
theorem setReaderMode_quiet (scope : ReaderScope) (mode : AttachMode) :
    Quiet session (session.setReaderMode scope mode) := by
  unfold setReaderMode
  split
  · exact .refl _
  · refine Quiet.request (.still ?_) rfl
    split <;> rfl

/-- A terminal that ends says nothing. -/
theorem handleClosed_sent (closed : Proto.TermClosed) :
    (session.handleClosed closed).sent = session.sent := by
  unfold handleClosed
  dsimp only
  split <;> rfl

/-- A picture says nothing. -/
theorem hearPicture_sent (op : PictureOp) : (session.hearPicture op).sent = session.sent := by
  cases op <;> rfl

/-- The attach a client heals itself by. It asks for the mode its reader attached with. -/
def repair : Proto.Attach :=
  session.attachRequest session.session session.desktop session.cellPixels

/-- A snapshot that is asked for already is not asked for again. -/
theorem requestSnapshot_waiting (waiting : session.snapshotRequested = true) :
    session.requestSnapshot = session := by
  rw [requestSnapshot, if_pos waiting]

/-- Asking for a snapshot is attaching once more. -/
theorem requestSnapshot_sent (free : session.snapshotRequested = false) :
    session.requestSnapshot.sent = session.sent ++ [.attach session.repair] := by
  rw [requestSnapshot, if_neg (Bool.not_eq_true _ ▸ free)]
  rfl

section

variable [CkVision]

/-- A terminal adopted says nothing. -/
theorem adoptTerminal_sent (state : Proto.TerminalState) :
    (session.adoptTerminal state).sent = session.sent :=
  ensureTerminal_sent session state.term

/-- Taking what a snapshot says of its terminals sends nothing. -/
theorem adoptTerminals_sent (states : List Proto.TerminalState) :
    (states.foldl (fun session state => session.adoptTerminal state) session).sent =
      session.sent := by
  induction states generalizing session with
  | nil => rfl
  | cons state states ih => exact (ih _).trans (adoptTerminal_sent session state)

/-- A snapshot asks for no session. -/
theorem handleAttached_quiet (attached : Proto.Attached) :
    Quiet session (session.handleAttached attached) := by
  unfold handleAttached
  dsimp only
  refine Quiet.request (Quiet.update ?_ (adoptTerminals_sent ..)) rfl
  split
  · exact Quiet.request (.still (adoptSessionDesktop_sent ..)) rfl
  · exact .still (adoptSessionDesktop_sent ..)

/-- Whether a client asks for its session whole, by itself. -/
def repairs : ReaderEvent → Bool
  | .heal =>
      !session.snapshotRequested &&
        session.terminals.any fun terminal => terminal.mirror.needsSnapshot
  | .hear (.gridDelta delta) =>
      !session.snapshotRequested && (session.terminal delta.term).isNone
  | _ => false

/-- Hearing something is quiet, but for a screen nobody knows. -/
theorem handle_quiet (message : Message) (calm : session.repairs (.hear message) = false) :
    Quiet session (session.handle message) := by
  cases message with
  | gridDelta delta =>
      unfold handle
      dsimp only
      split
      · rename_i unknown
        rw [requestSnapshot_waiting session (by simpa [repairs, unknown] using calm)]
        exact .refl _
      · exact .still rfl
  | attached attached => exact handleAttached_quiet session attached
  | detached gone => exact (Quiet.still rfl).trans (onDetached_quiet _)
  | pasteAck ack => exact (Quiet.still rfl).trans (pumpPaste_quiet _)
  | layoutDelta layout =>
      unfold handle
      dsimp only
      split
      · exact .still (adoptSessionDesktop_sent ..)
      · exact .refl _
  | readerMode told =>
      unfold handle
      dsimp only
      split <;> exact .still rfl
  | termOpened opened => exact .still (ensureTerminal_sent ..)
  | termClosed closed => exact .still (handleClosed_sent ..)
  | imageAddBegin _ | imageChunk _ | imageEnd _ | imagePlace _ | imageRemove _ =>
      exact .still (hearPicture_sent ..)
  | _ => exact .still rfl

/-- Whatever happens to a client, it attaches only to heal itself or where its reader
goes. -/
theorem step_quiet {event : ReaderEvent} (allowed : readerSystem.allows reader event)
    (own : event.asks = false) (calm : session.repairs event = false) :
    Quiet session (session.step event) := by
  cases event with
  | hear message => exact handle_quiet session message calm
  | heal =>
      change Quiet session session.healIfNeeded
      unfold healIfNeeded
      split
      · rename_i needed
        rw [requestSnapshot_waiting session (by simpa [repairs, needed] using calm)]
        exact .refl _
      · exact .refl _
  | switchTo id mode desktop cellPixels => cases own
  | setReaderMode scope mode => exact setReaderMode_quiet session scope mode
  | paste term bytes => exact paste_quiet session term bytes
  | desktopResized desktop cellPixels => exact desktopResized_quiet session desktop cellPixels
  | reportLayout entries => exact reportLayout_quiet session entries
  | watchStats on => exact setStatsWatched_quiet session on
  | capabilities hostSixel => exact .still rfl
  | leave => exact Quiet.request (.still rfl) rfl
  | say message => exact Quiet.request (.still rfl) allowed
  | lost => exact .still rfl

/-- A step that has something to repair attaches once more and says nothing else. -/
theorem step_repairs {event : ReaderEvent} (needed : session.repairs event = true) :
    (session.step event).sent = session.sent ++ [.attach session.repair] := by
  cases event with
  | hear message =>
      cases message with
      | gridDelta delta =>
          simp only [repairs, Bool.and_eq_true, Bool.not_eq_true', Option.isNone_iff_eq_none]
            at needed
          change (session.handle (.gridDelta delta)).sent = _
          unfold handle
          dsimp only
          rw [needed.2]
          exact requestSnapshot_sent session needed.1
      | _ => cases needed
  | heal =>
      simp only [repairs, Bool.and_eq_true, Bool.not_eq_true'] at needed
      change session.healIfNeeded.sent = _
      rw [healIfNeeded, if_pos needed.2]
      exact requestSnapshot_sent session needed.1
  | _ => cases needed

end

end ServerSession

namespace Reader

variable [CkVision] (reader : Reader)

/-- A client heals itself, or it does not attach. -/
theorem step_heals {event : ReaderEvent} (allowed : readerSystem.allows reader event)
    (own : event.asks = false) :
    (reader.step event).heals =
      reader.heals ++ if reader.session.repairs event then [reader.session.sent.length] else [] := by
  simp only [Reader.step, own, Bool.false_eq_true, if_false]
  congr 1
  cases needed : reader.session.repairs event with
  | false =>
      obtain ⟨said, leads, calm⟩ := reader.session.step_quiet allowed own needed
      rw [leads, List.drop_left, attachPlaces_none _ calm]
      rfl
  | true =>
      rw [reader.session.step_repairs needed, List.drop_left]
      rfl

/-- What was sent stays sent. -/
theorem step_sent {event : ReaderEvent} (allowed : readerSystem.allows reader event) :
    reader.session.sent <+: (reader.step event).session.sent := by
  change reader.session.sent <+: (reader.session.step event).sent
  cases own : event.asks with
  | false =>
      cases needed : reader.session.repairs event with
      | false =>
          obtain ⟨said, leads, _⟩ := reader.session.step_quiet allowed own needed
          exact leads ▸ List.prefix_append _ _
      | true => exact reader.session.step_repairs needed ▸ List.prefix_append _ _
  | true =>
      cases event with
      | switchTo id mode desktop cellPixels =>
          change reader.session.sent <+: (reader.session.switchTo id mode desktop cellPixels).sent
          unfold ServerSession.switchTo
          split
          · exact List.prefix_rfl
          · exact List.prefix_append _ _
      | _ => cases own

/-- What a client remembers as a heal is an attach it has sent. -/
def Tagged : Prop :=
  ∀ place ∈ reader.heals, ∃ request, reader.session.sent[place]? = some (.attach request)

variable {reader}

/-- Every step tags what it asks for. -/
theorem Tagged.step (tagged : reader.Tagged) {event : ReaderEvent}
    (allowed : readerSystem.allows reader event) : (reader.step event).Tagged := by
  have kept : ∀ place ∈ reader.heals, ∃ request,
      (reader.step event).session.sent[place]? = some (.attach request) := by
    intro place healed
    obtain ⟨request, there⟩ := tagged place healed
    obtain ⟨within, here⟩ := List.getElem?_eq_some_iff.mp there
    have still := List.prefix_iff_getElem?.mp (reader.step_sent allowed) place within
    exact ⟨request, still.trans (congrArg some here)⟩
  intro place healed
  cases own : event.asks with
  | true =>
      refine kept place ?_
      simpa [Reader.step, own] using healed
  | false =>
      rw [reader.step_heals allowed own] at healed
      rcases List.mem_append.mp healed with earlier | now
      · exact kept place earlier
      · cases needed : reader.session.repairs event with
        | false => simp [needed] at now
        | true =>
            obtain rfl : place = reader.session.sent.length := by simpa [needed] using now
            have leads : (reader.step event).session.sent = _ := reader.session.step_repairs needed
            exact ⟨reader.session.repair, by simp [leads]⟩

end Reader

end Ckmux
