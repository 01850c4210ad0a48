import Mathlib
import Ckmux.Client.Pasting
import Ckmux.Server.PasteAnswers

/-!
# Credit at both ends

One client's connection with the server's pastes at the far end of it, among whatever other clients
do. What such a pair goes through is a run of `PasteJoint`, whose server is free to answer what it
likes: so what holds there holds here, and a client that gives nothing up on its way sends no chunk
that `inCredit` would refuse.
-/

namespace Ckmux

open Proto (PasteChunk)
open Semantics (System)
open PasteServer (Hears AtMostOnce)

/-- A client, the server, and how many of the server's acknowledgements the client has heard. -/
structure PasteLink where
  client : ServerSession
  server : PasteServer
  heard : Nat := 0

namespace PasteLink

/-- Something happens to the client, something happens to the server, or an acknowledgement arrives.
-/
inductive Event where
  | reader (event : ReaderEvent)
  | serve (event : PasteEvent)
  | deliver

/-- The chunk that reaches the server next. -/
def coming (link : PasteLink) (id : ClientId) : Option PasteChunk :=
  (pastedIn link.client.sent)[(link.server.heardFrom id).length]?

/-- The acknowledgements the client has not heard yet. -/
def going (link : PasteLink) (id : ClientId) : List UInt32 :=
  ((link.server.ackedTo id).drop link.heard).map fun pending => pending.chunk.seq

section

variable [CkVision] (id : ClientId)

/-- The link after one event. -/
def step (link : PasteLink) : Event → PasteLink
  | .reader event => { link with client := link.client.step event }
  | .serve event => { link with server := link.server.step event }
  | .deliver =>
      { link with
        client := link.client.step (.hear (.pasteAck ⟨(link.going id).headD 0⟩))
        heard := link.heard + 1 }

/-- The client goes by one id, and of it the server hears what it sent, in that order. Of other
clients it hears anything. -/
def system : System PasteLink Event where
  initial link := ServerSession.pastingSystem.initial link.client ∧
    pasteSystem.initial link.server ∧ link.heard = 0
  allows link
    | .reader event => ServerSession.pastingSystem.allows link.client event ∧ event ≠ .lost ∧
        ServerSession.answers event = 0
    | .serve event => pasteSystem.allows link.server event ∧
        ∀ chunk watching, event = .arrive id chunk watching → link.coming id = some chunk
    | .deliver => link.going id ≠ []
  step := step id

/-- Whether an event has the client give its pastes up with some of them on their way. -/
def Hasty (link : PasteLink) (event : Event) : Prop :=
  ∃ asked, event = .reader asked ∧ link.client.abandons asked = true ∧
    link.client.pasteInFlight ≠ 0

/-- A client that gives nothing up while some of it is on its way. -/
def patientSystem : System PasteLink Event :=
  (system id).guarded fun link event => ¬link.Hasty event

/-- What the two ends show of each other: the joint holds what has arrived and is not
acknowledged. -/
structure Shows (link : PasteLink) (joint : PasteJoint) : Prop where
  client : joint.client = link.client
  arrived : joint.arrived = (link.server.heardFrom id).length
  acks : joint.acks = link.going id
  heard : link.heard ≤ (link.server.ackedTo id).length
  held : (joint.held ++ (link.server.ackedTo id).map PendingPaste.chunk).Perm
    ((link.server.heardFrom id).map PendingPaste.chunk)

omit [CkVision] in
/-- Only the client gives anything up. -/
theorem patient_of_ne {joint : PasteJoint} {event : PasteJoint.Event}
    (other : ∀ asked, event ≠ .reader asked) : ¬joint.Hasty event :=
  fun hasty => hasty.elim fun asked both => other asked both.1

namespace Shows

variable {id} {link : PasteLink} {joint : PasteJoint}

omit [CkVision] in
/-- A step of the server that hears nothing of the client and tells it nothing is not seen. -/
theorem unseen (seen : Shows id link joint) {server : PasteServer}
    (arrived : server.heardFrom id = link.server.heardFrom id)
    (acked : server.ackedTo id = link.server.ackedTo id) :
    Shows id { link with server := server } joint where
  client := seen.client
  arrived := seen.arrived.trans (congrArg List.length arrived.symm)
  acks := by rw [seen.acks, going, going, acked]
  heard := acked ▸ seen.heard
  held := arrived ▸ acked ▸ seen.held

/-- What happens to the client happens to the client that is shown. -/
theorem reader (seen : Shows id link joint) (event : ReaderEvent) :
    Shows id (link.step id (.reader event)) (joint.step (.reader event)) where
  client := congrArg (fun client => client.step event) seen.client
  arrived := seen.arrived
  acks := seen.acks
  heard := seen.heard
  held := seen.held

/-- An acknowledgement that arrives is one of those still to come. -/
theorem deliver (seen : Shows id link joint) (some_ : link.going id ≠ []) :
    Shows id (link.step id .deliver) (joint.step .deliver) where
  client := by simp only [PasteJoint.step, step, seen.client, seen.acks]
  arrived := seen.arrived
  acks := by
    simp only [PasteJoint.step, step, seen.acks, going]
    rw [← List.map_tail, List.tail_drop]
  heard := by
    have ahead : (link.server.ackedTo id).drop link.heard ≠ [] := fun none_ =>
      some_ (congrArg _ none_)
    exact Nat.lt_of_not_le fun behind => ahead (List.drop_eq_nil_of_le behind)
  held := seen.held

/-- A chunk the server hears arrives and is held. -/
theorem heard_own (seen : Shows id link joint) {server : PasteServer} {pending : PendingPaste}
    (next : link.coming id = some pending.chunk)
    (arrived : server.heardFrom id = link.server.heardFrom id ++ [pending])
    (acked : server.ackedTo id = link.server.ackedTo id) :
    joint.arrived < (pastedIn joint.client.sent).length ∧
      Shows id { link with server := server } (joint.step .arrive) := by
  rw [coming, ← seen.arrived, ← seen.client] at next
  obtain ⟨there, _⟩ := List.getElem?_eq_some_iff.mp next
  refine ⟨there, seen.client, ?_, ?_, acked ▸ seen.heard, ?_⟩
  · simp only [PasteJoint.step, arrived, List.length_append, List.length_singleton, seen.arrived]
  · simp only [PasteJoint.step, seen.acks, going, acked]
  · simp only [PasteJoint.step, next, Option.toList_some, arrived, acked, List.map_append,
      List.map_singleton]
    refine .trans ?_ (seen.held.append_right [pending.chunk])
    rw [List.append_assoc, List.append_assoc]
    exact List.perm_append_comm.append_left _

/-- An acknowledgement is of a chunk that was held. -/
theorem answered_own (seen : Shows id link joint) {server : PasteServer} {pending : PendingPaste}
    (once : (server.ackedTo id).Subperm (server.heardFrom id))
    (arrived : server.heardFrom id = link.server.heardFrom id)
    (acked : server.ackedTo id = link.server.ackedTo id ++ [pending]) :
    ∃ index < joint.held.length,
      Shows id { link with server := server } (joint.step (.answer index)) := by
  have among : pending.chunk ∈ joint.held := by
    obtain ⟨some_, same, part⟩ := once
    have mapped : ((link.server.ackedTo id).map PendingPaste.chunk ++ [pending.chunk]).Subperm
        ((link.server.heardFrom id).map PendingPaste.chunk) := by
      rw [acked] at same
      rw [arrived] at part
      rw [← List.map_singleton, ← List.map_append]
      exact ⟨_, same.map _, part.map _⟩
    have left := mapped.trans (seen.held.symm.trans List.perm_append_comm).subperm
    exact ((List.subperm_append_left _).mp left).subset List.mem_cons_self
  obtain ⟨index, there, found⟩ := List.getElem_of_mem among
  refine ⟨index, there, seen.client, arrived ▸ seen.arrived, ?_, ?_, ?_⟩
  · simp only [PasteJoint.step, seen.acks, going, acked, List.getElem?_eq_getElem there, found,
      Option.map_some, Option.toList_some, List.drop_append_of_le_length seen.heard, List.map_append,
      List.map_singleton]
  · rw [acked, List.length_append]
    exact Nat.le_add_right_of_le seen.heard
  · simp only [PasteJoint.step, acked, arrived, List.map_append, List.map_singleton]
    have back : (pending.chunk :: joint.held.eraseIdx index).Perm joint.held :=
      found ▸ List.getElem_cons_eraseIdx_perm there
    refine .trans ?_ ((back.append_right _).trans seen.held)
    rw [← List.append_assoc]
    exact List.perm_append_singleton ..

end Shows

/-! ### Every run is one of the joint -/

section

variable {id} {link : PasteLink} {joint : PasteJoint}

/-- The server of a link is one that runs by itself. -/
theorem serves (reached : (system id).Reachable link) : pasteSystem.Reachable link.server := by
  apply System.Reachable.invariant ?_ ?_ reached
  · exact fun link valid => .start valid.2.1
  · intro link event kept allowed
    cases event with
    | reader | deliver => exact kept
    | serve event => exact kept.next allowed.1

omit [CkVision] in
/-- A chunk of another client is none of this one's. -/
theorem ofClient_other {pending : PendingPaste} (another : pending.client ≠ id)
    (log : List PendingPaste) : (log ++ [pending]).filter (fun pending => pending.client = id) =
      log.filter fun pending => pending.client = id := by
  rw [List.filter_append, List.filter_singleton, decide_eq_false another]
  exact List.append_nil _

omit [CkVision] in
/-- A chunk of this client is the latest of its. -/
theorem ofClient_own {pending : PendingPaste} (same : pending.client = id)
    (log : List PendingPaste) : (log ++ [pending]).filter (fun pending => pending.client = id) =
      (log.filter fun pending => pending.client = id) ++ [pending] := by
  rw [List.filter_append, List.filter_singleton, decide_eq_true same]
  rfl

/-- What is heard of the client, and what it is told, when the server takes a step: a chunk of its
own that arrives, an acknowledgement of one, or nothing of either. -/
theorem Shows.serve (seen : Shows id link joint) {event : PasteEvent}
    (once : ((link.server.step event).ackedTo id).Subperm ((link.server.step event).heardFrom id))
    (own : ∀ chunk watching, event = .arrive id chunk watching → link.coming id = some chunk) :
    ∃ acts, PasteJoint.patientSystem.AllowsAll joint acts ∧
      Shows id (link.step id (.serve event)) (acts.foldl PasteJoint.step joint) := by
  cases PasteServer.step_hears link.server event with
  | silent arrived acked =>
      refine ⟨[], trivial, seen.unseen ?_ ?_⟩
      · exact congrArg _ arrived
      · exact congrArg _ acked
  | @heard client chunk watching arrived acked =>
      by_cases same : client = id
      · subst same
        have mine : (link.server.pendingPaste client chunk).client = client := rfl
        obtain ⟨there, shows_next⟩ := seen.heard_own (own chunk watching rfl)
          ((congrArg _ arrived).trans (ofClient_own mine _)) (congrArg _ acked)
        exact ⟨[.arrive], ⟨⟨there, patient_of_ne (by simp)⟩, trivial⟩, shows_next⟩
      · refine ⟨[], trivial, seen.unseen ?_ ?_⟩
        · exact (congrArg _ arrived).trans (ofClient_other same _)
        · exact congrArg _ acked
  | answered pending arrived acked =>
      by_cases same : pending.client = id
      · obtain ⟨index, there, shows_next⟩ := seen.answered_own once (congrArg _ arrived)
          ((congrArg _ acked).trans (ofClient_own same _))
        exact ⟨[.answer index], ⟨⟨there, patient_of_ne (by simp)⟩, trivial⟩, shows_next⟩
      · refine ⟨[], trivial, seen.unseen ?_ ?_⟩
        · exact congrArg _ arrived
        · exact (congrArg _ acked).trans (ofClient_other same _)

/-- Every step is one of the joint's or none, and gives up only what the joint does. -/
theorem Shows.step (seen : Shows id link joint) {event : Event}
    (allowed : (patientSystem id).allows link event)
    (reached : (system id).Reachable link) :
    ∃ acts, PasteJoint.patientSystem.AllowsAll joint acts ∧
      Shows id (link.step id event) (acts.foldl PasteJoint.step joint) := by
  obtain ⟨possible, patient⟩ := allowed
  cases event with
  | reader event =>
      have able : PasteJoint.system.allows joint (.reader event) := by
        obtain ⟨fair, lasts, unheard⟩ := possible
        exact ⟨seen.client.symm ▸ fair, lasts, unheard⟩
      refine ⟨[.reader event], ⟨⟨able, ?_⟩, trivial⟩, seen.reader event⟩
      rintro ⟨asked, same, abandons, busy⟩
      rw [seen.client] at abandons busy
      exact patient ⟨asked, congrArg _ (PasteJoint.Event.reader.inj same), abandons, busy⟩
  | serve event =>
      have next := (serves reached).next possible.1
      exact seen.serve (PasteServer.answered_once next id) possible.2
  | deliver =>
      have able : PasteJoint.system.allows joint .deliver :=
        fun none_ => possible (seen.acks.symm.trans none_)
      exact ⟨[.deliver], ⟨⟨able, patient_of_ne (by simp)⟩, trivial⟩, seen.deliver possible⟩

/-- Whatever a patient client and the server go through, a patient joint goes through. -/
theorem shown (reached : (patientSystem id).Reachable link) :
    ∃ joint, PasteJoint.patientSystem.Reachable joint ∧ Shows id link joint := by
  refine System.Reachable.followed (fun link valid => ?_) (fun link event joint reached seen allowed => ?_)
    reached
  · obtain ⟨fresh, ⟨_, _, _, _, arrived, _, acked⟩, heard⟩ := valid
    refine ⟨{ client := link.client }, ⟨fresh, rfl, rfl, rfl⟩, rfl, ?_, ?_, ?_, ?_⟩
    · simp [PasteServer.heardFrom, arrived]
    · simp [going, PasteServer.ackedTo, acked]
    · rw [heard]
      exact Nat.zero_le _
    · simp [PasteServer.heardFrom, PasteServer.ackedTo, arrived, acked]
  · exact seen.step allowed reached.unguarded

/-- Of a client that gives nothing up on its way the server has never more chunks unanswered than
the credit, and hears no chunk but in credit. -/
theorem in_credit (reached : (patientSystem id).Reachable link) :
    (link.server.heardFrom id).length ≤ (link.server.ackedTo id).length + kPasteCredit ∧
      ∀ chunk watching, (patientSystem id).allows link (.serve (.arrive id chunk watching)) →
        inCredit link.server (.arrive id chunk watching) := by
  obtain ⟨joint, led, seen⟩ := shown reached
  have within := (PasteJoint.Counted.of_reachable led).within
  have held := seen.held.length_eq
  rw [List.length_append, List.length_map, List.length_map] at held
  rw [PasteJoint.unanswered, seen.arrived] at within
  refine ⟨by omega, fun chunk watching allowed => ?_⟩
  have coming := allowed.1.2 chunk watching rfl
  obtain ⟨there, _⟩ := List.getElem?_eq_some_iff.mp coming
  rw [← seen.client] at there
  change (link.server.heardFrom id).length < (link.server.ackedTo id).length + kPasteCredit
  omega

end

end

end PasteLink

end Ckmux
