import Mathlib
import Ckmux.Client.ReaderLaws

/-!
# A client that lost its session

A reader whose session was taken from it is to sit and wait. What its client heals by is
an attach, though, and being detached does not end a healing: its mirrors are kept, and
so is what they ask for.
-/

namespace Ckmux

open Proto (Message)
open Semantics (System)

section

variable [CkVision]

/-- An evicted client sends no attach its reader did not ask for. -/
def KeepsAway (reader : Reader) (event : ReaderEvent) : Prop :=
  reader.evicted = true → event.asks = false →
    ∀ message ∈ (reader.step event).session.sent.drop reader.session.sent.length,
      message.isAttach = false

/-- An evicted client comes upon nothing to repair, or has asked already: behind a batch
all of its mirrors are sound, and it is told of no screen it does not know. -/
def NothingToRepair (reader : Reader) (event : ReaderEvent) : Prop :=
  reader.evicted = true → reader.session.repairs event = false

/-- A reader keeps away exactly if there is nothing for it to repair. -/
theorem keepsAway_iff {reader : Reader} {event : ReaderEvent}
    (allowed : readerSystem.allows reader event) :
    KeepsAway reader event ↔ NothingToRepair reader event := by
  refine imp_congr_right fun _ => ?_
  cases own : event.asks with
  | true =>
      -- A reader that goes to a session has nothing repaired.
      cases event with
      | switchTo => simp [ServerSession.repairs]
      | _ => cases own
  | false =>
      rw [imp_iff_right rfl]
      cases needed : reader.session.repairs event with
      | false =>
          obtain ⟨said, leads, calm⟩ := reader.session.step_quiet allowed own needed
          have led : (reader.step event).session.sent = reader.session.sent ++ said := leads
          simpa [led] using calm
      | true =>
          have led : (reader.step event).session.sent = _ := reader.session.step_repairs needed
          simp [led, Message.isAttach]

/-- A client that was evicted stays away all along a run exactly if all along the run it
comes upon nothing to repair. -/
theorem evicted_stays_away_iff {reader : Reader} {events : List ReaderEvent}
    (allowed : readerSystem.AllowsAll reader events) :
    readerSystem.Throughout KeepsAway reader events ↔
      readerSystem.Throughout NothingToRepair reader events :=
  @System.throughout_congr _ _ readerSystem (fun _ => True) _ _ (fun _ _ _ _ => trivial)
    (fun _ _ _ here => keepsAway_iff here) _ trivial _ allowed

end

/-! ### A session lost -/

/-- A client is in a session of one screen. -/
def settledEvents : List ReaderEvent :=
  [.switchTo 1 .takeOver ⟨80, 24⟩ {},
    .hear (.attached ⟨1, { terminals := [{ term := 5, columns := 2, rows := 1 }] }⟩)]

/-- What it is told when somebody else takes the session. -/
def evictedEvents : List ReaderEvent :=
  settledEvents ++ [.hear (.detached ⟨.takeover, []⟩), .heal]

/-- The same, with a delta lost on the way. -/
def gappedEvents : List ReaderEvent :=
  settledEvents ++
    [.hear (.gridDelta { term := 5, seq := 2 }), .hear (.detached ⟨.takeover, []⟩), .heal]

/-- A reader can be taken over and stay so. -/
theorem evictedEvents_allowed : (@readerSystem asciiVision).AllowsAll {} evictedEvents :=
  ⟨trivial, trivial, trivial, trivial, trivial⟩

/-- A reader can be taken over and then hear a delta it cannot use. -/
theorem gappedEvents_allowed : (@readerSystem asciiVision).AllowsAll {} gappedEvents :=
  ⟨trivial, trivial, trivial, trivial, trivial, trivial⟩

/-- One that lacks nothing stays away. -/
theorem evicted_stays_away_settled :
    (@readerSystem asciiVision).Throughout (@KeepsAway asciiVision) {} evictedEvents := by
  refine (@evicted_stays_away_iff asciiVision {} _ evictedEvents_allowed).mpr
    ⟨?_, ?_, ?_, ?_, trivial⟩
  · exact fun evicted => absurd evicted (by decide)
  · exact fun _ => rfl
  · exact fun _ => rfl
  · exact fun _ => by decide +kernel

/-- One that lacks something takes its session back. -/
theorem evicted_takes_back : ¬∀ reader events, (@readerSystem asciiVision).AllowsAll reader events →
    (@readerSystem asciiVision).Throughout (@KeepsAway asciiVision) reader events := by
  intro always
  obtain ⟨_, _, _, _, last, _⟩ := always {} gappedEvents gappedEvents_allowed
  revert last
  unfold KeepsAway
  decide +kernel

end Ckmux
