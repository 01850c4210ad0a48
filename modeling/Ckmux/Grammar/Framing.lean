import Mathlib
import Ckmux.Grammar.Wire

/-!
# Taking frames off a stream

A `Framing` looks at the front of some bytes and takes one message, waits for
more, or fails. Two laws make a stream's messages independent of how it is cut:
more bytes behind a message do not change it, and more bytes behind a failure do
not cure it. `drain` takes messages until it must wait or has failed, and
`deliver` drains after each of several arrivals.
-/

namespace Ckmux.Grammar

variable {Message Error : Type}

/-- What the front of some bytes is. -/
inductive Look (Message Error : Type) where
  | frame (message : Message) (taken : Nat)
  | wait
  | fail (error : Error)

/-- A way to cut messages off the front of a stream. -/
structure Framing (Message Error : Type) where
  look : Bytes → Look Message Error
  taken_pos : ∀ {bytes message taken}, look bytes = .frame message taken → 0 < taken
  taken_le : ∀ {bytes message taken}, look bytes = .frame message taken → taken ≤ bytes.length
  frame_append : ∀ {bytes message taken}, look bytes = .frame message taken →
    ∀ more, look (bytes ++ more) = .frame message taken
  fail_append : ∀ {bytes error}, look bytes = .fail error → ∀ more, look (bytes ++ more) = .fail error

/-- Messages taken, what is left, and the failure that stopped the taking. -/
structure Drained (Message Error : Type) where
  messages : List Message
  rest : Bytes
  stop : Option Error

namespace Framing

variable (framing : Framing Message Error)

/-- Messages are taken until the front of the stream is not one. -/
def drain (pending : Bytes) : Drained Message Error :=
  match _found : framing.look pending with
  | .frame message taken =>
      let others := drain (pending.drop taken)
      { others with messages := message :: others.messages }
  | .wait => ⟨[], pending, none⟩
  | .fail error => ⟨[], pending, some error⟩
termination_by pending.length
decreasing_by
  have positive := framing.taken_pos _found
  have within := framing.taken_le _found
  rw [List.length_drop]
  omega

variable {framing}

/-- A frame that is found comes first, and what is behind it is drained. -/
theorem drain_frame {pending : Bytes} {message : Message} {taken : Nat}
    (found : framing.look pending = .frame message taken) :
    framing.drain pending =
      { framing.drain (pending.drop taken) with
        messages := message :: (framing.drain (pending.drop taken)).messages } := by
  rw [drain]
  split
  · rename_i other size same
    rw [found] at same
    cases same
    rfl
  · rename_i same
    rw [found] at same
    cases same
  · rename_i error same
    rw [found] at same
    cases same

/-- What waits for more drains to nothing. -/
theorem drain_wait {pending : Bytes} (found : framing.look pending = .wait) :
    framing.drain pending = ⟨[], pending, none⟩ := by
  rw [drain]
  split <;> simp_all

/-- What fails drains to nothing, and says so. -/
theorem drain_fail {pending : Bytes} {error : Error} (found : framing.look pending = .fail error) :
    framing.drain pending = ⟨[], pending, some error⟩ := by
  rw [drain]
  split <;> simp_all

/-- Nothing drained leaves something to drain: what is left waits, or fails the
same way. -/
theorem drain_rest (pending : Bytes) :
    framing.drain (framing.drain pending).rest =
      ⟨[], (framing.drain pending).rest, (framing.drain pending).stop⟩ := by
  induction pending using drain.induct framing with
  | case1 pending message taken found ih => rw [drain_frame found]; exact ih
  | case2 pending found => rw [drain_wait found]; exact drain_wait found
  | case3 pending error found => rw [drain_fail found]; exact drain_fail found

/-- What was drained, and then what more bytes add to what was left. -/
def andThen (first second : Drained Message Error) : Drained Message Error :=
  { second with messages := first.messages ++ second.messages }

/-- Draining what arrived and then what arrives next drains both at once. -/
theorem drain_append (pending more : Bytes) :
    framing.drain (pending ++ more) =
      andThen (framing.drain pending)
        (framing.drain ((framing.drain pending).rest ++ more)) := by
  induction pending using drain.induct framing with
  | case1 pending message taken found ih =>
      have within := framing.taken_le found
      rw [drain_frame (framing.frame_append found more), drain_frame found,
        List.drop_append_of_le_length within, ih]
      rfl
  | case2 pending found =>
      rw [drain_wait found]
      rfl
  | case3 pending error found =>
      rw [drain_fail found]
      rfl

/-- Bytes behind a failure are never reached. -/
theorem drain_append_of_stop {pending : Bytes} {error : Error}
    (stopped : (framing.drain pending).stop = some error) (more : Bytes) :
    framing.drain ((framing.drain pending).rest ++ more) =
      ⟨[], (framing.drain pending).rest ++ more, some error⟩ := by
  induction pending using drain.induct framing with
  | case1 pending message taken found ih =>
      rw [drain_frame found] at stopped ⊢
      exact ih stopped
  | case2 pending found =>
      rw [drain_wait found] at stopped
      cases stopped
  | case3 pending other found =>
      rw [drain_fail found] at stopped ⊢
      cases stopped
      exact drain_fail (framing.fail_append found more)

/-! ### Arrivals -/

variable (framing) in
/-- Arrivals in order, everything drained after each. -/
def deliver (pending : Bytes) : List Bytes → List (Drained Message Error)
  | [] => []
  | chunk :: chunks =>
      let now := framing.drain (pending ++ chunk)
      now :: deliver now.rest chunks

end Framing

/-- All the messages of a log of arrivals. -/
def messagesOf (log : List (Drained Message Error)) : List Message :=
  log.flatMap Drained.messages

/-- The first failure of a log of arrivals, and how many messages came before. -/
def firstFailure : List (Drained Message Error) → Option (Error × Nat)
  | [] => none
  | now :: later =>
      match now.stop with
      | some error => some (error, now.messages.length)
      | none => (firstFailure later).map fun (error, count) => (error, now.messages.length + count)

namespace Framing

variable {framing : Framing Message Error}

/-- Behind a failure nothing more is taken, however much arrives. -/
theorem deliver_of_stop {pending : Bytes} {error : Error}
    (stopped : (framing.drain pending).stop = some error) (chunks : List Bytes) :
    messagesOf (framing.deliver (framing.drain pending).rest chunks) = [] := by
  induction chunks generalizing pending with
  | nil => rfl
  | cons chunk chunks ih =>
      have now := drain_append_of_stop stopped chunk
      have again : (framing.drain ((framing.drain pending).rest ++ chunk)).stop = some error := by
        rw [now]
      rw [deliver, messagesOf, List.flatMap_cons, ← messagesOf, ih again, now]
      rfl

/-- However a stream is cut into arrivals, its messages and its first failure are
those of the whole. -/
theorem deliver_eq {pending : Bytes} (waiting : framing.drain pending = ⟨[], pending, none⟩)
    (chunks : List Bytes) :
    messagesOf (framing.deliver pending chunks) =
        (framing.drain (pending ++ chunks.flatten)).messages ∧
      firstFailure (framing.deliver pending chunks) =
        firstFailure [framing.drain (pending ++ chunks.flatten)] := by
  induction chunks generalizing pending with
  | nil =>
      rw [List.flatten_nil, List.append_nil, waiting]
      exact ⟨rfl, rfl⟩
  | cons chunk chunks ih =>
      have joined := @drain_append _ _ framing (pending ++ chunk) chunks.flatten
      rw [List.flatten_cons, ← List.append_assoc, joined]
      cases stop : (framing.drain (pending ++ chunk)).stop with
      | some error =>
          have later := drain_append_of_stop stop chunks.flatten
          have nothing := deliver_of_stop stop chunks
          simp only [deliver, messagesOf, List.flatMap_cons] at nothing ⊢
          rw [nothing, later]
          simp [andThen, firstFailure, stop]
      | none =>
          have settled := @drain_rest _ _ framing (pending ++ chunk)
          rw [stop] at settled
          obtain ⟨messages, failure⟩ := ih settled
          simp only [deliver, messagesOf, List.flatMap_cons, firstFailure, stop] at messages failure ⊢
          rw [messages, failure]
          refine ⟨rfl, ?_⟩
          simp only [andThen, List.length_append]
          cases (framing.drain ((framing.drain (pending ++ chunk)).rest ++ chunks.flatten)).stop <;> rfl

end Framing

end Ckmux.Grammar
