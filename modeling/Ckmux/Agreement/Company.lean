import Mathlib
import Ckmux.Client.ReaderLaws
import Ckmux.Server.SoundRuns

/-!
# A server and its company

A server and however many clients. Each client's messages are handled one after another
in the order it sent them, and the server's heard likewise, with anything in between. A
client may come with what it kept of an earlier connection.
-/

namespace Ckmux

open Proto (Message)
open Semantics (System)

/-- Of what a client has sent the first `handled` messages have been handled, and of what
it was sent it has heard the first `heard`. -/
structure Company where
  server : Server
  readers : ClientId → Reader
  handled : ClientId → Nat := fun _ => 0
  heard : ClientId → Nat := fun _ => 0

/-- Something happens to the server, it handles what a reader has sent next, or a reader hears what
it was sent next. -/
inductive CompanyEvent where
  | server (event : ServerEvent)
  | handle (id : ClientId)
  | hear (id : ClientId)
  | reader (id : ClientId) (event : ReaderEvent)

namespace Company

section

variable (company : Company) (id : ClientId)

/-- A client's message that is to be handled next. -/
def coming : Option Message := (company.readers id).session.sent[company.handled id]?

/-- The server's message that a client is to hear next. -/
def going : Option Message :=
  (company.server.client id).bind fun client => client.stream.sent[company.heard id]?

/-- Whether what is to be handled next is a client healing itself. -/
def healing : Bool := company.handled id ∈ (company.readers id).heals

end

section

variable [CkVision] [Emulator]

/-- The company after one event. -/
def step (company : Company) : CompanyEvent → Company
  | .server event => { company with server := company.server.step event }
  | .handle id =>
      match company.coming id with
      | none => company
      | some message =>
          { company with
            server := company.server.handle id message
            handled := Function.update company.handled id (company.handled id + 1) }
  | .hear id =>
      match company.going id with
      | none => company
      | some message =>
          { company with
            readers := Function.update company.readers id
              ((company.readers id).step (.hear message))
            heard := Function.update company.heard id (company.heard id + 1) }
  | .reader id event =>
      { company with
        readers := Function.update company.readers id ((company.readers id).step event) }

end

end Company

section

variable [CkVision] [Emulator]

/-- What the server hears was said by a client, and the other way round. -/
def companySystem : System Company CompanyEvent where
  initial company :=
    serverSystem.initial company.server ∧
      ∀ id, (company.readers id).session.sent = [] ∧ (company.readers id).heals = [] ∧
        company.handled id = 0 ∧ company.heard id = 0
  allows company
    | .server (.message ..) => False
    | .server event => serverSystem.allows company.server event
    | .handle id => company.server.hears id
    | .hear _ => True
    | .reader _ (.hear _) => False
    | .reader id event => readerSystem.allows (company.readers id) event
  step := Company.step

/-- A step of the system is a step of the company. -/
@[simp] theorem companySystem_step : companySystem.step = Company.step := rfl

instance (company : Company) : ∀ event, Decidable (companySystem.allows company event)
  | .server (.message ..) | .reader _ (.hear _) => .isFalse id
  | .handle id => inferInstanceAs (Decidable (company.server.hears id))
  | .hear _ => .isTrue trivial
  | .server .connect | .server .tick | .server .sweep | .server (.output ..) => .isTrue trivial
  | .server (.hangUp id) | .server (.writable id) | .server (.paste id _)
  | .server (.pasteAck id _) => inferInstanceAs (Decidable (company.server.hears id))
  | .server (.wait now) => inferInstanceAs (Decidable (company.server.nowNanos ≤ now))
  | .reader _ (.say message) => inferInstanceAs (Decidable (message.isAttach = false))
  | .reader _ .heal | .reader _ (.switchTo ..) | .reader _ (.setReaderMode ..)
  | .reader _ (.paste ..) | .reader _ (.desktopResized ..) | .reader _ (.reportLayout ..)
  | .reader _ (.watchStats ..) | .reader _ (.capabilities ..) | .reader _ .leave
  | .reader _ .lost => .isTrue trivial

variable {company : Company}

/-- The server of a company runs as a server does. -/
theorem server_reachable (reached : companySystem.Reachable company) :
    serverSystem.Reachable company.server := by
  refine @System.Reachable.invariant _ _ companySystem
    (fun company => serverSystem.Reachable company.server) (fun _ valid => .start valid.1) ?_ _ reached
  intro company event earlier allowed
  cases event with
  | server event =>
      refine earlier.take event ?_ rfl
      cases event with
      | message => exact allowed.elim
      | _ => exact allowed
  | handle id =>
      rw [companySystem_step, Company.step]
      split
      · exact earlier
      · exact earlier.take (.message id _) allowed rfl
  | hear id =>
      rw [companySystem_step, Company.step]
      split <;> exact earlier
  | reader id event => exact earlier

end

end Ckmux
