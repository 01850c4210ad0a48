import Mathlib
import Ckmux.Agreement.Company
import Ckmux.Server.Takeover

/-!
# Healing among others

A reader that has lost track asks for its session whole, and the way to ask is to attach
again, in the mode its reader attached with. If that was a takeover it takes the session
over once more, and from whomever the server comes upon first.
-/

namespace Ckmux

open Proto (Message)
open Semantics (System)

namespace Company

section

variable [CkVision] [Emulator]

/-- A heal that is handled of a client attached to a session leaves everybody else who is
attached to it attached. -/
def HealSpares (company : Company) : CompanyEvent → Prop
  | .handle id =>
      company.healing id = true →
        ∀ healer, company.server.client id = some healer → healer.attached = true →
          ∀ other reader, other ≠ id → company.server.client other = some reader →
            reader.attached = true → reader.session = healer.session →
              ∃ still, (company.step (.handle id)).server.client other = some still ∧
                still.attached = true ∧ still.session = reader.session
  | _ => True

end

/-- A heal that is handled does not ask for a takeover, or the server comes first upon the
client that is healed. -/
def HealYields (company : Company) : CompanyEvent → Prop
  | .handle id =>
      ∀ request, company.healing id = true → company.coming id = some (.attach request) →
        attachModeOf request = .takeOver →
          ∀ healer, company.server.client id = some healer → healer.attached = true →
            ∀ session made, company.server.attachSession request = (some session, made) →
              session.id = healer.session →
                ∀ first, company.server.clientAttachedTo session.id = some first → first.id = id
  | _ => True

end Company

section

variable [CkVision] [Emulator] {company : Company}

/-- Everybody in a company knows which of its messages were heals. -/
theorem tagged_of_reachable (reached : companySystem.Reachable company) (id : ClientId) :
    (company.readers id).Tagged := by
  refine @System.Reachable.invariant _ _ companySystem
    (fun company => ∀ id, (company.readers id).Tagged) ?_ ?_ _ reached id
  · intro company valid id place healed
    rw [(valid.2 id).2.1] at healed
    cases healed
  · intro company event tagged allowed id
    have heard : ∀ changed event, readerSystem.allows (company.readers changed) event →
        (Function.update company.readers changed
          ((company.readers changed).step event) id).Tagged := by
      intro changed event allowed
      by_cases same : id = changed
      · subst same
        rw [Function.update_self]
        exact (tagged id).step allowed
      · rw [Function.update_of_ne same]
        exact tagged id
    cases event with
    | server event => exact tagged id
    | handle id =>
        rw [companySystem_step, Company.step]
        split <;> exact tagged _
    | hear changed =>
        rw [companySystem_step, Company.step]
        split
        · exact tagged _
        · exact heard changed (.hear _) trivial
    | reader changed event =>
        refine heard changed event ?_
        cases event with
        | hear => exact allowed.elim
        | _ => exact allowed

end

namespace Server

variable [Emulator] {server : Server} {id : ClientId} {client : Client} {request : Proto.Attach}

/-- An attach to a session there is not is refused, which is its sender's business. -/
theorem handle_attach_refused (found : server.client id = some client) (ready : client.Ready)
    {made : Server} (asked : server.attachSession request = (none, made)) {other : ClientId}
    (another : other ≠ id) :
    (server.handle id (.attach request)).client other = server.client other := by
  rw [handle_attach found ready, Server.attach, asked]
  refine ((Spares.refuse made id _ _ _).client another).trans ?_
  rw [Server.client, (attachSession_same asked).1]
  rfl

/-- Joining is nobody else's business. -/
theorem handle_attach_joins (found : server.client id = some client) (ready : client.Ready)
    (mode : attachModeOf request ≠ .takeOver) {session : Session} {made : Server}
    (asked : server.attachSession request = (some session, made)) {other : ClientId}
    (another : other ≠ id) :
    (server.handle id (.attach request)).client other = server.client other := by
  rw [handle_attach found ready, Server.attach, asked]
  refine (sendSnapshot_client _ another).trans ?_
  rw [seat, client_setClient (settle_id request session.id), if_neg another, if_neg mode,
    Server.client]
  change made.clients.find? _ = _
  rw [(attachSession_same asked).1]
  rfl

end Server

section

variable [CkVision] [Emulator] {company : Company}

/-- A heal spares everybody else exactly if it yields. -/
theorem healSpares_iff (reached : companySystem.Reachable company) (event : CompanyEvent) :
    company.HealSpares event ↔ company.HealYields event := by
  cases event with
  | handle id =>
      have sound := Server.reachable_sound (server_reachable reached)
      constructor
      · intro spares request healing coming mode healer found attached session made asked own first
          there
        by_contra another
        -- Whoever is first is detached, being attached to the session.
        have ready := sound.seated healer (Server.client_mem found) attached
        have among := List.mem_of_find?_eq_some there
        obtain ⟨active, here⟩ := Server.Client.attached_of_reads
          (List.find?_some (p := fun client : Client => client.reads session.id) there)
        obtain ⟨gone, now, left, _⟩ :=
          Server.handle_takeover_first sound found ready mode asked there another
        obtain ⟨still, later, stays, _⟩ := spares healing healer found attached first.id first another
          (Data.find_of_mem sound.distinct among) active (here.trans own)
        rw [Company.step, coming] at later
        obtain rfl := Option.some.inj (now.symm.trans later)
        exact absurd (left.symm.trans stays) Bool.false_ne_true
      · intro yields healing healer found attached other reader another known active together
        obtain ⟨request, sent⟩ := tagged_of_reachable reached id _ (of_decide_eq_true healing)
        have coming : company.coming id = some (.attach request) := sent
        have ready := sound.seated healer (Server.client_mem found) attached
        suffices same : (company.server.handle id (.attach request)).client other =
            company.server.client other by
          refine ⟨reader, ?_, active, rfl⟩
          rw [Company.step, coming]
          exact same.trans known
        rcases asked : company.server.attachSession request with ⟨_ | session, made⟩
        · exact Server.handle_attach_refused found ready asked another
        · by_cases mode : attachModeOf request = .takeOver
          · by_cases idle : ∀ first, company.server.clientAttachedTo session.id = some first →
                first.id = id
            · exact Server.handle_takeover_idle found ready mode asked idle another
            · push Not at idle
              obtain ⟨first, there, rival⟩ := idle
              refine Server.handle_takeover_apart found ready mode asked there rival another ?_
              rintro rfl
              -- Whoever is first is in the session that is healed.
              have among := List.mem_of_find?_eq_some there
              have same := Data.find_of_mem sound.distinct among
              obtain rfl := Option.some.inj (known.symm.trans same)
              obtain ⟨_, here⟩ := Server.Client.attached_of_reads
                (List.find?_some (p := fun client : Client => client.reads session.id) there)
              exact rival (yields request healing coming mode healer found attached session made
                asked (here.symm.trans together) _ there)
          · exact Server.handle_attach_joins found ready mode asked another
  | _ => exact Iff.rfl

/-- Healing evicts nobody all along a run exactly if every heal yields. -/
theorem healing_evicts_nobody_iff (reached : companySystem.Reachable company)
    {events : List CompanyEvent} (allowed : companySystem.AllowsAll company events) :
    companySystem.Throughout Company.HealSpares company events ↔
      companySystem.Throughout Company.HealYields company events :=
  @System.throughout_congr _ _ companySystem companySystem.Reachable _ _
    (fun _ _ earlier here => earlier.next here)
    (fun _ event earlier _ => healSpares_iff earlier event) _ reached _ allowed

end

/-! ### A reader that lags -/

/-- A screen of one row, just drawn. -/
def drawn (text : String) : TerminalSubsession :=
  { status := { cells := ⟨2, 1⟩ }
    cells := [⟨text.toUTF8.toList, 1, {}⟩, ⟨[32], 1, {}⟩]
    damage := { any := true, full := true } }

/-- The second of two clients makes itself a session, attaching in some mode, and opens a
terminal there, whose child draws. -/
def openingEvents (mode : AttachMode) : List CompanyEvent :=
  [.server .connect, .server .connect, .reader 1 (.say hello), .reader 2 (.say hello),
    .handle 1, .handle 2, .reader 2 (.switchTo 0 mode ⟨4, 2⟩ {}), .handle 2, .hear 2, .hear 2,
    .reader 2 (.say (.newTerminal { rect := ⟨0, 0, 2, 1⟩ })), .handle 2, .handle 2,
    .server (.output 1 (drawn "a") {}), .server .tick, .hear 2, .hear 2, .hear 2, .hear 2]

/-- The first joins it there, and the screens are counted anew. The second lags behind and
heals itself. -/
def laggingEvents (mode : AttachMode) : List CompanyEvent :=
  openingEvents mode ++
    [.reader 1 (.switchTo 1 .join ⟨4, 2⟩ {}), .handle 1, .server (.output 1 (drawn "b") {}),
      .server .tick, .hear 2, .hear 2, .reader 2 .heal]

/-- A server nobody has come to yet. -/
def freshCompany : Company := { server := freshServer, readers := fun _ => {} }

/-- The company with a reader that lags. -/
def lagging (mode : AttachMode) : Company :=
  (laggingEvents mode).foldl (@companySystem asciiVision blankEmulator).step freshCompany

/-- The lagging is a run, in either mode. -/
theorem laggingEvents_allowed : ∀ mode,
    (@companySystem asciiVision blankEmulator).AllowsAll freshCompany (laggingEvents mode)
  | .takeOver => by decide +kernel
  | .join => by decide +kernel
  | .watch => by decide +kernel

/-- The company is reached so. -/
theorem lagging_reached (mode : AttachMode) :
    (@companySystem asciiVision blankEmulator).Reachable (lagging mode) :=
  have fresh : (@companySystem asciiVision blankEmulator).initial freshCompany :=
    ⟨⟨{}, _, 0, rfl⟩, fun _ => ⟨rfl, rfl, rfl, rfl⟩⟩
  (System.Reachable.start fresh).follow _ (laggingEvents_allowed mode)

/-- The mode an attachment asks for. -/
def askedMode : Message → Option AttachMode
  | .attach request => some (attachModeOf request)
  | _ => none

/-- One that has joined evicts nobody as it heals. -/
theorem healing_evicts_nobody_joined :
    (@companySystem asciiVision blankEmulator).Throughout
      (@Company.HealSpares asciiVision blankEmulator) (lagging .join) [.handle 2] := by
  have hears : (@companySystem asciiVision blankEmulator).AllowsAll (lagging .join) [.handle 2] :=
    ⟨by decide +kernel, trivial⟩
  refine (@healing_evicts_nobody_iff asciiVision blankEmulator _ (lagging_reached .join) _
    hears).mpr ⟨?_, trivial⟩
  intro request _ coming mode
  have joins : ((lagging .join).coming 2).bind askedMode = some .join := by decide +kernel
  rw [coming] at joins
  cases (Option.some.inj joins).symm.trans mode

/-- One that took its session over takes it over again as it heals. -/
theorem healing_evicts : ¬∀ company events,
    (@companySystem asciiVision blankEmulator).Reachable company →
      (@companySystem asciiVision blankEmulator).AllowsAll company events →
        (@companySystem asciiVision blankEmulator).Throughout
          (@Company.HealSpares asciiVision blankEmulator) company events := by
  intro always
  have hears : (lagging .takeOver).server.hears 2 := by decide +kernel
  obtain ⟨spares, _⟩ := always _ [.handle 2] (lagging_reached .takeOver) ⟨hears, trivial⟩
  obtain ⟨still, found, attached, _⟩ := spares (by decide +kernel)
    (clientOf (lagging .takeOver).server 2) (Server.eq_some_getD (by decide +kernel) _)
    (by decide +kernel) 1 (clientOf (lagging .takeOver).server 1) (by decide)
    (Server.eq_some_getD (by decide +kernel) _) (by decide +kernel) (by decide +kernel)
  have gone : ((@Company.step asciiVision blankEmulator (lagging .takeOver)
      (.handle 2)).server.client 1).any Client.attached = false := by decide +kernel
  rw [found, Option.any_some] at gone
  exact Bool.false_ne_true (gone.symm.trans attached)

end Ckmux
