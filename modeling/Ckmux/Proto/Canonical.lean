import Mathlib
import Ckmux.Proto.RoundTrip

/-!
# What an accepted frame says

Every byte of an accepted frame is one its message would be written with, but
for the width of a cell: a reader has the terminal library measure a text again,
and the width it was told survives only when the library agrees.
-/

namespace Ckmux.Proto

open Grammar

/-- An accepted header is the one its fields are written as. -/
theorem readHeader_echoes : Echoes readHeader fun fields =>
    Put.seq [Put.u32 fields.1, Put.u16 fields.2.1, Put.u16 fields.2.2] :=
  .of_fields <| .field .u32 fun _ => .field .u16 fun _ => .field .u16 fun _ => .done rfl

section

variable [CkVision]

/-- A payload that is accepted is accepted whole. -/
theorem decodePayload_eq_ok {rebuild : Rebuild} {type : MessageType} {payload : Bytes}
    {message : Message} {taken : Nat} :
    decodePayload rebuild type payload = .ok (message, taken) ↔
      (decodeAlternative rebuild type).run payload = some (message, []) ∧
        taken = kHeaderBytes + payload.length := by
  unfold decodePayload
  rcases (decodeAlternative rebuild type).run payload with - | ⟨other, - | ⟨byte, rest⟩⟩
  · simp
  · simp only [Except.ok.injEq, Prod.mk.injEq, Option.some.injEq, and_true]
    exact and_congr_right fun _ => eq_comm
  · simp

/-- What is accepted begins with a whole frame within its cap. -/
theorem decodeWith_eq_ok {rebuild : Rebuild} {bytes : Bytes} {message : Message} {taken : Nat}
    (accepted : decodeWith rebuild bytes = .ok (message, taken)) :
    ∃ type payload rest, bytes = header payload.length type ++ payload ++ rest ∧
      payload.length ≤ payloadCap type ∧ taken = kHeaderBytes + payload.length ∧
      (decodeAlternative rebuild type).run payload = some (message, []) := by
  unfold decodeWith at accepted
  split at accepted
  · cases accepted
  · rename_i payloadLength typeNumber flags body headerRead
    obtain ⟨front, rfl, written⟩ := readHeader_echoes _ _ _ headerRead
    split at accepted
    · cases accepted
    · rename_i type named
      split_ifs at accepted with large reserved short
      rw [MessageType.ofWire_eq_some] at named
      obtain ⟨read, rfl⟩ := decodePayload_eq_ok.mp accepted
      have whole : (body.take payloadLength.toNat).length = payloadLength.toNat := by
        rw [List.length_take]
        omega
      refine ⟨type, body.take payloadLength.toNat, body.drop payloadLength.toNat, ?_,
        by rw [whole]; omega, rfl, read⟩
      have zero : flags = 0 := not_not.mp reserved
      have stated : writeHeader payloadLength.toNat type = some front := by
        rw [← written, writeHeader, named, zero, UInt32.ofNat_toNat]
      rw [whole, header, stated, Option.getD_some, List.append_assoc, List.take_append_drop]

/-- What is read as a type is of that type. -/
theorem typeOf_decodeAlternative {rebuild : Rebuild} {type : MessageType} {input rest : Bytes}
    {message : Message} (read : (decodeAlternative rebuild type).run input = some (message, rest)) :
    typeOf message = type := by
  cases type <;>
  · obtain ⟨_, _, _, done⟩ := Get.run_bind_eq_some.mp read
    cases done
    rfl

/-- The runs of cells a frame states, as it states them. -/
def statedRuns (bytes : Bytes) : List CellRun :=
  match decodeWith asStated bytes with
  | .ok (stated, _) => stated.runs
  | .error _ => []

variable [CkVision.Lawful]

/-- A message that is written again takes the bytes it was read from, the same
bytes exactly when its stated widths are the measured ones. -/
theorem Message.restates (type : MessageType) :
    Restates (decodeAlternative measured type) (decodeAlternative asStated type) Message.write
      fun stated => ∀ run ∈ stated.runs, KeepsWidth run.cell := by
  -- A message without cells is written back as it was read.
  have plain {Body : Type} {reader : Get Body} {part : Body → Put} (echoes : Echoes reader part)
      (wrap : Body → Message) (same : ∀ body, Message.write (wrap body) = part body)
      (none : ∀ body, (wrap body).runs = []) :
      Restates (reader >>= fun read => pure (wrap read)) (reader >>= fun read => pure (wrap read))
        Message.write fun stated => ∀ run ∈ stated.runs, KeepsWidth run.cell :=
    (Restates.of_echoes echoes).map wrap wrap same fun body => by simp [none]
  cases type with
  | hello => exact plain Hello.echoes Message.hello (fun _ => rfl) fun _ => rfl
  | helloAck => exact plain HelloAck.echoes Message.helloAck (fun _ => rfl) fun _ => rfl
  | refuse => exact plain Refuse.echoes Message.refuse (fun _ => rfl) fun _ => rfl
  | ping => exact plain Nonce.echoes Message.ping (fun _ => rfl) fun _ => rfl
  | pong => exact plain Nonce.echoes Message.pong (fun _ => rfl) fun _ => rfl
  | listSessions => exact plain Empty.echoes Message.listSessions (fun _ => rfl) fun _ => rfl
  | newSession => exact plain NewSession.echoes Message.newSession (fun _ => rfl) fun _ => rfl
  | attach => exact plain Attach.echoes Message.attach (fun _ => rfl) fun _ => rfl
  | detach => exact plain Empty.echoes Message.detach (fun _ => rfl) fun _ => rfl
  | clientResize => exact plain ClientResize.echoes Message.clientResize (fun _ => rfl) fun _ => rfl
  | renameSession => exact plain RenameSession.echoes Message.renameSession (fun _ => rfl) fun _ => rfl
  | killSession => exact plain KillSession.echoes Message.killSession (fun _ => rfl) fun _ => rfl
  | killServer => exact plain Empty.echoes Message.killServer (fun _ => rfl) fun _ => rfl
  | sessionList => exact plain SessionList.echoes Message.sessionList (fun _ => rfl) fun _ => rfl
  | sessionsChanged => exact plain Empty.echoes Message.sessionsChanged (fun _ => rfl) fun _ => rfl
  | attached =>
      refine Attached.restates.map Message.attached Message.attached (fun _ => rfl) fun stated => ?_
      exact List.forall_mem_flatMap
  | detached => exact plain Detached.echoes Message.detached (fun _ => rfl) fun _ => rfl
  | newTerminal => exact plain NewTerminal.echoes Message.newTerminal (fun _ => rfl) fun _ => rfl
  | closeTerminal => exact plain CloseTerminal.echoes Message.closeTerminal (fun _ => rfl) fun _ => rfl
  | killTerminal => exact plain TerminalRef.echoes Message.killTerminal (fun _ => rfl) fun _ => rfl
  | respawnTerminal => exact plain TerminalRef.echoes Message.respawnTerminal (fun _ => rfl) fun _ => rfl
  | setDesktopSize => exact plain SetDesktopSize.echoes Message.setDesktopSize (fun _ => rfl) fun _ => rfl
  | setReaderMode => exact plain SetReaderMode.echoes Message.setReaderMode (fun _ => rfl) fun _ => rfl
  | readerMode => exact plain ReaderMode.echoes Message.readerMode (fun _ => rfl) fun _ => rfl
  | moveTerminal => exact plain MoveTerminal.echoes Message.moveTerminal (fun _ => rfl) fun _ => rfl
  | moveResize => exact plain MoveResize.echoes Message.moveResize (fun _ => rfl) fun _ => rfl
  | raise => exact plain TerminalRef.echoes Message.raise (fun _ => rfl) fun _ => rfl
  | focusTerm => exact plain TerminalRef.echoes Message.focusTerm (fun _ => rfl) fun _ => rfl
  | zoomTerm => exact plain ZoomTerm.echoes Message.zoomTerm (fun _ => rfl) fun _ => rfl
  | setLayout => exact plain SetLayout.echoes Message.setLayout (fun _ => rfl) fun _ => rfl
  | renameTerminal => exact plain RenameTerminal.echoes Message.renameTerminal (fun _ => rfl) fun _ => rfl
  | input => exact plain Input.echoes Message.input (fun _ => rfl) fun _ => rfl
  | pasteChunk => exact plain PasteChunk.echoes Message.pasteChunk (fun _ => rfl) fun _ => rfl
  | pasteAck => exact plain PasteAck.echoes Message.pasteAck (fun _ => rfl) fun _ => rfl
  | layoutDelta => exact plain LayoutDelta.echoes Message.layoutDelta (fun _ => rfl) fun _ => rfl
  | termOpened => exact plain TermOpened.echoes Message.termOpened (fun _ => rfl) fun _ => rfl
  | termClosed => exact plain TermClosed.echoes Message.termClosed (fun _ => rfl) fun _ => rfl
  | termMeta => exact plain TermMeta.echoes Message.termMeta (fun _ => rfl) fun _ => rfl
  | gridDelta =>
      refine GridDelta.restates.map Message.gridDelta Message.gridDelta (fun _ => rfl) fun stated => ?_
      exact List.forall_mem_flatMap
  | imageAddBegin => exact plain ImageAddBegin.echoes Message.imageAddBegin (fun _ => rfl) fun _ => rfl
  | imageChunk => exact plain ImageChunk.echoes Message.imageChunk (fun _ => rfl) fun _ => rfl
  | imageEnd => exact plain ImageRef.echoes Message.imageEnd (fun _ => rfl) fun _ => rfl
  | imagePlace => exact plain ImagePlace.echoes Message.imagePlace (fun _ => rfl) fun _ => rfl
  | imageRemove => exact plain ImageRemove.echoes Message.imageRemove (fun _ => rfl) fun _ => rfl
  | clipboardSet => exact plain ClipboardSet.echoes Message.clipboardSet (fun _ => rfl) fun _ => rfl
  | termDiagnostic => exact plain TermDiagnostic.echoes Message.termDiagnostic (fun _ => rfl) fun _ => rfl
  | error => exact plain Error.echoes Message.error (fun _ => rfl) fun _ => rfl
  | setPrinterPolicy => exact plain SetPrinterPolicy.echoes Message.setPrinterPolicy (fun _ => rfl) fun _ => rfl
  | printState => exact plain PrintState.echoes Message.printState (fun _ => rfl) fun _ => rfl
  | printJobAdded => exact plain PrintJobAdded.echoes Message.printJobAdded (fun _ => rfl) fun _ => rfl
  | printJobFetch => exact plain PrintJobFetch.echoes Message.printJobFetch (fun _ => rfl) fun _ => rfl
  | printJobData => exact plain PrintJobData.echoes Message.printJobData (fun _ => rfl) fun _ => rfl
  | printJobDiscard => exact plain PrintJobDiscard.echoes Message.printJobDiscard (fun _ => rfl) fun _ => rfl
  | watchStats => exact plain WatchStats.echoes Message.watchStats (fun _ => rfl) fun _ => rfl
  | termStats => exact plain TermStats.echoes Message.termStats (fun _ => rfl) fun _ => rfl

/-- An accepted frame is the frame of its message exactly when every cell it
states has the width the terminal library measures. -/
theorem encode_decode_iff {bytes : Bytes} {message : Message} {taken : Nat}
    (accepted : decode bytes = .ok (message, taken)) :
    encode message = bytes.take taken ↔ ∀ run ∈ statedRuns bytes, KeepsWidth run.cell := by
  obtain ⟨type, payload, rest, rfl, within, rfl, read⟩ := decodeWith_eq_ok accepted
  obtain ⟨consumed, written, stated, split, verbatim, wrote, sized, same⟩ :=
    Message.restates type payload message [] read
  rw [List.append_nil] at split
  subst split
  have named := typeOf_decodeAlternative read
  have framed := encode_of_write wrote (by rw [named, sized]; exact within)
  have statedFrame : decodeWith asStated (header payload.length type ++ payload ++ rest) =
      .ok (stated, kHeaderBytes + payload.length) := by
    rw [decodeWith_frame asStated type payload within, decodePayload_eq_ok]
    exact ⟨verbatim, rfl⟩
  have front : (header payload.length type ++ payload ++ rest).take
      (kHeaderBytes + payload.length) = header payload.length type ++ payload := by
    rw [List.take_left']
    rw [List.length_append, header_length]
  rw [framed, named, sized, front, List.append_cancel_left_eq, statedRuns, statedFrame]
  exact same.symm

end

/-- A letter stated one column wide is kept. -/
theorem encode_decode_letter :
    encode (letterDelta 1) = (encode (letterDelta 1) ++ [7]).take 50 := by
  have accepted : @decode asciiVision (encode (letterDelta 1) ++ [7]) = .ok (letterDelta 1, 50) :=
    rfl
  refine (@encode_decode_iff asciiVision asciiVision_lawful _ _ _ accepted).mpr ?_
  have stated : @statedRuns asciiVision (encode (letterDelta 1) ++ [7]) =
      [⟨3, ⟨[97], 1, {}⟩⟩] := rfl
  intro run member texted
  rw [stated, List.mem_singleton] at member
  rw [member]
  rfl

/-- A letter stated two columns wide is accepted and comes out one column wide. -/
theorem decode_wide_letter :
    @decode asciiVision (encode (letterDelta 2)) = .ok (letterDelta 1, 50) ∧
      encode (letterDelta 1) ≠ (encode (letterDelta 2)).take 50 :=
  ⟨rfl, by decide⟩

end Ckmux.Proto
