import MyuTcp.Core.Run

/-!
# Send attempts of a step

Where a step calls {lit}`_handle_try_send`, and what the calls put on the wire.

Main results:

- Theorem {lit}`newDatagrams_handleTrySend`: an attempt sends one data segment or
  nothing.
- Theorem {lit}`payloadSent_step`: the data segments of a step are those of its send
  attempts, as long as no timer expires and no third duplicate is counted.
-/

namespace MyuTcp

open Library

namespace TcpSession

/-- Payload bytes among these packets. -/
def newPayloadBytes (s s' : TcpSession) : Nat :=
  ((newDatagrams s s').map fun d => d.packet.payload.length).sum

/-- The packets with payload handed to the driver so far. -/
def payloadSent (s : TcpSession) : List Datagram :=
  s.sent.filter fun d => !d.packet.payload.isEmpty

/-- The sessions on which {lit}`input` calls {lit}`_handle_try_send`, for a packet that
passed its checks. -/
def dispatchCalls (packet : MyuTcpPacket) (s : TcpSession) : List TcpSession :=
  match s.state with
  | .synSent =>
      if packet.has flagSyn && packet.has flagAck then
        if packet.ack ≠ s.sendWindow.sendUnack + 1 then [] else [s.acceptSynAck packet]
      else []
  | .synReceived =>
      if !packet.has flagAck then []
      else if packet.ack ≠ s.sendWindow.sendUnack + 1 then []
      else [s.acceptSynReceivedAck packet]
  | .established =>
      if packet.has flagAck then
        if s.acceptsAck packet.ack then
          [s.processAck packet.ack, (s.processAck packet.ack).handleTrySend]
        else [s]
      else []
  | .closeWait => [s.sendPureAck s.recvWindow.recvNext]
  | _ => []

/-- The sessions on which a step calls {lit}`_handle_try_send`, in order. -/
def trySendCalls (s : TcpSession) : Event → List TcpSession
  | .send data =>
      if data.isEmpty then []
      else
        match s.sendBuffer.pushBatch
            (data.take (min data.length (s.sendBuffer.capacity - s.sendBuffer.size))) with
        | none => []
        | some buffer => [{ s with sendBuffer := buffer }]
  | .close => if s.state = .established then [s] else []
  | .input packet _ =>
      if !verifyChecksum packet then []
      else if packet.has flagRst then []
      else if lacksFlags packet then []
      else (s.observe packet).dispatchCalls packet
  | _ => []

/-! ## One attempt -/

/-- A send attempt sends one data segment or nothing. -/
theorem newDatagrams_handleTrySend (s : TcpSession) :
    newDatagrams s s.handleTrySend =
      if s.Transmits then [s.datagram flagAck s.recvWindow.recvNext s.nextPayload] else [] := by
  split <;> rename_i h
  · rw [newDatagrams, s.handleTrySend_of_transmits h]
    exact List.drop_left
  · rw [newDatagrams, s.handleTrySend_of_not h]
    exact List.drop_length

/-- How many bytes an attempt sends. -/
theorem newPayloadBytes_handleTrySend (s : TcpSession) :
    newPayloadBytes s s.handleTrySend = if s.Transmits then s.nextPayload.length else 0 := by
  rw [newPayloadBytes, newDatagrams_handleTrySend]
  split
  · simp [datagram]
  · rfl

/-- All that an attempt sends is payload. -/
theorem payloadSent_handleTrySend (s : TcpSession) :
    s.handleTrySend.payloadSent = s.payloadSent ++ newDatagrams s s.handleTrySend := by
  rw [newDatagrams_handleTrySend]
  split <;> rename_i h
  · have hne := s.nextPayload_ne_nil h
    rw [s.handleTrySend_of_transmits h]
    simp [payloadSent, datagram, hne]
  · rw [s.handleTrySend_of_not h, List.append_nil]

/-! ## Everything else sends no data -/

section NoPayload

variable (s : TcpSession) (packet : MyuTcpPacket)

/-- A pure ACK is no payload. -/
@[simp]
theorem payloadSent_sendPureAck (ackNum : UInt32) :
    (s.sendPureAck ackNum).payloadSent = s.payloadSent := by
  simp [sendPureAck_eq, payloadSent, datagram]

/-- A control packet is no payload. -/
@[simp]
theorem payloadSent_sendControlPacket (flags : UInt8) :
    (s.sendControlPacket flags).payloadSent = s.payloadSent := by
  by_cases h : ((flags &&& flagSyn != 0) || (flags &&& flagFin != 0)) = true
  · simp [sendControlPacket_eq s h, payloadSent, datagram]
  · have hhas : ((calculateChecksum (s.segment flags s.recvWindow.recvNext [])).has flagSyn ||
        (calculateChecksum (s.segment flags s.recvWindow.recvNext [])).has flagFin) = false := by
      simpa using h
    rw [sendControlPacket, hhas]
    simp [payloadSent, sendPacket]

/-- {lit}`connect()` sends no payload. -/
theorem payloadSent_connect (iss : UInt32) : (s.connect iss).payloadSent = s.payloadSent :=
  payloadSent_sendControlPacket _ flagSyn

/-- The FIN of ESTABLISHED is no payload. -/
theorem payloadSent_closeEstablished : s.closeEstablished.payloadSent = s.payloadSent :=
  payloadSent_sendControlPacket _ flagFin

/-- The FIN of CLOSE_WAIT is no payload. -/
theorem payloadSent_closeCloseWait : s.closeCloseWait.payloadSent = s.payloadSent :=
  payloadSent_sendControlPacket _ (flagFin ||| flagAck)

/-- The reset of an abandoned opening is no payload. -/
theorem payloadSent_abortOpening : s.abortOpening.payloadSent = s.payloadSent :=
  payloadSent_sendControlPacket _ flagRst

/-- The answer to a SYN-ACK is no payload. -/
theorem payloadSent_acceptSynAck : (s.acceptSynAck packet).payloadSent = s.payloadSent :=
  payloadSent_sendPureAck _ _

/-- The answer to a crossing SYN is no payload. -/
theorem payloadSent_acceptPeerSyn : (s.acceptPeerSyn packet).payloadSent = s.payloadSent :=
  payloadSent_sendControlPacket _ (flagSyn ||| flagAck)

/-- The answer to a SYN is no payload. -/
theorem payloadSent_handleListen (iss : UInt32) :
    (s.handleListen packet iss).payloadSent = s.payloadSent := by
  rw [handleListen]
  split
  · rfl
  · exact payloadSent_sendControlPacket _ (flagSyn ||| flagAck)

/-- The answer to a FIN is no payload. -/
theorem payloadSent_acceptFin : (s.acceptFin packet).payloadSent = s.payloadSent :=
  payloadSent_sendPureAck _ _

/-- The FIN of {lit}`handle_close_wait` is no payload. -/
theorem payloadSent_finishCloseWait : s.finishCloseWait.payloadSent = s.payloadSent := by
  rw [finishCloseWait]
  split
  · exact payloadSent_sendControlPacket _ flagFin
  · rfl

/-- An acknowledgment that is no third duplicate sends nothing. -/
theorem payloadSent_processAck {ackNum : UInt32} (h : ¬ s.ThirdDuplicate ackNum) :
    (s.processAck ackNum).payloadSent = s.payloadSent := by
  rw [s.processAck_of_not h]
  rfl

/-- The automatic close sends no payload. -/
theorem payloadSent_closeOnEof : s.closeOnEof.payloadSent = s.payloadSent := by
  rw [closeOnEof]
  split <;> rename_i hempty
  · have hstate : s.state = .closeWait := by simpa using And.right (by simpa using hempty)
    split
    · simp only [close, hstate]
      exact s.payloadSent_closeCloseWait
    · rfl
  · rfl

/-- Received payload is answered without payload. -/
theorem payloadSent_handleEstablishedPayload {s' : TcpSession}
    (h : s.handleEstablishedPayload packet = some s') : s'.payloadSent = s.payloadSent := by
  by_cases hpayload : packet.payload = []
  · rw [handleEstablishedPayload_nil hpayload, Option.some.injEq] at h
    rw [h]
  · rcases handleEstablishedPayload_frame hpayload h with ⟨m, q, n, t, ackNum, c, -, rfl⟩
    simp [payloadSent, datagram]

/-- A received FIN is answered without payload. -/
theorem payloadSent_handleEstablishedFin :
    (s.handleEstablishedFin packet).payloadSent = s.payloadSent := by
  rw [handleEstablishedFin]
  split
  · exact s.payloadSent_acceptFin packet
  · rfl

end NoPayload

/-! ## The data segments of a step -/

/-- The event counts a third duplicate. -/
def CountsThirdDuplicate (s : TcpSession) : Event → Prop
  | .input packet _ => s.ThirdDuplicate packet.ack
  | _ => False

/-- In ESTABLISHED payload is sent by the attempts only. -/
theorem payloadSent_handleEstablished {s s' : TcpSession} {packet : MyuTcpPacket}
    (hstate : s.state = .established) (hdup : ¬ s.ThirdDuplicate packet.ack)
    (h : s.handleEstablished packet = some s') :
    s'.payloadSent = s.payloadSent ++
      (s.dispatchCalls packet).flatMap fun c => newDatagrams c c.handleTrySend := by
  rw [handleEstablished] at h
  obtain ⟨s₂, hs₂, rfl⟩ := Option.map_eq_some_iff.mp h
  rw [payloadSent_handleEstablishedFin, payloadSent_handleEstablishedPayload _ _ hs₂]
  simp only [dispatchCalls, hstate, handleAck]
  split
  · split
    · simp only [List.flatMap_cons, List.flatMap_nil, List.append_nil, payloadSent_handleTrySend,
        s.payloadSent_processAck hdup, List.append_assoc]
    · simp only [List.flatMap_cons, List.flatMap_nil, List.append_nil, payloadSent_handleTrySend]
  · simp

/-- So it is in every state. -/
theorem payloadSent_dispatch {s s' : TcpSession} {packet : MyuTcpPacket} {iss : UInt32}
    (hdup : ¬ s.ThirdDuplicate packet.ack) (h : s.dispatch packet iss = some s') :
    s'.payloadSent = s.payloadSent ++
      (s.dispatchCalls packet).flatMap fun c => newDatagrams c c.handleTrySend := by
  rw [dispatch] at h
  split at h <;> rename_i hstate
  case h_5 => exact payloadSent_handleEstablished hstate hdup h
  all_goals
    cases h
    simp only [dispatchCalls, hstate]
  · simp [payloadSent]
  · simp [payloadSent_handleListen]
  · rw [handleSynSent]
    split
    · split
      · simp
      · simp [payloadSent_handleTrySend, payloadSent_acceptSynAck]
    · split
      · simp [payloadSent_acceptPeerSyn]
      · simp
  · rw [handleSynReceived]
    split
    · simp
    · split
      · simp
      · simp only [List.flatMap_cons, List.flatMap_nil, List.append_nil,
          payloadSent_handleTrySend]
        rfl
  · have hack : (s.handleFinWait1Ack packet).payloadSent = s.payloadSent := by
      rw [handleFinWait1Ack]
      split <;> rfl
    rw [handleFinWait1]
    split
    · exact ((payloadSent_acceptFin _ packet).trans hack).trans (List.append_nil _).symm
    · simp [hack]
  · rw [handleFinWait2]
    split
    · exact (payloadSent_acceptFin _ packet).trans (List.append_nil _).symm
    · simp
  · rw [handleCloseWait, payloadSent_finishCloseWait]
    simp [payloadSent_handleTrySend]
  · rw [handleLastAck]
    split
    · simp
    · split
      · simp
      · exact (List.append_nil _).symm
  · rw [handleTimedWait]
    split
    · simp [payloadSent_acceptFin]
    · simp

/-- The data segments of a step are those of its send attempts, as long as no timer
expires and no third duplicate is counted. -/
theorem payloadSent_step {s s' : TcpSession} {e : Event} (hexpire : ∀ k, e ≠ .expire k)
    (hdup : ¬ s.CountsThirdDuplicate e) (h : step s e = some s') :
    s'.payloadSent = s.payloadSent ++
      (trySendCalls s e).flatMap fun c => newDatagrams c c.handleTrySend := by
  cases e with
  | setRemoteAddr ip port => cases h; simp [trySendCalls, setRemoteAddr, payloadSent]
  | setListenerPort port => cases h; simp [trySendCalls, setListenerPort, payloadSent]
  | connect iss => cases h; simp [trySendCalls, payloadSent_connect]
  | listen =>
      cases h
      rw [listen]
      split <;> simp [trySendCalls, transitionTo, payloadSent]
  | send data =>
      cases h
      rw [send, trySendCalls]
      split
      · simp
      · cases hpush : s.sendBuffer.pushBatch
            (data.take (min data.length (s.sendBuffer.capacity - s.sendBuffer.size))) with
        | none => simp only [hpush, List.flatMap_nil, List.append_nil]
        | some buffer =>
            simp only [hpush, payloadSent_handleTrySend, List.flatMap_cons, List.flatMap_nil,
              List.append_nil]
            rfl
  | recv bufSize =>
      cases h
      rw [recv, payloadSent_closeOnEof]
      simp [trySendCalls, payloadSent]
  | readAll =>
      cases h
      rw [readAll, payloadSent_closeOnEof]
      simp [trySendCalls, payloadSent]
  | close =>
      cases h
      rw [close]
      split <;> rename_i hstate
      · simp [trySendCalls, hstate, payloadSent_closeEstablished, payloadSent_handleTrySend]
      · simp [trySendCalls, hstate, payloadSent_closeCloseWait]
      all_goals simp [trySendCalls, hstate, payloadSent_abortOpening]
  | input packet iss =>
      rw [trySendCalls]
      rw [step, input] at h
      split at h
      · cases h
        simp_all
      split at h
      · cases h
        simp_all [handleReset, payloadSent, transitionTo, notify]
      split at h
      · cases h
        simp_all
      · have hcount := countDupAck_congr (s := s.observe packet) (t := s) rfl rfl packet.ack
        have hdup' : ¬ (s.observe packet).ThirdDuplicate packet.ack := by
          rw [ThirdDuplicate, hcount.1]
          exact hdup
        simp_all only
        exact payloadSent_dispatch hdup' h
  | expire k => exact absurd rfl (hexpire k)
  | expire2Msl =>
      rw [step] at h
      split at h
      · cases h
        simp [trySendCalls, handle2MslTimeout, transitionTo, notify, payloadSent]
      · contradiction

end TcpSession

end MyuTcp
