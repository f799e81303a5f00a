import MyuTcp.Core.Transfer
import MyuTcp.Properties.ClosedSession

/-!
# Opening and closing without loss

The packets of a session between {lit}`connect()` and ESTABLISHED, and between {lit}`close()` and
CLOSED, when every packet arrives once and in order and no timer expires.

Main results:

- Theorems {lit}`Created.connects`, {lit}`Listening.receiveSyn`, {lit}`SynSent.receiveSynAck` and
  {lit}`SynReceived.receiveAck`: the three-way handshake.
- Theorems {lit}`Transferring.close`, {lit}`Transferring.receiveFin`, {lit}`FinSent.receiveAck`,
  {lit}`FinTaken.readAll`, {lit}`FinAcked.receiveFin` and {lit}`LastAck.receiveAck`: the two halves
  of the close.
-/

namespace MyuTcp

open Library

namespace TcpSession

/-- A packet that passes the checks, with given flags and numbers and no payload. -/
structure IsControl (flags : UInt8) (seqNum ackNum : UInt32) (packet : MyuTcpPacket) : Prop where
  admitted : Admitted packet
  has : ∀ flag, packet.has flag = (flags &&& flag != 0)
  payload : packet.payload = []
  seq : packet.seq = seqNum
  ack : packet.ack = ackNum

/-- What a session sends without data is a control packet. -/
theorem isControl_datagram (u : TcpSession) {flags : UInt8} (ackNum : UInt32)
    (hflags : flags = flagSyn ∨ flags = flagSyn ||| flagAck ∨ flags = flagAck ∨
      flags = flagFin ∨ flags = flagFin ||| flagAck) :
    IsControl flags u.sendWindow.sendNext ackNum (u.datagram flags ackNum []).packet where
  admitted := by
    refine ⟨verifyChecksum_calculateChecksum _ (Nat.zero_le _), ?_, ?_⟩
    · rw [datagram_has]
      rcases hflags with rfl | rfl | rfl | rfl | rfl <;> decide
    · rw [lacksFlags, datagram_has, datagram_has, datagram_has]
      rcases hflags with rfl | rfl | rfl | rfl | rfl <;> decide
  has flag := datagram_has _ _ _ _ flag
  payload := rfl
  seq := datagram_seq _ _ _ _
  ack := datagram_ack _ _ _ _

/-- At most the packet timer of the number is active. -/
structure ArmedOnly (seqNum : UInt32) (s : TcpSession) : Prop where
  armed : ∀ k, k ≠ seqNum → s.timerManager.activeAt k = none
  twoMsl : s.timerManager.twoMslActive = false

/-- Only the new timer is active. -/
theorem Silent.startTimer {s s' : TcpSession} (h : s.Silent) {k : UInt32} {timeoutMs : UInt64}
    {c : RetransmitClosure}
    (htimers : s'.timerManager = s.timerManager.startTimer k timeoutMs c) : ArmedOnly k s' := by
  constructor
  · intro j hj
    rw [htimers, TimerManager.activeAt_startTimer, if_neg hj]
    exact h.1 j
  · rw [htimers, TimerManager.twoMslActive_startTimer]
    exact h.2

/-- After the only timer is stopped none is active. -/
theorem ArmedOnly.stopTimer {s s' : TcpSession} {k : UInt32} (h : ArmedOnly k s)
    (htimers : s'.timerManager = s.timerManager.stopTimer k) : s'.Silent := by
  constructor
  · intro j
    rw [htimers, TimerManager.activeAt_stopTimer]
    split <;> rename_i hj
    · rfl
    · exact h.armed j hj
  · rw [htimers, TimerManager.twoMslActive_stopTimer]
    exact h.twoMsl

/-- The timers alone decide. -/
theorem Silent.of_eq {s s' : TcpSession} (h : s.Silent)
    (htimers : s'.timerManager = s.timerManager) : s'.Silent := by
  rw [Silent, htimers]
  exact h

/-! ## Opening -/

/-- Nothing is buffered, and the windows are those of a new session. -/
structure Unused (s : TcpSession) : Prop where
  sendBuffer : s.sendBuffer.toList = []
  recvBuffer : s.recvBuffer.toList = []
  stored : NothingStored s
  threshold : s.ssthresh = 8
  window : s.sendWindow.sendWindowSize = 1
  auto : s.autoCloseOnEof = true
  once : Once s

/-- The session has answered a SYN, and only its own SYN has a timer. -/
structure SynReceived (y peer : UInt32) (s : TcpSession) : Prop
    extends Unused s, ArmedOnly y s where
  state : s.state = .synReceived
  sendUnack : s.sendWindow.sendUnack = y
  sendNext : s.sendWindow.sendNext = y + 1
  recvNext : s.recvWindow.recvNext = peer

section Opening

variable {x y own peer ackNum : UInt32} {s : TcpSession} {packet : MyuTcpPacket}

/-- A new session has sent no data. -/
theorem Created.unused (h : Created s) : Unused s := by
  have honce := h.once
  cases h
  exact ⟨rfl, rfl, nothingStored_createSession _ _ _ _ _ _, rfl, rfl, rfl, honce⟩

/-- A new session has no timers. -/
theorem Created.silent (h : Created s) : s.Silent := by
  refine ⟨h.activeAt, ?_⟩
  cases h
  rfl

/-- What a session with the windows of a new one is once it is established. -/
theorem Unused.transferring (h : Unused s) (hstate : s.state = .established)
    (hunack : s.sendWindow.sendUnack = own) (hnext : s.sendWindow.sendNext = own)
    (hrecv : s.recvWindow.recvNext = peer) : Transferring own peer [] s where
  state := hstate
  sendUnack := hunack
  sendBuffer := h.sendBuffer
  recvNext := hrecv
  stored := h.stored
  threshold := h.threshold
  auto := h.auto
  window_pos := by
    rw [h.window]
    decide
  window_le := by
    rw [h.window]
    exact (by decide : (1 : UInt32).toNat ≤ 16).trans (Nat.le_add_left _ _)
  sendNext := by
    rw [hnext, flight_nil]
    exact (UInt32.add_zero own).symm
  once := h.once

/-- The acknowledgment of its SYN establishes the listening session, and its timer is gone. -/
theorem SynReceived.receiveAck (h : SynReceived y peer s)
    (hpacket : IsControl flagAck own (y + 1) packet) (iss : UInt32) :
    ∃ s', step s (.input packet iss) = some s' ∧ Transferring (y + 1) peer [] s' ∧
      s'.recvBuffer.toList = [] ∧ s'.Silent ∧ s'.sent = s.sent := by
  have hack : packet.has flagAck = true := by rw [hpacket.has]; decide
  have hexpected : packet.ack = (s.observe packet).sendWindow.sendUnack + 1 := by
    rw [hpacket.ack]
    exact congrArg (· + 1) h.sendUnack.symm
  have hstep : step s (.input packet iss) =
      some ((s.observe packet).acceptSynReceivedAck packet).handleTrySend := by
    rw [step, input_of_admitted hpacket.admitted, dispatch,
      show (s.observe packet).state = .synReceived from h.state]
    simp only [handleSynReceived, hack, Bool.not_true, Bool.false_eq_true, if_false]
    rw [if_neg (not_not.mpr hexpected)]
  have hempty : ¬ ((s.observe packet).acceptSynReceivedAck packet).Transmits := by
    rintro ⟨-, -, hsize⟩
    rw [← RingQueue.length_toList] at hsize
    have hbuffer : ((s.observe packet).acceptSynReceivedAck packet).sendBuffer.toList = [] :=
      h.sendBuffer
    rw [hbuffer] at hsize
    exact absurd hsize (Nat.not_lt_zero _)
  rw [handleTrySend_of_not _ hempty] at hstep
  have honce := once_step (e := .input packet iss) h.once trivial hstep
  have hunused : Unused ((s.observe packet).acceptSynReceivedAck packet) :=
    { h.toUnused with
      stored := h.stored.of_eq rfl rfl
      once := honce }
  have hsilent : Silent ((s.observe packet).acceptSynReceivedAck packet) := by
    refine h.toArmedOnly.stopTimer ?_
    rw [← UInt32.add_sub_cancel y 1, ← hpacket.ack]
    rfl
  exact ⟨_, hstep, hunused.transferring rfl hpacket.ack h.sendNext h.recvNext, h.recvBuffer,
    hsilent, rfl⟩

end Opening

/-! ## Closing -/

/-- The session that closes first has sent its FIN, and nothing else has a timer. -/
structure FinSent (own peer : UInt32) (s : TcpSession) : Prop extends ArmedOnly own s where
  state : s.state = .finWait1
  sendUnack : s.sendWindow.sendUnack = own
  recvNext : s.recvWindow.recvNext = peer

/-- Its FIN has been acknowledged. -/
structure FinAcked (peer : UInt32) (s : TcpSession) : Prop where
  state : s.state = .finWait2
  recvNext : s.recvWindow.recvNext = peer
  silent : s.Silent

/-- The other session has taken the FIN behind all data, and all data has been read. -/
structure FinTaken (own peer : UInt32) (s : TcpSession) : Prop where
  state : s.state = .closeWait
  sendUnack : s.sendWindow.sendUnack = own
  sendNext : s.sendWindow.sendNext = own
  recvNext : s.recvWindow.recvNext = peer
  recvBuffer : s.recvBuffer.toList = []
  auto : s.autoCloseOnEof = true

/-- It has sent its own FIN. -/
structure LastAck (own : UInt32) (s : TcpSession) : Prop where
  state : s.state = .lastAck
  sendUnack : s.sendWindow.sendUnack = own

/-- The session waits for the end of its 2MSL timer only. -/
structure TimeWait (s : TcpSession) : Prop where
  state : s.state = .timeWait
  unarmed : ∀ k, s.timerManager.activeAt k = none
  twoMsl : s.timerManager.twoMslActive = true

section Closing

variable {own peer seqNum ackNum : UInt32} {s : TcpSession} {packet : MyuTcpPacket}

/-- With nothing to say the next number is that of the stream. -/
theorem Transferring.sendNext_of_nil (h : Transferring own peer [] s) :
    s.sendWindow.sendNext = own := by
  rw [h.sendNext, flight_nil]
  exact UInt32.add_zero own

/-- A session without unacknowledged data sends its FIN at once. -/
theorem Transferring.close (h : Transferring own peer [] s) :
    ∃ s', step s .close = some s' ∧ FinSent own peer s' ∧
      ∃ u : TcpSession, u.sendWindow.sendNext = own ∧
        s'.sent = s.sent ++ [u.datagram flagFin peer []] := by
  have hstep : step s .close = some s.closeEstablished := by
    rw [step, TcpSession.close, h.state]
    exact congrArg (fun u => some u.closeEstablished)
      (handleTrySend_of_not _ (h.not_transmits h.sendNext))
  rw [closeEstablished_eq, h.recvNext] at hstep
  -- whatever timers were left are stopped first
  have hstopped : { s with timerManager := s.timerManager.stopAllTimers }.Silent :=
    silent_of_stopAllTimers rfl
  rw [h.sendNext_of_nil] at hstep
  refine ⟨_, hstep, ⟨hstopped.startTimer rfl, rfl, h.sendUnack, h.recvNext⟩, s,
    h.sendNext_of_nil, rfl⟩

/-- A session that has read everything takes the FIN and acknowledges it. -/
theorem Transferring.receiveFin (h : Transferring own peer [] s)
    (hread : s.recvBuffer.toList = []) (hpacket : IsControl flagFin peer ackNum packet)
    (iss : UInt32) :
    ∃ s', step s (.input packet iss) = some s' ∧ FinTaken own (peer + 1) s' ∧
      s'.timerManager = s.timerManager ∧
      ∃ u : TcpSession, s'.sent = s.sent ++ [u.datagram flagAck (peer + 1) []] := by
  have hack : packet.has flagAck = false := by rw [hpacket.has]; decide
  have hfin : packet.has flagFin = true := by rw [hpacket.has]; decide
  have hinput := input_established hpacket.admitted h.state iss
  rw [handleEstablishedAck, if_neg (Bool.eq_false_iff.mp hack),
    handleEstablishedPayload_nil hpacket.payload, Option.map_some, handleEstablishedFin,
    if_pos hfin, acceptFin, hpacket.seq] at hinput
  exact ⟨_, hinput, ⟨rfl, h.sendUnack, h.sendNext_of_nil, rfl, hread, h.auto⟩, rfl, _, rfl⟩

/-- The acknowledgment of its FIN leaves the first session without a packet timer. -/
theorem FinSent.receiveAck (h : FinSent own peer s)
    (hpacket : IsControl flagAck seqNum (own + 1) packet) (iss : UInt32) :
    ∃ s', step s (.input packet iss) = some s' ∧ FinAcked peer s' ∧ s'.sent = s.sent := by
  have hfin : packet.has flagFin = false := by rw [hpacket.has]; decide
  have hack : packet.has flagAck = true := by rw [hpacket.has]; decide
  have hexpected : packet.ack = (s.observe packet).sendWindow.sendUnack + 1 := by
    rw [hpacket.ack]
    exact congrArg (· + 1) h.sendUnack.symm
  have hstep : step s (.input packet iss) =
      some (((s.observe packet).transitionTo .finWait2).advanceUnack packet.ack) := by
    rw [step, input_of_admitted hpacket.admitted, dispatch,
      show (s.observe packet).state = .finWait1 from h.state]
    dsimp only
    rw [handleFinWait1, hfin, handleFinWait1Ack, hack, hexpected]
    simp
  have hsilent :
      Silent (((s.observe packet).transitionTo .finWait2).advanceUnack packet.ack) := by
    refine h.toArmedOnly.stopTimer ?_
    rw [← UInt32.add_sub_cancel own 1, ← hpacket.ack]
    rfl
  exact ⟨_, hstep, ⟨rfl, h.recvNext, hsilent⟩, rfl⟩

/-- The read that finds nothing left closes the second session. -/
theorem FinTaken.readAll (h : FinTaken own peer s) :
    ∃ s', step s .readAll = some s' ∧ s.readAll.1 = [] ∧ LastAck own s' ∧
      (s.Silent → ArmedOnly own s') ∧
      ∃ u : TcpSession, u.sendWindow.sendNext = own ∧
        s'.sent = s.sent ++ [u.datagram (flagFin ||| flagAck) peer []] := by
  have hsize : s.recvBuffer.size = 0 := by
    rw [← RingQueue.length_toList, h.recvBuffer]
    rfl
  have hempty : s.recvBuffer.isEmpty = true := by
    rw [isEmpty_eq_decide, hsize]
    rfl
  have hread : s.readAll = ([], s.closeCloseWait) := by
    rw [TcpSession.readAll, hsize]
    dsimp only [readLoop]
    rw [closeOnEof_of_eof hempty h.state h.auto]
  have hstep : step s .readAll = some s.closeCloseWait := by
    rw [step, hread]
  rw [closeCloseWait_eq, h.recvNext, h.sendNext] at hstep
  exact ⟨_, hstep, by rw [hread], ⟨rfl, h.sendUnack⟩, fun hsilent => hsilent.startTimer rfl, s,
    h.sendNext, rfl⟩

/-- The first session acknowledges the other FIN and starts its 2MSL timer. -/
theorem FinAcked.receiveFin (h : FinAcked peer s)
    (hpacket : IsControl (flagFin ||| flagAck) peer ackNum packet) (iss : UInt32) :
    ∃ s', step s (.input packet iss) = some s' ∧ TimeWait s' ∧
      ∃ u : TcpSession, s'.sent = s.sent ++ [u.datagram flagAck (peer + 1) []] := by
  have hfin : packet.has flagFin = true := by rw [hpacket.has]; decide
  have hstep : step s (.input packet iss) =
      some ((((s.observe packet).acceptFin packet).transitionTo .timeWait).start2MslTimer) := by
    rw [step, input_of_admitted hpacket.admitted, dispatch,
      show (s.observe packet).state = .finWait2 from h.state]
    dsimp only
    rw [handleFinWait2, if_pos hfin]
  rw [acceptFin, hpacket.seq] at hstep
  exact ⟨_, hstep, ⟨rfl, h.silent.1, rfl⟩, _, rfl⟩

/-- The acknowledgment of its FIN closes the second session. -/
theorem LastAck.receiveAck (h : LastAck own s)
    (hpacket : IsControl flagAck seqNum (own + 1) packet) (iss : UInt32) :
    ∃ s', step s (.input packet iss) = some s' ∧ s'.state = .closed ∧
      (ArmedOnly own s → s'.Silent) ∧ s'.sent = s.sent := by
  have hack : packet.has flagAck = true := by rw [hpacket.has]; decide
  have hseq : packet.ack = s.sendWindow.sendUnack + 1 := by rw [hpacket.ack, h.sendUnack]
  have hstep : step s (.input packet iss) = _ := step_lastAck hpacket.admitted h.state hack hseq
  refine ⟨_, hstep, rfl, fun harmed => harmed.stopTimer ?_, rfl⟩
  rw [← UInt32.add_sub_cancel own 1, ← hpacket.ack]
  rfl

/-- The end of its 2MSL timer closes the first one. -/
theorem TimeWait.expire (h : TimeWait s) :
    ∃ s', step s .expire2Msl = some s' ∧ s'.state = .closed ∧ s'.Silent ∧ s'.sent = s.sent :=
  ⟨_, step_expire2Msl h.twoMsl, rfl, ⟨h.unarmed, rfl⟩, rfl⟩

end Closing

end TcpSession

end MyuTcp
