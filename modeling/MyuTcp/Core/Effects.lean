import MyuTcp.Core.Tcb

/-!
# Effects of the session functions

What each function of the control block changes, as equations between records.
Later files use these equations and the field lemmas below and do not unfold the
emission functions again.

Main results:

- Theorem {lit}`handleTrySend_of_transmits`: a send attempt that transmits adds one
  data segment at {lit}`send_next_`, with the slice of the send buffer behind the
  bytes in flight, and arms its timer.
- Theorem {lit}`handleTrySend_of_not`: every other attempt changes nothing.
- Theorem {lit}`readLoop_eq`: the read loops remove what they return.
- Theorem {lit}`handleEstablishedPayload_frame`: what received data changes.
- Theorem {lit}`storeOutOfOrder_eq`: a receive window of one byte stores no segment.
-/

namespace MyuTcp

namespace TcpSession

variable (s : TcpSession)

/-! ## Segments -/

/-- A segment starts at the next number of its session. -/
@[simp]
theorem segment_seq (flags : UInt8) (ackNum : UInt32) (payload : List UInt8) :
    (s.segment flags ackNum payload).seq = s.sendWindow.sendNext :=
  ntohl_htonl _

/-- A segment carries the acknowledgment that it is built with. -/
@[simp]
theorem segment_ack (flags : UInt8) (ackNum : UInt32) (payload : List UInt8) :
    (s.segment flags ackNum payload).ack = ackNum :=
  ntohl_htonl _

/-- A segment carries the payload that it is built with. -/
@[simp]
theorem segment_payload (flags : UInt8) (ackNum : UInt32) (payload : List UInt8) :
    (s.segment flags ackNum payload).payload = payload :=
  rfl

/-- A segment carries the flags that it is built with. -/
@[simp]
theorem segment_flags (flags : UInt8) (ackNum : UInt32) (payload : List UInt8) :
    (s.segment flags ackNum payload).header.flags = flags :=
  rfl

/-- Which flags a segment has, told from the flags that it is built with. -/
@[simp]
theorem segment_has (flags : UInt8) (ackNum : UInt32) (payload : List UInt8) (flag : UInt8) :
    (s.segment flags ackNum payload).has flag = (flags &&& flag != 0) :=
  rfl

/-- A retransmission keeps the number of its packet. -/
@[simp]
theorem refreshPacket_seq (packet : MyuTcpPacket) :
    (s.refreshPacket packet).seq = packet.seq := by
  rw [refreshPacket, calculateChecksum_seq]
  rfl

/-- A retransmission acknowledges what the session expects now. -/
@[simp]
theorem refreshPacket_ack (packet : MyuTcpPacket) :
    (s.refreshPacket packet).ack = s.recvWindow.recvNext := by
  rw [refreshPacket, calculateChecksum_ack]
  exact ntohl_htonl _

/-- A retransmission keeps the payload of its packet. -/
@[simp]
theorem refreshPacket_payload (packet : MyuTcpPacket) :
    (s.refreshPacket packet).payload = packet.payload := by
  rw [refreshPacket, calculateChecksum_payload]

/-- A retransmission keeps the flags of its packet. -/
@[simp]
theorem refreshPacket_flags (packet : MyuTcpPacket) :
    (s.refreshPacket packet).header.flags = packet.header.flags := by
  rw [refreshPacket, calculateChecksum_flags]
  rfl

/-- A retransmission has the flags that its packet has. -/
@[simp]
theorem refreshPacket_has (packet : MyuTcpPacket) (flag : UInt8) :
    (s.refreshPacket packet).has flag = packet.has flag := by
  rw [refreshPacket, calculateChecksum_has]
  rfl

/-- The datagram that carries a segment to the remote address. -/
def datagram (flags : UInt8) (ackNum : UInt32) (payload : List UInt8) : Datagram where
  packet := calculateChecksum (s.segment flags ackNum payload)
  destIp := s.remoteIp
  destPort := s.remotePort

/-- A datagram starts at the next number of its session. -/
@[simp]
theorem datagram_seq (flags : UInt8) (ackNum : UInt32) (payload : List UInt8) :
    (s.datagram flags ackNum payload).packet.seq = s.sendWindow.sendNext := by
  rw [datagram, calculateChecksum_seq, segment_seq]

/-- A datagram carries the acknowledgment that it is built with. -/
@[simp]
theorem datagram_ack (flags : UInt8) (ackNum : UInt32) (payload : List UInt8) :
    (s.datagram flags ackNum payload).packet.ack = ackNum := by
  rw [datagram, calculateChecksum_ack, segment_ack]

/-- A datagram carries the flags that it is built with. -/
@[simp]
theorem datagram_flags (flags : UInt8) (ackNum : UInt32) (payload : List UInt8) :
    (s.datagram flags ackNum payload).packet.header.flags = flags :=
  rfl

/-- Which flags a datagram has, told from the flags that it is built with. -/
@[simp]
theorem datagram_has (flags : UInt8) (ackNum : UInt32) (payload : List UInt8) (flag : UInt8) :
    (s.datagram flags ackNum payload).packet.has flag = (flags &&& flag != 0) :=
  rfl

/-- A datagram carries the payload that it is built with. -/
@[simp]
theorem datagram_payload (flags : UInt8) (ackNum : UInt32) (payload : List UInt8) :
    (s.datagram flags ackNum payload).packet.payload = payload :=
  rfl

/-- The closure that a control segment registers. -/
def controlClosure (flags : UInt8) (ackNum : UInt32) : RetransmitClosure where
  packet := calculateChecksum (s.segment flags ackNum [])
  retransmitCount := 0
  capturedIp := s.remoteIp
  capturedPort := s.remotePort

/-- The closure that a data segment registers. -/
def payloadClosure (payload : List UInt8) (flags : UInt8) : RetransmitClosure where
  packet := calculateChecksum (s.segment flags s.recvWindow.recvNext payload)
  retransmitCount := 0
  capturedIp := defaultCapturedIp
  capturedPort := defaultCapturedPort

/-! ## Emission -/

/-- A pure ACK only extends the log. -/
theorem sendPureAck_eq (ackNum : UInt32) :
    s.sendPureAck ackNum = { s with sent := s.sent ++ [s.datagram flagAck ackNum []] } :=
  rfl

/-- A control segment with SYN or FIN takes one number and arms its timer. -/
theorem sendControlPacket_eq {flags : UInt8}
    (h : (flags &&& flagSyn != 0) || (flags &&& flagFin != 0)) :
    s.sendControlPacket flags =
      { s with
        timerManager := s.timerManager.startTimer s.sendWindow.sendNext s.getTimeoutMs
          (s.controlClosure flags s.recvWindow.recvNext)
        sendWindow.sendNext := s.sendWindow.sendNext + 1
        sent := s.sent ++ [s.datagram flags s.recvWindow.recvNext []] } := by
  have hhas : ((calculateChecksum (s.segment flags s.recvWindow.recvNext [])).has flagSyn ||
      (calculateChecksum (s.segment flags s.recvWindow.recvNext [])).has flagFin) = true := h
  rw [sendControlPacket, if_pos hhas]
  rfl

/-- A reset only extends the log: it uses no number and starts no timer. -/
theorem sendControlPacket_rst :
    s.sendControlPacket flagRst =
      { s with sent := s.sent ++ [s.datagram flagRst s.recvWindow.recvNext []] } := by
  have hhas : ((calculateChecksum (s.segment flagRst s.recvWindow.recvNext [])).has flagSyn ||
      (calculateChecksum (s.segment flagRst s.recvWindow.recvNext [])).has flagFin) = false := by
    simp only [calculateChecksum_has, segment_has]
    decide
  rw [sendControlPacket, hhas]
  rfl

/-- A data segment takes one number for each byte and arms its timer. -/
theorem sendPayloadPacket_eq {payload : List UInt8} (h : payload ≠ []) (flags : UInt8) :
    s.sendPayloadPacket payload flags =
      { s with
        inflightPackets := s.inflightPackets.tryEmplace (htonl s.sendWindow.sendNext)
          (s.segment flags s.recvWindow.recvNext payload)
        timerManager := s.timerManager.startTimer s.sendWindow.sendNext s.getTimeoutMs
          (s.payloadClosure payload flags)
        sendWindow.sendNext := s.sendWindow.sendNext + UInt32.ofNat payload.length
        sent := s.sent ++ [s.datagram flags s.recvWindow.recvNext payload] } := by
  rw [sendPayloadPacket, if_neg (by simpa using h)]
  rfl

/-! ## Send attempts -/

/-- Whether a send attempt puts data on the wire. -/
def Transmits : Prop :=
  (s.state = .established ∨ s.state = .closeWait) ∧
    s.sendWindow.sendWindowSize ≠ s.inflight ∧ s.inflight.toNat < s.sendBuffer.size

instance : Decidable s.Transmits := inferInstanceAs (Decidable (_ ∧ _))

/-- The data that a transmitting attempt sends. -/
def nextPayload : List UInt8 :=
  (s.sendBuffer.toList.drop s.inflight.toNat).take
    (s.sendWindow.sendWindowSize - s.inflight).toNat

/-- The slice that an attempt peeks at, as a list. -/
theorem peekRange_inflight :
    s.sendBuffer.peekRange s.inflight.toNat
      (s.sendWindow.sendWindowSize - s.inflight).toNat = s.nextPayload := by
  have h₁ := s.inflight.toNat_lt
  have h₂ := (s.sendWindow.sendWindowSize - s.inflight).toNat_lt
  exact s.sendBuffer.peekRange_eq (by omega)

/-- An attempt sends what the allowance and the buffer admit. -/
theorem length_nextPayload :
    s.nextPayload.length =
      min (s.sendWindow.sendWindowSize - s.inflight).toNat
        (s.sendBuffer.size - s.inflight.toNat) := by
  simp [nextPayload]

/-- The allowance is zero only when the window is exactly full. -/
theorem allowance_eq_zero_iff :
    s.sendWindow.sendWindowSize - s.inflight = 0 ↔ s.sendWindow.sendWindowSize = s.inflight := by
  constructor <;> intro h <;> grind

/-- A transmitting attempt sends something. -/
theorem nextPayload_ne_nil (h : s.Transmits) : s.nextPayload ≠ [] := by
  obtain ⟨-, hwindow, hsize⟩ := h
  have hpos : (s.sendWindow.sendWindowSize - s.inflight).toNat ≠ 0 := by
    rw [Ne, ← UInt32.toNat_zero, UInt32.toNat_inj, allowance_eq_zero_iff]
    exact hwindow
  rw [Ne, ← List.length_eq_zero_iff, length_nextPayload]
  omega

/-- A transmitting attempt sends the slice behind the bytes in flight. -/
theorem handleTrySend_of_transmits (h : s.Transmits) :
    s.handleTrySend =
      { s with
        inflightPackets := s.inflightPackets.tryEmplace (htonl s.sendWindow.sendNext)
          (s.segment flagAck s.recvWindow.recvNext s.nextPayload)
        timerManager := s.timerManager.startTimer s.sendWindow.sendNext s.getTimeoutMs
          (s.payloadClosure s.nextPayload flagAck)
        sendWindow.sendNext := s.sendWindow.sendNext + UInt32.ofNat s.nextPayload.length
        sent := s.sent ++ [s.datagram flagAck s.recvWindow.recvNext s.nextPayload] } := by
  have hsend : s.handleTrySend = s.sendPayloadPacket s.nextPayload flagAck := by
    have hallow : ¬ s.sendWindow.sendWindowSize - s.inflight = 0 := by
      rw [allowance_eq_zero_iff]
      exact h.2.1
    rcases h.1 with hstate | hstate <;>
      simp only [handleTrySend, hstate, if_neg hallow, peekRange_inflight]
  rw [hsend, sendPayloadPacket_eq s (s.nextPayload_ne_nil h)]

/-- A transmission puts its bytes in flight. -/
theorem toNat_inflight_handleTrySend (h : s.Transmits) :
    s.handleTrySend.inflight.toNat = s.inflight.toNat + s.nextPayload.length := by
  have hadd : s.handleTrySend.inflight = s.inflight + UInt32.ofNat s.nextPayload.length := by
    rw [s.handleTrySend_of_transmits h]
    unfold inflight
    grind
  have hlen := s.length_nextPayload
  have hsize := s.sendBuffer.size_le
  have hlt := h.2.2
  rw [hadd, UInt32.toNat_add, UInt32.toNat_ofNat']
  omega

/-- An attempt outside these conditions changes nothing. -/
theorem handleTrySend_of_not (h : ¬ s.Transmits) : s.handleTrySend = s := by
  by_cases hallow : s.sendWindow.sendWindowSize - s.inflight = 0
  · cases hstate : s.state <;> simp [handleTrySend, hstate, hallow]
  · have hempty : (s.state = .established ∨ s.state = .closeWait) → s.nextPayload = [] := by
      intro hstate
      have hsize : s.sendBuffer.size ≤ s.inflight.toNat := by
        by_contra hlt
        exact h ⟨hstate, mt s.allowance_eq_zero_iff.mpr hallow, by omega⟩
      rw [nextPayload, List.drop_eq_nil_of_le (by simpa using hsize), List.take_nil]
    cases hstate : s.state <;> rw [hstate] at hempty <;>
      simp [handleTrySend, hstate, hallow, peekRange_inflight, sendPayloadPacket, hempty]

section TrySendFrame

/-- A send attempt touches the in-flight map, the timers, {lit}`send_next_` and the log. -/
theorem handleTrySend_frame :
    ∃ m t n l, s.handleTrySend =
      { s with inflightPackets := m, timerManager := t, sendWindow.sendNext := n, sent := l } := by
  by_cases h : s.Transmits
  · exact ⟨_, _, _, _, s.handleTrySend_of_transmits h⟩
  · exact ⟨_, _, _, _, s.handleTrySend_of_not h⟩

/-- An attempt keeps the state. -/
@[simp]
theorem handleTrySend_state : s.handleTrySend.state = s.state := by
  obtain ⟨m, t, n, l, h⟩ := s.handleTrySend_frame
  rw [h]

/-- An attempt acknowledges nothing. -/
@[simp]
theorem handleTrySend_sendUnack :
    s.handleTrySend.sendWindow.sendUnack = s.sendWindow.sendUnack := by
  obtain ⟨m, t, n, l, h⟩ := s.handleTrySend_frame
  rw [h]

/-- An attempt keeps the congestion window. -/
@[simp]
theorem handleTrySend_sendWindowSize :
    s.handleTrySend.sendWindow.sendWindowSize = s.sendWindow.sendWindowSize := by
  obtain ⟨m, t, n, l, h⟩ := s.handleTrySend_frame
  rw [h]

/-- An attempt copies from the send buffer and leaves it as it is. -/
@[simp]
theorem handleTrySend_sendBuffer : s.handleTrySend.sendBuffer = s.sendBuffer := by
  obtain ⟨m, t, n, l, h⟩ := s.handleTrySend_frame
  rw [h]

/-- An attempt keeps the receive window. -/
@[simp]
theorem handleTrySend_recvWindow : s.handleTrySend.recvWindow = s.recvWindow := by
  obtain ⟨m, t, n, l, h⟩ := s.handleTrySend_frame
  rw [h]

/-- An attempt keeps the receive buffer. -/
@[simp]
theorem handleTrySend_recvBuffer : s.handleTrySend.recvBuffer = s.recvBuffer := by
  obtain ⟨m, t, n, l, h⟩ := s.handleTrySend_frame
  rw [h]

/-- An attempt keeps the stored segments. -/
@[simp]
theorem handleTrySend_oooMap : s.handleTrySend.oooMap = s.oooMap := by
  obtain ⟨m, t, n, l, h⟩ := s.handleTrySend_frame
  rw [h]

/-- An attempt keeps the threshold. -/
@[simp]
theorem handleTrySend_ssthresh : s.handleTrySend.ssthresh = s.ssthresh := by
  obtain ⟨m, t, n, l, h⟩ := s.handleTrySend_frame
  rw [h]

/-- An attempt keeps the last acknowledgment. -/
@[simp]
theorem handleTrySend_lastAckReceived :
    s.handleTrySend.lastAckReceived = s.lastAckReceived := by
  obtain ⟨m, t, n, l, h⟩ := s.handleTrySend_frame
  rw [h]

/-- An attempt keeps the count of duplicates. -/
@[simp]
theorem handleTrySend_dupAckCount : s.handleTrySend.dupAckCount = s.dupAckCount := by
  obtain ⟨m, t, n, l, h⟩ := s.handleTrySend_frame
  rw [h]

/-- An attempt keeps the address of the peer. -/
@[simp]
theorem handleTrySend_remoteIp : s.handleTrySend.remoteIp = s.remoteIp := by
  obtain ⟨m, t, n, l, h⟩ := s.handleTrySend_frame
  rw [h]

/-- An attempt keeps the port of the peer. -/
@[simp]
theorem handleTrySend_remotePort : s.handleTrySend.remotePort = s.remotePort := by
  obtain ⟨m, t, n, l, h⟩ := s.handleTrySend_frame
  rw [h]

/-- An attempt keeps the request to close. -/
@[simp]
theorem handleTrySend_userWantToClose :
    s.handleTrySend.userWantToClose = s.userWantToClose := by
  obtain ⟨m, t, n, l, h⟩ := s.handleTrySend_frame
  rw [h]

end TrySendFrame

/-! ## Opening and closing -/

/-- The session with another next number. -/
def atSeq (seqNum : UInt32) : TcpSession := { s with sendWindow.sendNext := seqNum }

/-- What {lit}`connect()` changes. -/
theorem connect_eq (iss : UInt32) :
    s.connect iss =
      { s with
        state := .synSent
        calls := s.calls ++ [.setOnReceive]
        timerManager := s.timerManager.startTimer iss s.getTimeoutMs
          ((s.atSeq iss).controlClosure flagSyn s.recvWindow.recvNext)
        sendWindow.sendUnack := iss
        sendWindow.sendNext := iss + 1
        sent := s.sent ++ [(s.atSeq iss).datagram flagSyn s.recvWindow.recvNext []] } := by
  rw [connect, sendControlPacket_eq _ (by decide)]
  rfl

/-- What {lit}`close()` changes in ESTABLISHED, behind its send attempt. -/
theorem closeEstablished_eq :
    s.closeEstablished =
      { s with
        state := .finWait1
        timerManager := s.timerManager.stopAllTimers.startTimer s.sendWindow.sendNext
          s.getTimeoutMs (s.controlClosure flagFin s.recvWindow.recvNext)
        sendWindow.sendNext := s.sendWindow.sendNext + 1
        sent := s.sent ++ [s.datagram flagFin s.recvWindow.recvNext []]
        userWantToClose := true } := by
  rw [closeEstablished, sendControlPacket_eq _ (by decide)]
  rfl

/-- What {lit}`close()` changes in CLOSE_WAIT. -/
theorem closeCloseWait_eq :
    s.closeCloseWait =
      { s with
        state := .lastAck
        timerManager := s.timerManager.startTimer s.sendWindow.sendNext s.getTimeoutMs
          (s.controlClosure (flagFin ||| flagAck) s.recvWindow.recvNext)
        sendWindow.sendNext := s.sendWindow.sendNext + 1
        sent := s.sent ++ [s.datagram (flagFin ||| flagAck) s.recvWindow.recvNext []]
        userWantToClose := true } := by
  rw [closeCloseWait, sendControlPacket_eq _ (by decide)]
  rfl

/-- What {lit}`close()` changes before the session is established. -/
theorem abortOpening_eq :
    s.abortOpening =
      { s with
        state := .closed
        timerManager := s.timerManager.stopAllTimers
        sent := s.sent ++ [s.datagram flagRst s.recvWindow.recvNext []] } := by
  rw [abortOpening, sendControlPacket_rst]
  rfl

/-- What the expected SYN-ACK changes. -/
theorem acceptSynAck_eq (packet : MyuTcpPacket) :
    s.acceptSynAck packet =
      { s with
        state := .established
        calls := s.calls ++ [.established]
        timerManager := s.timerManager.stopTimer s.sendWindow.sendUnack
        sendWindow.sendUnack := packet.ack
        recvWindow.recvNext := packet.seq + 1
        sent := s.sent ++ [s.datagram flagAck (packet.seq + 1) []] } := by
  rw [acceptSynAck, UInt32.add_sub_cancel]
  rfl

/-- What a crossing SYN changes. -/
theorem acceptPeerSyn_eq (packet : MyuTcpPacket) :
    s.acceptPeerSyn packet =
      { s with
        state := .synReceived
        timerManager := s.timerManager.startTimer s.sendWindow.sendNext s.getTimeoutMs
          (s.controlClosure (flagSyn ||| flagAck) (packet.seq + 1))
        sendWindow.sendNext := s.sendWindow.sendNext + 1
        recvWindow.recvNext := packet.seq + 1
        sent := s.sent ++ [s.datagram (flagSyn ||| flagAck) (packet.seq + 1) []] } := by
  rw [acceptPeerSyn, sendControlPacket_eq _ (by decide)]
  rfl

/-- What a SYN changes in LISTEN. -/
theorem handleListen_eq {packet : MyuTcpPacket} (hsyn : packet.has flagSyn = true)
    (iss : UInt32) :
    s.handleListen packet iss =
      { s with
        state := .synReceived
        timerManager := s.timerManager.startTimer iss s.getTimeoutMs
          ((s.atSeq iss).controlClosure (flagSyn ||| flagAck) (packet.seq + 1))
        sendWindow.sendUnack := iss
        sendWindow.sendNext := iss + 1
        recvWindow.recvNext := packet.seq + 1
        sent := s.sent ++
          [(s.atSeq iss).datagram (flagSyn ||| flagAck) (packet.seq + 1) []] } := by
  rw [handleListen, if_neg (by simpa using hsyn)]
  dsimp only
  rw [sendControlPacket_eq _ (by decide)]
  rfl

/-- What a FIN changes, apart from the state. -/
theorem acceptFin_eq (packet : MyuTcpPacket) :
    s.acceptFin packet =
      { s with
        recvWindow.recvNext := packet.seq + 1
        sent := s.sent ++ [s.datagram flagAck (packet.seq + 1) []] } :=
  rfl

/-- The condition under which {lit}`handle_close_wait` sends its FIN. -/
def Drained : Prop :=
  s.userWantToClose = true ∧ s.sendBuffer.isEmpty = true ∧
    s.sendWindow.sendUnack = s.sendWindow.sendNext

instance : Decidable s.Drained := inferInstanceAs (Decidable (_ ∧ _))

/-- What the end of {lit}`handle_close_wait` changes when everything is acknowledged. -/
theorem finishCloseWait_of_drained (h : s.Drained) :
    s.finishCloseWait =
      { s with
        state := .lastAck
        timerManager := s.timerManager.stopAllTimers.startTimer s.sendWindow.sendNext
          s.getTimeoutMs (s.controlClosure flagFin s.recvWindow.recvNext)
        sendWindow.sendNext := s.sendWindow.sendNext + 1 + 1
        sent := s.sent ++ [s.datagram flagFin s.recvWindow.recvNext []] } := by
  rw [finishCloseWait, if_pos (by simp [h.1, h.2.1, h.2.2])]
  dsimp only
  rw [sendControlPacket_eq _ (by decide)]
  rfl

/-- It changes nothing before that. -/
theorem finishCloseWait_of_not (h : ¬ s.Drained) : s.finishCloseWait = s := by
  rw [finishCloseWait, if_neg]
  intro hall
  simp only [Bool.and_eq_true, decide_eq_true_eq] at hall
  exact h ⟨hall.1.1, hall.1.2, hall.2⟩

/-! ## Acknowledgments -/

/-- Whether an accepted number counts as the third duplicate. -/
def ThirdDuplicate (ackNum : UInt32) : Prop := (s.countDupAck ackNum).dupAckCount = 3

instance (ackNum : UInt32) : Decidable (s.ThirdDuplicate ackNum) :=
  inferInstanceAs (Decidable (_ = _))

/-- Counting changes the two counters only. -/
theorem countDupAck_frame (ackNum : UInt32) :
    ∃ a d, s.countDupAck ackNum = { s with lastAckReceived := a, dupAckCount := d } := by
  rw [countDupAck]
  split
  · exact ⟨_, _, rfl⟩
  · split
    · exact ⟨_, _, rfl⟩
    · exact ⟨_, _, rfl⟩

/-- The counters after an accepted number depend on the two counters only. -/
theorem countDupAck_congr {s t : TcpSession} (hlast : s.lastAckReceived = t.lastAckReceived)
    (hcount : s.dupAckCount = t.dupAckCount) (ackNum : UInt32) :
    (s.countDupAck ackNum).dupAckCount = (t.countDupAck ackNum).dupAckCount ∧
      (s.countDupAck ackNum).lastAckReceived = (t.countDupAck ackNum).lastAckReceived := by
  rw [countDupAck, countDupAck, hlast, hcount]
  by_cases hlt : t.lastAckReceived < ackNum
  · simp only [if_pos hlt, and_self]
  · by_cases heq : t.lastAckReceived = ackNum
    · simp only [if_neg hlt, if_pos heq, and_self]
    · simp only [if_neg hlt, if_neg heq, hlast, hcount, and_self]

/-- What is released does not matter to the counters. -/
theorem countDupAck_releaseAcked (ackNum : UInt32) :
    ((s.releaseAcked ackNum).countDupAck ackNum).dupAckCount =
        (s.countDupAck ackNum).dupAckCount ∧
      ((s.releaseAcked ackNum).countDupAck ackNum).lastAckReceived =
        (s.countDupAck ackNum).lastAckReceived :=
  countDupAck_congr (s := s.releaseAcked ackNum) (t := s) rfl rfl ackNum

/-- An accepted number that is no third duplicate releases what lies below it and
grows the window. -/
theorem processAck_of_not {ackNum : UInt32} (h : ¬ s.ThirdDuplicate ackNum) :
    s.processAck ackNum =
      { s with
        timerManager := s.timerManager.dropTimerUpTo (ackNum - 1)
        sendBuffer := s.sendBuffer.popFront (ackNum - s.sendWindow.sendUnack).toNat
        sendWindow.sendUnack := ackNum
        sendWindow.sendWindowSize := grownWindow s.sendWindow.sendWindowSize s.ssthresh
        inflightPackets := s.inflightPackets.dropBelow ackNum
        lastAckReceived := (s.countDupAck ackNum).lastAckReceived
        dupAckCount := (s.countDupAck ackNum).dupAckCount } := by
  have hcount := s.countDupAck_releaseAcked ackNum
  obtain ⟨a, d, hframe⟩ := (s.releaseAcked ackNum).countDupAck_frame ackNum
  have hne : ¬ ((s.releaseAcked ackNum).countDupAck ackNum).dupAckCount = 3 := by
    rw [hcount.1]
    exact h
  rw [processAck, fastRetransmit, if_neg hne, growWindow, ← hcount.1, ← hcount.2, hframe]
  rfl

/-- What sending payload changes at most. -/
theorem sendPayloadPacket_frame (payload : List UInt8) (flags : UInt8) :
    ∃ m t n l, s.sendPayloadPacket payload flags =
      { s with inflightPackets := m, timerManager := t, sendWindow.sendNext := n, sent := l } := by
  by_cases h : payload = []
  · exact ⟨_, _, _, _, by rw [sendPayloadPacket, if_pos (by simp [h])]⟩
  · exact ⟨_, _, _, _, s.sendPayloadPacket_eq h flags⟩

/-- What an accepted number changes at most. -/
theorem processAck_frame (ackNum : UInt32) :
    ∃ m t n w l th a d, s.processAck ackNum =
      { s with
        inflightPackets := m
        timerManager := t
        sendBuffer := s.sendBuffer.popFront (ackNum - s.sendWindow.sendUnack).toNat
        sendWindow.sendUnack := ackNum
        sendWindow.sendNext := n
        sendWindow.sendWindowSize := w
        sent := l
        ssthresh := th
        lastAckReceived := a
        dupAckCount := d } := by
  by_cases h : s.ThirdDuplicate ackNum
  · obtain ⟨a, d, hframe⟩ := (s.releaseAcked ackNum).countDupAck_frame ackNum
    have heq : ((s.releaseAcked ackNum).countDupAck ackNum).dupAckCount = 3 := by
      rw [(s.countDupAck_releaseAcked ackNum).1]
      exact h
    rw [processAck, fastRetransmit, if_pos heq, hframe, onRecvThreeDupAck]
    dsimp only
    split
    · rename_i packet hfind
      obtain ⟨m, t, n, l, hsend⟩ := sendPayloadPacket_frame
        { s.releaseAcked ackNum with
          timerManager := (s.releaseAcked ackNum).timerManager.stopTimer ackNum
          lastAckReceived := a
          dupAckCount := d } packet.payload packet.header.flags
      rw [hsend]
      exact ⟨_, _, _, _, _, _, _, _, rfl⟩
    · exact ⟨_, _, _, _, _, _, _, _, rfl⟩
  · exact ⟨_, _, _, _, _, _, _, _, s.processAck_of_not h⟩

/-- An acknowledgment keeps the state. -/
@[simp]
theorem processAck_state (ackNum : UInt32) : (s.processAck ackNum).state = s.state := by
  obtain ⟨m, t, n, w, l, th, a, d, h⟩ := s.processAck_frame ackNum
  rw [h]

/-- An acknowledgment keeps the receive window. -/
@[simp]
theorem processAck_recvWindow (ackNum : UInt32) :
    (s.processAck ackNum).recvWindow = s.recvWindow := by
  obtain ⟨m, t, n, w, l, th, a, d, h⟩ := s.processAck_frame ackNum
  rw [h]

/-- An acknowledgment keeps the receive buffer. -/
@[simp]
theorem processAck_recvBuffer (ackNum : UInt32) :
    (s.processAck ackNum).recvBuffer = s.recvBuffer := by
  obtain ⟨m, t, n, w, l, th, a, d, h⟩ := s.processAck_frame ackNum
  rw [h]

/-- An acknowledgment keeps the stored segments. -/
@[simp]
theorem processAck_oooMap (ackNum : UInt32) : (s.processAck ackNum).oooMap = s.oooMap := by
  obtain ⟨m, t, n, w, l, th, a, d, h⟩ := s.processAck_frame ackNum
  rw [h]

/-- An accepted number becomes {lit}`send_unack_`. -/
@[simp]
theorem processAck_sendUnack (ackNum : UInt32) :
    (s.processAck ackNum).sendWindow.sendUnack = ackNum := by
  obtain ⟨m, t, n, w, l, th, a, d, h⟩ := s.processAck_frame ackNum
  rw [h]

/-- An accepted number releases as many bytes as it covers numbers. -/
@[simp]
theorem processAck_sendBuffer (ackNum : UInt32) :
    (s.processAck ackNum).sendBuffer =
      s.sendBuffer.popFront (ackNum - s.sendWindow.sendUnack).toNat := by
  obtain ⟨m, t, n, w, l, th, a, d, h⟩ := s.processAck_frame ackNum
  rw [h]

/-- An acknowledgment keeps the address of the peer. -/
@[simp]
theorem processAck_remoteIp (ackNum : UInt32) :
    (s.processAck ackNum).remoteIp = s.remoteIp := by
  obtain ⟨m, t, n, w, l, th, a, d, h⟩ := s.processAck_frame ackNum
  rw [h]

/-- An acknowledgment keeps the port of the peer. -/
@[simp]
theorem processAck_remotePort (ackNum : UInt32) :
    (s.processAck ackNum).remotePort = s.remotePort := by
  obtain ⟨m, t, n, w, l, th, a, d, h⟩ := s.processAck_frame ackNum
  rw [h]

/-! ## Expiry -/

/-- At the retry limit a closure only stops its timer. -/
theorem runClosure_of_limit {c : RetransmitClosure}
    (h : c.retransmitCount + 1 ≥ maxRetransmitCount) :
    s.runClosure c = { s with timerManager := s.timerManager.stopTimer c.packet.seq } := by
  rw [runClosure, handleRetransmit]
  dsimp only
  rw [if_pos h]

/-- Below the limit it collapses the window, arms the timer again and sends. -/
theorem runClosure_of_lt {c : RetransmitClosure}
    (h : ¬ c.retransmitCount + 1 ≥ maxRetransmitCount) :
    s.runClosure c =
      { s with
        ssthresh := timeoutSsthresh s.sendWindow.sendWindowSize
        sendWindow.sendWindowSize := 1
        timerManager := (s.timerManager.stopTimer c.packet.seq).startTimer c.packet.seq
          (s.getTimeoutMs * (1 <<< (c.retransmitCount + 1).toUInt64))
          { packet := s.refreshPacket c.packet, retransmitCount := c.retransmitCount + 1,
            capturedIp := c.capturedIp, capturedPort := c.capturedPort }
        sent := s.sent ++
          [{ packet := s.refreshPacket c.packet, destIp := c.capturedIp,
             destPort := c.capturedPort }] } := by
  rw [runClosure, handleRetransmit]
  dsimp only
  rw [if_neg h]
  rfl

/-! ## Receiving -/

/-- The read loops return the oldest elements and remove them. -/
theorem readLoop_eq {n : Nat} {q : RingQueue UInt8 1024} (hn : n ≤ q.size) :
    (readLoop n q).1 = q.toList.take n ∧ (readLoop n q).2.toList = q.toList.drop n := by
  induction n generalizing q with
  | zero => simp [readLoop]
  | succ n ih =>
      have hfront := q.toList_eq_front_cons (by omega)
      have hrest := @ih (q.popFront 1) (by rw [q.size_popFront]; omega)
      rw [readLoop, hrest.1, hrest.2]
      constructor
      · rw [hfront, List.take_succ_cons]
      · rw [q.toList_popFront, List.drop_drop, Nat.add_comm]

/-- An in-order segment touches the receive side only. -/
theorem reassemble_acceptPayload_frame (payload : List UInt8)
    (drained : Nat × RingQueue UInt8 1024 × UInt32) :
    ∃ m q n, (s.acceptPayload payload).reassemble drained =
      { s with oooMap := m, recvBuffer := q, recvWindow.recvNext := n } := by
  rw [acceptPayload]
  split
  · exact ⟨_, _, _, rfl⟩
  · exact ⟨_, _, _, rfl⟩

/-- Storing a segment changes the map of stored segments only. -/
theorem storeOutOfOrder_frame (seqNum : UInt32) (payload : List UInt8) :
    ∃ m, s.storeOutOfOrder seqNum payload = { s with oooMap := m } := by
  rw [storeOutOfOrder]
  split
  · exact ⟨_, rfl⟩
  · exact ⟨_, rfl⟩

/-- A segment touches the receive side and is answered with one acknowledgment. -/
theorem handleIncomingPacket_frame {s : TcpSession} {packet : MyuTcpPacket}
    {r : Bool × TcpSession}
    (h : s.handleIncomingPacket packet = some r) :
    ∃ m q n t ackNum, r.2 =
      { s with
        oooMap := m, recvBuffer := q, recvWindow.recvNext := n
        sent := s.sent ++ [datagram t flagAck ackNum []] } := by
  rw [handleIncomingPacket] at h
  split at h
  · rcases Option.map_eq_some_iff.mp h with ⟨drained, -, rfl⟩
    rcases s.reassemble_acceptPayload_frame packet.payload drained with ⟨m, q, n, hframe⟩
    rw [hframe]
    exact ⟨m, q, n, _, _, rfl⟩
  · cases h
    rcases s.storeOutOfOrder_frame packet.seq packet.payload with ⟨m, hframe⟩
    rw [hframe]
    exact ⟨m, s.recvBuffer, s.recvWindow.recvNext, _, _, rfl⟩

/-- A packet without payload changes nothing here. -/
theorem handleEstablishedPayload_nil {s : TcpSession} {packet : MyuTcpPacket}
    (hpayload : packet.payload = []) : s.handleEstablishedPayload packet = some s := by
  rw [handleEstablishedPayload, if_neg (by simp [hpayload])]

/-- The payload part of {lit}`handle_established` calls back data only. -/
theorem handleEstablishedPayload_frame {s s' : TcpSession} {packet : MyuTcpPacket}
    (hpayload : packet.payload ≠ []) (h : s.handleEstablishedPayload packet = some s') :
    ∃ m q n t ackNum c, (∀ call ∈ c, ∃ size, call = .data size) ∧ s' =
      { s with
        oooMap := m, recvBuffer := q, recvWindow.recvNext := n
        sent := s.sent ++ [datagram t flagAck ackNum []], calls := s.calls ++ c } := by
  rw [handleEstablishedPayload, if_pos (List.length_pos_iff.mpr hpayload)] at h
  rcases Option.map_eq_some_iff.mp h with ⟨⟨isOrder, s₁⟩, hhandle, rfl⟩
  rcases handleIncomingPacket_frame hhandle with ⟨m, q, n, t, ackNum, rfl⟩
  split
  · refine ⟨m, q, n, t, ackNum, [.data q.size], ?_, rfl⟩
    intro call hcall
    exact ⟨_, List.mem_singleton.mp hcall⟩
  · refine ⟨m, q, n, t, ackNum, [], by simp, ?_⟩
    simp only [List.append_nil]

/-- No number lies strictly between {lit}`recv_next_` and its successor, so a receive
window of one byte stores no segment. -/
theorem storeOutOfOrder_eq (hsize : s.recvWindow.recvWindowSize = 1) (seqNum : UInt32)
    (payload : List UInt8) : s.storeOutOfOrder seqNum payload = s := by
  simp only [storeOutOfOrder, hsize]
  refine if_neg ?_
  rintro ⟨hlow, hhigh⟩
  have hseq := seqNum.toNat_lt
  have hnext := s.recvWindow.recvNext.toNat_lt
  have hone : (1 : UInt32).toNat = 1 := rfl
  simp only [gt_iff_lt, UInt32.lt_iff_toNat_lt, UInt32.toNat_add] at hlow hhigh
  omega

end TcpSession

end MyuTcp
