import MyuTcp.Core.Receiving

/-!
# Exchanges of an idle session

An established session with nothing buffered and nothing in flight sends one byte,
possibly loses it, and receives its acknowledgment; its peer takes the byte and answers.
The long runs of later files repeat these exchanges, and are followed by induction instead
of by evaluation.

Main results:

- Theorem {lit}`Idle.sendAll`: an idle session puts its data on the wire.
- Theorem {lit}`Waiting.ack`: the acknowledgment of that byte makes it idle again, one
  number further, and grows the window.
- Theorem {lit}`Resting.receive`: a session with nothing to read takes the next segment, and
  hands it over.
- Theorem {lit}`Waiting.timeout`: the expiry of the byte's timer collapses the window.
-/

namespace MyuTcp

open Library

namespace TcpSession

/-- Established with an empty send buffer, nothing in flight and no duplicate counted. -/
structure Idle (q : UInt32) (s : TcpSession) : Prop where
  state : s.state = .established
  sendUnack : s.sendWindow.sendUnack = q
  sendNext : s.sendWindow.sendNext = q
  sendBuffer : s.sendBuffer.toList = []
  dup : s.dupAckCount = 0
  last : s.lastAckReceived ≤ q

/-- Established with exactly one byte buffered and in flight. -/
structure Waiting (q : UInt32) (s : TcpSession) : Prop where
  state : s.state = .established
  sendUnack : s.sendWindow.sendUnack = q
  sendNext : s.sendWindow.sendNext = q + 1
  sendBuffer : s.sendBuffer.size = 1
  dup : s.dupAckCount = 0
  last : s.lastAckReceived ≤ q

/-- A packet that acknowledges up to {lit}`ackNum` and carries nothing else. -/
structure IsPlainAck (ackNum : UInt32) (packet : MyuTcpPacket) : Prop where
  admitted : Admitted packet
  isAck : packet.has flagAck = true
  noFin : packet.has flagFin = false
  noPayload : packet.payload = []
  ack : packet.ack = ackNum

@[simp]
theorem peerPacket_ack (flags : UInt8) (seqNum ackNum : UInt32) (window : UInt16)
    (payload : List UInt8) : (peerPacket flags seqNum ackNum window payload).ack = ackNum := by
  rw [peerPacket, calculateChecksum_ack]
  exact ntohl_htonl ackNum

@[simp]
theorem peerPacket_has (flags : UInt8) (seqNum ackNum : UInt32) (window : UInt16)
    (payload : List UInt8) (flag : UInt8) :
    (peerPacket flags seqNum ackNum window payload).has flag = (flags &&& flag != 0) :=
  rfl

/-- The acknowledgment of a peer. -/
theorem isPlainAck_peerPacket (seqNum ackNum : UInt32) (window : UInt16) :
    IsPlainAck ackNum (peerPacket flagAck seqNum ackNum window []) where
  admitted := by
    refine ⟨verifyChecksum_calculateChecksum _ (Nat.zero_le _), ?_, ?_⟩
    · rw [peerPacket_has]
      decide
    · rw [lacksFlags, peerPacket_has, peerPacket_has, peerPacket_has]
      decide
  isAck := by rw [peerPacket_has]; decide
  noFin := by rw [peerPacket_has]; decide
  noPayload := rfl
  ack := peerPacket_ack _ _ _ _ _

/-- The next number. -/
theorem ofNat_succ (q : Nat) : UInt32.ofNat q + 1 = UInt32.ofNat (q + 1) :=
  (UInt32.ofNat_add q 1).symm

/-- Below 2^32 the next number is larger. -/
theorem ofNat_lt_succ {q : Nat} (hq : q + 1 < 2 ^ 32) : UInt32.ofNat q < UInt32.ofNat q + 1 := by
  rw [ofNat_succ, UInt32.lt_iff_toNat_lt, UInt32.toNat_ofNat', UInt32.toNat_ofNat']
  omega

/-- The acknowledgment of a byte grows the window by its own size or by one. -/
theorem grownWindow_toNat {cwnd : UInt32} (hcwnd : cwnd.toNat + 1 < 2 ^ 32) :
    (grownWindow cwnd 8).toNat = if cwnd.toNat < 8 then cwnd.toNat * 2 else cwnd.toNat + 1 := by
  have hone : (1 : UInt32).toNat = 1 := rfl
  have htwo : (2 : UInt32).toNat = 2 := rfl
  have hlt : cwnd < 8 ↔ cwnd.toNat < 8 := UInt32.lt_iff_toNat_lt
  rw [grownWindow]
  split <;> rename_i hsmall
  · rw [if_pos (hlt.mp hsmall), UInt32.toNat_mul, htwo]
    have hbound := hlt.mp hsmall
    omega
  · rw [if_neg (mt hlt.mpr hsmall), UInt32.toNat_add, hone]
    omega

section Exchange

variable {q : UInt32} {s : TcpSession}

/-- An idle session has nothing to send. -/
theorem Idle.not_transmits (h : Idle q s) : ¬ s.Transmits := by
  rintro ⟨-, -, hsize⟩
  have hempty : s.sendBuffer.size = 0 := by rw [← s.sendBuffer.length_toList, h.sendBuffer]; rfl
  omega

/-- An idle session puts all of its data on the wire, when its window covers them. -/
theorem Idle.sendAll (h : Idle q s) {data : List UInt8} (hdata : data ≠ [])
    (hfits : data.length ≤ 1024) (hwindow : data.length ≤ s.sendWindow.sendWindowSize.toNat) :
    ∃ buffer m, buffer.toList = data ∧
      s.send data = (data.length,
        { s with
          sendBuffer := buffer
          inflightPackets := m
          timerManager := s.timerManager.startTimer q s.getTimeoutMs
            (s.payloadClosure data flagAck)
          sendWindow.sendNext := q + UInt32.ofNat data.length
          sent := s.sent ++ [s.datagram flagAck s.recvWindow.recvNext data] }) := by
  have hsize : s.sendBuffer.size = 0 := by rw [← s.sendBuffer.length_toList, h.sendBuffer]; rfl
  have hlength : min data.length (s.sendBuffer.capacity - s.sendBuffer.size) = data.length := by
    rw [hsize]
    exact Nat.min_eq_left hfits
  obtain ⟨buffer, hpush⟩ : ∃ buffer, s.sendBuffer.pushBatch data = some buffer := by
    rw [← Option.ne_none_iff_exists', Ne, RingQueue.pushBatch_eq_none_iff, hsize, Nat.zero_add]
    exact Nat.not_lt.mpr hfits
  have hlist : buffer.toList = data := by
    rw [RingQueue.toList_pushBatch hpush, h.sendBuffer, List.nil_append]
  have hpos : 0 < data.length := List.length_pos_iff.mpr hdata
  have hinflight : ({ s with sendBuffer := buffer } : TcpSession).inflight = 0 := by
    rw [inflight, h.sendNext, h.sendUnack, UInt32.sub_self]
  have htransmits : ({ s with sendBuffer := buffer } : TcpSession).Transmits := by
    refine ⟨Or.inl h.state, ?_, ?_⟩
    · rw [hinflight, Ne, ← UInt32.toNat_inj, UInt32.toNat_zero]
      exact (hpos.trans_le hwindow).ne'
    · rw [hinflight, ← buffer.length_toList, hlist]
      exact hpos
  have hpayload : ({ s with sendBuffer := buffer } : TcpSession).nextPayload = data := by
    rw [nextPayload, hinflight]
    dsimp only
    rw [hlist, UInt32.toNat_zero, List.drop_zero, UInt32.sub_zero]
    exact List.take_of_length_le hwindow
  have hsend : s.send data =
      (data.length, ({ s with sendBuffer := buffer } : TcpSession).handleTrySend) := by
    rw [TcpSession.send, if_neg (by simpa using hdata)]
    dsimp only
    rw [hlength, List.take_length, hpush]
  rw [hsend, handleTrySend_of_transmits _ htransmits, hpayload]
  dsimp only
  rw [h.sendNext]
  exact ⟨buffer, _, hlist, rfl⟩

/-- An idle session puts one byte on the wire. -/
theorem Idle.send (h : Idle q s) (hwindow : s.sendWindow.sendWindowSize ≠ 0) (byte : UInt8) :
    ∃ buffer m, buffer.toList = [byte] ∧
      (s.send [byte]).2 =
        { s with
          sendBuffer := buffer
          inflightPackets := m
          timerManager := s.timerManager.startTimer q s.getTimeoutMs
            (s.payloadClosure [byte] flagAck)
          sendWindow.sendNext := q + 1
          sent := s.sent ++ [s.datagram flagAck s.recvWindow.recvNext [byte]] } := by
  have hpos : s.sendWindow.sendWindowSize.toNat ≠ 0 := by
    rw [Ne, ← UInt32.toNat_zero, UInt32.toNat_inj]
    exact hwindow
  obtain ⟨buffer, m, hlist, hsend⟩ := h.sendAll (List.cons_ne_nil byte []) (by simp)
    (Nat.one_le_iff_ne_zero.mpr hpos)
  exact ⟨buffer, m, hlist, by rw [hsend]; rfl⟩

/-- One byte, and the session waits for its acknowledgment. -/
theorem Idle.waiting (h : Idle q s) (hwindow : s.sendWindow.sendWindowSize ≠ 0) (byte : UInt8) :
    Waiting q (s.send [byte]).2 ∧
      (s.send [byte]).2.sendWindow.sendWindowSize = s.sendWindow.sendWindowSize ∧
      (s.send [byte]).2.ssthresh = s.ssthresh ∧
      ∃ t, (s.send [byte]).2.timerManager.activeAt q = some t ∧
        t.callback.retransmitCount = 0 := by
  obtain ⟨buffer, m, hlist, hsend⟩ := h.send hwindow byte
  rw [hsend]
  refine ⟨⟨h.state, h.sendUnack, rfl, ?_, h.dup, h.last⟩, rfl, rfl, ?_⟩
  · rw [← buffer.length_toList, hlist]
    rfl
  · dsimp only
    rw [TimerManager.activeAt_startTimer, if_pos rfl]
    exact ⟨_, rfl, rfl⟩

/-- The acknowledgment of the byte in flight makes the session idle again. -/
theorem Waiting.ack (h : Waiting q s) (hq : q < q + 1) {packet : MyuTcpPacket}
    (hpacket : IsPlainAck (q + 1) packet) (iss : UInt32) :
    ∃ s', s.input packet iss = some s' ∧ Idle (q + 1) s' ∧
      s'.sendWindow.sendWindowSize = grownWindow s.sendWindow.sendWindowSize s.ssthresh ∧
      s'.ssthresh = s.ssthresh ∧ s'.sent = s.sent ∧ s'.recvWindow = s.recvWindow ∧
      s'.recvBuffer = s.recvBuffer ∧ s'.oooMap = s.oooMap := by
  obtain ⟨⟨hverify, hrst, hlacks⟩, hflag, hfin, hpayload, hack⟩ := hpacket
  have haccepts : (s.observe packet).acceptsAck (q + 1) = true := by
    simp only [acceptsAck, observe, setPeerUsableWindowSize, h.sendUnack, h.sendNext,
      Bool.and_eq_true, decide_eq_true_eq]
    exact ⟨hq, UInt32.le_refl _⟩
  have hlast : (s.observe packet).lastAckReceived < q + 1 := UInt32.lt_of_le_of_lt h.last hq
  have hnot : ¬ (s.observe packet).ThirdDuplicate (q + 1) := by
    rw [ThirdDuplicate, countDupAck, if_pos hlast]
    simp
  have hprocess := (s.observe packet).processAck_of_not hnot
  rw [countDupAck, if_pos hlast] at hprocess
  have hidle : Idle (q + 1) ((s.observe packet).processAck (q + 1)) := by
    rw [hprocess]
    refine ⟨h.state, rfl, h.sendNext, ?_, rfl, UInt32.le_refl _⟩
    dsimp only
    rw [RingQueue.toList_popFront]
    refine List.drop_eq_nil_of_le ?_
    have hunack : (s.observe packet).sendWindow.sendUnack = q := h.sendUnack
    have hone : (q + 1 - q).toNat = 1 := by
      rw [show q + 1 - q = 1 by grind]
      rfl
    rw [RingQueue.length_toList, hunack, hone]
    exact h.sendBuffer.le
  have hinput : s.input packet iss = some ((s.observe packet).processAck (q + 1)) := by
    have hobserve : (s.observe packet).state = .established := h.state
    rw [input, hverify, hrst, hlacks]
    simp only [Bool.not_true, Bool.false_eq_true, if_false, dispatch, hobserve,
      handleEstablished, hflag, if_true, handleAck, hack, haccepts, handleEstablishedPayload,
      hpayload, List.length_nil, Nat.lt_irrefl, gt_iff_lt, Option.map_some, handleEstablishedFin,
      hfin, handleTrySend_of_not _ hidle.not_transmits]
  refine ⟨_, hinput, hidle, ?_⟩
  rw [hprocess]
  exact ⟨rfl, rfl, rfl, rfl, rfl, rfl⟩

/-- The expiry of the byte's timer collapses the window and keeps the byte in flight. -/
theorem Waiting.timeout (h : Waiting q s) {t : UvTimer RetransmitClosure}
    (hactive : s.timerManager.activeAt q = some t) (hcount : t.callback.retransmitCount = 0) :
    ∃ s', s.expire q = some s' ∧ Waiting q s' ∧ s'.sendWindow.sendWindowSize = 1 ∧
      s'.ssthresh = timeoutSsthresh s.sendWindow.sendWindowSize := by
  have hfire : s.expire q =
      some ({ s with timerManager := s.timerManager.stopTimer q }.runClosure t.callback) :=
    expire_eq_some_iff.mpr ⟨t, hactive, rfl⟩
  have hlimit : ¬ t.callback.retransmitCount + 1 ≥ maxRetransmitCount := by
    rw [hcount]
    decide
  rw [hfire, runClosure_of_lt _ hlimit]
  exact ⟨_, rfl, ⟨h.state, h.sendUnack, h.sendNext, h.sendBuffer, h.dup, h.last⟩, rfl, rfl⟩

/-! ## The receiving side -/

/-- Idle, with everything read, nothing stored, and the number {lit}`p` expected. -/
structure Resting (p q : UInt32) (s : TcpSession) : Prop where
  idle : Idle q s
  recvNext : s.recvWindow.recvNext = p
  recvBuffer : s.recvBuffer.toList = []
  stored : NothingStored s

/-- A segment with the given number and data, which acknowledges up to {lit}`ackNum`. -/
structure IsDataSegment (seqNum ackNum : UInt32) (data : List UInt8) (packet : MyuTcpPacket) :
    Prop where
  admitted : Admitted packet
  isAck : packet.has flagAck = true
  noFin : packet.has flagFin = false
  payload : packet.payload = data
  seq : packet.seq = seqNum
  ack : packet.ack = ackNum

/-- What a session sends is a data segment. -/
theorem isDataSegment_datagram (t : TcpSession) (ackNum : UInt32) {data : List UInt8}
    (hfits : data.length ≤ 65515) :
    IsDataSegment t.sendWindow.sendNext ackNum data (t.datagram flagAck ackNum data).packet where
  admitted := by
    refine ⟨verifyChecksum_calculateChecksum _ hfits, ?_, ?_⟩
    · rw [datagram_has]
      decide
    · rw [lacksFlags, datagram_has, datagram_has, datagram_has]
      decide
  isAck := by rw [datagram_has]; decide
  noFin := by rw [datagram_has]; decide
  payload := rfl
  seq := datagram_seq _ _ _ _
  ack := datagram_ack _ _ _ _

/-- A segment without data is a pure acknowledgment. -/
theorem IsDataSegment.isPlainAck {p ackNum : UInt32} {packet : MyuTcpPacket}
    (h : IsDataSegment p ackNum [] packet) : IsPlainAck ackNum packet :=
  ⟨h.admitted, h.isAck, h.noFin, h.payload, h.ack⟩

/-- An established session hands everything over. -/
theorem readAll_of_established (hstate : s.state = .established) :
    ∃ buffer, buffer.toList = [] ∧
      s.readAll = (s.recvBuffer.toList, { s with recvBuffer := buffer }) := by
  obtain ⟨hread, hrest⟩ := readLoop_eq (n := s.recvBuffer.size) (q := s.recvBuffer) le_rfl
  rw [← s.recvBuffer.length_toList, List.take_length] at hread
  rw [← s.recvBuffer.length_toList, List.drop_length] at hrest
  refine ⟨_, hrest, ?_⟩
  rw [readAll, closeOnEof_of_ne (by simp [hstate]), ← s.recvBuffer.length_toList, hread]

/-- The next segment is taken as a whole and acknowledged. -/
theorem Resting.receive {p : UInt32} (h : Resting p q s) {data : List UInt8} (hdata : data ≠ [])
    (hfits : data.length ≤ 1024) {packet : MyuTcpPacket} (hpacket : IsDataSegment p q data packet)
    (iss : UInt32) :
    ∃ s₁ t, s.input packet iss = some s₁ ∧ s₁.recvBuffer.toList = data ∧
      s₁.sent = s.sent ++ [datagram t flagAck (p + UInt32.ofNat data.length) []] ∧
      s₁.readAll.1 = data ∧ s₁.readAll.2.sent = s₁.sent ∧
      Resting (p + UInt32.ofNat data.length) q s₁.readAll.2 := by
  obtain ⟨hadmitted, hflag, hfin, rfl, hseq, hack⟩ := hpacket
  have hidle : Idle q (s.observe packet) :=
    ⟨h.idle.state, h.idle.sendUnack, h.idle.sendNext, h.idle.sendBuffer, h.idle.dup, h.idle.last⟩
  have hstored : NothingStored (s.observe packet) := h.stored.of_eq rfl rfl
  have hrefused : (s.observe packet).acceptsAck q = false := by
    rw [acceptsAck, hidle.sendUnack]
    simp
  -- everything fits into the empty buffer
  have hsize : s.recvBuffer.size = 0 := by rw [← s.recvBuffer.length_toList, h.recvBuffer]; rfl
  have hadmissible : (s.observe packet).admissible packet.payload = packet.payload := by
    rw [admissible, if_pos]
    change s.recvBuffer.size + _ ≤ _
    rwa [hsize, Nat.zero_add]
  have hnext : (s.observe packet).nextAfter packet.payload =
      p + UInt32.ofNat packet.payload.length := by
    rw [nextAfter, hadmissible]
    change s.recvWindow.recvNext + _ = _
    rw [h.recvNext]
  obtain ⟨buffer, t, hhandle, -, hbuffer⟩ :=
    hstored.payload_inOrder hdata (hseq.trans h.recvNext.symm)
  rw [hadmissible] at hbuffer
  rw [hnext] at hhandle
  have hlist : buffer.toList = packet.payload := by
    rw [hbuffer]
    change s.recvBuffer.toList ++ _ = _
    rw [h.recvBuffer, List.nil_append]
  have hignored : (s.observe packet).handleEstablishedAck packet = s.observe packet := by
    rw [handleEstablishedAck, if_pos hflag, handleAck, hack, hrefused, if_neg Bool.false_ne_true]
    exact handleTrySend_of_not _ hidle.not_transmits
  have hinput := input_established hadmitted h.idle.state iss
  rw [hignored, hhandle, Option.map_some, handleEstablishedFin,
    if_neg (Bool.eq_false_iff.mp hfin)] at hinput
  refine ⟨_, t, hinput, hlist, rfl, ?_⟩
  obtain ⟨empty, hempty, hread⟩ := readAll_of_established (s := { s.observe packet with
    recvBuffer := buffer
    recvWindow.recvNext := p + UInt32.ofNat packet.payload.length
    sent := (s.observe packet).sent ++
      [datagram t flagAck (p + UInt32.ofNat packet.payload.length) []]
    calls := (s.observe packet).calls ++ [.data buffer.size] }) h.idle.state
  rw [hread]
  refine ⟨hlist, rfl, ?_⟩
  exact
    { idle := ⟨h.idle.state, h.idle.sendUnack, h.idle.sendNext, h.idle.sendBuffer, h.idle.dup,
        h.idle.last⟩
      recvNext := rfl
      recvBuffer := hempty
      stored := h.stored.of_eq rfl rfl }

end Exchange

end TcpSession

end MyuTcp
