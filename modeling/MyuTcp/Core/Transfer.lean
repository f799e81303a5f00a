import MyuTcp.Core.IdleSession
import MyuTcp.Core.OneConnection

/-!
# Transfers between established sessions

What an established session does with data on a network that loses nothing.  The bytes in flight
are always the first ones of the send buffer, as many as the congestion window covers; the peer
takes them and acknowledges them, the acknowledgment grows the window, and the next bytes follow.

Main results:

- Theorem {lit}`Carrying.trySend`: a send attempt fills the window.
- Theorem {lit}`Transferring.send`: what {lit}`send()` puts on the wire.
- Theorem {lit}`Transferring.acked`: the acknowledgment of everything in flight.
- Theorem {lit}`Transferring.receive`: the segment next in line.
-/

namespace MyuTcp

open Library

namespace TcpSession

/-- Established with the given unacknowledged bytes, before any timeout. -/
structure Carrying (own peer : UInt32) (rest : List UInt8) (s : TcpSession) : Prop where
  state : s.state = .established
  sendUnack : s.sendWindow.sendUnack = own
  sendBuffer : s.sendBuffer.toList = rest
  recvNext : s.recvWindow.recvNext = peer
  stored : NothingStored s
  threshold : s.ssthresh = 8
  auto : s.autoCloseOnEof = true
  window_pos : 1 ≤ s.sendWindow.sendWindowSize.toNat
  window_le : s.sendWindow.sendWindowSize.toNat ≤ own.toNat + 16

/-- The part of the unacknowledged bytes that the window covers. -/
def flight (rest : List UInt8) (s : TcpSession) : List UInt8 :=
  rest.take s.sendWindow.sendWindowSize.toNat

/-- All that the window covers is in flight. -/
structure Transferring (own peer : UInt32) (rest : List UInt8) (s : TcpSession) : Prop extends
    Carrying own peer rest s where
  sendNext : s.sendWindow.sendNext = own + UInt32.ofNat (s.flight rest).length
  once : Once s

section Transfer

variable {own peer : UInt32} {rest data : List UInt8} {s s' : TcpSession} {packet : MyuTcpPacket}

/-- The bytes to say are those in the send buffer. -/
theorem Carrying.length (h : Carrying own peer rest s) : rest.length = s.sendBuffer.size := by
  rw [← h.sendBuffer, RingQueue.length_toList]

/-- At most a buffer is to be said. -/
theorem Carrying.short (h : Carrying own peer rest s) : rest.length ≤ 1024 :=
  h.length.trans_le s.sendBuffer.size_le

/-- A flight is a window long, or all that is left. -/
theorem length_flight (rest : List UInt8) (s : TcpSession) :
    (s.flight rest).length = min s.sendWindow.sendWindowSize.toNat rest.length := by
  rw [flight, List.length_take]

/-- With nothing to say nothing is in flight. -/
theorem flight_nil (s : TcpSession) : s.flight [] = [] := List.take_nil

/-- With something to say something is in flight. -/
theorem Carrying.flight_ne_nil (h : Carrying own peer rest s) (hrest : rest ≠ []) :
    s.flight rest ≠ [] := by
  have hpos := List.length_pos_iff.mpr hrest
  have hwindow := h.window_pos
  rw [← List.length_pos_iff, length_flight]
  omega

/-- With all that the window covers in flight, a send attempt does nothing. -/
theorem Carrying.not_transmits (h : Carrying own peer rest s)
    (hnext : s.sendWindow.sendNext = own + UInt32.ofNat (s.flight rest).length) :
    ¬ s.Transmits := by
  rintro ⟨-, hwindow, hsize⟩
  have hshort := h.short
  have hinflight : s.inflight.toNat = (s.flight rest).length := by
    have hdistance : s.inflight = UInt32.ofNat (s.flight rest).length := by
      unfold inflight
      rw [hnext, h.sendUnack]
      grind
    rw [hdistance, UInt32.toNat_ofNat', length_flight]
    omega
  rw [hinflight, ← h.length, length_flight] at hsize
  refine hwindow (UInt32.toNat_inj.mp ?_)
  rw [hinflight, length_flight]
  omega

/-- With nothing in flight, a send attempt sends what the window covers. -/
theorem Carrying.trySend (h : Carrying own peer rest s) (hnext : s.sendWindow.sendNext = own) :
    Carrying own peer rest s.handleTrySend ∧
      s.handleTrySend.sendWindow.sendNext = own + UInt32.ofNat (s.flight rest).length ∧
      s.handleTrySend.sent =
        s.sent ++ if rest = [] then [] else [s.datagram flagAck peer (s.flight rest)] := by
  have hkept : Carrying own peer rest s.handleTrySend := by
    constructor
    · rw [handleTrySend_state, h.state]
    · rw [handleTrySend_sendUnack, h.sendUnack]
    · rw [handleTrySend_sendBuffer, h.sendBuffer]
    · rw [handleTrySend_recvWindow, h.recvNext]
    · exact h.stored.of_eq (by rw [handleTrySend_recvWindow]) (handleTrySend_oooMap s)
    · rw [handleTrySend_ssthresh, h.threshold]
    · obtain ⟨m, timers, n, l, hframe⟩ := s.handleTrySend_frame
      rw [hframe]
      exact h.auto
    · rw [handleTrySend_sendWindowSize]
      exact h.window_pos
    · rw [handleTrySend_sendWindowSize]
      exact h.window_le
  refine ⟨hkept, ?_⟩
  have hinflight : s.inflight = 0 := by rw [inflight, hnext, h.sendUnack, UInt32.sub_self]
  have hwindow := h.window_pos
  by_cases hrest : rest = []
  · have hempty : ¬ s.Transmits := by
      rintro ⟨-, -, hsize⟩
      rw [← h.length, hrest] at hsize
      exact absurd hsize (Nat.not_lt_zero _)
    rw [handleTrySend_of_not _ hempty, hnext, hrest, if_pos rfl, List.append_nil]
    rw [flight_nil]
    exact ⟨(UInt32.add_zero own).symm, rfl⟩
  · have htransmits : s.Transmits := by
      refine ⟨Or.inl h.state, ?_, ?_⟩
      · intro hzero
        rw [hzero, hinflight] at hwindow
        exact absurd hwindow (by decide)
      · rw [hinflight, ← h.length]
        exact List.length_pos_iff.mpr hrest
    have hpayload : s.nextPayload = s.flight rest := by
      rw [nextPayload, hinflight, h.sendBuffer, UInt32.toNat_zero, List.drop_zero,
        UInt32.sub_zero]
      rfl
    rw [handleTrySend_of_transmits _ htransmits, hpayload, if_neg hrest, hnext, h.recvNext]
    exact ⟨rfl, rfl⟩

/-- What {lit}`send()` takes over for a session with an empty send buffer goes on the wire at once,
as far as the window allows. -/
theorem Transferring.send (h : Transferring own peer [] s) (hdata : data ≠ []) :
    ∃ s', step s (.send data) = some s' ∧ Transferring own peer (data.take 1024) s' ∧
      s'.recvBuffer = s.recvBuffer ∧
      ∃ t : TcpSession, t.sendWindow.sendNext = own ∧
        s'.sent = s.sent ++ [t.datagram flagAck peer (t.flight (data.take 1024))] ∧
        t.flight (data.take 1024) = s'.flight (data.take 1024) := by
  have hsize : s.sendBuffer.size = 0 := h.length.symm
  have haccepted : data.take (min data.length (s.sendBuffer.capacity - s.sendBuffer.size)) =
      data.take 1024 := by
    rw [hsize, Nat.min_comm]
    exact List.take_eq_take_min.symm
  have hsome : data.take 1024 ≠ [] := by
    rw [Ne, List.take_eq_nil_iff]
    simpa using hdata
  obtain ⟨buffer, hpush⟩ : ∃ buffer, s.sendBuffer.pushBatch (data.take 1024) = some buffer := by
    rw [← Option.ne_none_iff_exists', Ne, RingQueue.pushBatch_eq_none_iff, hsize, Nat.zero_add]
    exact Nat.not_lt.mpr (List.length_take_le _ _)
  have hlist : buffer.toList = data.take 1024 := by
    rw [RingQueue.toList_pushBatch hpush, h.sendBuffer, List.nil_append]
  have hsend : step s (.send data) = some { s with sendBuffer := buffer }.handleTrySend := by
    rw [step, TcpSession.send, if_neg (by simpa using hdata)]
    dsimp only
    rw [haccepted, hpush]
  have hcarrying : Carrying own peer (data.take 1024) { s with sendBuffer := buffer } :=
    ⟨h.state, h.sendUnack, hlist, h.recvNext, h.stored.of_eq rfl rfl, h.threshold, h.auto,
      h.window_pos, h.window_le⟩
  have hnext : s.sendWindow.sendNext = own := by
    rw [h.sendNext, flight_nil]
    exact UInt32.add_zero own
  rcases hcarrying.trySend hnext with ⟨hcarried, hfilled, hsent⟩
  rw [if_neg hsome] at hsent
  have hflight : { s with sendBuffer := buffer }.handleTrySend.flight (data.take 1024) =
      { s with sendBuffer := buffer }.flight (data.take 1024) := by
    rw [flight, flight, handleTrySend_sendWindowSize]
  have honce := once_step (e := .send data) h.once trivial hsend
  refine ⟨_, hsend, ⟨hcarried, ?_, honce⟩, handleTrySend_recvBuffer _, _, hnext, hsent,
    hflight.symm⟩
  rw [hfilled, hflight]

/-- One acknowledgment lets the window grow by a bounded amount. -/
theorem grownWindow_bounds {cwnd : UInt32} {own n : Nat} (hpos : 1 ≤ cwnd.toNat)
    (hle : cwnd.toNat ≤ own + 16) (hn : 1 ≤ n) (hroom : own + n + 16 < 2 ^ 32) :
    1 ≤ (grownWindow cwnd 8).toNat ∧ (grownWindow cwnd 8).toNat ≤ own + n + 16 := by
  rw [grownWindow_toNat (by omega)]
  split
  · omega
  · omega

/-- The acknowledgment of everything in flight lets the next bytes follow. -/
theorem Transferring.acked (h : Transferring own peer rest s) (hrest : rest ≠ [])
    (hroom : own.toNat + rest.length + 16 < 2 ^ 32)
    (hpacket : IsPlainAck (own + UInt32.ofNat (s.flight rest).length) packet) (iss : UInt32) :
    ∃ s', step s (.input packet iss) = some s' ∧
      Transferring (own + UInt32.ofNat (s.flight rest).length) peer
        (rest.drop (s.flight rest).length) s' ∧
      s'.recvBuffer = s.recvBuffer ∧
      ∃ t : TcpSession, t.sendWindow.sendNext = own + UInt32.ofNat (s.flight rest).length ∧
        t.flight (rest.drop (s.flight rest).length) =
          s'.flight (rest.drop (s.flight rest).length) ∧
        s'.sent = s.sent ++ if rest.drop (s.flight rest).length = [] then [] else
          [t.datagram flagAck peer (t.flight (rest.drop (s.flight rest).length))] := by
  obtain ⟨hadmitted, hflag, hfin, hpayload, hack⟩ := hpacket
  have hpos := List.length_pos_iff.mpr (h.flight_ne_nil hrest)
  have hle : (s.flight rest).length ≤ rest.length := by
    rw [length_flight]
    exact Nat.min_le_right _ _
  generalize hn : (s.flight rest).length = n at *
  have hown : (own + UInt32.ofNat n).toNat = own.toNat + n := by
    rw [UInt32.toNat_add, UInt32.toNat_ofNat']
    omega
  have hnext : s.sendWindow.sendNext = own + UInt32.ofNat n := by rw [h.sendNext, hn]
  have haccepts : (s.observe packet).acceptsAck packet.ack = true := by
    rw [hack]
    simp only [acceptsAck, observe, setPeerUsableWindowSize, h.sendUnack, hnext,
      Bool.and_eq_true, decide_eq_true_eq, gt_iff_lt]
    refine ⟨?_, UInt32.le_refl _⟩
    rw [UInt32.lt_iff_toNat_lt, hown]
    omega
  have hprocess := (s.observe packet).processAck_of_not (h.once.not_thirdDuplicate packet).2
  rw [hack] at hprocess haccepts
  have hcarrying : Carrying (own + UInt32.ofNat n) peer (rest.drop n)
      ((s.observe packet).processAck (own + UInt32.ofNat n)) := by
    have hdistance : (own + UInt32.ofNat n - s.sendWindow.sendUnack).toNat = n := by
      rw [h.sendUnack, show own + UInt32.ofNat n - own = UInt32.ofNat n by grind,
        UInt32.toNat_ofNat']
      omega
    have hbounds := grownWindow_bounds h.window_pos h.window_le hpos (by omega)
    rw [hprocess]
    constructor
    · exact h.state
    · rfl
    · change
        (s.sendBuffer.popFront (own + UInt32.ofNat n - s.sendWindow.sendUnack).toNat).toList = _
      rw [RingQueue.toList_popFront, hdistance, h.sendBuffer]
    · exact h.recvNext
    · exact h.stored.of_eq rfl rfl
    · exact h.threshold
    · exact h.auto
    · change 1 ≤ (grownWindow s.sendWindow.sendWindowSize s.ssthresh).toNat
      rw [h.threshold]
      exact hbounds.1
    · change (grownWindow s.sendWindow.sendWindowSize s.ssthresh).toNat ≤ _
      rw [h.threshold, hown]
      exact hbounds.2
  have hfresh : ((s.observe packet).processAck (own + UInt32.ofNat n)).sendWindow.sendNext =
      own + UInt32.ofNat n := by
    rw [hprocess]
    exact hnext
  rcases hcarrying.trySend hfresh with ⟨hcarried, hfilled, hsent⟩
  have hflight : ((s.observe packet).processAck (own + UInt32.ofNat n)).handleTrySend.flight
      (rest.drop n) = ((s.observe packet).processAck (own + UInt32.ofNat n)).flight
        (rest.drop n) := by
    rw [flight, flight, handleTrySend_sendWindowSize]
  rw [← hflight] at hfilled
  have hinput : step s (.input packet iss) =
      some ((s.observe packet).processAck (own + UInt32.ofNat n)).handleTrySend := by
    rw [step, input_established hadmitted h.state, handleEstablishedAck, if_pos hflag, handleAck,
      hack, if_pos haccepts]
    -- the second attempt finds the window full
    rw [handleTrySend_of_not _ (hcarried.not_transmits hfilled),
      handleEstablishedPayload_nil hpayload, Option.map_some, handleEstablishedFin, if_neg]
    rw [hfin]
    exact Bool.false_ne_true
  have hlog : ((s.observe packet).processAck (own + UInt32.ofNat n)).sent = s.sent := by
    rw [hprocess]
    rfl
  have hbuffer : ((s.observe packet).processAck (own + UInt32.ofNat n)).handleTrySend.recvBuffer =
      s.recvBuffer := by
    rw [handleTrySend_recvBuffer, hprocess]
    rfl
  rw [hlog] at hsent
  exact ⟨_, hinput, ⟨hcarried, hfilled, once_step (e := .input packet iss) h.once trivial hinput⟩,
    hbuffer, _, hfresh, hflight.symm, hsent⟩

/-- The segment next in line is taken as a whole and acknowledged. -/
theorem Transferring.receive (h : Transferring own peer [] s) (hdata : data ≠ [])
    (hfits : s.recvBuffer.size + data.length ≤ 1024) (hpacket : IsDataSegment peer own data packet)
    (iss : UInt32) :
    ∃ s', step s (.input packet iss) = some s' ∧
      Transferring own (peer + UInt32.ofNat data.length) [] s' ∧
      s'.recvBuffer.toList = s.recvBuffer.toList ++ data ∧ s'.timerManager = s.timerManager ∧
      ∃ t : TcpSession,
        s'.sent = s.sent ++ [t.datagram flagAck (peer + UInt32.ofNat data.length) []] := by
  obtain ⟨hadmitted, hflag, hfin, rfl, hseq, hack⟩ := hpacket
  have hrefused : (s.observe packet).acceptsAck packet.ack = false := by
    rw [hack, acceptsAck]
    simp [observe, setPeerUsableWindowSize, h.sendUnack]
  have hstored : NothingStored (s.observe packet) := h.stored.of_eq rfl rfl
  have hadmissible : (s.observe packet).admissible packet.payload = packet.payload := by
    rw [admissible, if_pos]
    exact hfits
  have hnext : (s.observe packet).nextAfter packet.payload =
      peer + UInt32.ofNat packet.payload.length := by
    rw [nextAfter, hadmissible]
    change s.recvWindow.recvNext + _ = _
    rw [h.recvNext]
  obtain ⟨buffer, t, hhandle, -, hbuffer⟩ :=
    hstored.payload_inOrder hdata (hseq.trans h.recvNext.symm)
  rw [hadmissible] at hbuffer
  rw [hnext] at hhandle
  have hnot : ¬ (s.observe packet).Transmits := h.not_transmits h.sendNext
  have hignored : (s.observe packet).handleEstablishedAck packet = s.observe packet := by
    rw [handleEstablishedAck, if_pos hflag, handleAck, if_neg (Bool.eq_false_iff.mp hrefused)]
    exact handleTrySend_of_not _ hnot
  have hinput := input_established hadmitted h.state iss
  rw [hignored, hhandle, Option.map_some, handleEstablishedFin,
    if_neg (Bool.eq_false_iff.mp hfin)] at hinput
  refine ⟨_, hinput, ?_, hbuffer, rfl, t, rfl⟩
  exact
    { state := h.state
      sendUnack := h.sendUnack
      sendBuffer := h.sendBuffer
      recvNext := rfl
      stored := h.stored.of_eq rfl rfl
      threshold := h.threshold
      auto := h.auto
      window_pos := h.window_pos
      window_le := h.window_le
      sendNext := h.sendNext
      once := once_step (e := .input packet iss) h.once trivial hinput }

/-- The application of an established session takes everything that waits for it. -/
theorem Transferring.readAll (h : Transferring own peer rest s) :
    ∃ s', step s .readAll = some s' ∧ Transferring own peer rest s' ∧
      s.readAll.1 = s.recvBuffer.toList ∧ s'.recvBuffer.toList = [] ∧
      s'.timerManager = s.timerManager ∧ s'.sent = s.sent := by
  obtain ⟨buffer, hempty, hread⟩ := readAll_of_established h.state
  have hstep : step s .readAll = some { s with recvBuffer := buffer } := by
    rw [step, hread]
  refine ⟨_, hstep, ?_, by rw [hread], hempty, rfl, rfl⟩
  exact
    { state := h.state
      sendUnack := h.sendUnack
      sendBuffer := h.sendBuffer
      recvNext := h.recvNext
      stored := h.stored.of_eq rfl rfl
      threshold := h.threshold
      auto := h.auto
      window_pos := h.window_pos
      window_le := h.window_le
      sendNext := h.sendNext
      once := once_step (e := .readAll) h.once trivial hstep }

end Transfer

end TcpSession

end MyuTcp
