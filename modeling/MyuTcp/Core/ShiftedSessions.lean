import MyuTcp.Core.FlightTimers

/-!
# Sessions that differ in their numbers

Two sessions with other initial numbers that have done the same so far.  Their own numbers differ
by one offset and those of their peers by another, modulo the size of the sequence space, and
everything else that can be seen of them is the same.  One step keeps them so, as long as
{lit}`_handle_ack` does not compare numbers across the end of the sequence space.

Main results:

- Theorem {lit}`acceptsAck_iff`: which acknowledgments {lit}`_handle_ack` accepts, in distances.
- Theorem {lit}`shifted_step`: one step of two such sessions.
-/

namespace MyuTcp

open Library

namespace TcpSession

/-- The packets differ in their numbers only.  One without ACK acknowledges nothing. -/
structure ShiftedPacket (d e : UInt32) (p q : MyuTcpPacket) : Prop where
  sPort : q.header.sPort = p.header.sPort
  dPort : q.header.dPort = p.header.dPort
  flags : q.header.flags = p.header.flags
  payload : q.payload = p.payload
  window : q.window = p.window
  seq : q.seq = p.seq + d
  ack : p.has flagAck = true → q.ack = p.ack + e
  verified : verifyChecksum p = true ∧ verifyChecksum q = true
  short : p.payload.length ≤ 65515

/-- The packets of two datagrams differ by the shifts of their numbers. -/
structure ShiftedDatagram (d e : UInt32) (a b : Datagram) : Prop where
  packet : ShiftedPacket d e a.packet b.packet
  destIp : b.destIp = a.destIp
  destPort : b.destPort = a.destPort

/-- Two retransmission timers differ by the shifts of the numbers in their packets. -/
structure ShiftedTimer (d e : UInt32) (a b : UvTimer RetransmitClosure) : Prop where
  packet : ShiftedPacket d e a.callback.packet b.callback.packet
  timeoutMs : b.timeoutMs = a.timeoutMs
  retransmitCount : b.callback.retransmitCount = a.callback.retransmitCount
  capturedIp : b.callback.capturedIp = a.callback.capturedIp
  capturedPort : b.callback.capturedPort = a.callback.capturedPort

/-- The active timers are the same, under shifted numbers. -/
structure ShiftedTimers (d e : UInt32) (m n : TimerManager RetransmitClosure) : Prop where
  twoMsl : n.twoMslActive = m.twoMslActive
  active : ∀ k, Option.Rel (ShiftedTimer d e) (m.activeAt k) (n.activeAt (k + d))

/-- The sessions are the same, apart from numbers. -/
structure Alike (d e : UInt32) (s t : TcpSession) : Prop where
  state : t.state = s.state
  sendBuffer : t.sendBuffer = s.sendBuffer
  recvBuffer : t.recvBuffer = s.recvBuffer
  calls : t.calls = s.calls
  listenerPort : t.listenerPort = s.listenerPort
  remoteIp : t.remoteIp = s.remoteIp
  remotePort : t.remotePort = s.remotePort
  userWantToClose : t.userWantToClose = s.userWantToClose
  peerUsableWindowSize : t.peerUsableWindowSize = s.peerUsableWindowSize
  sendWindowSize : t.sendWindow.sendWindowSize = s.sendWindow.sendWindowSize
  ssthresh : t.ssthresh = s.ssthresh
  currentRto : t.currentRto = s.currentRto
  autoCloseOnEof : t.autoCloseOnEof = s.autoCloseOnEof
  timers : ShiftedTimers d e s.timerManager t.timerManager
  sent : List.Forall₂ (ShiftedDatagram d e) s.sent t.sent

/-- The sessions have numbers of their own, which are shifted. -/
structure Opened (d e : UInt32) (s t : TcpSession) : Prop extends Alike d e s t where
  sendUnack : t.sendWindow.sendUnack = s.sendWindow.sendUnack + d
  sendNext : t.sendWindow.sendNext = s.sendWindow.sendNext + d

/-- The sessions also know the numbers of their peers. -/
structure Linked (d e : UInt32) (s t : TcpSession) : Prop extends Opened d e s t where
  recvNext : t.recvWindow.recvNext = s.recvWindow.recvNext + e

/-- The session has not received a SYN, and has no packet that acknowledges one. -/
def Unanswered (s : TcpSession) : Prop :=
  (s.state = .closed ∨ s.state = .listen ∨ s.state = .synSent) ∧
    ∀ k t, s.timerManager.activeAt k = some t → t.callback.packet.has flagAck = false

/-- Who knows the offsets sees no difference between the sessions. -/
structure SeenAlike (d e : UInt32) (s t : TcpSession) : Prop extends Alike d e s t where
  opened : s.sent ≠ [] → Opened d e s t

/-- The sessions have done the same so far, with other numbers. -/
structure Shifted (d e : UInt32) (s t : TcpSession) : Prop extends SeenAlike d e s t where
  synced : t.recvWindow.recvNext = s.recvWindow.recvNext + e ∨ s.Unanswered

section Relations

variable {d e : UInt32} {s t : TcpSession} {p q : MyuTcpPacket}
  {m n : TimerManager RetransmitClosure}

/-- Linked sessions are shifted, in whatever state. -/
theorem Linked.shifted (h : Linked d e s t) : Shifted d e s t :=
  { h with
    opened := fun _ => h.toOpened
    synced := Or.inl h.recvNext }

/-- Sessions that are past the first SYN are linked. -/
theorem Shifted.linked (h : Shifted d e s t)
    (hsent : s.state ≠ .closed → s.state ≠ .listen → s.sent ≠ [])
    (hstate : s.state ≠ .closed ∧ s.state ≠ .listen ∧ s.state ≠ .synSent) : Linked d e s t := by
  have hopened := h.opened (hsent hstate.1 hstate.2.1)
  rcases h.synced with hsynced | ⟨hunanswered, -⟩
  · exact { hopened with recvNext := hsynced }
  · rcases hunanswered with hclosed | hlisten | hsynSent
    · exact absurd hclosed hstate.1
    · exact absurd hlisten hstate.2.1
    · exact absurd hsynSent hstate.2.2

/-! ## Packets -/

/-- The flags are the same. -/
theorem ShiftedPacket.has (h : ShiftedPacket d e p q) (flag : UInt8) : q.has flag = p.has flag := by
  rw [MyuTcpPacket.has, MyuTcpPacket.has, h.flags]

/-- Both packets are admitted or neither is. -/
theorem ShiftedPacket.admitted_iff (h : ShiftedPacket d e p q) : Admitted q ↔ Admitted p := by
  simp only [Admitted, lacksFlags, h.has, h.verified]

/-- Both advertise the same window. -/
theorem Alike.window (h : Alike d e s t) :
    t.getUsableRecvWindowSize = s.getUsableRecvWindowSize := by
  rw [getUsableRecvWindowSize, getUsableRecvWindowSize, h.recvBuffer]

/-- The packets that two sessions build with the same flags and payload. -/
theorem Alike.segment (h : Alike d e s t)
    (hnext : t.sendWindow.sendNext = s.sendWindow.sendNext + d) {flags : UInt8} {a b : UInt32}
    (hack : flags &&& flagAck ≠ 0 → b = a + e) {payload : List UInt8}
    (hshort : payload.length ≤ 65515) :
    ShiftedPacket d e (calculateChecksum (s.segment flags a payload))
      (calculateChecksum (t.segment flags b payload)) where
  sPort := congrArg htons h.listenerPort
  dPort := congrArg htons h.remotePort
  flags := by
    rw [calculateChecksum_flags, calculateChecksum_flags, segment_flags, segment_flags]
  payload := by
    rw [calculateChecksum_payload, calculateChecksum_payload, segment_payload, segment_payload]
  window := by
    rw [calculateChecksum_window, calculateChecksum_window]
    change ntohs (htons _) = ntohs (htons _)
    rw [h.window]
  seq := by rw [calculateChecksum_seq, calculateChecksum_seq, segment_seq, segment_seq, hnext]
  ack hflag := by
    rw [calculateChecksum_has, segment_has, bne_iff_ne] at hflag
    rw [calculateChecksum_ack, calculateChecksum_ack, segment_ack, segment_ack, hack hflag]
  verified := ⟨verifyChecksum_calculateChecksum _ hshort,
    verifyChecksum_calculateChecksum _ hshort⟩
  short := hshort

/-- Both send the same packet, with the numbers shifted. -/
theorem Alike.datagram (h : Alike d e s t)
    (hnext : t.sendWindow.sendNext = s.sendWindow.sendNext + d) {flags : UInt8} {a b : UInt32}
    (hack : flags &&& flagAck ≠ 0 → b = a + e) {payload : List UInt8}
    (hshort : payload.length ≤ 65515) :
    ShiftedDatagram d e (s.datagram flags a payload) (t.datagram flags b payload) where
  packet := h.segment hnext hack hshort
  destIp := h.remoteIp
  destPort := h.remotePort

/-- The packets that two expiries send. -/
theorem ShiftedPacket.refresh (hp : ShiftedPacket d e p q) (h : Alike d e s t)
    (hsync : p.has flagAck = true → t.recvWindow.recvNext = s.recvWindow.recvNext + e) :
    ShiftedPacket d e (s.refreshPacket p) (t.refreshPacket q) where
  sPort := hp.sPort
  dPort := hp.dPort
  flags := by rw [refreshPacket_flags, refreshPacket_flags, hp.flags]
  payload := by rw [refreshPacket_payload, refreshPacket_payload, hp.payload]
  window := by
    rw [refreshPacket, refreshPacket, calculateChecksum_window, calculateChecksum_window]
    change ntohs (htons _) = ntohs (htons _)
    rw [h.window]
  seq := by rw [refreshPacket_seq, refreshPacket_seq, hp.seq]
  ack hflag := by
    rw [refreshPacket_has] at hflag
    rw [refreshPacket_ack, refreshPacket_ack, hsync hflag]
  verified := by
    refine ⟨verifyChecksum_calculateChecksum _ hp.short, verifyChecksum_calculateChecksum _ ?_⟩
    exact hp.payload ▸ hp.short
  short := by
    rw [refreshPacket_payload]
    exact hp.short

/-! ## Timers -/

/-- Stopping a timer in both. -/
theorem ShiftedTimers.stop (h : ShiftedTimers d e m n) {k l : UInt32} (hl : l = k + d) :
    ShiftedTimers d e (m.stopTimer k) (n.stopTimer l) where
  twoMsl := by
    rw [TimerManager.twoMslActive_stopTimer, TimerManager.twoMslActive_stopTimer, h.twoMsl]
  active j := by
    rw [TimerManager.activeAt_stopTimer, TimerManager.activeAt_stopTimer, hl]
    simp only [UInt32.add_left_inj]
    split
    · exact .none
    · exact h.active j

/-- Starting a timer in both. -/
theorem ShiftedTimers.start (h : ShiftedTimers d e m n) {k l : UInt32} (hl : l = k + d)
    {timeoutMs timeoutMs' : UInt64} {c c' : RetransmitClosure}
    (hc : ShiftedTimer d e ⟨true, timeoutMs, c⟩ ⟨true, timeoutMs', c'⟩) :
    ShiftedTimers d e (m.startTimer k timeoutMs c) (n.startTimer l timeoutMs' c') where
  twoMsl := by
    rw [TimerManager.twoMslActive_startTimer, TimerManager.twoMslActive_startTimer, h.twoMsl]
  active j := by
    rw [TimerManager.activeAt_startTimer, TimerManager.activeAt_startTimer, hl]
    simp only [UInt32.add_left_inj]
    split
    · exact .some hc
    · exact h.active j

/-- After all timers are stopped nothing is active in either. -/
theorem shiftedTimers_stopAll (m n : TimerManager RetransmitClosure) :
    ShiftedTimers d e m.stopAllTimers n.stopAllTimers where
  twoMsl := rfl
  active j := by
    rw [TimerManager.activeAt_stopAllTimers, TimerManager.activeAt_stopAllTimers]
    exact .none

/-- Dropping the timers below a number in both, where the order of the numbers agrees. -/
theorem ShiftedTimers.dropUpTo (h : ShiftedTimers d e m n) {a b : UInt32}
    (hab : ∀ k t u, m.activeAt k = some t → n.activeAt (k + d) = some u → (k < a ↔ k + d < b)) :
    ShiftedTimers d e (m.dropTimerUpTo a) (n.dropTimerUpTo b) where
  twoMsl := h.twoMsl
  active j := by
    rw [TimerManager.activeAt_dropTimerUpTo, TimerManager.activeAt_dropTimerUpTo]
    rcases optionRel_iff.mp (h.active j) with ⟨hm, hn⟩ | ⟨t, u, hm, hn, htu⟩
    · rw [hm, hn, ite_self, ite_self]
      exact .none
    · rw [hm, hn]
      by_cases hlt : j < a
      · rw [if_pos hlt, if_pos ((hab j t u hm hn).mp hlt)]
        exact .none
      · rw [if_neg hlt, if_neg (mt (hab j t u hm hn).mpr hlt)]
        exact .some htu

/-- The closures that control segments register. -/
theorem Alike.controlClosure (h : Alike d e s t)
    (hnext : t.sendWindow.sendNext = s.sendWindow.sendNext + d) {flags : UInt8} {a b : UInt32}
    (hack : flags &&& flagAck ≠ 0 → b = a + e) :
    ShiftedTimer d e ⟨true, s.getTimeoutMs, s.controlClosure flags a⟩
      ⟨true, t.getTimeoutMs, t.controlClosure flags b⟩ where
  packet := h.segment hnext hack (by simp)
  timeoutMs := by
    rw [getTimeoutMs, getTimeoutMs, h.currentRto]
  retransmitCount := rfl
  capturedIp := h.remoteIp
  capturedPort := h.remotePort

/-- The timers of a data packet re-send the same packet, with the numbers shifted. -/
theorem Linked.payloadClosure (h : Linked d e s t) {flags : UInt8} {payload : List UInt8}
    (hshort : payload.length ≤ 65515) :
    ShiftedTimer d e ⟨true, s.getTimeoutMs, s.payloadClosure payload flags⟩
      ⟨true, t.getTimeoutMs, t.payloadClosure payload flags⟩ where
  packet := h.segment h.sendNext (fun _ => h.recvNext) hshort
  timeoutMs := by
    rw [getTimeoutMs, getTimeoutMs, h.currentRto]
  retransmitCount := rfl
  capturedIp := rfl
  capturedPort := rfl

/-- One datagram more in both logs. -/
theorem Alike.log (h : Alike d e s t) {a b : Datagram} (hab : ShiftedDatagram d e a b) :
    List.Forall₂ (ShiftedDatagram d e) (s.sent ++ [a]) (t.sent ++ [b]) :=
  List.rel_append h.sent (.cons hab .nil)

/-! ## Emission -/

/-- The same number of bytes is in flight. -/
theorem Opened.inflight (h : Opened d e s t) : t.inflight = s.inflight := by
  rw [TcpSession.inflight, TcpSession.inflight, h.sendNext, h.sendUnack]
  grind

/-- Both acknowledge. -/
theorem Linked.sendPureAck (h : Linked d e s t) {a b : UInt32} (hab : b = a + e) :
    Linked d e (s.sendPureAck a) (t.sendPureAck b) :=
  { h with sent := h.log (h.datagram h.sendNext (fun _ => hab) (by simp)) }

/-- Both would send the same bytes next. -/
theorem Linked.nextPayload (h : Linked d e s t) : t.nextPayload = s.nextPayload := by
  rw [TcpSession.nextPayload, TcpSession.nextPayload, h.sendBuffer, h.inflight, h.sendWindowSize]

/-- Both have something to send or neither has. -/
theorem Opened.transmits_iff (h : Opened d e s t) : t.Transmits ↔ s.Transmits := by
  rw [Transmits, Transmits, h.state, h.sendWindowSize, h.inflight, h.sendBuffer]

/-- Both send the same data. -/
theorem Linked.handleTrySend (h : Linked d e s t) :
    Linked d e s.handleTrySend t.handleTrySend := by
  by_cases htransmits : s.Transmits
  · have hshort : s.nextPayload.length ≤ 65515 := by
      have hsize := s.sendBuffer.size_le
      have hcapacity : s.sendBuffer.capacity = 1024 := rfl
      rw [s.length_nextPayload]
      omega
    rw [s.handleTrySend_of_transmits htransmits,
      t.handleTrySend_of_transmits (h.transmits_iff.mpr htransmits), h.nextPayload]
    exact
      { h with
        timers := h.timers.start h.sendNext (h.payloadClosure hshort)
        sendNext := by
          dsimp only
          rw [h.sendNext]
          grind
        sent := h.log (h.datagram h.sendNext (fun _ => h.recvNext) hshort) }
  · rw [s.handleTrySend_of_not htransmits,
      t.handleTrySend_of_not (mt h.transmits_iff.mp htransmits)]
    exact h

/-- Setting {lit}`send_next_` in both. -/
theorem Alike.atSeq (h : Alike d e s t) {n k : UInt32} : Alike d e (s.atSeq n) (t.atSeq k) :=
  { h with sendWindowSize := h.sendWindowSize }

/-- A transition of both. -/
theorem Linked.transitionTo (h : Linked d e s t) (next : TcpState) :
    Linked d e (s.transitionTo next) (t.transitionTo next) :=
  { h with state := rfl }

/-- A callback of both. -/
theorem Linked.notify (h : Linked d e s t) (call : CallbackCall) :
    Linked d e (s.notify call) (t.notify call) :=
  { h with
    calls := by
      rw [TcpSession.notify, TcpSession.notify, h.calls] }

/-! ## Opening -/

/-- Both open actively. -/
theorem Alike.connect (h : Alike d e s t) (hnone : ∀ k, s.timerManager.activeAt k = none)
    {x y : UInt32} (hxy : y = x + d) : Shifted d e (s.connect x) (t.connect y) := by
  have hseq : (t.atSeq y).sendWindow.sendNext = (s.atSeq x).sendWindow.sendNext + d := hxy
  have hsyn : flagSyn &&& flagAck ≠ 0 → t.recvWindow.recvNext = s.recvWindow.recvNext + e :=
    fun h => absurd rfl h
  have hopened : Opened d e (s.connect x) (t.connect y) := by
    rw [connect_eq, connect_eq]
    exact
      { h with
        state := rfl
        calls := by
          dsimp only
          rw [h.calls]
        timers := h.timers.start hxy (h.atSeq.controlClosure hseq hsyn)
        sendUnack := hxy
        sendNext := by
          dsimp only
          rw [hxy]
          grind
        sent := h.log (h.atSeq.datagram hseq hsyn (by simp)) }
  have hstate : (s.connect x).state = .synSent := by rw [connect_eq]
  refine { hopened with opened := fun _ => hopened, synced := Or.inr ⟨Or.inr (Or.inr hstate), ?_⟩ }
  intro k u hu
  rw [connect_eq, TimerManager.activeAt_startTimer] at hu
  split at hu
  · cases hu
    rw [TcpSession.controlClosure, calculateChecksum_has, segment_has]
    decide
  · rw [hnone k] at hu
    contradiction

/-- Both answer the first SYN. -/
theorem Alike.handleListen (h : Alike d e s t) (hp : ShiftedPacket e d p q)
    (hsyn : p.has flagSyn = true) {x y : UInt32} (hxy : y = x + d) :
    Linked d e (s.handleListen p x) (t.handleListen q y) := by
  have hseq : (t.atSeq y).sendWindow.sendNext = (s.atSeq x).sendWindow.sendNext + d := hxy
  have hnext : q.seq + 1 = p.seq + 1 + e := by
    rw [hp.seq]
    grind
  rw [handleListen_eq s hsyn, handleListen_eq t (by rw [hp.has, hsyn])]
  exact
    { h with
      state := rfl
      timers := h.timers.start hxy (h.atSeq.controlClosure hseq fun _ => hnext)
      sendUnack := hxy
      sendNext := by
        dsimp only
        rw [hxy]
        grind
      recvNext := hnext
      sent := h.log (h.atSeq.datagram hseq (fun _ => hnext) (by simp)) }

/-- Both accept the SYN-ACK. -/
theorem Opened.acceptSynAck (h : Opened d e s t) (hp : ShiftedPacket e d p q)
    (hflag : p.has flagAck = true) : Linked d e (s.acceptSynAck p) (t.acceptSynAck q) := by
  have hnext : q.seq + 1 = p.seq + 1 + e := by
    rw [hp.seq]
    grind
  rw [acceptSynAck_eq, acceptSynAck_eq]
  exact
    { h with
      state := rfl
      calls := by
        dsimp only
        rw [h.calls]
      timers := h.timers.stop h.sendUnack
      sendUnack := hp.ack hflag
      recvNext := hnext
      sent := h.log (h.datagram h.sendNext (fun _ => hnext) (by simp)) }

/-- Both answer a crossing SYN. -/
theorem Opened.acceptPeerSyn (h : Opened d e s t) (hp : ShiftedPacket e d p q) :
    Linked d e (s.acceptPeerSyn p) (t.acceptPeerSyn q) := by
  have hnext : q.seq + 1 = p.seq + 1 + e := by
    rw [hp.seq]
    grind
  rw [acceptPeerSyn_eq, acceptPeerSyn_eq]
  exact
    { h with
      state := rfl
      timers := h.timers.start h.sendNext (h.controlClosure h.sendNext fun _ => hnext)
      sendNext := by
        dsimp only
        rw [h.sendNext]
        grind
      recvNext := hnext
      sent := h.log (h.datagram h.sendNext (fun _ => hnext) (by simp)) }

/-- Both accept the acknowledgment of a SYN or FIN. -/
theorem Linked.advanceUnack (h : Linked d e s t) (hp : ShiftedPacket e d p q)
    (hflag : p.has flagAck = true) : Linked d e (s.advanceUnack p.ack) (t.advanceUnack q.ack) :=
  { h with
    sendUnack := hp.ack hflag
    timers := by
      apply h.timers.stop
      rw [hp.ack hflag]
      grind }

/-! ## Closing -/

/-- Both take the FIN of the peer. -/
theorem Linked.acceptFin (h : Linked d e s t) (hp : ShiftedPacket e d p q) :
    Linked d e (s.acceptFin p) (t.acceptFin q) := by
  have hnext : q.seq + 1 = p.seq + 1 + e := by
    rw [hp.seq]
    grind
  rw [acceptFin_eq, acceptFin_eq]
  exact
    { h with
      recvNext := hnext
      sent := h.log (h.datagram h.sendNext (fun _ => hnext) (by simp)) }

/-- Both send their FIN from ESTABLISHED. -/
theorem Linked.closeEstablished (h : Linked d e s t) :
    Linked d e s.closeEstablished t.closeEstablished := by
  rw [closeEstablished_eq, closeEstablished_eq]
  exact
    { h with
      state := rfl
      timers := (shiftedTimers_stopAll _ _).start h.sendNext
        (h.controlClosure h.sendNext fun _ => h.recvNext)
      sendNext := by
        dsimp only
        rw [h.sendNext]
        grind
      sent := h.log (h.datagram h.sendNext (fun _ => h.recvNext) (by simp))
      userWantToClose := rfl }

/-- Both send their FIN from CLOSE_WAIT. -/
theorem Linked.closeCloseWait (h : Linked d e s t) :
    Linked d e s.closeCloseWait t.closeCloseWait := by
  rw [closeCloseWait_eq, closeCloseWait_eq]
  exact
    { h with
      state := rfl
      timers := h.timers.start h.sendNext (h.controlClosure h.sendNext fun _ => h.recvNext)
      sendNext := by
        dsimp only
        rw [h.sendNext]
        grind
      sent := h.log (h.datagram h.sendNext (fun _ => h.recvNext) (by simp))
      userWantToClose := rfl }

/-- Both have everything acknowledged or neither has. -/
theorem Opened.drained_iff (h : Opened d e s t) : t.Drained ↔ s.Drained := by
  rw [Drained, Drained, h.userWantToClose, h.sendBuffer, h.sendUnack, h.sendNext,
    UInt32.add_left_inj]

/-- Both end CLOSE_WAIT or neither does. -/
theorem Linked.finishCloseWait (h : Linked d e s t) :
    Linked d e s.finishCloseWait t.finishCloseWait := by
  by_cases hdrained : s.Drained
  · rw [finishCloseWait_of_drained s hdrained,
      finishCloseWait_of_drained t (h.drained_iff.mpr hdrained)]
    exact
      { h with
        state := rfl
        timers := (shiftedTimers_stopAll _ _).start h.sendNext
          (h.controlClosure h.sendNext fun _ => h.recvNext)
        sendNext := by
          dsimp only
          rw [h.sendNext]
          grind
        sent := h.log (h.datagram h.sendNext (fun _ => h.recvNext) (by simp)) }
  · rw [finishCloseWait_of_not s hdrained,
      finishCloseWait_of_not t (mt h.drained_iff.mp hdrained)]
    exact h

/-- Both give up opening. -/
theorem Opened.abortOpening (h : Opened d e s t) :
    Shifted d e s.abortOpening t.abortOpening := by
  have hrst : flagRst &&& flagAck ≠ 0 → t.recvWindow.recvNext = s.recvWindow.recvNext + e :=
    fun h => absurd rfl h
  have hopened : Opened d e s.abortOpening t.abortOpening := by
    rw [abortOpening_eq, abortOpening_eq]
    exact
      { h with
        state := rfl
        timers := shiftedTimers_stopAll _ _
        sent := h.log (h.datagram h.sendNext hrst (by simp)) }
  refine { hopened with opened := fun _ => hopened, synced := Or.inr ⟨Or.inl ?_, ?_⟩ }
  · rw [abortOpening_eq]
  · intro k u hu
    rw [abortOpening_eq, TimerManager.activeAt_stopAllTimers] at hu
    contradiction

/-- Both are reset. -/
theorem Shifted.handleReset (h : Shifted d e s t) :
    Shifted d e s.handleReset t.handleReset := by
  have halike : Alike d e s.handleReset t.handleReset :=
    { h with
      state := rfl
      timers := shiftedTimers_stopAll _ _
      calls := by
        change t.calls ++ [.closed] = s.calls ++ [.closed]
        rw [h.calls] }
  refine
    { halike with
      opened := fun hsent => { halike with
        sendUnack := (h.opened hsent).sendUnack
        sendNext := (h.opened hsent).sendNext }
      synced := Or.inr ⟨Or.inl rfl, ?_⟩ }
  intro k u hu
  rw [TcpSession.handleReset, TcpSession.notify, TcpSession.transitionTo,
    TimerManager.activeAt_stopAllTimers] at hu
  contradiction

/-! ## Acknowledgments -/

/-- The number acknowledges some of what is in flight. -/
def Covers (s : TcpSession) (ackNum : UInt32) : Prop :=
  ackNum ≠ s.sendWindow.sendUnack ∧ ackNum - s.sendWindow.sendUnack ≤ s.inflight

/-- What is in flight runs past the end of the sequence space. -/
def Wraps (s : TcpSession) : Prop := s.sendWindow.sendNext < s.sendWindow.sendUnack

/-- {lit}`_handle_ack` accepts what acknowledges numbers in flight that do not wrap. -/
theorem acceptsAck_iff_covers {ackNum : UInt32} :
    s.acceptsAck ackNum = true ↔ s.Covers ackNum ∧ ¬ s.Wraps := by
  rw [acceptsAck_iff, Wraps, not_lt]
  constructor
  · rintro ⟨hlow, hhigh⟩
    have hle := hlow.le.trans hhigh
    rcases (lt_and_le_iff_sub hle).mp ⟨hlow, hhigh⟩ with ⟨-, hdistance⟩
    refine ⟨⟨hlow.ne', ?_⟩, hle⟩
    rwa [UInt32.le_iff_toNat_le]
  · rintro ⟨⟨hne, hdistance⟩, hle⟩
    rw [UInt32.le_iff_toNat_le] at hdistance
    refine (lt_and_le_iff_sub hle).mpr ⟨?_, hdistance⟩
    rw [Nat.pos_iff_ne_zero, Ne, ← UInt32.toNat_zero, UInt32.toNat_inj]
    grind

/-- Both have a number in flight or neither has. -/
theorem Opened.covers_iff (h : Opened d e s t) {a b : UInt32} (hab : b = a + d) :
    t.Covers b ↔ s.Covers a := by
  have hdistance : b - t.sendWindow.sendUnack = a - s.sendWindow.sendUnack := by
    rw [hab, h.sendUnack]
    grind
  rw [Covers, Covers, hdistance, h.inflight, hab, h.sendUnack, Ne, UInt32.add_left_inj]

/-- The timers that two accepted acknowledgments drop. -/
theorem Opened.dropped_iff (h : Opened d e s t) (hs : FlightTimers s) (ht : FlightTimers t)
    (hstate : s.state = .established) {a b : UInt32} (hab : b = a + d)
    (haccepts : s.acceptsAck a = true) (haccepts' : t.acceptsAck b = true) {k : UInt32}
    {u v : UvTimer RetransmitClosure} (hu : s.timerManager.activeAt k = some u)
    (hv : t.timerManager.activeAt (k + d) = some v) : k < a - 1 ↔ k + d < b - 1 := by
  rw [hs.dropped_iff hstate haccepts hu, ht.dropped_iff (h.state.trans hstate) haccepts' hv,
    h.sendUnack, hab]
  have hlast : k + d + 1 = s.sendWindow.sendUnack + d ↔ k + 1 = s.sendWindow.sendUnack := by
    constructor <;> intro heq <;> grind
  have hkey : k + d - (s.sendWindow.sendUnack + d) = k - s.sendWindow.sendUnack := by grind
  have hbound : a + d - 1 - (s.sendWindow.sendUnack + d) = a - 1 - s.sendWindow.sendUnack := by
    grind
  rw [hlast, hkey, hbound]

/-- Both take an acknowledgment of data. -/
theorem Linked.processAck (h : Linked d e s t) (hs : FlightTimers s) (ht : FlightTimers t)
    (hstate : s.state = .established) {a b : UInt32} (hab : b = a + d)
    (haccepts : s.acceptsAck a = true) (haccepts' : t.acceptsAck b = true)
    (hthird : ¬ s.ThirdDuplicate a) (hthird' : ¬ t.ThirdDuplicate b) :
    Linked d e (s.processAck a) (t.processAck b) := by
  rw [processAck_of_not s hthird, processAck_of_not t hthird']
  exact
    { h with
      timers := h.timers.dropUpTo fun k u v =>
        h.dropped_iff hs ht hstate hab haccepts haccepts'
      sendBuffer := by
        dsimp only
        have hdistance : b - t.sendWindow.sendUnack = a - s.sendWindow.sendUnack := by
          rw [hab, h.sendUnack]
          grind
        rw [h.sendBuffer, hdistance]
      sendUnack := hab
      sendNext := h.sendNext
      sendWindowSize := by
        dsimp only
        rw [h.sendWindowSize, h.ssthresh] }

end Relations

end TcpSession

end MyuTcp
