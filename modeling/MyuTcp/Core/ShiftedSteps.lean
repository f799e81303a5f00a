import MyuTcp.Core.Receiving
import MyuTcp.Core.ShiftedSessions

/-!
# Steps of sessions that differ in their numbers

One event of two sessions that differ in their numbers, with the numbers of the event shifted as
well.  The sessions differ in their numbers afterwards too, unless one of them is past the end of
the sequence space with what it has in flight and the other is not, and an acknowledgment of some
of it arrives.

Main results:

- Theorem {lit}`shifted_step`: one step of two such sessions.
- Theorem {lit}`Shifted.crossesWrap_iff`: the exception shows in every such step.
-/

namespace MyuTcp

open Library

namespace TcpSession

/-- The events differ in their numbers only. -/
inductive ShiftedEvent (d e : UInt32) : Event → Event → Prop
  | setRemoteAddr (ip : String) (port : UInt16) :
      ShiftedEvent d e (.setRemoteAddr ip port) (.setRemoteAddr ip port)
  | setListenerPort (port : UInt16) :
      ShiftedEvent d e (.setListenerPort port) (.setListenerPort port)
  | connect {i j : UInt32} (hij : j = i + d) : ShiftedEvent d e (.connect i) (.connect j)
  | listen : ShiftedEvent d e .listen .listen
  | send (data : List UInt8) : ShiftedEvent d e (.send data) (.send data)
  | recv (bufSize : Nat) : ShiftedEvent d e (.recv bufSize) (.recv bufSize)
  | readAll : ShiftedEvent d e .readAll .readAll
  | close : ShiftedEvent d e .close .close
  | input {p q : MyuTcpPacket} {i j : UInt32} (hp : ShiftedPacket e d p q) (hij : j = i + d) :
      ShiftedEvent d e (.input p i) (.input q j)
  | expire {k l : UInt32} (hkl : l = k + d) : ShiftedEvent d e (.expire k) (.expire l)
  | expire2Msl : ShiftedEvent d e .expire2Msl .expire2Msl

section Steps

variable {d e : UInt32} {s t : TcpSession} {p q : MyuTcpPacket}

/-! ## Frames -/

/-- What leaves the numbers, the packets and the timers as they are. -/
theorem Shifted.of_alike {s' t' : TcpSession} (h : Shifted d e s t) (halike : Alike d e s' t')
    (hs : s'.sendWindow = s.sendWindow ∧ s'.recvWindow = s.recvWindow ∧ s'.sent = s.sent)
    (ht : t'.sendWindow = t.sendWindow ∧ t'.recvWindow = t.recvWindow)
    (hstate : s'.state = s.state ∨ s'.state = .closed ∨ s'.state = .listen)
    (htimers : ∀ k u, s'.timerManager.activeAt k = some u →
      s.timerManager.activeAt k = some u) : Shifted d e s' t' := by
  refine { halike with opened := ?_, synced := ?_ }
  · intro hsent
    rw [hs.2.2] at hsent
    have hopened := h.opened hsent
    exact
      { halike with
        sendUnack := by rw [ht.1, hs.1, hopened.sendUnack]
        sendNext := by rw [ht.1, hs.1, hopened.sendNext] }
  · rcases h.synced with hsynced | ⟨hopening, hflag⟩
    · left
      rw [ht.2, hs.2.1, hsynced]
    · right
      refine ⟨?_, fun k u hu => hflag k u (htimers k u hu)⟩
      rcases hstate with hsame | hclosed | hlisten
      · rwa [hsame]
      · exact Or.inl hclosed
      · exact Or.inr (Or.inl hlisten)

/-- Both take over the window that a packet advertises. -/
theorem Shifted.observe (h : Shifted d e s t) (hp : ShiftedPacket e d p q) :
    Shifted d e (s.observe p) (t.observe q) := by
  have halike : Alike d e (s.observe p) (t.observe q) :=
    { h with peerUsableWindowSize := congrArg UInt16.toUInt32 hp.window }
  exact h.of_alike halike ⟨rfl, rfl, rfl⟩ ⟨rfl, rfl⟩ (Or.inl rfl) fun _ _ hu => hu

/-! ## Packets in ESTABLISHED -/

/-- Both process an acknowledgment, where the range test agrees. -/
theorem Linked.handleAck (h : Linked d e s t) (hs : FlightTimers s) (ht : FlightTimers t)
    (hstate : s.state = .established) (hp : ShiftedPacket e d p q) (hflag : p.has flagAck = true)
    (hthird : ¬ s.ThirdDuplicate p.ack) (hthird' : ¬ t.ThirdDuplicate q.ack)
    (hwraps : s.Covers p.ack → (s.Wraps ↔ t.Wraps)) :
    Linked d e (s.handleAck p).2 (t.handleAck q).2 := by
  have hack := hp.ack hflag
  have hcovers := h.covers_iff hack
  have haccepts : t.acceptsAck q.ack = true ↔ s.acceptsAck p.ack = true := by
    rw [acceptsAck_iff_covers, acceptsAck_iff_covers, hcovers]
    exact and_congr_right fun hcover => not_congr (hwraps hcover).symm
  by_cases haccept : s.acceptsAck p.ack = true
  · rw [TcpSession.handleAck, if_pos haccept, TcpSession.handleAck, if_pos (haccepts.mpr haccept)]
    exact (h.processAck hs ht hstate hack haccept (haccepts.mpr haccept) hthird
      hthird').handleTrySend
  · rw [TcpSession.handleAck, if_neg haccept, TcpSession.handleAck,
      if_neg (mt haccepts.mp haccept)]
    exact h

/-- Both append a payload. -/
theorem Linked.acceptPayload (h : Linked d e s t) (payload : List UInt8) :
    Linked d e (s.acceptPayload payload) (t.acceptPayload payload) := by
  rw [TcpSession.acceptPayload, TcpSession.acceptPayload, h.recvBuffer]
  split
  · exact
      { h with
        recvBuffer := rfl
        recvNext := by
          dsimp only
          rw [h.recvNext]
          grind }
  · exact h

/-- A session that stores nothing takes what is in order and repeats its acknowledgment. -/
theorem NothingStored.handleIncomingPacket_eq (h : NothingStored s) :
    s.handleIncomingPacket p =
      if p.seq = s.recvWindow.recvNext then
        some (true, (s.acceptPayload p.payload).sendPureAck
          (s.acceptPayload p.payload).recvWindow.recvNext)
      else some (false, s.sendPureAck s.recvWindow.recvNext) := by
  unfold handleIncomingPacket
  split
  · rcases s.acceptPayload_eq p.payload with ⟨buffer, haccept, -⟩
    rw [haccept]
    dsimp only
    rw [h.oooMap]
    rfl
  · rw [s.storeOutOfOrder_eq h.window]

/-- Both take a payload in order and refuse any other. -/
theorem Linked.handleEstablishedPayload (h : Linked d e s t) (hs : NothingStored s)
    (ht : NothingStored t) (hp : ShiftedPacket e d p q) :
    Option.Rel (Linked d e) (s.handleEstablishedPayload p) (t.handleEstablishedPayload q) := by
  rw [TcpSession.handleEstablishedPayload, TcpSession.handleEstablishedPayload,
    hs.handleIncomingPacket_eq, ht.handleIncomingPacket_eq, hp.payload, hp.seq, h.recvNext]
  simp only [UInt32.add_left_inj]
  split
  · split
    · have haccept := h.acceptPayload p.payload
      have hsent := haccept.sendPureAck haccept.recvNext
      refine .some ?_
      dsimp only [if_true]
      rw [hsent.recvBuffer]
      exact hsent.notify _
    · exact .some (h.sendPureAck rfl)
  · exact .some h

/-- Both take the FIN of the peer in ESTABLISHED. -/
theorem Linked.handleEstablishedFin (h : Linked d e s t) (hp : ShiftedPacket e d p q) :
    Linked d e (handleEstablishedFin p s) (handleEstablishedFin q t) := by
  rw [TcpSession.handleEstablishedFin, TcpSession.handleEstablishedFin, hp.has]
  split
  · exact ((h.acceptFin hp).transitionTo .closeWait).notify (.data 0)
  · exact h

/-! ## The other states -/

/-- Both wait for this acknowledgment or neither does. -/
theorem Opened.expected_iff (h : Opened d e s t) {a b : UInt32} (hab : b = a + d) :
    b = t.sendWindow.sendUnack + 1 ↔ a = s.sendWindow.sendUnack + 1 := by
  rw [hab, h.sendUnack]
  constructor <;> intro heq <;> grind

/-- Both listen and get the same SYN. -/
theorem Shifted.handleListen (h : Shifted d e s t) (hp : ShiftedPacket e d p q) {x y : UInt32}
    (hxy : y = x + d) : Shifted d e (s.handleListen p x) (t.handleListen q y) := by
  by_cases hsyn : p.has flagSyn = true
  · exact (h.toAlike.handleListen hp hsyn hxy).shifted
  · rw [TcpSession.handleListen, TcpSession.handleListen, hp.has, if_pos (by simpa using hsyn),
      if_pos (by simpa using hsyn)]
    exact h

/-- Both are in SYN_SENT and get the same packet. -/
theorem Shifted.handleSynSent (h : Shifted d e s t) (hopened : Opened d e s t)
    (hp : ShiftedPacket e d p q) : Shifted d e (s.handleSynSent p) (t.handleSynSent q) := by
  rw [TcpSession.handleSynSent, TcpSession.handleSynSent, hp.has, hp.has]
  split <;> rename_i hflags
  · rw [Bool.and_eq_true] at hflags
    have hexpected := hopened.expected_iff (hp.ack hflags.2)
    by_cases hnext : p.ack = s.sendWindow.sendUnack + 1
    · rw [if_neg (not_not.mpr hnext), if_neg (not_not.mpr (hexpected.mpr hnext))]
      exact (hopened.acceptSynAck hp hflags.2).handleTrySend.shifted
    · rw [if_pos hnext, if_pos (mt hexpected.mp hnext)]
      exact h
  · split
    · exact (hopened.acceptPeerSyn hp).shifted
    · exact h

/-- Both are in SYN_RECEIVED and get the same packet. -/
theorem Linked.handleSynReceived (h : Linked d e s t) (hp : ShiftedPacket e d p q) :
    Linked d e (s.handleSynReceived p) (t.handleSynReceived q) := by
  rw [TcpSession.handleSynReceived, TcpSession.handleSynReceived, hp.has]
  split <;> rename_i hflag
  · exact h
  · replace hflag : p.has flagAck = true := by simpa using hflag
    have hexpected := h.expected_iff (hp.ack hflag)
    by_cases hnext : p.ack = s.sendWindow.sendUnack + 1
    · rw [if_neg (not_not.mpr hnext), if_neg (not_not.mpr (hexpected.mpr hnext))]
      exact (((h.advanceUnack hp hflag).transitionTo .established).notify
        .established).handleTrySend
    · rw [if_pos hnext, if_pos (mt hexpected.mp hnext)]
      exact h

/-- The acknowledgment that both may wait for in FIN_WAIT_1. -/
theorem Linked.handleFinWait1Ack (h : Linked d e s t) (hp : ShiftedPacket e d p q) :
    Linked d e (s.handleFinWait1Ack p) (t.handleFinWait1Ack q) := by
  rw [TcpSession.handleFinWait1Ack, TcpSession.handleFinWait1Ack, hp.has]
  by_cases hflag : p.has flagAck = true
  · have hexpected := h.expected_iff (hp.ack hflag)
    rw [hflag, Bool.true_and, Bool.true_and]
    by_cases hnext : p.ack = s.sendWindow.sendUnack + 1
    · rw [if_pos (by simpa using hnext), if_pos (by simpa using hexpected.mpr hnext)]
      exact (h.transitionTo .finWait2).advanceUnack hp hflag
    · rw [if_neg (by simpa using hnext), if_neg (by simpa using mt hexpected.mp hnext)]
      exact h
  · rw [if_neg (by simp [hflag]), if_neg (by simp [hflag])]
    exact h

/-- Both are in FIN_WAIT_1 and get the same packet. -/
theorem Linked.handleFinWait1 (h : Linked d e s t) (hp : ShiftedPacket e d p q) :
    Linked d e (s.handleFinWait1 p) (t.handleFinWait1 q) := by
  have hacked := h.handleFinWait1Ack hp
  rw [TcpSession.handleFinWait1, TcpSession.handleFinWait1, hp.has]
  split
  · exact (hacked.acceptFin hp).transitionTo .closeWait
  · exact hacked

/-- Both start the 2MSL timer. -/
theorem Linked.start2MslTimer (h : Linked d e s t) :
    Linked d e s.start2MslTimer t.start2MslTimer :=
  { h with
    timers :=
      { twoMsl := rfl
        active := h.timers.active } }

/-- Both are in FIN_WAIT_2 and get the same packet. -/
theorem Linked.handleFinWait2 (h : Linked d e s t) (hp : ShiftedPacket e d p q) :
    Linked d e (s.handleFinWait2 p) (t.handleFinWait2 q) := by
  rw [TcpSession.handleFinWait2, TcpSession.handleFinWait2, hp.has]
  split
  · exact ((h.acceptFin hp).transitionTo .timeWait).start2MslTimer
  · exact h

/-- Both are in TIME_WAIT and get the same packet. -/
theorem Linked.handleTimedWait (h : Linked d e s t) (hp : ShiftedPacket e d p q) :
    Linked d e (s.handleTimedWait p) (t.handleTimedWait q) := by
  rw [TcpSession.handleTimedWait, TcpSession.handleTimedWait, hp.has]
  split
  · exact h.acceptFin hp
  · exact h

/-- Both are in LAST_ACK and get the same packet. -/
theorem Linked.handleLastAck (h : Linked d e s t) (hp : ShiftedPacket e d p q) :
    Linked d e (s.handleLastAck p) (t.handleLastAck q) := by
  rw [TcpSession.handleLastAck, TcpSession.handleLastAck, hp.has]
  split <;> rename_i hflag
  · exact h
  · replace hflag : p.has flagAck = true := by simpa using hflag
    have hexpected := h.expected_iff (hp.ack hflag)
    by_cases hnext : p.ack = s.sendWindow.sendUnack + 1
    · rw [if_neg (not_not.mpr hnext), if_neg (not_not.mpr (hexpected.mpr hnext))]
      exact ((h.advanceUnack hp hflag).transitionTo .closed).notify .closed
    · rw [if_pos hnext, if_pos (mt hexpected.mp hnext)]
      exact h

/-- Both are in CLOSE_WAIT, where the packet itself does not matter. -/
theorem Linked.handleCloseWait (h : Linked d e s t) :
    Linked d e (s.handleCloseWait p) (t.handleCloseWait q) :=
  (h.sendPureAck h.recvNext).handleTrySend.finishCloseWait

/-! ## Packets -/

/-- The packet acknowledges some of what is in flight, which wraps. -/
def CrossesWrap (s : TcpSession) : Event → Prop
  | .input packet _ => Admitted packet ∧ s.state = .established ∧ packet.has flagAck = true ∧
      s.Covers packet.ack ∧ s.Wraps
  | _ => False

instance (s : TcpSession) : (ev : Event) → Decidable (s.CrossesWrap ev)
  | .input packet _ => inferInstanceAs (Decidable (Admitted packet ∧ s.state = .established ∧
      packet.has flagAck = true ∧ (packet.ack ≠ s.sendWindow.sendUnack ∧
        packet.ack - s.sendWindow.sendUnack ≤ s.inflight) ∧
        s.sendWindow.sendNext < s.sendWindow.sendUnack))
  | .setRemoteAddr .. | .setListenerPort .. | .connect .. | .listen | .send .. | .recv ..
  | .readAll | .close | .expire .. | .expire2Msl => isFalse id

/-- What the session keeps by itself. -/
structure Steady (s : TcpSession) : Prop where
  once : Once s
  keyed : s.Keyed
  flight : FlightTimers s
  stored : NothingStored s

/-- One connection without stored segments stays so. -/
theorem steady_step {s' : TcpSession} {ev : Event} (hs : Steady s) (hok : s.OneConnection ev)
    (hstep : step s ev = some s') : Steady s' where
  once := once_step hs.once hok hstep
  keyed := keyed_step hs.keyed hstep
  flight := flightTimers_step hs.once hs.keyed hok hs.flight hstep
  stored := nothingStored_step hs.stored hstep

/-- The window that a packet advertises leaves linked sessions linked. -/
theorem Linked.observe (h : Linked d e s t) (hp : ShiftedPacket e d p q) :
    Linked d e (s.observe p) (t.observe q) :=
  { h with peerUsableWindowSize := congrArg UInt16.toUInt32 hp.window }

/-- An acknowledgment and the data sent after it, in ESTABLISHED. -/
theorem Linked.handleEstablishedAck (h : Linked d e s t) (hs : Steady s) (ht : Steady t)
    (hstate : s.state = .established) (hp : ShiftedPacket e d p q)
    (hwraps : p.has flagAck = true → s.Covers p.ack → (s.Wraps ↔ t.Wraps)) :
    Linked d e ((s.observe p).handleEstablishedAck p) ((t.observe q).handleEstablishedAck q) := by
  have hobserved := h.observe hp
  have hflight : FlightTimers (s.observe p) := hs.flight.of_eq rfl rfl rfl
  have hflight' : FlightTimers (t.observe q) := ht.flight.of_eq rfl rfl rfl
  unfold TcpSession.handleEstablishedAck
  rw [hp.has]
  split <;> rename_i hflag
  · exact (hobserved.handleAck hflight hflight' hstate hp hflag (hs.once.not_thirdDuplicate p).2
      (ht.once.not_thirdDuplicate q).2 (hwraps hflag)).handleTrySend
  · exact hobserved

/-- A whole packet in ESTABLISHED. -/
theorem Linked.inputEstablished (h : Linked d e s t) (hs : Steady s) (ht : Steady t)
    (hstate : s.state = .established) (hp : ShiftedPacket e d p q) (hadmitted : Admitted p)
    {i j : UInt32} (hcross : s.CrossesWrap (.input p i) ↔ t.CrossesWrap (.input q j)) :
    Option.Rel (Linked d e) (s.input p i) (t.input q j) := by
  have hadmitted' := hp.admitted_iff.mpr hadmitted
  have hstate' := h.state.trans hstate
  have hwraps : p.has flagAck = true → s.Covers p.ack → (s.Wraps ↔ t.Wraps) := by
    intro hflag hcover
    have hcover' := (h.covers_iff (hp.ack hflag)).mpr hcover
    constructor
    · intro hwrap
      exact (hcross.mp ⟨hadmitted, hstate, hflag, hcover, hwrap⟩).2.2.2.2
    · intro hwrap
      exact (hcross.mpr ⟨hadmitted', hstate', by rwa [hp.has], hcover', hwrap⟩).2.2.2.2
  have hacked := h.handleEstablishedAck hs ht hstate hp hwraps
  have hpayload := hacked.handleEstablishedPayload
    ((keepsReceiving_ack s p).nothingStored hs.stored)
    ((keepsReceiving_ack t q).nothingStored ht.stored) hp
  rw [input_established hadmitted hstate, input_established hadmitted' hstate',
    optionRel_map_iff]
  exact optionRel_mono (fun a b hab => Linked.handleEstablishedFin hab hp) hpayload

/-- A packet of the peer, shifted as well, with shifted draws. -/
theorem Shifted.dispatch (h : Shifted d e s t) (hs : Steady s) (ht : Steady t)
    (hp : ShiftedPacket e d p q) (hadmitted : Admitted p) {i j : UInt32} (hij : j = i + d)
    (hcross : s.CrossesWrap (.input p i) ↔ t.CrossesWrap (.input q j)) :
    Option.Rel (Shifted d e) (s.input p i) (t.input q j) := by
  by_cases hestablished : s.state = .established
  · have hlinked := h.linked hs.once.opened (by simp [hestablished])
    exact optionRel_mono (fun _ _ hab => hab.shifted)
      (hlinked.inputEstablished hs ht hestablished hp hadmitted hcross)
  rw [input_of_admitted hadmitted, input_of_admitted (hp.admitted_iff.mpr hadmitted)]
  have hobserved := h.observe hp
  have hlinked : s.state ≠ .closed ∧ s.state ≠ .listen ∧ s.state ≠ .synSent →
      Linked d e (s.observe p) (t.observe q) := hobserved.linked hs.once.opened
  have hstate' : (t.observe q).state = (s.observe p).state := hobserved.state
  unfold TcpSession.dispatch
  rw [hstate']
  split <;> rename_i hstate <;> replace hstate : s.state = _ := hstate
  · refine .some (hobserved.of_alike { hobserved with
        state := rfl
        userWantToClose := rfl } ⟨rfl, rfl, rfl⟩ ⟨rfl, rfl⟩ (Or.inl rfl) fun _ _ hu => hu)
  · exact .some (hobserved.handleListen hp hij)
  · refine .some (hobserved.handleSynSent (hobserved.opened ?_) hp)
    exact hs.once.opened (by simp [hstate]) (by simp [hstate])
  · exact .some ((hlinked (by simp [hstate])).handleSynReceived hp).shifted
  · exact absurd hstate hestablished
  · exact .some ((hlinked (by simp [hstate])).handleFinWait1 hp).shifted
  · exact .some ((hlinked (by simp [hstate])).handleFinWait2 hp).shifted
  · exact .some (hlinked (by simp [hstate])).handleCloseWait.shifted
  · exact .some ((hlinked (by simp [hstate])).handleLastAck hp).shifted
  · exact .some ((hlinked (by simp [hstate])).handleTimedWait hp).shifted

/-- A packet in any state, by the state. -/
theorem Shifted.input (h : Shifted d e s t) (hs : Steady s) (ht : Steady t)
    (hp : ShiftedPacket e d p q) {i j : UInt32} (hij : j = i + d)
    (hcross : s.CrossesWrap (.input p i) ↔ t.CrossesWrap (.input q j)) :
    Option.Rel (Shifted d e) (s.input p i) (t.input q j) := by
  by_cases hadmitted : Admitted p
  · exact h.dispatch hs ht hp hadmitted hij hcross
  · have hlacks : lacksFlags q = lacksFlags p := by
      simp only [lacksFlags, hp.has]
    rw [TcpSession.input, TcpSession.input, hp.verified.1, hp.verified.2, hp.has, hlacks]
    split
    · exact .some h
    · split <;> rename_i hrst
      · exact .some h.handleReset
      · split <;> rename_i hignored
        · exact .some h
        · exact absurd ⟨hp.verified.1, by simpa using hrst, by simpa using hignored⟩ hadmitted

/-! ## Expiries -/

/-- Both re-send the packet of a timer. -/
theorem Opened.runClosure (h : Opened d e s t) {k : UInt32} {u v : UvTimer RetransmitClosure}
    (huv : ShiftedTimer d e u v) (hkey : u.callback.packet.seq = k)
    (hkey' : v.callback.packet.seq = k + d)
    (hsync : u.callback.packet.has flagAck = true →
      t.recvWindow.recvNext = s.recvWindow.recvNext + e) :
    Opened d e ({ s with timerManager := s.timerManager.stopTimer k }.runClosure u.callback)
      ({ t with timerManager := t.timerManager.stopTimer (k + d) }.runClosure v.callback) := by
  have hpacket := huv.packet.refresh h.toAlike hsync
  have hstopped := (h.timers.stop (rfl : k + d = k + d)).stop (rfl : k + d = k + d)
  by_cases hlimit : u.callback.retransmitCount + 1 ≥ maxRetransmitCount
  · have hlimit' : v.callback.retransmitCount + 1 ≥ maxRetransmitCount := by
      rwa [huv.retransmitCount]
    rw [runClosure_of_limit _ hlimit, runClosure_of_limit _ hlimit', hkey, hkey']
    exact { h with timers := hstopped }
  · have hlimit' : ¬ v.callback.retransmitCount + 1 ≥ maxRetransmitCount := by
      rwa [huv.retransmitCount]
    have htimeout : t.getTimeoutMs * (1 <<< (v.callback.retransmitCount + 1).toUInt64) =
        s.getTimeoutMs * (1 <<< (u.callback.retransmitCount + 1).toUInt64) := by
      rw [huv.retransmitCount, getTimeoutMs, getTimeoutMs, h.currentRto]
    rw [runClosure_of_lt _ hlimit, runClosure_of_lt _ hlimit', hkey, hkey']
    exact
      { h with
        ssthresh := congrArg timeoutSsthresh h.sendWindowSize
        sendWindowSize := rfl
        timers := hstopped.start rfl
          { huv with
            packet := hpacket
            timeoutMs := htimeout
            retransmitCount := congrArg (· + 1) huv.retransmitCount }
        sent := h.log ⟨hpacket, huv.capturedIp, huv.capturedPort⟩ }

/-- An expiry sends no acknowledgment that was not in its packet. -/
theorem Unanswered.expire {s' : TcpSession} {k : UInt32} (h : Unanswered s) (hkeyed : s.Keyed)
    (hstep : s.expire k = some s') : Unanswered s' := by
  rcases expire_eq_some_iff.mp hstep with ⟨u, hu, -⟩
  refine ⟨?_, fun j w hw => ?_⟩
  · rw [(expire_frame hstep).1]
    exact h.1
  · rcases activeAt_expire hu (hkeyed k u hu) hstep hw with ⟨-, hold⟩ | ⟨-, -, hpacket, -⟩
    · exact h.2 j w hold
    · rw [hpacket, refreshPacket_has]
      exact h.2 k u hu

/-- A packet of a timer acknowledges something only after a SYN of the peer. -/
theorem Shifted.recvNext (h : Shifted d e s t) {k : UInt32} {u : UvTimer RetransmitClosure}
    (hu : s.timerManager.activeAt k = some u) (hflag : u.callback.packet.has flagAck = true) :
    t.recvWindow.recvNext = s.recvWindow.recvNext + e := by
  rcases h.synced with hsynced | hunanswered
  · exact hsynced
  · rw [hunanswered.2 k u hu] at hflag
    contradiction

/-- An active timer expires in both, or gives up. -/
theorem Shifted.expired (h : Shifted d e s t) (hs : Steady s) (ht : Steady t) {k : UInt32}
    {u v : UvTimer RetransmitClosure} (hu : s.timerManager.activeAt k = some u)
    (hv : t.timerManager.activeAt (k + d) = some v) (huv : ShiftedTimer d e u v) :
    Option.Rel (Shifted d e) (s.expire k) (t.expire (k + d)) := by
  have hsent : s.sent ≠ [] := by
    intro hnil
    rw [hs.once.unarmed hnil k] at hu
    contradiction
  have hopened := (h.opened hsent).runClosure huv (hs.keyed k u hu) (ht.keyed (k + d) v hv)
    (h.recvNext hu)
  have hstep := expire_eq_some_iff.mpr ⟨u, hu, rfl⟩
  have hstep' := expire_eq_some_iff.mpr ⟨v, hv, rfl⟩
  rw [hstep, hstep']
  refine .some { hopened with opened := fun _ => hopened, synced := ?_ }
  rw [(expire_frame hstep).2.2.2, (expire_frame hstep').2.2.2]
  rcases h.synced with hsynced | hunanswered
  · exact Or.inl hsynced
  · exact Or.inr (hunanswered.expire hs.keyed hstep)

/-- The expiry of any number, active or not. -/
theorem Shifted.expire (h : Shifted d e s t) (hs : Steady s) (ht : Steady t) {k l : UInt32}
    (hkl : l = k + d) : Option.Rel (Shifted d e) (s.expire k) (t.expire l) := by
  subst hkl
  rcases optionRel_iff.mp (h.timers.active k) with ⟨hu, hv⟩ | ⟨u, v, hu, hv, huv⟩
  · simp [TcpSession.expire, TimerManager.fire, hu, hv]
  · exact h.expired hs ht hu hv huv

/-- Both are closed by the 2MSL timer. -/
theorem Shifted.handle2MslTimeout (h : Shifted d e s t) :
    Shifted d e s.handle2MslTimeout t.handle2MslTimeout := by
  have halike : Alike d e s.handle2MslTimeout t.handle2MslTimeout :=
    { h with
      state := rfl
      timers :=
        { twoMsl := rfl
          active := h.timers.active }
      calls := congrArg (· ++ [CallbackCall.closed]) h.calls }
  exact h.of_alike halike ⟨rfl, rfl, rfl⟩ ⟨rfl, rfl⟩ (Or.inr (Or.inl rfl)) fun _ _ hu => hu

/-- The 2MSL timer of both is active or of neither. -/
theorem Shifted.expire2Msl (h : Shifted d e s t) :
    Option.Rel (Shifted d e) (step s .expire2Msl) (step t .expire2Msl) := by
  rw [step, step, h.timers.twoMsl]
  split
  · have hstopped : Shifted d e { s with timerManager := s.timerManager.stop2Msl }
        { t with timerManager := t.timerManager.stop2Msl } :=
      h.of_alike
        { h with
          timers :=
            { twoMsl := rfl
              active := h.timers.active } } ⟨rfl, rfl, rfl⟩ ⟨rfl, rfl⟩ (Or.inl rfl) fun _ _ hu => hu
    exact .some hstopped.handle2MslTimeout
  · exact .none

/-! ## Application calls -/

/-- Both get the address of the peer. -/
theorem Shifted.setRemoteAddr (h : Shifted d e s t) (ip : String) (port : UInt16) :
    Shifted d e (s.setRemoteAddr ip port) (t.setRemoteAddr ip port) :=
  h.of_alike { h with remoteIp := rfl, remotePort := rfl } ⟨rfl, rfl, rfl⟩ ⟨rfl, rfl⟩ (Or.inl rfl)
    fun _ _ hu => hu

/-- Both get their port. -/
theorem Shifted.setListenerPort (h : Shifted d e s t) (port : UInt16) :
    Shifted d e (s.setListenerPort port) (t.setListenerPort port) :=
  h.of_alike { h with listenerPort := rfl } ⟨rfl, rfl, rfl⟩ ⟨rfl, rfl⟩ (Or.inl rfl) fun _ _ hu => hu

/-- Both listen. -/
theorem Shifted.listen (h : Shifted d e s t) : Shifted d e s.listen t.listen := by
  rw [TcpSession.listen, TcpSession.listen, h.state]
  split
  · exact h
  · exact h.of_alike { h with state := rfl } ⟨rfl, rfl, rfl⟩ ⟨rfl, rfl⟩ (Or.inr (Or.inr rfl))
      fun _ _ hu => hu

/-- Both try to send in whatever state. -/
theorem Shifted.handleTrySend (h : Shifted d e s t)
    (hsent : s.state ≠ .closed → s.state ≠ .listen → s.sent ≠ []) :
    Shifted d e s.handleTrySend t.handleTrySend := by
  by_cases hopen : s.state = .established ∨ s.state = .closeWait
  · refine (h.linked hsent ?_).handleTrySend.shifted
    rcases hopen with hstate | hstate
    · simp [hstate]
    · simp [hstate]
  · have hopen' : ¬ (t.state = .established ∨ t.state = .closeWait) := by rwa [h.state]
    rw [s.handleTrySend_of_not fun htransmits => hopen htransmits.1,
      t.handleTrySend_of_not fun htransmits => hopen' htransmits.1]
    exact h

/-- {lit}`send()` of both. -/
theorem Shifted.send (h : Shifted d e s t) (hs : Once s) (data : List UInt8) :
    Shifted d e (s.send data).2 (t.send data).2 := by
  rw [TcpSession.send, TcpSession.send, h.sendBuffer]
  split
  · exact h
  · dsimp only
    split
    · exact h
    · refine Shifted.handleTrySend ?_ hs.opened
      exact h.of_alike { h with sendBuffer := rfl } ⟨rfl, rfl, rfl⟩ ⟨rfl, rfl⟩ (Or.inl rfl)
        fun _ _ hu => hu

/-- {lit}`close()` of both. -/
theorem Shifted.close (h : Shifted d e s t)
    (hsent : s.state ≠ .closed → s.state ≠ .listen → s.sent ≠ []) :
    Shifted d e s.close t.close := by
  rw [TcpSession.close, TcpSession.close, h.state]
  split <;> rename_i hstate
  · exact (h.linked hsent (by simp [hstate])).handleTrySend.closeEstablished.shifted
  · exact (h.linked hsent (by simp [hstate])).closeCloseWait.shifted
  · exact (h.opened (hsent (by simp [hstate]) (by simp [hstate]))).abortOpening
  · exact (h.opened (hsent (by simp [hstate]) (by simp [hstate]))).abortOpening
  all_goals exact h

/-- The end of the stream for both. -/
theorem Shifted.closeOnEof (h : Shifted d e s t)
    (hsent : s.state ≠ .closed → s.state ≠ .listen → s.sent ≠ []) :
    Shifted d e s.closeOnEof t.closeOnEof := by
  rw [TcpSession.closeOnEof, TcpSession.closeOnEof, h.recvBuffer, h.state, h.autoCloseOnEof]
  split
  · split
    · exact h.close hsent
    · exact h
  · exact h

/-- What a read leaves, and the automatic close after it. -/
theorem Shifted.read (h : Shifted d e s t) (hs : Once s) (buffer : RingQueue UInt8 1024) :
    Shifted d e { s with recvBuffer := buffer }.closeOnEof
      { t with recvBuffer := buffer }.closeOnEof := by
  have hread : Shifted d e { s with recvBuffer := buffer } { t with recvBuffer := buffer } :=
    h.of_alike { h with recvBuffer := rfl } ⟨rfl, rfl, rfl⟩ ⟨rfl, rfl⟩ (Or.inl rfl) fun _ _ hu => hu
  exact hread.closeOnEof hs.opened

/-- {lit}`recv()` of both. -/
theorem Shifted.recv (h : Shifted d e s t) (hs : Once s) (bufSize : Nat) :
    Shifted d e (s.recv bufSize).2 (t.recv bufSize).2 := by
  rw [TcpSession.recv, TcpSession.recv, h.recvBuffer]
  exact h.read hs _

/-- {lit}`read_all()` of both. -/
theorem Shifted.readAll (h : Shifted d e s t) (hs : Once s) :
    Shifted d e s.readAll.2 t.readAll.2 := by
  rw [TcpSession.readAll, TcpSession.readAll, h.recvBuffer]
  exact h.read hs _

/-! ## Steps -/

/-- A step of two sessions that differ in their numbers. -/
theorem shifted_step {ev ev' : Event} (h : Shifted d e s t) (hs : Steady s) (ht : Steady t)
    (hev : ShiftedEvent d e ev ev') (hok : s.OneConnection ev)
    (hcross : s.CrossesWrap ev ↔ t.CrossesWrap ev') :
    Option.Rel (Shifted d e) (step s ev) (step t ev') := by
  cases hev with
  | setRemoteAddr ip port => exact .some (h.setRemoteAddr ip port)
  | setListenerPort port => exact .some (h.setListenerPort port)
  | connect hij => exact .some (h.connect (hs.once.unarmed hok) hij)
  | listen => exact .some h.listen
  | send data => exact .some (h.send hs.once data)
  | recv bufSize => exact .some (h.recv hs.once bufSize)
  | readAll => exact .some (h.readAll hs.once)
  | close => exact .some (h.close hs.once.opened)
  | input hp hij => exact h.input hs ht hp hij hcross
  | expire hkl => exact h.expire hs ht hkl
  | expire2Msl => exact h.expire2Msl

/-- The last acknowledged number of an established session after an acknowledgment. -/
theorem sendUnack_established (hstored : NothingStored s) (hadmitted : Admitted p)
    (hstate : s.state = .established) (hflag : p.has flagAck = true) (i : UInt32) :
    ∃ s', s.input p i = some s' ∧ s'.sendWindow.sendUnack =
      if s.acceptsAck p.ack = true then p.ack else s.sendWindow.sendUnack := by
  have hack : ((s.observe p).handleEstablishedAck p).sendWindow.sendUnack =
      if s.acceptsAck p.ack = true then p.ack else s.sendWindow.sendUnack := by
    have hobserve : (s.observe p).acceptsAck p.ack = s.acceptsAck p.ack := rfl
    rw [handleEstablishedAck, if_pos hflag, TcpSession.handleAck, hobserve]
    split
    · simp
    · simp [TcpSession.observe, setPeerUsableWindowSize]
  have hkeeps := keepsReceiving_ack s p
  rw [input_established hadmitted hstate]
  generalize (s.observe p).handleEstablishedAck p = a at hack hkeeps
  rcases (hkeeps.nothingStored hstored).payload_frame p with ⟨buffer, n, l, c, hpayload⟩
  rcases handleEstablishedFin_frame p
    { a with recvBuffer := buffer, recvWindow.recvNext := n, sent := a.sent ++ l, calls := c } with
    ⟨st, n', l', c', hfin⟩
  rw [hpayload, Option.map_some, hfin]
  exact ⟨_, rfl, hack⟩

/-- Where only one of the sessions wraps, an acknowledgment makes a difference. -/
theorem Shifted.not_seenAlike_of_covers (h : Shifted d e s t) (hs : Steady s) (ht : Steady t)
    (hp : ShiftedPacket e d p q) (hadmitted : Admitted p) (hstate : s.state = .established)
    (hflag : p.has flagAck = true) (hcover : s.Covers p.ack) (hwraps : ¬ (s.Wraps ↔ t.Wraps))
    {i j : UInt32} : ¬ Option.Rel (SeenAlike d e) (s.input p i) (t.input q j) := by
  have hlinked := h.linked hs.once.opened (by simp [hstate])
  have hsent := hs.once.opened (by simp [hstate]) (by simp [hstate])
  have hcover' := (hlinked.covers_iff (hp.ack hflag)).mpr hcover
  have haccepts : s.acceptsAck p.ack = true ↔ ¬ s.Wraps := by
    rw [acceptsAck_iff_covers, and_iff_right hcover]
  have haccepts' : t.acceptsAck q.ack = true ↔ ¬ t.Wraps := by
    rw [acceptsAck_iff_covers, and_iff_right hcover']
  rcases sendUnack_established hs.stored hadmitted hstate hflag i with ⟨s', hs', hunack⟩
  rcases sendUnack_established ht.stored (hp.admitted_iff.mpr hadmitted) (h.state.trans hstate)
    (by rwa [hp.has]) j with ⟨t', ht', hunack'⟩
  rw [hs', ht', Option.rel_some_some]
  intro hseen
  have hlog : s'.sent ≠ [] := by
    intro hnil
    have hprefix : s.sent <+: s'.sent := sent_prefix_step (e := .input p i) hs'
    rw [hnil, List.prefix_nil] at hprefix
    exact hsent hprefix
  have hmoved := (hseen.opened hlog).sendUnack
  have hne : p.ack + d ≠ s.sendWindow.sendUnack + d := by
    rw [Ne, UInt32.add_left_inj]
    exact hcover.1
  by_cases hwrap : s.Wraps
  · have hwrap' : ¬ t.Wraps := fun hwrap' => hwraps ⟨fun _ => hwrap', fun _ => hwrap⟩
    rw [if_neg (mt haccepts.mp (not_not.mpr hwrap))] at hunack
    rw [if_pos (haccepts'.mpr hwrap')] at hunack'
    rw [hunack, hunack', hp.ack hflag] at hmoved
    exact hne hmoved
  · have hwrap' : t.Wraps := by
      by_contra hnot
      exact hwraps ⟨fun hyes => absurd hyes hwrap, fun hyes => absurd hyes hnot⟩
    rw [if_pos (haccepts.mpr hwrap)] at hunack
    rw [if_neg (mt haccepts'.mp (not_not.mpr hwrap'))] at hunack'
    rw [hunack, hunack', hlinked.sendUnack] at hmoved
    exact hne hmoved.symm

/-- Only where both sessions cross the wrap, or neither does, they stay alike. -/
theorem Shifted.crossesWrap_iff (h : Shifted d e s t) (hs : Steady s) (ht : Steady t)
    {ev ev' : Event} (hev : ShiftedEvent d e ev ev')
    (hseen : Option.Rel (SeenAlike d e) (step s ev) (step t ev')) :
    s.CrossesWrap ev ↔ t.CrossesWrap ev' := by
  cases hev with
  | @input p q i j hp hij =>
      have hwraps : Admitted p → s.state = .established → p.has flagAck = true →
          s.Covers p.ack → (s.Wraps ↔ t.Wraps) := by
        intro hadmitted hstate hflag hcover
        by_contra hnot
        exact h.not_seenAlike_of_covers hs ht hp hadmitted hstate hflag hcover hnot hseen
      constructor
      · rintro ⟨hadmitted, hstate, hflag, hcover, hwrap⟩
        have hlinked := h.linked hs.once.opened (by simp [hstate])
        refine ⟨hp.admitted_iff.mpr hadmitted, h.state.trans hstate, by rwa [hp.has], ?_, ?_⟩
        · exact (hlinked.covers_iff (hp.ack hflag)).mpr hcover
        · exact (hwraps hadmitted hstate hflag hcover).mp hwrap
      · rintro ⟨hadmitted', hstate', hflag', hcover', hwrap'⟩
        have hadmitted := hp.admitted_iff.mp hadmitted'
        have hstate : s.state = .established := by rw [← h.state, hstate']
        have hflag : p.has flagAck = true := by rw [← hp.has, hflag']
        have hlinked := h.linked hs.once.opened (by simp [hstate])
        have hcover := (hlinked.covers_iff (hp.ack hflag)).mp hcover'
        exact ⟨hadmitted, hstate, hflag, hcover, (hwraps hadmitted hstate hflag hcover).mpr hwrap'⟩
  | _ => exact Iff.rfl

end Steps

end TcpSession

end MyuTcp
