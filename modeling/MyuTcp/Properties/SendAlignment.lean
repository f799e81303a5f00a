import MyuTcp.Core.Connection
import MyuTcp.Core.IdleSession
import MyuTcp.Core.Sender
import MyuTcp.Library.Lookups

/-!
# The send buffer and the sequence numbers

In the first connection of a session, opened by the three-way handshake, the send buffer holds
the bytes from {lit}`send_unack_` on.  What a packet carries at a number in flight is the byte
that the buffer holds there, as long as no number has been used twice.

Main results:

- Theorem {lit}`firstSender_step`: the invariant of a sender along the steps of a session that
  opens its first connection in either way.
- Theorem {lit}`sendBuffer_aligned`: the bytes in flight are buffered, and packets and timers
  carry the buffered bytes.
- Theorem {lit}`wrappedSegment_misaligned`: after 2^32 numbers a packet carries another byte.
-/

namespace MyuTcp

open Library

namespace TcpSession

/-- The events of a session that opens its first connection with the number {lit}`iss`; in
SYN_SENT a SYN brings the acknowledgment. -/
def FirstConnection (iss : UInt32) (s : TcpSession) : Event → Prop
  | .connect i => i = iss ∧ s.sent = []
  | .listen => s.state = .closed → s.sent = []
  | .input packet i =>
      Admitted packet → packet.has flagSyn = true →
        (s.state = .listen → i = iss) ∧ (s.state = .synSent → packet.has flagAck = true)
  | _ => True

instance (iss : UInt32) (s : TcpSession) : (e : Event) → Decidable (s.FirstConnection iss e)
  | .connect _ => inferInstanceAs (Decidable (_ ∧ _))
  | .listen => inferInstanceAs (Decidable (_ → _))
  | .input .. => inferInstanceAs (Decidable (_ → _ → _))
  | .setRemoteAddr .. | .setListenerPort .. | .send .. | .recv .. | .readAll | .close
  | .expire .. | .expire2Msl => isTrue trivial

/-! ## Senders of either side -/

/-- The invariant of a sender, whatever the flags of its SYN. -/
def FirstSender (iss : UInt32) (accepted : List UInt8) (wire : List (Option UInt8))
    (s : TcpSession) : Prop :=
  ∃ flags, Sender flags iss accepted wire s

section FirstSender

variable {flags flags' : UInt8} {iss : UInt32} {accepted : List UInt8}
  {wire : List (Option UInt8)} {a b : TcpSession} {e : Event} {packet : MyuTcpPacket}

/-- Before the SYN its flags are open. -/
theorem Sender.withFlags (h : Sender flags iss accepted [] a) (flags' : UInt8) :
    Sender flags' iss accepted [] a where
  numbering := h.numbering
  packets := by
    refine h.packets.mono fun p hp => ⟨hp.control, ?_, ?_⟩
    · intro hsyn
      have hcarried : p.carried = [none] := by rw [MyuTcpPacket.carried, hsyn]; rfl
      rcases hp.placed (by simp [hcarried]) with ⟨o, -, hprefix, -⟩
      rw [List.drop_nil, hcarried] at hprefix
      exact absurd hprefix.length_le (by simp)
    · exact hp.placed
  single := h.single

/-- A reset keeps the sender. -/
theorem Sender.reset (h : Sender flags iss accepted wire a) :
    Sender flags iss accepted wire a.handleReset := by
  have hgrows : Grows a a.handleReset := by
    refine grows_of_subset List.prefix_rfl ?_
    intro k t ht
    change a.timerManager.stopAllTimers.activeAt k = some t at ht
    rw [TimerManager.activeAt_stopAllTimers] at ht
    contradiction
  have hnew := h.silent hgrows rfl (h.single.leave .closed List.prefix_rfl rfl rfl (by decide))
    (h.numbering.closed List.prefix_rfl rfl rfl)
  rwa [newWire_of_eq (show a.handleReset.sent = a.sent from rfl), List.append_nil] at hnew

/-- A session that has sent nothing may listen. -/
theorem Sender.listening (h : Sender flags iss accepted wire a) (hsent : a.sent = []) :
    Sender flags iss accepted wire (a.transitionTo .listen) where
  numbering :=
    { stream := h.numbering.stream
      buffer := h.numbering.buffer
      unused := fun _ => h.numbering.unused (Or.inl hsent)
      fresh := h.numbering.fresh
      next := fun hnumbered => absurd rfl hnumbered.2.1
      opening := by simp [transitionTo]
      window := by simp [transitionTo]
      unfinished := by simp [transitionTo]
      finished := by simp [transitionTo] }
  packets := h.packets.of_eq rfl rfl
  single := by
    rcases h.single with hzero | ⟨-, hne, -⟩
    · exact Or.inl hzero
    · exact absurd hsent hne

/-- Only a SYN in LISTEN draws a number. -/
theorem input_iss_eq (hdraw : Admitted packet → packet.has flagSyn = true → a.state ≠ .listen)
    (i j : UInt32) : a.input packet i = a.input packet j := by
  by_cases hadmitted : Admitted packet
  · rw [input_of_admitted hadmitted, input_of_admitted hadmitted, dispatch, dispatch]
    by_cases hlisten : a.state = .listen
    · have hsyn : packet.has flagSyn = false := by
        by_contra hsyn
        exact hdraw hadmitted (by simpa using hsyn) hlisten
      simp only [show (a.observe packet).state = .listen from hlisten, handleListen, hsyn,
        Bool.not_false, if_true]
    · cases hstate : (a.observe packet).state <;> first | rfl | exact absurd hstate hlisten
  · rw [input, input]
    unfold Admitted at hadmitted
    split
    · rfl
    · split
      · rfl
      · split
        · rfl
        · rename_i hverify hrst hlacks
          exact absurd ⟨by simpa using hverify, by simpa using hrst, by simpa using hlacks⟩
            hadmitted

/-- A packet that opens nothing keeps the invariant of a sender. -/
theorem Sender.input_step {i : UInt32} (h : Sender flags iss accepted wire a) (hkeyed : a.Keyed)
    (hok : OpensAs flags iss a (.input packet i)) (hstep : step a (.input packet i) = some b) :
    Sender flags iss accepted (wire ++ newWire a b) b := by
  have hnew := sender_step h hkeyed hok hstep
  rwa [show a.acceptedBy (.input packet i) = [] from rfl, List.append_nil] at hnew

/-- A packet keeps the sender of a first connection. -/
theorem FirstSender.input {i : UInt32} (h : FirstSender iss accepted wire a) (hkeyed : a.Keyed)
    (hok : FirstConnection iss a (.input packet i)) (hstep : step a (.input packet i) = some b) :
    FirstSender iss accepted (wire ++ newWire a b) b := by
  rcases h with ⟨flags, h⟩
  by_cases hadmitted : Admitted packet
  · by_cases hlisten : a.state = .listen
    · cases h.numbering.unused (Or.inr hlisten)
      by_cases hsyn : packet.has flagSyn = true
      · refine ⟨flagSyn ||| flagAck,
          (h.withFlags _).input_step hkeyed ⟨fun _ => ⟨?_, rfl⟩, ?_⟩ hstep⟩
        · exact (hok hadmitted hsyn).1 hlisten
        · simp [hlisten]
      · have hdraw : a.input packet i = a.input packet iss :=
          input_iss_eq (fun _ hs => absurd hs hsyn) i iss
        have hsame : step a (.input packet iss) = some b := hdraw.symm.trans hstep
        exact ⟨flagSyn ||| flagAck, (h.withFlags _).input_step hkeyed
          ⟨fun _ => ⟨rfl, rfl⟩, by simp [hlisten]⟩ hsame⟩
    · refine ⟨flags, h.input_step hkeyed ⟨fun hstate => absurd hstate hlisten, ?_⟩ hstep⟩
      exact fun hstate hsyn => (hok hadmitted hsyn).2 hstate
  · rcases input_cases hstep with ⟨-, -, rfl⟩ | ⟨-, rfl⟩ | ⟨-, -, rfl⟩ | ⟨hadmitted', -⟩
    · rw [newWire_of_eq rfl, List.append_nil]
      exact ⟨flags, h⟩
    · rw [newWire_of_eq rfl, List.append_nil]
      exact ⟨flags, h⟩
    · rw [newWire_of_eq (show a.handleReset.sent = a.sent from rfl), List.append_nil]
      exact ⟨flags, h.reset⟩
    · exact absurd hadmitted' hadmitted

/-- A step of a session that opens its first connection keeps the invariant of a sender. -/
theorem firstSender_step (h : FirstSender iss accepted wire a) (hkeyed : a.Keyed)
    (hok : FirstConnection iss a e) (hstep : step a e = some b) :
    FirstSender iss (accepted ++ a.acceptedBy e) (wire ++ a.sentBy e b) b := by
  cases e with
  | input packet i =>
      rw [show a.acceptedBy (.input packet i) = [] from rfl, List.append_nil]
      exact h.input hkeyed hok hstep
  | connect i =>
      rcases h with ⟨flags, h⟩
      rcases hok with ⟨rfl, hsent⟩
      cases h.numbering.unused (Or.inl hsent)
      exact ⟨flagSyn, sender_step (h.withFlags _) hkeyed ⟨rfl, rfl, hsent⟩ hstep⟩
  | listen =>
      rcases h with ⟨flags, h⟩
      cases hstep
      have hsame : a.listen.sent = a.sent := by
        rw [TcpSession.listen]
        split <;> rfl
      rw [show a.acceptedBy .listen = [] from rfl, List.append_nil,
        show a.sentBy .listen a.listen = newWire a a.listen from rfl, newWire_of_eq hsame,
        List.append_nil, TcpSession.listen]
      refine ⟨flags, ?_⟩
      split <;> rename_i hstate
      · exact h
      · rw [not_not] at hstate
        exact h.listening (hok hstate)
  | _ =>
      rcases h with ⟨flags, h⟩
      exact ⟨flags, sender_step h hkeyed trivial hstep⟩

end FirstSender

/-! ## Alignment -/

/-- The bytes that {lit}`send()` has accepted, and what the sequence numbers carry that the
session has used. -/
structure SendTrack where
  accepted : List UInt8
  wire : List (Option UInt8)

namespace SendTrack

/-- Nothing has been accepted or sent. -/
def empty : SendTrack where
  accepted := []
  wire := []

/-- What a step accepts and sends. -/
def update (s : TcpSession) (e : Event) (s' : TcpSession) (g : SendTrack) : SendTrack where
  accepted := g.accepted ++ s.acceptedBy e
  wire := g.wire ++ s.sentBy e s'

end SendTrack

/-- At every number in flight the packet carries the byte that the send buffer holds there. -/
def AgreesWith (s : TcpSession) (packet : MyuTcpPacket) : Prop :=
  ∀ (i : Nat) (byte : UInt8), packet.payload[i]? = some byte →
    (packet.seq + UInt32.ofNat i - s.sendWindow.sendUnack).toNat < s.inflight.toNat →
    s.sendBuffer.toList[(packet.seq + UInt32.ofNat i - s.sendWindow.sendUnack).toNat]? = some byte

/-- What is in flight is buffered, and all packets sent and held by timers agree with it. -/
structure Aligned (s : TcpSession) : Prop where
  inflight_le : s.inflight.toNat ≤ s.sendBuffer.size
  size_le : s.sendBuffer.size ≤ 1024
  packets : AllPackets s.AgreesWith s

section Aligned

variable {flags : UInt8} {iss : UInt32} {accepted : List UInt8} {wire : List (Option UInt8)}
  {s : TcpSession} {packet : MyuTcpPacket}

/-- Without a FIN the wire carries a mark for the SYN and then a prefix of the accepted bytes. -/
theorem getElem?_wire (hopen : none ∉ wire.tail) (hstream : leading wire.tail <+: accepted)
    {o : Nat} {byte : UInt8} (hbyte : wire[o]? = some (some byte)) (hpos : 0 < o) :
    accepted[o - 1]? = some byte := by
  have htail : wire.tail[o - 1]? = some (some byte) := by
    rw [List.getElem?_tail, Nat.sub_add_cancel hpos]
    exact hbyte
  rw [← map_some_leading hopen, List.getElem?_map] at htail
  cases hlead : (leading wire.tail)[o - 1]? with
  | none =>
      rw [hlead] at htail
      contradiction
  | some b =>
      rw [hlead, Option.map_some, Option.some.injEq, Option.some.injEq] at htail
      rw [← htail]
      exact getElem?_of_prefix hstream hlead

/-- The position of a number in flight, if the numbers in use are all different. -/
theorem position_of_inflight {iss q : UInt32} {k f o : Nat} (hq : q = iss + UInt32.ofNat o)
    (hused : 1 + k + f ≤ 2 ^ 32) (ho : o < 1 + k + f)
    (hin : (q - (iss + UInt32.ofNat (1 + k))).toNat < f) :
    (q - (iss + UInt32.ofNat (1 + k))).toNat + (1 + k) = o := by
  have hiss := iss.toNat_lt
  rw [hq] at hin ⊢
  simp only [UInt32.toNat_sub, UInt32.toNat_add, UInt32.toNat_ofNat'] at hin ⊢
  omega

/-- What is on the wire agrees with the send buffer. -/
theorem OnWire.agreesWith (hpacket : OnWire flags iss wire packet)
    (h : Numbering iss accepted wire s) (hstate : s.state = .established)
    (hused : wire.length ≤ 2 ^ 32) : s.AgreesWith packet := by
  intro i byte hbyte hin
  have hopen := h.unfinished hstate
  rcases h.inflight (Or.inl hstate) hopen with ⟨k, hunack, hbuffer, hlen, -⟩
  have hpayload : packet.payload ≠ [] := by
    rintro hnil
    rw [hnil] at hbyte
    contradiction
  have hcarried : packet.carried = packet.payload.map some := by
    rw [MyuTcpPacket.carried, if_neg fun hcontrol => hpayload (hpacket.control hcontrol)]
  rcases hpacket.placed (by simpa [hcarried] using hpayload) with ⟨o, hseq, hprefix, hsyn⟩
  have hbyte' : wire[o + i]? = some (some byte) := by
    rw [hcarried] at hprefix
    rw [← List.getElem?_drop]
    exact getElem?_of_prefix hprefix (by rw [List.getElem?_map, hbyte]; rfl)
  have ho : o + i < wire.length := (List.getElem?_eq_some_iff.mp hbyte').1
  have hq : packet.seq + UInt32.ofNat i = iss + UInt32.ofNat (o + i) := by
    rw [hseq, UInt32.add_assoc, UInt32.ofNat_add]
  rw [hunack] at hin ⊢
  have hposition := position_of_inflight hq (by omega) (by omega) hin
  rw [hbuffer, List.getElem?_drop]
  have haccepted := getElem?_wire hopen h.stream hbyte' (by omega)
  rw [← haccepted]
  congr 1
  omega

/-- An established session in its first connection. -/
theorem Sender.aligned (h : Sender flags iss accepted wire s) (hstate : s.state = .established)
    (hused : wire.length ≤ 2 ^ 32) : s.Aligned := by
  rcases h.numbering.inflight (Or.inl hstate) (h.numbering.unfinished hstate) with
    ⟨k, -, hbuffer, -, hle⟩
  have hsize := congrArg List.length hbuffer
  rw [RingQueue.length_toList, List.length_drop] at hsize
  exact
    { inflight_le := by omega
      size_le := s.sendBuffer.size_le
      packets := h.packets.mono fun p hp => hp.agreesWith h.numbering hstate hused }

end Aligned

/-- In every run of a first connection, whenever the session is established, the send buffer is
what the application wrote from the first unacknowledged byte on and holds all that is in
flight; as long as at most 2^32 numbers are used, everything sent or held by a timer agrees
with it. -/
theorem sendBuffer_aligned {iss : UInt32} {s₀ s : TcpSession} {g : SendTrack} (hs₀ : Created s₀)
    (hs : (step.withGhost SendTrack.update).Reachable (fun x e => FirstConnection iss x.1 e)
      (s₀, SendTrack.empty) (s, g)) (hstate : s.state = .established) :
    (∃ k, s.sendWindow.sendUnack = iss + UInt32.ofNat (1 + k) ∧
      s.sendBuffer.toList = g.accepted.drop k) ∧
      s.inflight.toNat ≤ s.sendBuffer.size ∧ s.sendBuffer.size ≤ 1024 ∧
      (g.wire.length ≤ 2 ^ 32 → s.Aligned) := by
  have hsender : FirstSender iss g.accepted g.wire s ∧ s.Keyed := by
    apply hs.invariant (P := fun x => FirstSender iss x.2.accepted x.2.wire x.1 ∧ x.1.Keyed)
    · refine ⟨⟨flagSyn, sender_start (Or.inl hs₀.state) hs₀.sent ?_ ?_ hs₀.activeAt⟩, hs₀.keyed⟩
      · rw [hs₀.sendBuffer]
        rfl
      · cases hs₀
        rfl
    · intro x e y hx hok hstep
      rcases StepFn.withGhost_eq_some.mp hstep with ⟨hy, hghost⟩
      rw [hghost]
      exact ⟨firstSender_step hx.1 hx.2 hok hy, keyed_step hx.2 hy⟩
  rcases hsender.1 with ⟨flags, hsender⟩
  rcases hsender.numbering.inflight (Or.inl hstate) (hsender.numbering.unfinished hstate) with
    ⟨k, hunack, hbuffer, -, hle⟩
  have hsize := congrArg List.length hbuffer
  rw [RingQueue.length_toList, List.length_drop] at hsize
  exact ⟨⟨k, hunack, hbuffer⟩, by omega, s.sendBuffer.size_le, hsender.aligned hstate⟩

/-- A client that has one byte in flight, with the number 501. -/
def oneByteRun : List Event :=
  [.connect 500, .input (peerPacket (flagSyn ||| flagAck) 100 501 1024 []) 0, .send [7]]

theorem sendBuffer_aligned_oneByte :
    ∃ s g, (step.withGhost SendTrack.update).run (clientSession, SendTrack.empty) oneByteRun =
        some (s, g) ∧ s.inflight = 1 ∧ s.Aligned := by
  have hrun : (((step.withGhost SendTrack.update).run (clientSession, SendTrack.empty)
      oneByteRun).any fun x =>
        x.1.state = .established ∧ x.1.inflight = 1 ∧ x.2.wire.length ≤ 2) = true := by
    decide +kernel
  have hcheck : (step.withGhost SendTrack.update).checkSteps
      (fun x e => decide (FirstConnection 500 x.1 e)) (clientSession, SendTrack.empty)
      oneByteRun = true := by
    decide +kernel
  rcases (Option.any_eq_true _ _).mp hrun with ⟨⟨s, g⟩, hg, hfacts⟩
  rcases of_decide_eq_true hfacts with ⟨hstate, hinflight, hused⟩
  have hreach := StepFn.reachable_of_run
    (StepFn.allSteps_of_check (fun _ _ => of_decide_eq_true) hcheck) hg
  have haligned := sendBuffer_aligned Connection.created_clientSession hreach hstate
  exact ⟨s, g, hg, hinflight, haligned.2.2.2 (hused.trans (by omega))⟩

/-! ## A number that is used twice -/

/-- The session has sent {lit}`n` bytes behind its SYN with number 500, the first of them a zero,
one after the other. -/
structure Exchanged (n : Nat) (s : TcpSession) : Prop where
  idle : Idle (UInt32.ofNat (501 + n)) s
  window_pos : 1 ≤ s.sendWindow.sendWindowSize.toNat
  window_ge : n ≤ s.sendWindow.sendWindowSize.toNat
  window_le : s.sendWindow.sendWindowSize.toNat ≤ n + 16
  threshold : s.ssthresh = 8
  first : 0 < n → ∃ d ∈ s.sent, d.packet.seq = 501 ∧ d.packet.payload = [0]

/-- The session after the handshake with the numbers 500 and 100. -/
theorem exchanged_handshake :
    ∃ s, step.Reachable (FirstConnection 500) clientSession s ∧ Exchanged 0 s := by
  have hrun : ((step.run clientSession (oneByteRun.take 2)).any fun s =>
      (s.state = .established ∧ s.sendWindow.sendUnack = 501 ∧ s.sendWindow.sendNext = 501 ∧
        s.sendBuffer.toList = [] ∧ s.dupAckCount = 0 ∧ s.lastAckReceived ≤ 501) ∧
      s.sendWindow.sendWindowSize.toNat = 1 ∧ s.ssthresh = 8) = true := by
    decide +kernel
  have hcheck : step.checkSteps (fun s e => decide (FirstConnection 500 s e)) clientSession
      (oneByteRun.take 2) = true := by
    decide +kernel
  rcases (Option.any_eq_true _ _).mp hrun with ⟨s, hs, hfacts⟩
  rcases of_decide_eq_true hfacts with ⟨⟨hstate, hunack, hnext, hbuffer, hdup, hlast⟩, hwindow,
    hthreshold⟩
  have hall : step.AllSteps (FirstConnection 500) clientSession (oneByteRun.take 2) :=
    StepFn.allSteps_of_check (fun _ _ => of_decide_eq_true) hcheck
  exact ⟨s, StepFn.reachable_of_run hall hs,
    { idle := ⟨hstate, hunack, hnext, hbuffer, hdup, hlast⟩
      window_pos := hwindow.ge
      window_ge := Nat.zero_le _
      window_le := by omega
      threshold := hthreshold
      first := fun hpos => absurd hpos (Nat.lt_irrefl 0) }⟩

theorem firstConnection_ack (iss : UInt32) (s : TcpSession) (seqNum ackNum : UInt32) :
    FirstConnection iss s (.input (peerPacket flagAck seqNum ackNum 1024 []) 0) := by
  intro _ hsyn
  rw [peerPacket_has] at hsyn
  contradiction

/-- A zero is sent and acknowledged. -/
theorem Exchanged.exchange {n : Nat} {s : TcpSession} (h : Exchanged n s)
    (hn : 501 + n + 1 < 2 ^ 32) :
    ∃ s', step.Reachable (FirstConnection 500) s s' ∧ Exchanged (n + 1) s' := by
  have hpos := h.window_pos
  have hge := h.window_ge
  have hle := h.window_le
  have hwindow : s.sendWindow.sendWindowSize ≠ 0 := by
    rw [Ne, ← UInt32.toNat_inj, UInt32.toNat_zero]
    omega
  obtain ⟨hwait, hcwnd, hthresh, -⟩ := h.idle.waiting hwindow 0
  obtain ⟨buffer, m, -, hsend⟩ := h.idle.send hwindow 0
  obtain ⟨s', hinput, hidle, hgrown, hkept, hsent, -⟩ := hwait.ack (ofNat_lt_succ hn)
    (isPlainAck_peerPacket 101 (UInt32.ofNat (501 + n) + 1) 1024) 0
  have hsize : s'.sendWindow.sendWindowSize.toNat =
      if s.sendWindow.sendWindowSize.toNat < 8 then s.sendWindow.sendWindowSize.toNat * 2
      else s.sendWindow.sendWindowSize.toNat + 1 := by
    rw [hgrown, hcwnd, hthresh, h.threshold]
    exact grownWindow_toNat (by omega)
  rw [ofNat_succ] at hidle
  have hsends : step.Reachable (FirstConnection 500) s (s.send [0]).2 :=
    .next .start (e := .send [0]) trivial rfl
  refine ⟨s', hsends.next (firstConnection_ack _ _ _ _) hinput, ?_⟩
  exact
    { idle := hidle
      window_pos := by rw [hsize]; split <;> omega
      window_ge := by rw [hsize]; split <;> omega
      window_le := by rw [hsize]; split <;> omega
      threshold := by rw [hkept, hthresh, h.threshold]
      first := by
        intro _
        rw [hsent, hsend]
        by_cases hzero : n = 0
        · refine ⟨_, List.mem_append_right _ (List.mem_singleton_self _), ?_, rfl⟩
          rw [datagram_seq, h.idle.sendNext, hzero]
          rfl
        · rcases h.first (by omega) with ⟨d, hd, hpacket⟩
          exact ⟨d, List.mem_append_left _ hd, hpacket⟩ }

/-- So many exchanges as fit before the numbers wrap around. -/
theorem exchanged {n : Nat} (hn : 501 + n < 2 ^ 32) :
    ∃ s, step.Reachable (FirstConnection 500) clientSession s ∧ Exchanged n s := by
  induction n with
  | zero => exact exchanged_handshake
  | succ n ih =>
      rcases ih (by omega) with ⟨s, hs, h⟩
      rcases h.exchange (by omega) with ⟨s', hs', h'⟩
      exact ⟨s', hs.trans hs', h'⟩

/-- Data that fill the numbers up to that of the first byte put another byte there. -/
theorem Exchanged.misaligned {s : TcpSession} (h : Exchanged (2 ^ 32 - 502) s) {data : List UInt8}
    (hlength : data.length = 503) (hlast : data[502]? = some 1) :
    (s.send data).2.state = .established ∧ ¬ (s.send data).2.Aligned := by
  have hge := h.window_ge
  obtain ⟨buffer, m, hbuffer, hsend⟩ := h.idle.sendAll
    (List.ne_nil_of_length_pos (by rw [hlength]; omega)) (by rw [hlength]; omega)
    (by rw [hlength]; omega)
  rcases h.first (by omega) with ⟨d, hd, hseq, hpayload⟩
  rw [hsend]
  refine ⟨h.idle.state, fun haligned => ?_⟩
  have hagrees := haligned.packets.sent d (List.mem_append_left _ hd) 0 0 (by rw [hpayload]; rfl)
  have hunack : s.sendWindow.sendUnack = 4294967295 := h.idle.sendUnack.trans (by decide)
  -- number 501 is the last of those in flight
  have hposition : (d.packet.seq + UInt32.ofNat 0 - s.sendWindow.sendUnack).toNat = 502 := by
    rw [hseq, hunack]
    decide
  have hinflight : (UInt32.ofNat (501 + (2 ^ 32 - 502)) + UInt32.ofNat data.length -
      s.sendWindow.sendUnack).toNat = 503 := by
    rw [hlength, hunack]
    decide
  rw [inflight] at hagrees
  dsimp only at hagrees
  rw [hposition, hinflight, hbuffer, hlast] at hagrees
  have hbyte := hagrees (by omega)
  revert hbyte
  decide

/-- After 2^32 numbers the number of the first byte is in flight again, with another byte. -/
theorem wrappedSegment_misaligned :
    ∃ s, step.Reachable (FirstConnection 500) clientSession s ∧ s.state = .established ∧
      ¬ s.Aligned := by
  rcases exchanged (n := 2 ^ 32 - 502) (by omega) with ⟨s, hs, h⟩
  have hlast : (List.replicate 503 (1 : UInt8))[502]? = some 1 := by
    rw [List.getElem?_replicate, if_pos (by omega)]
  exact ⟨_, hs.next (e := .send (List.replicate 503 1)) trivial rfl,
    h.misaligned List.length_replicate hlast⟩

end TcpSession

end MyuTcp
