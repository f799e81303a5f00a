import MyuTcp.Core.Transmission

/-!
# Duplicate acknowledgments

The answer of an ESTABLISHED session to three acknowledgments that repeat
{lit}`send_unack_`.  The range test of {lit}`_handle_ack` rejects such a number before
the duplicate is counted, so the session never re-sends its first segment in flight.

Main results:

- Theorem {lit}`input_duplicateAck`: a duplicate acknowledgment leads to one send
  attempt and nothing else.
- Theorem {lit}`fastRetransmit_never`: three of them never re-send the first segment.
-/

namespace MyuTcp

open Library

namespace TcpSession

/-- A stamped acknowledgment of {lit}`send_unack_` without payload, SYN, FIN or RST. -/
structure IsDuplicateAck (s : TcpSession) (packet : MyuTcpPacket) : Prop where
  stamped : verifyChecksum packet = true
  noRst : packet.has flagRst = false
  noFin : packet.has flagFin = false
  noSyn : packet.has flagSyn = false
  isAck : packet.has flagAck = true
  noPayload : packet.payload = []
  repeats : packet.ack = s.sendWindow.sendUnack

/-- Between two sessions, the segment that starts at {lit}`send_unack_` was sent once
more, {lit}`send_next_` was kept and the threshold set to half of the window. -/
def FastRetransmits (s s' : TcpSession) : Prop :=
  (∃ o ∈ s.sent, ∃ d ∈ newDatagrams s s', o.packet.seq = s.sendWindow.sendUnack ∧
      o.packet.payload ≠ [] ∧ d.packet.seq = o.packet.seq ∧
      d.packet.payload = o.packet.payload) ∧
    s'.sendWindow.sendNext = s.sendWindow.sendNext ∧
    s'.ssthresh = s.sendWindow.sendWindowSize / 2

instance (s s' : TcpSession) : Decidable (FastRetransmits s s') :=
  inferInstanceAs (Decidable (_ ∧ _))

/-- The range test rejects {lit}`send_unack_` itself. -/
theorem acceptsAck_sendUnack (s : TcpSession) :
    s.acceptsAck s.sendWindow.sendUnack = false := by
  simp [acceptsAck]

/-- A duplicate acknowledgment leads to one send attempt and nothing else. -/
theorem input_duplicateAck {s : TcpSession} {packet : MyuTcpPacket}
    (hstate : s.state = .established) (hdup : s.IsDuplicateAck packet) (iss : UInt32) :
    s.input packet iss = some (s.observe packet).handleTrySend := by
  have hlacks : lacksFlags packet = false := by simp [lacksFlags, hdup.isAck]
  have hobserve : (s.observe packet).state = .established := hstate
  have hreject : (s.observe packet).acceptsAck packet.ack = false := by
    rw [hdup.repeats]
    exact acceptsAck_sendUnack _
  rw [input, hdup.stamped, hdup.noRst, hlacks]
  simp only [Bool.not_true, Bool.false_eq_true, if_false, dispatch, hobserve, handleEstablished,
    hdup.isAck, if_true, handleAck, hreject, handleEstablishedPayload, hdup.noPayload,
    List.length_nil, Nat.lt_irrefl, gt_iff_lt, Option.map_some, handleEstablishedFin, hdup.noFin]

/-- What a send attempt with data in flight keeps: everything it adds lies behind
{lit}`send_unack_`. -/
structure SendsBehindUnack (s s' : TcpSession) : Prop where
  state : s'.state = s.state
  sendUnack : s'.sendWindow.sendUnack = s.sendWindow.sendUnack
  inflight : s'.inflight ≠ 0
  sent : ∃ l, s'.sent = s.sent ++ l ∧ ∀ d ∈ l, d.packet.seq ≠ s.sendWindow.sendUnack

/-- Two steps in a row. -/
theorem SendsBehindUnack.trans {a b c : TcpSession} (hab : SendsBehindUnack a b)
    (hbc : SendsBehindUnack b c) : SendsBehindUnack a c := by
  obtain ⟨l, hl, hseq⟩ := hab.sent
  obtain ⟨l', hl', hseq'⟩ := hbc.sent
  rw [hab.sendUnack] at hseq'
  refine ⟨hbc.state.trans hab.state, hbc.sendUnack.trans hab.sendUnack, hbc.inflight, l ++ l',
    by rw [hl', hl, List.append_assoc], ?_⟩
  intro d hd
  rcases List.mem_append.mp hd with hd | hd
  · exact hseq d hd
  · exact hseq' d hd

/-- New data are sent behind {lit}`send_unack_`. -/
theorem sendsBehindUnack_handleTrySend {s : TcpSession} (h : s.inflight ≠ 0) :
    SendsBehindUnack s s.handleTrySend := by
  by_cases htransmits : s.Transmits
  · rw [s.handleTrySend_of_transmits htransmits]
    refine ⟨rfl, rfl, ?_, _, rfl, ?_⟩
    · have hcap := s.sendBuffer.size_le
      have hsize := htransmits.2.2
      have hlen := s.length_nextPayload
      have hpos : s.inflight.toNat ≠ 0 := by
        rwa [Ne, ← UInt32.toNat_zero, UInt32.toNat_inj]
      have hnext : s.sendWindow.sendNext + UInt32.ofNat s.nextPayload.length -
          s.sendWindow.sendUnack = s.inflight + UInt32.ofNat s.nextPayload.length := by
        rw [TcpSession.inflight]
        grind
      intro hzero
      rw [TcpSession.inflight, hnext, ← UInt32.toNat_inj, UInt32.toNat_add, UInt32.toNat_ofNat',
        UInt32.toNat_zero] at hzero
      omega
    · intro d hd hseq
      rw [List.mem_singleton] at hd
      rw [hd, datagram, calculateChecksum_seq, segment_seq] at hseq
      exact h (by rw [TcpSession.inflight, hseq, UInt32.sub_self])
  · rw [s.handleTrySend_of_not htransmits]
    exact ⟨rfl, rfl, h, [], (List.append_nil _).symm, fun d hd => absurd hd List.not_mem_nil⟩

/-- What a duplicate acknowledgment does. -/
theorem step_duplicateAck {s : TcpSession} {packet : MyuTcpPacket} (iss : UInt32)
    (hstate : s.state = .established) (hout : s.inflight ≠ 0) (hdup : s.IsDuplicateAck packet) :
    ∃ s', step s (.input packet iss) = some s' ∧ SendsBehindUnack s s' := by
  refine ⟨_, input_duplicateAck hstate hdup iss, ?_⟩
  obtain ⟨h₁, h₂, h₃, h₄⟩ := sendsBehindUnack_handleTrySend (s := s.observe packet) hout
  exact ⟨h₁, h₂, h₃, h₄⟩

/-- Three duplicate acknowledgments never make the session re-send the segment that
starts at {lit}`send_unack_`. -/
theorem fastRetransmit_never {s : TcpSession} {p₁ p₂ p₃ : MyuTcpPacket} (i₁ i₂ i₃ : UInt32)
    (hstate : s.state = .established)
    (hout : s.sendWindow.sendUnack ≠ s.sendWindow.sendNext)
    (h₁ : s.IsDuplicateAck p₁) (h₂ : s.IsDuplicateAck p₂) (h₃ : s.IsDuplicateAck p₃) :
    ∃ s', step.run s [.input p₁ i₁, .input p₂ i₂, .input p₃ i₃] = some s' ∧
      ¬ FastRetransmits s s' := by
  have hinflight : s.inflight ≠ 0 := by
    intro hzero
    rw [inflight] at hzero
    exact hout (by grind)
  obtain ⟨s₁, hs₁, hkeep₁⟩ := step_duplicateAck i₁ hstate hinflight h₁
  obtain ⟨s₂, hs₂, hkeep₂⟩ := step_duplicateAck i₂ (hkeep₁.state.trans hstate)
    hkeep₁.inflight { h₂ with repeats := h₂.repeats.trans hkeep₁.sendUnack.symm }
  have hkeep := hkeep₁.trans hkeep₂
  obtain ⟨s₃, hs₃, hkeep₃⟩ := step_duplicateAck i₃ (hkeep.state.trans hstate)
    hkeep.inflight { h₃ with repeats := h₃.repeats.trans hkeep.sendUnack.symm }
  refine ⟨s₃, by simp only [StepFn.run_cons, hs₁, hs₂, hs₃, Option.bind_some, StepFn.run_nil], ?_⟩
  rintro ⟨⟨o, -, d, hd, hfirst, -, hseq, -⟩, -, -⟩
  obtain ⟨l, hl, hne⟩ := (hkeep.trans hkeep₃).sent
  rw [newDatagrams, hl, List.drop_left] at hd
  exact hne d hd (hseq.trans hfirst)

/-- An established client with one byte in flight. -/
def oneByteInFlightRun : List Event :=
  [.connect 0, .input (peerPacket (flagSyn ||| flagAck) 100 1 1024 []) 0, .send [7]]

/-- The acknowledgment that repeats the client's first data byte. -/
def repeatedAck : MyuTcpPacket := peerPacket flagAck 101 1 1024 []

/-- The repeated acknowledgment of the example. -/
theorem isDuplicateAck_repeatedAck {s : TcpSession} (h : s.sendWindow.sendUnack = 1) :
    s.IsDuplicateAck repeatedAck :=
  ⟨by decide +kernel, by decide +kernel, by decide +kernel, by decide +kernel,
    by decide +kernel, by decide +kernel, by rw [h]; decide +kernel⟩

/-- The example has one byte in flight. -/
theorem run_oneByteInFlight :
    ∃ s, step.run clientSession oneByteInFlightRun = some s ∧ s.state = .established ∧
      s.sendWindow.sendUnack = 1 ∧ s.sendWindow.sendNext = 2 := by
  have hrun : ((step.run clientSession oneByteInFlightRun).any fun s =>
      s.state = .established ∧ s.sendWindow.sendUnack = 1 ∧ s.sendWindow.sendNext = 2) =
        true := by
    decide +kernel
  obtain ⟨s, hs, hfacts⟩ := (Option.any_eq_true _ _).mp hrun
  exact ⟨s, hs, of_decide_eq_true hfacts⟩

theorem fastRetransmit_never_oneByte :
    ∃ s s', step.run clientSession oneByteInFlightRun = some s ∧
      step.run s [.input repeatedAck 0, .input repeatedAck 0, .input repeatedAck 0] = some s' ∧
      ¬ FastRetransmits s s' := by
  obtain ⟨s, hs, hstate, hunack, hnext⟩ := run_oneByteInFlight
  have hdup := isDuplicateAck_repeatedAck hunack
  obtain ⟨s', hs', hnever⟩ := fastRetransmit_never 0 0 0 hstate
    (by rw [hunack, hnext]; decide) hdup hdup hdup
  exact ⟨s, s', hs, hs', hnever⟩

/-- Three repetitions leave the byte in flight unsent. -/
theorem oneByteInFlight_notResent :
    ∃ s s', step.run clientSession oneByteInFlightRun = some s ∧ s.state = .established ∧
      s.sendWindow.sendUnack ≠ s.sendWindow.sendNext ∧ s.IsDuplicateAck repeatedAck ∧
      step.run s [.input repeatedAck 0, .input repeatedAck 0, .input repeatedAck 0] = some s' ∧
      ¬ FastRetransmits s s' := by
  obtain ⟨s, hs, hstate, hunack, hnext⟩ := run_oneByteInFlight
  have hrun : ((step.run clientSession oneByteInFlightRun).any fun s =>
      (step.run s [.input repeatedAck 0, .input repeatedAck 0, .input repeatedAck 0]).any fun s' =>
        !decide (FastRetransmits s s')) = true := by
    decide +kernel
  rw [hs, Option.any_some, Option.any_eq_true] at hrun
  obtain ⟨s', hs', hnot⟩ := hrun
  exact ⟨s, s', hs, hstate, by rw [hunack, hnext]; decide, isDuplicateAck_repeatedAck hunack, hs',
    by simpa using hnot⟩

end TcpSession

end MyuTcp
