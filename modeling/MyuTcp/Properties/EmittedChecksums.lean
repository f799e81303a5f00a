import MyuTcp.Core.Emissions
import MyuTcp.Core.Stack

/-!
# Checksums of emitted packets

Every segment of a session is stamped after its last change, retransmissions included.  The
reset that the stack sends to an unknown address is not stamped at all.

Main results:

- Theorem {lit}`wellStamped_step`: the packets that a session has sent, and those it may send
  again, are stamped.
- Theorem {lit}`emitted_accepted_iff`: in every run of a stack all packets pass the checksum
  test of their receiver exactly when the stack never answers with a reset.
-/

namespace MyuTcp

open Library

/-- The receiver parses a packet from the datagram, and its checksum is right. -/
def Accepted (d : Datagram) : Prop :=
  ∃ packet, UdpDriver.onUvRecv (UdpDriver.sendPacket d.packet) = some packet ∧
    verifyChecksum packet = true

/-- A receiver tests the checksum and nothing else. -/
theorem accepted_iff (d : Datagram) : Accepted d ↔ verifyChecksum d.packet = true := by
  unfold Accepted
  rw [UdpDriver.onUvRecv_sendPacket]
  constructor
  · rintro ⟨packet, hpacket, hverify⟩
    cases hpacket
    exact hverify
  · intro hverify
    exact ⟨_, rfl, hverify⟩

namespace TcpSession

/-- The packet was stamped last, and its payload fits in a buffer of a session. -/
def IsStamped (packet : MyuTcpPacket) : Prop :=
  ∃ q : MyuTcpPacket, q.payload.length ≤ 1024 ∧ packet = calculateChecksum q

/-- A stamped packet passes the test. -/
theorem IsStamped.verify {packet : MyuTcpPacket} (h : IsStamped packet) :
    verifyChecksum packet = true := by
  rcases h with ⟨q, hlength, rfl⟩
  apply verifyChecksum_calculateChecksum
  omega

/-- All packets of the session are stamped, and the stored ones are short. -/
structure WellStamped (s : TcpSession) : Prop where
  packets : AllPackets IsStamped s
  keyed : s.Keyed
  inflight : ∀ k packet, s.inflightPackets.find? k = some packet → packet.payload.length ≤ 1024

section WellStamped

variable {s s' : TcpSession} {e : Event}

/-- No payload is longer than the send buffer. -/
theorem length_of_carries {payload : List UInt8}
    (hinflight : ∀ k packet, s.inflightPackets.find? k = some packet →
      packet.payload.length ≤ 1024)
    (h : s.Carries payload) : payload.length ≤ 1024 := by
  cases h with
  | empty => exact Nat.zero_le _
  | buffered offset n =>
      have hsize := s.sendBuffer.size_le
      rw [List.length_take, List.length_drop, RingQueue.length_toList]
      omega
  | inflight hfind => exact hinflight _ _ hfind

/-- A packet that is sent again is stamped again. -/
theorem isStamped_refreshPacket (s : TcpSession) {packet : MyuTcpPacket}
    (h : IsStamped packet) : IsStamped (s.refreshPacket packet) := by
  rcases h with ⟨q, hlength, rfl⟩
  refine ⟨{ calculateChecksum q with
    header := (calculateChecksum q).header.withAckAndWindow s.recvWindow.recvNext
      s.getUsableRecvWindowSize.toUInt16 }, hlength, ?_⟩
  unfold refreshPacket
  rfl

/-- What the log and the in-flight map have to keep along the moves of a step. -/
def LogStamped (s : TcpSession) : Prop :=
  (∀ d ∈ s.sent, IsStamped d.packet) ∧
    ∀ k packet, s.inflightPackets.find? k = some packet → packet.payload.length ≤ 1024

/-- The new packets of a move are stamped. -/
theorem LogStamped.sent {a b : TcpSession} (ha : LogStamped a) (h : Sends a a b) :
    ∀ d ∈ b.sent, IsStamped d.packet := by
  intro d hd
  rcases h with hsent | ⟨t, flags, payload, hsent, hcarries⟩
  · rw [hsent] at hd
    exact ha.1 d hd
  · rw [hsent, List.mem_append, List.mem_singleton] at hd
    rcases hd with hd | rfl
    · exact ha.1 d hd
    · exact ⟨_, length_of_carries ha.2 hcarries, rfl⟩

/-- No packet in flight is longer than the send buffer. -/
theorem inflight_move {s₀ a b : TcpSession}
    (ha : ∀ k packet, a.inflightPackets.find? k = some packet → packet.payload.length ≤ 1024)
    (hmove : Move s₀ e a b) :
    ∀ k packet, b.inflightPackets.find? k = some packet → packet.payload.length ≤ 1024 :=
  fun _ _ hfind => length_of_carries ha (hmove.stores hfind).carries

/-- A move other than an expiry keeps the log stamped. -/
theorem LogStamped.move {s₀ a b : TcpSession} (hexpire : ∀ k, e ≠ .expire k)
    (ha : LogStamped a) (hmove : Move s₀ e a b) : LogStamped b :=
  ⟨ha.sent (hmove.sends hexpire), inflight_move ha.2 hmove⟩

/-- The packets that a session has sent, and those it may send again, stay stamped. -/
theorem wellStamped_step (hs : s.WellStamped) (h : step s e = some s') : s'.WellStamped where
  packets := by
    refine packets_step hs.packets hs.keyed h ?_ fun _ => isStamped_refreshPacket s
    intro hexpire d hd
    have hlog : LogStamped s' :=
      (step_moves h).preserves (fun _ _ ha hmove => ha.move hexpire hmove)
        ⟨hs.packets.sent, hs.inflight⟩
    exact hlog.1 d (List.mem_of_mem_drop hd)
  keyed := keyed_step hs.keyed h
  inflight := (step_moves h).preserves (fun _ _ => inflight_move) hs.inflight

/-- A new session has sent nothing. -/
theorem wellStamped_createSession (initialSendSeq initialRecvSeq : UInt32)
    (listenerPort port : UInt16) (remoteIp : String) (remotePort : UInt16) :
    (createSession initialSendSeq initialRecvSeq listenerPort port remoteIp
      remotePort).WellStamped where
  packets := ⟨fun _ hd => absurd hd List.not_mem_nil, fun _ _ ht => nomatch ht⟩
  keyed _ _ ht := nomatch ht
  inflight _ _ hfind := nomatch hfind

end WellStamped

end TcpSession

namespace TcpStack

/-- The stack answers a packet from an unknown address with a reset. -/
def AnswersReset (st : TcpStack) : StackEvent → Prop
  | .datagram k bytes _ _ => st.processingBatch.isEmpty = true ∧ st.Resets k bytes
  | _ => False

/-- The packets that a step hands to the driver are accepted by their receivers. -/
def EmitsAccepted (st : TcpStack) (ev : StackEvent) : Prop :=
  ∀ st', step st ev = some st' → ∀ d ∈ st'.sent.drop st.sent.length, Accepted d

/-- All sessions of the stack have stamped their packets. -/
def SessionsStamped (st : TcpStack) : Prop :=
  ∀ k entry, st.tcpSessions.find? k = some entry → entry.session.WellStamped

section Steps

variable {st st' : TcpStack}

/-- A step of one session sends stamped packets. -/
theorem SessionsStamped.stepSession {k : Address} {e : Event} (h : st.SessionsStamped)
    (hstep : st.stepSession k e = some st') :
    st'.SessionsStamped ∧ ∃ l, st'.sent = st.sent ++ l ∧ ∀ d ∈ l, Accepted d := by
  have hothers := fun j hj => find?_stepSession_of_ne (j := j) hstep hj
  rcases stepSession_eq_some_iff.mp hstep with ⟨entry, s, hfind, hs, rfl⟩
  have hstamped := TcpSession.wellStamped_step (h k entry hfind) hs
  constructor
  · intro j entry' hfind'
    by_cases hj : j = k
    · subst hj
      have hcommit := find?_commit j entry s st
      split at hcommit
      · rw [hcommit] at hfind'
        contradiction
      · rcases hcommit with ⟨ready, hready⟩
        rw [hready, Option.some.injEq] at hfind'
        rw [← hfind']
        exact hstamped
    · rw [hothers j hj] at hfind'
      exact h j entry' hfind'
  · refine ⟨_, sent_commit k entry s st, ?_⟩
    intro d hd
    rw [accepted_iff]
    exact (hstamped.packets.sent d (List.mem_of_mem_drop hd)).verify

/-- Nor has the session of {lit}`create_session`. -/
theorem wellStamped_freshSession (k : Address) (seeds : SessionSeeds) (id : Nat) :
    (freshSession k seeds id).session.WellStamped :=
  TcpSession.wellStamped_createSession _ _ _ _ _ _

theorem wellStamped_listeningSession (k : Address) (seeds : SessionSeeds) (id : Nat) :
    (listeningSession k seeds id).session.WellStamped :=
  TcpSession.wellStamped_step (e := .listen) (wellStamped_freshSession k seeds id) rfl

/-- What a step emits is accepted, the reset of the stack apart. -/
theorem SessionsStamped.step {ev : StackEvent} (h : st.SessionsStamped)
    (hreset : ¬ st.AnswersReset ev) (hstep : step st ev = some st') :
    st'.SessionsStamped ∧ ∃ l, st'.sent = st.sent ++ l ∧ ∀ d ∈ l, Accepted d := by
  have heffect := step_effect hstep
  cases heffect with
  | quiet hkept hsent hcallback =>
      refine ⟨?_, [], by rw [hsent, List.append_nil], by simp⟩
      intro k entry hfind
      have hsame := hkept k
      rw [SameSession, hfind, Option.map_some, eq_comm, Option.map_eq_some_iff] at hsame
      rcases hsame with ⟨entry₁, hfind₁, hentry⟩
      rw [Prod.mk.injEq] at hentry
      rw [← hentry.2]
      exact h k entry₁ hfind₁
  | created j seeds =>
      refine ⟨?_, [], (List.append_nil _).symm, by simp⟩
      intro k entry hfind
      rw [find?_createSession] at hfind
      split at hfind <;> rename_i hk
      · rw [Option.some.injEq] at hfind
        rw [← hfind]
        cases hj : st.tcpSessions.find? j with
        | none => exact wellStamped_freshSession _ _ _
        | some old => exact h j old hj
      · exact h k entry hfind
  | call hcall hstep' => exact h.stepSession hstep'
  | delivered hdelivers hstep' => exact h.stepSession hstep'
  | @opened j bytes seeds iss packet st₁ _ hparse hflags hunknown hnew hothers hsent hcallback
      hstep' =>
      have h₁ : st₁.SessionsStamped := by
        intro k entry hfind
        by_cases hk : k = j
        · rw [hk, hnew, Option.some.injEq] at hfind
          rw [← hfind]
          exact wellStamped_listeningSession _ _ _
        · rw [hothers k hk] at hfind
          exact h k entry hfind
      rw [← hsent]
      exact h₁.stepSession hstep'
  | resets hresets => exact absurd ⟨(receive_of_step hstep).1, hresets⟩ hreset

/-- The reset of the stack fails the checksum test of every receiver. -/
theorem not_accepted_reset (ip : String) (port : UInt16) :
    ¬ Accepted { packet := resetPacket, destIp := ip, destPort := port } := by
  rw [accepted_iff]
  change ¬ verifyChecksum resetPacket = true
  decide +kernel

/-- A reset of the stack is the one packet of its step. -/
theorem step_of_answersReset {k : Address} {bytes : List UInt8} {seeds : SessionSeeds}
    {iss : UInt32} (h : st.AnswersReset (.datagram k bytes seeds iss)) :
    TcpStack.step st (.datagram k bytes seeds iss) =
      some { st with
        sent := st.sent ++ [{ packet := resetPacket, destIp := k.ip, destPort := k.port }] } := by
  rcases h with ⟨hempty, hresets⟩
  rcases (Option.any_eq_true _ _).mp hresets with ⟨packet, hparse, hroute⟩
  rw [TcpStack.step, if_pos hempty, receive_of_parse hparse, of_decide_eq_true hroute]

theorem not_answersReset {ev : StackEvent} (h : st.EmitsAccepted ev) : ¬ st.AnswersReset ev := by
  intro hreset
  cases ev with
  | datagram k bytes seeds iss =>
      have haccepted := h _ (step_of_answersReset hreset)
      dsimp only at haccepted
      rw [List.drop_left] at haccepted
      exact not_accepted_reset k.ip k.port (haccepted _ List.mem_cons_self)
  | _ => exact hreset

theorem emitsAccepted_of_sessionsStamped {ev : StackEvent} (h : st.SessionsStamped)
    (hreset : ¬ st.AnswersReset ev) : st.EmitsAccepted ev := by
  intro st' hstep
  rcases (h.step hreset hstep).2 with ⟨l, hl, haccepted⟩
  rw [hl, List.drop_left]
  exact haccepted

end Steps

/-- In every run of a stack, all packets handed to the driver pass the checksum test of
their receiver exactly when no packet from an unknown address is answered with a reset. -/
theorem emitted_accepted_iff (evs : List StackEvent) :
    step.AllSteps EmitsAccepted new evs ↔
      step.AllSteps (fun st ev => ¬ st.AnswersReset ev) new evs := by
  apply StepFn.allSteps_iff_of_invariant (P := SessionsStamped)
  · intro st ev hstamped
    exact ⟨not_answersReset, emitsAccepted_of_sessionsStamped hstamped⟩
  · intro st ev st' hstamped hreset hstep
    exact (hstamped.step hreset hstep).1
  · intro k entry hfind
    contradiction

/-- A listening stack gets an acknowledgment from an address that it does not know. -/
def strayAckRun : List StackEvent :=
  [.listen, .datagram clientAddress
    (UdpDriver.sendPacket (TcpSession.peerPacket flagAck 100 1 1024 [])) zeroSeeds 0]

/-- The answer to the stray acknowledgment is dropped by its receiver. -/
theorem strayAckRun_unaccepted :
    ∃ st d, step.run new strayAckRun = some st ∧ st.sent = [d] ∧
      d.packet.header.flags = flagRst ∧ ¬ Accepted d := by
  have hrun : ((step.run new strayAckRun).any fun st =>
      st.sent.map Datagram.packet = [resetPacket]) = true := by
    decide +kernel
  rcases (Option.any_eq_true _ _).mp hrun with ⟨st, hst, hsent⟩
  rcases List.map_eq_singleton_iff.mp (of_decide_eq_true hsent) with ⟨d, hd, hpacket⟩
  refine ⟨st, d, hst, hd, by rw [hpacket]; rfl, ?_⟩
  rw [accepted_iff, hpacket]
  decide +kernel

end TcpStack

end MyuTcp
