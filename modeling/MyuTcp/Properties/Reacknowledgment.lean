import MyuTcp.Core.Connection
import MyuTcp.Core.Emissions
import MyuTcp.Core.Receiving

/-!
# Old segments

What an established session answers to a segment that it has received before.  Old payload is
acknowledged again, and so is a FIN right below {lit}`recv_next_`, but nothing in
{lit}`handle_established` looks at a SYN.

Main results:

- Theorem {lit}`acknowledgments_established`: the acknowledgment part sends segments that
  acknowledge {lit}`recv_next_`, and it sends one exactly when there is something to send.
- Theorem {lit}`reacknowledged_iff`: which old segments are acknowledged again.
-/

namespace MyuTcp

open Library

namespace TcpSession

/-! ## Segments in flight -/

/-- All segments in flight carry data and an acknowledgment. -/
def InflightData (s : TcpSession) : Prop :=
  ∀ k packet, s.inflightPackets.find? k = some packet →
    packet.payload ≠ [] ∧ packet.header.flags &&& flagAck ≠ 0

section Inflight

variable {s s' a b : TcpSession} {e : Event}

/-- A stored packet has data and ACK. -/
theorem InflightData.of_stores (ha : InflightData a) {packet : MyuTcpPacket}
    (h : a.Stores packet) : packet.payload ≠ [] ∧ packet.header.flags &&& flagAck ≠ 0 := by
  cases h with
  | kept hfind hpayload hflags =>
      rw [hpayload, hflags]
      exact ha _ _ hfind
  | transmitted htransmits hpayload hflags =>
      rw [hpayload, hflags]
      exact ⟨a.nextPayload_ne_nil htransmits, by decide⟩

/-- A step keeps data packets in flight only. -/
theorem inflightData_step (h : InflightData s) (hstep : step s e = some s') : InflightData s' :=
  (step_moves hstep).preserves
    (fun _ _ ha hmove _ _ hfind => ha.of_stores (hmove.stores hfind)) h

end Inflight

/-! ## The acknowledgment part -/

/-- The congestion window after an accepted number. -/
def windowAfterAck (s : TcpSession) (ackNum : UInt32) : UInt32 :=
  if s.ThirdDuplicate ackNum then
    grownWindow (s.sendWindow.sendWindowSize / 2 + 3) (s.sendWindow.sendWindowSize / 2)
  else grownWindow s.sendWindow.sendWindowSize s.ssthresh

/-- Data goes out with the acknowledgment number of a packet: the third duplicate of an accepted
number finds its segment in flight, or there are unsent bytes and the window differs from the
bytes in flight. -/
def SendsAfterAck (s : TcpSession) (ackNum : UInt32) : Prop :=
  if s.acceptsAck ackNum then
    (s.ThirdDuplicate ackNum ∧ (s.inflightPackets.find? ackNum).isSome = true) ∨
      (s.windowAfterAck ackNum ≠ s.sendWindow.sendNext - ackNum ∧
        (s.sendWindow.sendNext - ackNum).toNat <
          s.sendBuffer.size - (ackNum - s.sendWindow.sendUnack).toNat)
  else s.Transmits

instance (s : TcpSession) (ackNum : UInt32) : Decidable (s.SendsAfterAck ackNum) := by
  unfold SendsAfterAck
  infer_instance

/-- The packet acknowledges the given number. -/
def Acknowledges (ackNum : UInt32) (d : Datagram) : Prop :=
  d.packet.has flagAck = true ∧ d.packet.ack = ackNum

/-- The second session has sent more than the first, all of it with the acknowledgment of
{lit}`recv_next_`, and something exactly if {lit}`sends` holds. -/
def Acks (sends : Prop) (a b : TcpSession) : Prop :=
  ∃ l, b.sent = a.sent ++ l ∧ (∀ d ∈ l, Acknowledges a.recvWindow.recvNext d) ∧ (l ≠ [] ↔ sends)

section Acks

variable {s s' a b c : TcpSession} {p q : Prop} {packet : MyuTcpPacket}

/-- A step that sends nothing acknowledges nothing. -/
theorem Acks.of_eq (h : b.sent = a.sent) (hp : ¬ p) : Acks p a b :=
  ⟨[], by rw [h, List.append_nil], by simp, by simp [hp]⟩

/-- A step that sends one packet with ACK acknowledges. -/
theorem Acks.of_single {t : TcpSession} {flags : UInt8} {payload : List UInt8}
    (h : b.sent = a.sent ++ [t.datagram flags a.recvWindow.recvNext payload])
    (hflags : flags &&& flagAck ≠ 0) (hp : p) : Acks p a b := by
  refine ⟨_, h, ?_, by simp [hp]⟩
  intro d hd
  rw [List.mem_singleton.mp hd]
  constructor
  · rw [datagram_has]
    simpa using hflags
  · exact datagram_ack _ _ _ _

/-- Two steps acknowledge if one of them does. -/
theorem Acks.trans (hab : Acks p a b) (hbc : Acks q b c)
    (hnext : b.recvWindow.recvNext = a.recvWindow.recvNext) : Acks (p ∨ q) a c := by
  rcases hab with ⟨l, hl, hacks, hp⟩
  rcases hbc with ⟨l', hl', hacks', hq⟩
  refine ⟨l ++ l', by rw [hl', hl, List.append_assoc], ?_, ?_⟩
  · intro d hd
    rcases List.mem_append.mp hd with hd | hd
    · exact hacks d hd
    · rw [← hnext]
      exact hacks' d hd
  · rw [← hp, ← hq, ← not_and_or, ← List.append_eq_nil_iff]

/-- The condition may be replaced by an equivalent one. -/
theorem Acks.congr (h : Acks p a b) (hpq : p ↔ q) : Acks q a b := by
  rcases h with ⟨l, hl, hacks, hp⟩
  exact ⟨l, hl, hacks, hp.trans hpq⟩

/-- Data acknowledge as well. -/
theorem acks_handleTrySend (s : TcpSession) : Acks s.Transmits s s.handleTrySend := by
  by_cases htransmits : s.Transmits
  · rw [s.handleTrySend_of_transmits htransmits]
    exact .of_single rfl (by decide) htransmits
  · rw [s.handleTrySend_of_not htransmits]
    exact .of_eq rfl htransmits

/-- An accepted number sends a segment again exactly as a third duplicate that finds one. -/
theorem acks_processAck (hdata : InflightData s) (ackNum : UInt32) :
    Acks (s.ThirdDuplicate ackNum ∧ (s.inflightPackets.find? ackNum).isSome = true) s
      (s.processAck ackNum) := by
  by_cases hthird : s.ThirdDuplicate ackNum
  · rcases (s.releaseAcked ackNum).countDupAck_frame ackNum with ⟨c, d, hframe⟩
    have heq : ((s.releaseAcked ackNum).countDupAck ackNum).dupAckCount = 3 := by
      rw [(s.countDupAck_releaseAcked ackNum).1]
      exact hthird
    have hfind : (s.releaseAcked ackNum).inflightPackets.find? ackNum =
        s.inflightPackets.find? ackNum := by
      rw [releaseAcked, OrderedMap.find?_dropBelow, if_neg (lt_irrefl _)]
    rw [processAck, fastRetransmit, if_pos heq, hframe, onRecvThreeDupAck]
    dsimp only
    rw [hfind]
    cases hpacket : s.inflightPackets.find? ackNum with
    | none => exact .of_eq rfl (by simp)
    | some packet =>
        rcases hdata ackNum packet hpacket with ⟨hnil, hflags⟩
        dsimp only
        rw [sendPayloadPacket_eq _ hnil]
        exact .of_single rfl hflags ⟨hthird, rfl⟩
  · rw [s.processAck_of_not hthird]
    exact .of_eq rfl fun h => hthird h.1

/-- Without a second transmission the window grows and the rest stays. -/
theorem sendWindow_processAck {ackNum : UInt32}
    (h : ¬ (s.ThirdDuplicate ackNum ∧ (s.inflightPackets.find? ackNum).isSome = true)) :
    (s.processAck ackNum).sendWindow.sendNext = s.sendWindow.sendNext ∧
      (s.processAck ackNum).sendWindow.sendWindowSize = s.windowAfterAck ackNum := by
  by_cases hthird : s.ThirdDuplicate ackNum
  · rcases (s.releaseAcked ackNum).countDupAck_frame ackNum with ⟨c, d, hframe⟩
    have heq : ((s.releaseAcked ackNum).countDupAck ackNum).dupAckCount = 3 := by
      rw [(s.countDupAck_releaseAcked ackNum).1]
      exact hthird
    have hfind : (s.releaseAcked ackNum).inflightPackets.find? ackNum = none := by
      rw [releaseAcked, OrderedMap.find?_dropBelow, if_neg (lt_irrefl _)]
      simpa [hthird] using h
    rw [windowAfterAck, if_pos hthird, processAck, fastRetransmit, if_pos heq, hframe,
      onRecvThreeDupAck]
    dsimp only
    rw [hfind]
    exact ⟨rfl, rfl⟩
  · rw [windowAfterAck, if_neg hthird, s.processAck_of_not hthird]
    exact ⟨rfl, rfl⟩

/-- Whether the attempt that follows an accepted number transmits. -/
theorem transmits_processAck_iff {ackNum : UInt32} (hstate : s.state = .established)
    (h : ¬ (s.ThirdDuplicate ackNum ∧ (s.inflightPackets.find? ackNum).isSome = true)) :
    (s.processAck ackNum).Transmits ↔
      s.windowAfterAck ackNum ≠ s.sendWindow.sendNext - ackNum ∧
        (s.sendWindow.sendNext - ackNum).toNat <
          s.sendBuffer.size - (ackNum - s.sendWindow.sendUnack).toNat := by
  have hwindow := sendWindow_processAck h
  unfold Transmits inflight
  rw [processAck_state, processAck_sendUnack, processAck_sendBuffer, hwindow.1, hwindow.2,
    RingQueue.size_popFront, hstate]
  simp

/-- The window of the peer does not matter. -/
theorem sendsAfterAck_observe (s : TcpSession) (packet : MyuTcpPacket) (ackNum : UInt32) :
    (s.observe packet).SendsAfterAck ackNum ↔ s.SendsAfterAck ackNum := by
  have hcount := (countDupAck_congr (s := s.observe packet) (t := s) rfl rfl ackNum).1
  have hthird : (s.observe packet).ThirdDuplicate ackNum ↔ s.ThirdDuplicate ackNum := by
    rw [ThirdDuplicate, ThirdDuplicate, hcount]
  have hwindow : (s.observe packet).windowAfterAck ackNum = s.windowAfterAck ackNum := by
    unfold windowAfterAck
    simp only [hthird]
    rfl
  unfold SendsAfterAck
  rw [hthird, hwindow]
  rfl

/-- A second attempt transmits only what the first one left. -/
theorem acks_handleTrySend_twice (s : TcpSession) :
    Acks s.Transmits s s.handleTrySend.handleTrySend := by
  apply ((acks_handleTrySend s).trans (acks_handleTrySend s.handleTrySend) (by simp)).congr
  by_cases htransmits : s.Transmits
  · simp [htransmits]
  · rw [s.handleTrySend_of_not htransmits, or_self]

/-- The acknowledgment part sends segments that acknowledge {lit}`recv_next_`, and it sends one
exactly when there is something to send. -/
theorem acknowledgments_established (hdata : InflightData s) (hstate : s.state = .established)
    (packet : MyuTcpPacket) :
    Acks (packet.has flagAck = true ∧ s.SendsAfterAck packet.ack) s
      (s.handleEstablishedAck packet) := by
  by_cases hflag : packet.has flagAck = true
  · rw [handleEstablishedAck, if_pos hflag, handleAck, SendsAfterAck]
    by_cases haccepts : s.acceptsAck packet.ack = true
    · rw [if_pos haccepts, if_pos haccepts]
      have hsent := (acks_processAck hdata packet.ack).trans
        (acks_handleTrySend_twice (s.processAck packet.ack)) (by rw [processAck_recvWindow])
      apply hsent.congr
      by_cases hresent :
          s.ThirdDuplicate packet.ack ∧ (s.inflightPackets.find? packet.ack).isSome = true
      · simp [hflag, hresent]
      · rw [transmits_processAck_iff hstate hresent]
        simp [hflag]
    · rw [if_neg haccepts, if_neg haccepts]
      exact (acks_handleTrySend s).congr (by simp [hflag])
  · rw [handleEstablishedAck, if_neg hflag]
    exact .of_eq rfl fun h => hflag h.1

end Acks

/-! ## Old segments -/

/-- The sequence numbers that a packet occupies. -/
def seqLength (packet : MyuTcpPacket) : Nat :=
  packet.payload.length + (if packet.has flagSyn then 1 else 0) +
    (if packet.has flagFin then 1 else 0)

/-- A packet with a correct checksum, without RST, that occupies sequence numbers all of which
lie below {lit}`recv_next_`. -/
structure ReceivedBefore (s : TcpSession) (packet : MyuTcpPacket) : Prop where
  verify : verifyChecksum packet = true
  noReset : packet.has flagRst = false
  occupies : 0 < seqLength packet
  below : seqLength packet ≤ (s.recvWindow.recvNext - packet.seq).toNat

/-- The packet is answered with an acknowledgment of {lit}`recv_next_`. -/
def Reacknowledges (s : TcpSession) (packet : MyuTcpPacket) (iss : UInt32) : Prop :=
  ∃ s', s.input packet iss = some s' ∧
    ∃ d ∈ newDatagrams s s', Acknowledges s.recvWindow.recvNext d

/-- The packet carries payload, or is the FIN right below {lit}`recv_next_`, or its
acknowledgment lets data out. -/
def CausesAck (s : TcpSession) (packet : MyuTcpPacket) : Prop :=
  Admitted packet ∧ (packet.payload ≠ [] ∨
    (packet.has flagFin = true ∧ packet.seq + 1 = s.recvWindow.recvNext) ∨
    (packet.has flagAck = true ∧ s.SendsAfterAck packet.ack))

section Old

variable {s s' : TcpSession} {packet : MyuTcpPacket} {iss : UInt32}

/-- An old segment is not the next one. -/
theorem ReceivedBefore.seq_ne (h : s.ReceivedBefore packet) :
    packet.seq ≠ s.recvWindow.recvNext := by
  intro heq
  have hbelow := h.below
  have hoccupies := h.occupies
  rw [heq, UInt32.sub_self, UInt32.toNat_zero] at hbelow
  omega

/-- An old payload is answered with the expected number. -/
theorem acks_payload (hstored : NothingStored s) (hseq : packet.seq ≠ s.recvWindow.recvNext)
    (h : s.handleEstablishedPayload packet = some s') : Acks (packet.payload ≠ []) s s' := by
  by_cases hnil : packet.payload = []
  · rw [handleEstablishedPayload_nil hnil, Option.some.injEq] at h
    rw [← h]
    exact .of_eq rfl (not_not.mpr hnil)
  · rw [hstored.payload_outOfOrder hnil hseq, Option.some.injEq] at h
    rw [← h]
    exact .of_single rfl (by decide) hnil

/-- A FIN is answered with the number behind it. -/
theorem sent_handleEstablishedFin (packet : MyuTcpPacket) (s : TcpSession) (n : UInt32) :
    ∃ l, (handleEstablishedFin packet s).sent = s.sent ++ l ∧
      ((∃ d ∈ l, Acknowledges n d) ↔ packet.has flagFin = true ∧ packet.seq + 1 = n) := by
  rw [handleEstablishedFin]
  split <;> rename_i hfin
  · refine ⟨[s.datagram flagAck (packet.seq + 1) []], rfl, ?_⟩
    have hflag : (s.datagram flagAck (packet.seq + 1) []).packet.has flagAck = true := by
      rw [datagram_has]
      decide
    simp [Acknowledges, hfin, hflag]
  · exact ⟨[], by rw [List.append_nil], by simp [hfin]⟩

/-- A packet that is admitted and not in order is answered exactly under these conditions. -/
theorem reacknowledges_of_admitted (hstored : NothingStored s) (hdata : InflightData s)
    (hstate : s.state = .established) (hadmitted : Admitted packet)
    (hseq : packet.seq ≠ s.recvWindow.recvNext) :
    s.Reacknowledges packet iss ↔ s.CausesAck packet := by
  have hinput := input_established hadmitted hstate iss
  have hack : Acks (packet.has flagAck = true ∧ s.SendsAfterAck packet.ack) (s.observe packet)
      ((s.observe packet).handleEstablishedAck packet) := by
    rw [← sendsAfterAck_observe s packet]
    exact acknowledgments_established (s := s.observe packet) hdata hstate packet
  have hkeeps := keepsReceiving_ack s packet
  generalize (s.observe packet).handleEstablishedAck packet = s₁ at hinput hack hkeeps
  rcases (hkeeps.nothingStored hstored).payload_frame packet with ⟨q, n, l, c, hpayload⟩
  have hparts := hack.trans (acks_payload (hkeeps.nothingStored hstored)
    (by rwa [hkeeps.recvWindow]) hpayload) (by rw [hkeeps.recvWindow]; rfl)
  rw [hpayload, Option.map_some] at hinput
  generalize { s₁ with
    recvBuffer := q, recvWindow.recvNext := n, sent := s₁.sent ++ l, calls := c } = s₂
    at hinput hparts
  rcases hparts with ⟨l', hl', hacks, hsends⟩
  rcases sent_handleEstablishedFin packet s₂ s.recvWindow.recvNext with ⟨l'', hl'', hfin⟩
  have hnew : newDatagrams s (handleEstablishedFin packet s₂) = l' ++ l'' := by
    apply newDatagrams_of_append
    rw [hl'', hl', List.append_assoc]
    rfl
  have hfirst : (∃ d ∈ l', Acknowledges s.recvWindow.recvNext d) ↔ l' ≠ [] := by
    constructor
    · rintro ⟨d, hd, -⟩
      exact List.ne_nil_of_mem hd
    · intro hne
      exact ⟨l'.head hne, List.head_mem hne, hacks _ (List.head_mem hne)⟩
  have hmem : (∃ d ∈ newDatagrams s (handleEstablishedFin packet s₂),
      Acknowledges s.recvWindow.recvNext d) ↔
      (∃ d ∈ l', Acknowledges s.recvWindow.recvNext d) ∨
        ∃ d ∈ l'', Acknowledges s.recvWindow.recvNext d := by
    rw [hnew]
    simp only [List.mem_append, or_and_right, exists_or]
  rw [Reacknowledges, hinput]
  simp only [Option.some.injEq, exists_eq_left']
  rw [hmem, hfirst, hsends, hfin, or_assoc, or_comm, or_assoc]
  exact (and_iff_right hadmitted).symm

/-- For every established session that the API leads to, an old segment is acknowledged again
exactly if it carries payload, is the FIN right below the expected number, or acknowledges
something that lets data out. -/
theorem reacknowledged_iff {initialSendSeq initialRecvSeq : UInt32}
    {listenerPort port : UInt16} {remoteIp : String} {remotePort : UInt16}
    (hs : step.Reachable (fun _ _ => True)
      (createSession initialSendSeq initialRecvSeq listenerPort port remoteIp remotePort) s)
    (hstate : s.state = .established) (hold : s.ReceivedBefore packet) :
    s.Reacknowledges packet iss ↔ s.CausesAck packet := by
  by_cases hadmitted : Admitted packet
  · have hstored := nothingStored_reachable (nothingStored_createSession _ _ _ _ _ _) hs
    have hdata : InflightData s := by
      apply hs.invariant (P := InflightData)
      · intro k packet hfind
        contradiction
      · exact fun _ _ _ h _ hstep => inflightData_step h hstep
    exact reacknowledges_of_admitted hstored hdata hstate hadmitted hold.seq_ne
  · have hlacks : lacksFlags packet = true := by
      by_contra hlacks
      exact hadmitted ⟨hold.verify, hold.noReset, by simpa using hlacks⟩
    have hinput : s.input packet iss = some s := by
      rw [input, if_neg (by simp [hold.verify]), if_neg (by simp [hold.noReset]), if_pos hlacks]
    constructor
    · rintro ⟨s', hs', d, hd, -⟩
      rw [hinput, Option.some.injEq] at hs'
      rw [← hs', newDatagrams, List.drop_length] at hd
      contradiction
    · exact fun hcauses => absurd hcauses.1 hadmitted

end Old

/-- A byte that the client has already received. -/
def oldByteRun : List Event :=
  establishedRun ++ [.input (peerPacket flagAck 101 1 1024 [7]) 0]

theorem reacknowledged_iff_oldByte :
    ∃ s, step.run clientSession oldByteRun = some s ∧ s.recvWindow.recvNext = 102 ∧
      s.Reacknowledges (peerPacket flagAck 101 1 1024 [7]) 0 := by
  have hrun : ((step.run clientSession oldByteRun).any fun s =>
      s.state = .established ∧ s.recvWindow.recvNext = 102) = true := by
    decide +kernel
  rcases (Option.any_eq_true _ _).mp hrun with ⟨s, hs, hfacts⟩
  rcases of_decide_eq_true hfacts with ⟨hstate, hnext⟩
  have hold : s.ReceivedBefore (peerPacket flagAck 101 1 1024 [7]) := by
    refine ⟨by decide +kernel, by decide +kernel, by decide +kernel, ?_⟩
    rw [hnext]
    decide +kernel
  refine ⟨s, hs, hnext, ?_⟩
  apply (reacknowledged_iff (StepFn.reachable_of_run_true hs) hstate hold).mpr
  exact ⟨by decide +kernel, Or.inl (by simp [peerPacket])⟩

end TcpSession

namespace Connection

open TcpSession

/-- A handshake whose third packet is lost, until the server sends its SYN-ACK again. -/
def lostAckRun : List ConnectionEvent :=
  [⟨.a, .connect 0⟩, ⟨.b, .input (wirePacket 7000 8000 flagSyn 0 0) 100⟩,
    ⟨.a, .input (wirePacket 8000 7000 (flagSyn ||| flagAck) 100 1) 0⟩, ⟨.b, .expire 100⟩]

/-- The established client answers the repeated SYN-ACK with nothing, and the server stays in
SYN_RECEIVED. -/
theorem repeatedSynAck_unanswered :
    ∃ c, step.run ⟨clientSession, serverSession.listen⟩ lostAckRun = some c ∧
      c.a.state = .established ∧ c.b.state = .synReceived ∧
      ∃ d, c.b.sent.getLast? = some d ∧ c.a.ReceivedBefore d.packet ∧
        ¬ c.a.Reacknowledges d.packet 0 ∧
        ∃ a', c.a.input d.packet 0 = some a' ∧ newDatagrams c.a a' = [] := by
  have hrun : ((step.run ⟨clientSession, serverSession.listen⟩ lostAckRun).any fun c =>
      decide (c.a.state = .established ∧ c.b.state = .synReceived) &&
      c.b.sent.getLast?.any fun d =>
        decide (verifyChecksum d.packet = true ∧ d.packet.has flagRst = false ∧
          0 < seqLength d.packet ∧
          seqLength d.packet ≤ (c.a.recvWindow.recvNext - d.packet.seq).toNat) &&
        (c.a.input d.packet 0).any fun a' => (newDatagrams c.a a').isEmpty) = true := by
    decide +kernel
  rcases (Option.any_eq_true _ _).mp hrun with ⟨c, hc, hfacts⟩
  rw [Bool.and_eq_true, decide_eq_true_eq] at hfacts
  rcases hfacts with ⟨⟨ha, hb⟩, hlast⟩
  rcases (Option.any_eq_true _ _).mp hlast with ⟨d, hd, hdelivered⟩
  rw [Bool.and_eq_true, decide_eq_true_eq] at hdelivered
  rcases hdelivered with ⟨⟨hverify, hreset, hoccupies, hbelow⟩, hinput⟩
  rcases (Option.any_eq_true _ _).mp hinput with ⟨a', ha', hempty⟩
  have hnothing : newDatagrams c.a a' = [] := List.isEmpty_iff.mp hempty
  refine ⟨c, hc, ha, hb, d, hd, ⟨hverify, hreset, hoccupies, hbelow⟩, ?_, a', ha', hnothing⟩
  rintro ⟨s', hs', packet, hpacket, -⟩
  rw [ha', Option.some.injEq] at hs'
  rw [← hs', hnothing] at hpacket
  contradiction

end Connection

end MyuTcp
