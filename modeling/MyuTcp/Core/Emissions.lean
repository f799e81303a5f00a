import MyuTcp.Core.Timers

/-!
# Emitted segments

What the packets look like that a session hands to the driver.

Main results:

- Theorem {lit}`Move.sends`: a move that is no expiry sends nothing or one stamped segment,
  which acknowledges {lit}`recv_next_` and carries nothing, buffered bytes or a segment in
  flight.
- Theorem {lit}`Move.stores`: what a move leaves in flight.
- Theorem {lit}`packets_step`: a property of packets that sending establishes and a refresh
  keeps holds of all packets sent and of all packets that timers hold.
-/

namespace MyuTcp

open Library

namespace TcpSession

/-- What a segment of the session may carry. -/
inductive Carries (s : TcpSession) : List UInt8 → Prop
  | empty : Carries s []
  | buffered (offset n : Nat) : Carries s ((s.sendBuffer.toList.drop offset).take n)
  | inflight {k : UInt32} {packet : MyuTcpPacket}
      (hfind : s.inflightPackets.find? k = some packet) : Carries s packet.payload

/-- Nothing is sent, or one segment that acknowledges {lit}`recv_next_`. -/
def Sends (s a b : TcpSession) : Prop :=
  b.sent = a.sent ∨ ∃ t : TcpSession, ∃ flags payload,
    b.sent = a.sent ++ [t.datagram flags b.recvWindow.recvNext payload] ∧ s.Carries payload

section Sends

variable {s a b : TcpSession}

/-- A control packet carries no byte. -/
theorem sends_of_control (t : TcpSession) (flags : UInt8)
    (h : b.sent = a.sent ++ [t.datagram flags b.recvWindow.recvNext []]) : Sends s a b :=
  Or.inr ⟨t, flags, [], h, .empty⟩

/-- {lit}`_handle_try_send` takes its payloads from the send buffer. -/
theorem sends_handleTrySend (s : TcpSession) : Sends s s s.handleTrySend := by
  by_cases htransmits : s.Transmits
  · rw [s.handleTrySend_of_transmits htransmits]
    exact Or.inr ⟨s, flagAck, s.nextPayload, rfl, .buffered _ _⟩
  · rw [s.handleTrySend_of_not htransmits]
    exact Or.inl rfl

/-- An acknowledgment only removes entries. -/
theorem find?_releaseAcked {ackNum k : UInt32} {packet : MyuTcpPacket}
    (h : (s.releaseAcked ackNum).inflightPackets.find? k = some packet) :
    s.inflightPackets.find? k = some packet := by
  rw [releaseAcked, OrderedMap.find?_dropBelow] at h
  split at h
  · contradiction
  · exact h

/-- An acknowledgment sends at most a packet that is in flight. -/
theorem sends_processAck (s : TcpSession) (ackNum : UInt32) :
    Sends s s (s.processAck ackNum) := by
  by_cases hthird : s.ThirdDuplicate ackNum
  · obtain ⟨c, d, hframe⟩ := (s.releaseAcked ackNum).countDupAck_frame ackNum
    have heq : ((s.releaseAcked ackNum).countDupAck ackNum).dupAckCount = 3 := by
      rw [(s.countDupAck_releaseAcked ackNum).1]
      exact hthird
    rw [processAck, fastRetransmit, if_pos heq, hframe, onRecvThreeDupAck]
    dsimp only
    split
    · rename_i packet hfind
      have hinflight : s.inflightPackets.find? ackNum = some packet := find?_releaseAcked hfind
      by_cases hnil : packet.payload = []
      · rw [sendPayloadPacket, if_pos (by simp [hnil])]
        exact Or.inl rfl
      · rw [sendPayloadPacket_eq _ hnil]
        exact Or.inr ⟨_, _, _, rfl, .inflight hinflight⟩
    · exact Or.inl rfl
  · rw [s.processAck_of_not hthird]
    exact Or.inl rfl

/-- A transmission stores its own segment at most. -/
theorem inflightPackets_sendPayloadPacket {payload : List UInt8} {flags : UInt8} {k : UInt32}
    {packet : MyuTcpPacket}
    (h : (s.sendPayloadPacket payload flags).inflightPackets.find? k = some packet) :
    s.inflightPackets.find? k = some packet ∨
      packet = s.segment flags s.recvWindow.recvNext payload := by
  by_cases hnil : payload = []
  · rw [sendPayloadPacket, if_pos (by simp [hnil])] at h
    exact Or.inl h
  · rw [sendPayloadPacket_eq _ hnil, OrderedMap.find?_tryEmplace] at h
    split at h <;> rename_i hk
    · subst hk
      cases hold : s.inflightPackets.find? (htonl s.sendWindow.sendNext) with
      | none =>
          rw [hold, Option.getD_none, Option.some.injEq] at h
          exact Or.inr h.symm
      | some old =>
          rw [hold, Option.getD_some] at h
          exact Or.inl h
    · exact Or.inl h

/-- A packet in flight, a copy of one, or the data segment of a send attempt. -/
inductive Stores (s : TcpSession) (packet : MyuTcpPacket) : Prop
  | kept {k : UInt32} {p : MyuTcpPacket} (hfind : s.inflightPackets.find? k = some p)
      (hpayload : packet.payload = p.payload) (hflags : packet.header.flags = p.header.flags)
  | transmitted (htransmits : s.Transmits) (hpayload : packet.payload = s.nextPayload)
      (hflags : packet.header.flags = flagAck)

/-- The payload of a stored packet is one that may be sent. -/
theorem Stores.carries {packet : MyuTcpPacket} (h : s.Stores packet) :
    s.Carries packet.payload := by
  cases h with
  | kept hfind hpayload hflags =>
      rw [hpayload]
      exact .inflight hfind
  | transmitted htransmits hpayload hflags =>
      rw [hpayload]
      exact .buffered _ _

/-- A packet in flight is stored. -/
theorem stores_of_find? {k : UInt32} {packet : MyuTcpPacket}
    (h : s.inflightPackets.find? k = some packet) : s.Stores packet :=
  .kept h rfl rfl

/-- {lit}`_handle_try_send` stores the packets it sends. -/
theorem stores_handleTrySend {k : UInt32} {packet : MyuTcpPacket}
    (h : s.handleTrySend.inflightPackets.find? k = some packet) : s.Stores packet := by
  by_cases htransmits : s.Transmits
  · rw [s.handleTrySend_of_transmits htransmits,
      ← sendPayloadPacket_eq s (s.nextPayload_ne_nil htransmits)] at h
    rcases inflightPackets_sendPayloadPacket h with hold | hnew
    · exact stores_of_find? hold
    · rw [hnew]
      exact .transmitted htransmits rfl (segment_flags _ _ _ _)
  · rw [s.handleTrySend_of_not htransmits] at h
    exact stores_of_find? h

/-- A fast retransmit stores a copy of a segment that is in flight. -/
theorem stores_fastRetransmit {ackNum k : UInt32} {packet : MyuTcpPacket}
    (h : (s.fastRetransmit ackNum).inflightPackets.find? k = some packet) :
    ∃ j p, s.inflightPackets.find? j = some p ∧ packet.payload = p.payload ∧
      packet.header.flags = p.header.flags := by
  rw [fastRetransmit] at h
  split at h
  · dsimp only at h
    rw [onRecvThreeDupAck] at h
    dsimp only at h
    split at h
    · rename_i p hp
      rcases inflightPackets_sendPayloadPacket h with hold | hnew
      · exact ⟨k, packet, hold, rfl, rfl⟩
      · exact ⟨ackNum, p, hp, by rw [hnew, segment_payload], by rw [hnew, segment_flags]⟩
    · exact ⟨k, packet, h, rfl, rfl⟩
  · exact ⟨k, packet, h, rfl, rfl⟩

/-- An acknowledgment stores nothing new. -/
theorem stores_processAck {ackNum k : UInt32} {packet : MyuTcpPacket}
    (h : (s.processAck ackNum).inflightPackets.find? k = some packet) : s.Stores packet := by
  rcases stores_fastRetransmit (s := (s.releaseAcked ackNum).countDupAck ackNum) h with
    ⟨j, p, hp, hpayload, hflags⟩
  have hcount : ((s.releaseAcked ackNum).countDupAck ackNum).inflightPackets =
      (s.releaseAcked ackNum).inflightPackets := by
    rcases (s.releaseAcked ackNum).countDupAck_frame ackNum with ⟨c, d, hframe⟩
    rw [hframe]
  rw [hcount] at hp
  exact .kept (find?_releaseAcked hp) hpayload hflags

end Sends

/-- A move that is no expiry sends nothing or one segment. -/
theorem Move.sends {s₀ a b : TcpSession} {e : Event} (hexpire : ∀ k, e ≠ .expire k)
    (hmove : Move s₀ e a b) : Sends a a b := by
  cases hmove with
  | connect iss => rw [connect_eq]; exact sends_of_control _ _ rfl
  | trySend s => exact sends_handleTrySend _
  | closeEstablished hstate => rw [closeEstablished_eq]; exact sends_of_control _ _ rfl
  | closeCloseWait s hstate => rw [closeCloseWait_eq]; exact sends_of_control _ _ rfl
  | abortOpening hstate => rw [abortOpening_eq]; exact sends_of_control _ _ rfl
  | passiveOpen hstate hsyn => rw [handleListen_eq _ hsyn]; exact sends_of_control _ _ rfl
  | synAck hstate hsyn hflag hack => rw [acceptSynAck_eq]; exact sends_of_control _ _ rfl
  | peerSyn hstate hsyn hflag => rw [acceptPeerSyn_eq]; exact sends_of_control _ _ rfl
  | ack haccepts => exact sends_processAck _ _
  | pureAck s hstate => exact sends_of_control _ _ rfl
  | inOrder s hstate hseq hdrain =>
      apply Or.inl
      rw [reassemble, acceptPayload]
      split <;> rfl
  | outOfOrder s hstate hseq =>
      apply Or.inl
      rw [storeOutOfOrder]
      split <;> rfl
  | fin s hfin hnext horder => exact sends_of_control _ _ rfl
  | finishCloseWait s hstate =>
      by_cases hdrained : a.Drained
      · rw [finishCloseWait_of_drained _ hdrained]
        exact sends_of_control _ _ rfl
      · rw [finishCloseWait_of_not _ hdrained]
        exact Or.inl rfl
  | expire hactive => exact absurd rfl (hexpire _)
  | _ => exact Or.inl rfl

/-- A move leaves in flight what was, copies of it, and what it transmits. -/
theorem Move.stores {s₀ a b : TcpSession} {e : Event} (hmove : Move s₀ e a b) {k : UInt32}
    {packet : MyuTcpPacket} (h : b.inflightPackets.find? k = some packet) : a.Stores packet := by
  cases hmove with
  | connect iss => rw [connect_eq] at h; exact stores_of_find? h
  | trySend s => exact stores_handleTrySend h
  | closeEstablished hstate => rw [closeEstablished_eq] at h; exact stores_of_find? h
  | closeCloseWait s hstate => rw [closeCloseWait_eq] at h; exact stores_of_find? h
  | abortOpening hstate => rw [abortOpening_eq] at h; exact stores_of_find? h
  | passiveOpen hstate hsyn => rw [handleListen_eq _ hsyn] at h; exact stores_of_find? h
  | synAck hstate hsyn hflag hack => rw [acceptSynAck_eq] at h; exact stores_of_find? h
  | peerSyn hstate hsyn hflag => rw [acceptPeerSyn_eq] at h; exact stores_of_find? h
  | ack haccepts => exact stores_processAck h
  | @inOrder packet iss s drained hstate hseq hdrain =>
      rw [reassemble, acceptPayload] at h
      split at h <;> exact stores_of_find? h
  | outOfOrder s hstate hseq =>
      rw [storeOutOfOrder] at h
      split at h <;> exact stores_of_find? h
  | finishCloseWait s hstate =>
      by_cases hdrained : a.Drained
      · rw [finishCloseWait_of_drained _ hdrained] at h
        exact stores_of_find? h
      · rw [finishCloseWait_of_not _ hdrained] at h
        exact stores_of_find? h
  | @expire k t hactive =>
      by_cases hlimit : t.callback.retransmitCount + 1 ≥ maxRetransmitCount
      · rw [runClosure_of_limit _ hlimit] at h
        exact stores_of_find? h
      · rw [runClosure_of_lt _ hlimit] at h
        exact stores_of_find? h
  | _ => exact stores_of_find? h

/-! ## Packets of a session -/

/-- All packets that the session has sent, and that its active timers hold, have a property. -/
structure AllPackets (P : MyuTcpPacket → Prop) (s : TcpSession) : Prop where
  sent : ∀ d ∈ s.sent, P d.packet
  timers : ∀ k t, s.timerManager.activeAt k = some t → P t.callback.packet

/-- An expiry sends the packet of its timer, with new acknowledgment, window and checksum. -/
theorem newDatagrams_expire {s s' : TcpSession} {k : UInt32} (h : s.expire k = some s')
    {d : Datagram} (hd : d ∈ newDatagrams s s') :
    ∃ t, s.timerManager.activeAt k = some t ∧ d.packet = s.refreshPacket t.callback.packet ∧
      d.destIp = t.callback.capturedIp ∧ d.destPort = t.callback.capturedPort := by
  rcases expire_eq_some_iff.mp h with ⟨t, hactive, rfl⟩
  by_cases hlimit : t.callback.retransmitCount + 1 ≥ maxRetransmitCount
  · rw [runClosure_of_limit _ hlimit] at hd
    unfold newDatagrams at hd
    simp at hd
  · rw [runClosure_of_lt _ hlimit] at hd
    unfold newDatagrams at hd
    rw [List.drop_left, List.mem_singleton] at hd
    subst hd
    exact ⟨t, hactive, rfl, rfl, rfl⟩

section Steps

variable {P : MyuTcpPacket → Prop} {s s' : TcpSession} {e : Event}

/-- An expiry sends and holds refreshed packets. -/
theorem packets_expire {k : UInt32} (hs : AllPackets P s) (hkeyed : s.Keyed)
    (h : s.expire k = some s') (hrefresh : ∀ packet, P packet → P (s.refreshPacket packet)) :
    AllPackets P s' := by
  have hstep : step s (.expire k) = some s' := h
  constructor
  · intro d hd
    rw [sent_eq_append (sent_prefix_step hstep), List.mem_append] at hd
    rcases hd with hd | hd
    · exact hs.sent d hd
    · rcases newDatagrams_expire h hd with ⟨t, hactive, hpacket, -⟩
      rw [hpacket]
      exact hrefresh _ (hs.timers k t hactive)
  · intro j t' ht'
    rcases expire_eq_some_iff.mp h with ⟨t, hactive, -⟩
    rcases activeAt_expire hactive (hkeyed k t hactive) h ht' with
      ⟨-, hold⟩ | ⟨-, -, hpacket, -⟩
    · exact hs.timers j t' hold
    · rw [hpacket]
      exact hrefresh _ (hs.timers k t hactive)

/-- Any other step holds old packets and what it sends. -/
theorem packets_step_of_ne (hs : AllPackets P s) (hexpire : ∀ k, e ≠ .expire k)
    (h : step s e = some s') (hnew : ∀ d ∈ newDatagrams s s', P d.packet) :
    AllPackets P s' := by
  constructor
  · intro d hd
    rw [sent_eq_append (sent_prefix_step h), List.mem_append] at hd
    rcases hd with hd | hd
    · exact hs.sent d hd
    · exact hnew d hd
  · intro j t' ht'
    rcases (step_grows hexpire h).timers j t' ht' with hold | harmed
    · exact hs.timers j t' hold
    · rcases harmed.sent with ⟨d, hd, hpacket⟩
      rw [← hpacket]
      exact hnew d hd

/-- A property that sending establishes and a refresh keeps is kept by a step. -/
theorem packets_step (hs : AllPackets P s) (hkeyed : s.Keyed) (h : step s e = some s')
    (hnew : (∀ k, e ≠ .expire k) → ∀ d ∈ newDatagrams s s', P d.packet)
    (hrefresh : ∀ packet, P packet → P (s.refreshPacket packet)) : AllPackets P s' := by
  by_cases hexpire : ∃ k, e = .expire k
  · rcases hexpire with ⟨k, rfl⟩
    exact packets_expire hs hkeyed h hrefresh
  · rw [not_exists] at hexpire
    exact packets_step_of_ne hs hexpire h (hnew hexpire)

/-- A step that sends nothing. -/
theorem packets_step_of_quiet (hs : AllPackets P s) (hexpire : ∀ k, e ≠ .expire k)
    (h : step s e = some s') (hsent : s'.sent = s.sent) : AllPackets P s' := by
  refine packets_step_of_ne hs hexpire h fun d hd => ?_
  rw [newDatagrams, hsent, List.drop_length] at hd
  contradiction

/-- A step that sends one packet. -/
theorem packets_step_of_single {d : Datagram} (hs : AllPackets P s) (hexpire : ∀ k, e ≠ .expire k)
    (h : step s e = some s') (hsent : s'.sent = s.sent ++ [d]) (hd : P d.packet) :
    AllPackets P s' := by
  refine packets_step_of_ne hs hexpire h fun d' hd' => ?_
  rw [newDatagrams_of_append hsent, List.mem_singleton] at hd'
  rw [hd']
  exact hd

end Steps

/-- A session that has sent nothing and has no active timer has no packets. -/
theorem allPackets_of_unsent {P : MyuTcpPacket → Prop} {s : TcpSession} (hsent : s.sent = [])
    (htimers : ∀ k, s.timerManager.activeAt k = none) : AllPackets P s where
  sent d hd := by
    rw [hsent] at hd
    contradiction
  timers k t ht := by
    rw [htimers k] at ht
    contradiction

/-- Log and timers hold all packets. -/
theorem AllPackets.of_eq {P : MyuTcpPacket → Prop} {s s' : TcpSession} (h : AllPackets P s)
    (hsent : s'.sent = s.sent) (htimers : s'.timerManager = s.timerManager) :
    AllPackets P s' where
  sent := hsent ▸ h.sent
  timers := htimers ▸ h.timers

/-- A weaker property holds of all packets as well. -/
theorem AllPackets.mono {P Q : MyuTcpPacket → Prop} {s : TcpSession} (h : AllPackets P s)
    (hle : ∀ packet, P packet → Q packet) : AllPackets Q s where
  sent d hd := hle _ (h.sent d hd)
  timers k t ht := hle _ (h.timers k t ht)

end TcpSession

end MyuTcp
