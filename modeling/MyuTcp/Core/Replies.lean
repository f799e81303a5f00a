import MyuTcp.Core.StateMachine
import MyuTcp.Library.SequenceSpace

/-!
# Replies to packets

What a received packet makes a session send.  A packet moves the session closer to CLOSED,
is an accepted acknowledgment, makes it transmit buffered data, or is answered by one pure
acknowledgment at most.

Main results:

- Theorem {lit}`reply_input`: the possible replies.
- Theorem {lit}`echo_input`: a session in CLOSE_WAIT that has not finished answers every packet
  that it admits, and stays so.
-/

namespace MyuTcp

open Library

/-- The order in which packets alone can take a session through its states. -/
def TcpState.rank : TcpState → Nat
  | .closed => 0
  | .lastAck => 1
  | .timeWait => 2
  | .closeWait => 3
  | .finWait2 => 4
  | .finWait1 => 5
  | .established => 6
  | .synReceived => 7
  | .synSent => 8
  | .listen => 9

namespace TcpSession

/-- Bytes that are buffered and not in flight. -/
def unsent (s : TcpSession) : Nat := s.sendBuffer.size - s.inflight.toNat

/-- The session is in CLOSE_WAIT and is not ready to send its FIN. -/
def Echoes (s : TcpSession) : Prop := s.state = .closeWait ∧ ¬ s.Drained

instance (s : TcpSession) : Decidable s.Echoes := inferInstanceAs (Decidable (_ ∧ _))

/-- A packet without data and without FIN. -/
def IsPlain (packet : MyuTcpPacket) : Prop :=
  packet.payload = [] ∧ packet.has flagFin = false

instance (packet : MyuTcpPacket) : Decidable (IsPlain packet) :=
  inferInstanceAs (Decidable (_ ∧ _))

section Replies

variable {s s' : TcpSession} {packet : MyuTcpPacket} {iss : UInt32}

/-! ## Transmissions -/

/-- A transmission leaves fewer bytes unsent. -/
theorem unsent_handleTrySend (h : s.Transmits) : s.handleTrySend.unsent < s.unsent := by
  have hpos := List.length_pos_iff.mpr (s.nextPayload_ne_nil h)
  have hlt := h.2.2
  unfold unsent
  rw [handleTrySend_sendBuffer, toNat_inflight_handleTrySend _ h]
  omega

/-! ## Replies -/

/-- What a session may still send by itself is as before. -/
structure Unmoved (s s' : TcpSession) : Prop where
  state : s'.state = s.state
  sendUnack : s'.sendWindow.sendUnack = s.sendWindow.sendUnack
  unsent : s'.unsent = s.unsent
  echoes : s'.Echoes ↔ s.Echoes

/-- State, window, buffer and flag decide. -/
theorem unmoved_of_eq (hstate : s'.state = s.state) (hwindow : s'.sendWindow = s.sendWindow)
    (hbuffer : s'.sendBuffer = s.sendBuffer) (hclose : s'.userWantToClose = s.userWantToClose) :
    Unmoved s s' where
  state := hstate
  sendUnack := by rw [hwindow]
  unsent := by rw [TcpSession.unsent, TcpSession.unsent, inflight, inflight, hwindow, hbuffer]
  echoes := by rw [Echoes, Echoes, Drained, Drained, hstate, hwindow, hbuffer, hclose]

/-- What two moves leave, both together leave. -/
theorem Unmoved.trans {a b c : TcpSession} (hab : Unmoved a b) (hbc : Unmoved b c) :
    Unmoved a c where
  state := hbc.state.trans hab.state
  sendUnack := hbc.sendUnack.trans hab.sendUnack
  unsent := hbc.unsent.trans hab.unsent
  echoes := hbc.echoes.trans hab.echoes

/-- The effect of a packet on a session and on what the session sends. -/
inductive Reply (s : TcpSession) (packet : MyuTcpPacket) (s' : TcpSession) : Prop
  | left (hrank : s'.state.rank < s.state.rank)
  | acked (hstate : s'.state = s.state)
      (hunack : s.sendWindow.sendUnack < s'.sendWindow.sendUnack)
  | transmitted (hstate : s'.state = s.state)
      (hunack : s'.sendWindow.sendUnack = s.sendWindow.sendUnack)
      (hunsent : s'.unsent < s.unsent)
  | silent (hunmoved : Unmoved s s') (hsent : s'.sent = s.sent)
  | replied (hunmoved : Unmoved s s') {d : Datagram} (hsent : s'.sent = s.sent ++ [d])
      (hplain : IsPlain d.packet) (hadmitted : Admitted packet)
      (hcause : ¬ IsPlain packet ∨ s.Echoes)

/-- A state of lower rank. -/
theorem reply_left {a b : TcpState} (hstate : s.state = a) (hnext : s'.state = b)
    (hrank : b.rank < a.rank) : Reply s packet s' :=
  .left (by rw [hstate, hnext]; exact hrank)

/-- A pure acknowledgment is plain. -/
theorem isPlain_pureAck (t : TcpSession) (ackNum : UInt32) :
    IsPlain (t.datagram flagAck ackNum []).packet :=
  ⟨datagram_payload _ _ _ _, by rw [datagram_has]; decide⟩

/-- The window that a packet advertises moves nothing. -/
theorem unmoved_observe (s : TcpSession) (packet : MyuTcpPacket) : Unmoved s (s.observe packet) :=
  unmoved_of_eq rfl rfl rfl rfl

/-- The payload part of {lit}`handle_established` answers data with one acknowledgment. -/
theorem handleEstablishedPayload_reply (h : s.handleEstablishedPayload packet = some s') :
    Unmoved s s' ∧ (s'.sent = s.sent ∨ (packet.payload ≠ [] ∧
      ∃ t ackNum, s'.sent = s.sent ++ [datagram t flagAck ackNum []])) := by
  by_cases hpayload : packet.payload = []
  · rw [handleEstablishedPayload_nil hpayload] at h
    cases h
    exact ⟨unmoved_of_eq rfl rfl rfl rfl, Or.inl rfl⟩
  · rcases handleEstablishedPayload_frame hpayload h with ⟨m, q, n, t, ackNum, c, -, rfl⟩
    exact ⟨unmoved_of_eq rfl rfl rfl rfl, Or.inr ⟨hpayload, t, ackNum, rfl⟩⟩

/-- The reply to a payload in ESTABLISHED. -/
theorem reply_of_payload (hadmitted : Admitted packet)
    (h : s.handleEstablishedPayload packet = some s') : Reply s packet s' := by
  rcases handleEstablishedPayload_reply h with ⟨hunmoved, hsent | ⟨hpayload, t, ackNum, hsent⟩⟩
  · exact .silent hunmoved hsent
  · exact .replied hunmoved hsent (isPlain_pureAck t ackNum) hadmitted
      (Or.inl fun hplain => hpayload hplain.1)

/-- The reply to a packet in ESTABLISHED. -/
theorem reply_handleEstablished (hadmitted : Admitted packet) (hstate : s.state = .established)
    (h : s.handleEstablished packet = some s') : Reply s packet s' := by
  rw [handleEstablished] at h
  rcases Option.map_eq_some_iff.mp h with ⟨s₂, hs₂, rfl⟩
  rw [handleEstablishedFin]
  split <;> rename_i hfin
  · exact reply_left (b := .closeWait) hstate rfl (by decide)
  · split at hs₂ <;> rename_i hflag
    · rw [handleAck] at hs₂
      split at hs₂ <;> rename_i haccepts
      · have hunmoved := (handleEstablishedPayload_reply hs₂).1
        apply Reply.acked
        · rw [hunmoved.state, handleTrySend_state, handleTrySend_state, processAck_state]
        · rw [hunmoved.sendUnack, handleTrySend_sendUnack, handleTrySend_sendUnack,
            processAck_sendUnack]
          rw [acceptsAck, Bool.and_eq_true, decide_eq_true_eq] at haccepts
          exact haccepts.1
      · dsimp only at hs₂
        by_cases htransmits : s.Transmits
        · have hunmoved := (handleEstablishedPayload_reply hs₂).1
          apply Reply.transmitted
          · rw [hunmoved.state, handleTrySend_state]
          · rw [hunmoved.sendUnack, handleTrySend_sendUnack]
          · rw [hunmoved.unsent]
            exact unsent_handleTrySend htransmits
        · rw [handleTrySend_of_not _ htransmits] at hs₂
          exact reply_of_payload hadmitted hs₂
    · exact reply_of_payload hadmitted hs₂

/-- A packet in CLOSE_WAIT finishes the session, makes it transmit, or is answered. -/
theorem reply_handleCloseWait (hadmitted : Admitted packet) (hstate : s.state = .closeWait) :
    Reply s packet (s.handleCloseWait packet) := by
  have hsame : (s.sendPureAck s.recvWindow.recvNext).handleTrySend.Drained ↔ s.Drained :=
    drained_handleTrySend_iff _
  rw [handleCloseWait]
  by_cases hdrained : s.Drained
  · rw [finishCloseWait_of_drained _ (hsame.mpr hdrained)]
    exact reply_left (b := .lastAck) hstate rfl (by decide)
  · rw [finishCloseWait_of_not _ (mt hsame.mp hdrained)]
    by_cases htransmits : (s.sendPureAck s.recvWindow.recvNext).Transmits
    · apply Reply.transmitted
      · exact handleTrySend_state _
      · exact handleTrySend_sendUnack _
      · exact unsent_handleTrySend htransmits
    · rw [handleTrySend_of_not _ htransmits]
      exact .replied (unmoved_of_eq rfl rfl rfl rfl) rfl (isPlain_pureAck _ _) hadmitted
        (Or.inr ⟨hstate, hdrained⟩)

/-- A FIN is answered, and anything else is not, in the states that wait for one only. -/
theorem reply_handleTimedWait (s : TcpSession) (hadmitted : Admitted packet) :
    Reply s packet (s.handleTimedWait packet) := by
  rw [handleTimedWait]
  split <;> rename_i hfin
  · refine .replied (unmoved_of_eq rfl rfl rfl rfl) rfl (isPlain_pureAck _ _) hadmitted
      (Or.inl ?_)
    intro hplain
    rw [hplain.2] at hfin
    contradiction
  · exact .silent (unmoved_of_eq rfl rfl rfl rfl) rfl

/-- The reply to an admitted packet in any state. -/
theorem reply_dispatch (hadmitted : Admitted packet) (h : s.dispatch packet iss = some s') :
    Reply s packet s' := by
  have hquiet : Reply s packet s := .silent (unmoved_of_eq rfl rfl rfl rfl) rfl
  rw [dispatch] at h
  split at h <;> rename_i hstate
  case h_5 => exact reply_handleEstablished hadmitted hstate h
  all_goals cases h
  · have hechoes : ∀ t : TcpSession, t.state = .closed → ¬ t.Echoes := by
      intro t ht hechoes
      have hcloseWait := hechoes.1
      rw [ht] at hcloseWait
      contradiction
    exact .silent ⟨rfl, rfl, rfl, iff_of_false (hechoes _ hstate) (hechoes _ hstate)⟩ rfl
  · by_cases hsyn : packet.has flagSyn = true
    · rw [handleListen_eq _ hsyn]
      exact reply_left (b := .synReceived) hstate rfl (by decide)
    · rw [handleListen, if_pos (by simpa using hsyn)]
      exact hquiet
  · rw [handleSynSent]
    split
    · split
      · exact hquiet
      · exact reply_left (b := .established) hstate (handleTrySend_state _) (by decide)
    · split
      · rw [acceptPeerSyn_eq]
        exact reply_left (b := .synReceived) hstate rfl (by decide)
      · exact hquiet
  · rw [handleSynReceived]
    split
    · exact hquiet
    · split
      · exact hquiet
      · exact reply_left (b := .established) hstate (handleTrySend_state _) (by decide)
  · rw [handleFinWait1]
    split
    · exact reply_left (b := .closeWait) hstate rfl (by decide)
    · rw [handleFinWait1Ack]
      split
      · exact reply_left (b := .finWait2) hstate rfl (by decide)
      · exact hquiet
  · rw [handleFinWait2]
    split
    · exact reply_left (b := .timeWait) hstate rfl (by decide)
    · exact hquiet
  · exact reply_handleCloseWait hadmitted hstate
  · rw [handleLastAck]
    split
    · exact hquiet
    · split
      · exact hquiet
      · exact reply_left (b := .closed) hstate rfl (by decide)
  · exact reply_handleTimedWait s hadmitted

/-- Observing the advertised window makes no difference to a reply. -/
theorem Reply.of_observe (h : Reply (s.observe packet) packet s') : Reply s packet s' := by
  cases h with
  | left hrank => exact .left hrank
  | acked hstate hunack => exact .acked hstate hunack
  | transmitted hstate hunack hunsent => exact .transmitted hstate hunack hunsent
  | silent hunmoved hsent => exact .silent ((unmoved_observe s packet).trans hunmoved) hsent
  | replied hunmoved hsent hplain hadmitted hcause =>
      exact .replied ((unmoved_observe s packet).trans hunmoved) hsent hplain hadmitted hcause

/-- The possible replies to a packet. -/
theorem reply_input (h : step s (.input packet iss) = some s') : Reply s packet s' := by
  have hquiet : Reply s packet s := .silent (unmoved_of_eq rfl rfl rfl rfl) rfl
  rcases input_cases h with ⟨-, -, rfl⟩ | ⟨-, rfl⟩ | ⟨-, -, rfl⟩ | ⟨hadmitted, h⟩
  · exact hquiet
  · exact hquiet
  · by_cases hstate : s.state = .closed
    · exact .silent (unmoved_of_eq hstate.symm rfl rfl rfl) rfl
    · apply Reply.left
      cases hrank : s.state with
      | closed => exact absurd hrank hstate
      | _ => exact Nat.succ_pos _
  · exact (reply_dispatch hadmitted h).of_observe

/-- A session in CLOSE_WAIT that has not finished answers every packet that it admits, and
stays so. -/
theorem echo_input (hechoes : s.Echoes) (hadmitted : Admitted packet) (iss : UInt32) :
    ∃ s' d, step s (.input packet iss) = some s' ∧ s'.Echoes ∧ d ∈ newDatagrams s s' ∧
      Admitted d.packet := by
  rcases hechoes with ⟨hstate, hdrained⟩
  have hanswer := (s.observe packet).sendPureAck_eq s.recvWindow.recvNext
  have hsame : ((s.observe packet).sendPureAck s.recvWindow.recvNext).handleTrySend.Drained ↔
      s.Drained :=
    drained_handleTrySend_iff _
  have hprefix := sent_prefix_handleTrySend ((s.observe packet).sendPureAck s.recvWindow.recvNext)
  refine ⟨((s.observe packet).sendPureAck s.recvWindow.recvNext).handleTrySend,
    (s.observe packet).datagram flagAck s.recvWindow.recvNext [], ?_, ⟨?_, mt hsame.mp hdrained⟩,
    ?_, ?_⟩
  · rw [step, input_of_admitted hadmitted, dispatch,
      show (s.observe packet).state = .closeWait from hstate]
    dsimp only
    rw [handleCloseWait]
    exact congrArg some (finishCloseWait_of_not _ (mt hsame.mp hdrained))
  · rw [handleTrySend_state]
    exact hstate
  · rcases hprefix with ⟨l, hl⟩
    rw [newDatagrams, ← hl, hanswer, List.append_assoc]
    simp [observe, setPeerUsableWindowSize]
  · exact admitted_datagram _ _ (by decide) (by decide)

end Replies

end TcpSession

end MyuTcp
