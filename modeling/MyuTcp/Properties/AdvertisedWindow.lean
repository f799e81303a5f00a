import MyuTcp.Core.Receiving

/-!
# The advertised window

The window field of a packet tells the free part of the receive buffer, but a segment is kept
out of order only inside {lit}`recv_window_size_`, which is one byte.

Main results:

- Theorem {lit}`advertisedFits_step`: the window that a session has advertised last is still
  free.
- Theorem {lit}`advertised_kept_iff`: a segment inside the advertised window is kept exactly
  when it starts at {lit}`recv_next_`.
-/

namespace MyuTcp

open Library

namespace TcpSession

/-! ## Windows of packets -/

section Windows

variable (s : TcpSession)

/-- The advertised window is the room in the receive buffer. -/
theorem toNat_usableRecvWindow :
    (s.getUsableRecvWindowSize.toUInt16).toNat = 1024 - s.recvBuffer.size := by
  have hcap : s.recvBuffer.capacity = 1024 := rfl
  rw [getUsableRecvWindowSize, hcap, UInt32.toNat_toUInt16, UInt32.toNat_ofNat']
  omega

/-- Every packet advertises the room in the receive buffer. -/
@[simp]
theorem toNat_datagram_window (flags : UInt8) (ackNum : UInt32) (payload : List UInt8) :
    (s.datagram flags ackNum payload).packet.window.toNat = 1024 - s.recvBuffer.size := by
  rw [← s.toNat_usableRecvWindow]
  exact congrArg UInt16.toNat (ntohs_htons _)

/-- A packet that is sent again advertises the room of now. -/
@[simp]
theorem toNat_refreshPacket_window (packet : MyuTcpPacket) :
    (s.refreshPacket packet).window.toNat = 1024 - s.recvBuffer.size := by
  rw [← s.toNat_usableRecvWindow]
  exact congrArg UInt16.toNat (ntohs_htons _)

end Windows

/-- The window of the packet sent last is free. -/
def AdvertisedFits (s : TcpSession) : Prop :=
  ∀ d, s.sent.getLast? = some d → d.packet.window.toNat ≤ 1024 - s.recvBuffer.size

/-- Nothing is received, and what is sent advertises a window that is free. -/
structure Shrinks (a b : TcpSession) : Prop where
  size : b.recvBuffer.size ≤ a.recvBuffer.size
  sent : ∃ l, b.sent = a.sent ++ l ∧
    ∀ d ∈ l, d.packet.window.toNat ≤ 1024 - b.recvBuffer.size

section Shrinks

variable {s s' s₀ a b c : TcpSession} {e : Event}

/-- A step that stores and sends nothing. -/
theorem Shrinks.of_eq (hbuffer : b.recvBuffer = a.recvBuffer) (hsent : b.sent = a.sent) :
    Shrinks a b where
  size := by rw [hbuffer]
  sent := ⟨[], by rw [hsent, List.append_nil], by simp⟩

/-- A step that sends one packet. -/
theorem Shrinks.of_single {t : TcpSession} {flags : UInt8} {ackNum : UInt32}
    {payload : List UInt8} (hbuffer : b.recvBuffer = a.recvBuffer)
    (hsent : b.sent = a.sent ++ [t.datagram flags ackNum payload])
    (ht : t.recvBuffer = a.recvBuffer) : Shrinks a b where
  size := by rw [hbuffer]
  sent := by
    refine ⟨_, hsent, ?_⟩
    intro d hd
    rw [List.mem_singleton.mp hd, toNat_datagram_window, ht, hbuffer]

/-- Two such steps in a row. -/
theorem Shrinks.trans (hab : Shrinks a b) (hbc : Shrinks b c) : Shrinks a c where
  size := hbc.size.trans hab.size
  sent := by
    rcases hab.sent with ⟨l, hl, hfree⟩
    rcases hbc.sent with ⟨l', hl', hfree'⟩
    refine ⟨l ++ l', by rw [hl', hl, List.append_assoc], ?_⟩
    intro d hd
    rcases List.mem_append.mp hd with hd | hd
    · have hsize := hbc.size
      have hle := hfree d hd
      omega
    · exact hfree' d hd

/-- The advertised window stays within the room. -/
theorem AdvertisedFits.shrinks (h : AdvertisedFits a) (hab : Shrinks a b) : AdvertisedFits b := by
  rcases hab.sent with ⟨l, hl, hfree⟩
  intro d hd
  rw [hl] at hd
  by_cases hnil : l = []
  · rw [hnil, List.append_nil] at hd
    have hsize := hab.size
    have hle := h d hd
    omega
  · rw [List.getLast?_append_of_ne_nil _ hnil] at hd
    exact hfree d (List.mem_of_getLast? hd)

/-- {lit}`_handle_try_send` stores nothing received. -/
theorem shrinks_handleTrySend (s : TcpSession) : Shrinks s s.handleTrySend := by
  by_cases htransmits : s.Transmits
  · rw [s.handleTrySend_of_transmits htransmits]
    exact .of_single rfl rfl rfl
  · rw [s.handleTrySend_of_not htransmits]
    exact .of_eq rfl rfl

/-- An acknowledgment stores nothing received. -/
theorem shrinks_processAck (s : TcpSession) (ackNum : UInt32) :
    Shrinks s (s.processAck ackNum) := by
  by_cases hthird : s.ThirdDuplicate ackNum
  · rcases (s.releaseAcked ackNum).countDupAck_frame ackNum with ⟨c, d, hframe⟩
    have heq : ((s.releaseAcked ackNum).countDupAck ackNum).dupAckCount = 3 := by
      rw [(s.countDupAck_releaseAcked ackNum).1]
      exact hthird
    rw [processAck, fastRetransmit, if_pos heq, hframe, onRecvThreeDupAck]
    dsimp only
    split
    · rename_i packet hfind
      by_cases hnil : packet.payload = []
      · rw [sendPayloadPacket, if_pos (by simp [hnil])]
        exact .of_eq rfl rfl
      · rw [sendPayloadPacket_eq _ hnil]
        exact .of_single rfl rfl rfl
    · exact .of_eq rfl rfl
  · rw [s.processAck_of_not hthird]
    exact .of_eq rfl rfl

/-- Only a packet fills the receive buffer. -/
theorem Move.shrinks (hmove : Move s₀ e a b)
    (hinput : ∀ packet iss, e ≠ .input packet iss) : Shrinks a b := by
  cases hmove with
  | connect iss => rw [connect_eq]; exact .of_single rfl rfl rfl
  | trySend s => exact shrinks_handleTrySend a
  | read s hn =>
      refine ⟨?_, [], by rw [List.append_nil], by simp⟩
      dsimp only
      rw [size_readLoop hn]
      omega
  | closeEstablished hstate => rw [closeEstablished_eq]; exact .of_single rfl rfl rfl
  | closeCloseWait s hstate => rw [closeCloseWait_eq]; exact .of_single rfl rfl rfl
  | abortOpening hstate => rw [abortOpening_eq]; exact .of_single rfl rfl rfl
  | @expire k t hactive =>
      by_cases hlimit : t.callback.retransmitCount + 1 ≥ maxRetransmitCount
      · rw [runClosure_of_limit _ hlimit]
        exact .of_eq rfl rfl
      · rw [runClosure_of_lt _ hlimit]
        refine ⟨le_rfl, _, rfl, ?_⟩
        intro d hd
        rw [List.mem_singleton.mp hd, toNat_refreshPacket_window]
  | _ =>
      first
      | exact absurd rfl (hinput _ _)
      | exact .of_eq rfl rfl

variable {packet : MyuTcpPacket} {iss : UInt32}

/-- Outside ESTABLISHED a packet brings no payload. -/
theorem shrinks_dispatch (hstate : s.state ≠ .established)
    (h : (s.observe packet).dispatch packet iss = some s') : Shrinks s s' := by
  rw [dispatch] at h
  split at h <;> rename_i hcase <;> replace hcase : s.state = _ := hcase
  case h_5 => exact absurd hcase hstate
  all_goals cases h
  case h_1 => exact .of_eq rfl rfl
  case h_2 =>
    by_cases hsyn : packet.has flagSyn = true
    · rw [handleListen_eq _ hsyn]
      exact .of_single rfl rfl rfl
    · rw [handleListen, if_pos (by simpa using hsyn)]
      exact .of_eq rfl rfl
  case h_3 =>
    rw [handleSynSent]
    split
    · split
      · exact .of_eq rfl rfl
      · refine .trans ?_ (shrinks_handleTrySend _)
        rw [acceptSynAck_eq]
        exact .of_single rfl rfl rfl
    · split
      · rw [acceptPeerSyn_eq]
        exact .of_single rfl rfl rfl
      · exact .of_eq rfl rfl
  case h_4 =>
    rw [handleSynReceived]
    split
    · exact .of_eq rfl rfl
    · split
      · exact .of_eq rfl rfl
      · exact .trans (b := (s.observe packet).acceptSynReceivedAck packet) (.of_eq rfl rfl)
          (shrinks_handleTrySend _)
  case h_6 =>
    have hack : Shrinks s ((s.observe packet).handleFinWait1Ack packet) := by
      rw [handleFinWait1Ack]
      split <;> exact .of_eq rfl rfl
    rw [handleFinWait1]
    split
    · exact hack.trans (.of_single rfl rfl rfl)
    · exact hack
  case h_7 =>
    rw [handleFinWait2]
    split
    · exact .of_single rfl rfl rfl
    · exact .of_eq rfl rfl
  case h_8 =>
    have hanswer : Shrinks s
        ((s.observe packet).sendPureAck (s.observe packet).recvWindow.recvNext).handleTrySend :=
      .trans (b := (s.observe packet).sendPureAck (s.observe packet).recvWindow.recvNext)
        (.of_single rfl rfl rfl) (shrinks_handleTrySend _)
    rw [handleCloseWait]
    refine hanswer.trans ?_
    generalize ((s.observe packet).sendPureAck _).handleTrySend = t
    by_cases hdrained : t.Drained
    · rw [finishCloseWait_of_drained _ hdrained]
      exact .of_single rfl rfl rfl
    · rw [finishCloseWait_of_not _ hdrained]
      exact .of_eq rfl rfl
  case h_9 =>
    rw [handleLastAck]
    split
    · exact .of_eq rfl rfl
    · split <;> exact .of_eq rfl rfl
  case h_10 =>
    rw [handleTimedWait]
    split
    · exact .of_single rfl rfl rfl
    · exact .of_eq rfl rfl

/-- Nor does the first part of ESTABLISHED. -/
theorem shrinks_handleEstablishedAck (s : TcpSession) (packet : MyuTcpPacket) :
    Shrinks s (s.handleEstablishedAck packet) := by
  rw [handleEstablishedAck]
  split
  · refine .trans ?_ (shrinks_handleTrySend _)
    rw [handleAck]
    split
    · exact (shrinks_processAck _ _).trans (shrinks_handleTrySend _)
    · exact .of_eq rfl rfl
  · exact .of_eq rfl rfl

/-- Nor does a FIN. -/
theorem shrinks_handleEstablishedFin (s : TcpSession) (packet : MyuTcpPacket) :
    Shrinks s (handleEstablishedFin packet s) := by
  rw [handleEstablishedFin]
  split
  · exact .of_single rfl rfl rfl
  · exact .of_eq rfl rfl

end Shrinks

/-! ## Runs -/

section Runs

variable {s s' s₀ : TcpSession} {e : Event} {packet : MyuTcpPacket} {iss : UInt32}

/-- The acknowledgment that follows received payload advertises what is left. -/
theorem AdvertisedFits.payload (h : AdvertisedFits s) (hstored : NothingStored s)
    (hpayload : s.handleEstablishedPayload packet = some s') : AdvertisedFits s' := by
  by_cases hnil : packet.payload = []
  · rw [handleEstablishedPayload_nil hnil, Option.some.injEq] at hpayload
    rwa [← hpayload]
  · by_cases hseq : packet.seq = s.recvWindow.recvNext
    · rcases hstored.payload_inOrder hnil hseq with ⟨buffer, t, hhandle, ht, -⟩
      rw [hhandle, Option.some.injEq] at hpayload
      intro d hd
      rw [← hpayload, List.getLast?_concat, Option.some.injEq] at hd
      rw [← hd, toNat_datagram_window, ht, ← hpayload]
    · rw [hstored.payload_outOfOrder hnil hseq, Option.some.injEq] at hpayload
      rw [← hpayload]
      exact h.shrinks (.of_single rfl rfl rfl)

/-- The window that a session has advertised last is still free. -/
theorem advertisedFits_step (h : AdvertisedFits s) (hstored : NothingStored s)
    (hstep : step s e = some s') : AdvertisedFits s' := by
  by_cases hinput : ∃ packet iss, e = .input packet iss
  · rcases hinput with ⟨packet, iss, rfl⟩
    rcases input_cases hstep with ⟨-, -, rfl⟩ | ⟨-, rfl⟩ | ⟨-, -, rfl⟩ | ⟨hadmitted, hdispatch⟩
    · exact h
    · exact h
    · exact h.shrinks (.of_eq rfl rfl)
    · by_cases hstate : s.state = .established
      · rw [step, input_established hadmitted hstate, Option.map_eq_some_iff] at hstep
        rcases hstep with ⟨s₂, hpayload, rfl⟩
        have hobserve : Shrinks s (s.observe packet) := .of_eq rfl rfl
        have hack := h.shrinks (hobserve.trans (shrinks_handleEstablishedAck _ packet))
        exact (hack.payload ((keepsReceiving_ack s packet).nothingStored hstored)
          hpayload).shrinks (shrinks_handleEstablishedFin _ _)
      · exact h.shrinks (shrinks_dispatch hstate hdispatch)
  · apply (step_moves hstep).preserves _ h
    intro a b ha hmove
    apply ha.shrinks (hmove.shrinks _)
    intro packet iss heq
    exact hinput ⟨packet, iss, heq⟩

/-- In every reachable state the last advertised window fits. -/
theorem advertisedFits_reachable (h₀ : AdvertisedFits s₀) (hstored : NothingStored s₀)
    (hs : step.Reachable (fun _ _ => True) s₀ s) : AdvertisedFits s := by
  have hboth : NothingStored s ∧ AdvertisedFits s := by
    apply hs.invariant (P := fun t => NothingStored t ∧ AdvertisedFits t) ⟨hstored, h₀⟩
    intro t e t' ht _ hstep
    exact ⟨nothingStored_step ht.1 hstep, advertisedFits_step ht.2 ht.1 hstep⟩
  exact hboth.2

end Runs

/-! ## Segments inside the advertised window -/

/-- The packet sent last advertises {lit}`window` bytes from {lit}`recv_next_` on. -/
def Advertises (s : TcpSession) (window : Nat) : Prop :=
  ∃ d, s.sent.getLast? = some d ∧ d.packet.ack = s.recvWindow.recvNext ∧
    d.packet.window.toNat = window

/-- The packet has payload, all of it among the {lit}`window` bytes from {lit}`recv_next_` on,
where the sequence numbers do not wrap. -/
structure InsideAdvertised (s : TcpSession) (window : Nat) (packet : MyuTcpPacket) : Prop where
  admitted : Admitted packet
  payload : packet.payload ≠ []
  above : s.recvWindow.recvNext ≤ packet.seq
  within : packet.seq.toNat + packet.payload.length ≤ s.recvWindow.recvNext.toNat + window
  unwrapped : s.recvWindow.recvNext.toNat + window < 2 ^ 32

/-- The payload is appended to the receive buffer, or stored under its sequence number. -/
def KeepsPayload (s : TcpSession) (packet : MyuTcpPacket) (iss : UInt32) : Prop :=
  ∃ s', s.input packet iss = some s' ∧
    (s'.recvBuffer.toList = s.recvBuffer.toList ++ packet.payload ∨
      s'.oooMap.find? packet.seq = some packet.payload)

section Kept

variable {s s' : TcpSession} {packet : MyuTcpPacket} {iss : UInt32} {window : Nat}

/-- A FIN leaves what has been received as it is. -/
theorem handleEstablishedFin_received (packet : MyuTcpPacket) (s : TcpSession) :
    (handleEstablishedFin packet s).recvBuffer = s.recvBuffer ∧
      (handleEstablishedFin packet s).oooMap = s.oooMap := by
  rcases handleEstablishedFin_frame packet s with ⟨st, n, l, c, hfin⟩
  rw [hfin]
  exact ⟨rfl, rfl⟩

/-- An established session appends an in-order payload that fits. -/
theorem keepsPayload_of_inOrder (hstored : NothingStored s) (hstate : s.state = .established)
    (hadmitted : Admitted packet) (hpayload : packet.payload ≠ [])
    (hseq : packet.seq = s.recvWindow.recvNext)
    (hfits : s.recvBuffer.size + packet.payload.length ≤ 1024) : s.KeepsPayload packet iss := by
  have hinput := input_established hadmitted hstate iss
  have hkeeps := keepsReceiving_ack s packet
  generalize (s.observe packet).handleEstablishedAck packet = s₁ at hinput hkeeps
  have hseq₁ : packet.seq = s₁.recvWindow.recvNext := by rw [hkeeps.recvWindow, hseq]
  rcases (hkeeps.nothingStored hstored).payload_inOrder hpayload hseq₁ with
    ⟨buffer, t, hhandle, -, hbuffer⟩
  rw [hhandle, Option.map_some] at hinput
  refine ⟨_, hinput, Or.inl ?_⟩
  have hadmissible : s₁.admissible packet.payload = packet.payload := by
    rw [admissible, if_pos (by rwa [hkeeps.recvBuffer])]
  rw [(handleEstablishedFin_received packet _).1, hbuffer, hadmissible, hkeeps.recvBuffer]

/-- An established session drops every other payload. -/
theorem not_keepsPayload_of_outOfOrder (hstored : NothingStored s)
    (hstate : s.state = .established) (hadmitted : Admitted packet)
    (hpayload : packet.payload ≠ []) (hseq : packet.seq ≠ s.recvWindow.recvNext) :
    ¬ s.KeepsPayload packet iss := by
  have hinput := input_established hadmitted hstate iss
  have hkeeps := keepsReceiving_ack s packet
  generalize (s.observe packet).handleEstablishedAck packet = s₁ at hinput hkeeps
  have hstored₁ := hkeeps.nothingStored hstored
  rw [hstored₁.payload_outOfOrder hpayload (by rwa [hkeeps.recvWindow]), Option.map_some] at hinput
  rintro ⟨s', hs', hkept⟩
  rw [hinput, Option.some.injEq] at hs'
  rw [← hs', (handleEstablishedFin_received packet _).1,
    (handleEstablishedFin_received packet _).2] at hkept
  rcases hkept with happended | hmapped
  · change s₁.recvBuffer.toList = s.recvBuffer.toList ++ packet.payload at happended
    rw [hkeeps.recvBuffer] at happended
    exact hpayload (List.self_eq_append_right.mp happended)
  · change s₁.oooMap.find? packet.seq = some packet.payload at hmapped
    rw [OrderedMap.find?, hstored₁.oooMap] at hmapped
    contradiction

/-- For every established session that the API leads to, a segment inside the advertised window
is kept exactly when it starts at the expected number. -/
theorem advertised_kept_iff {initialSendSeq initialRecvSeq : UInt32}
    {listenerPort port : UInt16} {remoteIp : String} {remotePort : UInt16}
    (hs : step.Reachable (fun _ _ => True)
      (createSession initialSendSeq initialRecvSeq listenerPort port remoteIp remotePort) s)
    (hstate : s.state = .established) (hadvertises : s.Advertises window)
    (hpacket : s.InsideAdvertised window packet) :
    s.KeepsPayload packet iss ↔ packet.seq = s.recvWindow.recvNext := by
  have hstored₀ := nothingStored_createSession initialSendSeq initialRecvSeq listenerPort port
    remoteIp remotePort
  have hstored := nothingStored_reachable hstored₀ hs
  constructor
  · intro hkept
    by_contra hseq
    exact not_keepsPayload_of_outOfOrder hstored hstate hpacket.admitted hpacket.payload hseq hkept
  · intro hseq
    have hfree : window ≤ 1024 - s.recvBuffer.size := by
      rcases hadvertises with ⟨d, hlast, -, hwindow⟩
      rw [← hwindow]
      exact advertisedFits_reachable (by intro d hd; contradiction) hstored₀ hs d hlast
    have hlength : packet.payload.length ≤ window := by
      have hwithin := hpacket.within
      rw [hseq] at hwithin
      omega
    apply keepsPayload_of_inOrder hstored hstate hpacket.admitted hpacket.payload hseq
    have hsize := s.recvBuffer.size_le
    omega

end Kept

/-- Two bytes from the server, at the given number. -/
def twoBytes (seqNum : UInt32) : MyuTcpPacket := peerPacket flagAck seqNum 1 1024 [7, 8]

/-- Two bytes ahead of the stream are inside the advertised window. -/
theorem insideAdvertised_twoBytes {s : TcpSession} {packet : MyuTcpPacket}
    (hadmitted : Admitted packet) (hpayload : packet.payload = [7, 8])
    (hseq : packet.seq = 101 ∨ packet.seq = 102) (hnext : s.recvWindow.recvNext = 101) :
    s.InsideAdvertised 1024 packet where
  admitted := hadmitted
  payload := by simp [hpayload]
  above := by rcases hseq with hseq | hseq <;> simp [hnext, hseq]
  within := by rcases hseq with hseq | hseq <;> rw [hnext, hseq, hpayload] <;> decide
  unwrapped := by rw [hnext]; decide

/-- The client has acknowledged the SYN-ACK and advertised its whole buffer. -/
theorem establishedRun_advertises :
    ∃ s, step.run clientSession establishedRun = some s ∧ s.state = .established ∧
      s.recvWindow.recvNext = 101 ∧ s.Advertises 1024 := by
  have hrun : ((step.run clientSession establishedRun).any fun s =>
      decide (s.state = .established ∧ s.recvWindow.recvNext = 101) &&
      s.sent.getLast?.any fun d => d.packet.ack = 101 ∧ d.packet.window.toNat = 1024) = true := by
    decide +kernel
  rcases (Option.any_eq_true _ _).mp hrun with ⟨s, hs, hfacts⟩
  rw [Bool.and_eq_true, decide_eq_true_eq] at hfacts
  rcases hfacts with ⟨⟨hstate, hnext⟩, hlast⟩
  rcases (Option.any_eq_true _ _).mp hlast with ⟨d, hd, hwindow⟩
  rw [decide_eq_true_eq] at hwindow
  exact ⟨s, hs, hstate, hnext, d, hd, hwindow.1.trans hnext.symm, hwindow.2⟩

theorem advertised_kept_iff_twoBytes :
    ∃ s, step.run clientSession establishedRun = some s ∧ s.KeepsPayload (twoBytes 101) 0 := by
  rcases establishedRun_advertises with ⟨s, hs, hstate, hnext, hadvertises⟩
  have hpacket : s.InsideAdvertised 1024 (twoBytes 101) :=
    insideAdvertised_twoBytes (by decide +kernel) rfl (Or.inl (by decide +kernel)) hnext
  refine ⟨s, hs, ?_⟩
  apply (advertised_kept_iff (StepFn.reachable_of_run_true hs) hstate hadvertises hpacket).mpr
  rw [hnext]
  decide +kernel

/-- One byte ahead of the expected number the two bytes are discarded. -/
theorem gapSegment_discarded :
    ∃ s, step.run clientSession establishedRun = some s ∧ s.state = .established ∧
      s.Advertises 1024 ∧ s.InsideAdvertised 1024 (twoBytes 102) ∧
      ¬ s.KeepsPayload (twoBytes 102) 0 := by
  rcases establishedRun_advertises with ⟨s, hs, hstate, hnext, hadvertises⟩
  have hpacket : s.InsideAdvertised 1024 (twoBytes 102) :=
    insideAdvertised_twoBytes (by decide +kernel) rfl (Or.inr (by decide +kernel)) hnext
  have hstored := nothingStored_reachable (nothingStored_createSession _ _ _ _ _ _)
    (StepFn.reachable_of_run_true hs)
  refine ⟨s, hs, hstate, hadvertises, hpacket, ?_⟩
  apply not_keepsPayload_of_outOfOrder hstored hstate hpacket.admitted hpacket.payload
  rw [hnext]
  decide +kernel

end TcpSession

end MyuTcp
