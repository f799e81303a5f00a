import MyuTcp.Properties.PassiveClose

/-!
# The acknowledgment of a FIN

A session that waits for the acknowledgment of its FIN expects the number behind
{lit}`send_unack_`.  That is the number behind the FIN exactly when nothing else was in flight
when the FIN was sent.

Main results:

- Theorem {lit}`finRecorded_step`: a session in FIN_WAIT_1 or LAST_ACK has sent the recorded
  FIN.
- Theorem {lit}`finAcknowledgment_iff`: when only an acknowledgment of the FIN counts as one.
-/

namespace MyuTcp

open Library

/-- The state that the acknowledgment of the FIN leads to. -/
def TcpState.finAcked : TcpState → TcpState
  | .finWait1 => .finWait2
  | .lastAck => .closed
  | state => state

namespace TcpSession

/-! ## The number of the FIN -/

/-- The session waits for the acknowledgment of its FIN. -/
def AwaitsFinAck (s : TcpSession) : Prop := s.state = .finWait1 ∨ s.state = .lastAck

instance (s : TcpSession) : Decidable s.AwaitsFinAck := inferInstanceAs (Decidable (_ ∨ _))

/-- The number of the FIN that a step sends, the number before it if it sends none.  An expiry
only repeats a packet. -/
def recordFin (s : TcpSession) (e : Event) (s' : TcpSession) (number : Option UInt32) :
    Option UInt32 :=
  match e with
  | .expire _ => number
  | _ => (((newDatagrams s s').find? fun d => d.packet.has flagFin).map fun d => d.packet.seq).or
      number

/-- A session with the number of the FIN that it has sent last. -/
def withFin : StepFn (TcpSession × Option UInt32) Event := step.withGhost recordFin

/-- The recorded number is that of a FIN in the log, and a session that waits for its
acknowledgment has recorded one. -/
structure FinRecorded (x : TcpSession × Option UInt32) : Prop where
  sent : ∀ f, x.2 = some f → ∃ d ∈ x.1.sent, d.packet.has flagFin = true ∧ d.packet.seq = f
  awaits : x.1.AwaitsFinAck → x.2.isSome = true

section Recorded

variable {s s' m : TcpSession} {e : Event} {x y : TcpSession × Option UInt32}

/-- A step that sends a FIN last. -/
theorem newFin_of_append {t : TcpSession} {flags : UInt8} {ackNum : UInt32}
    (hlog : s.sent <+: m.sent) (hsent : s'.sent = m.sent ++ [t.datagram flags ackNum []])
    (hflags : flags &&& flagFin ≠ 0) :
    ∃ d ∈ newDatagrams s s', d.packet.has flagFin = true := by
  rcases hlog with ⟨l, hl⟩
  have hnew : newDatagrams s s' = l ++ [t.datagram flags ackNum []] := by
    apply newDatagrams_of_append
    rw [hsent, ← hl, List.append_assoc]
  refine ⟨t.datagram flags ackNum [], ?_, ?_⟩
  · rw [hnew]
    exact List.mem_append_right _ (List.mem_singleton_self _)
  · rw [datagram_has]
    simpa using hflags

/-- Nothing is taken back before the FIN of a passive close. -/
theorem sent_prefix_passiveFin (h : s.passiveFin e = some m) : s.sent <+: m.sent := by
  unfold passiveFin at h
  split at h
  · rename_i packet iss
    dsimp only at h
    split at h
    · cases h
      have hanswer : s.sent <+: ((s.observe packet).sendPureAck s.recvWindow.recvNext).sent :=
        List.prefix_append _ _
      exact hanswer.trans (sent_prefix_handleTrySend _)
    · contradiction
  · split at h
    · cases h
      cases e <;> exact List.prefix_rfl
    · contradiction

/-- A step into FIN_WAIT_1 or LAST_ACK sends a FIN. -/
theorem sendsFin_of_awaits (h : step s e = some s') (hbefore : ¬ s.AwaitsFinAck)
    (hafter : s'.AwaitsFinAck) :
    ∃ d ∈ newDatagrams s s', d.packet.has flagFin = true := by
  rw [AwaitsFinAck, not_or] at hbefore
  rcases hafter with hwait | hlast
  · have htransition := step_transition h
    rw [hwait] at htransition
    generalize hnext : TcpState.finWait1 = next at htransition
    cases htransition with
    | stay => exact absurd hnext.symm hbefore.1
    | closeActive hstate =>
        cases h
        have hclose : s.close = s.handleTrySend.closeEstablished := by rw [close, hstate]
        exact newFin_of_append (sent_prefix_handleTrySend s)
          (by rw [hclose, closeEstablished_eq]) (by decide)
    | _ => contradiction
  · rcases (lastAck_iff_passiveFin hbefore.2 h).mp hlast with ⟨m, hm, hs'⟩
    have hclose : s' = m.closeCloseWait →
        ∃ d ∈ newDatagrams s s', d.packet.has flagFin = true := by
      intro heq
      exact newFin_of_append (sent_prefix_passiveFin hm) (by rw [heq, closeCloseWait_eq])
        (by decide)
    rcases passiveFin_cases hm with ⟨hcall, hread⟩ | hdrained
    · exact hclose (by rw [hread, step_of_closesPassively hcall h])
    · rcases hs' with heq | heq
      · exact hclose heq
      · exact newFin_of_append (sent_prefix_passiveFin hm)
          (by rw [heq, finishCloseWait_of_drained _ hdrained]) (by decide)

theorem recordFin_of_ne (hexpire : ∀ k, e ≠ .expire k) (number : Option UInt32) :
    recordFin s e s' number =
      (((newDatagrams s s').find? fun d => d.packet.has flagFin).map fun d => d.packet.seq).or
        number := by
  cases e with
  | expire k => exact absurd rfl (hexpire k)
  | _ => rfl

theorem state_expire {k : UInt32} (h : step s (.expire k) = some s') : s'.state = s.state := by
  have htransition := step_transition h
  generalize s'.state = next at htransition
  cases htransition with
  | stay => rfl
  | closePassive hcall => exact hcall.elim

/-- The recorded number stays that of the FIN sent last. -/
theorem finRecorded_step (hx : FinRecorded x) (h : withFin x e = some y) : FinRecorded y := by
  rcases StepFn.withGhost_eq_some.mp h with ⟨hstep, hghost⟩
  have hsent := sent_eq_append (sent_prefix_step hstep)
  have hold : ∀ f, x.2 = some f →
      ∃ d ∈ y.1.sent, d.packet.has flagFin = true ∧ d.packet.seq = f := by
    intro f hf
    rcases hx.sent f hf with ⟨d, hd, hfin⟩
    exact ⟨d, by rw [hsent]; exact List.mem_append_left _ hd, hfin⟩
  by_cases hexpire : ∃ k, e = .expire k
  · rcases hexpire with ⟨k, rfl⟩
    change y.2 = x.2 at hghost
    constructor
    · rw [hghost]
      exact hold
    · rw [hghost, AwaitsFinAck, state_expire hstep]
      exact hx.awaits
  · rw [not_exists] at hexpire
    rw [recordFin_of_ne hexpire] at hghost
    constructor
    · intro f hf
      rw [hghost, Option.or_eq_some_iff] at hf
      rcases hf with hnew | ⟨-, hkept⟩
      · rcases Option.map_eq_some_iff.mp hnew with ⟨d, hd, hseq⟩
        have hfin := List.find?_some hd
        refine ⟨d, ?_, hfin, hseq⟩
        rw [hsent]
        exact List.mem_append_right _ (List.mem_of_find?_eq_some hd)
      · exact hold f hkept
    · intro hafter
      rw [hghost, Option.isSome_or, Bool.or_eq_true, Option.isSome_map, List.find?_isSome]
      by_cases hbefore : x.1.AwaitsFinAck
      · exact Or.inr (hx.awaits hbefore)
      · exact Or.inl (sendsFin_of_awaits hstep hbefore hafter)

end Recorded

/-! ## What counts as the acknowledgment of the FIN -/

/-- A packet with ACK and without FIN, which passes the checks of {lit}`input`. -/
structure AckWithoutFin (packet : MyuTcpPacket) : Prop where
  admitted : Admitted packet
  isAck : packet.has flagAck = true
  noFin : packet.has flagFin = false

/-- The packet takes the session out of its state exactly if it acknowledges the FIN at
{lit}`f`, and then the timer of the FIN is stopped. -/
def AckedByFin (s : TcpSession) (f : UInt32) (packet : MyuTcpPacket) (iss : UInt32) : Prop :=
  ∃ s', s.input packet iss = some s' ∧
    (s'.state = s.state.finAcked ↔ packet.ack = f + 1) ∧
    (s'.state = s.state.finAcked → s'.timerManager.activeAt f = none)

section Acked

variable {s s' : TcpSession} {packet : MyuTcpPacket} {iss : UInt32} {f : UInt32}

/-- The number behind {lit}`send_unack_` acknowledges the FIN, as far as the session is
concerned. -/
theorem input_expectedAck (iss : UInt32) (hawaits : s.AwaitsFinAck) (hpacket : AckWithoutFin packet)
    (hack : packet.ack = s.sendWindow.sendUnack + 1) :
    ∃ s', s.input packet iss = some s' ∧ s'.state = s.state.finAcked ∧
      s'.timerManager = s.timerManager.stopTimer s.sendWindow.sendUnack := by
  have hnumber : packet.ack - 1 = s.sendWindow.sendUnack := by rw [hack, UInt32.add_sub_cancel]
  rw [← hnumber, input_of_admitted hpacket.admitted, dispatch]
  rcases hawaits with hstate | hstate
  · have hobserved : (s.observe packet).state = .finWait1 := hstate
    have hacked : (s.observe packet).handleFinWait1Ack packet =
        ((s.observe packet).transitionTo .finWait2).advanceUnack packet.ack := by
      rw [handleFinWait1Ack]
      apply if_pos
      rw [hpacket.isAck, Bool.true_and, decide_eq_true_eq]
      exact hack
    rw [hobserved, hstate]
    dsimp only
    rw [handleFinWait1, if_neg (by simp [hpacket.noFin]), hacked]
    exact ⟨_, rfl, rfl, rfl⟩
  · have hobserved : (s.observe packet).state = .lastAck := hstate
    rw [hobserved, hstate]
    dsimp only
    rw [handleLastAck, if_neg (by simp [hpacket.isAck])]
    exact ⟨_, congrArg some (if_neg (not_not.mpr hack)), rfl, rfl⟩

/-- Any other number changes nothing but the window of the peer. -/
theorem input_otherAck (iss : UInt32) (hawaits : s.AwaitsFinAck) (hpacket : AckWithoutFin packet)
    (hack : packet.ack ≠ s.sendWindow.sendUnack + 1) :
    s.input packet iss = some (s.observe packet) := by
  rw [input_of_admitted hpacket.admitted, dispatch]
  rcases hawaits with hstate | hstate
  · have hobserved : (s.observe packet).state = .finWait1 := hstate
    have hacked : (s.observe packet).handleFinWait1Ack packet = s.observe packet := by
      rw [handleFinWait1Ack]
      apply if_neg
      rw [hpacket.isAck, Bool.true_and, decide_eq_true_eq]
      exact hack
    rw [hobserved]
    dsimp only
    rw [handleFinWait1, if_neg (by simp [hpacket.noFin]), hacked]
  · have hobserved : (s.observe packet).state = .lastAck := hstate
    rw [hobserved]
    dsimp only
    rw [handleLastAck, if_neg (by simp [hpacket.isAck])]
    exact congrArg some (if_pos hack)

theorem AwaitsFinAck.ne_finAcked (hawaits : s.AwaitsFinAck) : s.state ≠ s.state.finAcked := by
  rcases hawaits with hstate | hstate <;> rw [hstate] <;> decide

/-- The number behind {lit}`send_unack_` is that of the FIN, or the packet acknowledges
neither. -/
theorem ackedByFin_iff (hawaits : s.AwaitsFinAck) (hpacket : AckWithoutFin packet) :
    s.AckedByFin f packet iss ↔
      s.sendWindow.sendUnack = f ∨
        (packet.ack ≠ s.sendWindow.sendUnack + 1 ∧ packet.ack ≠ f + 1) := by
  by_cases hack : packet.ack = s.sendWindow.sendUnack + 1
  · rcases input_expectedAck iss hawaits hpacket hack with ⟨s', hs', hstate, htimers⟩
    constructor
    · rintro ⟨s'', hs'', hleaves, -⟩
      rw [hs', Option.some.injEq] at hs''
      rw [← hs''] at hleaves
      have hnumber := hleaves.mp hstate
      rw [hack] at hnumber
      exact Or.inl (add_right_cancel hnumber)
    · rintro (hunack | ⟨hne, -⟩)
      · refine ⟨s', hs', iff_of_true hstate (by rw [hack, hunack]), ?_⟩
        intro _
        rw [htimers, hunack, TimerManager.activeAt_stopTimer, if_pos rfl]
      · exact absurd hack hne
  · have hs' := input_otherAck iss hawaits hpacket hack
    have hstays : (s.observe packet).state ≠ s.state.finAcked := hawaits.ne_finAcked
    constructor
    · rintro ⟨s'', hs'', hleaves, -⟩
      rw [hs', Option.some.injEq] at hs''
      rw [← hs''] at hleaves
      exact Or.inr ⟨hack, fun hnumber => hstays (hleaves.mpr hnumber)⟩
    · intro h
      have hne : packet.ack ≠ f + 1 := by
        rcases h with hunack | ⟨-, hne⟩
        · rwa [← hunack]
        · exact hne
      exact ⟨_, hs', iff_of_false hstays hne, fun hleft => absurd hleft hstays⟩

/-- Every session that the API leads to and that waits for the acknowledgment of its FIN has
sent a FIN at some {lit}`f`, and exactly an acknowledgment of it counts as one if and only if
everything below {lit}`f` is acknowledged or the packet acknowledges neither the next number nor
the FIN. -/
theorem finAcknowledgment_iff {initialSendSeq initialRecvSeq : UInt32}
    {listenerPort port : UInt16} {remoteIp : String} {remotePort : UInt16}
    {number : Option UInt32} (iss : UInt32)
    (hs : withFin.Reachable (fun _ _ => True)
      (createSession initialSendSeq initialRecvSeq listenerPort port remoteIp remotePort, none)
      (s, number))
    (hawaits : s.AwaitsFinAck) (hpacket : AckWithoutFin packet) :
    ∃ f, number = some f ∧ (∃ d ∈ s.sent, d.packet.has flagFin = true ∧ d.packet.seq = f) ∧
      (s.AckedByFin f packet iss ↔
        s.sendWindow.sendUnack = f ∨
          (packet.ack ≠ s.sendWindow.sendUnack + 1 ∧ packet.ack ≠ f + 1)) := by
  have hrecorded : FinRecorded (s, number) := by
    apply hs.invariant (P := FinRecorded)
    · refine ⟨fun f hf => by contradiction, ?_⟩
      rintro (hstate | hstate) <;> contradiction
    · exact fun _ _ _ hx _ hstep => finRecorded_step hx hstep
  rcases Option.isSome_iff_exists.mp (hrecorded.awaits hawaits) with ⟨f, hf⟩
  exact ⟨f, hf, hrecorded.sent f hf, ackedByFin_iff hawaits hpacket⟩

end Acked

/-- The number behind the FIN of a client that closes with nothing in flight, and behind the
byte of one that closes with a byte in flight. -/
def ackOfTwo : MyuTcpPacket := peerPacket flagAck 101 2 1024 []

theorem ackWithoutFin_ackOfTwo : AckWithoutFin ackOfTwo where
  admitted := by decide +kernel
  isAck := by decide +kernel
  noFin := by decide +kernel

/-- The client closes with nothing in flight: its FIN has the number 1. -/
theorem finAcknowledgment_iff_settled :
    ∃ s, withFin.run (clientSession, none) (establishedRun ++ [.close]) = some (s, some 1) ∧
      s.AckedByFin 1 ackOfTwo 0 := by
  have hrun : ((withFin.run (clientSession, none) (establishedRun ++ [.close])).any fun x =>
      x.2 = some 1 ∧ x.1.AwaitsFinAck ∧ x.1.sendWindow.sendUnack = 1) = true := by
    decide +kernel
  rcases (Option.any_eq_true _ _).mp hrun with ⟨⟨s, number⟩, hs, hfacts⟩
  rcases of_decide_eq_true hfacts with ⟨hnumber, hawaits, hunack⟩
  dsimp only at hnumber hawaits hunack
  subst hnumber
  rcases finAcknowledgment_iff 0 (StepFn.reachable_of_run_true hs) hawaits
    ackWithoutFin_ackOfTwo with ⟨f, hf, -, hiff⟩
  rw [Option.some.injEq] at hf
  rw [← hf] at hiff
  exact ⟨s, hs, hiff.mpr (Or.inl hunack)⟩

/-- The client closes with one byte in flight.  The acknowledgment of the byte counts as that of
the FIN, and the timer of the FIN stays active. -/
theorem byteAck_endsFinWait1 :
    ∃ s, withFin.run (clientSession, none) (byteInFlightRun ++ [.close]) = some (s, some 2) ∧
      s.state = .finWait1 ∧ ¬ s.AckedByFin 2 ackOfTwo 0 ∧
      ∃ s', s.input ackOfTwo 0 = some s' ∧ s'.state = .finWait2 ∧
        (s'.timerManager.activeAt 2).isSome = true := by
  have hrun : ((withFin.run (clientSession, none) (byteInFlightRun ++ [.close])).any fun x =>
      decide (x.2 = some 2 ∧ x.1.state = .finWait1 ∧ x.1.sendWindow.sendUnack = 1) &&
      (x.1.input ackOfTwo 0).any fun s' =>
        s'.state = .finWait2 ∧ (s'.timerManager.activeAt 2).isSome = true) = true := by
    decide +kernel
  rcases (Option.any_eq_true _ _).mp hrun with ⟨⟨s, number⟩, hs, hfacts⟩
  rw [Bool.and_eq_true, decide_eq_true_eq] at hfacts
  rcases hfacts with ⟨⟨hnumber, hstate, hunack⟩, hinput⟩
  dsimp only at hnumber hstate hunack hinput
  subst hnumber
  rcases (Option.any_eq_true _ _).mp hinput with ⟨s', hs', hleft⟩
  rw [decide_eq_true_eq] at hleft
  refine ⟨s, hs, hstate, ?_, s', hs', hleft⟩
  rw [ackedByFin_iff (Or.inl hstate) ackWithoutFin_ackOfTwo, hunack]
  decide +kernel

end TcpSession

end MyuTcp
