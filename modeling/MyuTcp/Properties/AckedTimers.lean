import MyuTcp.Core.Timers

/-!
# Timers of acknowledged segments

What becomes of the retransmission timers that an acknowledgment covers.
{lit}`_handle_ack` drops the timers below {lit}`ack_num - 1`, so a segment of one byte
at {lit}`ack_num - 1` is acknowledged and keeps its timer.

Main results:

- Theorem {lit}`RetiredInv.step`: a number below an accepted acknowledgment has no timer
  that would send payload again.
- Theorem {lit}`ackedSegments_notResent`: in every run that keeps clear of the boundary
  case, acknowledged segments lose their timers, the others keep theirs, and no expiry
  sends acknowledged payload.
- Theorem {lit}`ackedByte_resent`: a run in which a timer sends an acknowledged byte.
-/

namespace MyuTcp

open Library

namespace TcpSession

/-! ## Acknowledged segments -/

/-- The timer guards payload that lies wholly below the acknowledgment number. -/
def EndsBy (ackNum k : UInt32) (t : UvTimer RetransmitClosure) : Prop :=
  t.callback.packet.payload ≠ [] ∧
    k.toNat + t.callback.packet.payload.length ≤ ackNum.toNat

/-- What {lit}`_handle_ack` owes to the timers: none is left for payload wholly below the
number, and those of the segments from the number on are as before. -/
structure ReleasesTimers (s s' : TcpSession) (ackNum : UInt32) : Prop where
  below : ∀ k t, s'.timerManager.activeAt k = some t → ¬ EndsBy ackNum k t
  above : ∀ k, ackNum ≤ k → k < s.sendWindow.sendNext →
    s'.timerManager.activeAt k = s.timerManager.activeAt k

/-- The acknowledgment of the event, if {lit}`_handle_ack` accepts it, releases timers. -/
def AckReleasesTimers (s : TcpSession) : Event → Prop
  | .input packet iss => s.AcceptsAckEvent (.input packet iss) →
      ReleasesTimers (s.observe packet) ((s.observe packet).handleAck packet).2 packet.ack
  | _ => True

/-- The event acknowledges exactly one more number of a closing session. -/
def AcceptsFinalAck (s : TcpSession) : Event → Prop
  | .input packet _ => Admitted packet ∧ packet.has flagAck = true ∧
      (s.state = .finWait1 ∨ s.state = .lastAck) ∧ packet.ack = s.sendWindow.sendUnack + 1
  | _ => False

/-- The event moves {lit}`send_unack_` of an established or closing session to a number. -/
def AdvancesUnack (s : TcpSession) (e : Event) (ackNum : UInt32) : Prop :=
  (s.AcceptsAckEvent e ∨ s.AcceptsFinalAck e) ∧ ∃ packet iss, e = .input packet iss ∧
    packet.ack = ackNum

/-- The event acknowledges in full whatever payload would be sent again from {lit}`k`. -/
def Retires (s : TcpSession) (e : Event) (k : UInt32) : Prop :=
  ∃ ackNum, s.AdvancesUnack e ackNum ∧ k < ackNum ∧
    ∀ t, s.timerManager.activeAt k = some t → t.callback.packet.payload ≠ [] →
      EndsBy ackNum k t

/-- A step other than an expiry puts new payload on the wire at {lit}`k`. -/
def SendsAnew (s : TcpSession) (e : Event) (s' : TcpSession) (k : UInt32) : Prop :=
  (∀ j, e ≠ .expire j) ∧
    ∃ d ∈ newDatagrams s s', d.packet.seq = k ∧ d.packet.payload ≠ []

/-- The acknowledged numbers after a step. -/
def retired (s : TcpSession) (e : Event) (s' : TcpSession) (acked : Set UInt32) : Set UInt32 :=
  {k | (k ∈ acked ∨ s.Retires e k) ∧ ¬ SendsAnew s e s' k}

/-- Sessions together with the numbers whose payload they know to be acknowledged. -/
def ackedStep : StepFn (TcpSession × Set UInt32) Event := step.withGhost retired

/-- The event is no expiry that sends acknowledged payload. -/
def ResendsNoAcked (s : TcpSession) (acked : Set UInt32) (e : Event) : Prop :=
  ∀ k ∈ acked, e = .expire k → ∀ t, s.timerManager.activeAt k = some t →
    t.callback.packet.payload = []

/-! ## The condition -/

/-- The acknowledgment, if accepted, does not end a segment whose timer the code misses:
one byte directly below the number, or, in a closing session, a segment that starts
below {lit}`send_unack_`. -/
def MissesNoTimer (s : TcpSession) : Event → Prop
  | .input packet iss =>
      (s.AcceptsAckEvent (.input packet iss) →
        (∀ t, s.timerManager.activeAt (packet.ack - 1) = some t →
          t.callback.packet.payload.length ≠ 1) ∧
        s.NothingToFastRetransmit packet.ack) ∧
      (s.AcceptsFinalAck (.input packet iss) →
        ∀ k t, s.timerManager.activeAt k = some t → EndsBy packet.ack k t →
          k = s.sendWindow.sendUnack)
  | _ => True

/-! ## One acknowledgment -/

section Acknowledgment

variable {s : TcpSession} {ackNum : UInt32}

/-- No timer for payload wholly below the number survives the acknowledgment. -/
theorem activeAt_processAck_below (haccepts : s.acceptsAck ackNum = true)
    (hthird : s.NothingToFastRetransmit ackNum)
    (hbyte : ∀ t, s.timerManager.activeAt (ackNum - 1) = some t →
      t.callback.packet.payload.length ≠ 1)
    {k : UInt32} {t : UvTimer RetransmitClosure}
    (ht : (s.processAck ackNum).timerManager.activeAt k = some t) : ¬ EndsBy ackNum k t := by
  rw [(activeAt_processAck hthird k).1] at ht
  split at ht <;> rename_i hk
  · contradiction
  rintro ⟨hpayload, hend⟩
  have hpos := List.length_pos_iff.mpr hpayload
  have hpred := toNat_pred_of_lt (acceptsAck_iff.mp haccepts).1
  rw [UInt32.lt_iff_toNat_lt] at hk
  -- the survivors start at the last number below the acknowledgment
  have hkey : k = ackNum - 1 := by
    rw [← UInt32.toNat_inj]
    omega
  refine hbyte t (hkey ▸ ht) ?_
  omega

/-- In ESTABLISHED the acknowledgment stops the timers below it. -/
theorem releasesTimers_handleAck {packet : MyuTcpPacket}
    (haccepts : s.acceptsAck packet.ack = true)
    (hthird : s.NothingToFastRetransmit packet.ack)
    (hbyte : ∀ t, s.timerManager.activeAt (packet.ack - 1) = some t →
      t.callback.packet.payload.length ≠ 1) :
    ReleasesTimers s (s.handleAck packet).2 packet.ack := by
  have hnext := (activeAt_processAck hthird 0).2
  have hle := (acceptsAck_iff.mp haccepts).2
  rw [handleAck, if_pos haccepts]
  constructor
  · intro k t ht
    by_cases hk : k = (s.processAck packet.ack).sendWindow.sendNext
    · -- what the send attempt arms lies beyond the acknowledgment
      rintro ⟨hpayload, hend⟩
      have hpos := List.length_pos_iff.mpr hpayload
      rw [hk, hnext] at hend
      rw [UInt32.le_iff_toNat_le] at hle
      omega
    · rw [activeAt_handleTrySend_of_ne hk] at ht
      exact activeAt_processAck_below haccepts hthird hbyte ht
  · intro k hack hk
    have hne : k ≠ (s.processAck packet.ack).sendWindow.sendNext := by
      rw [hnext]
      exact ne_of_lt hk
    have hnot : ¬ k < packet.ack - 1 := by
      have hpred := toNat_pred_of_lt (acceptsAck_iff.mp haccepts).1
      rw [UInt32.le_iff_toNat_le] at hack
      rw [UInt32.lt_iff_toNat_lt]
      omega
    rw [activeAt_handleTrySend_of_ne hne, (activeAt_processAck hthird k).1, if_neg hnot]

end Acknowledgment

/-! ## Runs -/

section Runs

variable {s s' : TcpSession} {e : Event} {acked : Set UInt32}

/-- Acknowledged numbers have no timer that would send payload again. -/
structure RetiredInv (x : TcpSession × Set UInt32) : Prop where
  keyed : x.1.Keyed
  silent : ∀ k ∈ x.2, ∀ t, x.1.timerManager.activeAt k = some t →
    t.callback.packet.payload = []

/-- In FIN_WAIT_1 only the timer of the FIN is stopped. -/
theorem timerManager_handleFinWait1 {packet : MyuTcpPacket} (hflag : packet.has flagAck = true)
    (hack : packet.ack = s.sendWindow.sendUnack + 1) :
    (s.handleFinWait1 packet).timerManager = s.timerManager.stopTimer (packet.ack - 1) := by
  have hpart : s.handleFinWait1Ack packet = (s.transitionTo .finWait2).advanceUnack packet.ack := by
    rw [handleFinWait1Ack, if_pos (by simp [hflag, hack])]
  rw [handleFinWait1, hpart]
  split <;> rfl

/-- In LAST_ACK only the timer of the FIN is stopped. -/
theorem timerManager_handleLastAck {packet : MyuTcpPacket} (hflag : packet.has flagAck = true)
    (hack : packet.ack = s.sendWindow.sendUnack + 1) :
    (s.handleLastAck packet).timerManager = s.timerManager.stopTimer (packet.ack - 1) := by
  rw [handleLastAck, if_neg (by simp [hflag]), if_neg (not_not.mpr hack)]
  rfl

/-- After a final acknowledgment only the timer of {lit}`send_unack_` is stopped. -/
theorem activeAt_finalAck {k : UInt32} {t : UvTimer RetransmitClosure}
    (hfinal : s.AcceptsFinalAck e) (h : step s e = some s')
    (ht : s'.timerManager.activeAt k = some t) :
    k ≠ s.sendWindow.sendUnack ∧ s.timerManager.activeAt k = some t := by
  cases e with
  | input packet iss =>
      obtain ⟨hadmitted, hflag, hstate, hack⟩ := hfinal
      have htimers : s'.timerManager = s.timerManager.stopTimer s.sendWindow.sendUnack := by
        have hunack : packet.ack - 1 = s.sendWindow.sendUnack := by
          rw [hack, UInt32.add_sub_cancel]
        rw [step, input_of_admitted hadmitted, dispatch] at h
        rw [← hunack]
        rcases hstate with hstate | hstate <;>
          rw [show (s.observe packet).state = _ from hstate] at h <;> cases h
        · exact timerManager_handleFinWait1 hflag hack
        · exact timerManager_handleLastAck hflag hack
      rw [htimers, TimerManager.activeAt_stopTimer] at ht
      split at ht <;> rename_i hk
      · contradiction
      · exact ⟨hk, ht⟩
  | _ => exact hfinal.elim

/-- An old timer of a number that the step retires sends no payload. -/
theorem retires_silent {k : UInt32} {t : UvTimer RetransmitClosure}
    (hretires : s.Retires e k) (hcond : s.MissesNoTimer e) (h : step s e = some s')
    (hnew : ¬ SendsAnew s e s' k) (hold : s.timerManager.activeAt k = some t)
    (ht : s'.timerManager.activeAt k = some t) : t.callback.packet.payload = [] := by
  by_contra hpayload
  obtain ⟨ackNum, ⟨haccepts, packet, iss, rfl, rfl⟩, hlt, hends⟩ := hretires
  have hend := hends t hold hpayload
  rcases haccepts with haccepts | hfinal
  · obtain ⟨hbyte, hthird⟩ := hcond.1 haccepts
    have hgrows : Grows ((s.observe packet).processAck packet.ack) s' :=
      (moves_of_acceptsAck haccepts h).preserves
        (fun _ _ ha hmove => ha.trans (hmove.grows fun _ => Event.noConfusion))
        (grows_of_eq List.prefix_rfl rfl)
    rcases hgrows.timers k t ht with hkept | ⟨hseq, -, d, hd, hpacket⟩
    · exact activeAt_processAck_below (s := s.observe packet) haccepts.2.2.2
        ((nothingToFastRetransmit_observe s packet).mpr hthird) hbyte hkept hend
    · have hsent : s.sent <+: ((s.observe packet).processAck packet.ack).sent :=
        sent_prefix_processAck (s.observe packet) packet.ack
      refine hnew ⟨fun _ => Event.noConfusion, d, ?_, by rw [hpacket, hseq], by rwa [hpacket]⟩
      rw [newDatagrams_trans hsent hgrows.sent]
      exact List.mem_append_right _ hd
  · obtain ⟨hne, -⟩ := activeAt_finalAck hfinal h ht
    exact hne (hcond.2 hfinal k t hold hend)

/-- A step that misses no timer keeps acknowledged numbers without one. -/
theorem RetiredInv.step (hinv : RetiredInv (s, acked)) (hcond : s.MissesNoTimer e)
    (h : step s e = some s') : RetiredInv (s', retired s e s' acked) := by
  refine ⟨keyed_step hinv.keyed h, ?_⟩
  rintro k ⟨hk, hnew⟩ t' ht'
  by_cases hexpire : ∃ j, e = .expire j
  · obtain ⟨j, rfl⟩ := hexpire
    obtain ⟨t, hactive, -⟩ := expire_eq_some_iff.mp h
    have hmem : k ∈ acked := by
      rcases hk with hmem | ⟨ackNum, ⟨haccepts, packet, iss, heq, -⟩, -⟩
      · exact hmem
      · contradiction
    rcases activeAt_expire hactive (hinv.keyed j t hactive) h ht' with
      ⟨-, hold⟩ | ⟨rfl, -, hpacket, -⟩
    · exact hinv.silent k hmem t' hold
    · rw [hpacket, refreshPacket_payload]
      exact hinv.silent k hmem t hactive
  · rw [not_exists] at hexpire
    rcases (step_grows hexpire h).timers k t' ht' with hold | ⟨hseq, -, d, hd, hpacket⟩
    · rcases hk with hmem | hretires
      · exact hinv.silent k hmem t' hold
      · exact retires_silent hretires hcond h hnew hold ht'
    · by_contra hpayload
      exact hnew ⟨hexpire, d, hd, by rw [hpacket, hseq], by rwa [hpacket]⟩

/-- Such an acknowledgment releases all the timers it covers. -/
theorem MissesNoTimer.ackReleasesTimers (hcond : s.MissesNoTimer e) :
    s.AckReleasesTimers e := by
  cases e with
  | input packet iss =>
      intro haccepts
      obtain ⟨hbyte, hthird⟩ := hcond.1 haccepts
      exact releasesTimers_handleAck (s := s.observe packet) haccepts.2.2.2
        ((nothingToFastRetransmit_observe s packet).mpr hthird) hbyte
  | _ => trivial

/-- A new session has no timers. -/
theorem keyed_createSession (initialSendSeq initialRecvSeq : UInt32)
    (listenerPort port : UInt16) (remoteIp : String) (remotePort : UInt16) :
    (createSession initialSendSeq initialRecvSeq listenerPort port remoteIp remotePort).Keyed := by
  intro k t ht
  contradiction

/-- In every run of a session that keeps clear of the boundary case, an accepted
acknowledgment leaves no timer for the payload it covers and keeps the other timers, and no
expiry sends acknowledged payload. -/
theorem ackedSegments_notResent {initialSendSeq initialRecvSeq : UInt32}
    {listenerPort port : UInt16} {remoteIp : String} {remotePort : UInt16} {es : List Event}
    (hcond : step.AllSteps MissesNoTimer
      (createSession initialSendSeq initialRecvSeq listenerPort port remoteIp remotePort) es) :
    ackedStep.AllSteps (fun x e => x.1.AckReleasesTimers e ∧ x.1.ResendsNoAcked x.2 e)
      (createSession initialSendSeq initialRecvSeq listenerPort port remoteIp remotePort, ∅)
      es := by
  refine StepFn.AllSteps.of_invariant (P := RetiredInv) ?_ ?_ ?_
    (StepFn.allSteps_withGhost.mpr hcond)
  · rintro ⟨s, acked⟩ e ⟨s', acked'⟩ hinv hok hstep
    obtain ⟨hs', hghost⟩ := StepFn.withGhost_eq_some.mp hstep
    dsimp only at hghost
    rw [hghost]
    exact hinv.step hok hs'
  · rintro ⟨s, acked⟩ e hinv hok
    exact ⟨hok.ackReleasesTimers, fun k hk _ t ht => hinv.silent k hk t ht⟩
  · exact ⟨keyed_createSession _ _ _ _ _ _, fun k hk => absurd hk (Set.notMem_empty k)⟩

end Runs

/-- The first data byte goes unanswered until its timer gives up; its acknowledgment and an
exchange of two bytes follow. -/
def givenUpByteRun : List Event :=
  [.connect 0, .input (peerPacket (flagSyn ||| flagAck) 100 1 1024 []) 0, .send [7],
    .expire 1, .expire 1, .expire 1, .expire 1, .expire 1,
    .input (peerPacket flagAck 101 2 1024 []) 0, .send [8, 9],
    .input (peerPacket flagAck 101 4 1024 []) 0]

/-- A decidable condition that is enough for {lit}`MissesNoTimer`. -/
def missesNoTimer (s : TcpSession) : Event → Bool
  | .input packet _ =>
      (s.timerManager.activeAt (packet.ack - 1)).all
          (fun t => t.callback.packet.payload.length ≠ 1) &&
        (!decide (s.ThirdDuplicate packet.ack)) &&
        s.state ≠ .finWait1 && s.state ≠ .lastAck
  | _ => true

/-- The test decides the condition. -/
theorem missesNoTimer_sound {s : TcpSession} {e : Event} (h : s.missesNoTimer e = true) :
    s.MissesNoTimer e := by
  cases e with
  | input packet iss =>
      simp only [missesNoTimer, Bool.and_eq_true, decide_eq_true_eq, Bool.not_eq_true',
        decide_eq_false_iff_not] at h
      obtain ⟨⟨⟨hbyte, hthird⟩, hfin⟩, hlast⟩ := h
      refine ⟨fun _ => ⟨?_, fun h => absurd h hthird⟩, ?_⟩
      · intro t ht
        rw [ht, Option.all_some, decide_eq_true_eq] at hbyte
        exact hbyte
      · rintro ⟨-, -, hstate | hstate, -⟩
        · exact absurd hstate hfin
        · exact absurd hstate hlast
  | _ => trivial

theorem ackedSegments_notResent_givenUpByte :
    step.AllSteps MissesNoTimer clientSession givenUpByteRun ∧
      (step.run clientSession givenUpByteRun).isSome = true ∧
      ackedStep.AllSteps (fun x e => x.1.AckReleasesTimers e ∧ x.1.ResendsNoAcked x.2 e)
        (clientSession, ∅) givenUpByteRun := by
  have hcheck : step.checkSteps missesNoTimer clientSession givenUpByteRun = true := by
    decide +kernel
  have hcond := StepFn.allSteps_of_check (fun _ _ => missesNoTimer_sound) hcheck
  exact ⟨hcond, by decide +kernel, ackedSegments_notResent hcond⟩

/-- An established client with one byte in flight. -/
def sentByteRun : List Event :=
  [.connect 0, .input (peerPacket (flagSyn ||| flagAck) 100 1 1024 []) 0, .send [7]]

/-- The acknowledgment of that byte. -/
def byteAck : MyuTcpPacket := peerPacket flagAck 101 2 1024 []

/-- The accepted acknowledgment of one byte leaves its timer active, and the expiry sends
the byte again and collapses the window. -/
theorem ackedByte_resent :
    ∃ s s' s'', step.run clientSession sentByteRun = some s ∧
      ¬ s.AckReleasesTimers (.input byteAck 0) ∧
      step s (.input byteAck 0) = some s' ∧ step s' (.expire 1) = some s'' ∧
      (newDatagrams s' s'').map (fun d => (d.packet.seq, d.packet.payload)) = [(1, [7])] ∧
      s''.sendWindow.sendWindowSize < s'.sendWindow.sendWindowSize := by
  have hrun : ((step.run clientSession sentByteRun).any fun s =>
      decide (s.AcceptsAckEvent (.input byteAck 0)) &&
      ((((s.observe byteAck).handleAck byteAck).2.timerManager.activeAt 1).any fun t =>
        t.callback.packet.payload = [7]) &&
      (step s (.input byteAck 0)).any fun s' => (step s' (.expire 1)).any fun s'' =>
        (newDatagrams s' s'').map (fun d => (d.packet.seq, d.packet.payload)) = [(1, [7])] ∧
          s''.sendWindow.sendWindowSize < s'.sendWindow.sendWindowSize) = true := by
    decide +kernel
  obtain ⟨s, hs, hfacts⟩ := (Option.any_eq_true _ _).mp hrun
  rw [Bool.and_eq_true, Bool.and_eq_true, decide_eq_true_eq] at hfacts
  obtain ⟨⟨haccepts, htimer⟩, hsteps⟩ := hfacts
  obtain ⟨t, ht, hpayload⟩ := (Option.any_eq_true _ _).mp htimer
  obtain ⟨s', hs', hexpire⟩ := (Option.any_eq_true _ _).mp hsteps
  obtain ⟨s'', hs'', hresent⟩ := (Option.any_eq_true _ _).mp hexpire
  obtain ⟨hdatagrams, hwindow⟩ := of_decide_eq_true hresent
  refine ⟨s, s', s'', hs, ?_, hs', hs'', hdatagrams, hwindow⟩
  intro hreleases
  refine (hreleases haccepts).below 1 t ht ?_
  rw [EndsBy, of_decide_eq_true hpayload]
  exact ⟨by decide, by decide +kernel⟩

end TcpSession

end MyuTcp
