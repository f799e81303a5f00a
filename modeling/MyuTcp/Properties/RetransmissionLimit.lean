import MyuTcp.Core.OneConnection

/-!
# The limit of retransmissions

The retry count of a packet is captured by the closure of its timer, which registers the next
closure under the same sequence number.  In one connection without a wrap the number of a packet
identifies it, and the count in its timer is that of its transmissions.

Main results:

- Theorem {lit}`step_rearms`: a timer that a step arms runs for {lit}`current_rto_` and guards a
  packet with numbers.
- Theorem {lit}`paced_step`: one step keeps the count of every active timer in line with the
  transmissions of its packet.
- Theorem {lit}`retransmission_bounded`: every packet with numbers is sent five times at most, its
  timers double, and after its last expiry it has no timer.
-/

namespace MyuTcp

open Library

namespace TcpSession

/-- How often a packet with numbers that starts at the number has been handed to the driver. -/
def transmissions (s : TcpSession) (k : UInt32) : Nat :=
  s.sent.countP fun d => d.packet.carried ≠ [] ∧ d.packet.seq = k

/-- The numbers that a session has used, and those whose last expiry has passed. -/
structure Retries where
  used : Nat
  givenUp : List UInt32

/-- Nothing has been sent. -/
def Retries.start : Retries := ⟨0, []⟩

/-- The timer of the number is at its last expiry. -/
def lastExpiry (s : TcpSession) (k : UInt32) : Bool :=
  (s.timerManager.activeAt k).any fun t => t.callback.retransmitCount + 1 ≥ maxRetransmitCount

/-- A step uses numbers, or gives up a packet. -/
def Retries.update (s : TcpSession) (e : Event) (s' : TcpSession) (retries : Retries) : Retries :=
  match e with
  | .expire k =>
      if s.lastExpiry k then { retries with givenUp := k :: retries.givenUp } else retries
  | _ => { retries with used := retries.used + (newWire s s').length }

/-- No packet is sent more often than the limit allows, the timer of a packet that has been sent
{lit}`n + 1` times runs for {lit}`2 ^ n` times the initial timeout, and a packet that has been given
up has no timer. -/
structure BacksOff (r : UInt32) (x : TcpSession × Retries) : Prop where
  limit : ∀ k, transmissions x.1 k ≤ maxRetransmitCount.toNat
  doubles : ∀ k t, x.1.timerManager.activeAt k = some t →
    ∃ n, transmissions x.1 k = n + 1 ∧ t.callback.retransmitCount.toNat = n ∧
      t.timeoutMs.toNat = r.toNat * 2 ^ n
  silent : ∀ k ∈ x.2.givenUp, x.1.timerManager.activeAt k = none

/-! ## Timers that are armed -/

/-- The initial timeout is kept, and new timers run for it and guard packets with numbers. -/
structure Rearms (a b : TcpSession) : Prop where
  rto : b.currentRto = a.currentRto
  timers : ∀ k t, b.timerManager.activeAt k = some t →
    a.timerManager.activeAt k = some t ∨
      t.timeoutMs = a.getTimeoutMs ∧ t.callback.packet.carried ≠ []

section Rearms

variable {s₀ s s' a b c : TcpSession} {e : Event}

/-- Two moves in a row. -/
theorem Rearms.trans (hab : Rearms a b) (hbc : Rearms b c) : Rearms a c := by
  refine ⟨hbc.rto.trans hab.rto, ?_⟩
  intro k t ht
  rcases hbc.timers k t ht with hold | ⟨htimeout, hcarried⟩
  · exact hab.timers k t hold
  · rw [getTimeoutMs, hab.rto] at htimeout
    exact Or.inr ⟨htimeout, hcarried⟩

/-- A move that starts no timer. -/
theorem rearms_of_subset (hrto : b.currentRto = a.currentRto)
    (h : ∀ k t, b.timerManager.activeAt k = some t → a.timerManager.activeAt k = some t) :
    Rearms a b :=
  ⟨hrto, fun k t ht => Or.inl (h k t ht)⟩

/-- A move that leaves the timers as they are. -/
theorem rearms_of_eq (hrto : b.currentRto = a.currentRto)
    (h : b.timerManager = a.timerManager) : Rearms a b :=
  rearms_of_subset hrto fun _ _ ht => h ▸ ht

/-- One timer is armed, for one packet with numbers. -/
theorem rearms_of_startTimer {m : TimerManager RetransmitClosure} {k : UInt32}
    {closure : RetransmitClosure} (hrto : b.currentRto = a.currentRto)
    (htimers : b.timerManager = m.startTimer k a.getTimeoutMs closure)
    (hold : ∀ j t, m.activeAt j = some t → a.timerManager.activeAt j = some t)
    (hcarried : closure.packet.carried ≠ []) : Rearms a b := by
  refine ⟨hrto, ?_⟩
  intro j t ht
  rw [htimers, TimerManager.activeAt_startTimer] at ht
  split at ht
  · cases ht
    exact Or.inr ⟨rfl, hcarried⟩
  · exact Or.inl (hold j t ht)

/-- The timer of a SYN or FIN re-sends a number. -/
theorem controlClosure_carried {flags : UInt8} {ackNum : UInt32}
    (h : ((flags &&& flagSyn != 0) || (flags &&& flagFin != 0)) = true) :
    (s.controlClosure flags ackNum).packet.carried ≠ [] := by
  have hcarried := carried_datagram s flags ackNum []
  rw [if_pos h] at hcarried
  change (s.datagram flags ackNum []).packet.carried ≠ []
  simp [hcarried]

/-- The timer of a data packet re-sends its bytes. -/
theorem payloadClosure_carried {payload : List UInt8} (h : payload ≠ []) (flags : UInt8) :
    (s.payloadClosure payload flags).packet.carried ≠ [] := by
  have hcarried := carried_datagram s flags s.recvWindow.recvNext payload
  change (s.datagram flags s.recvWindow.recvNext payload).packet.carried ≠ []
  rw [hcarried]
  split
  · simp
  · simpa using h

/-- A new packet starts with no retransmission counted. -/
theorem rearms_sendPayloadPacket (s : TcpSession) (payload : List UInt8) (flags : UInt8) :
    Rearms s (s.sendPayloadPacket payload flags) := by
  by_cases hnil : payload = []
  · rw [sendPayloadPacket, if_pos (by simp [hnil])]
    exact rearms_of_eq rfl rfl
  · rw [s.sendPayloadPacket_eq hnil]
    exact rearms_of_startTimer rfl rfl (fun _ _ ht => ht) (payloadClosure_carried hnil flags)

/-- {lit}`_handle_try_send` starts at most the timer of a new packet. -/
theorem rearms_handleTrySend (s : TcpSession) : Rearms s s.handleTrySend := by
  by_cases htransmits : s.Transmits
  · rw [s.handleTrySend_of_transmits htransmits]
    exact rearms_of_startTimer rfl rfl (fun _ _ ht => ht)
      (payloadClosure_carried (s.nextPayload_ne_nil htransmits) _)
  · rw [s.handleTrySend_of_not htransmits]
    exact rearms_of_eq rfl rfl

/-- A fast retransmission starts no timer. -/
theorem rearms_onRecvThreeDupAck (s : TcpSession) (ackNum : UInt32) :
    Rearms s (s.onRecvThreeDupAck ackNum) := by
  have hstop : Rearms s { s with timerManager := s.timerManager.stopTimer ackNum } :=
    rearms_of_subset rfl fun _ _ => activeAt_of_stopTimer
  rw [onRecvThreeDupAck]
  dsimp only
  split
  · exact hstop.trans (rearms_sendPayloadPacket _ _ _)
  · exact hstop

/-- An acknowledgment starts no timer. -/
theorem rearms_processAck (s : TcpSession) (ackNum : UInt32) : Rearms s (s.processAck ackNum) := by
  have hrelease : Rearms s (s.releaseAcked ackNum) :=
    rearms_of_subset rfl fun _ _ => activeAt_of_dropTimerUpTo
  rcases (s.releaseAcked ackNum).countDupAck_frame ackNum with ⟨a, d, hframe⟩
  have hcount : Rearms (s.releaseAcked ackNum) ((s.releaseAcked ackNum).countDupAck ackNum) := by
    rw [hframe]
    exact rearms_of_eq rfl rfl
  have hfast : Rearms ((s.releaseAcked ackNum).countDupAck ackNum)
      (((s.releaseAcked ackNum).countDupAck ackNum).fastRetransmit ackNum) := by
    rw [fastRetransmit]
    split
    · exact (rearms_onRecvThreeDupAck _ ackNum).trans (rearms_of_eq rfl rfl)
    · exact rearms_of_eq rfl rfl
  exact ((hrelease.trans hcount).trans hfast).trans (rearms_of_eq rfl rfl)

/-- Outside expiries, a timer that a move arms runs for the initial timeout. -/
theorem Move.rearms (hexpire : ∀ k, e ≠ .expire k) (hmove : Move s₀ e a b) : Rearms a b := by
  cases hmove with
  | connect iss =>
      rw [connect_eq]
      exact rearms_of_startTimer rfl rfl (fun _ _ ht => ht) (controlClosure_carried rfl)
  | trySend s => exact rearms_handleTrySend _
  | closeEstablished hstate =>
      rw [closeEstablished_eq]
      exact rearms_of_startTimer rfl rfl (fun _ _ => activeAt_of_stopAllTimers)
        (controlClosure_carried rfl)
  | closeCloseWait s hstate =>
      rw [closeCloseWait_eq]
      exact rearms_of_startTimer rfl rfl (fun _ _ ht => ht) (controlClosure_carried rfl)
  | abortOpening hstate =>
      rw [abortOpening_eq]
      exact rearms_of_subset rfl fun _ _ => activeAt_of_stopAllTimers
  | reset hrst => exact rearms_of_subset rfl fun _ _ => activeAt_of_stopAllTimers
  | passiveOpen hstate hsyn =>
      rw [handleListen_eq _ hsyn]
      exact rearms_of_startTimer rfl rfl (fun _ _ ht => ht) (controlClosure_carried rfl)
  | synAck hstate hsyn hflag hack =>
      rw [acceptSynAck_eq]
      exact rearms_of_subset rfl fun _ _ => activeAt_of_stopTimer
  | peerSyn hstate hsyn hflag =>
      rw [acceptPeerSyn_eq]
      exact rearms_of_startTimer rfl rfl (fun _ _ ht => ht) (controlClosure_carried rfl)
  | synReceivedAck hstate hflag hack =>
      exact rearms_of_subset rfl fun _ _ => activeAt_of_stopTimer
  | ack haccepts => exact rearms_processAck _ _
  | @inOrder packet iss s drained hstate hseq hdrain =>
      rcases reassemble_acceptPayload_frame a packet.payload drained with ⟨m, q, n, hframe⟩
      rw [hframe]
      exact rearms_of_eq rfl rfl
  | @outOfOrder packet iss s hstate hseq =>
      rcases storeOutOfOrder_frame a packet.seq packet.payload with ⟨m, hframe⟩
      rw [hframe]
      exact rearms_of_eq rfl rfl
  | finAcked hstate hflag hack => exact rearms_of_subset rfl fun _ _ => activeAt_of_stopTimer
  | start2Msl s hstate => exact rearms_of_subset rfl fun _ _ ht => ht
  | finishCloseWait s hstate =>
      by_cases hdrained : a.Drained
      · rw [finishCloseWait_of_drained _ hdrained]
        exact rearms_of_startTimer rfl rfl (fun _ _ => activeAt_of_stopAllTimers)
          (controlClosure_carried rfl)
      · rw [finishCloseWait_of_not _ hdrained]
        exact rearms_of_eq rfl rfl
  | lastAck hstate hflag hack => exact rearms_of_subset rfl fun _ _ => activeAt_of_stopTimer
  | expire hactive => exact absurd rfl (hexpire _)
  | expire2Msl hactive => exact rearms_of_subset rfl fun _ _ ht => ht
  | _ => exact rearms_of_eq rfl rfl

/-- Outside expiries, a timer that a step arms runs for the initial timeout and guards a packet
with numbers. -/
theorem step_rearms (hexpire : ∀ k, e ≠ .expire k) (h : step s e = some s') : Rearms s s' :=
  (step_moves h).preserves (P := Rearms s) (fun _ _ ha hmove => ha.trans (hmove.rearms hexpire))
    (rearms_of_eq rfl rfl)

end Rearms

/-! ## New numbers -/

/-- The packets of a session lie behind its initial number. -/
structure PlacedBehind (iss : UInt32) (x : TcpSession × Retries) : Prop where
  next : x.1.Numbered → x.1.sendWindow.sendNext = iss + UInt32.ofNat x.2.used
  sent : ∀ d ∈ x.1.sent, d.packet.carried ≠ [] →
    ∃ o < x.2.used, d.packet.seq = iss + UInt32.ofNat o

section Numbers

variable {s s' : TcpSession} {e : Event} {x : TcpSession × Retries} {k : UInt32}

/-- The transmissions of a number are counted datagram by datagram. -/
theorem transmissions_append {l : List Datagram} (h : s'.sent = s.sent ++ l) (k : UInt32) :
    transmissions s' k = transmissions s k +
      l.countP fun d => d.packet.carried ≠ [] ∧ d.packet.seq = k := by
  rw [transmissions, h, List.countP_append, transmissions]

/-- A number has been transmitted when the log has a packet of it. -/
theorem transmissions_pos_iff :
    0 < transmissions s k ↔ ∃ d ∈ s.sent, d.packet.carried ≠ [] ∧ d.packet.seq = k := by
  simp [transmissions, List.countP_pos_iff]

/-- Only an established session, one in CLOSE_WAIT and one that is being established try to send
data. -/
theorem not_transmits_of_not_numbered (hnumbered : ¬ s.Numbered) {c : TcpSession}
    (hc : c ∈ trySendCalls s e) : ¬ c.Transmits := by
  have hstate : s.state = .closed ∨ s.state = .listen ∨ s.state = .lastAck := by
    unfold Numbered at hnumbered
    tauto
  rw [trySendCalls.eq_def] at hc
  split at hc
  · split at hc
    · contradiction
    · split at hc
      · contradiction
      · rw [List.mem_singleton] at hc
        subst hc
        rcases hstate with hstate | hstate | hstate <;> simp [Transmits, hstate]
  · rcases hstate with hstate | hstate | hstate <;> simp [hstate] at hc
  · split at hc
    · contradiction
    · split at hc
      · contradiction
      · split at hc
        · contradiction
        · have hobserve : ∀ packet, (s.observe packet).state = s.state := fun _ => rfl
          rw [dispatchCalls, hobserve] at hc
          rcases hstate with hstate | hstate | hstate <;> simp [hstate] at hc
  · contradiction

/-- A session that is closed, listens or waits for its last acknowledgment uses no number. -/
theorem Once.unnumbered (h : Once s) (hnumbered : ¬ s.Numbered) (hopens : s.openingIss e = none)
    (hexpire : ∀ k, e ≠ .expire k) (hstep : step s e = some s') :
    ∀ d ∈ newDatagrams s s', d.packet.carried = [] := by
  have hdata := payloadSent_step hexpire h.not_countsThirdDuplicate hstep
  have hnone : ((trySendCalls s e).flatMap fun c => newDatagrams c c.handleTrySend) = [] := by
    rw [List.flatMap_eq_nil_iff]
    intro c hc
    rw [newDatagrams_handleTrySend, if_neg (not_transmits_of_not_numbered hnumbered hc)]
  rw [hnone, List.append_nil, payloadSent, sent_eq_append (sent_prefix_step hstep),
    List.filter_append, payloadSent, List.append_right_eq_self, List.filter_eq_nil_iff] at hdata
  cases spends_step h hexpire hstep with
  | plain _ hpeer hcloses hfinishes hplain =>
      intro d hd
      have hpayload : d.packet.payload = [] := by simpa using hdata d hd
      simp [MyuTcpPacket.carried, hplain.unmarked d hd, hpayload]
  | opens hopens' hmarks hnext => simp [hopens] at hopens'
  | peerSyn hpeer hmarks hnext => exact absurd (by simp [Numbered, hpeer.state]) hnumbered
  | closes hcloses hplain hmarks hnext hstate =>
      refine absurd ?_ hnumbered
      rcases hcloses.state with hstate | hstate <;> simp [Numbered, hstate]
  | finishes hfinishes hplain hmarks hnext hstate =>
      exact absurd (by simp [Numbered, hfinishes.state]) hnumbered

/-- Such a session uses no numbers until it is opened. -/
theorem not_numbered_step (hnumbered : ¬ s.Numbered) (hopens : s.openingIss e = none)
    (hstep : step s e = some s') : ¬ s'.Numbered := by
  have hstate : s.state = .closed ∨ s.state = .listen ∨ s.state = .lastAck := by
    unfold Numbered at hnumbered
    tauto
  have htransition := step_transition hstep
  unfold Numbered
  generalize s'.state = next at htransition
  cases htransition with
  | stay => exact hnumbered
  | connect iss => contradiction
  | closeActive h => simp [h] at hstate
  | passiveOpen hadmitted hlisten hsyn => simp [openingIss, hlisten, hadmitted, hsyn] at hopens
  | synAck hadmitted h hsyn hflag hack => simp [h] at hstate
  | peerSyn hadmitted h hsyn hflag => simp [h] at hstate
  | synReceivedAck hadmitted h hflag hack => simp [h] at hstate
  | fin hadmitted h hfin => simp [h] at hstate
  | crossedFin hadmitted h hfin => simp [h] at hstate
  | finAcked hadmitted h hfin hflag hack => simp [h] at hstate
  | finFinWait2 hadmitted h hfin => simp [h] at hstate
  | _ => simp

end Numbers

/-! ## One step -/

/-- The timers of a session that has not opened a second connection. -/
structure Paced (r : UInt32) (x : TcpSession × Retries) : Prop where
  once : Once x.1
  keyed : x.1.Keyed
  rto : x.1.currentRto = r
  unsent : x.1.sent = [] → x.2.used = 0
  placed : ∃ iss, PlacedBehind iss x
  guarded : ∀ k t, x.1.timerManager.activeAt k = some t →
    t.callback.packet.carried ≠ [] ∧ t.callback.retransmitCount < maxRetransmitCount
  backsOff : BacksOff r x
  givenUp : ∀ k ∈ x.2.givenUp, 0 < transmissions x.1 k

section Step

variable {r k : UInt32} {s' : TcpSession} {e : Event} {x y : TcpSession × Retries}

/-- A step other than an expiry retries nothing. -/
theorem Retries.update_of_ne (hexpire : ∀ k, e ≠ .expire k) {s : TcpSession} (retries : Retries) :
    Retries.update s e s' retries =
      { retries with used := retries.used + (newWire s s').length } := by
  cases e with
  | expire k => exact absurd rfl (hexpire k)
  | _ => rfl

/-- The packets sent between two sessions take the numbers behind those used before. -/
structure TakesNumbers (iss : UInt32) (x : TcpSession × Retries) (s' : TcpSession) : Prop where
  placed : PlacedBehind iss x
  next : s'.Numbered → s'.sendWindow.sendNext =
    iss + UInt32.ofNat (x.2.used + (newWire x.1 s').length)
  numbers : ∀ d ∈ newDatagrams x.1 s', d.packet.carried ≠ [] →
    ∃ o, x.2.used ≤ o ∧ o < x.2.used + (newWire x.1 s').length ∧
      d.packet.seq = iss + UInt32.ofNat o
  distinct : ∀ k, ((newDatagrams x.1 s').countP fun d =>
    d.packet.carried ≠ [] ∧ d.packet.seq = k) ≤ 1

/-- A step that uses its numbers once does not end CLOSE_WAIT by a packet. -/
theorem Spending.not_finishes {s : TcpSession} (h : Spending s e s') (hnumbered : s'.Numbered) :
    ¬ s.FinishesDrained e := by
  intro hfinishes
  cases h with
  | plain _ hpeer hcloses hnot hplain => exact hnot hfinishes
  | opens hopens hmarks hnext => simp [hfinishes.openingIss] at hopens
  | peerSyn hpeer hmarks hnext =>
      have hstate := hpeer.state
      simp [hfinishes.state] at hstate
  | closes hcloses hplain hmarks hnext hstate => exact hcloses.not_finishes hfinishes
  | finishes hfinishes hplain hmarks hnext hstate => exact hnumbered.2.2 hstate

/-- A step that starts at the number behind those used. -/
theorem Spending.takesNumbers {iss : UInt32} (h : Spending x.1 e s') (hplaced : PlacedBehind iss x)
    (hfirst : x.1.firstNumber e = iss + UInt32.ofNat x.2.used)
    (hfits : x.2.used + (newWire x.1 s').length ≤ 2 ^ 32) : TakesNumbers iss x s' := by
  have hchained := h.chained
  rw [hfirst] at hchained
  refine ⟨hplaced, ?_, fun d => hchained.number, hchained.countP_le_one hfits⟩
  intro hnumbered
  rw [h.next (h.not_finishes hnumbered), hfirst, UInt32.add_assoc, ← UInt32.ofNat_add]

/-- The packets of a step take the numbers behind those used before. -/
theorem Paced.takesNumbers (hx : Paced r x) (hok : x.1.OneConnection e)
    (hexpire : ∀ k, e ≠ .expire k) (hstep : step x.1 e = some s')
    (hfits : x.2.used + (newWire x.1 s').length ≤ 2 ^ 32) : ∃ iss, TakesNumbers iss x s' := by
  have hspends := spends_step hx.once hexpire hstep
  rcases hx.placed with ⟨iss, hplaced⟩
  cases hopens : x.1.openingIss e with
  | some i =>
      have hsent := hx.once.unsent_of_openingIss hok hopens
      have hunnumbered : ¬ x.1.Numbered :=
        fun h => hx.once.opened h.1 h.2.1 hsent
      refine ⟨i, hspends.takesNumbers ⟨fun h => absurd h hunnumbered, by simp [hsent]⟩ ?_ hfits⟩
      rw [firstNumber, hopens, hx.unsent hsent]
      exact (UInt32.add_zero i).symm
  | none =>
      by_cases hnumbered : x.1.Numbered
      · refine ⟨iss, hspends.takesNumbers hplaced ?_ hfits⟩
        rw [firstNumber, hopens, Option.getD_none, hplaced.next hnumbered]
      · have hnone := hx.once.unnumbered hnumbered hopens hexpire hstep
        refine ⟨iss, hplaced, ?_, ?_, ?_⟩
        · exact fun h => absurd h (not_numbered_step hnumbered hopens hstep)
        · exact fun d hd hcarried => absurd (hnone d hd) hcarried
        · intro k
          rw [List.countP_eq_zero.mpr]
          · exact Nat.zero_le 1
          · intro d hd
            simp [hnone d hd]

/-- A number that a step uses has not been used before. -/
theorem PlacedBehind.unused {iss : UInt32} (hplaced : PlacedBehind iss x) {d : Datagram} {o m : Nat}
    (hfits : m ≤ 2 ^ 32) (hlow : x.2.used ≤ o) (hhigh : o < m)
    (hseq : d.packet.seq = iss + UInt32.ofNat o) : transmissions x.1 d.packet.seq = 0 := by
  by_contra hpos
  rcases transmissions_pos_iff.mp (Nat.pos_of_ne_zero hpos) with ⟨d', hd', hcarried, hseq'⟩
  rcases hplaced.sent d' hd' hcarried with ⟨o', ho', hplace⟩
  have hequal := ofNat_add_inj (s := iss) (m := o') (n := o) (by omega) (by omega)
    (by rw [← hplace, hseq', hseq])
  omega

/-- A number with a new packet has not been transmitted before. -/
theorem TakesNumbers.transmissions_new {iss : UInt32} (h : TakesNumbers iss x s')
    (hlog : x.1.sent <+: s'.sent) (hfits : x.2.used + (newWire x.1 s').length ≤ 2 ^ 32)
    {d : Datagram} (hd : d ∈ newDatagrams x.1 s') (hcarried : d.packet.carried ≠ []) :
    transmissions x.1 d.packet.seq = 0 ∧ transmissions s' d.packet.seq = 1 := by
  rcases h.numbers d hd hcarried with ⟨o, hlow, hhigh, hseq⟩
  have hzero := h.placed.unused hfits hlow hhigh hseq
  have hone : 0 < (newDatagrams x.1 s').countP fun d' =>
      d'.packet.carried ≠ [] ∧ d'.packet.seq = d.packet.seq := by
    rw [List.countP_pos_iff]
    exact ⟨d, hd, by simp [hcarried]⟩
  have hle := h.distinct d.packet.seq
  have hsum := transmissions_append (sent_eq_append hlog) d.packet.seq
  exact ⟨hzero, by omega⟩

/-- New packets leave the counts of the numbers transmitted before as they are. -/
theorem TakesNumbers.transmissions_old {iss : UInt32} (h : TakesNumbers iss x s')
    (hlog : x.1.sent <+: s'.sent) (hfits : x.2.used + (newWire x.1 s').length ≤ 2 ^ 32)
    (hpos : 0 < transmissions x.1 k) : transmissions s' k = transmissions x.1 k := by
  have hnone : ((newDatagrams x.1 s').countP fun d =>
      d.packet.carried ≠ [] ∧ d.packet.seq = k) = 0 := by
    rw [List.countP_eq_zero]
    intro d hd hboth
    rw [decide_eq_true_eq] at hboth
    have hzero := (h.transmissions_new hlog hfits hd hboth.1).1
    rw [hboth.2] at hzero
    omega
  rw [transmissions_append (sent_eq_append hlog), hnone, Nat.add_zero]

/-- A timer after a step that is no expiry is old, or guards a packet that is sent for the first
time. -/
theorem TakesNumbers.timer {iss : UInt32} (h : TakesNumbers iss x s')
    (hfits : x.2.used + (newWire x.1 s').length ≤ 2 ^ 32) (hgrows : Grows x.1 s')
    (hrearms : Rearms x.1 s') {t : UvTimer RetransmitClosure}
    (ht : s'.timerManager.activeAt k = some t) :
    x.1.timerManager.activeAt k = some t ∨
      t.timeoutMs = x.1.getTimeoutMs ∧ t.callback.packet.carried ≠ [] ∧
        t.callback.retransmitCount = 0 ∧ transmissions x.1 k = 0 ∧ transmissions s' k = 1 := by
  rcases hrearms.timers k t ht with hold | ⟨htimeout, hcarried⟩
  · exact Or.inl hold
  · rcases hgrows.timers k t ht with hold | harmed
    · exact Or.inl hold
    · rcases harmed.sent with ⟨d, hd, hpacket⟩
      have hnew := h.transmissions_new hgrows.sent hfits hd (hpacket ▸ hcarried)
      rw [hpacket, harmed.seq] at hnew
      exact Or.inr ⟨htimeout, hcarried, harmed.count, hnew⟩

/-- A step other than an expiry keeps every timer at its pace. -/
theorem Paced.backsOff_of_ne {iss : UInt32} (hx : Paced r x) (h : TakesNumbers iss x s')
    (hfits : x.2.used + (newWire x.1 s').length ≤ 2 ^ 32) (hgrows : Grows x.1 s')
    (hrearms : Rearms x.1 s') (used : Nat) : BacksOff r (s', { x.2 with used := used }) := by
  have hold : ∀ k, 0 < transmissions x.1 k → transmissions s' k = transmissions x.1 k :=
    fun _ => h.transmissions_old hgrows.sent hfits
  constructor
  · intro k
    by_cases hpos : 0 < transmissions x.1 k
    · rw [hold k hpos]
      exact hx.backsOff.limit k
    · have hle := h.distinct k
      have hsum := transmissions_append (sent_eq_append hgrows.sent) k
      have hmax : maxRetransmitCount.toNat = 5 := rfl
      dsimp only
      omega
  · intro k t ht
    rcases h.timer hfits hgrows hrearms ht with hactive | ⟨htimeout, -, hzero, -, hone⟩
    · rcases hx.backsOff.doubles k t hactive with ⟨n, hn, hrest⟩
      exact ⟨n, by rw [hold k (by omega), hn], hrest⟩
    · refine ⟨0, hone, by rw [hzero]; rfl, ?_⟩
      rw [htimeout, getTimeoutMs, hx.rto]
      simp
  · intro k hk
    rw [Option.eq_none_iff_forall_ne_some]
    intro t ht
    have hpos := hx.givenUp k hk
    rcases h.timer hfits hgrows hrearms ht with hactive | ⟨-, -, -, hzero, -⟩
    · rw [hx.backsOff.silent k hk] at hactive
      contradiction
    · omega

/-- A step that is no expiry. -/
theorem Paced.step_of_ne (hx : Paced r x) (hok : x.1.OneConnection e)
    (hexpire : ∀ k, e ≠ .expire k) (hstep : step x.1 e = some s')
    (hfits : x.2.used + (newWire x.1 s').length ≤ 2 ^ 32) :
    Paced r (s', { x.2 with used := x.2.used + (newWire x.1 s').length }) := by
  rcases hx.takesNumbers hok hexpire hstep hfits with ⟨iss, htakes⟩
  have hgrows := step_grows hexpire hstep
  have hrearms := step_rearms hexpire hstep
  constructor
  · exact once_step hx.once hok hstep
  · exact keyed_step hx.keyed hstep
  · exact hrearms.rto.trans hx.rto
  · intro hnil
    dsimp only at hnil
    have hbefore : x.1.sent = [] := List.prefix_nil.mp (hnil ▸ hgrows.sent)
    rw [hx.unsent hbefore, newWire, newDatagrams, hnil, List.drop_nil]
    rfl
  · refine ⟨iss, htakes.next, ?_⟩
    intro d hd hcarried
    dsimp only at hd ⊢
    rw [sent_eq_append hgrows.sent, List.mem_append] at hd
    rcases hd with hd | hd
    · rcases htakes.placed.sent d hd hcarried with ⟨o, ho, hseq⟩
      exact ⟨o, by omega, hseq⟩
    · rcases htakes.numbers d hd hcarried with ⟨o, -, ho, hseq⟩
      exact ⟨o, ho, hseq⟩
  · intro k t ht
    rcases htakes.timer hfits hgrows hrearms ht with hactive | ⟨-, hcarried, hzero, -⟩
    · exact hx.guarded k t hactive
    · exact ⟨hcarried, by rw [hzero]; decide⟩
  · exact hx.backsOff_of_ne htakes hfits hgrows hrearms _
  · intro k hk
    have hpos := hx.givenUp k hk
    dsimp only
    rw [htakes.transmissions_old hgrows.sent hfits hpos]
    exact hpos

/-- Below the limit the shifted timeout does not overflow. -/
theorem toNat_shiftedTimeout (r : UInt32) {count : UInt32} (h : count.toNat < 5) :
    (r.toUInt64 * (1 <<< count.toUInt64)).toNat = r.toNat * 2 ^ count.toNat := by
  have hr := r.toNat_lt
  have hpow : 2 ^ count.toNat ≤ 2 ^ 4 := Nat.pow_le_pow_right (by omega) (by omega)
  have hshift : (1 <<< count.toUInt64 : UInt64).toNat = 2 ^ count.toNat := by
    rw [UInt64.toNat_shiftLeft, UInt64.toNat_one, UInt32.toNat_toUInt64, Nat.one_shiftLeft,
      Nat.mod_eq_of_lt (a := count.toNat) (by omega), Nat.mod_eq_of_lt (by omega)]
  have hprod : r.toNat * 2 ^ count.toNat ≤ 2 ^ 32 * 2 ^ 4 := Nat.mul_le_mul hr.le hpow
  rw [UInt64.toNat_mul, hshift, UInt32.toNat_toUInt64, Nat.mod_eq_of_lt (by omega)]

/-- Whether the next expiry is the last is read off the timer. -/
theorem lastExpiry_of_activeAt {s : TcpSession} {t : UvTimer RetransmitClosure}
    (hactive : s.timerManager.activeAt k = some t) :
    s.lastExpiry k = decide (t.callback.retransmitCount + 1 ≥ maxRetransmitCount) := by
  rw [lastExpiry, hactive, Option.any_some]

/-- The last expiry of a packet leaves it without a timer. -/
theorem Paced.giveUp {t : UvTimer RetransmitClosure} (hx : Paced r x)
    (hactive : x.1.timerManager.activeAt k = some t)
    (hlimit : t.callback.retransmitCount + 1 ≥ maxRetransmitCount)
    (hstep : step x.1 (.expire k) = some s') :
    Paced r (s', { x.2 with givenUp := k :: x.2.givenUp }) := by
  have hkey := hx.keyed k t hactive
  rcases expire_eq_some_iff.mp hstep with ⟨u, hu, rfl⟩
  cases hactive.symm.trans hu
  have honce := once_step hx.once (e := .expire k) trivial hstep
  have hkeyed := keyed_step hx.keyed hstep
  rw [runClosure_of_limit _ hlimit, hkey] at honce hkeyed ⊢
  have htimer : ∀ j u, ((x.1.timerManager.stopTimer k).stopTimer k).activeAt j = some u →
      x.1.timerManager.activeAt j = some u :=
    fun j u hu => activeAt_of_stopTimer (activeAt_of_stopTimer hu)
  constructor
  · exact honce
  · exact hkeyed
  · exact hx.rto
  · exact hx.unsent
  · rcases hx.placed with ⟨iss, hplaced⟩
    exact ⟨iss, hplaced.next, hplaced.sent⟩
  · exact fun j u hu => hx.guarded j u (htimer j u hu)
  · constructor
    · exact hx.backsOff.limit
    · exact fun j u hu => hx.backsOff.doubles j u (htimer j u hu)
    · intro j hj
      dsimp only at hj ⊢
      rw [TimerManager.activeAt_stopTimer, TimerManager.activeAt_stopTimer]
      rcases List.mem_cons.mp hj with rfl | hj
      · simp
      · simp [hx.backsOff.silent j hj]
  · intro j hj
    rcases List.mem_cons.mp hj with rfl | hj
    · rcases hx.backsOff.doubles j t hactive with ⟨n, hn, -⟩
      change 0 < transmissions x.1 j
      omega
    · exact hx.givenUp j hj

/-- A packet that is sent again carries the same. -/
theorem refreshPacket_carried (s : TcpSession) (packet : MyuTcpPacket) :
    (s.refreshPacket packet).carried = packet.carried := by
  simp [MyuTcpPacket.carried]

/-- What an expiry below the limit does to the log and the timers. -/
theorem rearmed_of_lt {s : TcpSession} {t : UvTimer RetransmitClosure}
    (hactive : s.timerManager.activeAt k = some t) (hkey : t.callback.packet.seq = k)
    (hlimit : ¬ t.callback.retransmitCount + 1 ≥ maxRetransmitCount)
    (hstep : step s (.expire k) = some s') :
    s'.currentRto = s.currentRto ∧
      s'.sent = s.sent ++
        [{ packet := s.refreshPacket t.callback.packet, destIp := t.callback.capturedIp,
           destPort := t.callback.capturedPort }] ∧
      ∀ j, s'.timerManager.activeAt j =
        if j = k then
          some ⟨true, s.getTimeoutMs * (1 <<< (t.callback.retransmitCount + 1).toUInt64),
            { packet := s.refreshPacket t.callback.packet,
              retransmitCount := t.callback.retransmitCount + 1,
              capturedIp := t.callback.capturedIp,
              capturedPort := t.callback.capturedPort }⟩
        else s.timerManager.activeAt j := by
  rcases expire_eq_some_iff.mp hstep with ⟨u, hu, rfl⟩
  cases hactive.symm.trans hu
  rw [runClosure_of_lt _ hlimit, hkey]
  refine ⟨rfl, rfl, ?_⟩
  intro j
  dsimp only
  rw [TimerManager.activeAt_startTimer]
  split <;> rename_i hj
  · rfl
  · rw [TimerManager.activeAt_stopTimer, if_neg hj, TimerManager.activeAt_stopTimer, if_neg hj]

/-- Any other expiry of a packet sends it once more and doubles its timeout. -/
theorem Paced.retransmit {t : UvTimer RetransmitClosure} (hx : Paced r x)
    (hactive : x.1.timerManager.activeAt k = some t)
    (hlimit : ¬ t.callback.retransmitCount + 1 ≥ maxRetransmitCount)
    (hstep : step x.1 (.expire k) = some s') : Paced r (s', x.2) := by
  have hkey := hx.keyed k t hactive
  have hcarried := (hx.guarded k t hactive).1
  have hframe := expire_frame hstep
  rcases hx.backsOff.doubles k t hactive with ⟨n, hn, hretries, -⟩
  have hmax : maxRetransmitCount.toNat = 5 := rfl
  have hlow : n < 5 := by
    have hcount := (hx.guarded k t hactive).2
    rw [UInt32.lt_iff_toNat_lt] at hcount
    omega
  have hnext : (t.callback.retransmitCount + 1).toNat = n + 1 := by
    rw [UInt32.toNat_add, hretries, UInt32.toNat_one]
    omega
  have hbelow : n + 1 < 5 := by
    rw [ge_iff_le, UInt32.le_iff_toNat_le] at hlimit
    omega
  rcases rearmed_of_lt hactive hkey hlimit hstep with ⟨hrto, hsent, htimers⟩
  have hcount : ∀ j, transmissions s' j = transmissions x.1 j + if j = k then 1 else 0 := by
    intro j
    rw [transmissions_append hsent, List.countP_singleton]
    simp [refreshPacket_carried, hcarried, hkey, eq_comm]
  have htimer : ∀ j u, s'.timerManager.activeAt j = some u →
      (j ≠ k ∧ x.1.timerManager.activeAt j = some u) ∨
        j = k ∧ u.callback.packet.carried ≠ [] ∧
          u.callback.retransmitCount = t.callback.retransmitCount + 1 ∧
          u.timeoutMs = x.1.getTimeoutMs * (1 <<< (t.callback.retransmitCount + 1).toUInt64) := by
    intro j u hu
    rw [htimers] at hu
    split at hu <;> rename_i hj
    · cases hu
      exact Or.inr ⟨hj, by rw [refreshPacket_carried]; exact hcarried, rfl, rfl⟩
    · exact Or.inl ⟨hj, hu⟩
  constructor
  · exact once_step hx.once (e := .expire k) trivial hstep
  · exact keyed_step hx.keyed hstep
  · exact hrto.trans hx.rto
  · intro hnil
    simp [hsent] at hnil
  · rcases hx.placed with ⟨iss, hplaced⟩
    refine ⟨iss, ?_, ?_⟩
    · intro hnumbered
      rw [Numbered, hframe.1] at hnumbered
      rw [hframe.2.2.1]
      exact hplaced.next hnumbered
    · -- the packet lies where it was sent before
      rcases transmissions_pos_iff.mp (show 0 < transmissions x.1 k by omega) with
        ⟨d, hd, hcarried', hseq⟩
      intro d' hd'
      rw [hsent, List.mem_append, List.mem_singleton] at hd'
      rcases hd' with hd' | rfl
      · exact hplaced.sent d' hd'
      · intro _
        dsimp only
        rw [refreshPacket_seq, hkey, ← hseq]
        exact hplaced.sent d hd hcarried'
  · intro j u hu
    rcases htimer j u hu with ⟨-, hold⟩ | ⟨-, hcarried', hretries', -⟩
    · exact hx.guarded j u hold
    · refine ⟨hcarried', ?_⟩
      rw [hretries', UInt32.lt_iff_toNat_lt]
      omega
  · constructor
    · intro j
      have hle := hx.backsOff.limit j
      rw [hcount j]
      split <;> rename_i hj
      · subst hj
        omega
      · omega
    · intro j u hu
      rcases htimer j u hu with ⟨hj, hold⟩ | ⟨rfl, -, hretries', htimeout⟩
      · rcases hx.backsOff.doubles j u hold with ⟨m, hm, hrest⟩
        exact ⟨m, by rw [hcount j, if_neg hj, hm, Nat.add_zero], hrest⟩
      · refine ⟨n + 1, by rw [hcount j, if_pos rfl, hn], by rw [hretries', hnext], ?_⟩
        rw [htimeout, getTimeoutMs, hx.rto, toNat_shiftedTimeout r (by omega), hnext]
    · intro j hj
      have hsilent := hx.backsOff.silent j hj
      have hne : j ≠ k := by
        rintro rfl
        rw [hsilent] at hactive
        contradiction
      change s'.timerManager.activeAt j = none
      rw [htimers, if_neg hne, hsilent]
  · intro j hj
    have hpos := hx.givenUp j hj
    rw [hcount j]
    omega

/-- One step keeps the count of every active timer in line with the transmissions of its
packet. -/
theorem paced_step (hx : Paced r x) (hok : x.1.OneConnection e)
    (hstep : step.withGhost Retries.update x e = some y) (hfits : y.2.used ≤ 2 ^ 32) :
    Paced r y := by
  rcases StepFn.withGhost_eq_some.mp hstep with ⟨hs, hretries⟩
  rcases y with ⟨s', retries⟩
  dsimp only at hs hretries hfits
  subst hretries
  by_cases hexpire : ∃ k, e = .expire k
  · rcases hexpire with ⟨k, rfl⟩
    rcases expire_eq_some_iff.mp hs with ⟨t, hactive, -⟩
    rw [Retries.update, lastExpiry_of_activeAt hactive]
    by_cases hlimit : t.callback.retransmitCount + 1 ≥ maxRetransmitCount
    · rw [if_pos (by simpa using hlimit)]
      exact hx.giveUp hactive hlimit hs
    · rw [if_neg (by simpa using hlimit)]
      exact hx.retransmit hactive hlimit hs
  · rw [not_exists] at hexpire
    rw [Retries.update_of_ne hexpire] at hfits ⊢
    exact hx.step_of_ne hok hexpire hs hfits

/-- The count of used numbers never decreases. -/
theorem used_le_step (hstep : step.withGhost Retries.update x e = some y) :
    x.2.used ≤ y.2.used := by
  rw [(StepFn.withGhost_eq_some.mp hstep).2]
  unfold Retries.update
  split
  · split
    · exact le_rfl
    · exact le_rfl
  · exact Nat.le_add_right _ _

end Step

/-! ## Runs of one connection -/

/-- A new session has transmitted nothing. -/
theorem paced_start {s : TcpSession} (hcreated : Created s) (r : UInt32) :
    Paced r ({ s with currentRto := r }, .start) where
  once := once_of_unopened hcreated.state hcreated.sent hcreated.dupAckCount hcreated.activeAt
  keyed := hcreated.keyed
  rto := rfl
  unsent _ := rfl
  placed := by
    refine ⟨0, fun hnumbered => absurd hcreated.state hnumbered.1, ?_⟩
    intro d hd
    change d ∈ s.sent at hd
    simp [hcreated.sent] at hd
  guarded k t ht := by
    change s.timerManager.activeAt k = some t at ht
    simp [hcreated.activeAt k] at ht
  backsOff := by
    constructor
    · intro k
      change s.sent.countP _ ≤ _
      simp [hcreated.sent]
    · intro k t ht
      change s.timerManager.activeAt k = some t at ht
      simp [hcreated.activeAt k] at ht
    · intro k hk
      contradiction
  givenUp k hk := by contradiction

/-- In every run of one connection that uses no number twice, a packet with numbers is handed to
the driver five times at most, its timers run for {lit}`r`, {lit}`2 r`, {lit}`4 r` and so on, and
after its last expiry no timer of its number is active. -/
theorem retransmission_bounded {s : TcpSession} (hcreated : Created s) (r : UInt32)
    {es : List Event} (hone : step.AllSteps OneConnection { s with currentRto := r } es)
    {x : TcpSession × Retries}
    (hrun : (step.withGhost Retries.update).run ({ s with currentRto := r }, .start) es = some x)
    (hfits : x.2.used ≤ 2 ^ 32) : BacksOff r x := by
  have hreachable := StepFn.reachable_of_run (StepFn.allSteps_withGhost.mpr hone) hrun
  have hpaced : x.2.used ≤ 2 ^ 32 → Paced r x := by
    refine hreachable.invariant (P := fun x => x.2.used ≤ 2 ^ 32 → Paced r x)
      (fun _ => paced_start hcreated r) ?_
    intro x e y hx hok hstep hused
    exact paced_step (hx ((used_le_step hstep).trans hused)) hok hstep hused
  exact (hpaced hfits).backsOff

/-- A SYN that nobody answers. -/
def unansweredOpenRun : List Event :=
  [.connect 7, .expire 7, .expire 7, .expire 7, .expire 7, .expire 7]

theorem retransmission_bounded_unanswered :
    ∃ x, (step.withGhost Retries.update).run
        ({ clientSession with currentRto := 3000 }, .start) unansweredOpenRun = some x ∧
      transmissions x.1 7 = 5 ∧ x.2.givenUp = [7] ∧ BacksOff 3000 x := by
  have hrun : (((step.withGhost Retries.update).run
      ({ clientSession with currentRto := 3000 }, .start) unansweredOpenRun).any fun x =>
        transmissions x.1 7 = 5 && x.2.givenUp = [7] && x.2.used = 1) = true := by
    decide +kernel
  rcases (Option.any_eq_true _ _).mp hrun with ⟨x, hx, hafter⟩
  simp only [Bool.and_eq_true, decide_eq_true_eq] at hafter
  rcases hafter with ⟨⟨hsent, hgivenUp⟩, hused⟩
  refine ⟨x, hx, hsent, hgivenUp, ?_⟩
  apply retransmission_bounded (.mk 0 0 7000 7000 "10.0.0.2" 8000) 3000 ?_ hx (by omega)
  apply StepFn.allSteps_of_check (fun s e h => of_decide_eq_true h)
  decide +kernel

end TcpSession

end MyuTcp
