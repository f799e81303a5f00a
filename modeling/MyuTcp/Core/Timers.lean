import MyuTcp.Core.Run

/-!
# Timers along a run

Where the active timers of a session come from.  Outside expiries, a step keeps,
stops or drops timers, and arms new ones for segments it sends.

Main results:

- Theorem {lit}`Move.grows`: an active timer after a move was active before it, or guards
  a segment that the move sent.
- Theorem {lit}`step_grows`: the same for a step.
- Theorem {lit}`activeAt_processAck`: the timers after an accepted acknowledgment.
- Theorem {lit}`keyed_step`: every active timer is registered under the sequence number
  of the packet it re-sends.
-/

namespace MyuTcp

open Library

namespace TcpSession

/-- A timer armed between two sessions guards a segment sent between them. -/
structure Armed (a b : TcpSession) (k : UInt32) (t : UvTimer RetransmitClosure) : Prop where
  seq : t.callback.packet.seq = k
  count : t.callback.retransmitCount = 0
  sent : ∃ d ∈ newDatagrams a b, d.packet = t.callback.packet

/-- The log grows, and active timers are old or guard what was sent. -/
structure Grows (a b : TcpSession) : Prop where
  sent : a.sent <+: b.sent
  timers : ∀ k t, b.timerManager.activeAt k = some t →
    a.timerManager.activeAt k = some t ∨ Armed a b k t

/-- Two stretches, one after the other. -/
theorem Grows.trans {a b c : TcpSession} (hab : Grows a b) (hbc : Grows b c) : Grows a c := by
  refine ⟨hab.sent.trans hbc.sent, ?_⟩
  intro k t ht
  have hnew := newDatagrams_trans hab.sent hbc.sent
  rcases hbc.timers k t ht with hold | ⟨hseq, hcount, d, hd, hpacket⟩
  · rcases hab.timers k t hold with hold | ⟨hseq, hcount, d, hd, hpacket⟩
    · exact Or.inl hold
    · exact Or.inr ⟨hseq, hcount, d, hnew ▸ List.mem_append_left _ hd, hpacket⟩
  · exact Or.inr ⟨hseq, hcount, d, hnew ▸ List.mem_append_right _ hd, hpacket⟩

section Grows

variable {s s' : TcpSession}

/-- The log grows and no timer is armed. -/
theorem grows_of_subset (hsent : s.sent <+: s'.sent)
    (h : ∀ k t, s'.timerManager.activeAt k = some t → s.timerManager.activeAt k = some t) :
    Grows s s' :=
  ⟨hsent, fun k t ht => Or.inl (h k t ht)⟩

/-- The log grows and all timers are kept. -/
theorem grows_of_eq (hsent : s.sent <+: s'.sent) (h : s'.timerManager = s.timerManager) :
    Grows s s' :=
  grows_of_subset hsent fun _ _ ht => h ▸ ht

/-- A timer that is still active was active before another one stopped. -/
theorem activeAt_of_stopTimer {m : TimerManager RetransmitClosure} {j k : UInt32}
    {t : UvTimer RetransmitClosure} (h : (m.stopTimer j).activeAt k = some t) :
    m.activeAt k = some t := by
  rw [TimerManager.activeAt_stopTimer] at h
  split at h
  · contradiction
  · exact h

/-- A timer that is still active was active before others were dropped. -/
theorem activeAt_of_dropTimerUpTo {m : TimerManager RetransmitClosure} {a k : UInt32}
    {t : UvTimer RetransmitClosure} (h : (m.dropTimerUpTo a).activeAt k = some t) :
    m.activeAt k = some t := by
  rw [TimerManager.activeAt_dropTimerUpTo] at h
  split at h
  · contradiction
  · exact h

/-- No timer is left to ask about. -/
theorem activeAt_of_stopAllTimers {m : TimerManager RetransmitClosure} {k : UInt32}
    {t : UvTimer RetransmitClosure} (h : m.stopAllTimers.activeAt k = some t) :
    m.activeAt k = some t := by
  rw [TimerManager.activeAt_stopAllTimers] at h
  contradiction

/-- One timer is armed, for one segment that is sent; all others are old. -/
theorem grows_of_startTimer {m : TimerManager RetransmitClosure} {k : UInt32}
    {timeoutMs : UInt64} {c : RetransmitClosure} {d : Datagram}
    (htimers : s'.timerManager = m.startTimer k timeoutMs c)
    (hold : ∀ j t, m.activeAt j = some t → s.timerManager.activeAt j = some t)
    (hseq : c.packet.seq = k) (hcount : c.retransmitCount = 0) (hpacket : d.packet = c.packet)
    (hsent : s'.sent = s.sent ++ [d]) : Grows s s' := by
  refine ⟨hsent ▸ List.prefix_append _ _, ?_⟩
  intro j t ht
  rw [htimers, TimerManager.activeAt_startTimer] at ht
  split at ht <;> rename_i hj
  · cases ht
    refine Or.inr ⟨hseq.trans hj.symm, hcount, d, ?_, hpacket⟩
    rw [newDatagrams_of_append hsent]
    exact List.mem_singleton_self d
  · exact Or.inl (hold j t ht)

/-- The closure of a control packet remembers the next number. -/
theorem controlClosure_seq (flags : UInt8) (ackNum : UInt32) :
    (s.controlClosure flags ackNum).packet.seq = s.sendWindow.sendNext := by
  rw [controlClosure, calculateChecksum_seq, segment_seq]

/-- The closure of a payload remembers the next number. -/
theorem payloadClosure_seq (payload : List UInt8) (flags : UInt8) :
    (s.payloadClosure payload flags).packet.seq = s.sendWindow.sendNext := by
  rw [payloadClosure, calculateChecksum_seq, segment_seq]

/-- Payload is sent together with its timer. -/
theorem grows_sendPayloadPacket (s : TcpSession) (payload : List UInt8) (flags : UInt8) :
    Grows s (s.sendPayloadPacket payload flags) := by
  by_cases h : payload = []
  · rw [sendPayloadPacket, if_pos (by simp [h])]
    exact grows_of_eq List.prefix_rfl rfl
  · rw [s.sendPayloadPacket_eq h]
    exact grows_of_startTimer rfl (fun _ _ ht => ht) (payloadClosure_seq _ _) rfl rfl rfl

/-- So is what an attempt sends. -/
theorem grows_handleTrySend (s : TcpSession) : Grows s s.handleTrySend := by
  by_cases h : s.Transmits
  · rw [s.handleTrySend_of_transmits h]
    exact grows_of_startTimer rfl (fun _ _ ht => ht) (payloadClosure_seq _ _) rfl rfl rfl
  · rw [s.handleTrySend_of_not h]
    exact grows_of_eq List.prefix_rfl rfl

/-- So is what the third duplicate sends. -/
theorem grows_onRecvThreeDupAck (s : TcpSession) (ackNum : UInt32) :
    Grows s (s.onRecvThreeDupAck ackNum) := by
  have hstop : Grows s { s with timerManager := s.timerManager.stopTimer ackNum } :=
    grows_of_subset List.prefix_rfl fun _ _ => activeAt_of_stopTimer
  rw [onRecvThreeDupAck]
  dsimp only
  split
  · exact hstop.trans (grows_sendPayloadPacket _ _ _)
  · exact hstop

/-- So is what an acknowledgment sends. -/
theorem grows_processAck (s : TcpSession) (ackNum : UInt32) :
    Grows s (s.processAck ackNum) := by
  have hrelease : Grows s (s.releaseAcked ackNum) :=
    grows_of_subset List.prefix_rfl fun _ _ => activeAt_of_dropTimerUpTo
  obtain ⟨a, d, hframe⟩ := (s.releaseAcked ackNum).countDupAck_frame ackNum
  have hcount : Grows (s.releaseAcked ackNum) ((s.releaseAcked ackNum).countDupAck ackNum) := by
    rw [hframe]
    exact grows_of_eq List.prefix_rfl rfl
  have hfast : Grows ((s.releaseAcked ackNum).countDupAck ackNum)
      (((s.releaseAcked ackNum).countDupAck ackNum).fastRetransmit ackNum) := by
    rw [fastRetransmit]
    split
    · exact (grows_onRecvThreeDupAck _ ackNum).trans (grows_of_eq List.prefix_rfl rfl)
    · exact grows_of_eq List.prefix_rfl rfl
  exact ((hrelease.trans hcount).trans hfast).trans (grows_of_eq List.prefix_rfl rfl)

end Grows

/-- Outside expiries, an active timer after a move was active before it, or guards a
segment that the move sent. -/
theorem Move.grows {s₀ a b : TcpSession} {e : Event} (hexpire : ∀ k, e ≠ .expire k)
    (hmove : Move s₀ e a b) : Grows a b := by
  have hsent := hmove.sent_prefix
  cases hmove with
  | connect iss =>
      rw [connect_eq]
      exact grows_of_startTimer rfl (fun _ _ ht => ht) (controlClosure_seq _ _) rfl rfl rfl
  | trySend s => exact grows_handleTrySend _
  | closeEstablished hstate =>
      rw [closeEstablished_eq]
      refine grows_of_startTimer rfl (fun j t ht => ?_) (controlClosure_seq _ _) rfl rfl rfl
      rw [TimerManager.activeAt_stopAllTimers] at ht
      contradiction
  | closeCloseWait s hstate =>
      rw [closeCloseWait_eq]
      exact grows_of_startTimer rfl (fun _ _ ht => ht) (controlClosure_seq _ _) rfl rfl rfl
  | abortOpening hstate =>
      rw [abortOpening_eq] at hsent ⊢
      refine grows_of_subset hsent fun j t ht => ?_
      rw [TimerManager.activeAt_stopAllTimers] at ht
      contradiction
  | reset hrst =>
      refine grows_of_subset hsent fun j t ht => ?_
      rw [handleReset, notify, transitionTo, TimerManager.activeAt_stopAllTimers] at ht
      contradiction
  | passiveOpen hstate hsyn =>
      rw [handleListen_eq _ hsyn]
      exact grows_of_startTimer rfl (fun _ _ ht => ht) (controlClosure_seq _ _) rfl rfl rfl
  | synAck hstate hsyn hflag hack =>
      rw [acceptSynAck_eq] at hsent ⊢
      exact grows_of_subset hsent fun _ _ => activeAt_of_stopTimer
  | peerSyn hstate hsyn hflag =>
      rw [acceptPeerSyn_eq]
      exact grows_of_startTimer rfl (fun _ _ ht => ht) (controlClosure_seq _ _) rfl rfl rfl
  | synReceivedAck hstate hflag hack =>
      exact grows_of_subset hsent fun _ _ => activeAt_of_stopTimer
  | ack haccepts => exact grows_processAck _ _
  | inOrder s hstate hseq hdrain =>
      refine grows_of_eq hsent ?_
      rw [reassemble, acceptPayload]
      split <;> rfl
  | outOfOrder s hstate hseq =>
      refine grows_of_eq hsent ?_
      rw [storeOutOfOrder]
      split <;> rfl
  | finAcked hstate hflag hack => exact grows_of_subset hsent fun _ _ => activeAt_of_stopTimer
  | start2Msl s hstate => exact grows_of_subset hsent fun _ _ ht => ht
  | finishCloseWait s hstate =>
      by_cases hdrained : a.Drained
      · rw [finishCloseWait_of_drained _ hdrained]
        refine grows_of_startTimer rfl (fun j t ht => ?_) (controlClosure_seq _ _) rfl rfl rfl
        rw [TimerManager.activeAt_stopAllTimers] at ht
        contradiction
      · rw [finishCloseWait_of_not _ hdrained]
        exact grows_of_eq List.prefix_rfl rfl
  | lastAck hstate hflag hack => exact grows_of_subset hsent fun _ _ => activeAt_of_stopTimer
  | expire hactive => exact absurd rfl (hexpire _)
  | expire2Msl hactive => exact grows_of_subset hsent fun _ _ ht => ht
  | _ => exact grows_of_eq hsent rfl

/-- Outside expiries, an active timer after a step was active before it, or guards a
segment that the step sent. -/
theorem step_grows {s s' : TcpSession} {e : Event} (hexpire : ∀ k, e ≠ .expire k)
    (h : step s e = some s') : Grows s s' :=
  (step_moves h).preserves (P := Grows s) (fun _ _ ha hmove => ha.trans (hmove.grows hexpire))
    (grows_of_eq List.prefix_rfl rfl)

/-! ## Acknowledgments -/

/-- The third duplicate, if the number is one, finds nothing to send again. -/
def NothingToFastRetransmit (s : TcpSession) (ackNum : UInt32) : Prop :=
  s.ThirdDuplicate ackNum →
    s.timerManager.activeAt ackNum = none ∧ s.inflightPackets.find? ackNum = none

section Acknowledgment

variable {s : TcpSession} {ackNum : UInt32}

/-- The range test, as a proposition. -/
theorem acceptsAck_iff :
    s.acceptsAck ackNum = true ↔
      s.sendWindow.sendUnack < ackNum ∧ ackNum ≤ s.sendWindow.sendNext := by
  simp [acceptsAck]

/-- Without something to send again, a third duplicate only stops the timer of its number. -/
theorem timerManager_fastRetransmit
    (h : s.dupAckCount = 3 → s.inflightPackets.find? ackNum = none) :
    (s.fastRetransmit ackNum).timerManager =
        (if s.dupAckCount = 3 then s.timerManager.stopTimer ackNum else s.timerManager) ∧
      (s.fastRetransmit ackNum).sendWindow.sendNext = s.sendWindow.sendNext := by
  rw [fastRetransmit]
  split <;> rename_i hthird
  · rw [onRecvThreeDupAck]
    dsimp only
    rw [h hthird]
    exact ⟨rfl, rfl⟩
  · exact ⟨rfl, rfl⟩

/-- The timers after an accepted acknowledgment: those from {lit}`ack_num - 1` on. -/
theorem activeAt_processAck (h : s.NothingToFastRetransmit ackNum) (k : UInt32) :
    (s.processAck ackNum).timerManager.activeAt k =
        (if k < ackNum - 1 then none else s.timerManager.activeAt k) ∧
      (s.processAck ackNum).sendWindow.sendNext = s.sendWindow.sendNext := by
  obtain ⟨a, d, hframe⟩ := (s.releaseAcked ackNum).countDupAck_frame ackNum
  have hcount := (s.countDupAck_releaseAcked ackNum).1
  have hlookup : ((s.releaseAcked ackNum).countDupAck ackNum).dupAckCount = 3 →
      ((s.releaseAcked ackNum).countDupAck ackNum).inflightPackets.find? ackNum = none := by
    intro hthird
    rw [hframe, releaseAcked, OrderedMap.find?_dropBelow, (h (hcount.symm.trans hthird)).2]
    exact ite_self none
  have hfast := timerManager_fastRetransmit hlookup
  have htimers : ((s.releaseAcked ackNum).countDupAck ackNum).timerManager =
      s.timerManager.dropTimerUpTo (ackNum - 1) := by
    rw [hframe]
    rfl
  rw [processAck, growWindow]
  dsimp only
  constructor
  · rw [hfast.1, htimers, ← TimerManager.activeAt_dropTimerUpTo]
    split <;> rename_i hthird
    · rw [TimerManager.activeAt_stopTimer]
      split <;> rename_i hk
      · rw [TimerManager.activeAt_dropTimerUpTo, hk, (h (hcount.symm.trans hthird)).1]
        exact (ite_self none).symm
      · rfl
    · rfl
  · rw [hfast.2, hframe]
    rfl

/-- Without something to send again an acknowledgment sends nothing. -/
theorem sent_processAck (h : s.NothingToFastRetransmit ackNum) :
    (s.processAck ackNum).sent = s.sent := by
  by_cases hthird : s.ThirdDuplicate ackNum
  · rcases (s.releaseAcked ackNum).countDupAck_frame ackNum with ⟨a, d, hframe⟩
    have heq : ((s.releaseAcked ackNum).countDupAck ackNum).dupAckCount = 3 := by
      rw [(s.countDupAck_releaseAcked ackNum).1]
      exact hthird
    have hlookup : (s.releaseAcked ackNum).inflightPackets.find? ackNum = none := by
      rw [releaseAcked, OrderedMap.find?_dropBelow, (h hthird).2]
      exact ite_self none
    rw [processAck, fastRetransmit, if_pos heq, hframe, onRecvThreeDupAck]
    dsimp only
    rw [hlookup]
    rfl
  · rw [s.processAck_of_not hthird]

/-- The send attempt arms at most a timer at {lit}`send_next_`. -/
theorem activeAt_handleTrySend_of_ne {k : UInt32} (h : k ≠ s.sendWindow.sendNext) :
    s.handleTrySend.timerManager.activeAt k = s.timerManager.activeAt k := by
  by_cases htransmits : s.Transmits
  · rw [s.handleTrySend_of_transmits htransmits]
    dsimp only
    rw [TimerManager.activeAt_startTimer, if_neg h]
  · rw [s.handleTrySend_of_not htransmits]

/-- The advertised window does not matter to a fast retransmit. -/
theorem nothingToFastRetransmit_observe (s : TcpSession) (packet : MyuTcpPacket) :
    (s.observe packet).NothingToFastRetransmit ackNum ↔ s.NothingToFastRetransmit ackNum := by
  have hcount := (countDupAck_congr (s := s.observe packet) (t := s) rfl rfl ackNum).1
  rw [NothingToFastRetransmit, NothingToFastRetransmit, ThirdDuplicate, ThirdDuplicate, hcount]
  rfl

end Acknowledgment

/-! ## Expiries -/

/-- The timers after the expiry of the timer of {lit}`k`: old ones, or the one its closure
armed again with one more expiry counted. -/
theorem activeAt_expire {s s' : TcpSession} {k j : UInt32} {t t' : UvTimer RetransmitClosure}
    (hactive : s.timerManager.activeAt k = some t) (hkey : t.callback.packet.seq = k)
    (h : s.expire k = some s') (ht' : s'.timerManager.activeAt j = some t') :
    (j ≠ k ∧ s.timerManager.activeAt j = some t') ∨
      (j = k ∧ ¬ t.callback.retransmitCount + 1 ≥ maxRetransmitCount ∧
        t'.callback.packet = s.refreshPacket t.callback.packet ∧
        t'.callback.retransmitCount = t.callback.retransmitCount + 1) := by
  obtain ⟨u, hu, rfl⟩ := expire_eq_some_iff.mp h
  cases hactive.symm.trans hu
  by_cases hlimit : t.callback.retransmitCount + 1 ≥ maxRetransmitCount
  · rw [runClosure_of_limit _ hlimit, hkey] at ht'
    have hne : j ≠ k := by
      rintro rfl
      rw [TimerManager.activeAt_stopTimer, if_pos rfl] at ht'
      contradiction
    exact Or.inl ⟨hne, activeAt_of_stopTimer (activeAt_of_stopTimer ht')⟩
  · rw [runClosure_of_lt _ hlimit, hkey] at ht'
    dsimp only at ht'
    rw [TimerManager.activeAt_startTimer] at ht'
    split at ht' <;> rename_i hj
    · cases ht'
      exact Or.inr ⟨hj, hlimit, rfl, rfl⟩
    · exact Or.inl ⟨hj, activeAt_of_stopTimer (activeAt_of_stopTimer ht')⟩

/-- Every active timer is registered under the number of the packet it re-sends. -/
def Keyed (s : TcpSession) : Prop :=
  ∀ k t, s.timerManager.activeAt k = some t → t.callback.packet.seq = k

/-- Timers keep the numbers of their packets along every step. -/
theorem keyed_step {s s' : TcpSession} {e : Event} (hs : s.Keyed) (h : step s e = some s') :
    s'.Keyed := by
  by_cases hexpire : ∃ k, e = .expire k
  · obtain ⟨k, rfl⟩ := hexpire
    obtain ⟨t, hactive, -⟩ := expire_eq_some_iff.mp h
    intro j t' ht'
    rcases activeAt_expire hactive (hs k t hactive) h ht' with ⟨-, hold⟩ | ⟨rfl, -, hpacket, -⟩
    · exact hs j t' hold
    · rw [hpacket, refreshPacket_seq]
      exact hs j t hactive
  · rw [not_exists] at hexpire
    intro j t' ht'
    rcases (step_grows hexpire h).timers j t' ht' with hold | harmed
    · exact hs j t' hold
    · exact harmed.seq

end TcpSession

end MyuTcp
