import MyuTcp.Core.Run

/-!
# Destinations

Where the packets of a session go.  Control segments capture the remote address
when they are sent; data segments register their closure without an address, so
that their retransmissions go to the default arguments of {lit}`_handle_retransmit`.

Main results:

- Theorem {lit}`Addressed.move`: every move other than the expiry of a data segment
  sends to the remote address, and keeps the addresses captured by timers.
- Theorem {lit}`sent_to_remote_iff`: in a run of a created session all packets go to
  the remote address exactly when that is the default address or no data segment's
  timer expires below the retry limit.
-/

namespace MyuTcp

open Library

namespace TcpSession

/-- The remote address is set, packets went to it, and each active timer captured
what its kind of segment captures. -/
structure Addressed (ip : String) (port : UInt16) (s : TcpSession) : Prop where
  remoteIp : s.remoteIp = ip
  remotePort : s.remotePort = port
  control : ∀ k t, s.timerManager.activeAt k = some t → t.callback.packet.payload = [] →
    t.callback.capturedIp = ip ∧ t.callback.capturedPort = port
  data : ∀ k t, s.timerManager.activeAt k = some t → t.callback.packet.payload ≠ [] →
    t.callback.capturedIp = defaultCapturedIp ∧ t.callback.capturedPort = defaultCapturedPort
  sent : ∀ d ∈ s.sent, d.destIp = ip ∧ d.destPort = port

/-- The timer of a data segment expires below the retry limit. -/
def ExpiresPayload (s : TcpSession) : Event → Prop
  | .expire k => ∃ t, s.timerManager.activeAt k = some t ∧ t.callback.packet.payload ≠ [] ∧
      ¬ t.callback.retransmitCount + 1 ≥ maxRetransmitCount
  | _ => False

/-- The event does not change the remote address. -/
def KeepsRemoteAddr (ip : String) (port : UInt16) : Event → Prop
  | .setRemoteAddr ip' port' => ip' = ip ∧ port' = port
  | _ => True

/-! ## Preservation -/

section Preservation

variable {ip : String} {port : UInt16} {s s' : TcpSession}

/-- Fewer active timers and the same log. -/
theorem Addressed.of_eq (h : Addressed ip port s) (hip : s'.remoteIp = s.remoteIp)
    (hport : s'.remotePort = s.remotePort)
    (htimers : ∀ k t, s'.timerManager.activeAt k = some t → s.timerManager.activeAt k = some t)
    (hsent : s'.sent = s.sent) : Addressed ip port s' where
  remoteIp := hip.trans h.remoteIp
  remotePort := hport.trans h.remotePort
  control k t ht := h.control k t (htimers k t ht)
  data k t ht := h.data k t (htimers k t ht)
  sent d hd := h.sent d (hsent ▸ hd)

/-- One more packet to the remote address. -/
theorem Addressed.append (h : Addressed ip port s) (hip : s'.remoteIp = s.remoteIp)
    (hport : s'.remotePort = s.remotePort)
    (htimers : s'.timerManager = s.timerManager) {d : Datagram}
    (hd : d.destIp = s.remoteIp ∧ d.destPort = s.remotePort)
    (hsent : s'.sent = s.sent ++ [d]) : Addressed ip port s' where
  remoteIp := hip.trans h.remoteIp
  remotePort := hport.trans h.remotePort
  control k t ht := h.control k t (htimers ▸ ht)
  data k t ht := h.data k t (htimers ▸ ht)
  sent d' hd' := by
    rw [hsent, List.mem_append, List.mem_singleton] at hd'
    rcases hd' with hd' | rfl
    · exact h.sent d' hd'
    · rw [← h.remoteIp, ← h.remotePort]
      exact hd

/-- One more timer, with the address its kind of segment captures. -/
theorem Addressed.startTimer (h : Addressed ip port s) (k : UInt32) (timeoutMs : UInt64)
    {c : RetransmitClosure}
    (hcontrol : c.packet.payload = [] → c.capturedIp = ip ∧ c.capturedPort = port)
    (hdata : c.packet.payload ≠ [] →
      c.capturedIp = defaultCapturedIp ∧ c.capturedPort = defaultCapturedPort) :
    Addressed ip port { s with timerManager := s.timerManager.startTimer k timeoutMs c } where
  remoteIp := h.remoteIp
  remotePort := h.remotePort
  control j t ht := by
    rw [TimerManager.activeAt_startTimer] at ht
    split at ht
    · cases ht
      exact hcontrol
    · exact h.control j t ht
  data j t ht := by
    rw [TimerManager.activeAt_startTimer] at ht
    split at ht
    · cases ht
      exact hdata
    · exact h.data j t ht
  sent := h.sent

/-- A pure acknowledgment goes to the peer. -/
theorem Addressed.sendPureAck (h : Addressed ip port s) (ackNum : UInt32) :
    Addressed ip port (s.sendPureAck ackNum) :=
  h.append rfl rfl rfl ⟨rfl, rfl⟩ (by rw [sendPureAck_eq])

/-- A control packet goes to the peer, and so does its retransmission. -/
theorem Addressed.sendControlPacket (h : Addressed ip port s) (flags : UInt8) :
    Addressed ip port (s.sendControlPacket flags) := by
  by_cases hflags : ((flags &&& flagSyn != 0) || (flags &&& flagFin != 0)) = true
  · have hstart := h.startTimer s.sendWindow.sendNext s.getTimeoutMs
      (c := s.controlClosure flags s.recvWindow.recvNext) (fun _ => ⟨h.remoteIp, h.remotePort⟩)
      (fun hne => absurd rfl hne)
    rw [sendControlPacket_eq s hflags]
    exact hstart.append rfl rfl rfl ⟨rfl, rfl⟩ rfl
  · have hhas : ((calculateChecksum (s.segment flags s.recvWindow.recvNext [])).has flagSyn ||
        (calculateChecksum (s.segment flags s.recvWindow.recvNext [])).has flagFin) = false := by
      simpa using hflags
    rw [TcpSession.sendControlPacket, hhas]
    exact h.append rfl rfl rfl ⟨rfl, rfl⟩ rfl

/-- A data packet goes to the peer; its timer has the default address. -/
theorem Addressed.sendPayloadPacket (h : Addressed ip port s) (payload : List UInt8)
    (flags : UInt8) : Addressed ip port (s.sendPayloadPacket payload flags) := by
  by_cases hne : payload = []
  · rw [TcpSession.sendPayloadPacket, if_pos (by simp [hne])]
    exact h
  · have hstart := h.startTimer s.sendWindow.sendNext s.getTimeoutMs
      (c := s.payloadClosure payload flags) (fun hnil => absurd hnil hne)
      (fun _ => ⟨rfl, rfl⟩)
    rw [sendPayloadPacket_eq s hne]
    exact hstart.append rfl rfl rfl ⟨rfl, rfl⟩ rfl

/-- {lit}`_handle_try_send` sends to the peer. -/
theorem Addressed.handleTrySend (h : Addressed ip port s) : Addressed ip port s.handleTrySend := by
  by_cases htransmits : s.Transmits
  · rw [s.handleTrySend_of_transmits htransmits,
      ← sendPayloadPacket_eq s (s.nextPayload_ne_nil htransmits)]
    exact h.sendPayloadPacket _ _
  · rw [s.handleTrySend_of_not htransmits]
    exact h

/-- Stopping a timer sends nothing. -/
theorem Addressed.stopTimer (h : Addressed ip port s) (k : UInt32) :
    Addressed ip port { s with timerManager := s.timerManager.stopTimer k } := by
  refine h.of_eq rfl rfl ?_ rfl
  intro j t ht
  rw [TimerManager.activeAt_stopTimer] at ht
  split at ht
  · contradiction
  · exact ht

/-- Stopping all timers sends nothing. -/
theorem Addressed.stopAllTimers (h : Addressed ip port s) :
    Addressed ip port { s with timerManager := s.timerManager.stopAllTimers } := by
  refine h.of_eq rfl rfl ?_ rfl
  intro j t ht
  rw [TimerManager.activeAt_stopAllTimers] at ht
  contradiction

/-- Releasing packets sends nothing. -/
theorem Addressed.releaseAcked (h : Addressed ip port s) (ackNum : UInt32) :
    Addressed ip port (s.releaseAcked ackNum) := by
  refine h.of_eq rfl rfl ?_ rfl
  intro j t ht
  rw [TcpSession.releaseAcked, TimerManager.activeAt_dropTimerUpTo] at ht
  split at ht
  · contradiction
  · exact ht

/-- A fast retransmission goes to the peer. -/
theorem Addressed.processAck (h : Addressed ip port s) (ackNum : UInt32) :
    Addressed ip port (s.processAck ackNum) := by
  obtain ⟨a, d, hframe⟩ := (s.releaseAcked ackNum).countDupAck_frame ackNum
  have hcount : Addressed ip port ((s.releaseAcked ackNum).countDupAck ackNum) := by
    rw [hframe]
    exact (h.releaseAcked ackNum).of_eq rfl rfl (fun _ _ ht => ht) rfl
  have hfast : Addressed ip port
      (((s.releaseAcked ackNum).countDupAck ackNum).fastRetransmit ackNum) := by
    rw [fastRetransmit]
    split
    · have hresend := hcount.stopTimer ackNum
      rw [onRecvThreeDupAck]
      dsimp only
      split
      · exact (hresend.sendPayloadPacket _ _).of_eq rfl rfl (fun _ _ ht => ht) rfl
      · exact hresend.of_eq rfl rfl (fun _ _ ht => ht) rfl
    · exact hcount
  exact hfast.of_eq rfl rfl (fun _ _ ht => ht) rfl

/-- A retransmission goes where its closure says. -/
theorem Addressed.runClosure (h : Addressed ip port s) {c : RetransmitClosure}
    (hcontrol : c.packet.payload = [] → c.capturedIp = ip ∧ c.capturedPort = port)
    (hdata : c.packet.payload ≠ [] →
      c.capturedIp = defaultCapturedIp ∧ c.capturedPort = defaultCapturedPort)
    (hok : (ip = defaultCapturedIp ∧ port = defaultCapturedPort) ∨ c.packet.payload = [] ∨
      c.retransmitCount + 1 ≥ maxRetransmitCount) : Addressed ip port (s.runClosure c) := by
  by_cases hlimit : c.retransmitCount + 1 ≥ maxRetransmitCount
  · rw [runClosure_of_limit s hlimit]
    exact h.stopTimer _
  · have hdest : c.capturedIp = ip ∧ c.capturedPort = port := by
      rcases hok with ⟨rfl, rfl⟩ | hnil | hge
      · by_cases hnil : c.packet.payload = []
        · exact hcontrol hnil
        · exact hdata hnil
      · exact hcontrol hnil
      · exact absurd hge hlimit
    rw [runClosure_of_lt s hlimit]
    have hstart := (h.stopTimer c.packet.seq).startTimer c.packet.seq
      (s.getTimeoutMs * (1 <<< (c.retransmitCount + 1).toUInt64))
      (c := { packet := s.refreshPacket c.packet, retransmitCount := c.retransmitCount + 1,
              capturedIp := c.capturedIp, capturedPort := c.capturedPort })
      (by simpa using hcontrol) (by simpa using hdata)
    exact hstart.append rfl rfl rfl
      ⟨hdest.1.trans h.remoteIp.symm, hdest.2.trans h.remotePort.symm⟩ rfl

/-- Every move keeps the addresses, unless a data segment's timer expires below the
retry limit and the default address is not the remote one. -/
theorem Addressed.move {s₀ a b : TcpSession} {e : Event} (h₀ : Addressed ip port s₀)
    (h : Addressed ip port a) (hkeeps : KeepsRemoteAddr ip port e)
    (hok : (ip = defaultCapturedIp ∧ port = defaultCapturedPort) ∨ ¬ s₀.ExpiresPayload e)
    (hmove : Move s₀ e a b) : Addressed ip port b := by
  cases hmove with
  | note s peer wantClose calls => exact h.of_eq rfl rfl (fun _ _ ht => ht) rfl
  | setRemoteAddr ip' port' =>
      exact ⟨hkeeps.1, hkeeps.2, h.control, h.data, h.sent⟩
  | setListenerPort port' => exact h.of_eq rfl rfl (fun _ _ ht => ht) rfl
  | connect iss =>
      have hopen : Addressed ip port
          { ((s₀.transitionTo .synSent).notify .setOnReceive) with
            sendWindow.sendNext := iss, sendWindow.sendUnack := iss } :=
        h.of_eq rfl rfl (fun _ _ ht => ht) rfl
      exact (hopen.sendControlPacket flagSyn).of_eq rfl rfl (fun _ _ ht => ht) rfl
  | listen hstate => exact h.of_eq rfl rfl (fun _ _ ht => ht) rfl
  | enqueue hpush => exact h.of_eq rfl rfl (fun _ _ ht => ht) rfl
  | trySend s => exact h.handleTrySend
  | read s hn => exact h.of_eq rfl rfl (fun _ _ ht => ht) rfl
  | closeEstablished hstate =>
      have hstop : Addressed ip port
          ({ s₀.handleTrySend with
              timerManager := s₀.handleTrySend.timerManager.stopAllTimers }.transitionTo
            .finWait1) := h.stopAllTimers.of_eq rfl rfl (fun _ _ ht => ht) rfl
      exact (hstop.sendControlPacket flagFin).of_eq rfl rfl (fun _ _ ht => ht) rfl
  | closeCloseWait s hstate =>
      have hlast : Addressed ip port (a.transitionTo .lastAck) :=
        h.of_eq rfl rfl (fun _ _ ht => ht) rfl
      exact (hlast.sendControlPacket (flagFin ||| flagAck)).of_eq rfl rfl (fun _ _ ht => ht) rfl
  | abortOpening hstate =>
      exact (h.sendControlPacket flagRst).stopAllTimers.of_eq rfl rfl (fun _ _ ht => ht) rfl
  | reset hrst => exact h.stopAllTimers.of_eq rfl rfl (fun _ _ ht => ht) rfl
  | @passiveOpen packet iss hstate hsyn =>
      have hopen : Addressed ip port
          (({ s₀.observe packet with
              sendWindow.sendNext := iss
              sendWindow.sendUnack := iss
              recvWindow.recvNext := packet.seq + 1 } : TcpSession).transitionTo
            .synReceived) := h.of_eq rfl rfl (fun _ _ ht => ht) rfl
      rw [handleListen, if_neg (by simpa using hsyn)]
      exact (hopen.sendControlPacket (flagSyn ||| flagAck)).of_eq rfl rfl (fun _ _ ht => ht) rfl
  | @synAck packet iss hstate hsyn hflag hack =>
      have hstop := h.stopTimer (s₀.observe packet).sendWindow.sendUnack
      have hack : Addressed ip port
          { s₀.observe packet with
            timerManager := (s₀.observe packet).timerManager.stopTimer
              (s₀.observe packet).sendWindow.sendUnack
            sent := (s₀.observe packet).sent ++
              [(s₀.observe packet).datagram flagAck (packet.seq + 1) []] } :=
        hstop.append rfl rfl rfl ⟨rfl, rfl⟩ rfl
      rw [acceptSynAck_eq]
      exact hack.of_eq rfl rfl (fun _ _ ht => ht) rfl
  | @peerSyn packet iss hstate hsyn hflag =>
      have hopen : Addressed ip port
          (({ s₀.observe packet with
              recvWindow.recvNext := packet.seq + 1 } : TcpSession).transitionTo
            .synReceived) := h.of_eq rfl rfl (fun _ _ ht => ht) rfl
      exact hopen.sendControlPacket (flagSyn ||| flagAck)
  | synReceivedAck hstate hflag hack =>
      exact (h.stopTimer _).of_eq rfl rfl (fun _ _ ht => ht) rfl
  | ack haccepts => exact h.processAck _
  | pureAck s hstate => exact h.sendPureAck _
  | inOrder s hstate hseq hdrain =>
      rw [reassemble, acceptPayload]
      split <;> exact h.of_eq rfl rfl (fun _ _ ht => ht) rfl
  | outOfOrder s hstate hseq =>
      rw [storeOutOfOrder]
      split
      · exact h.of_eq rfl rfl (fun _ _ ht => ht) rfl
      · exact h
  | @fin packet iss s next hfin hnext horder =>
      have hnextSeq : Addressed ip port { a with recvWindow.recvNext := packet.seq + 1 } :=
        h.of_eq rfl rfl (fun _ _ ht => ht) rfl
      exact (hnextSeq.sendPureAck _).of_eq rfl rfl (fun _ _ ht => ht) rfl
  | finAcked hstate hflag hack => exact (h.stopTimer _).of_eq rfl rfl (fun _ _ ht => ht) rfl
  | start2Msl s hstate => exact h.of_eq rfl rfl (fun _ _ ht => ht) rfl
  | finishCloseWait s hstate =>
      rw [TcpSession.finishCloseWait]
      split
      · exact (h.stopAllTimers.sendControlPacket flagFin).of_eq rfl rfl (fun _ _ ht => ht) rfl
      · exact h
  | lastAck hstate hflag hack => exact (h.stopTimer _).of_eq rfl rfl (fun _ _ ht => ht) rfl
  | @expire k t hactive =>
      refine (h₀.stopTimer k).runClosure (h₀.control k t hactive) (h₀.data k t hactive) ?_
      refine hok.imp_right fun hnot => ?_
      by_contra hboth
      rw [not_or] at hboth
      exact hnot ⟨t, hactive, hboth.1, hboth.2⟩
  | expire2Msl hactive => exact h.of_eq rfl rfl (fun _ _ ht => ht) rfl

/-- A step that keeps the address of the peer sends to it, if no data timer expires or the peer
has the default address. -/
theorem Addressed.step {e : Event} (h : Addressed ip port s) (hkeeps : KeepsRemoteAddr ip port e)
    (hok : (ip = defaultCapturedIp ∧ port = defaultCapturedPort) ∨ ¬ s.ExpiresPayload e)
    (hstep : TcpSession.step s e = some s') : Addressed ip port s' :=
  (step_moves hstep).preserves (fun _ _ ha hmove => h.move ha hkeeps hok hmove) h

/-- So does a run. -/
theorem Addressed.run {es : List Event} (h : Addressed ip port s)
    (hkeeps : ∀ e ∈ es, KeepsRemoteAddr ip port e)
    (hok : (ip = defaultCapturedIp ∧ port = defaultCapturedPort) ∨
      TcpSession.step.AllSteps (fun s e => ¬ s.ExpiresPayload e) s es)
    (hrun : TcpSession.step.run s es = some s') : Addressed ip port s' := by
  induction es generalizing s with
  | nil =>
      cases hrun
      exact h
  | cons e es ih =>
      rw [StepFn.run_cons, Option.bind_eq_some_iff] at hrun
      obtain ⟨s₁, hs₁, hrun⟩ := hrun
      rw [List.forall_mem_cons] at hkeeps
      refine ih (h.step hkeeps.1 (hok.imp_right And.left) hs₁) hkeeps.2 ?_ hrun
      exact hok.imp_right fun hall => hall.2 s₁ hs₁

/-- A new session has sent nothing. -/
theorem addressed_createSession (ip : String) (port : UInt16)
    (initialSendSeq initialRecvSeq : UInt32) (listenerPort firstPort : UInt16) :
    Addressed ip port
      (createSession initialSendSeq initialRecvSeq listenerPort firstPort ip port) where
  remoteIp := rfl
  remotePort := rfl
  control _ _ ht := nomatch ht
  data _ _ ht := nomatch ht
  sent _ hd := nomatch hd

end Preservation

/-! ## All packets go to the remote address -/

/-- An expiry of a data segment's timer sends to the default address. -/
theorem exists_sent_default {ip : String} {port : UInt16} {s s' : TcpSession} {e : Event}
    (h : Addressed ip port s) (hexpires : s.ExpiresPayload e) (hstep : step s e = some s') :
    ∃ d ∈ s'.sent, d.destIp = defaultCapturedIp ∧ d.destPort = defaultCapturedPort := by
  cases e with
  | expire k =>
      obtain ⟨t, hactive, hpayload, hlimit⟩ := hexpires
      obtain ⟨t', hactive', rfl⟩ := expire_eq_some_iff.mp hstep
      cases hactive.symm.trans hactive'
      rw [runClosure_of_lt _ hlimit]
      exact ⟨_, List.mem_append_right _ (List.mem_singleton_self _), h.data k t hactive hpayload⟩
  | _ => exact hexpires.elim

/-- When all packets went to an address other than the default, no such timer expired. -/
theorem allSteps_of_sent {ip : String} {port : UInt16} {s s' : TcpSession} {es : List Event}
    (h : Addressed ip port s) (hkeeps : ∀ e ∈ es, KeepsRemoteAddr ip port e)
    (hrun : step.run s es = some s') (hsent : ∀ d ∈ s'.sent, d.destIp = ip ∧ d.destPort = port)
    (hdefault : ¬ (ip = defaultCapturedIp ∧ port = defaultCapturedPort)) :
    step.AllSteps (fun s e => ¬ s.ExpiresPayload e) s es := by
  induction es generalizing s with
  | nil => trivial
  | cons e es ih =>
      rw [StepFn.run_cons, Option.bind_eq_some_iff] at hrun
      obtain ⟨s₁, hs₁, hrun⟩ := hrun
      rw [List.forall_mem_cons] at hkeeps
      have hnot : ¬ s.ExpiresPayload e := by
        intro hexpires
        obtain ⟨d, hd, hip, hport⟩ := exists_sent_default h hexpires hs₁
        obtain ⟨hip', hport'⟩ := hsent d ((sent_prefix_run hrun).subset hd)
        exact hdefault ⟨hip'.symm.trans hip, hport'.symm.trans hport⟩
      refine ⟨hnot, fun s₂ hs₂ => ?_⟩
      cases hs₁.symm.trans hs₂
      exact ih (h.step hkeeps.1 (.inr hnot) hs₁) hkeeps.2 hrun

/-- In a run of a created session whose remote address is not changed, every packet
goes to that address exactly when it is the default address of the retransmission
closure, or no timer of a data segment expires below the retry limit. -/
theorem sent_to_remote_iff {initialSendSeq initialRecvSeq : UInt32}
    {listenerPort firstPort port : UInt16} {ip : String} {es : List Event} {s : TcpSession}
    (hkeeps : ∀ e ∈ es, KeepsRemoteAddr ip port e)
    (hrun : step.run
      (createSession initialSendSeq initialRecvSeq listenerPort firstPort ip port) es = some s) :
    (∀ d ∈ s.sent, d.destIp = ip ∧ d.destPort = port) ↔
      (ip = defaultCapturedIp ∧ port = defaultCapturedPort) ∨
        step.AllSteps (fun s e => ¬ s.ExpiresPayload e)
          (createSession initialSendSeq initialRecvSeq listenerPort firstPort ip port) es := by
  have h₀ := addressed_createSession ip port initialSendSeq initialRecvSeq listenerPort firstPort
  refine ⟨fun hsent => ?_, fun hok => (h₀.run hkeeps hok hrun).sent⟩
  by_cases hdefault : ip = defaultCapturedIp ∧ port = defaultCapturedPort
  · exact .inl hdefault
  · exact .inr (allSteps_of_sent h₀ hkeeps hrun hsent hdefault)

/-- The client's first data segment is lost and its timer expires. -/
def lostDataRun : List Event :=
  [.connect 0, .input (peerPacket (flagSyn ||| flagAck) 100 1 1024 []) 0, .send [7], .expire 1]

theorem sent_to_remote_iff_lostData :
    ∃ s, step.run clientSession lostDataRun = some s ∧
      ((∀ d ∈ s.sent, d.destIp = "10.0.0.2" ∧ d.destPort = 8000) ↔
        ("10.0.0.2" = defaultCapturedIp ∧ (8000 : UInt16) = defaultCapturedPort) ∨
          step.AllSteps (fun s e => ¬ s.ExpiresPayload e) clientSession lostDataRun) := by
  obtain ⟨s, hs⟩ : ∃ s, step.run clientSession lostDataRun = some s :=
    Option.isSome_iff_exists.mp (by decide +kernel)
  refine ⟨s, hs, sent_to_remote_iff ?_ hs⟩
  simp [lostDataRun, KeepsRemoteAddr]

/-- The retransmission of the data segment misses the peer. -/
theorem lostDataRun_misses :
    ∃ s, step.run clientSession lostDataRun = some s ∧
      ∃ d ∈ s.sent, d.packet.payload = [7] ∧ ¬ (d.destIp = "10.0.0.2" ∧ d.destPort = 8000) := by
  have hrun : ((step.run clientSession lostDataRun).any fun s => s.sent.any fun d =>
      d.packet.payload = [7] ∧ ¬ (d.destIp = "10.0.0.2" ∧ d.destPort = 8000)) = true := by
    decide +kernel
  obtain ⟨s, hs, hsent⟩ := (Option.any_eq_true _ _).mp hrun
  obtain ⟨d, hd, hmiss⟩ := List.any_eq_true.mp hsent
  exact ⟨s, hs, d, hd, of_decide_eq_true hmiss⟩

end TcpSession

end MyuTcp
