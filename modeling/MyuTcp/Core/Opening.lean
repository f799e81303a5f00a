import MyuTcp.Core.Emissions
import MyuTcp.Core.StateMachine

/-!
# Sessions before they are established

What a step can do with a session in CLOSED, LISTEN, SYN_SENT or SYN_RECEIVED.  Such a
session sends no data, so a step is quiet, sends one control packet, or establishes the
connection.

Main results:

- Theorem {lit}`opening_step`: the steps of a session that is not established.
- Theorem {lit}`establishes_iff`: a step enters ESTABLISHED exactly through one of the two
  moments at which the state changes, after which it tries to send.
-/

namespace MyuTcp

open Library

namespace TcpSession

/-- The session has not been established since it was opened. -/
def NotEstablished (s : TcpSession) : Prop :=
  s.state = .closed ∨ s.state = .listen ∨ s.state = .synSent ∨ s.state = .synReceived

/-- A session that is opening has no data to exchange yet. -/
theorem NotEstablished.not_open {s : TcpSession} (h : s.NotEstablished) :
    s.state ≠ .established ∧ s.state ≠ .closeWait := by
  rcases h with h | h | h | h <;> simp [h]

/-- The effect of a step on a session that is not established. -/
inductive OpeningStep (s : TcpSession) : Event → TcpSession → Prop
  | quiet {e : Event} {s' : TcpSession} (hstate : s'.state = s.state)
      (hsend : s'.sendWindow = s.sendWindow) (hrecv : s'.recvWindow = s.recvWindow)
      (hsent : s'.sent = s.sent) (htimers : s'.timerManager = s.timerManager) :
      OpeningStep s e s'
  | listened (hstate : s.state = .closed) : OpeningStep s .listen (s.transitionTo .listen)
  | connected (iss : UInt32) : OpeningStep s (.connect iss) (s.connect iss)
  | aborted (hstate : s.state = .synSent ∨ s.state = .synReceived) :
      OpeningStep s .close s.abortOpening
  | reset {packet : MyuTcpPacket} {iss : UInt32} (hrst : packet.has flagRst = true) :
      OpeningStep s (.input packet iss) s.handleReset
  | passiveOpen {packet : MyuTcpPacket} {iss : UInt32} (hadmitted : Admitted packet)
      (hstate : s.state = .listen) (hsyn : packet.has flagSyn = true) :
      OpeningStep s (.input packet iss) ((s.observe packet).handleListen packet iss)
  | synAck {packet : MyuTcpPacket} {iss : UInt32} (hadmitted : Admitted packet)
      (hstate : s.state = .synSent) (hsyn : packet.has flagSyn = true)
      (hflag : packet.has flagAck = true) (hack : packet.ack = s.sendWindow.sendUnack + 1) :
      OpeningStep s (.input packet iss) ((s.observe packet).acceptSynAck packet).handleTrySend
  | peerSyn {packet : MyuTcpPacket} {iss : UInt32} (hadmitted : Admitted packet)
      (hstate : s.state = .synSent) (hsyn : packet.has flagSyn = true)
      (hflag : packet.has flagAck = false) :
      OpeningStep s (.input packet iss) ((s.observe packet).acceptPeerSyn packet)
  | synReceivedAck {packet : MyuTcpPacket} {iss : UInt32} (hadmitted : Admitted packet)
      (hstate : s.state = .synReceived) (hflag : packet.has flagAck = true)
      (hack : packet.ack = s.sendWindow.sendUnack + 1) :
      OpeningStep s (.input packet iss)
        ((s.observe packet).acceptSynReceivedAck packet).handleTrySend
  | expired {k : UInt32} {s' : TcpSession} (h : s.expire k = some s') :
      OpeningStep s (.expire k) s'
  | expired2Msl : OpeningStep s .expire2Msl
      { s with timerManager := s.timerManager.stop2Msl }.handle2MslTimeout

section Steps

variable {s s' : TcpSession} {packet : MyuTcpPacket} {iss : UInt32}

/-- What a packet does to a session that is opening. -/
theorem opening_dispatch (hopening : s.NotEstablished) (hadmitted : Admitted packet)
    (h : (s.observe packet).dispatch packet iss = some s') :
    OpeningStep s (.input packet iss) s' := by
  have hquiet : OpeningStep s (.input packet iss) (s.observe packet) :=
    .quiet rfl rfl rfl rfl rfl
  rcases hopening with hstate | hstate | hstate | hstate
  · rw [dispatch, show (s.observe packet).state = .closed from hstate] at h
    cases h
    exact .quiet hstate.symm rfl rfl rfl rfl
  · rw [dispatch, show (s.observe packet).state = .listen from hstate] at h
    cases h
    by_cases hsyn : packet.has flagSyn = true
    · exact .passiveOpen hadmitted hstate hsyn
    · rw [handleListen, if_pos (by simpa using hsyn)]
      exact hquiet
  · rw [dispatch, show (s.observe packet).state = .synSent from hstate] at h
    cases h
    rw [handleSynSent]
    split <;> rename_i hflags
    · rw [Bool.and_eq_true] at hflags
      split <;> rename_i hack
      · exact hquiet
      · exact .synAck hadmitted hstate hflags.1 hflags.2 (not_not.mp hack)
    · split <;> rename_i hsyn
      · exact .peerSyn hadmitted hstate hsyn (by simpa [hsyn] using hflags)
      · exact hquiet
  · rw [dispatch, show (s.observe packet).state = .synReceived from hstate] at h
    cases h
    rw [handleSynReceived]
    split <;> rename_i hflag
    · exact hquiet
    · split <;> rename_i hack
      · exact hquiet
      · exact .synReceivedAck hadmitted hstate (by simpa using hflag) (not_not.mp hack)

/-- The steps of a session that is not established. -/
theorem opening_step {e : Event} (hopening : s.NotEstablished) (h : step s e = some s') :
    OpeningStep s e s' := by
  have hopen := hopening.not_open
  cases e with
  | setRemoteAddr ip port => cases h; exact .quiet rfl rfl rfl rfl rfl
  | setListenerPort port => cases h; exact .quiet rfl rfl rfl rfl rfl
  | connect iss => cases h; exact .connected iss
  | listen =>
      cases h
      rw [listen]
      split <;> rename_i hstate
      · exact .quiet rfl rfl rfl rfl rfl
      · exact .listened (not_not.mp hstate)
  | send data =>
      cases h
      rcases send_of_not_open hopen data with ⟨buffer, hsend⟩
      rw [hsend]
      exact .quiet rfl rfl rfl rfl rfl
  | recv bufSize =>
      cases h
      rcases recv_of_not_closeWait hopen.2 bufSize with ⟨buffer, hrecv⟩
      rw [hrecv]
      exact .quiet rfl rfl rfl rfl rfl
  | readAll =>
      cases h
      rcases readAll_of_not_closeWait hopen.2 with ⟨buffer, hread⟩
      rw [hread]
      exact .quiet rfl rfl rfl rfl rfl
  | close =>
      cases h
      rcases hopening with hstate | hstate | hstate | hstate
      · rw [close, hstate]
        exact .quiet rfl rfl rfl rfl rfl
      · rw [close, hstate]
        exact .quiet rfl rfl rfl rfl rfl
      · rw [close, hstate]
        exact .aborted (Or.inl hstate)
      · rw [close, hstate]
        exact .aborted (Or.inr hstate)
  | input packet iss =>
      rcases input_cases h with ⟨-, -, rfl⟩ | ⟨-, rfl⟩ | ⟨-, hrst, rfl⟩ | ⟨hadmitted, h⟩
      · exact .quiet rfl rfl rfl rfl rfl
      · exact .quiet rfl rfl rfl rfl rfl
      · exact .reset hrst
      · exact opening_dispatch hopening hadmitted h
  | expire k => exact .expired h
  | expire2Msl =>
      rw [step] at h
      split at h
      · cases h
        exact .expired2Msl
      · contradiction

/-- An expiry keeps the state, the numbers and the receive window. -/
theorem expire_frame {k : UInt32} (h : s.expire k = some s') :
    s'.state = s.state ∧ s'.sendWindow.sendUnack = s.sendWindow.sendUnack ∧
      s'.sendWindow.sendNext = s.sendWindow.sendNext ∧ s'.recvWindow = s.recvWindow := by
  rcases expire_eq_some_iff.mp h with ⟨t, -, rfl⟩
  by_cases hlimit : t.callback.retransmitCount + 1 ≥ maxRetransmitCount
  · rw [runClosure_of_limit _ hlimit]
    exact ⟨rfl, rfl, rfl, rfl⟩
  · rw [runClosure_of_lt _ hlimit]
    exact ⟨rfl, rfl, rfl, rfl⟩

/-! ## The moment of establishment -/

/-- The session at the moment at which the event makes it established, before it tries to
send what is buffered. -/
def establishment (s : TcpSession) : Event → Option TcpSession
  | .input packet _ =>
      if Admitted packet ∧ s.state = .synSent ∧ packet.has flagSyn = true ∧
          packet.has flagAck = true ∧ packet.ack = s.sendWindow.sendUnack + 1 then
        some ((s.observe packet).acceptSynAck packet)
      else if Admitted packet ∧ s.state = .synReceived ∧ packet.has flagAck = true ∧
          packet.ack = s.sendWindow.sendUnack + 1 then
        some ((s.observe packet).acceptSynReceivedAck packet)
      else none
  | _ => none

/-- The SYN-ACK establishes a session in SYN_SENT. -/
theorem establishment_of_synAck (hadmitted : Admitted packet) (hstate : s.state = .synSent)
    (hsyn : packet.has flagSyn = true) (hflag : packet.has flagAck = true)
    (hack : packet.ack = s.sendWindow.sendUnack + 1) :
    s.establishment (.input packet iss) = some ((s.observe packet).acceptSynAck packet) :=
  if_pos ⟨hadmitted, hstate, hsyn, hflag, hack⟩

/-- The ACK of its SYN establishes a session in SYN_RECEIVED. -/
theorem establishment_of_synReceivedAck (hadmitted : Admitted packet)
    (hstate : s.state = .synReceived) (hflag : packet.has flagAck = true)
    (hack : packet.ack = s.sendWindow.sendUnack + 1) :
    s.establishment (.input packet iss) =
      some ((s.observe packet).acceptSynReceivedAck packet) := by
  rw [establishment, if_neg (by simp [hstate]), if_pos ⟨hadmitted, hstate, hflag, hack⟩]

/-- The two ways to become established. -/
theorem establishment_cases {e : Event} {m : TcpSession} (h : s.establishment e = some m) :
    ∃ packet iss, e = .input packet iss ∧ Admitted packet ∧ packet.has flagAck = true ∧
      packet.ack = s.sendWindow.sendUnack + 1 ∧
      ((s.state = .synSent ∧ packet.has flagSyn = true ∧
          m = (s.observe packet).acceptSynAck packet) ∨
        (s.state = .synReceived ∧ m = (s.observe packet).acceptSynReceivedAck packet)) := by
  unfold establishment at h
  split at h
  · rename_i packet iss
    split at h <;> rename_i hguard
    · rcases hguard with ⟨hadmitted, hstate, hsyn, hflag, hack⟩
      cases h
      exact ⟨packet, iss, rfl, hadmitted, hflag, hack, Or.inl ⟨hstate, hsyn, rfl⟩⟩
    · split at h <;> rename_i hguard'
      · rcases hguard' with ⟨hadmitted, hstate, hflag, hack⟩
        cases h
        exact ⟨packet, iss, rfl, hadmitted, hflag, hack, Or.inr ⟨hstate, rfl⟩⟩
      · contradiction
  · contradiction

/-- Establishment is a step into ESTABLISHED. -/
theorem step_of_establishment {e : Event} {m : TcpSession} (h : s.establishment e = some m) :
    step s e = some m.handleTrySend ∧ m.state = .established ∧ s.state ≠ .established := by
  rcases establishment_cases h with
    ⟨packet, iss, rfl, hadmitted, hflag, hack, ⟨hstate, hsyn, rfl⟩ | ⟨hstate, rfl⟩⟩
  · refine ⟨?_, ?_, by simp [hstate]⟩
    · rw [step, input_of_admitted hadmitted, dispatch,
        show (s.observe packet).state = .synSent from hstate]
      dsimp only
      rw [handleSynSent, if_pos (by rw [hsyn, hflag]; rfl)]
      exact congrArg some (if_neg (not_not.mpr hack))
    · rw [acceptSynAck_eq]
  · refine ⟨?_, rfl, by simp [hstate]⟩
    rw [step, input_of_admitted hadmitted, dispatch,
      show (s.observe packet).state = .synReceived from hstate]
    dsimp only
    rw [handleSynReceived, if_neg (by simp [hflag])]
    exact congrArg some (if_neg (not_not.mpr hack))

/-- A step enters ESTABLISHED exactly through one of the two moments. -/
theorem establishes_iff {e : Event} (h : step s e = some s') :
    s.state ≠ .established ∧ s'.state = .established ↔
      ∃ m, s.establishment e = some m ∧ s' = m.handleTrySend := by
  constructor
  · rintro ⟨hbefore, hafter⟩
    have hmoment : ∀ m, s.establishment e = some m → ∃ m, s.establishment e = some m ∧
        s' = m.handleTrySend := by
      intro m hm
      refine ⟨m, hm, ?_⟩
      rw [(step_of_establishment hm).1, Option.some.injEq] at h
      exact h.symm
    have htransition := step_transition h
    rw [hafter] at htransition
    generalize hnext : TcpState.established = next at htransition
    cases htransition with
    | stay => exact absurd hnext.symm hbefore
    | synAck hadmitted hstate hsyn hflag hack =>
        exact hmoment _ (establishment_of_synAck hadmitted hstate hsyn hflag hack)
    | synReceivedAck hadmitted hstate hflag hack =>
        exact hmoment _ (establishment_of_synReceivedAck hadmitted hstate hflag hack)
    | _ => contradiction
  · rintro ⟨m, hm, rfl⟩
    rcases step_of_establishment hm with ⟨-, hestablished, hbefore⟩
    exact ⟨hbefore, by rw [handleTrySend_state, hestablished]⟩

/-- A crossing SYN is answered. -/
theorem step_peerSyn (hadmitted : Admitted packet) (hstate : s.state = .synSent)
    (hsyn : packet.has flagSyn = true) (hflag : packet.has flagAck = false) :
    step s (.input packet iss) = some ((s.observe packet).acceptPeerSyn packet) := by
  rw [step, input_of_admitted hadmitted, dispatch,
    show (s.observe packet).state = .synSent from hstate]
  dsimp only
  rw [handleSynSent, if_neg (by simp [hflag]), if_pos hsyn]

/-- A packet that establishes a session carries an acknowledgment. -/
theorem establishment_has_ack {m : TcpSession} (hm : s.establishment e = some m) :
    ∃ packet iss, e = .input packet iss ∧ packet.has flagAck = true := by
  rcases establishment_cases hm with ⟨packet, iss, he, -, hflag, -⟩
  exact ⟨packet, iss, he, hflag⟩

/-! ## Sessions that have been opened -/

/-- The session cannot become established again without being opened again. -/
structure Past (s : TcpSession) : Prop where
  listen : s.state ≠ .listen
  synSent : s.state ≠ .synSent
  synReceived : s.state ≠ .synReceived

/-- What has been established is past its opening until it opens again. -/
theorem past_step (hs : Past s) (hopens : ¬ Opens e) (h : step s e = some s') : Past s' := by
  have htransition := step_transition h
  generalize hnext : s'.state = next at htransition
  cases htransition with
  | stay =>
      exact ⟨hnext ▸ hs.listen, hnext ▸ hs.synSent, hnext ▸ hs.synReceived⟩
  | connect iss => exact absurd trivial hopens
  | listen hstate => exact absurd trivial hopens
  | passiveOpen hadmitted hstate hsyn => exact absurd hstate hs.listen
  | peerSyn hadmitted hstate hsyn hflag => exact absurd hstate hs.synSent
  | _ => constructor <;> simp [hnext]

/-- An established session is past its opening. -/
theorem past_of_established (h : s.state = .established) : Past s := by
  constructor <;> simp [h]

/-- A session past its opening is not established again. -/
theorem Past.establishment (hs : Past s) : s.establishment e = none := by
  cases hm : s.establishment e with
  | none => rfl
  | some m =>
      rcases establishment_cases hm with
        ⟨packet, iss, -, -, -, -, ⟨hstate, -⟩ | ⟨hstate, -⟩⟩
      · exact absurd hstate hs.synSent
      · exact absurd hstate hs.synReceived

/-- No session returns to LISTEN by itself. -/
theorem not_listen_step (hs : s.state ≠ .listen) (hopens : ¬ Opens e)
    (h : step s e = some s') : s'.state ≠ .listen := by
  have htransition := step_transition h
  generalize s'.state = next at htransition
  cases htransition with
  | stay => exact hs
  | listen hstate => exact absurd trivial hopens
  | _ => simp

end Steps

end TcpSession

end MyuTcp
