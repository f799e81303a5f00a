import MyuTcp.Core.Callbacks
import MyuTcp.Properties.StreamSafety

/-!
# The end of a stream

When a session processes the FIN of its peer, and what it acknowledges.  Every handler sets
{lit}`recv_next_` to the number behind the FIN, whether or not what precedes the FIN has
arrived.

Main results:

- Theorem {lit}`takesFin_of_processesFin`: only a session in ESTABLISHED, FIN_WAIT_1,
  FIN_WAIT_2 or TIME_WAIT processes a FIN.
- Theorem {lit}`endOfStream_honest`: while no session takes a FIN that is ahead, everything
  before a FIN and everything that is acknowledged has been received.
-/

namespace MyuTcp

open Library

namespace TcpSession

/-- The step enters CLOSE_WAIT or TIME_WAIT, or it is a FIN that moves the expected number or
signals the end of the data. -/
def ProcessesFin (s : TcpSession) (e : Event) (s' : TcpSession) : Prop :=
  (s.state ≠ .closeWait ∧ s'.state = .closeWait) ∨
    (s.state ≠ .timeWait ∧ s'.state = .timeWait) ∨
    ∃ packet iss, e = .input packet iss ∧ packet.has flagFin = true ∧
      (s'.recvWindow.recvNext ≠ s.recvWindow.recvNext ∨ .data 0 ∈ newCalls s s')

/-- The expected number stays, and no end of the data is signalled. -/
structure KeepsStream (s s' : TcpSession) : Prop where
  recvNext : s'.recvWindow.recvNext = s.recvWindow.recvNext
  calls : .data 0 ∉ newCalls s s'

section Processes

variable {s s' : TcpSession} {e : Event} {packet : MyuTcpPacket} {iss : UInt32}

theorem keepsStream_of_append (hnext : s'.recvWindow.recvNext = s.recvWindow.recvNext)
    {l : List CallbackCall} (hcalls : s'.calls = s.calls ++ l) (hl : .data 0 ∉ l) :
    KeepsStream s s' where
  recvNext := hnext
  calls := by rwa [newCalls_of_append hcalls]

theorem keepsStream_of_eq (hnext : s'.recvWindow.recvNext = s.recvWindow.recvNext)
    (hcalls : s'.calls = s.calls) : KeepsStream s s' :=
  keepsStream_of_append hnext (hcalls.trans (List.append_nil _).symm) List.not_mem_nil

theorem finishCloseWait_recvWindow (s : TcpSession) :
    s.finishCloseWait.recvWindow = s.recvWindow := by
  by_cases hdrained : s.Drained
  · rw [finishCloseWait_of_drained _ hdrained]
  · rw [finishCloseWait_of_not _ hdrained]

/-- In the other states, a packet without SYN moves nothing in the stream. -/
theorem dispatch_keepsStream (hnot : ¬ s.TakesFin) (hsyn : packet.has flagSyn = false)
    (hstep : (s.observe packet).dispatch packet iss = some s') : KeepsStream s s' := by
  unfold TakesFin at hnot
  rw [dispatch] at hstep
  split at hstep <;> rename_i hstate <;> replace hstate : s.state = _ := hstate
  case h_5 => simp [hstate] at hnot
  all_goals cases hstep
  case h_6 => simp [hstate] at hnot
  case h_7 => simp [hstate] at hnot
  case h_10 => simp [hstate] at hnot
  · exact keepsStream_of_eq rfl rfl
  · rw [handleListen, if_pos (by simp [hsyn])]
    exact keepsStream_of_eq rfl rfl
  · rw [handleSynSent, if_neg (by simp [hsyn]), if_neg (by simp [hsyn])]
    exact keepsStream_of_eq rfl rfl
  · rw [handleSynReceived]
    split
    · exact keepsStream_of_eq rfl rfl
    · split
      · exact keepsStream_of_eq rfl rfl
      · refine keepsStream_of_append (l := [.established]) ?_ ?_ (by simp)
        · rw [handleTrySend_recvWindow]
          rfl
        · rw [handleTrySend_calls]
          rfl
  · refine keepsStream_of_eq ?_ ?_
    · rw [handleCloseWait, finishCloseWait_recvWindow, handleTrySend_recvWindow]
      rfl
    · rw [handleCloseWait, finishCloseWait_calls, handleTrySend_calls]
      rfl
  · rw [handleLastAck]
    split
    · exact keepsStream_of_eq rfl rfl
    · split
      · exact keepsStream_of_eq rfl rfl
      · exact keepsStream_of_append (l := [.closed]) rfl rfl (by simp)

/-- A FIN is processed in four states only. -/
theorem takesFin_of_processesFin (hstep : step s e = some s') (hprocesses : s.ProcessesFin e s')
    (hsyn : ∀ packet iss, e = .input packet iss → packet.has flagFin = true →
      packet.has flagSyn = false) :
    ∃ packet iss, e = .input packet iss ∧ Admitted packet ∧ packet.has flagFin = true ∧
      s.TakesFin := by
  rcases hprocesses with ⟨hbefore, hafter⟩ | ⟨hbefore, hafter⟩ | ⟨packet, iss, rfl, hfin, hmoves⟩
  · have htransition := step_transition hstep
    rw [hafter] at htransition
    generalize hnext : TcpState.closeWait = next at htransition
    cases htransition with
    | stay => exact absurd hnext.symm hbefore
    | fin hadmitted hstate hfin => exact ⟨_, _, rfl, hadmitted, hfin, Or.inl hstate⟩
    | crossedFin hadmitted hstate hfin =>
        exact ⟨_, _, rfl, hadmitted, hfin, Or.inr (Or.inl hstate)⟩
    | _ => contradiction
  · have htransition := step_transition hstep
    rw [hafter] at htransition
    generalize hnext : TcpState.timeWait = next at htransition
    cases htransition with
    | stay => exact absurd hnext.symm hbefore
    | finFinWait2 hadmitted hstate hfin =>
        exact ⟨_, _, rfl, hadmitted, hfin, Or.inr (Or.inr (Or.inl hstate))⟩
    | _ => contradiction
  · have hkeeps : ¬ KeepsStream s s' := by
      rintro ⟨hnext, hcalls⟩
      rcases hmoves with hmoves | hdata
      · exact hmoves hnext
      · exact hcalls hdata
    rcases input_cases hstep with ⟨-, -, rfl⟩ | ⟨-, rfl⟩ | ⟨-, hrst, rfl⟩ | ⟨hadmitted, hdispatch⟩
    · exact absurd (keepsStream_of_eq rfl rfl) hkeeps
    · exact absurd (keepsStream_of_eq rfl rfl) hkeeps
    · have hreset : KeepsStream s s.handleReset :=
        keepsStream_of_append (l := [.closed]) rfl rfl (by simp)
      exact absurd hreset hkeeps
    · refine ⟨packet, iss, rfl, hadmitted, hfin, ?_⟩
      by_contra hnot
      exact hkeeps (dispatch_keepsStream hnot (hsyn packet iss rfl hfin) hdispatch)

end Processes

end TcpSession

namespace Connection

open TcpSession

/-- No number is used twice, and no session takes a FIN that is ahead. -/
def Orderly (x y : UInt32) (g : Connection × Streams) (e : ConnectionEvent) : Prop :=
  Streaming x y g e ∧ FinsInOrder (isn x y e.side.other) (g.1.session e.side) e.event

instance (x y : UInt32) (g : Connection × Streams) (e : ConnectionEvent) :
    Decidable (Orderly x y g e) :=
  inferInstanceAs (Decidable (_ ∧ _))

/-- In every run of one connection in which no session takes a FIN that is ahead, an
acknowledgment covers received bytes only, and every byte that the peer has sent before a
FIN has been received when the FIN is processed. -/
theorem endOfStream_honest {x y : UInt32} {a b : TcpSession} (ha : Created a) (hb : Created b)
    {g : Connection × Streams}
    (hg : withStreams.Reachable (Orderly x y) (⟨a, b.listen⟩, Streams.empty) g) (side : Side) :
    (∀ packet ∈ (g.1.session side).packets, packet.has flagAck = true →
      ∃ m : Nat, 1 ≤ m ∧ packet.ack = isn x y side.other + UInt32.ofNat m ∧
        KnownTo (g.2.wire side.other) (received g side) m) ∧
      ∀ event g', Orderly x y g ⟨side, event⟩ → withStreams g ⟨side, event⟩ = some g' →
        (g.1.session side).ProcessesFin event (g'.1.session side) →
        ∃ packet iss, ∃ o : Nat, event = .input packet iss ∧ packet.has flagFin = true ∧
          1 ≤ o ∧ packet.seq = isn x y side.other + UInt32.ofNat o ∧
          (g.2.wire side.other)[o]? = some none ∧
          KnownTo (g.2.wire side.other) (received g side) o := by
  have hjoined : Joined True x y g := by
    apply hg.invariant (joined_start ha hb)
    intro g e g' h hok hstep
    exact joined_step h hok.1 (fun _ => hok.2) hstep
  constructor
  · intro packet hmem hflag
    exact ((hjoined.receiver side).acks.packets hmem hflag).1 (Or.inl trivial)
  · intro event g' hok hstep hprocesses
    rcases withStreams_step hstep with ⟨s', hadvances⟩
    have hself : g'.1.session side = s' := hadvances.session
    rw [hself] at hprocesses
    have hwire : ∀ packet iss, event = .input packet iss →
        OnWire (synFlags side.other) (isn x y side.other) (g.2.wire side.other) packet :=
      fun packet iss he => hjoined.onWire hadvances.possible he
    have hsyn : ∀ packet iss, event = .input packet iss → packet.has flagFin = true →
        packet.has flagSyn = false := by
      intro packet iss he hfin
      by_contra hnot
      have hflags := ((hwire packet iss he).syn (Bool.eq_true_of_not_eq_false hnot)).1
      rw [MyuTcpPacket.has, hflags, synFlags_fin] at hfin
      contradiction
    rcases takesFin_of_processesFin hadvances.step hprocesses hsyn with
      ⟨packet, iss, rfl, hadmitted, hfin, htakes⟩
    have hsync : (g.1.session side).Synchronized := by
      rcases htakes with hstate | hstate | hstate | hstate <;>
        simp [TcpSession.Synchronized, hstate]
    rcases (hjoined.receiver side).before_fin hsync (hwire packet iss rfl) (synFlags_fin _)
      (hok.1.2 _) hfin trivial (hok.2 hadmitted htakes hfin) with ⟨o, hpos, hseq, hmark, hknown⟩
    exact ⟨packet, iss, o, rfl, hfin, hpos, hseq, hmark, hknown⟩

/-- A byte is sent and received, and the sender closes. -/
def finishedByteRun : List ConnectionEvent := readByteRun.take 6 ++ [⟨.a, .close⟩]

/-- The FIN behind the byte is delivered. -/
def deliverFin : ConnectionEvent :=
  ⟨.b, .input (wirePacket 7000 8000 flagFin 2 101) 100⟩

/-- The FIN is processed when the byte has been received. -/
theorem endOfStream_honest_finishedByte :
    ∃ g g', withStreams.run (⟨clientSession, serverSession.listen⟩, Streams.empty)
        finishedByteRun = some g ∧
      withStreams g deliverFin = some g' ∧ g'.1.b.state = .closeWait ∧ received g .b = [7] ∧
      (∀ packet ∈ (g.1.session .b).packets, packet.has flagAck = true →
        ∃ m : Nat, 1 ≤ m ∧ packet.ack = isn 0 100 (Side.other .b) + UInt32.ofNat m ∧
          KnownTo (g.2.wire (Side.other .b)) (received g .b) m) ∧
      ∃ packet iss, ∃ o : Nat, deliverFin.event = .input packet iss ∧
        packet.has flagFin = true ∧ 1 ≤ o ∧
        packet.seq = isn 0 100 (Side.other .b) + UInt32.ofNat o ∧
        (g.2.wire (Side.other .b))[o]? = some none ∧
        KnownTo (g.2.wire (Side.other .b)) (received g .b) o := by
  have hrun : ((withStreams.run (⟨clientSession, serverSession.listen⟩, Streams.empty)
      finishedByteRun).any fun g => g.1.b.state = .established ∧ received g .b = [7] ∧
        Orderly 0 100 g deliverFin ∧
        ((withStreams g deliverFin).any fun g' => g'.1.b.state = .closeWait) = true) = true := by
    decide +kernel
  have hcheck : withStreams.checkSteps (fun g e => Orderly 0 100 g e)
      (⟨clientSession, serverSession.listen⟩, Streams.empty) finishedByteRun = true := by
    decide +kernel
  rcases (Option.any_eq_true _ _).mp hrun with ⟨g, hg, hfacts⟩
  rcases of_decide_eq_true hfacts with ⟨hstate, hreceived, horderly, hnext⟩
  rcases (Option.any_eq_true _ _).mp hnext with ⟨g', hg', hcloseWait⟩
  replace hcloseWait := of_decide_eq_true hcloseWait
  have hall : withStreams.AllSteps (Orderly 0 100)
      (⟨clientSession, serverSession.listen⟩, Streams.empty) finishedByteRun :=
    StepFn.allSteps_of_check (fun _ _ => of_decide_eq_true) hcheck
  have hprocesses : ProcessesFin g.1.b deliverFin.event g'.1.b :=
    Or.inl ⟨by simp [hstate], hcloseWait⟩
  have hhonest := endOfStream_honest created_clientSession created_serverSession
    (StepFn.reachable_of_run hall hg) .b
  exact ⟨g, g', hg, hg', hcloseWait, hreceived, hhonest.1,
    hhonest.2 _ g' horderly hg' hprocesses⟩

/-- The byte is lost and its FIN overtakes it: the session enters CLOSE_WAIT without the byte,
and acknowledges it. -/
theorem overtakingFin_truncates :
    ∃ g g', withStreams.Reachable (Streaming 0 100)
        (⟨clientSession, serverSession.listen⟩, Streams.empty) g ∧
      Streaming 0 100 g deliverFin ∧ withStreams g deliverFin = some g' ∧
      ProcessesFin g.1.b deliverFin.event g'.1.b ∧ g.2.wire .a = [none, some 7, none] ∧
      received g' .b = [] ∧ ∃ packet ∈ g'.1.b.packets, packet.has flagAck = true ∧
        packet.ack = 3 := by
  have hrun : ((withStreams.run (⟨clientSession, serverSession.listen⟩, Streams.empty)
      (readByteRun.take 5 ++ [⟨.a, .close⟩])).any fun g => g.1.b.state = .established ∧
        Streaming 0 100 g deliverFin ∧ g.2.wire .a = [none, some 7, none] ∧
        ((withStreams g deliverFin).any fun g' => g'.1.b.state = .closeWait ∧
          received g' .b = [] ∧ ∃ packet ∈ g'.1.b.packets, packet.has flagAck = true ∧
            packet.ack = 3) = true) = true := by
    decide +kernel
  have hcheck : withStreams.checkSteps (fun g e => Streaming 0 100 g e)
      (⟨clientSession, serverSession.listen⟩, Streams.empty)
      (readByteRun.take 5 ++ [⟨.a, .close⟩]) = true := by
    decide +kernel
  rcases (Option.any_eq_true _ _).mp hrun with ⟨g, hg, hfacts⟩
  rcases of_decide_eq_true hfacts with ⟨hstate, hstreaming, hwire, hnext⟩
  rcases (Option.any_eq_true _ _).mp hnext with ⟨g', hg', hafter⟩
  rcases of_decide_eq_true hafter with ⟨hcloseWait, hnone, hack⟩
  have hall : withStreams.AllSteps (Streaming 0 100)
      (⟨clientSession, serverSession.listen⟩, Streams.empty)
      (readByteRun.take 5 ++ [⟨.a, .close⟩]) :=
    StepFn.allSteps_of_check (fun _ _ => of_decide_eq_true) hcheck
  exact ⟨g, g', StepFn.reachable_of_run hall hg, hstreaming, hg',
    Or.inl ⟨by simp [hstate], hcloseWait⟩, hwire, hnone, hack⟩

end Connection

end MyuTcp
