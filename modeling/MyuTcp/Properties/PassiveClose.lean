import MyuTcp.Core.Deliveries
import MyuTcp.Core.IdleSession

/-!
# The FIN of a passive close

A session in CLOSE_WAIT sends its FIN from {lit}`close()`, from a read that empties the
receive buffer, or from {lit}`handle_close_wait`.  Only the last one looks at the data
that is still buffered or in flight.

Main results:

- Theorem {lit}`lastAck_iff_passiveFin`: these are the ways into LAST_ACK.
- Theorem {lit}`passiveFin_delivered`: along a run without crossing SYNs and without fast
  retransmits of a stored segment, every such FIN follows all accepted data, sent and
  acknowledged, if no closing call finds data buffered or in flight.
- Theorem {lit}`queuedByteRun_overtaken`: a run whose FIN overtakes a byte.
- Theorem {lit}`crossedSynRun_undelivered`: after crossing SYNs a byte is lost that was never sent.
-/

namespace MyuTcp

open Library

namespace TcpSession

/-! ## The moment of the FIN -/

/-- The session after the reads of {lit}`recv` or {lit}`read_all`. -/
def afterRead (s : TcpSession) : Event → TcpSession
  | .recv bufSize =>
      let toRead :=
        if !s.recvBuffer.isEmpty && bufSize ≠ 0 then min bufSize s.recvBuffer.size else 0
      { s with recvBuffer := (readLoop toRead s.recvBuffer).2 }
  | .readAll => { s with recvBuffer := (readLoop s.recvBuffer.size s.recvBuffer).2 }
  | _ => s

/-- The session in CLOSE_WAIT at the moment at which the event makes it send its FIN. -/
def passiveFin (s : TcpSession) (e : Event) : Option TcpSession :=
  match e with
  | .input packet _ =>
      let m := ((s.observe packet).sendPureAck s.recvWindow.recvNext).handleTrySend
      if Admitted packet ∧ s.state = .closeWait ∧ m.Drained then some m else none
  | e => if s.ClosesPassively e then some (s.afterRead e) else none

/-- Nothing is buffered for sending and nothing is in flight. -/
def Settled (s : TcpSession) : Prop :=
  s.sendBuffer.isEmpty = true ∧ s.sendWindow.sendUnack = s.sendWindow.sendNext

instance (s : TcpSession) : Decidable s.Settled := inferInstanceAs (Decidable (_ ∧ _))

/-- The FIN that the event sends, if it sends one, follows all accepted data. -/
def FinFollowsData (s : TcpSession) (e : Event) : Prop :=
  ∀ m, s.passiveFin e = some m → m.Settled

/-- The event closes a session in CLOSE_WAIT with data buffered or in flight. -/
def ClosesUnsettled (s : TcpSession) (e : Event) : Prop :=
  s.ClosesPassively e ∧ ¬ s.Settled

section PassiveFin

variable {s s' : TcpSession} {e : Event}

/-- The send side does not change while the application reads. -/
theorem afterRead_settled_iff (s : TcpSession) (e : Event) :
    (s.afterRead e).Settled ↔ s.Settled := by
  cases e <;> exact Iff.rfl

theorem passiveFin_of_closesPassively (h : s.ClosesPassively e) :
    s.passiveFin e = some (s.afterRead e) := by
  cases e with
  | input packet iss => exact h.elim
  | _ => exact if_pos h

/-- A FIN sent outside {lit}`handle_close_wait` comes from a closing call. -/
theorem passiveFin_cases {m : TcpSession} (h : s.passiveFin e = some m) :
    (s.ClosesPassively e ∧ m = s.afterRead e) ∨ m.Drained := by
  unfold passiveFin at h
  split at h
  · rename_i packet iss
    dsimp only at h
    split at h <;> rename_i hguard
    · cases h
      exact Or.inr hguard.2.2
    · contradiction
  · split at h <;> rename_i hcall
    · cases h
      exact Or.inl ⟨hcall, rfl⟩
    · contradiction

theorem Drained.settled (h : s.Drained) : s.Settled :=
  ⟨h.2.1, h.2.2⟩

theorem finFollowsData_iff (s : TcpSession) (e : Event) :
    s.FinFollowsData e ↔ ¬ s.ClosesUnsettled e := by
  constructor
  · rintro hfollows ⟨hcall, hpending⟩
    have hsettled := hfollows _ (passiveFin_of_closesPassively hcall)
    rw [afterRead_settled_iff] at hsettled
    exact hpending hsettled
  · intro hnot m hm
    rcases passiveFin_cases hm with ⟨hcall, rfl⟩ | hdrained
    · rw [afterRead_settled_iff]
      by_contra hpending
      exact hnot ⟨hcall, hpending⟩
    · exact hdrained.settled

/-- A closing call leads to LAST_ACK by sending the FIN of {lit}`close()`. -/
theorem step_of_closesPassively (hcall : s.ClosesPassively e) (h : step s e = some s') :
    s' = (s.afterRead e).closeCloseWait := by
  have hstate := hcall.state
  cases e with
  | close =>
      cases h
      rw [close, hstate]
      rfl
  | recv bufSize =>
      cases h
      exact closeOnEof_of_eof ((isEmpty_recv s bufSize).mpr hcall.2.2) hstate hcall.2.1
  | readAll =>
      cases h
      have hempty : (readLoop s.recvBuffer.size s.recvBuffer).2.isEmpty = true := by
        rw [isEmpty_eq_decide, decide_eq_true_eq, size_readLoop le_rfl, Nat.sub_self]
      exact closeOnEof_of_eof hempty hstate hcall.2
  | _ => exact hcall.elim

/-- The moments of {lit}`passiveFin` are the ways into LAST_ACK. -/
theorem lastAck_iff_passiveFin (hne : s.state ≠ .lastAck) (h : step s e = some s') :
    s'.state = .lastAck ↔
      ∃ m, s.passiveFin e = some m ∧ (s' = m.closeCloseWait ∨ s' = m.finishCloseWait) := by
  constructor
  · intro hlast
    have htransition := step_transition h
    rw [hlast] at htransition
    generalize hnext : TcpState.lastAck = next at htransition
    cases htransition with
    | stay => exact absurd hnext.symm hne
    | closePassive hcall =>
        exact ⟨_, passiveFin_of_closesPassively hcall, Or.inl (step_of_closesPassively hcall h)⟩
    | @drained packet iss hadmitted hstate hdrained =>
        have hguard : Admitted packet ∧ s.state = .closeWait ∧
            (((s.observe packet).sendPureAck s.recvWindow.recvNext).handleTrySend).Drained :=
          ⟨hadmitted, hstate, (drained_handleTrySend_iff _).mpr hdrained⟩
        exact ⟨_, if_pos hguard, Or.inr (step_input_closeWait hadmitted hstate h)⟩
    | _ => contradiction
  · rintro ⟨m, hm, rfl | rfl⟩
    · rw [closeCloseWait_eq]
    · rcases passiveFin_cases hm with ⟨hcall, rfl⟩ | hdrained
      · have hclose := step_of_closesPassively hcall h
        rw [hclose, closeCloseWait_eq]
      · rw [finishCloseWait_of_drained _ hdrained]

end PassiveFin

/-! ## Runs -/

/-- The FIN that the event sends, if it sends one, finds nothing buffered and nothing in flight,
and every byte that was accepted has been sent and acknowledged. -/
def FinFollowsDelivery (x : TcpSession × Deliveries) (e : Event) : Prop :=
  ∀ m, x.1.passiveFin e = some m → m.Settled ∧ x.2.Complete

/-- The event keeps the order of the data and the FIN: no SYN crosses, no fast retransmit sends a
stored segment again, and no call closes over data that is buffered or in flight. -/
def KeepsOrder (s : TcpSession) (e : Event) : Prop :=
  ¬ s.AnswersPeerSyn e ∧ ¬ s.ResendsStored e ∧ ¬ s.ClosesUnsettled e

instance (s : TcpSession) (e : Event) : Decidable (s.KeepsOrder e) :=
  inferInstanceAs (Decidable (_ ∧ _ ∧ ¬ (_ ∧ _)))

section Runs

variable {s s₀ m : TcpSession} {e : Event} {g : Deliveries}

/-- The moment of the FIN comes with the send buffer of the session. -/
theorem sendBuffer_passiveFin (h : s.passiveFin e = some m) : m.sendBuffer = s.sendBuffer := by
  unfold passiveFin at h
  split at h
  · dsimp only at h
    split at h
    · cases h
      rw [handleTrySend_sendBuffer]
      rfl
    · contradiction
  · split at h
    · cases h
      cases e <;> rfl
    · contradiction

/-- A session whose buffer is empty has everything acknowledged that it accepted. -/
theorem complete_of_isEmpty (h : DeliveredBy g s) (hempty : s.sendBuffer.isEmpty = true) :
    g.Complete := by
  have hnil : s.sendBuffer.toList = [] := by
    rw [isEmpty_eq_decide, decide_eq_true_eq] at hempty
    rw [← List.length_eq_zero_iff, RingQueue.length_toList, hempty]
  have hbuffer := h.buffer
  rwa [hnil, List.append_nil] at hbuffer

theorem deliveredBy_created (hs₀ : Created s₀) : DeliveredBy Deliveries.empty s₀ where
  buffer := by
    rw [hs₀.sendBuffer]
    rfl
  opening := by simp [hs₀.state]
  window := by simp [hs₀.state]

/-- One step. -/
theorem finFollowsDelivery_of_keepsOrder (h : DeliveredBy g s) (hkeeps : s.KeepsOrder e) :
    FinFollowsDelivery (s, g) e := by
  intro m hm
  have hsettled := (finFollowsData_iff s e).mpr hkeeps.2.2 m hm
  refine ⟨hsettled, complete_of_isEmpty h ?_⟩
  rw [← sendBuffer_passiveFin hm]
  exact hsettled.1

end Runs

/-- In every run of a created session in which no SYN crosses, no fast retransmit sends a stored
segment again and no closing call finds data buffered or in flight, the FIN of a passive close
follows all data: nothing is buffered or in flight, and every byte that {lit}`send()` accepted
has been sent and acknowledged.  Conversely a run with such FINs has no closing call over data. -/
theorem passiveFin_delivered {s₀ : TcpSession} (hs₀ : Created s₀) (es : List Event) :
    ((step.withGhost Deliveries.update).AllSteps (fun x e => x.1.KeepsOrder e)
        (s₀, Deliveries.empty) es →
      (step.withGhost Deliveries.update).AllSteps FinFollowsDelivery (s₀, Deliveries.empty) es) ∧
    ((step.withGhost Deliveries.update).AllSteps FinFollowsDelivery (s₀, Deliveries.empty) es →
      (step.withGhost Deliveries.update).AllSteps (fun x e => ¬ x.1.ClosesUnsettled e)
        (s₀, Deliveries.empty) es) := by
  constructor
  · intro hkeeps
    refine hkeeps.of_invariant (P := fun x => DeliveredBy x.2 x.1) ?_ ?_ (deliveredBy_created hs₀)
    · intro x e y hx hok hstep
      rcases StepFn.withGhost_eq_some.mp hstep with ⟨hy, hghost⟩
      rw [hghost]
      exact deliveredBy_step hx hok.1 hok.2.1 hy
    · exact fun x e hx hok => finFollowsDelivery_of_keepsOrder hx hok
  · exact fun hfollows => hfollows.mono fun x e hfin =>
      (finFollowsData_iff x.1 e).mp fun m hm => (hfin m hm).1

/-- A client sends a byte, which is acknowledged before the peer finishes, and closes. -/
def deliveredByteRun : List Event :=
  [.connect 0, .input (peerPacket (flagSyn ||| flagAck) 100 1 1024 []) 0, .send [7],
    .input (peerPacket flagAck 101 2 1024 []) 0, .input (peerPacket flagFin 101 2 1024 []) 0,
    .close]

theorem passiveFin_delivered_byte :
    (step.withGhost Deliveries.update).AllSteps FinFollowsDelivery
        (clientSession, Deliveries.empty) deliveredByteRun ∧
      ((step.withGhost Deliveries.update).run (clientSession, Deliveries.empty)
        deliveredByteRun).any (fun x => x.1.state = .lastAck ∧ x.2.accepted = [7]) = true := by
  have hcheck : (step.withGhost Deliveries.update).checkSteps
      (fun x e => decide (x.1.KeepsOrder e)) (clientSession, Deliveries.empty)
      deliveredByteRun = true := by
    decide +kernel
  have hrun : ((step.withGhost Deliveries.update).run (clientSession, Deliveries.empty)
      deliveredByteRun).any (fun x => x.1.state = .lastAck ∧ x.2.accepted = [7]) = true := by
    decide +kernel
  exact ⟨(passiveFin_delivered Connection.created_clientSession deliveredByteRun).1
    (StepFn.allSteps_of_check (fun _ _ => of_decide_eq_true) hcheck), hrun⟩

/-- The peer finishes while one of two bytes is in flight and the other is queued. -/
def queuedByteRun : List Event :=
  [.connect 0, .input (peerPacket (flagSyn ||| flagAck) 100 1 1024 []) 0, .send [7, 8],
    .input (peerPacket flagFin 101 1 1024 []) 0]

/-- The call of {lit}`close()` sends the FIN over a byte in flight and one that was never
sent. -/
theorem queuedByteRun_overtaken :
    ∃ s s', step.run clientSession queuedByteRun = some s ∧ s.state = .closeWait ∧
      step s .close = some s' ∧ s'.state = .lastAck ∧ s.passiveFin .close = some s ∧
      s.sendBuffer.size = 2 ∧ s.sendWindow.sendUnack ≠ s.sendWindow.sendNext ∧
      ¬ s.FinFollowsData .close := by
  have hrun : ((step.run clientSession queuedByteRun).any fun s =>
      s.state = .closeWait ∧ s.close.state = .lastAck ∧ s.sendBuffer.size = 2 ∧
        s.sendWindow.sendUnack ≠ s.sendWindow.sendNext) = true := by
    decide +kernel
  rcases (Option.any_eq_true _ _).mp hrun with ⟨s, hs, hfacts⟩
  rcases of_decide_eq_true hfacts with ⟨hstate, hlast, hsize, hpending⟩
  have hmoment : s.passiveFin .close = some s := if_pos hstate
  refine ⟨s, s.close, hs, hstate, rfl, hlast, hmoment, hsize, hpending, ?_⟩
  intro hfollows
  exact hpending (hfollows s hmoment).2

/-- The SYNs cross, and the acknowledgment of the second SYN number releases a byte that was never
sent. -/
def crossedSynByteRun : List Event :=
  [.connect 100, .input (peerPacket flagSyn 200 0 1024 []) 0,
    .input (peerPacket flagAck 201 101 1024 []) 0, .send [7],
    .input (peerPacket flagAck 201 102 1024 []) 0,
    .input (peerPacket (flagFin ||| flagAck) 201 102 1024 []) 0]

/-- The session is settled, and its byte is not delivered: no packet has carried it. -/
theorem crossedSynRun_undelivered :
    ∃ s g, (step.withGhost Deliveries.update).run (clientSession, Deliveries.empty)
        crossedSynByteRun = some (s, g) ∧ s.state = .closeWait ∧ s.Settled ∧
      g.accepted = [7] ∧ (∀ d ∈ s.sent, d.packet.payload = []) ∧
      ¬ FinFollowsDelivery (s, g) .close := by
  have hrun : ((step.withGhost Deliveries.update).run (clientSession, Deliveries.empty)
      crossedSynByteRun).any (fun x => (x.1.state = .closeWait ∧ x.1.Settled ∧
        x.2.accepted = [7] ∧ x.1.sent.all (fun d => d.packet.payload.isEmpty) = true) ∧
        ¬ x.2.Complete) = true := by
    decide +kernel
  rcases (Option.any_eq_true _ _).mp hrun with ⟨⟨s, g⟩, hg, hfacts⟩
  rcases of_decide_eq_true hfacts with ⟨⟨hstate, hsettled, haccepted, hpayloads⟩, hincomplete⟩
  refine ⟨s, g, hg, hstate, hsettled, haccepted, ?_, ?_⟩
  · exact fun d hd => List.isEmpty_iff.mp (List.all_eq_true.mp hpayloads d hd)
  · exact fun hfollows => hincomplete (hfollows s (if_pos hstate)).2

end TcpSession

end MyuTcp
