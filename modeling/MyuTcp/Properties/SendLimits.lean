import MyuTcp.Core.Transmission

/-!
# Limits on a send attempt

The two windows that bound what a session may put on the wire: its congestion
window and the window its peer advertises.

Main results:

- Theorem {lit}`congestionWindow_respected_iff`: along a run, every send attempt stays
  within {lit}`get_usable_window_size()` exactly when no attempt is made with a window
  below the bytes in flight and unsent bytes in the buffer.
- Theorem {lit}`peerWindow_respected_iff`: along a run, the bytes in flight after every
  first transmission fit the advertised window exactly when, at each transmitting
  attempt, the congestion window or the buffered bytes fit it.
-/

namespace MyuTcp

open Library

namespace TcpSession

/-! ## The congestion window -/

/-- A send attempt puts at most {lit}`get_usable_window_size()` new bytes on the wire. -/
def RespectsCongestionWindow (s : TcpSession) : Prop :=
  newPayloadBytes s s.handleTrySend ≤ s.sendWindow.getUsableWindowSize

/-- Data is left to send while the window is smaller than the bytes in flight. -/
def WindowBelowInflight (s : TcpSession) : Prop :=
  (s.state = .established ∨ s.state = .closeWait) ∧
    s.sendWindow.sendWindowSize < s.inflight ∧ s.inflight.toNat < s.sendBuffer.size

instance (s : TcpSession) : Decidable s.RespectsCongestionWindow :=
  inferInstanceAs (Decidable (_ ≤ _))

/-- Below the window the allowance is the difference. -/
theorem getUsableWindowSize_of_lt {s : TcpSession}
    (h : s.inflight < s.sendWindow.sendWindowSize) :
    s.sendWindow.getUsableWindowSize = (s.sendWindow.sendWindowSize - s.inflight).toNat :=
  if_pos h

/-- Otherwise there is none. -/
theorem getUsableWindowSize_of_not_lt {s : TcpSession}
    (h : ¬ s.inflight < s.sendWindow.sendWindowSize) :
    s.sendWindow.getUsableWindowSize = 0 :=
  if_neg h

/-- When a call stays within the congestion window. -/
theorem respectsCongestionWindow_iff (s : TcpSession) :
    s.RespectsCongestionWindow ↔ ¬ s.WindowBelowInflight := by
  rw [RespectsCongestionWindow, newPayloadBytes_handleTrySend]
  by_cases hlt : s.inflight < s.sendWindow.sendWindowSize
  · rw [getUsableWindowSize_of_lt hlt]
    refine iff_of_true ?_ fun h => UInt32.lt_asymm hlt h.2.1
    split
    · rw [length_nextPayload]
      exact Nat.min_le_left _ _
    · exact Nat.zero_le _
  · rw [getUsableWindowSize_of_not_lt hlt, Nat.le_zero]
    constructor
    · rintro hzero ⟨hstate, hbelow, hsize⟩
      have htransmits : s.Transmits := ⟨hstate, UInt32.ne_of_lt hbelow, hsize⟩
      rw [if_pos htransmits, List.length_eq_zero_iff] at hzero
      exact s.nextPayload_ne_nil htransmits hzero
    · intro h
      refine if_neg fun htransmits => h ⟨htransmits.1, ?_, htransmits.2.2⟩
      exact UInt32.lt_of_le_of_ne (UInt32.not_lt.mp hlt) htransmits.2.1

/-- Along every run, the send attempts stay within the usable window exactly when none
is made with a window below the bytes in flight. -/
theorem congestionWindow_respected_iff (s₀ : TcpSession) (es : List Event) :
    step.AllSteps (fun s e => ∀ c ∈ trySendCalls s e, c.RespectsCongestionWindow) s₀ es ↔
      step.AllSteps (fun s e => ∀ c ∈ trySendCalls s e, ¬ c.WindowBelowInflight) s₀ es :=
  StepFn.allSteps_congr (fun _ _ => forall₂_congr fun c _ => c.respectsCongestionWindow_iff) s₀ es

/-- Two bytes are in flight when the timer of the first collapses the window to one.
The send attempt of the next {lit}`send` transmits although nothing is usable. -/
def collapsedWindowRun : List Event :=
  [.connect 0, .input (peerPacket (flagSyn ||| flagAck) 100 1 1024 []) 0, .send [1, 2],
    .input (peerPacket flagAck 101 2 1024 []) 0, .send [3], .expire 2]

theorem collapsedWindowRun_overruns :
    ∃ s c, step.run clientSession collapsedWindowRun = some s ∧ c ∈ trySendCalls s (.send [4]) ∧
      ¬ c.RespectsCongestionWindow := by
  have hrun : ((step.run clientSession collapsedWindowRun).any fun s =>
      (trySendCalls s (.send [4])).any fun c => !decide c.RespectsCongestionWindow) = true := by
    decide +kernel
  obtain ⟨s, hs, hcalls⟩ := Option.any_eq_true _ _ |>.mp hrun
  obtain ⟨c, hc, hover⟩ := List.any_eq_true.mp hcalls
  exact ⟨s, c, hs, hc, by simpa using hover⟩

/-! ## The advertised window -/

/-- After a first transmission, the bytes in flight fit the window the peer advertised. -/
def RespectsPeerWindow (s : TcpSession) : Prop :=
  newDatagrams s s.handleTrySend ≠ [] → s.handleTrySend.inflight ≤ s.peerUsableWindowSize

instance (s : TcpSession) : Decidable s.RespectsPeerWindow :=
  inferInstanceAs (Decidable (_ → _))

/-- The congestion window, or all that is buffered, fits the advertised window. -/
def FitsPeerWindow (s : TcpSession) : Prop :=
  (s.inflight < s.sendWindow.sendWindowSize ∧
      s.sendWindow.sendWindowSize ≤ s.peerUsableWindowSize) ∨
    s.sendBuffer.size ≤ s.peerUsableWindowSize.toNat

/-- A transmitting attempt fills the congestion window, or sends all that is buffered. -/
theorem inflight_handleTrySend {s : TcpSession} (h : s.Transmits) :
    s.handleTrySend.inflight.toNat =
      if s.inflight < s.sendWindow.sendWindowSize then
        min s.sendWindow.sendWindowSize.toNat s.sendBuffer.size
      else s.sendBuffer.size := by
  have hcap := s.sendBuffer.size_le
  have hsize := h.2.2
  have hlen := s.length_nextPayload
  have hsub := UInt32.toNat_sub s.sendWindow.sendWindowSize s.inflight
  have hwindow := s.sendWindow.sendWindowSize.toNat_lt
  have hlt := s.inflight.toNat_lt
  have hne := h.2.1
  rw [Ne, ← UInt32.toNat_inj] at hne
  rw [toNat_inflight_handleTrySend _ h]
  simp only [UInt32.lt_iff_toNat_lt]
  split <;> omega

/-- When a call stays within the window of the peer. -/
theorem respectsPeerWindow_iff (s : TcpSession) :
    s.RespectsPeerWindow ↔ (s.Transmits → s.FitsPeerWindow) := by
  rw [RespectsPeerWindow, newDatagrams_handleTrySend]
  by_cases h : s.Transmits
  · have hinflight := inflight_handleTrySend h
    simp only [h, if_true, ne_eq, List.cons_ne_nil, not_false_eq_true, forall_const,
      FitsPeerWindow, UInt32.le_iff_toNat_le, hinflight]
    split <;> rename_i hlt
    · simp only [hlt, true_and]
      omega
    · simp only [hlt, false_and, false_or]
  · simp [h]

/-- Along every run, the bytes in flight after each first transmission fit the
advertised window exactly when each transmitting attempt finds the congestion window
or the buffered bytes to fit it. -/
theorem peerWindow_respected_iff (s₀ : TcpSession) (es : List Event) :
    step.AllSteps (fun s e => ∀ c ∈ trySendCalls s e, c.RespectsPeerWindow) s₀ es ↔
      step.AllSteps (fun s e => ∀ c ∈ trySendCalls s e, c.Transmits → c.FitsPeerWindow) s₀ es :=
  StepFn.allSteps_congr (fun _ _ => forall₂_congr fun c _ => c.respectsPeerWindow_iff) s₀ es

/-- The peer accepts the connection with a closed window. -/
def closedWindowRun : List Event :=
  [.connect 0, .input (peerPacket (flagSyn ||| flagAck) 100 1 0 []) 0]

theorem closedWindowRun_overruns :
    ∃ s c, step.run clientSession closedWindowRun = some s ∧ c ∈ trySendCalls s (.send [1]) ∧
      ¬ c.RespectsPeerWindow := by
  have hrun : ((step.run clientSession closedWindowRun).any fun s =>
      (trySendCalls s (.send [1])).any fun c => !decide c.RespectsPeerWindow) = true := by
    decide +kernel
  obtain ⟨s, hs, hcalls⟩ := Option.any_eq_true _ _ |>.mp hrun
  obtain ⟨c, hc, hover⟩ := List.any_eq_true.mp hcalls
  exact ⟨s, c, hs, hc, by simpa using hover⟩

end TcpSession

end MyuTcp
