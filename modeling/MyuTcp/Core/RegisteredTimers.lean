import MyuTcp.Core.Attempts

/-!
# Registered closures

What the timers of a session hold, and where its new segments start, for a session with one
connection.  A timer re-sends a SYN or a FIN, or data; data goes to the default address of
{lit}`_handle_retransmit`, whatever the address of the session.

Main results:

- Theorem {lit}`registered_step`: a step keeps the closures of the timers so.
- Theorem {lit}`newSegments_behind`: the new segments of a step start behind all numbers used.
-/

namespace MyuTcp

open Library

namespace TcpSession

/-! ## What the timers hold -/

/-- The closure of a SYN or FIN, or of data for the default address. -/
structure RegisteredClosure (c : RetransmitClosure) : Prop where
  control : c.packet.payload = [] → (c.packet.has flagSyn || c.packet.has flagFin) = true
  flags : c.packet.payload ≠ [] → c.packet.header.flags = flagAck
  address : c.packet.payload ≠ [] →
    c.capturedIp = defaultCapturedIp ∧ c.capturedPort = defaultCapturedPort

/-- All active timers hold such closures. -/
def Registered (s : TcpSession) : Prop :=
  ∀ k t, s.timerManager.activeAt k = some t → RegisteredClosure t.callback

section Registered

variable {s₀ s s' a b : TcpSession} {e : Event}

/-- Fewer timers are registered as well. -/
theorem Registered.of_subset (h : Registered a)
    (htimers : ∀ k t, b.timerManager.activeAt k = some t → a.timerManager.activeAt k = some t) :
    Registered b :=
  fun k t ht => h k t (htimers k t ht)

/-- The timers alone decide. -/
theorem Registered.of_eq (h : Registered a) (htimers : b.timerManager = a.timerManager) :
    Registered b :=
  h.of_subset fun _ _ ht => htimers ▸ ht

/-- A timer is started under the number of its packet. -/
theorem Registered.start {m : TimerManager RetransmitClosure} (h : Registered a) {k : UInt32}
    {timeoutMs : UInt64} {c : RetransmitClosure} (hc : RegisteredClosure c)
    (hold : ∀ j t, m.activeAt j = some t → a.timerManager.activeAt j = some t)
    (htimers : b.timerManager = m.startTimer k timeoutMs c) : Registered b := by
  intro j t ht
  rw [htimers, TimerManager.activeAt_startTimer] at ht
  split at ht
  · cases ht
    exact hc
  · exact h j t (hold j t ht)

/-- The timer of a SYN or FIN re-sends that packet. -/
theorem registered_controlClosure (t : TcpSession) {flags : UInt8} (ackNum : UInt32)
    (hflags : (flags &&& flagSyn != 0 || flags &&& flagFin != 0) = true) :
    RegisteredClosure (t.controlClosure flags ackNum) where
  control _ := hflags
  flags hne := absurd rfl hne
  address hne := absurd rfl hne

/-- The timer of a data packet re-sends its bytes. -/
theorem registered_payloadClosure (t : TcpSession) {payload : List UInt8}
    (hpayload : payload ≠ []) : RegisteredClosure (t.payloadClosure payload flagAck) where
  control hnil := absurd hnil hpayload
  flags _ := rfl
  address _ := ⟨rfl, rfl⟩

/-- {lit}`_handle_try_send` starts such timers only. -/
theorem Registered.trySend (h : Registered s) : Registered s.handleTrySend := by
  by_cases htransmits : s.Transmits
  · rw [s.handleTrySend_of_transmits htransmits]
    exact h.start (registered_payloadClosure s (s.nextPayload_ne_nil htransmits))
      (fun _ _ ht => ht) rfl
  · rwa [s.handleTrySend_of_not htransmits]

/-- An expiry registers the closure again, with a refreshed packet. -/
theorem Registered.expire {k : UInt32} (h : Registered s) (hstep : s.expire k = some s') :
    Registered s' := by
  rcases expire_eq_some_iff.mp hstep with ⟨t, hactive, rfl⟩
  have hclosure := h k t hactive
  by_cases hlimit : t.callback.retransmitCount + 1 ≥ maxRetransmitCount
  · rw [runClosure_of_limit _ hlimit]
    exact h.of_subset fun _ _ ht => activeAt_of_stopTimer (activeAt_of_stopTimer ht)
  · rw [runClosure_of_lt _ hlimit]
    refine h.start ?_ (fun _ _ ht => activeAt_of_stopTimer (activeAt_of_stopTimer ht)) rfl
    constructor
    · rw [refreshPacket_payload, refreshPacket_has, refreshPacket_has]
      exact hclosure.control
    · rw [refreshPacket_payload, refreshPacket_flags]
      exact hclosure.flags
    · rw [refreshPacket_payload]
      exact hclosure.address

/-- The moves of a session without a third duplicate, expiries apart. -/
theorem Move.registered (hs : Once s₀) (hexpire : ∀ k, e ≠ .expire k) (h : Registered a)
    (hmove : Move s₀ e a b) : Registered b := by
  have hkept : ∀ j t, a.timerManager.activeAt j = some t → a.timerManager.activeAt j = some t :=
    fun _ _ ht => ht
  cases hmove with
  | connect iss =>
      rw [connect_eq]
      exact h.start (registered_controlClosure (s₀.atSeq iss) _ rfl) hkept rfl
  | trySend s => exact h.trySend
  | closeEstablished hstate =>
      rw [closeEstablished_eq]
      exact h.start (registered_controlClosure _ _ rfl) (fun _ _ => activeAt_of_stopAllTimers) rfl
  | closeCloseWait s hstate =>
      rw [closeCloseWait_eq]
      exact h.start (registered_controlClosure a _ rfl) hkept rfl
  | abortOpening hstate =>
      rw [abortOpening_eq]
      exact h.of_subset fun _ _ => activeAt_of_stopAllTimers
  | reset hrst => exact h.of_subset fun _ _ => activeAt_of_stopAllTimers
  | @passiveOpen packet iss hstate hsyn =>
      rw [handleListen_eq _ hsyn]
      exact h.start (registered_controlClosure ((s₀.observe packet).atSeq iss) _ rfl) hkept rfl
  | synAck hstate hsyn hflag hack =>
      rw [acceptSynAck_eq]
      exact h.of_subset fun _ _ => activeAt_of_stopTimer
  | @peerSyn packet iss hstate hsyn hflag =>
      rw [acceptPeerSyn_eq]
      exact h.start (registered_controlClosure (s₀.observe packet) _ rfl) hkept rfl
  | synReceivedAck hstate hflag hack => exact h.of_subset fun _ _ => activeAt_of_stopTimer
  | @ack packet iss haccepts =>
      rw [processAck_of_not _ (hs.not_thirdDuplicate packet).2]
      exact h.of_subset fun _ _ => activeAt_of_dropTimerUpTo
  | @inOrder packet iss s drained hstate hseq hdrain =>
      rcases a.reassemble_acceptPayload_frame packet.payload drained with ⟨m, q, n, hframe⟩
      rw [hframe]
      exact h.of_eq rfl
  | @outOfOrder packet iss s hstate hseq =>
      rcases a.storeOutOfOrder_frame packet.seq packet.payload with ⟨m, hframe⟩
      rw [hframe]
      exact h.of_eq rfl
  | finAcked hstate hflag hack => exact h.of_subset fun _ _ => activeAt_of_stopTimer
  | start2Msl s hstate => exact h.of_subset fun _ _ ht => ht
  | finishCloseWait s hstate =>
      by_cases hdrained : a.Drained
      · rw [finishCloseWait_of_drained _ hdrained]
        exact h.start (registered_controlClosure _ _ rfl) (fun _ _ => activeAt_of_stopAllTimers) rfl
      · rw [finishCloseWait_of_not _ hdrained]
        exact h
  | lastAck hstate hflag hack => exact h.of_subset fun _ _ => activeAt_of_stopTimer
  | expire hactive => exact absurd rfl (hexpire _)
  | expire2Msl hactive => exact h.of_subset fun _ _ ht => ht
  | _ => exact h.of_eq rfl

/-- In a session with one connection all timers stay registered. -/
theorem registered_step (hs : Once s) (h : Registered s) (hstep : step s e = some s') :
    Registered s' := by
  by_cases hexpire : ∃ k, e = .expire k
  · rcases hexpire with ⟨k, rfl⟩
    exact h.expire hstep
  · rw [not_exists] at hexpire
    exact (step_moves hstep).preserves (fun _ _ ha hmove => hmove.registered hs hexpire ha) h

end Registered

/-! ## Where new segments start -/

section Segments

variable {s s' c : TcpSession} {e : Event} {iss : UInt32} {accepted : List UInt8}
  {wire : List (Option UInt8)} {p : MyuTcpPacket}

/-- Only a session with numbers in use, and no opening step, sends data. -/
theorem numbered_of_transmits (hc : c ∈ trySendCalls s e) (htransmits : c.Transmits) :
    s.Numbered ∧ s.openingIss e = none := by
  have hopen : ∀ t : TcpSession, t.state = .established ∨ t.state = .closeWait → t.Numbered := by
    rintro t (hstate | hstate) <;> simp [Numbered, hstate]
  cases e with
  | send data =>
      refine ⟨?_, rfl⟩
      rcases trySendCalls_send s data with ⟨hcalls, -⟩ | ⟨buffer, hcalls, -⟩
      · rw [hcalls] at hc
        contradiction
      · rw [hcalls, List.mem_singleton] at hc
        subst hc
        exact hopen s htransmits.1
  | close =>
      refine ⟨?_, rfl⟩
      rw [trySendCalls] at hc
      split at hc <;> rename_i hstate
      · exact hopen s (Or.inl hstate)
      · contradiction
  | input packet i =>
      by_cases hadmitted : Admitted packet
      · rw [trySendCalls_input hadmitted, dispatchCalls] at hc
        change s.Numbered ∧ (if s.state = .listen ∧ _ then some i else none) = none
        split at hc <;> rename_i hstate
        case h_5 => contradiction
        all_goals
          replace hstate : s.state = _ := hstate
          simp [Numbered, hstate]
      · rw [trySendCalls_of_not_admitted hadmitted] at hc
        contradiction
  | _ => contradiction

/-- The new segments of a step start behind all numbers that the session has used. -/
theorem newSegments_behind (h : Once s) (hexpire : ∀ k, e ≠ .expire k)
    (hstep : step s e = some s') (hnumbering : Numbering iss accepted wire s)
    (hp : p ∈ newSegments s s') :
    ∃ o : Nat, wire.length ≤ o ∧ o < (wire ++ newWire s s').length ∧
      p.seq = iss + UInt32.ofNat o := by
  have hcalls := hp
  rw [newSegments_step h hexpire hstep, List.mem_flatMap] at hcalls
  rcases hcalls with ⟨c, hc, hsends⟩
  have htransmits : c.Transmits := by
    by_contra hnot
    rw [newSegments_handleTrySend, if_neg hnot] at hsends
    contradiction
  rcases numbered_of_transmits hc htransmits with ⟨hnumbered, hopens⟩
  have hchained := (spends_step h hexpire hstep).chained
  rw [firstNumber, hopens, Option.getD_none, (hnumbering.next hnumbered).1] at hchained
  rcases List.mem_map.mp hp with ⟨d, hd, rfl⟩
  rw [List.mem_filter] at hd
  have hcarried : d.packet.carried ≠ [] := by
    rw [MyuTcpPacket.carried]
    split
    · simp
    · simpa using hd.2
  rcases hchained.number hd.1 hcarried with ⟨o, hlow, hhigh, hseq⟩
  rw [List.length_append]
  exact ⟨o, hlow, hhigh, hseq⟩

end Segments

end TcpSession

end MyuTcp
