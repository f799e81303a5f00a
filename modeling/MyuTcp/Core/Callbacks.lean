import MyuTcp.Core.StateMachine

/-!
# Callbacks of a session

Which callbacks a step invokes.

Main results:

- Theorem {lit}`calls_of_ends`: a step that ends the connection calls back once that the
  session is closed.
- Theorem {lit}`calls_of_not_ends`: no other step does, and only {lit}`connect()` installs a
  receive callback.
-/

namespace MyuTcp

namespace TcpSession

/-- The calls that a step has made beyond those before it. -/
def newCalls (s s' : TcpSession) : List CallbackCall := s'.calls.drop s.calls.length

/-- The calls of a step are those it appends. -/
theorem newCalls_of_append {s s' : TcpSession} {l : List CallbackCall}
    (h : s'.calls = s.calls ++ l) : newCalls s s' = l := by
  rw [newCalls, h, List.drop_left]

/-- The event is a reset, the last acknowledgment or the expiry of the 2MSL timer. -/
def Ends (s : TcpSession) : Event → Prop
  | .input packet _ =>
      (verifyChecksum packet = true ∧ packet.has flagRst = true) ∨
        (Admitted packet ∧ s.state = .lastAck ∧ packet.has flagAck = true ∧
          packet.ack = s.sendWindow.sendUnack + 1)
  | .expire2Msl => s.timerManager.twoMslActive = true
  | _ => False

instance (s : TcpSession) : (e : Event) → Decidable (s.Ends e)
  | .input _ _ => inferInstanceAs (Decidable (_ ∨ _))
  | .expire2Msl => inferInstanceAs (Decidable (_ = _))
  | .setRemoteAddr .. | .setListenerPort .. | .connect .. | .listen | .send .. | .recv ..
  | .readAll | .close | .expire .. => isFalse id

/-- What a step that does not end the connection may call back. -/
def Mutes (e : Event) (l : List CallbackCall) : Prop :=
  .closed ∉ l ∧ (.setOnReceive ∈ l → ∃ iss, e = .connect iss)

/-- Any event may call nothing back. -/
theorem mutes_nil (e : Event) : Mutes e [] :=
  ⟨List.not_mem_nil, fun h => absurd h List.not_mem_nil⟩

section Calls

variable {s s' : TcpSession} {packet : MyuTcpPacket} {iss : UInt32}

/-- Sending data calls nothing back. -/
@[simp]
theorem handleTrySend_calls (s : TcpSession) : s.handleTrySend.calls = s.calls := by
  rcases s.handleTrySend_frame with ⟨m, t, n, l, h⟩
  rw [h]

/-- An acknowledgment calls nothing back. -/
@[simp]
theorem processAck_calls (s : TcpSession) (ackNum : UInt32) :
    (s.processAck ackNum).calls = s.calls := by
  rcases s.processAck_frame ackNum with ⟨m, t, n, w, l, th, a, d, h⟩
  rw [h]

/-- Neither does {lit}`_handle_ack` as a whole. -/
theorem handleAck_calls (s : TcpSession) (packet : MyuTcpPacket) :
    (s.handleAck packet).2.calls = s.calls := by
  rw [handleAck]
  split
  · rw [handleTrySend_calls, processAck_calls]
  · rfl

/-- {lit}`send()` calls nothing back. -/
theorem send_calls (s : TcpSession) (data : List UInt8) : (s.send data).2.calls = s.calls := by
  rw [send]
  split
  · rfl
  · dsimp only
    split
    · rfl
    · exact handleTrySend_calls _

/-- {lit}`close()` calls nothing back, {lit}`on_closed_cb_` included. -/
theorem close_calls (s : TcpSession) : s.close.calls = s.calls := by
  rw [close]
  split
  · rw [closeEstablished_eq]
    exact handleTrySend_calls s
  · rw [closeCloseWait_eq]
  · rw [abortOpening_eq]
  · rw [abortOpening_eq]
  all_goals rfl

/-- The end of the stream calls nothing back. -/
theorem closeOnEof_calls (s : TcpSession) : s.closeOnEof.calls = s.calls := by
  rw [closeOnEof]
  split
  · split
    · exact close_calls s
    · rfl
  · rfl

/-- The FIN of CLOSE_WAIT calls nothing back. -/
theorem finishCloseWait_calls (s : TcpSession) : s.finishCloseWait.calls = s.calls := by
  by_cases hdrained : s.Drained
  · rw [finishCloseWait_of_drained _ hdrained]
  · rw [finishCloseWait_of_not _ hdrained]

/-- An established session calls back data only. -/
theorem handleEstablished_calls (h : s.handleEstablished packet = some s') :
    ∃ l, s'.calls = s.calls ++ l ∧ ∀ call ∈ l, ∃ size, call = .data size := by
  rw [handleEstablished] at h
  rcases Option.map_eq_some_iff.mp h with ⟨s₂, hs₂, rfl⟩
  have hack : (if packet.has flagAck = true then (s.handleAck packet).2.handleTrySend
      else s).calls = s.calls := by
    split
    · rw [handleTrySend_calls, handleAck_calls]
    · rfl
  generalize (if packet.has flagAck = true then (s.handleAck packet).2.handleTrySend
    else s) = s₁ at hs₂ hack
  have hpayload : ∃ l, s₂.calls = s.calls ++ l ∧ ∀ call ∈ l, ∃ size, call = .data size := by
    by_cases hnil : packet.payload = []
    · rw [handleEstablishedPayload_nil hnil, Option.some.injEq] at hs₂
      exact ⟨[], by rw [← hs₂, hack, List.append_nil], by simp⟩
    · rcases handleEstablishedPayload_frame hnil hs₂ with ⟨m, q, n, t, ackNum, c, hdata, rfl⟩
      exact ⟨c, by rw [← hack], hdata⟩
  rcases hpayload with ⟨l, hl, hdata⟩
  rw [handleEstablishedFin]
  split
  · refine ⟨l ++ [.data 0], by rw [← List.append_assoc, ← hl]; rfl, ?_⟩
    intro call hcall
    rcases List.mem_append.mp hcall with hcall | hcall
    · exact hdata call hcall
    · exact ⟨0, List.mem_singleton.mp hcall⟩
  · exact ⟨l, hl, hdata⟩

/-- What a packet that does not end the connection may call back. -/
theorem dispatch_calls (hends : ¬ s.Ends (.input packet iss)) (hadmitted : Admitted packet)
    (h : (s.observe packet).dispatch packet iss = some s') :
    ∃ l, s'.calls = s.calls ++ l ∧ Mutes (.input packet iss) l := by
  have hsame : ∀ t : TcpSession, t.calls = s.calls →
      ∃ l, t.calls = s.calls ++ l ∧ Mutes (.input packet iss) l :=
    fun t ht => ⟨[], by rw [ht, List.append_nil], mutes_nil _⟩
  have hestablished : ∀ t : TcpSession, t.calls = s.calls ++ [.established] →
      ∃ l, t.calls = s.calls ++ l ∧ Mutes (.input packet iss) l :=
    fun t ht => ⟨[.established], ht, by simp, by simp⟩
  rw [dispatch] at h
  split at h <;> rename_i hstate <;> replace hstate : s.state = _ := hstate
  case h_5 =>
    rcases handleEstablished_calls h with ⟨l, hl, hdata⟩
    refine ⟨l, hl, ?_, ?_⟩
    · intro hmem
      rcases hdata _ hmem with ⟨size, hsize⟩
      contradiction
    · intro hmem
      rcases hdata _ hmem with ⟨size, hsize⟩
      contradiction
  all_goals cases h
  · exact hsame _ rfl
  · by_cases hsyn : packet.has flagSyn = true
    · apply hsame
      rw [handleListen_eq _ hsyn]
      rfl
    · apply hsame
      rw [handleListen, if_pos (by simpa using hsyn)]
      rfl
  · rw [handleSynSent]
    split
    · split
      · exact hsame _ rfl
      · apply hestablished
        rw [handleTrySend_calls, acceptSynAck_eq]
        rfl
    · split
      · apply hsame
        rw [acceptPeerSyn_eq]
        rfl
      · exact hsame _ rfl
  · rw [handleSynReceived]
    split
    · exact hsame _ rfl
    · split
      · exact hsame _ rfl
      · apply hestablished
        rw [handleTrySend_calls]
        rfl
  · apply hsame
    rw [handleFinWait1, handleFinWait1Ack]
    split <;> split <;> rfl
  · apply hsame
    rw [handleFinWait2]
    split <;> rfl
  · apply hsame
    rw [handleCloseWait, finishCloseWait_calls, handleTrySend_calls]
    rfl
  · rw [handleLastAck]
    split <;> rename_i hflag
    · exact hsame _ rfl
    · split <;> rename_i hack
      · exact hsame _ rfl
      · refine absurd ?_ hends
        exact Or.inr ⟨hadmitted, hstate, by simpa using hflag, not_not.mp hack⟩
  · apply hsame
    rw [handleTimedWait]
    split <;> rfl

/-- A step that ends the connection calls back exactly once that the session is closed. -/
theorem calls_of_ends {e : Event} (hends : s.Ends e) (h : step s e = some s') :
    s'.calls = s.calls ++ [.closed] ∧ s'.state = .closed := by
  cases e with
  | input packet iss =>
      rcases hends with ⟨hverify, hrst⟩ | ⟨hadmitted, hstate, hflag, hack⟩
      · rw [step, input, hverify, hrst] at h
        cases h
        exact ⟨rfl, rfl⟩
      · rw [step_lastAck hadmitted hstate hflag hack] at h
        cases h
        exact ⟨rfl, rfl⟩
  | expire2Msl =>
      rw [step_expire2Msl hends] at h
      cases h
      exact ⟨rfl, rfl⟩
  | _ => exact hends.elim

/-- Every other step calls back anything but that. -/
theorem calls_of_not_ends {e : Event} (hends : ¬ s.Ends e) (h : step s e = some s') :
    ∃ l, s'.calls = s.calls ++ l ∧ Mutes e l := by
  have hsame : ∀ t : TcpSession, t.calls = s.calls →
      ∃ l, t.calls = s.calls ++ l ∧ Mutes e l :=
    fun t ht => ⟨[], by rw [ht, List.append_nil], mutes_nil _⟩
  cases e with
  | setRemoteAddr ip port => cases h; exact hsame _ rfl
  | setListenerPort port => cases h; exact hsame _ rfl
  | connect iss =>
      cases h
      rw [connect_eq]
      exact ⟨[.setOnReceive], rfl, by simp, fun _ => ⟨iss, rfl⟩⟩
  | listen =>
      cases h
      apply hsame
      rw [listen]
      split <;> rfl
  | send data => cases h; exact hsame _ (send_calls s data)
  | recv bufSize =>
      cases h
      apply hsame
      rw [recv]
      exact closeOnEof_calls _
  | readAll =>
      cases h
      apply hsame
      rw [readAll]
      exact closeOnEof_calls _
  | close => cases h; exact hsame _ (close_calls s)
  | input packet iss =>
      rcases input_cases h with ⟨-, -, rfl⟩ | ⟨-, rfl⟩ | ⟨hverify, hrst, rfl⟩ | ⟨hadmitted, h⟩
      · exact hsame _ rfl
      · exact hsame _ rfl
      · exact absurd (Or.inl ⟨hverify, hrst⟩) hends
      · exact dispatch_calls hends hadmitted h
  | expire k =>
      rcases expire_eq_some_iff.mp h with ⟨t, -, rfl⟩
      apply hsame
      by_cases hlimit : t.callback.retransmitCount + 1 ≥ maxRetransmitCount
      · rw [runClosure_of_limit _ hlimit]
      · rw [runClosure_of_lt _ hlimit]
  | expire2Msl =>
      rw [step, if_neg (show ¬ s.timerManager.twoMslActive = true from hends)] at h
      contradiction

end Calls

end TcpSession

end MyuTcp
