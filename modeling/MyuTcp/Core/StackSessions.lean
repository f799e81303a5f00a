import MyuTcp.Core.Connection
import MyuTcp.Core.Receiving
import MyuTcp.Core.Stack

/-!
# The sessions of a stack

Whatever happens to a stack, each of its sessions has a run of its own, from a session that
{lit}`create_session` constructs.  So what holds of every run of one session holds of the sessions
of every stack.

Main results:

- Theorem {lit}`composed_reachable`: the sessions of a stack have runs of their own, and the stack
  sends what they send, and resets.
- Theorem {lit}`receive_returns_iff`: the stack is done with every datagram, unless its callback
  belongs to a session that is gone.
-/

namespace MyuTcp

open Library

namespace TcpSession

/-- The session has a run from one that {lit}`create_session` constructs. -/
def Descends (s : TcpSession) : Prop :=
  ∃ s₀, Created s₀ ∧ step.Reachable (fun _ _ => True) s₀ s

/-- A new session descends from itself. -/
theorem Created.descends {s : TcpSession} (h : Created s) : s.Descends :=
  ⟨s, h, .start⟩

/-- A step leads to a descendant. -/
theorem Descends.step {s s' : TcpSession} {e : Event} (h : s.Descends)
    (hstep : TcpSession.step s e = some s') : s'.Descends := by
  rcases h with ⟨s₀, hcreated, hreach⟩
  exact ⟨s₀, hcreated, hreach.next trivial hstep⟩

/-- What new sessions have and steps keep. -/
theorem Descends.invariant {P : TcpSession → Prop} {s : TcpSession} (h : s.Descends)
    (hnew : ∀ s₀, Created s₀ → P s₀)
    (hkeep : ∀ s s' e, P s → TcpSession.step s e = some s' → P s') : P s := by
  rcases h with ⟨s₀, hcreated, hreach⟩
  exact hreach.invariant (hnew s₀ hcreated) fun _ _ _ hs _ hstep => hkeep _ _ _ hs hstep

/-- No session of a stack stores a segment. -/
theorem Descends.nothingStored {s : TcpSession} (h : s.Descends) : NothingStored s :=
  h.invariant (fun _ hcreated => by cases hcreated; exact nothingStored_createSession _ _ _ _ _ _)
    fun _ _ _ hs hstep => nothingStored_step hs hstep

/-- A session that stores nothing returns from every packet. -/
theorem NothingStored.isSome_input {s : TcpSession} (h : NothingStored s) (packet : MyuTcpPacket)
    (iss : UInt32) : (s.input packet iss).isSome = true := by
  by_cases hadmitted : Admitted packet
  · by_cases hstate : s.state = .established
    · have hstored := (keepsReceiving_ack s packet).nothingStored (h.of_eq rfl rfl)
      rcases hstored.payload_frame packet with ⟨q, n, l, c, hpayload⟩
      rw [input_established hadmitted hstate, hpayload]
      rfl
    · rw [input_of_admitted hadmitted, dispatch]
      split <;> rename_i hdispatch <;> first | rfl | exact absurd hdispatch hstate
  · rw [input]
    split <;> rename_i hverify
    · rfl
    · split <;> rename_i hrst
      · rfl
      · split <;> rename_i hlacks
        · rfl
        · exact absurd ⟨by simpa using hverify, by simpa using hrst, by simpa using hlacks⟩
            hadmitted

end TcpSession

namespace TcpStack

/-- The sessions of the stack have runs of their own, and each packet that the stack has handed to
its driver is one of a session or a reset. -/
structure Composed (st : TcpStack) : Prop where
  sessions : ∀ k entry, st.tcpSessions.find? k = some entry → entry.session.Descends
  sent : ∀ d ∈ st.sent, d.packet = resetPacket ∨ ∃ s : TcpSession, s.Descends ∧ d ∈ s.sent

section Composed

variable {st st' : TcpStack} {k : Address} {e : Event} {ev : StackEvent}

/-- The session of {lit}`create_session`. -/
theorem descends_freshSession (k : Address) (seeds : SessionSeeds) (id : Nat) :
    (freshSession k seeds id).session.Descends :=
  TcpSession.Created.descends (.mk _ _ _ _ _ _)

/-- The session of a first SYN. -/
theorem descends_listeningSession (k : Address) (seeds : SessionSeeds) (id : Nat) :
    (listeningSession k seeds id).session.Descends :=
  (descends_freshSession k seeds id).step (e := .listen) rfl

/-- Events of one session keep the others. -/
theorem Composed.stepSession (h : st.Composed) (hstep : st.stepSession k e = some st') :
    st'.Composed := by
  have hothers := fun j hj => find?_stepSession_of_ne (j := j) hstep hj
  rcases stepSession_eq_some_iff.mp hstep with ⟨entry, s, hfind, hs, rfl⟩
  have hdescends := (h.sessions k entry hfind).step hs
  constructor
  · intro j entry' hfind'
    by_cases hj : j = k
    · subst hj
      have hcommit := find?_commit j entry s st
      split at hcommit
      · rw [hcommit] at hfind'
        contradiction
      · rcases hcommit with ⟨ready, hready⟩
        rw [hready, Option.some.injEq] at hfind'
        rw [← hfind']
        exact hdescends
    · rw [hothers j hj] at hfind'
      exact h.sessions j entry' hfind'
  · intro d hd
    rw [sent_commit, List.mem_append] at hd
    rcases hd with hd | hd
    · exact h.sent d hd
    · exact Or.inr ⟨s, hdescends, List.mem_of_mem_drop hd⟩

/-- Whatever a step does, the sessions have runs of their own. -/
theorem composed_step (h : st.Composed) (hstep : TcpStack.step st ev = some st') :
    st'.Composed := by
  have heffect := step_effect hstep
  cases heffect with
  | quiet hkept hsent hcallback =>
      refine ⟨?_, hsent ▸ h.sent⟩
      intro k entry hfind
      have hsame := hkept k
      rw [SameSession, hfind, Option.map_some, eq_comm, Option.map_eq_some_iff] at hsame
      rcases hsame with ⟨entry₁, hfind₁, hentry⟩
      rw [Prod.mk.injEq] at hentry
      rw [← hentry.2]
      exact h.sessions k entry₁ hfind₁
  | created j seeds =>
      refine ⟨?_, h.sent⟩
      intro k entry hfind
      rw [find?_createSession] at hfind
      split at hfind <;> rename_i hk
      · rw [Option.some.injEq] at hfind
        rw [← hfind]
        cases hj : st.tcpSessions.find? j with
        | none => exact descends_freshSession _ _ _
        | some old => exact h.sessions j old hj
      · exact h.sessions k entry hfind
  | call hcall hstep' => exact h.stepSession hstep'
  | delivered hdelivers hstep' => exact h.stepSession hstep'
  | @opened j bytes seeds iss packet st₁ _ hparse hflags hunknown hnew hothers hsent hcallback
      hstep' =>
      have h₁ : st₁.Composed := by
        refine ⟨?_, hsent ▸ h.sent⟩
        intro k entry hfind
        by_cases hk : k = j
        · rw [hk, hnew, Option.some.injEq] at hfind
          rw [← hfind]
          exact descends_listeningSession _ _ _
        · rw [hothers k hk] at hfind
          exact h.sessions k entry hfind
      exact h₁.stepSession hstep'
  | resets hresets =>
      refine ⟨h.sessions, ?_⟩
      intro d hd
      rw [List.mem_append, List.mem_singleton] at hd
      rcases hd with hd | rfl
      · exact h.sent d hd
      · exact Or.inl rfl

/-- A new stack has no sessions. -/
theorem composed_new : new.Composed where
  sessions _ _ hfind := nomatch hfind
  sent _ hd := nomatch hd

/-- In every state of a stack its sessions have runs of their own, and the stack sends what they
send, and resets. -/
theorem composed_reachable (h : TcpStack.step.Reachable (fun _ _ => True) new st) : st.Composed :=
  h.invariant composed_new fun _ _ _ hst _ hstep => composed_step hst hstep

end Composed

/-! ## Returning from datagrams -/

section Returns

variable {st : TcpStack} {k : Address} {packet : MyuTcpPacket} {iss : UInt32}

/-- A session of a stack always finishes with a packet. -/
theorem isSome_stepSession_input {entry : StackSession} (h : st.tcpSessions.find? k = some entry)
    (hdescends : entry.session.Descends) :
    (st.stepSession k (.input packet iss)).isSome = true := by
  rw [stepSession, h, Option.isSome_map]
  exact hdescends.nothingStored.isSome_input packet iss

/-- A packet is handed to a session of the stack. -/
theorem find?_of_route {j : Address} (h : st.route k packet = .input j) :
    ∃ entry, st.tcpSessions.find? j = some entry := by
  rw [route] at h
  split at h
  · contradiction
  · split at h <;> rename_i hkey
    · cases h
      rcases find?_of_keyOf hkey with ⟨entry, hfind, -⟩
      exact ⟨entry, hfind⟩
    · contradiction
  · split at h <;> rename_i hknown
    · cases h
      exact Option.isSome_iff_exists.mp hknown
    · split at h <;> contradiction

/-- The callback of the driver belongs to a session that is not there any more. -/
def DanglingCallback (st : TcpStack) : Prop :=
  ∃ id, st.onReceive = .session id ∧ st.keyOf id = none

/-- The callback dangles when the session that connected is erased. -/
theorem route_eq_dangling_iff (k : Address) (packet : MyuTcpPacket) :
    st.route k packet = .dangling ↔ st.DanglingCallback := by
  rw [route, DanglingCallback]
  split <;> rename_i hcallback
  · simp [hcallback]
  · rename_i id
    split <;> rename_i hkey
    · simp [hcallback, hkey]
    · simp [hcallback, hkey]
  · split
    · simp [hcallback]
    · split <;> simp [hcallback]

/-- In every state of a stack a datagram is processed to its end, whatever it holds: no loop of the
reassembly goes on for ever, and only a callback of a session that is gone is in the way. -/
theorem receive_returns_iff (h : TcpStack.step.Reachable (fun _ _ => True) new st) (k : Address)
    (bytes : List UInt8) (seeds : SessionSeeds) (iss : UInt32) :
    (st.receive k bytes seeds iss).isSome = true ↔
      UdpDriver.onUvRecv bytes = none ∨ ¬ st.DanglingCallback := by
  have hcomposed := composed_reachable h
  cases hparse : UdpDriver.onUvRecv bytes with
  | none => simp [receive, hparse]
  | some packet =>
      rw [receive_of_parse hparse, ← route_eq_dangling_iff k packet]
      cases hroute : st.route k packet with
      | drop => simp
      | input j =>
          rcases find?_of_route hroute with ⟨entry, hfind⟩
          simpa using isSome_stepSession_input hfind (hcomposed.sessions j entry hfind)
      | dangling => simp
      | openSession =>
          rcases openSession_eq (route_openSession hroute).1 packet seeds iss with
            ⟨st₁, hopen, hfind, -⟩
          dsimp only
          rw [hopen]
          simpa using isSome_stepSession_input hfind (descends_listeningSession k seeds st.created)
      | reset => simp

end Returns

/-- A session connects and is reset by its peer. -/
def resetConnectRun : List StackEvent :=
  [.createSession clientAddress zeroSeeds, .session clientAddress (.connect 0),
    .datagram clientAddress
      (UdpDriver.sendPacket (TcpSession.peerPacket flagRst 0 0 1024 [])) zeroSeeds 0]

theorem receive_returns_iff_resetConnectRun :
    ∃ st, step.run new resetConnectRun = some st ∧ st.DanglingCallback ∧
      ((st.receive clientAddress
          (UdpDriver.sendPacket (TcpSession.peerPacket flagSyn 0 0 1024 [])) zeroSeeds 0).isSome =
          true ↔
        UdpDriver.onUvRecv (UdpDriver.sendPacket (TcpSession.peerPacket flagSyn 0 0 1024 [])) =
          none ∨ ¬ st.DanglingCallback) := by
  have hrun : ((step.run new resetConnectRun).any fun st =>
      st.onReceive = .session 0 ∧ st.keyOf 0 = none) = true := by
    decide +kernel
  rcases (Option.any_eq_true _ _).mp hrun with ⟨st, hst, hafter⟩
  exact ⟨st, hst, ⟨0, of_decide_eq_true hafter⟩,
    receive_returns_iff (StepFn.reachable_of_run_true hst) _ _ _ _⟩

end TcpStack

end MyuTcp
