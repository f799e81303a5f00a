import MyuTcp.Core.Stack

/-!
# Close notifications

The callback {lit}`on_closed_cb_` of a session, and the entry of the stack that the default
callback erases.

Main results:

- Theorem {lit}`notifiesOnce_iff`: a step announces the end of a connection once and only
  then, except where {lit}`close()` gives up an opening, and where a reset or the 2MSL timer
  meets a closed session.
- Theorem {lit}`dropsEnded_iff`: a step of a stack keeps a session whose connection it ended
  exactly when it is a {lit}`close()` that gives up an opening.
- Theorem {lit}`receive_freshSyn`: a SYN from an address without an entry gets a new session,
  which answers it.
- Theorem {lit}`closeNotification_iff`: the three along runs, the last one as long as the callback
  of {lit}`listen()` is installed.
-/

namespace MyuTcp

open Library

namespace TcpSession

/-- The closed callback is invoked once if the step takes the session to CLOSED, and else
not at all. -/
def NotifiesOnce (s : TcpSession) (e : Event) : Prop :=
  ∀ s', step s e = some s' → (newCalls s s').count .closed =
    if s.state ≠ .closed ∧ s'.state = .closed then 1 else 0

/-- The session has sent a SYN and has not been established. -/
def Handshakes (s : TcpSession) : Prop := s.state = .synSent ∨ s.state = .synReceived

instance (s : TcpSession) : Decidable s.Handshakes := inferInstanceAs (Decidable (_ ∨ _))

/-- {lit}`close()` on an opening session; a valid reset or an expiry of the 2MSL timer on a
closed one. -/
def Misnotifies (s : TcpSession) : Event → Prop
  | .close => s.Handshakes
  | .input packet _ =>
      verifyChecksum packet = true ∧ packet.has flagRst = true ∧ s.state = .closed
  | .expire2Msl => s.timerManager.twoMslActive = true ∧ s.state = .closed
  | _ => False

instance (s : TcpSession) : (e : Event) → Decidable (s.Misnotifies e)
  | .close => inferInstanceAs (Decidable s.Handshakes)
  | .input _ _ => inferInstanceAs (Decidable (_ ∧ _))
  | .expire2Msl => inferInstanceAs (Decidable (_ ∧ _))
  | .setRemoteAddr .. | .setListenerPort .. | .connect .. | .listen | .send .. | .recv ..
  | .readAll | .expire .. => isFalse id

section Steps

variable {s s' : TcpSession} {e : Event}

/-- A step to CLOSED ends the connection or gives up an opening. -/
theorem ends_or_handshakes (hopen : s.state ≠ .closed) (h : step s e = some s')
    (hclosed : s'.state = .closed) : s.Ends e ∨ (e = .close ∧ s.Handshakes) := by
  have htransition := step_transition h
  rw [hclosed] at htransition
  generalize hnext : TcpState.closed = next at htransition
  cases htransition with
  | stay => exact absurd hnext.symm hopen
  | abort hopening => exact Or.inr ⟨rfl, hopening⟩
  | reset hverify hrst => exact Or.inl (Or.inl ⟨hverify, hrst⟩)
  | lastAck hadmitted hstate hflag hack =>
      exact Or.inl (Or.inr ⟨hadmitted, hstate, hflag, hack⟩)
  | expire2Msl hactive => exact Or.inl hactive
  | _ => contradiction

/-- On a closed session, only a repeated reset or a late 2MSL timer ends the connection. -/
theorem misnotifies_of_ends (hends : s.Ends e) (hclosed : s.state = .closed) :
    s.Misnotifies e := by
  cases e with
  | input packet iss =>
      rcases hends with ⟨hverify, hrst⟩ | ⟨-, hstate, -, -⟩
      · exact ⟨hverify, hrst, hclosed⟩
      · rw [hclosed] at hstate
        contradiction
  | expire2Msl => exact ⟨hends, hclosed⟩
  | _ => exact hends.elim

/-- A step that ends nothing does not call {lit}`on_closed_cb_`. -/
theorem closed_not_mem_newCalls (hends : ¬ s.Ends e) (h : step s e = some s') :
    .closed ∉ newCalls s s' := by
  rcases calls_of_not_ends hends h with ⟨l, hl, hmutes⟩
  rw [newCalls_of_append hl]
  exact hmutes.1

/-- A step that ends the connection calls {lit}`on_closed_cb_` once. -/
theorem newCalls_of_ends (hends : s.Ends e) (h : step s e = some s') :
    newCalls s s' = [.closed] :=
  newCalls_of_append (calls_of_ends hends h).1

/-- Giving up an opening closes the session and calls nobody. -/
theorem close_of_handshakes (hopening : s.Handshakes) :
    s.close.state = .closed ∧ newCalls s s.close = [] := by
  constructor
  · unfold close
    rcases hopening with hstate | hstate
    · rw [hstate, abortOpening_eq]
    · rw [hstate, abortOpening_eq]
  · rw [newCalls, close_calls, List.drop_length]

/-- Outside the exception the notification comes with the end. -/
theorem notifiesOnce_of_not (hmisnotifies : ¬ s.Misnotifies e) : s.NotifiesOnce e := by
  intro s' h
  by_cases hends : s.Ends e
  · have hopen : s.state ≠ .closed := fun hclosed =>
      hmisnotifies (misnotifies_of_ends hends hclosed)
    rw [newCalls_of_ends hends h, if_pos ⟨hopen, (calls_of_ends hends h).2⟩]
    rfl
  · rw [List.count_eq_zero_of_not_mem (closed_not_mem_newCalls hends h), if_neg]
    rintro ⟨hopen, hclosed⟩
    rcases ends_or_handshakes hopen h hclosed with hends' | ⟨rfl, hopening⟩
    · exact hends hends'
    · exact hmisnotifies hopening

/-- A second end of a closed session is announced again. -/
theorem not_notifiesOnce_of_ends (hends : s.Ends e) (hclosed : s.state = .closed)
    (h : step s e = some s') : ¬ s.NotifiesOnce e := by
  intro honce
  have hcount := honce s' h
  rw [newCalls_of_ends hends h, if_neg (fun hopen => hopen.1 hclosed)] at hcount
  contradiction

/-- In the exception it does not. -/
theorem not_notifiesOnce (hmisnotifies : s.Misnotifies e) : ¬ s.NotifiesOnce e := by
  cases e with
  | close =>
      intro honce
      rcases close_of_handshakes hmisnotifies with ⟨hclosed, hcalls⟩
      have hopen : s.state ≠ .closed := by
        rcases hmisnotifies with hstate | hstate
        · simp [hstate]
        · simp [hstate]
      have hcount := honce s.close rfl
      rw [hcalls, if_pos ⟨hopen, hclosed⟩] at hcount
      contradiction
  | input packet iss =>
      rcases hmisnotifies with ⟨hverify, hrst, hclosed⟩
      have hstep : step s (.input packet iss) = some s.handleReset := by
        rw [step, input, hverify, hrst]
        rfl
      exact not_notifiesOnce_of_ends (Or.inl ⟨hverify, hrst⟩) hclosed hstep
  | expire2Msl =>
      exact not_notifiesOnce_of_ends hmisnotifies.1 hmisnotifies.2 (step_expire2Msl hmisnotifies.1)
  | _ => exact hmisnotifies.elim

/-- A step announces the end of a connection once and only then, the listed exceptions
apart. -/
theorem notifiesOnce_iff (s : TcpSession) (e : Event) :
    s.NotifiesOnce e ↔ ¬ s.Misnotifies e :=
  ⟨fun h hmisnotifies => not_notifiesOnce hmisnotifies h, notifiesOnce_of_not⟩

end Steps

end TcpSession

namespace TcpStack

open TcpSession (Handshakes)

/-- No session that the step keeps has its connection ended by the step. -/
def DropsEnded (st : TcpStack) (ev : StackEvent) : Prop :=
  ∀ st', step st ev = some st' → ∀ k entry entry', st.tcpSessions.find? k = some entry →
    st'.tcpSessions.find? k = some entry' → entry.session.state ≠ .closed →
      entry'.session.state ≠ .closed

/-- {lit}`close()` gives up the opening of a session. -/
def GivesUp (st : TcpStack) : StackEvent → Prop
  | .session k .close => ∃ entry, st.tcpSessions.find? k = some entry ∧ entry.session.Handshakes
  | _ => False

section Steps

variable {st st' : TcpStack} {k : Address}

/-- The entry after an event of its session. -/
theorem commit_dropsEnded {entry entry' : StackSession} {s : TcpSession} {e : Event}
    (hopen : entry.session.state ≠ .closed) (hstep : TcpSession.step entry.session e = some s)
    (hgivesUp : ¬ (e = .close ∧ entry.session.Handshakes))
    (hfind : (st.commit k entry s).tcpSessions.find? k = some entry') :
    entry'.session.state ≠ .closed := by
  have hcommit := find?_commit k entry s st
  intro hclosed
  split at hcommit <;> rename_i hcalls
  · rw [hcommit] at hfind
    contradiction
  · rcases hcommit with ⟨ready, hready⟩
    rw [hready, Option.some.injEq] at hfind
    subst hfind
    rcases TcpSession.ends_or_handshakes hopen hstep hclosed with hends | hopening
    · rw [TcpSession.newCalls_of_ends hends hstep] at hcalls
      exact hcalls List.mem_cons_self
    · exact hgivesUp hopening

/-- An event of one session drops what it ends. -/
theorem stepSession_dropsEnded {j : Address} {e : Event} {entry entry' : StackSession}
    (hgivesUp : ∀ entry, st.tcpSessions.find? j = some entry →
      ¬ (e = .close ∧ entry.session.Handshakes))
    (hstep : st.stepSession j e = some st') (hfind : st.tcpSessions.find? k = some entry)
    (hfind' : st'.tcpSessions.find? k = some entry')
    (hopen : entry.session.state ≠ .closed) : entry'.session.state ≠ .closed := by
  by_cases hk : k = j
  · subst hk
    rcases stepSession_eq_some_iff.mp hstep with ⟨entry₁, s, hfind₁, hs, rfl⟩
    rw [hfind, Option.some.injEq] at hfind₁
    subst hfind₁
    exact commit_dropsEnded hopen hs (hgivesUp _ hfind) hfind'
  · rw [find?_stepSession_of_ne hstep hk, hfind, Option.some.injEq] at hfind'
    rwa [← hfind']

/-- A session that ends with its callback is erased. -/
theorem dropsEnded_of_not {ev : StackEvent} (hgivesUp : ¬ st.GivesUp ev) : st.DropsEnded ev := by
  intro st' hstep k entry entry' hfind hfind' hopen
  have heffect := step_effect hstep
  cases heffect with
  | quiet hkept hsent hcallback =>
      have hsame := hkept k
      rw [SameSession, hfind, hfind', Option.map_some, Option.map_some, Option.some.injEq,
        Prod.mk.injEq] at hsame
      rwa [hsame.2]
  | created j seeds =>
      rw [find?_createSession] at hfind'
      split at hfind' <;> rename_i hk
      · rw [← hk, hfind, Option.getD_some, Option.some.injEq] at hfind'
        rwa [← hfind']
      · rw [hfind, Option.some.injEq] at hfind'
        rwa [← hfind']
  | call hcall hstep' =>
      refine stepSession_dropsEnded ?_ hstep' hfind hfind' hopen
      rintro entry₁ hfind₁ ⟨rfl, hopening⟩
      exact hgivesUp ⟨entry₁, hfind₁, hopening⟩
  | delivered hdelivers hstep' =>
      exact stepSession_dropsEnded (by simp) hstep' hfind hfind' hopen
  | @opened j bytes seeds iss packet st₁ _ hparse hflags hunknown hnew hothers hsent hcallback
      hstep' =>
      have hne : k ≠ j := by
        rintro rfl
        rw [hunknown] at hfind
        contradiction
      rw [← hothers k hne] at hfind
      exact stepSession_dropsEnded (by simp) hstep' hfind hfind' hopen
  | resets hresets =>
      have hsame : st.tcpSessions.find? k = some entry' := hfind'
      rw [hfind, Option.some.injEq] at hsame
      rwa [← hsame]

/-- A session whose opening was given up stays in the map. -/
theorem not_dropsEnded {ev : StackEvent} (hgivesUp : st.GivesUp ev) : ¬ st.DropsEnded ev := by
  unfold GivesUp at hgivesUp
  split at hgivesUp
  · rename_i k
    rcases hgivesUp with ⟨entry, hfind, hopening⟩
    rcases TcpSession.close_of_handshakes hopening with ⟨hclosed, hcalls⟩
    have hstep : st.stepSession k .close = some (st.commit k entry entry.session.close) :=
      stepSession_eq_some_iff.mpr ⟨entry, entry.session.close, hfind, rfl, rfl⟩
    have hfind' := find?_commit k entry entry.session.close st
    rw [hcalls, if_neg List.not_mem_nil] at hfind'
    rcases hfind' with ⟨ready, hready⟩
    intro hdrops
    refine hdrops _ hstep k entry _ hfind hready ?_ hclosed
    rcases hopening with hstate | hstate
    · simp [hstate]
    · simp [hstate]
  · exact hgivesUp.elim

/-- A step of a stack keeps a session whose connection it ended exactly when it is a
{lit}`close()` that gives up an opening. -/
theorem dropsEnded_iff (st : TcpStack) (ev : StackEvent) : st.DropsEnded ev ↔ ¬ st.GivesUp ev :=
  ⟨fun h hgivesUp => not_dropsEnded hgivesUp h, dropsEnded_of_not⟩

end Steps

/-! ## Later SYNs -/

/-- The datagram answers a SYN from an address. -/
def AnswersSyn (k : Address) (packet : MyuTcpPacket) (d : Datagram) : Prop :=
  d.packet.header.flags = flagSyn ||| flagAck ∧ d.packet.ack = packet.seq + 1 ∧
    d.destIp = k.ip ∧ d.destPort = k.port

/-- The SYN is a passive open of the listening session. -/
theorem step_listeningSession {packet : MyuTcpPacket}
    (hverify : verifyChecksum packet = true) (hflags : packet.header.flags = flagSyn)
    (k : Address) (seeds : SessionSeeds) (id : Nat) (iss : UInt32) :
    ∃ s d, TcpSession.step (listeningSession k seeds id).session (.input packet iss) = some s ∧
      s.state = .synReceived ∧ s.calls = (listeningSession k seeds id).session.calls ++ [] ∧
      s.sent = (listeningSession k seeds id).session.sent ++ [d] ∧ AnswersSyn k packet d := by
  have hadmitted : TcpSession.Admitted packet := by
    refine ⟨hverify, ?_, ?_⟩
    · rw [MyuTcpPacket.has, hflags]
      rfl
    · simp only [TcpSession.lacksFlags, MyuTcpPacket.has, hflags]
      rfl
  have hsyn : packet.has flagSyn = true := by
    rw [MyuTcpPacket.has, hflags]
    rfl
  have hstep : TcpSession.step (listeningSession k seeds id).session (.input packet iss) =
      some (((listeningSession k seeds id).session.observe packet).handleListen packet iss) := by
    rw [TcpSession.step, TcpSession.input_of_admitted hadmitted]
    rfl
  rw [TcpSession.handleListen_eq _ hsyn] at hstep
  exact ⟨_, _, hstep, rfl, rfl, rfl, rfl, ntohl_htonl (packet.seq + 1), rfl, rfl⟩

/-- A SYN from an address without an entry gets a new session, which answers it. -/
theorem receive_freshSyn {st : TcpStack} {k : Address} {bytes : List UInt8}
    {packet : MyuTcpPacket} (hlisten : st.onReceive = .stack)
    (hparse : UdpDriver.onUvRecv bytes = some packet) (hverify : verifyChecksum packet = true)
    (hflags : packet.header.flags = flagSyn) (hunknown : st.tcpSessions.find? k = none)
    (seeds : SessionSeeds) (iss : UInt32) :
    ∃ st' entry d, st.receive k bytes seeds iss = some st' ∧
      st'.tcpSessions.find? k = some entry ∧ entry.id = st.created ∧
      entry.session.state = .synReceived ∧ st'.sent = st.sent ++ [d] ∧ AnswersSyn k packet d := by
  have hroute : st.route k packet = .openSession := by
    unfold route
    simp [hlisten, hunknown, hflags]
  rcases openSession_eq hunknown packet seeds iss with ⟨st₁, hopen, hnew, -, hsent, -⟩
  rcases step_listeningSession hverify hflags k seeds st.created iss with
    ⟨s, d, hstep, hstate, hcalls, hanswer, hd⟩
  have hsession : st₁.stepSession k (.input packet iss) =
      some (st₁.commit k (listeningSession k seeds st.created) s) :=
    stepSession_eq_some_iff.mpr ⟨_, s, hnew, hstep, rfl⟩
  have hfind := find?_commit k (listeningSession k seeds st.created) s st₁
  rw [TcpSession.newCalls_of_append hcalls, if_neg List.not_mem_nil] at hfind
  rcases hfind with ⟨ready, hready⟩
  refine ⟨_, _, d, ?_, hready, rfl, hstate, ?_, hd⟩
  · rw [receive_of_parse hparse, hroute]
    dsimp only
    rw [hopen, hsession]
  · rw [sent_commit, hsent, TcpSession.newDatagrams_of_append hanswer]

/-- A SYN from an address without an entry gets a new session, which answers it. -/
def AnswersNewPeers (st : TcpStack) : StackEvent → Prop
  | .datagram k bytes seeds iss =>
      ∀ packet, UdpDriver.onUvRecv bytes = some packet → verifyChecksum packet = true →
        packet.header.flags = flagSyn → st.tcpSessions.find? k = none →
        ∃ st' entry d, st.receive k bytes seeds iss = some st' ∧
          st'.tcpSessions.find? k = some entry ∧ entry.id = st.created ∧
          entry.session.state = .synReceived ∧ st'.sent = st.sent ++ [d] ∧ AnswersSyn k packet d
  | _ => True

/-- A datagram meets the callback that {lit}`listen()` installs. -/
def Listens (st : TcpStack) : StackEvent → Prop
  | .datagram .. => st.onReceive = .stack
  | _ => True

/-- While the stack listens a new peer gets a session. -/
theorem answersNewPeers_of_listens {st : TcpStack} {ev : StackEvent} (hlistens : st.Listens ev) :
    st.AnswersNewPeers ev := by
  cases ev with
  | datagram k bytes seeds iss =>
      intro packet hparse hverify hflags hunknown
      exact receive_freshSyn hlistens hparse hverify hflags hunknown seeds iss
  | _ => trivial

/-- The callback of {lit}`listen()` stays until a session connects. -/
theorem listens_of_keepsCallback {st : TcpStack} {evs : List StackEvent}
    (hlisten : st.onReceive = .stack) (hkeeps : ∀ ev ∈ evs, KeepsCallback ev) :
    step.AllSteps Listens st evs := by
  refine StepFn.AllSteps.of_invariant (P := fun st => st.onReceive = .stack) ?_ ?_ hlisten
    (StepFn.allSteps_of_forall_mem hkeeps st)
  · exact fun st ev st' hlisten hkeeps hstep => onReceive_step hkeeps hlisten hstep
  · intro st ev hlisten _
    cases ev with
    | datagram k bytes seeds iss => exact hlisten
    | _ => trivial

/-! ## Runs -/

/-- Along every run of a session, the end of a connection is announced once and only then
exactly when no step is one of the listed exceptions.  Along every run of a stack, ended
sessions leave the map exactly when no opening is given up.  Along every run in which datagrams
meet the callback of {lit}`listen()`, which stays until a session connects, a SYN from an address
that is not in the map gets a new session, which answers it. -/
theorem closeNotification_iff (s : TcpSession) (es : List Event) (st : TcpStack)
    (evs : List StackEvent) :
    (TcpSession.step.AllSteps TcpSession.NotifiesOnce s es ↔
      TcpSession.step.AllSteps (fun s e => ¬ s.Misnotifies e) s es) ∧
    (step.AllSteps DropsEnded st evs ↔ step.AllSteps (fun st ev => ¬ st.GivesUp ev) st evs) ∧
    (step.AllSteps Listens st evs → step.AllSteps AnswersNewPeers st evs) ∧
    (st.onReceive = .stack → (∀ ev ∈ evs, KeepsCallback ev) → step.AllSteps Listens st evs) :=
  ⟨StepFn.allSteps_congr TcpSession.notifiesOnce_iff s es,
    StepFn.allSteps_congr dropsEnded_iff st evs,
    fun hlistens => hlistens.mono fun _ _ => answersNewPeers_of_listens,
    listens_of_keepsCallback⟩

/-- The SYN of a client with number 0. -/
def synPacket : MyuTcpPacket := TcpSession.peerPacket flagSyn 0 0 1024 []

theorem closeNotification_iff_synPacket :
    ∃ st' entry d,
      { new with onReceive := .stack }.receive clientAddress (UdpDriver.sendPacket synPacket)
          zeroSeeds 0 = some st' ∧
        st'.tcpSessions.find? clientAddress = some entry ∧ entry.id = 0 ∧
        entry.session.state = .synReceived ∧ st'.sent = [] ++ [d] ∧
        AnswersSyn clientAddress synPacket d := by
  have hruns := (closeNotification_iff TcpSession.clientSession [] { new with onReceive := .stack }
    [.datagram clientAddress (UdpDriver.sendPacket synPacket) zeroSeeds 0]).2.2
  have hlistens := hruns.2 rfl (by simp [KeepsCallback])
  exact (hruns.1 hlistens).1 synPacket (UdpDriver.onUvRecv_sendPacket synPacket)
    (by decide +kernel) rfl rfl

/-- A session connects, gives up its opening, and the stack listens. -/
def givenUpRun : List StackEvent :=
  [.createSession clientAddress zeroSeeds, .session clientAddress (.connect 0),
    .session clientAddress .close, .listen]

/-- The state of each session, its calls and the number of its packets. -/
def summary (st : TcpStack) : List (TcpState × List CallbackCall × Nat) :=
  st.tcpSessions.entries.map fun e =>
    (e.2.session.state, e.2.session.calls, e.2.session.sent.length)

/-- The session that gave up is closed without a call, stays in the map and swallows the SYN
of its peer. -/
theorem givenUpRun_zombie :
    ∃ st₁ st₂ st₃, step.run new (givenUpRun.take 2) = some st₁ ∧
      step.run new givenUpRun = some st₂ ∧
      step st₂ (.datagram clientAddress (UdpDriver.sendPacket synPacket) zeroSeeds 0) = some st₃ ∧
      st₁.summary = [(.synSent, [.setOnReceive], 1)] ∧
      st₂.summary = [(.closed, [.setOnReceive], 2)] ∧
      st₃.summary = [(.closed, [.setOnReceive], 2)] ∧ st₃.sent.length = st₂.sent.length ∧
      ¬ st₁.DropsEnded (.session clientAddress .close) := by
  have hrun : ((step.run new (givenUpRun.take 2)).any fun st₁ =>
      (step.run new givenUpRun).any fun st₂ =>
        (step st₂ (.datagram clientAddress (UdpDriver.sendPacket synPacket) zeroSeeds 0)).any
          fun st₃ => st₁.summary = [(.synSent, [.setOnReceive], 1)] ∧
            st₂.summary = [(.closed, [.setOnReceive], 2)] ∧
            st₃.summary = [(.closed, [.setOnReceive], 2)] ∧
            st₃.sent.length = st₂.sent.length ∧
            (st₁.tcpSessions.find? clientAddress).any
              (fun entry => decide entry.session.Handshakes) = true) = true := by
    decide +kernel
  rcases (Option.any_eq_true _ _).mp hrun with ⟨st₁, hst₁, hrun⟩
  rcases (Option.any_eq_true _ _).mp hrun with ⟨st₂, hst₂, hrun⟩
  rcases (Option.any_eq_true _ _).mp hrun with ⟨st₃, hst₃, hfacts⟩
  rcases of_decide_eq_true hfacts with ⟨h₁, h₂, h₃, hsent, hopening⟩
  rcases (Option.any_eq_true _ _).mp hopening with ⟨entry, hfind, hopening⟩
  exact ⟨st₁, st₂, st₃, hst₁, hst₂, hst₃, h₁, h₂, h₃, hsent,
    not_dropsEnded ⟨entry, hfind, of_decide_eq_true hopening⟩⟩

end TcpStack

end MyuTcp
