import MyuTcp.Core.Stack

/-!
# Isolation of the sessions of a server

A stack that has called {lit}`listen()` and connects none of its sessions serves its peers side by
side.  What one of them sees of the stack is a slot: no session or one, and the packets that the
events of its own address have sent.

Main results:

- Theorem {lit}`slot_step`: a step of the stack is a step of the slot that it concerns, and leaves
  every other slot as it is.
- Theorem {lit}`slots_isolated`: after any run of the stack, each slot is where its own events
  alone take it.
-/

namespace MyuTcp

open Library

namespace TcpStack

/-- What a peer sees of a server. -/
structure Slot where
  session : Option TcpSession
  sent : List Datagram

namespace Slot

/-- The slot after a step of its session, which leaves the stack when it calls that it is closed. -/
def after (slot : Slot) (s s' : TcpSession) : Slot where
  session := if .closed ∈ TcpSession.newCalls s s' then none else some s'
  sent := slot.sent ++ TcpSession.newDatagrams s s'

/-- An event of a session. -/
def act (e : Event) (slot : Slot) : Option Slot :=
  slot.session.bind fun s => (TcpSession.step s e).map (slot.after s)

/-- The slot with a session that is not in use yet. -/
def hold (s : TcpSession) (slot : Slot) : Slot :=
  { slot with session := some (slot.session.getD s) }

/-- A packet goes to the session, opens one, or is answered with a reset. -/
def take (k : Address) (packet : MyuTcpPacket) (seeds : SessionSeeds) (iss : UInt32)
    (slot : Slot) : Option Slot :=
  if slot.session.isSome then slot.act (.input packet iss)
  else if packet.header.flags = flagSyn then
    (slot.hold (listeningSession k seeds 0).session).act (.input packet iss)
  else
    some { slot with
      sent := slot.sent ++ [{ packet := resetPacket, destIp := k.ip, destPort := k.port }] }

/-- An event of the address of the slot. -/
def step (k : Address) : StepFn Slot StackEvent
  | slot, .createSession _ seeds => some (slot.hold (freshSession k seeds 0).session)
  | slot, .session _ e => slot.act e
  | slot, .datagram _ bytes seeds iss =>
      match UdpDriver.onUvRecv bytes with
      | none => some slot
      | some packet => slot.take k packet seeds iss
  | slot, .listen => some slot
  | slot, .takeReadyQueue => some slot
  | slot, .dispatchNext => some slot

end Slot

/-- The event is one of the given address. -/
def Concerning (k : Address) : StackEvent → Prop
  | .createSession j _ => j = k
  | .session j _ => j = k
  | .datagram j _ _ _ => j = k
  | .listen => False
  | .takeReadyQueue => False
  | .dispatchNext => False

instance (k : Address) : (ev : StackEvent) → Decidable (Concerning k ev)
  | .createSession .. => inferInstanceAs (Decidable (_ = _))
  | .session .. => inferInstanceAs (Decidable (_ = _))
  | .datagram .. => inferInstanceAs (Decidable (_ = _))
  | .listen => isFalse id
  | .takeReadyQueue => isFalse id
  | .dispatchNext => isFalse id

/-- No session connects, so that the callback of the stack stays in place. -/
def Serves (ev : StackEvent) : Prop := ∀ k iss, ev ≠ .session k (.connect iss)

/-- The record of the packets that the events of each address send. -/
def recordSent (st : TcpStack) (ev : StackEvent) (st' : TcpStack) (sent : Address → List Datagram) :
    Address → List Datagram := fun k =>
  if Concerning k ev then sent k ++ st'.sent.drop st.sent.length else sent k

/-- Steps that record the datagrams sent to each address. -/
def withSent : StepFn (TcpStack × (Address → List Datagram)) StackEvent :=
  step.withGhost recordSent

/-- The slot of an address. -/
def slot (k : Address) (x : TcpStack × (Address → List Datagram)) : Slot where
  session := (x.1.tcpSessions.find? k).map StackSession.session
  sent := x.2 k

section Slots

variable {st st' : TcpStack} {k j : Address} {e : Event} {ev : StackEvent}
  {x x' : TcpStack × (Address → List Datagram)}

/-- What an event of a session does to its own slot. -/
theorem slot_stepSession (sent : List Datagram) (hstep : st.stepSession k e = some st') :
    Slot.act e ⟨(st.tcpSessions.find? k).map StackSession.session, sent⟩ =
      some ⟨(st'.tcpSessions.find? k).map StackSession.session,
        sent ++ st'.sent.drop st.sent.length⟩ := by
  rcases stepSession_eq_some_iff.mp hstep with ⟨entry, s', hfind, hs', rfl⟩
  rw [Slot.act, hfind]
  dsimp only [Option.map_some, Option.bind_some]
  rw [hs', Option.map_some, Slot.after, sent_commit, List.drop_left]
  have hcommit := find?_commit k entry s' st
  split at hcommit <;> rename_i hclosed
  · rw [hcommit, if_pos hclosed]
    rfl
  · rcases hcommit with ⟨ready, hready⟩
    rw [hready, if_neg hclosed]
    rfl

/-- The session that is created for a slot without one. -/
theorem map_find?_createSession (k j : Address) (seeds : SessionSeeds) (st : TcpStack) :
    ((st.createSession j seeds).tcpSessions.find? k).map StackSession.session =
      if k = j then some (((st.tcpSessions.find? k).map StackSession.session).getD
        (freshSession k seeds 0).session)
      else (st.tcpSessions.find? k).map StackSession.session := by
  rw [find?_createSession]
  split <;> rename_i hk
  · subst hk
    cases st.tcpSessions.find? k <;> rfl
  · rfl

/-- The callback of {lit}`listen()` sends a packet to the slot of its address. -/
theorem slot_receive {bytes : List UInt8} {seeds : SessionSeeds} {iss : UInt32}
    {sent : List Datagram} (hlistens : st.onReceive = .stack)
    (hstep : st.receive k bytes seeds iss = some st') :
    Slot.step k ⟨(st.tcpSessions.find? k).map StackSession.session, sent⟩
        (.datagram k bytes seeds iss) =
      some ⟨(st'.tcpSessions.find? k).map StackSession.session,
        sent ++ st'.sent.drop st.sent.length⟩ := by
  rw [Slot.step]
  cases hparse : UdpDriver.onUvRecv bytes with
  | none =>
      rw [TcpStack.receive, hparse] at hstep
      cases hstep
      rw [List.drop_length, List.append_nil]
  | some packet =>
      rw [receive_of_parse hparse, route, hlistens] at hstep
      dsimp only at hstep ⊢
      rw [Slot.take, Option.isSome_map]
      split at hstep <;> rename_i hroute
      · split at hroute
        · contradiction
        · split at hroute <;> contradiction
      · split at hroute <;> rename_i hknown
        · cases hroute
          rw [if_pos hknown]
          exact slot_stepSession sent hstep
        · split at hroute <;> contradiction
      · contradiction
      · split at hroute <;> rename_i hknown
        · contradiction
        split at hroute <;> rename_i hflags
        · have hunknown : st.tcpSessions.find? k = none := by simpa using hknown
          rcases openSession_eq hunknown packet seeds iss with ⟨st₁, hopen, hfind, -, hsent, -⟩
          rw [hopen] at hstep
          have hact := slot_stepSession sent hstep
          rw [hfind, hsent] at hact
          rw [if_neg hknown, if_pos hflags, Slot.hold, hunknown]
          exact hact
        · contradiction
      · split at hroute <;> rename_i hknown
        · contradiction
        split at hroute <;> rename_i hflags
        · contradiction
        · cases hstep
          rw [if_neg hknown, if_neg hflags, List.drop_left]

/-- A server stays one, and its step leaves the sessions of other addresses alone. -/
theorem serves_step (hlistens : st.onReceive = .stack) (hserves : Serves ev)
    (hstep : TcpStack.step st ev = some st') :
    st'.onReceive = .stack ∧ ∀ k, ¬ Concerning k ev →
      (st'.tcpSessions.find? k).map StackSession.session =
        (st.tcpSessions.find? k).map StackSession.session := by
  have heffect := step_effect hstep
  cases heffect with
  | quiet hkept hsent hcallback =>
      refine ⟨hcallback.elim (fun hsame => hsame.trans hlistens) id, fun k _ => ?_⟩
      have hsame := congrArg (Option.map Prod.snd) (hkept k)
      rwa [Option.map_map, Option.map_map] at hsame
  | created j seeds =>
      refine ⟨hlistens, fun k hk => ?_⟩
      rw [map_find?_createSession, if_neg (Ne.symm hk)]
  | @call j e _ hcall hstep' =>
      refine ⟨?_, fun k hk => by rw [find?_stepSession_of_ne hstep' (Ne.symm hk)]⟩
      rw [onReceive_stepSession (fun iss he => hserves j iss (by rw [he])) hstep', hlistens]
  | @delivered j i bytes seeds iss packet _ hdelivers hstep' =>
      have hroute : i = j := by
        have hinput := hdelivers.2
        rw [route, hlistens] at hinput
        dsimp only at hinput
        split at hinput
        · exact (Route.input.inj hinput).symm
        · split at hinput <;> contradiction
      subst hroute
      refine ⟨?_, fun k hk => by rw [find?_stepSession_of_ne hstep' (Ne.symm hk)]⟩
      rw [onReceive_stepSession (by simp) hstep', hlistens]
  | @opened j bytes seeds iss packet st₁ _ hparse hflags hunknown hfind hothers hsent hcallback
      hstep' =>
      refine ⟨?_, fun k hk => ?_⟩
      · rw [onReceive_stepSession (by simp) hstep', hcallback, hlistens]
      · rw [find?_stepSession_of_ne hstep' (Ne.symm hk), hothers k (Ne.symm hk)]
  | resets hresets => exact ⟨hlistens, fun _ _ => rfl⟩

/-- A step of a server is a step of the slot that it concerns. -/
theorem slot_step (hlistens : x.1.onReceive = .stack) (hserves : Serves ev)
    (hstep : withSent x ev = some x') :
    x'.1.onReceive = .stack ∧ ∀ k, if Concerning k ev then
      Slot.step k (slot k x) ev = some (slot k x') else slot k x' = slot k x := by
  rcases StepFn.withGhost_eq_some.mp hstep with ⟨hstep', hsent⟩
  rcases serves_step hlistens hserves hstep' with ⟨hlistens', hothers⟩
  refine ⟨hlistens', fun k => ?_⟩
  split <;> rename_i hconcerns
  · rw [slot, slot, hsent, recordSent, if_pos hconcerns]
    cases ev with
    | createSession j seeds =>
        subst hconcerns
        have hcreated : x'.1 = x.1.createSession j seeds := (Option.some.inj hstep').symm
        have hquiet : x'.1.sent.drop x.1.sent.length = [] := by
          rw [hcreated]
          exact List.drop_length
        rw [Slot.step, Slot.hold, hquiet, List.append_nil, hcreated, map_find?_createSession,
          if_pos rfl]
    | session j e =>
        subst hconcerns
        rw [TcpStack.step] at hstep'
        split at hstep'
        · exact slot_stepSession _ hstep'
        · contradiction
    | datagram j bytes seeds iss =>
        subst hconcerns
        exact slot_receive hlistens (receive_of_step hstep').2
    | _ => exact hconcerns.elim
  · rw [slot, slot, hothers k hconcerns, hsent, recordSent, if_neg hconcerns]

/-- After any run of a server, each slot is where the events of its own address alone take it. -/
theorem slots_isolated {evs : List StackEvent} (hlistens : x.1.onReceive = .stack)
    (hserves : ∀ ev ∈ evs, Serves ev) (hrun : withSent.run x evs = some x') (k : Address) :
    (Slot.step k).run (slot k x) (evs.filter fun ev => Concerning k ev) = some (slot k x') := by
  induction evs generalizing x with
  | nil =>
      cases hrun
      rfl
  | cons ev evs ih =>
      rw [StepFn.run_cons] at hrun
      rcases Option.bind_eq_some_iff.mp hrun with ⟨x₁, hstep, hrest⟩
      rcases slot_step hlistens (hserves ev List.mem_cons_self) hstep with ⟨hlistens₁, hslot⟩
      have hih := ih hlistens₁ (fun ev hev => hserves ev (List.mem_cons_of_mem _ hev)) hrest
      have hk := hslot k
      split at hk <;> rename_i hconcerns
      · rw [List.filter_cons_of_pos (by simpa using hconcerns), StepFn.run_cons, hk]
        exact hih
      · rw [List.filter_cons_of_neg (by simpa using hconcerns), ← hk]
        exact hih

end Slots

/-- A stack that listens, before any packet. -/
def newServer : TcpStack × (Address → List Datagram) :=
  ({ new with onReceive := .stack }, fun _ => [])

/-- Two peers connect at the same time, and the first one sends a byte. -/
def twoPeersRun : List StackEvent :=
  [.datagram (Address.of "10.0.0.2" 8000)
      (UdpDriver.sendPacket (TcpSession.peerPacket flagSyn 100 0 1024 [])) zeroSeeds 500,
    .datagram (Address.of "10.0.0.3" 8000)
      (UdpDriver.sendPacket (TcpSession.peerPacket flagSyn 200 0 1024 [])) zeroSeeds 600,
    .datagram (Address.of "10.0.0.2" 8000)
      (UdpDriver.sendPacket (TcpSession.peerPacket flagAck 101 501 1024 [])) zeroSeeds 0,
    .datagram (Address.of "10.0.0.3" 8000)
      (UdpDriver.sendPacket (TcpSession.peerPacket flagRst 201 0 1024 [])) zeroSeeds 0,
    .datagram (Address.of "10.0.0.2" 8000)
      (UdpDriver.sendPacket (TcpSession.peerPacket flagAck 101 501 1024 [7])) zeroSeeds 0]

theorem slots_isolated_twoPeers :
    ∃ x, withSent.run newServer twoPeersRun = some x ∧
      (slot (Address.of "10.0.0.2" 8000) x).sent.length = 2 ∧
      (Slot.step (Address.of "10.0.0.2" 8000)).run (slot (Address.of "10.0.0.2" 8000) newServer)
          (twoPeersRun.filter fun ev => Concerning (Address.of "10.0.0.2" 8000) ev) =
        some (slot (Address.of "10.0.0.2" 8000) x) := by
  have hrun : ((withSent.run newServer twoPeersRun).any fun x =>
      (slot (Address.of "10.0.0.2" 8000) x).sent.length = 2) = true := by
    decide +kernel
  have hserves : ∀ ev ∈ twoPeersRun, Serves ev := by
    simp [twoPeersRun, Serves]
  rcases (Option.any_eq_true _ _).mp hrun with ⟨x, hx, hlength⟩
  exact ⟨x, hx, of_decide_eq_true hlength, slots_isolated rfl hserves hx _⟩

end TcpStack

end MyuTcp
