import MyuTcp.Core.Stack

/-!
# Demultiplexing

Which session a received packet reaches.  The driver has one receive callback:
{lit}`TcpStack::listen` installs one that looks the address up, every {lit}`connect()` one
that passes all packets to the connecting session.

Main results:

- Theorem {lit}`demultiplexes_of_routesByAddress`: in every run in which each datagram meets
  the callback of the stack, or that of the session of its own address, packets reach exactly
  the session of their address.
-/

namespace MyuTcp

open Library

namespace TcpStack

/-- The packet goes to the session of its address and to no other; a packet from an address
without a session changes no session. -/
def Demultiplexes (st : TcpStack) : StackEvent → Prop
  | .datagram k bytes seeds iss =>
      ∀ packet st', UdpDriver.onUvRecv bytes = some packet →
        step st (.datagram k bytes seeds iss) = some st' →
        ((st.tcpSessions.find? k).isSome = true →
          st.route k packet = .input k ∧ st.stepSession k (.input packet iss) = some st' ∧
            ∀ j, j ≠ k → st'.tcpSessions.find? j = st.tcpSessions.find? j) ∧
        (st.tcpSessions.find? k = none →
          ∀ j, (st.tcpSessions.find? j).isSome = true →
            st'.tcpSessions.find? j = st.tcpSessions.find? j)
  | _ => True

/-- The installed callback takes packets from this address to the session of the address,
or to none if it has none. -/
def callbackFits (k : Address) (st : TcpStack) : Bool :=
  match st.onReceive with
  | .unset => (st.tcpSessions.find? k).isNone
  | .stack => true
  | .session id => st.keyOf id = some k

/-- A datagram meets a callback that fits its address. -/
def RoutesByAddress (st : TcpStack) : StackEvent → Prop
  | .datagram k _ _ _ => st.callbackFits k = true
  | _ => True

instance (st : TcpStack) : (ev : StackEvent) → Decidable (st.RoutesByAddress ev)
  | .datagram .. => inferInstanceAs (Decidable (_ = _))
  | .createSession .. | .listen | .session .. | .takeReadyQueue | .dispatchNext => isTrue trivial

section Steps

variable {st st' : TcpStack} {k : Address} {bytes : List UInt8} {seeds : SessionSeeds}
  {iss : UInt32} {packet : MyuTcpPacket}

/-- Under the condition a known address leads to its own session. -/
theorem route_known (packet : MyuTcpPacket) (hfits : st.callbackFits k = true)
    (hknown : (st.tcpSessions.find? k).isSome = true) : st.route k packet = .input k := by
  unfold callbackFits at hfits
  unfold route
  cases hcallback : st.onReceive with
  | unset =>
      simp only [hcallback, Option.isNone_iff_eq_none] at hfits
      rw [hfits] at hknown
      contradiction
  | stack => simp only [hknown, if_true]
  | session id =>
      simp only [hcallback, decide_eq_true_eq] at hfits
      simp only [hfits]

/-- A packet from an unknown address reaches no session that exists. -/
theorem route_unknown (hfits : st.callbackFits k = true)
    (hunknown : st.tcpSessions.find? k = none) (j : Address) :
    st.route k packet ≠ .input j := by
  unfold callbackFits at hfits
  unfold route
  cases hcallback : st.onReceive with
  | unset => simp
  | stack =>
      simp only [hunknown]
      by_cases hflags : packet.header.flags = flagSyn
      · simp [hflags]
      · simp [hflags]
  | session id =>
      simp only [hcallback, decide_eq_true_eq] at hfits
      rcases find?_of_keyOf hfits with ⟨entry, hfind, -⟩
      rw [hunknown] at hfind
      contradiction

/-- One datagram under the condition. -/
theorem demultiplexes_step {ev : StackEvent} (hroutes : st.RoutesByAddress ev) :
    st.Demultiplexes ev := by
  cases ev with
  | datagram k bytes seeds iss =>
      intro packet st' hparse hstep
      have hreceive := (receive_of_step hstep).2
      rw [receive_of_parse hparse] at hreceive
      constructor
      · intro hknown
        have hroute := route_known packet hroutes hknown
        rw [hroute] at hreceive
        exact ⟨hroute, hreceive, fun j hj => find?_stepSession_of_ne hreceive hj⟩
      · intro hunknown j hj
        have hne : j ≠ k := by
          rintro rfl
          rw [hunknown] at hj
          contradiction
        split at hreceive <;> rename_i hroute
        · cases hreceive
          rfl
        · exact absurd hroute (route_unknown hroutes hunknown _)
        · contradiction
        · rcases openSession_eq hunknown packet seeds iss with ⟨st₁, hopen, -, hothers, -⟩
          rw [hopen] at hreceive
          rw [find?_stepSession_of_ne hreceive hne, hothers j hne]
        · cases hreceive
          rfl
  | _ => trivial

end Steps

/-- In every run in which each datagram meets the callback of the stack, or that of the
session of its own address, packets reach exactly the session of their address. -/
theorem demultiplexes_of_routesByAddress (st : TcpStack) (evs : List StackEvent)
    (h : step.AllSteps RoutesByAddress st evs) : step.AllSteps Demultiplexes st evs :=
  h.mono fun _ _ hroutes => demultiplexes_step hroutes

/-! ## Concrete runs -/

/-- The answer of a server to a SYN with number 0. -/
def synAckPacket : MyuTcpPacket :=
  TcpSession.peerPacket (flagSyn ||| flagAck) 100 1 1024 []

/-- The bytes of that answer. -/
def synAckDatagram : List UInt8 := UdpDriver.sendPacket synAckPacket

/-- A stack that listens and has a session receives from it and from a stranger. -/
def listeningRun : List StackEvent :=
  [.listen, .createSession clientAddress zeroSeeds,
    .datagram clientAddress synAckDatagram zeroSeeds 0,
    .datagram otherAddress synAckDatagram zeroSeeds 0]

theorem demultiplexes_of_routesByAddress_listening :
    step.AllSteps Demultiplexes new listeningRun := by
  have hcheck : step.checkSteps (fun st ev => decide (st.RoutesByAddress ev)) new
      listeningRun = true := by
    decide +kernel
  apply demultiplexes_of_routesByAddress
  exact StepFn.allSteps_of_check (fun st ev => of_decide_eq_true) hcheck

/-- Two sessions of one stack connect. -/
def twoConnectsRun : List StackEvent :=
  [.createSession clientAddress zeroSeeds, .createSession otherAddress zeroSeeds,
    .session clientAddress (.connect 0), .session otherAddress (.connect 0)]

/-- The answer to the first session establishes the second one. -/
theorem twoConnectsRun_misroutes :
    ∃ st st', step.run new twoConnectsRun = some st ∧
      step st (.datagram clientAddress synAckDatagram zeroSeeds 0) = some st' ∧
      st.tcpSessions.entries.map (fun e => e.2.session.state) = [.synSent, .synSent] ∧
      st'.tcpSessions.entries.map (fun e => e.2.session.state) = [.synSent, .established] ∧
      ¬ st.Demultiplexes (.datagram clientAddress synAckDatagram zeroSeeds 0) := by
  have hrun : ((step.run new twoConnectsRun).any fun st =>
      (step st (.datagram clientAddress synAckDatagram zeroSeeds 0)).any fun st' =>
        st.tcpSessions.entries.map (fun e => e.2.session.state) = [.synSent, .synSent] ∧
        st'.tcpSessions.entries.map (fun e => e.2.session.state) = [.synSent, .established] ∧
        (st.tcpSessions.find? clientAddress).isSome = true ∧
        st.route clientAddress synAckPacket ≠ .input clientAddress) = true := by
    decide +kernel
  rcases (Option.any_eq_true _ _).mp hrun with ⟨st, hst, hstep⟩
  rcases (Option.any_eq_true _ _).mp hstep with ⟨st', hst', hfacts⟩
  rcases of_decide_eq_true hfacts with ⟨hbefore, hafter, hknown, hroute⟩
  refine ⟨st, st', hst, hst', hbefore, hafter, ?_⟩
  intro hdemultiplexes
  have hparse := UdpDriver.onUvRecv_sendPacket synAckPacket
  exact hroute ((hdemultiplexes _ _ hparse hst').1 hknown).1

end TcpStack

end MyuTcp
