import MyuTcp.Core.Hosts
import MyuTcp.Properties.CorruptedDatagrams
import MyuTcp.Properties.StreamSafety

/-!
# The streams between two hosts

The whole way of a byte: {lit}`send()` of one host's application, its session, its stack, a
datagram, the other stack, its session and the reads of the other application.  Two stacks that
open one connection are two sessions with a network between them, whatever the network does with
the datagrams and whatever it corrupts, and what holds of the streams of the sessions holds of those
of the applications.

Main results:

- Theorem {lit}`hosts_refine`: every run of the hosts is a run of the connection of their sessions,
  with the same streams.
- Theorem {lit}`hosts_stream_safety`: what an application reads is a prefix of what the other one
  has sent.
-/

namespace MyuTcp

open Library

namespace Connection

/-- What one side has received is a prefix of what the other one has accepted, and contains what has
left the send buffer. -/
theorem Joined.streams {ordered : Prop} {x y : UInt32} {g : Connection × Streams}
    (h : Joined ordered x y g) (side : Side) :
    received g side.other <+: g.2.accepted side ∧
      ∃ released, g.2.accepted side = released ++ (g.1.session side).sendBuffer.toList ∧
        released <+: received g side.other := by
  have hnumbering := (h.sender side).numbering
  have hstream := (h.receiver side.other).stream
  rw [Side.other_other, map_some_prefix_iff] at hstream
  have hreceived := hstream.trans hnumbering.stream
  refine ⟨hreceived, ?_⟩
  rcases hnumbering.buffer with ⟨released, hreleased⟩
  refine ⟨released, hreleased.symm, ?_⟩
  have hcount := h.released side
  rw [← hreleased, List.length_append, RingQueue.length_toList] at hcount
  exact List.prefix_of_prefix_length_le ⟨_, hreleased⟩ hreceived (by omega)

end Connection

namespace TcpStack

/-! ## What a stack event accepts, sends and reads -/

/-- The bytes that {lit}`send()` of a session of the stack reports as accepted. -/
def acceptedBy (st : TcpStack) : StackEvent → List UInt8
  | .session k e => (st.tcpSessions.find? k).elim [] fun entry => entry.session.acceptedBy e
  | _ => []

/-- The bytes that an application reads from a session of the stack. -/
def readBy (st : TcpStack) : StackEvent → List UInt8
  | .session k e => (st.tcpSessions.find? k).elim [] fun entry => entry.session.readBy e
  | _ => []

/-- What the numbers carry that a step uses.  A retransmission uses no new numbers. -/
def sentBy (st : TcpStack) (ev : StackEvent) (st' : TcpStack) : List (Option UInt8) :=
  match ev with
  | .session _ (.expire _) => []
  | _ => (st'.sent.drop st.sent.length).flatMap fun d => d.packet.carried

section Records

variable {st st' : TcpStack} {ev : StackEvent} {s s' : TcpSession} {e : Event}

/-- What the host accepts is what its session accepts. -/
theorem Acts.acceptedBy (h : st.Acts ev st' s e s') : st.acceptedBy ev = s.acceptedBy e := by
  rcases h with ⟨hconcerns, howner, -, -⟩
  cases hconcerns with
  | call k hcall =>
      rcases howner k rfl with ⟨entry, hfind, rfl⟩
      rw [TcpStack.acceptedBy, hfind, Option.elim_some]
  | packet hparse => rfl

/-- What the host reads is what its session reads. -/
theorem Acts.readBy (h : st.Acts ev st' s e s') : st.readBy ev = s.readBy e := by
  rcases h with ⟨hconcerns, howner, -, -⟩
  cases hconcerns with
  | call k hcall =>
      rcases howner k rfl with ⟨entry, hfind, rfl⟩
      rw [TcpStack.readBy, hfind, Option.elim_some]
  | packet hparse => rfl

/-- What the host sends is what its session sends. -/
theorem Acts.sentBy (h : st.Acts ev st' s e s') : st.sentBy ev st' = s.sentBy e s' := by
  have hnew : (st'.sent.drop st.sent.length).flatMap (fun d => d.packet.carried) =
      TcpSession.newWire s s' := by
    rw [h.sent, List.drop_left]
    rfl
  cases h.concerns with
  | call k hcall => cases e <;> first | rfl | exact hnew
  | packet hparse => exact hnew

/-- A host at rest accepts nothing. -/
theorem Rests.acceptedBy (h : st.Rests ev st') : st.acceptedBy ev = [] := by
  cases ev with
  | session k e => exact absurd rfl (h.noCall k e)
  | _ => rfl

/-- A host at rest reads nothing. -/
theorem Rests.readBy (h : st.Rests ev st') : st.readBy ev = [] := by
  cases ev with
  | session k e => exact absurd rfl (h.noCall k e)
  | _ => rfl

/-- A reset has no number. -/
theorem Rests.sentBy (h : st.Rests ev st') : st.sentBy ev st' = [] := by
  have hnew : (st'.sent.drop st.sent.length).flatMap (fun d => d.packet.carried) = [] := by
    rcases h.sent with hsent | ⟨d, hsent, hreset⟩
    · rw [hsent, List.drop_length]
      rfl
    · rw [hsent, List.drop_left, List.flatMap_singleton, hreset]
      rfl
  cases ev with
  | session k e => exact absurd rfl (h.noCall k e)
  | _ => exact hnew

end Records

end TcpStack

namespace Hosts

open Connection

/-- The record after a step: what the application of the host has handed over and read, and what
the numbers carry that its session has used. -/
def recordStreams (h : Hosts) (e : HostEvent) (h' : Hosts) (g : Streams) : Streams where
  accepted := Function.update g.accepted e.side
    (g.accepted e.side ++ (h e.side).acceptedBy e.event)
  wire := Function.update g.wire e.side
    (g.wire e.side ++ (h e.side).sentBy e.event (h' e.side))
  read := Function.update g.read e.side
    (g.read e.side ++ (h e.side).readBy e.event)

/-- The hosts and the record of their streams. -/
def withStreams (address : Side → Address) : StepFn (Hosts × Streams) HostEvent :=
  (step address).withGhost recordStreams

/-- The sessions of the hosts before their first packet: one that has been created, and one that
listens. -/
def firstSessions (address : Side → Address) (seeds : Side → SessionSeeds) : Connection :=
  ⟨TcpStack.firstSession (address .b) (seeds .a) .a,
    TcpStack.firstSession (address .a) (seeds .b) .b⟩

/-- The hosts are those of the two sessions of a connection, and the streams are the same. -/
structure Projects (address : Side → Address) (seeds : Side → SessionSeeds) (h : Hosts × Streams)
    (c : Connection × Streams) : Prop where
  hosted : ∀ side, TcpStack.Hosted (address side.other)
    (TcpStack.firstSession (address side.other) (seeds side) side) (h.1 side) (c.1.session side)
  streams : c.2 = h.2

section Projection

variable {address : Side → Address} {seeds : Side → SessionSeeds} {h h' : Hosts × Streams}
  {c : Connection × Streams} {e : HostEvent}

/-- A step of the hosts is one of a stack. -/
theorem step_eq_some_iff {h h' : Hosts} :
    step address h e = some h' ↔ h.Possible address e ∧
      ∃ st', TcpStack.step (h e.side) e.event = some st' ∧ h' = Function.update h e.side st' := by
  unfold step
  split <;> rename_i hpossible
  · simp [hpossible, eq_comm]
  · simp [hpossible]

/-- A datagram that the network carries holds a packet of the other session, or none that the
session looks at. -/
theorem Projects.carried (hp : Projects address seeds h c) {side : Side} {bytes : List UInt8}
    (hcarried : Carried (h.1 side) bytes) {packet : MyuTcpPacket}
    (hparse : UdpDriver.onUvRecv bytes = some packet) :
    packet ∈ (c.1.session side).packets ∨ verifyChecksum packet = false := by
  rcases hcarried with ⟨d, hd, rfl⟩ | hrejected
  · rw [UdpDriver.onUvRecv_sendPacket, Option.some.injEq] at hparse
    rcases (hp.hosted side).sent d hd with hsent | hreset
    · have hoptions := (hp.hosted side).optionless.sent d hsent
      have hpacket : d.packet = packet := by rw [← hparse, ← hoptions]
      exact Or.inl (hpacket ▸ List.mem_map_of_mem hsent)
    · right
      rw [← hparse, hreset]
      change verifyChecksum TcpStack.resetPacket = false
      decide +kernel
  · rw [hparse] at hrejected
    exact Or.inr hrejected

/-- A step without bytes leaves the streams as they are. -/
theorem recordStreams_of_nil {h h' : Hosts} {g : Streams}
    (haccepted : (h e.side).acceptedBy e.event = [])
    (hsent : (h e.side).sentBy e.event (h' e.side) = [])
    (hread : (h e.side).readBy e.event = []) : recordStreams h e h' g = g := by
  rw [recordStreams, haccepted, hsent, hread, List.append_nil, List.append_nil, List.append_nil,
    Function.update_eq_self, Function.update_eq_self, Function.update_eq_self]

/-- The sessions stay as they are. -/
theorem Projects.rest (hp : Projects address seeds h c) {st' : TcpStack}
    (hupdate : h'.1 = Function.update h.1 e.side st')
    (hghost : h'.2 = recordStreams h.1 e h'.1 h.2)
    (hhosted : TcpStack.Hosted (address e.side.other)
      (TcpStack.firstSession (address e.side.other) (seeds e.side) e.side) st'
      (c.1.session e.side))
    (haccepted : (h.1 e.side).acceptedBy e.event = [])
    (hsent : (h.1 e.side).sentBy e.event st' = [])
    (hread : (h.1 e.side).readBy e.event = []) : Projects address seeds h' c where
  hosted side := by
    rw [hupdate]
    rcases e.side.eq_or_eq_other side with rfl | rfl
    · rw [Function.update_self]
      exact hhosted
    · rw [Function.update_of_ne e.side.other_ne]
      exact hp.hosted e.side.other
  streams := by
    have hself : h'.1 e.side = st' := by rw [hupdate, Function.update_self]
    rw [hghost, recordStreams_of_nil haccepted (by rw [hself]; exact hsent) hread]
    exact hp.streams

/-- The session of the host takes a step. -/
theorem Projects.act (hp : Projects address seeds h c) {st' : TcpStack} {ev : Event}
    {s' : TcpSession} (hupdate : h'.1 = Function.update h.1 e.side st')
    (hghost : h'.2 = recordStreams h.1 e h'.1 h.2)
    (hacts : (h.1 e.side).Acts e.event st' (c.1.session e.side) ev s')
    (hhosted : TcpStack.Hosted (address e.side.other)
      (TcpStack.firstSession (address e.side.other) (seeds e.side) e.side) st' s') :
    Projects address seeds h'
      (c.1.update e.side s',
        Connection.recordStreams c.1 ⟨e.side, ev⟩ (c.1.update e.side s') c.2) where
  hosted side := by
    rw [hupdate]
    rcases e.side.eq_or_eq_other side with rfl | rfl
    · rw [Function.update_self, session_update_self]
      exact hhosted
    · rw [Function.update_of_ne e.side.other_ne, session_update_other]
      exact hp.hosted e.side.other
  streams := by
    have hself : h'.1 e.side = st' := by rw [hupdate, Function.update_self]
    rw [hghost, Hosts.recordStreams, Connection.recordStreams, hself, hacts.acceptedBy,
      hacts.sentBy, hacts.readBy, session_update_self, hp.streams]

/-- A packet that the network may not deliver in the connection fails its checksum. -/
theorem Projects.rejected (hp : Projects address seeds h c) {side : Side}
    {event : TcpStack.StackEvent} {ev : Event} (hpossible : h.1.Possible address ⟨side, event⟩)
    (hconcerns : TcpStack.Concerns event ev) (hnot : ¬ c.1.Possible ⟨side, ev⟩) :
    ∃ packet iss, ev = .input packet iss ∧ verifyChecksum packet = false := by
  cases hconcerns with
  | call k hcall =>
      cases ev with
      | input packet iss => exact absurd rfl (hcall packet iss)
      | _ => exact absurd trivial hnot
  | packet hparse =>
      rcases hp.carried hpossible.2 hparse with hsent | hrejected
      · exact absurd hsent hnot
      · exact ⟨_, _, rfl, hrejected⟩

/-- A step of the hosts is a step of the connection, or leaves it as it is. -/
theorem projects_step (hp : Projects address seeds h c) (hok : OneConnection address seeds h.1 e)
    (hstep : withStreams address h e = some h') :
    Projects address seeds h' c ∨
      ∃ ev c', TcpStack.Concerns e.event ev ∧
        Connection.withStreams c ⟨e.side, ev⟩ = some c' ∧ Projects address seeds h' c' := by
  rcases StepFn.withGhost_eq_some.mp hstep with ⟨hhosts, hghost⟩
  rcases step_eq_some_iff.mp hhosts with ⟨hpossible, st', hst', hupdate⟩
  rcases TcpStack.hosted_step (hp.hosted e.side) hok hst' with
    ⟨hrests, hhosted⟩ | ⟨ev, s', hacts, hhosted⟩
  · exact Or.inl (hp.rest hupdate hghost hhosted hrests.acceptedBy hrests.sentBy hrests.readBy)
  by_cases hcarries : c.1.Possible ⟨e.side, ev⟩
  · refine Or.inr ⟨ev, _, hacts.concerns, ?_, hp.act hupdate hghost hacts hhosted⟩
    exact withStreams_of_step hcarries hacts.step
  · left
    rcases hp.rejected hpossible hacts.concerns hcarries with ⟨packet, iss, rfl, hrejected⟩
    have hsame := hacts.step
    rw [TcpStack.step_corrupted hrejected, Option.some.injEq] at hsame
    subst hsame
    refine hp.rest hupdate hghost hhosted hacts.acceptedBy ?_ hacts.readBy
    rw [hacts.sentBy]
    exact TcpSession.newWire_of_eq rfl

/-- The hosts at the start, and their sessions. -/
theorem projects_start :
    Projects address seeds (new, Streams.empty) (firstSessions address seeds, Streams.empty) where
  hosted side := by
    cases side
    · exact TcpStack.hosted_new _ _ _
    · exact TcpStack.hosted_new _ _ _
  streams := rfl

end Projection

/-- Every run of two hosts that open one connection is a run of two sessions and the network
between them, with the same bytes handed over and read. -/
theorem hosts_refine {address : Side → Address} {seeds : Side → SessionSeeds}
    {h : Hosts × Streams}
    (hh : (withStreams address).Reachable (fun h e => OneConnection address seeds h.1 e)
      (new, Streams.empty) h) :
    ∃ c, Connection.withStreams.Reachable (fun _ _ => True)
        (firstSessions address seeds, Streams.empty) c ∧
      Projects address seeds h c := by
  refine hh.simulated ?_ projects_start
  intro h e h' c hp hok hstep
  rcases projects_step hp hok hstep with hstays | ⟨ev, c', -, hc', hmoves⟩
  · exact ⟨c, .start, hstays⟩
  · exact ⟨c', .next .start trivial hc', hmoves⟩

/-- The hosts of the concrete run. -/
def exampleAddress : Side → Address
  | .a => Address.of "10.0.0.1" 7000
  | .b => clientAddress

/-- The host connects, sends a byte, and the other application reads it when its turn comes.  One of
the datagrams on the way is damaged. -/
def byteRun : List HostEvent :=
  let arrives (side : Side) (packet : MyuTcpPacket) : HostEvent :=
    ⟨side, .datagram (exampleAddress side.other) (UdpDriver.sendPacket packet) zeroSeeds 100⟩
  [⟨.b, .listen⟩, ⟨.a, .createSession (exampleAddress .b) zeroSeeds⟩,
    ⟨.a, .session (exampleAddress .b) (.connect 0)⟩,
    arrives .b (wirePacket 0 8000 flagSyn 0 0),
    arrives .a (wirePacket 0 7000 (flagSyn ||| flagAck) 100 1),
    arrives .b (wirePacket 0 8000 flagAck 1 101),
    ⟨.a, .session (exampleAddress .b) (.send [7])⟩,
    arrives .b { wirePacket 0 8000 flagAck 1 101 with payload := [8] },
    arrives .b
      (calculateChecksum { wirePacket 0 8000 flagAck 1 101 with payload := [7] }),
    ⟨.b, .takeReadyQueue⟩, ⟨.b, .dispatchNext⟩, ⟨.b, .session (exampleAddress .a) .readAll⟩]

theorem byteRun_reads :
    ∃ h, (withStreams exampleAddress).run (new, Streams.empty) byteRun = some h ∧
      h.2.accepted .a = [7] ∧ h.2.read .b = [7] := by
  have hrun : (((withStreams exampleAddress).run (new, Streams.empty) byteRun).any fun h =>
      h.2.accepted .a = [7] ∧ h.2.read .b = [7]) = true := by
    decide +kernel
  rcases (Option.any_eq_true _ _).mp hrun with ⟨h, hh, hfacts⟩
  exact ⟨h, hh, of_decide_eq_true hfacts⟩

theorem byteRun_once :
    (withStreams exampleAddress).AllSteps
      (fun h e => OneConnection exampleAddress (fun _ => zeroSeeds) h.1 e) (new, Streams.empty)
      byteRun := by
  have hcheck : (withStreams exampleAddress).checkSteps
      (fun h e => OneConnection exampleAddress (fun _ => zeroSeeds) h.1 e) (new, Streams.empty)
      byteRun = true := by
    decide +kernel
  exact StepFn.allSteps_of_check (fun _ _ => of_decide_eq_true) hcheck

/-- The byte is one of a connection. -/
theorem hosts_refine_byteRun :
    ∃ h c, (withStreams exampleAddress).run (new, Streams.empty) byteRun = some h ∧
      h.2.read .b = [7] ∧
      Connection.withStreams.Reachable (fun _ _ => True)
        (firstSessions exampleAddress (fun _ => zeroSeeds), Streams.empty) c ∧
      Projects exampleAddress (fun _ => zeroSeeds) h c := by
  rcases byteRun_reads with ⟨h, hh, -, hread⟩
  rcases hosts_refine (StepFn.reachable_of_run byteRun_once hh) with ⟨c, hc, hp⟩
  exact ⟨h, c, hh, hread, hc, hp⟩

/-! ## The streams of the applications -/

/-- The first host connects once, with the number {lit}`x`, and the second one draws {lit}`y` for
the SYN that opens its session. -/
def Draws (x y : UInt32) (h : Hosts) (e : HostEvent) : Prop :=
  match e.event with
  | .session _ (.connect iss) => e.side = .a ∧ iss = x ∧ (h .a).sent = []
  | .session _ .listen => False
  | .datagram _ _ _ iss => e.side = .b → iss = y
  | _ => True

instance (x y : UInt32) (h : Hosts) : (e : HostEvent) → Decidable (Draws x y h e)
  | ⟨_, .session _ (.connect _)⟩ => inferInstanceAs (Decidable (_ ∧ _))
  | ⟨_, .session _ .listen⟩ => isFalse id
  | ⟨_, .datagram ..⟩ => inferInstanceAs (Decidable (_ → _))
  | ⟨_, .session _ (.setRemoteAddr ..)⟩ | ⟨_, .session _ (.setListenerPort ..)⟩
  | ⟨_, .session _ (.send ..)⟩ | ⟨_, .session _ (.recv ..)⟩ | ⟨_, .session _ .readAll⟩
  | ⟨_, .session _ .close⟩ | ⟨_, .session _ (.input ..)⟩ | ⟨_, .session _ (.expire ..)⟩
  | ⟨_, .session _ .expire2Msl⟩ | ⟨_, .createSession ..⟩ | ⟨_, .listen⟩ | ⟨_, .takeReadyQueue⟩
  | ⟨_, .dispatchNext⟩ => isTrue trivial

/-- A step of two hosts that open one connection, in which no number has been used twice. -/
structure Streaming (address : Side → Address) (seeds : Side → SessionSeeds) (x y : UInt32)
    (h : Hosts × Streams) (e : HostEvent) : Prop where
  once : OneConnection address seeds h.1 e
  draws : Draws x y h.1 e
  unrepeated : ∀ side, TcpSession.Unrepeated (h.2.wire side)

instance (address : Side → Address) (seeds : Side → SessionSeeds) (x y : UInt32)
    (h : Hosts × Streams) (e : HostEvent) : Decidable (Streaming address seeds x y h e) :=
  decidable_of_iff (OneConnection address seeds h.1 e ∧ Draws x y h.1 e ∧
      (h.2.wire .a).length ≤ 2 ^ 32 ∧ (h.2.wire .b).length ≤ 2 ^ 32) <| by
    constructor
    · rintro ⟨honce, hdraws, ha, hb⟩
      refine ⟨honce, hdraws, fun side => ?_⟩
      cases side
      · exact ha
      · exact hb
    · exact fun hstreaming => ⟨hstreaming.once, hstreaming.draws, hstreaming.unrepeated .a,
        hstreaming.unrepeated .b⟩

section Safety

variable {address : Side → Address} {seeds : Side → SessionSeeds} {x y : UInt32}
  {h : Hosts × Streams} {c : Connection × Streams} {e : HostEvent}

/-- The event of the session is one of a handshake. -/
theorem Draws.handshakes (hdraws : Draws x y h.1 e) (hp : Projects address seeds h c) {ev : Event}
    (hconcerns : TcpStack.Concerns e.event ev) : Handshakes x y c.1 ⟨e.side, ev⟩ := by
  rcases e with ⟨side, event⟩
  cases hconcerns with
  | call k hcall =>
      cases ev with
      | connect iss =>
          rcases hdraws with ⟨hside, hiss, hnil⟩
          refine ⟨hside, hiss, List.eq_nil_iff_forall_not_mem.mpr fun d hd => ?_⟩
          have hlog := (hp.hosted .a).log d hd
          rw [hnil] at hlog
          contradiction
      | listen => exact hdraws
      | input packet iss => exact absurd rfl (hcall packet iss)
      | _ => trivial
  | packet hparse => exact hdraws

/-- Before any step the hosts and the sessions agree. -/
theorem joined_firstSessions :
    Joined False x y (firstSessions address seeds, Streams.empty) :=
  joined_start (TcpStack.created_freshSession _ _ _) (TcpStack.created_freshSession _ _ _)

/-- The streams of the sessions are in order at every moment. -/
theorem joined_of_reachable
    (hh : (withStreams address).Reachable (Streaming address seeds x y) (new, Streams.empty) h) :
    ∃ c, Joined False x y c ∧ Projects address seeds h c := by
  refine hh.invariant (P := fun h => ∃ c, Joined False x y c ∧ Projects address seeds h c)
    ⟨_, joined_firstSessions, projects_start⟩ ?_
  rintro h e h' ⟨c, hjoined, hp⟩ hok hstep
  rcases projects_step hp hok.once hstep with hstays | ⟨ev, c', hconcerns, hc', hmoves⟩
  · exact ⟨c, hjoined, hstays⟩
  · have hstreaming : Connection.Streaming x y c ⟨e.side, ev⟩ := by
      refine ⟨hok.draws.handshakes hp hconcerns, fun side => ?_⟩
      rw [hp.streams]
      exact hok.unrepeated side
    exact ⟨c', joined_step hjoined hstreaming (fun hfalse => absurd hfalse id) hc', hmoves⟩

/-- In every run of two hosts that open one connection, what an application has read and what waits
for it is a prefix of what the other application has sent, and contains every byte that has left the
send buffer. -/
theorem hosts_stream_safety
    (hh : (withStreams address).Reachable (Streaming address seeds x y) (new, Streams.empty) h)
    (side : Side) :
    h.2.read side.other <+: h.2.accepted side ∧
      ∀ k receiver, (h.1 side.other).tcpSessions.find? k = some receiver →
        h.2.read side.other ++ receiver.session.recvBuffer.toList <+: h.2.accepted side ∧
          ∀ j sender, (h.1 side).tcpSessions.find? j = some sender →
            ∃ released, h.2.accepted side = released ++ sender.session.sendBuffer.toList ∧
              released <+: h.2.read side.other ++ receiver.session.recvBuffer.toList := by
  rcases joined_of_reachable hh with ⟨c, hjoined, hp⟩
  rcases hjoined.streams side with ⟨hreceived, hreleased⟩
  rw [received, hp.streams] at hreceived hreleased
  refine ⟨(List.prefix_append _ _).trans hreceived, fun k receiver hreceiver => ?_⟩
  rcases (hp.hosted side.other).entries k receiver hreceiver with ⟨-, hsame⟩
  rw [hsame]
  refine ⟨hreceived, fun j sender hsender => ?_⟩
  rcases (hp.hosted side).entries j sender hsender with ⟨-, hsame'⟩
  rw [hsame']
  exact hreleased

end Safety

theorem byteRun_streaming :
    (withStreams exampleAddress).AllSteps
      (Streaming exampleAddress (fun _ => zeroSeeds) 0 100) (new, Streams.empty) byteRun := by
  have hcheck : (withStreams exampleAddress).checkSteps
      (fun h e => Streaming exampleAddress (fun _ => zeroSeeds) 0 100 h e) (new, Streams.empty)
      byteRun = true := by
    decide +kernel
  exact StepFn.allSteps_of_check (fun _ _ => of_decide_eq_true) hcheck

/-- The byte is read as it was sent. -/
theorem hosts_stream_safety_byteRun :
    ∃ h, (withStreams exampleAddress).run (new, Streams.empty) byteRun = some h ∧
      h.2.accepted .a = [7] ∧ h.2.read .b = [7] ∧
      h.2.read (Side.other .a) <+: h.2.accepted .a ∧
      ∀ k receiver, (h.1 (Side.other .a)).tcpSessions.find? k = some receiver →
        h.2.read (Side.other .a) ++ receiver.session.recvBuffer.toList <+: h.2.accepted .a ∧
          ∀ j sender, (h.1 .a).tcpSessions.find? j = some sender →
            ∃ released, h.2.accepted .a = released ++ sender.session.sendBuffer.toList ∧
              released <+: h.2.read (Side.other .a) ++ receiver.session.recvBuffer.toList := by
  rcases byteRun_reads with ⟨h, hh, haccepted, hread⟩
  exact ⟨h, hh, haccepted, hread,
    hosts_stream_safety (StepFn.reachable_of_run byteRun_streaming hh) .a⟩

end Hosts

end MyuTcp
