import MyuTcp.Core.IdleSession
import MyuTcp.Core.Receiver
import MyuTcp.Properties.Handshake

/-!
# The streams of a connection

A connection with a record of what happens to its two streams: the bytes that {lit}`send()` has
accepted, what the sequence numbers used so far carry, and the bytes that the application has
read.  In each direction the received bytes begin the accepted ones, and they contain what the
sender has released, for as long as no sequence number is used twice.

Main results:

- Theorem {lit}`joined_step`: every step of a connection keeps the two streams in order.
- Theorem {lit}`stream_safety`: the received bytes are a prefix of the accepted ones and contain
  the released ones.
-/

namespace MyuTcp

open Library

namespace TcpSession

section SendBuffer

variable {s₀ s s' a b : TcpSession} {e : Event}

/-- An accepted acknowledgment releases what it covers. -/
def Releases (s₀ : TcpSession) (e : Event) (q : RingQueue UInt8 1024) : Prop :=
  ∃ packet iss, e = .input packet iss ∧ s₀.AcceptsAckEvent e ∧
    q = s₀.sendBuffer.popFront (packet.ack - s₀.sendWindow.sendUnack).toNat

/-- Apart from {lit}`send()`, a move keeps the send buffer or releases what an accepted
acknowledgment covers. -/
theorem Move.sendBuffer (hsend : ∀ data, e ≠ .send data) (hmove : Move s₀ e a b) :
    b.sendBuffer = a.sendBuffer ∨ Releases s₀ e b.sendBuffer := by
  cases hmove with
  | connect i => rw [connect_eq]; exact Or.inl rfl
  | enqueue hpush => exact absurd rfl (hsend _)
  | trySend s => exact Or.inl (handleTrySend_sendBuffer a)
  | closeEstablished hstate => rw [closeEstablished_eq]; exact Or.inl rfl
  | closeCloseWait s hstate => rw [closeCloseWait_eq]; exact Or.inl rfl
  | abortOpening hstate => rw [abortOpening_eq]; exact Or.inl rfl
  | passiveOpen hstate hsyn => rw [handleListen_eq _ hsyn]; exact Or.inl rfl
  | peerSyn hstate hsyn hflag => rw [acceptPeerSyn_eq]; exact Or.inl rfl
  | ack haccepts => exact Or.inr ⟨_, _, rfl, haccepts, processAck_sendBuffer _ _⟩
  | inOrder s hstate hseq hdrain =>
      rcases a.reassemble_acceptPayload_frame _ _ with ⟨m, q, n, hframe⟩
      rw [hframe]
      exact Or.inl rfl
  | outOfOrder s hstate hseq =>
      rcases a.storeOutOfOrder_frame _ _ with ⟨m, hframe⟩
      rw [hframe]
      exact Or.inl rfl
  | finishCloseWait s hstate =>
      by_cases hdrained : a.Drained
      · rw [finishCloseWait_of_drained _ hdrained]
        exact Or.inl rfl
      · rw [finishCloseWait_of_not _ hdrained]
        exact Or.inl rfl
  | @expire k t hactive =>
      by_cases hlimit : t.callback.retransmitCount + 1 ≥ maxRetransmitCount
      · rw [runClosure_of_limit _ hlimit]
        exact Or.inl rfl
      · rw [runClosure_of_lt _ hlimit]
        exact Or.inl rfl
  | _ => exact Or.inl rfl

/-- A step stores what {lit}`send()` accepts, or releases what is acknowledged. -/
theorem sendBuffer_step (hstep : step s e = some s') :
    s'.sendBuffer.toList = s.sendBuffer.toList ++ s.acceptedBy e ∨
      Releases s e s'.sendBuffer := by
  by_cases hsend : ∃ data, e = .send data
  · rcases hsend with ⟨data, rfl⟩
    cases hstep
    rcases send_eq s data with ⟨hnone, hsame⟩ | ⟨buffer, hbuffer, hframe⟩
    · rw [hnone, hsame, List.append_nil]
      exact Or.inl rfl
    · rw [hframe, handleTrySend_sendBuffer]
      exact Or.inl hbuffer
  · rw [not_exists] at hsend
    have hkept : s'.sendBuffer = s.sendBuffer ∨ Releases s e s'.sendBuffer := by
      apply (step_moves hstep).preserves (P := fun t => t.sendBuffer = s.sendBuffer ∨
        Releases s e t.sendBuffer) _ (Or.inl rfl)
      intro a b ha hmove
      rcases hmove.sendBuffer hsend with hsame | hreleases
      · rw [hsame]
        exact ha
      · exact Or.inr hreleases
    have hnone : s.acceptedBy e = [] := by
      cases e with
      | send data => exact absurd rfl (hsend data)
      | _ => rfl
    rw [hnone, List.append_nil]
    exact hkept.imp_left fun hsame => by rw [hsame]

end SendBuffer

section Opening

variable {s s' : TcpSession} {e : Event} {flags : UInt8} {iss : UInt32}

/-- A session that opens once does not listen again. -/
theorem OpensAs.not_listen (h : OpensAs flags iss s e) (hs : s.state ≠ .listen)
    (hstep : step s e = some s') : s'.state ≠ .listen := by
  have htransition := step_transition hstep
  generalize s'.state = next at htransition
  cases htransition with
  | stay => exact hs
  | listen hstate => exact absurd h id
  | _ => simp

/-- A session that opens passively never connects. -/
theorem OpensAs.not_synSent (h : OpensAs flags iss s e) (hflags : flags ≠ flagSyn)
    (hs : s.state ≠ .synSent) (hstep : step s e = some s') : s'.state ≠ .synSent := by
  have htransition := step_transition hstep
  generalize s'.state = next at htransition
  cases htransition with
  | stay => exact hs
  | connect i => exact absurd h.2.1 hflags
  | _ => simp

end Opening

end TcpSession

namespace Connection

open TcpSession

/-! ## The record of the streams -/

/-- What has happened to the streams of each side: the bytes accepted by {lit}`send()`, what the
numbers carry that the side has used, and the bytes that the application has read. -/
structure Streams where
  accepted : Side → List UInt8
  wire : Side → List (Option UInt8)
  read : Side → List UInt8

/-- Nothing has been accepted, sent or received. -/
def Streams.empty : Streams where
  accepted _ := []
  wire _ := []
  read _ := []

/-- The record after a step. -/
def recordStreams (c : Connection) (e : ConnectionEvent) (c' : Connection) (g : Streams) :
    Streams where
  accepted := Function.update g.accepted e.side
    (g.accepted e.side ++ (c.session e.side).acceptedBy e.event)
  wire := Function.update g.wire e.side
    (g.wire e.side ++ (c.session e.side).sentBy e.event (c'.session e.side))
  read := Function.update g.read e.side
    (g.read e.side ++ (c.session e.side).readBy e.event)

/-- The connection and the record of its streams. -/
def withStreams : StepFn (Connection × Streams) ConnectionEvent := step.withGhost recordStreams

/-- The bytes that a side has accepted from the network: what its application has read, and
what waits in the receive buffer. -/
def received (g : Connection × Streams) (side : Side) : List UInt8 :=
  g.2.read side ++ (g.1.session side).recvBuffer.toList

/-- The flags of the SYN of each side. -/
def synFlags : Side → UInt8
  | .a => flagSyn
  | .b => flagSyn ||| flagAck

/-- The flags of a SYN are without FIN. -/
theorem synFlags_fin (side : Side) : synFlags side &&& flagFin = 0 := by
  cases side <;> decide

/-- A step of a connection in which no number has been used twice. -/
def Streaming (x y : UInt32) (g : Connection × Streams) (e : ConnectionEvent) : Prop :=
  Handshakes x y g.1 e ∧ ∀ side, Unrepeated (g.2.wire side)

instance (x y : UInt32) (g : Connection × Streams) (e : ConnectionEvent) :
    Decidable (Streaming x y g e) :=
  decidable_of_iff (Handshakes x y g.1 e ∧
      (g.2.wire .a).length ≤ 2 ^ 32 ∧ (g.2.wire .b).length ≤ 2 ^ 32) <| by
    rw [Streaming]
    refine and_congr_right fun _ => ⟨?_, fun h => ⟨h .a, h .b⟩⟩
    rintro ⟨ha, hb⟩ (_ | _)
    · exact ha
    · exact hb

/-- The streams of both sides are in order. -/
structure Joined (ordered : Prop) (x y : UInt32) (g : Connection × Streams) : Prop where
  sender : ∀ side, Sender (synFlags side) (isn x y side) (g.2.accepted side) (g.2.wire side)
    (g.1.session side)
  receiver : ∀ side, Receiver ordered (isn x y side.other) (g.2.wire side.other)
    (received g side) (g.1.session side)
  released : ∀ side, (g.2.accepted side).length ≤
    (g.1.session side).sendBuffer.size + (received g side.other).length
  keyed : ∀ side, (g.1.session side).Keyed
  stored : ∀ side, NothingStored (g.1.session side)
  client : g.1.a.state ≠ .listen
  server : g.1.b.state ≠ .synSent

section Joined

variable {ordered : Prop} {x y : UInt32} {g g' : Connection × Streams} {e : ConnectionEvent}

/-- What a delivered packet carries is on the wire of the other side. -/
theorem Joined.onWire (h : Joined ordered x y g) (hpossible : g.1.Possible e)
    {packet : MyuTcpPacket} {iss : UInt32} (he : e.event = .input packet iss) :
    OnWire (synFlags e.side.other) (isn x y e.side.other) (g.2.wire e.side.other) packet :=
  (h.sender e.side.other).packets.packets (possible_input hpossible he)

/-- Each side opens one connection. -/
theorem Joined.opensAs (h : Joined ordered x y g) (hok : Handshakes x y g.1 e)
    (hpossible : g.1.Possible e) :
    OpensAs (synFlags e.side) (isn x y e.side) (g.1.session e.side) e.event := by
  rcases e with ⟨side, event⟩
  cases event with
  | connect i =>
      rcases hok with ⟨hside, hi, hnil⟩
      dsimp only at hside
      subst hside
      exact ⟨hi, rfl, hnil⟩
  | listen => exact hok
  | input packet i =>
      have hwire := h.onWire hpossible rfl
      cases side with
      | a =>
          refine ⟨fun hlisten => absurd hlisten h.client, ?_⟩
          intro _ hsyn
          rw [MyuTcpPacket.has, (hwire.syn hsyn).1]
          change (synFlags .b &&& flagAck != 0) = true
          decide
      | b => exact ⟨fun _ => ⟨hok rfl, rfl⟩, fun hsent => absurd hsent h.server⟩
  | _ => trivial

/-- An acknowledgment releases no more than the other side has received. -/
theorem Joined.covered (h : Joined ordered x y g) {side : Side} {packet : MyuTcpPacket}
    {iss : UInt32} (hpossible : g.1.Possible ⟨side, .input packet iss⟩)
    (hshort : Unrepeated (g.2.wire side))
    (haccepts : (g.1.session side).AcceptsAckEvent (.input packet iss)) :
    (g.2.accepted side).length ≤
      ((g.1.session side).sendBuffer.popFront
        (packet.ack - (g.1.session side).sendWindow.sendUnack).toNat).size +
      (received g side.other).length := by
  rcases haccepts with ⟨-, hstate, hflag, hack⟩
  have hnumbering := (h.sender side).numbering
  have hopen := hnumbering.unfinished hstate
  rcases hnumbering.inflight (Or.inl hstate) hopen with ⟨k, hunack, hbuffer, hlen, hbound⟩
  have hmem : packet ∈ (g.1.session side.other).packets := hpossible
  have hreceiver := h.receiver side.other
  rw [Side.other_other] at hreceiver
  rcases (hreceiver.acks.packets hmem hflag).1 (Or.inr hopen) with ⟨m, hpos, hnumber, hknown⟩
  rcases acceptsAck_iff.mp hack with ⟨hlow, hhigh⟩
  have hinflight := ((lt_and_le_iff_sub (hlow.trans_le hhigh).le).mp ⟨hlow, hhigh⟩).2
  change _ ≤ (g.1.session side).inflight.toNat at hinflight
  -- the acknowledged position, counted from the start of the stream
  have hposition : m = 1 + k + (packet.ack - (g.1.session side).sendWindow.sendUnack).toNat := by
    have hle := hknown.le_length
    have hdistance : packet.ack - (g.1.session side).sendWindow.sendUnack =
        UInt32.ofNat m - UInt32.ofNat (1 + k) := by
      rw [hnumber, hunack]
      grind
    have hcount : (packet.ack - (g.1.session side).sendWindow.sendUnack).toNat =
        (2 ^ 32 - (1 + k) % 2 ^ 32 + m % 2 ^ 32) % 2 ^ 32 := by
      rw [hdistance, UInt32.toNat_sub, UInt32.toNat_ofNat', UInt32.toNat_ofNat']
    unfold Unrepeated at hshort
    omega
  have hhead := (hnumbering.next (by simp [Numbered, hstate])).2
  rcases List.head?_eq_some_iff.mp hhead with ⟨rest, hrest⟩
  rw [hrest, hposition, Nat.add_assoc] at hknown
  rw [hrest, List.tail_cons] at hopen
  have hreceived := hknown.le_of_notMem hopen
  have hsize : (g.2.accepted side).length - k = (g.1.session side).sendBuffer.size := by
    rw [← List.length_drop, ← hbuffer, RingQueue.length_toList]
  rw [RingQueue.size_popFront]
  omega

/-- A step of one side: the session and the record of that side move on, and those of the
other side stay. -/
structure Advances (g : Connection × Streams) (e : ConnectionEvent) (s' : TcpSession)
    (g' : Connection × Streams) : Prop where
  possible : g.1.Possible e
  step : TcpSession.step (g.1.session e.side) e.event = some s'
  session : g'.1.session e.side = s'
  session_other : g'.1.session e.side.other = g.1.session e.side.other
  accepted : g'.2.accepted e.side =
    g.2.accepted e.side ++ (g.1.session e.side).acceptedBy e.event
  accepted_other : g'.2.accepted e.side.other = g.2.accepted e.side.other
  wire : g'.2.wire e.side = g.2.wire e.side ++ (g.1.session e.side).sentBy e.event s'
  wire_other : g'.2.wire e.side.other = g.2.wire e.side.other
  read : g'.2.read e.side = g.2.read e.side ++ (g.1.session e.side).readBy e.event
  read_other : g'.2.read e.side.other = g.2.read e.side.other

/-- A step of the connection, with the streams it changes. -/
theorem withStreams_step (hstep : withStreams g e = some g') : ∃ s', Advances g e s' g' := by
  rcases StepFn.withGhost_eq_some.mp hstep with ⟨hstep, hghost⟩
  rcases step_eq_some_iff.mp hstep with ⟨hpossible, s', hs', hupdate⟩
  have hself : g'.1.session e.side = s' := by rw [hupdate, session_update_self]
  refine ⟨s', ?_⟩
  constructor
  · exact hpossible
  · exact hs'
  · exact hself
  · rw [hupdate, session_update_other]
  · rw [hghost]
    exact Function.update_self _ _ _
  · rw [hghost]
    exact Function.update_of_ne e.side.other_ne _ _
  · rw [hghost, ← hself]
    exact Function.update_self _ _ _
  · rw [hghost]
    exact Function.update_of_ne e.side.other_ne _ _
  · rw [hghost]
    exact Function.update_self _ _ _
  · rw [hghost]
    exact Function.update_of_ne e.side.other_ne _ _

/-- The other side has received what it had. -/
theorem Advances.received_other {s' : TcpSession} (h : Advances g e s' g') :
    received g' e.side.other = received g e.side.other := by
  rw [received, received, h.read_other, h.session_other]

/-- The part of a step that concerns the side that takes it. -/
theorem Joined.step_self (h : Joined ordered x y g) (hok : Streaming x y g e)
    (hinOrder : ordered →
      FinsInOrder (isn x y e.side.other) (g.1.session e.side) e.event)
    {s' : TcpSession} (hpossible : g.1.Possible e)
    (hs' : TcpSession.step (g.1.session e.side) e.event = some s') :
    Sender (synFlags e.side) (isn x y e.side)
        (g.2.accepted e.side ++ (g.1.session e.side).acceptedBy e.event)
        (g.2.wire e.side ++ (g.1.session e.side).sentBy e.event s') s' ∧
      ∃ new, (g.1.session e.side).readBy e.event ++ s'.recvBuffer.toList =
          (g.1.session e.side).recvBuffer.toList ++ new ∧
        Receiver ordered (isn x y e.side.other) (g.2.wire e.side.other)
          (received g e.side ++ new) s' := by
  have hopens := h.opensAs hok.1 hpossible
  refine ⟨sender_step (h.sender e.side) (h.keyed e.side) hopens hs', ?_⟩
  exact receiver_step (h.receiver e.side) (h.stored e.side) (h.keyed e.side) hopens
    (fun packet i he => h.onWire hpossible he) (synFlags_fin _) (hok.2 _) hinOrder hs'

/-- The other side of a step still has received what its peer has released. -/
theorem Joined.released_step (h : Joined ordered x y g) (hok : Streaming x y g e)
    {s' : TcpSession} (hadvances : Advances g e s' g') :
    (g'.2.accepted e.side).length ≤ s'.sendBuffer.size + (received g' e.side.other).length := by
  rw [hadvances.accepted, hadvances.received_other]
  rcases sendBuffer_step hadvances.step with hstored | ⟨packet, iss, he, haccepts, hreleased⟩
  · have hsize := congrArg List.length hstored
    rw [List.length_append, RingQueue.length_toList, RingQueue.length_toList] at hsize
    have hbefore := h.released e.side
    rw [List.length_append]
    omega
  · have hnone : (g.1.session e.side).acceptedBy e.event = [] := by
      rw [he]
      rfl
    rw [hnone, List.append_nil, hreleased]
    rcases e with ⟨side, event⟩
    dsimp only at he
    subst he
    exact h.covered hadvances.possible (hok.2 side) haccepts

/-- Side {lit}`a` does not listen, and side {lit}`b` does not connect. -/
theorem Joined.roles_step (h : Joined ordered x y g) (hok : Streaming x y g e)
    {s' : TcpSession} (hadvances : Advances g e s' g') :
    g'.1.a.state ≠ .listen ∧ g'.1.b.state ≠ .synSent := by
  have hopens := h.opensAs hok.1 hadvances.possible
  rcases e with ⟨side, event⟩
  cases side with
  | a =>
      have hother : g'.1.b = g.1.b := hadvances.session_other
      refine ⟨?_, by rw [hother]; exact h.server⟩
      change (g'.1.session .a).state ≠ .listen
      rw [hadvances.session]
      exact hopens.not_listen h.client hadvances.step
  | b =>
      have hother : g'.1.a = g.1.a := hadvances.session_other
      refine ⟨by rw [hother]; exact h.client, ?_⟩
      change (g'.1.session .b).state ≠ .synSent
      rw [hadvances.session]
      exact hopens.not_synSent (show synFlags .b ≠ flagSyn by decide) h.server hadvances.step

/-- Every step of a connection keeps the two streams in order. -/
theorem joined_step (h : Joined ordered x y g) (hok : Streaming x y g e)
    (hinOrder : ordered →
      FinsInOrder (isn x y e.side.other) (g.1.session e.side) e.event)
    (hstep : withStreams g e = some g') : Joined ordered x y g' := by
  rcases withStreams_step hstep with ⟨s', hadvances⟩
  rcases h.step_self hok hinOrder hadvances.possible hadvances.step with
    ⟨hsender, new, hnew, hreceiver⟩
  have hreceived : received g' e.side = received g e.side ++ new := by
    rw [received, received, hadvances.read, hadvances.session, List.append_assoc, hnew,
      List.append_assoc]
  constructor
  · intro i
    rcases e.side.eq_or_eq_other i with rfl | rfl
    · rw [hadvances.accepted, hadvances.wire, hadvances.session]
      exact hsender
    · rw [hadvances.accepted_other, hadvances.wire_other, hadvances.session_other]
      exact h.sender _
  · intro i
    rcases e.side.eq_or_eq_other i with rfl | rfl
    · rw [hadvances.wire_other, hreceived, hadvances.session]
      exact hreceiver
    · have hbefore := h.receiver e.side.other
      rw [Side.other_other] at hbefore
      rw [Side.other_other, hadvances.wire, hadvances.received_other, hadvances.session_other]
      exact hbefore.mono (List.prefix_append _ _)
  · intro i
    rcases e.side.eq_or_eq_other i with rfl | rfl
    · rw [hadvances.session]
      exact h.released_step hok hadvances
    · have hbefore := h.released e.side.other
      rw [Side.other_other] at hbefore
      rw [hadvances.accepted_other, hadvances.session_other, Side.other_other, hreceived,
        List.length_append]
      omega
  · intro i
    rcases e.side.eq_or_eq_other i with rfl | rfl
    · rw [hadvances.session]
      exact keyed_step (h.keyed _) hadvances.step
    · rw [hadvances.session_other]
      exact h.keyed _
  · intro i
    rcases e.side.eq_or_eq_other i with rfl | rfl
    · rw [hadvances.session]
      exact nothingStored_step (h.stored _) hadvances.step
    · rw [hadvances.session_other]
      exact h.stored _
  · exact (h.roles_step hok hadvances).1
  · exact (h.roles_step hok hadvances).2

/-! ## Runs -/

/-- Two new sessions, of which the second one listens. -/
theorem joined_start {a b : TcpSession} (ha : Created a) (hb : Created b) :
    Joined ordered x y (⟨a, b.listen⟩, Streams.empty) := by
  have hnew : ∀ s, Created s → s.sendBuffer.toList = [] ∧ s.recvBuffer.toList = [] ∧
      s.dupAckCount = 0 ∧ NothingStored s := by
    intro s hs
    cases hs
    exact ⟨rfl, rfl, rfl, rfl, rfl⟩
  rcases hnew a ha with ⟨hsendA, hrecvA, hdupA, hstoredA⟩
  rcases hnew b hb with ⟨hsendB, hrecvB, hdupB, hstoredB⟩
  rw [hb.listen]
  have hreceived : ∀ side, received (⟨a, b.transitionTo .listen⟩, Streams.empty) side = [] := by
    intro side
    cases side with
    | a => exact hrecvA
    | b => exact hrecvB
  constructor
  · intro side
    cases side with
    | a => exact sender_start (Or.inl ha.state) ha.sent hsendA hdupA ha.activeAt
    | b => exact sender_start (Or.inr rfl) hb.sent hsendB hdupB hb.activeAt
  · intro side
    rw [hreceived]
    cases side with
    | a => exact receiver_start (Or.inl ha.state) ha.sent ha.activeAt
    | b => exact receiver_start (Or.inr rfl) hb.sent hb.activeAt
  · exact fun side => Nat.zero_le _
  · intro side
    cases side with
    | a => exact ha.keyed
    | b => exact hb.keyed
  · intro side
    cases side with
    | a => exact hstoredA
    | b => exact hstoredB.of_eq rfl rfl
  · simp [ha.state]
  · simp [transitionTo]

end Joined

/-- In every run of one connection in which no side uses a sequence number twice, the bytes
received in each direction are a prefix of the bytes accepted by {lit}`send()`, and they
contain every byte that an acknowledgment has released. -/
theorem stream_safety {x y : UInt32} {a b : TcpSession} (ha : Created a) (hb : Created b)
    {g : Connection × Streams}
    (hg : withStreams.Reachable (Streaming x y) (⟨a, b.listen⟩, Streams.empty) g) (side : Side) :
    received g side.other <+: g.2.accepted side ∧
      ∃ released, g.2.accepted side = released ++ (g.1.session side).sendBuffer.toList ∧
        released <+: received g side.other := by
  have hjoined : Joined False x y g := by
    apply hg.invariant (joined_start ha hb)
    intro g e g' h hok hstep
    exact joined_step h hok (fun hfalse => absurd hfalse id) hstep
  have hnumbering := (hjoined.sender side).numbering
  have hstream := (hjoined.receiver side.other).stream
  rw [Side.other_other, map_some_prefix_iff] at hstream
  have hreceived := hstream.trans hnumbering.stream
  refine ⟨hreceived, ?_⟩
  rcases hnumbering.buffer with ⟨released, hreleased⟩
  refine ⟨released, hreleased.symm, ?_⟩
  have hcount := hjoined.released side
  rw [← hreleased, List.length_append, RingQueue.length_toList] at hcount
  exact List.prefix_of_prefix_length_le ⟨_, hreleased⟩ hreceived (by omega)

/-- A byte is sent, received, read and acknowledged. -/
def readByteRun : List ConnectionEvent :=
  [⟨.a, .connect 0⟩, ⟨.b, .input (wirePacket 7000 8000 flagSyn 0 0) 100⟩,
    ⟨.a, .input (wirePacket 8000 7000 (flagSyn ||| flagAck) 100 1) 0⟩,
    ⟨.b, .input (wirePacket 7000 8000 flagAck 1 101) 100⟩, ⟨.a, .send [7]⟩,
    ⟨.b, .input
      (calculateChecksum { wirePacket 7000 8000 flagAck 1 101 with payload := [7] }) 100⟩,
    ⟨.b, .readAll⟩,
    ⟨.a, .input
      (calculateChecksum { wirePacket 8000 7000 flagAck 101 2 with
        header.windowSize := htons 1023 }) 0⟩]

/-- The acknowledged byte is released and has been received. -/
theorem stream_safety_readByte :
    ∃ g, withStreams.run (⟨clientSession, serverSession.listen⟩, Streams.empty) readByteRun =
        some g ∧
      g.2.accepted .a = [7] ∧ g.1.a.sendBuffer.toList = [] ∧
      received g (Side.other .a) <+: g.2.accepted .a ∧
      ∃ released, g.2.accepted .a = released ++ (g.1.session .a).sendBuffer.toList ∧
        released <+: received g (Side.other .a) := by
  have hrun : ((withStreams.run (⟨clientSession, serverSession.listen⟩, Streams.empty)
      readByteRun).any fun g => g.2.accepted .a = [7] ∧ g.1.a.sendBuffer.toList = []) = true := by
    decide +kernel
  have hcheck : withStreams.checkSteps (fun g e => Streaming 0 100 g e)
      (⟨clientSession, serverSession.listen⟩, Streams.empty) readByteRun = true := by
    decide +kernel
  rcases (Option.any_eq_true _ _).mp hrun with ⟨g, hg, hfacts⟩
  rcases of_decide_eq_true hfacts with ⟨haccepted, hempty⟩
  have hall : withStreams.AllSteps (Streaming 0 100)
      (⟨clientSession, serverSession.listen⟩, Streams.empty) readByteRun :=
    StepFn.allSteps_of_check (fun _ _ => of_decide_eq_true) hcheck
  exact ⟨g, hg, haccepted, hempty, stream_safety created_clientSession created_serverSession
    (StepFn.reachable_of_run hall hg) .a⟩

/-! ## A number that is used twice -/

/-- Side {lit}`a` has sent {lit}`n` bytes behind its SYN with number 500, and side {lit}`b` has
read all of them. -/
structure AtRest (n : Nat) (g : Connection × Streams) : Prop where
  sender : Idle (UInt32.ofNat (501 + n)) g.1.a
  expects : g.1.a.recvWindow.recvNext = 101
  window_pos : 1 ≤ g.1.a.sendWindow.sendWindowSize.toNat
  window_ge : n ≤ g.1.a.sendWindow.sendWindowSize.toNat
  window_le : g.1.a.sendWindow.sendWindowSize.toNat ≤ n + 16
  threshold : g.1.a.ssthresh = 8
  receiver : Resting (UInt32.ofNat (501 + n)) 101 g.1.b
  accepted : (g.2.accepted .a).length = n
  read : (g.2.read .b).length = n
  first : 0 < n → ∃ packet ∈ g.1.a.packets, IsDataSegment 501 101 [0] packet

/-- A step with its session. -/
theorem withStreams_of_step {g : Connection × Streams} {e : ConnectionEvent} {s' : TcpSession}
    (hpossible : g.1.Possible e)
    (hstep : TcpSession.step (g.1.session e.side) e.event = some s') :
    withStreams g e =
      some (g.1.update e.side s', recordStreams g.1 e (g.1.update e.side s') g.2) :=
  StepFn.withGhost_eq_some.mpr ⟨step_eq_some_iff.mpr ⟨hpossible, s', hstep, rfl⟩, rfl⟩

/-- One more step of the example. -/
theorem reachable_of_step {g₀ g : Connection × Streams}
    (h : withStreams.Reachable (fun g e => Handshakes 500 100 g.1 e) g₀ g) (e : ConnectionEvent)
    {s' : TcpSession} (hok : Handshakes 500 100 g.1 e) (hpossible : g.1.Possible e)
    (hstep : TcpSession.step (g.1.session e.side) e.event = some s') :
    withStreams.Reachable (fun g e => Handshakes 500 100 g.1 e) g₀
      (g.1.update e.side s', recordStreams g.1 e (g.1.update e.side s') g.2) :=
  h.next hok (withStreams_of_step hpossible hstep)

/-- The start of every run of the two concrete sessions. -/
def newConnection : Connection × Streams :=
  (⟨clientSession, serverSession.listen⟩, Streams.empty)

/-- The handshake with the numbers 500 and 100. -/
def openingRun : List ConnectionEvent :=
  [⟨.a, .connect 500⟩, ⟨.b, .input (wirePacket 7000 8000 flagSyn 500 0) 100⟩,
    ⟨.a, .input (wirePacket 8000 7000 (flagSyn ||| flagAck) 100 501) 0⟩,
    ⟨.b, .input (wirePacket 7000 8000 flagAck 501 101) 100⟩]

theorem atRest_handshake :
    ∃ g, withStreams.Reachable (fun g e => Handshakes 500 100 g.1 e) newConnection g ∧
      AtRest 0 g := by
  have hrun : ((withStreams.run newConnection openingRun).any fun g =>
      (g.1.a.state = .established ∧ g.1.a.sendWindow.sendUnack = 501 ∧
        g.1.a.sendWindow.sendNext = 501 ∧ g.1.a.sendBuffer.toList = [] ∧ g.1.a.dupAckCount = 0 ∧
        g.1.a.lastAckReceived ≤ 501) ∧
      g.1.a.recvWindow.recvNext = 101 ∧ g.1.a.sendWindow.sendWindowSize.toNat = 1 ∧
      g.1.a.ssthresh = 8 ∧
      (g.1.b.state = .established ∧ g.1.b.sendWindow.sendUnack = 101 ∧
        g.1.b.sendWindow.sendNext = 101 ∧ g.1.b.sendBuffer.toList = [] ∧ g.1.b.dupAckCount = 0 ∧
        g.1.b.lastAckReceived ≤ 101) ∧
      g.1.b.recvWindow.recvNext = 501 ∧ g.1.b.recvBuffer.toList = [] ∧
      g.1.b.recvWindow.recvWindowSize = 1 ∧ g.1.b.oooMap.entries = [] ∧
      g.2.accepted .a = [] ∧ g.2.read .b = []) = true := by
    decide +kernel
  have hcheck : withStreams.checkSteps (fun g e => Handshakes 500 100 g.1 e) newConnection
      openingRun = true := by
    decide +kernel
  rcases (Option.any_eq_true _ _).mp hrun with ⟨g, hg, hfacts⟩
  rcases of_decide_eq_true hfacts with ⟨⟨hstate, hunack, hnext, hbuffer, hdup, hlast⟩, hexpects,
    hwindow, hthreshold, ⟨hstateB, hunackB, hnextB, hbufferB, hdupB, hlastB⟩, hexpectsB, hrecvB,
    hwindowB, hmapB, haccepted, hread⟩
  have hall : withStreams.AllSteps (fun g e => Handshakes 500 100 g.1 e) newConnection
      openingRun :=
    StepFn.allSteps_of_check (fun _ _ => of_decide_eq_true) hcheck
  refine ⟨g, StepFn.reachable_of_run hall hg, ?_⟩
  exact
    { sender := ⟨hstate, hunack, hnext, hbuffer, hdup, hlast⟩
      expects := hexpects
      window_pos := hwindow.ge
      window_ge := Nat.zero_le _
      window_le := by omega
      threshold := hthreshold
      receiver := ⟨⟨hstateB, hunackB, hnextB, hbufferB, hdupB, hlastB⟩, hexpectsB, hrecvB,
        ⟨hwindowB, hmapB⟩⟩
      accepted := by rw [haccepted]; rfl
      read := by rw [hread]; rfl
      first := fun hpos => absurd hpos (Nat.lt_irrefl 0) }

/-- Data are sent, received and read. -/
theorem AtRest.deliver {n : Nat} {g : Connection × Streams} (h : AtRest n g) {data : List UInt8}
    (hdata : data ≠ []) (hfits : data.length ≤ 1024)
    (hwindow : data.length ≤ g.1.a.sendWindow.sendWindowSize.toNat) :
    ∃ g', withStreams.Reachable (fun g e => Handshakes 500 100 g.1 e) g g' ∧
      g'.1.a = (g.1.a.send data).2 ∧
      Resting (UInt32.ofNat (501 + n) + UInt32.ofNat data.length) 101 g'.1.b ∧
      (∃ t, (datagram t flagAck (UInt32.ofNat (501 + n) + UInt32.ofNat data.length) []).packet ∈
        g'.1.b.packets) ∧
      (g'.2.accepted .a).length = n + data.length ∧ (g'.2.read .b).length = n + data.length := by
  obtain ⟨buffer, m, -, hsend⟩ := h.sender.sendAll hdata hfits hwindow
  have hsegment : IsDataSegment (UInt32.ofNat (501 + n)) 101 data
      (g.1.a.datagram flagAck g.1.a.recvWindow.recvNext data).packet := by
    rw [← h.sender.sendNext, h.expects]
    exact isDataSegment_datagram _ _ (by omega)
  obtain ⟨s₁, t, hinput, -, hsent, hread, hkept, hresting⟩ :=
    h.receiver.receive hdata hfits hsegment 100
  have hmem : (g.1.a.datagram flagAck g.1.a.recvWindow.recvNext data).packet ∈
      (g.1.a.send data).2.packets := by
    rw [hsend, packets]
    simp
  have hstart : withStreams.Reachable (fun g e => Handshakes 500 100 g.1 e) g g := .start
  have hsends := reachable_of_step hstart ⟨.a, .send data⟩ trivial trivial rfl
  have hreceives := reachable_of_step hsends ⟨.b, .input _ 100⟩ (fun _ => rfl) hmem hinput
  have hreads := reachable_of_step hreceives ⟨.b, .readAll⟩ trivial trivial rfl
  refine ⟨_, hreads, rfl, hresting, ⟨t, ?_⟩, ?_, ?_⟩
  · change _ ∈ s₁.readAll.2.packets
    rw [packets, hkept, hsent]
    simp
  · change (g.2.accepted .a ++ data.take (g.1.a.send data).1).length = _
    rw [hsend, List.take_length, List.length_append, h.accepted]
  · change (g.2.read .b ++ [] ++ s₁.readAll.1).length = _
    rw [List.append_nil, hread, List.length_append, h.read]

/-- One byte is sent, received, read and acknowledged. -/
theorem AtRest.exchange {n : Nat} {g : Connection × Streams} (h : AtRest n g)
    (hn : 501 + n + 1 < 2 ^ 32) :
    ∃ g', withStreams.Reachable (fun g e => Handshakes 500 100 g.1 e) g g' ∧
      AtRest (n + 1) g' := by
  have hwindow : g.1.a.sendWindow.sendWindowSize ≠ 0 := by
    rw [Ne, ← UInt32.toNat_inj, UInt32.toNat_zero]
    have hpos := h.window_pos
    omega
  obtain ⟨g₁, hreachable, ha, hresting, ⟨t, hmem⟩, haccepted, hread⟩ :=
    h.deliver (List.cons_ne_nil 0 []) (by simp) h.window_pos
  obtain ⟨hwait, hcwnd, hthresh, -⟩ := h.sender.waiting hwindow 0
  obtain ⟨buffer, m, -, hsend⟩ := h.sender.send hwindow 0
  rw [← ha] at hwait hcwnd hthresh hsend
  have hack : IsPlainAck (UInt32.ofNat (501 + n) + 1)
      (datagram t flagAck (UInt32.ofNat (501 + n) + UInt32.ofNat [(0 : UInt8)].length) []).packet :=
    (isDataSegment_datagram t _ (by simp)).isPlainAck
  obtain ⟨s', hinput, hidle, hgrown, hkept, hsent, hrecv, -⟩ :=
    hwait.ack (ofNat_lt_succ hn) hack 0
  have hfinal := reachable_of_step hreachable ⟨.a, .input _ 0⟩ (fun hside => by contradiction)
    hmem hinput
  have hnumber : UInt32.ofNat (501 + n) + 1 = UInt32.ofNat (501 + (n + 1)) := ofNat_succ _
  rw [hnumber] at hidle
  replace hresting : Resting (UInt32.ofNat (501 + (n + 1))) 101 g₁.1.b := hnumber ▸ hresting
  have hpackets : s'.packets =
      g.1.a.packets ++ [(g.1.a.datagram flagAck g.1.a.recvWindow.recvNext [0]).packet] := by
    rw [packets, hsent, hsend]
    exact List.map_append
  have hge := h.window_ge
  have hle := h.window_le
  have hpos := h.window_pos
  have hsize : s'.sendWindow.sendWindowSize.toNat =
      if g.1.a.sendWindow.sendWindowSize.toNat < 8 then g.1.a.sendWindow.sendWindowSize.toNat * 2
      else g.1.a.sendWindow.sendWindowSize.toNat + 1 := by
    rw [hgrown, hcwnd, hthresh, h.threshold]
    exact grownWindow_toNat (by omega)
  refine ⟨_, hfinal, ?_⟩
  constructor
  · exact hidle
  · change s'.recvWindow.recvNext = 101
    rw [hrecv, hsend]
    exact h.expects
  · change 1 ≤ s'.sendWindow.sendWindowSize.toNat
    rw [hsize]
    split <;> omega
  · change n + 1 ≤ s'.sendWindow.sendWindowSize.toNat
    rw [hsize]
    split <;> omega
  · change s'.sendWindow.sendWindowSize.toNat ≤ n + 1 + 16
    rw [hsize]
    split <;> omega
  · change s'.ssthresh = 8
    rw [hkept, hthresh, h.threshold]
  · exact hresting
  · change (g₁.2.accepted .a ++ []).length = n + 1
    rw [List.append_nil]
    exact haccepted
  · exact hread
  · intro _
    change ∃ packet ∈ s'.packets, _
    rw [hpackets]
    by_cases hzero : n = 0
    · subst hzero
      refine ⟨_, List.mem_append_right _ (List.mem_singleton_self _), ?_⟩
      have hfirst : IsDataSegment _ _ [0] _ :=
        isDataSegment_datagram g.1.a g.1.a.recvWindow.recvNext (by simp)
      rw [h.sender.sendNext] at hfirst
      rw [h.expects] at hfirst ⊢
      exact hfirst
    · rcases h.first (by omega) with ⟨packet, hmem, hpacket⟩
      exact ⟨packet, List.mem_append_left _ hmem, hpacket⟩

/-- So many exchanges as fit before the numbers wrap around. -/
theorem atRest_exchanges {n : Nat} (hn : 501 + n < 2 ^ 32) :
    ∃ g, withStreams.Reachable (fun g e => Handshakes 500 100 g.1 e) newConnection g ∧
      AtRest n g := by
  induction n with
  | zero => exact atRest_handshake
  | succ n ih =>
      rcases ih (by omega) with ⟨g, hg, hrest⟩
      rcases hrest.exchange (by omega) with ⟨g', hg', hrest'⟩
      exact ⟨g', hg.trans hg', hrest'⟩

/-- After 2^32 numbers the first segment is in order again: its byte is received twice. -/
theorem reusedNumber_received :
    ∃ g, withStreams.Reachable (fun g e => Handshakes 500 100 g.1 e)
        (⟨clientSession, serverSession.listen⟩, Streams.empty) g ∧
      ¬ received g .b <+: g.2.accepted .a := by
  rcases atRest_exchanges (n := 2 ^ 32 - 502) (by omega) with ⟨g, hg, hrest⟩
  rcases hrest.first (by omega) with ⟨first, hfirst, hsegment⟩
  have hge := hrest.window_ge
  have hlength : (List.replicate 502 (0 : UInt8)).length = 502 := List.length_replicate
  have hdata : List.replicate 502 (0 : UInt8) ≠ [] :=
    List.ne_nil_of_length_pos (by rw [hlength]; omega)
  obtain ⟨buffer, m, -, hsend⟩ :=
    hrest.sender.sendAll hdata (by rw [hlength]; omega) (by rw [hlength]; omega)
  obtain ⟨g₁, hg₁, ha, hresting, -, haccepted, hread⟩ :=
    hrest.deliver hdata (by rw [hlength]; omega) (by rw [hlength]; omega)
  -- the expected number is that of the first byte
  rw [hlength] at hresting haccepted hread
  have hwrapped : UInt32.ofNat (501 + (2 ^ 32 - 502)) + UInt32.ofNat 502 = 501 := by decide
  rw [hwrapped] at hresting
  have hmem : first ∈ g₁.1.a.packets := by
    rw [ha, hsend, packets, List.map_append]
    exact List.mem_append_left _ hfirst
  obtain ⟨s₁, t, hinput, hbuffer, -⟩ := hresting.receive (by simp) (by simp) hsegment 100
  have hfinal := reachable_of_step (hg.trans hg₁) ⟨.b, .input first 100⟩ (fun _ => rfl) hmem hinput
  refine ⟨_, hfinal, fun hprefix => ?_⟩
  have hlonger : (g₁.2.read .b ++ [] ++ s₁.recvBuffer.toList).length ≤
      (g₁.2.accepted .a).length := hprefix.length_le
  rw [List.append_nil, List.length_append, hread, haccepted, hbuffer, List.length_singleton]
    at hlonger
  omega

end Connection

end MyuTcp
