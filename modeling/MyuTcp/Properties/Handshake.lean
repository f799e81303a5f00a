import MyuTcp.Core.Connection

/-!
# The three-way handshake

One side connects once, the other one listens.

Main results:

- Theorem {lit}`Connection.handshake_agreement`: the listening side enters ESTABLISHED only
  after the connecting side, and each side enters with the numbers that both have agreed on.
-/

namespace MyuTcp

open Library

namespace TcpSession

/-! ## The packets of an opening session -/

/-- A packet of a session that is not established: a reset, or the packet with the given
flags and number. -/
def OpeningPacket (flags : UInt8) (seqNum : UInt32) (packet : MyuTcpPacket) : Prop :=
  packet.header.flags = flagRst ∨ (packet.header.flags = flags ∧ packet.seq = seqNum)

section OpeningPacket

variable {flags : UInt8} {seqNum : UInt32} {packet : MyuTcpPacket}

theorem openingPacket_refresh (s : TcpSession) (h : OpeningPacket flags seqNum packet) :
    OpeningPacket flags seqNum (s.refreshPacket packet) := by
  unfold OpeningPacket at h ⊢
  rw [refreshPacket_flags, refreshPacket_seq]
  exact h

/-- Its flags are those of the opening, when it carries one that a reset does not have. -/
theorem OpeningPacket.of_has (h : OpeningPacket flags seqNum packet) {flag : UInt8}
    (hrst : flagRst &&& flag = 0) (hflag : packet.has flag = true) :
    packet.header.flags = flags ∧ packet.seq = seqNum := by
  rcases h with hflags | h
  · rw [MyuTcpPacket.has, hflags, hrst] at hflag
    contradiction
  · exact h

theorem OpeningPacket.has_eq_false (h : OpeningPacket flags seqNum packet) {flag : UInt8}
    (hrst : flagRst &&& flag = 0) (hflags : flags &&& flag = 0) : packet.has flag = false := by
  rcases h with hreset | ⟨hopen, -⟩
  · rw [MyuTcpPacket.has, hreset, hrst]
    rfl
  · rw [MyuTcpPacket.has, hopen, hflags]
    rfl

end OpeningPacket

/-! ## The connecting session -/

/-- The session has not been established; after it has called {lit}`connect()` its SYN is
its only number in flight. -/
structure Connecting (x : UInt32) (s : TcpSession) : Prop where
  state : s.state = .closed ∨ s.state = .synSent
  numbers : s.state = .synSent → s.sendWindow.sendUnack = x ∧ s.sendWindow.sendNext = x + 1
  packets : AllPackets (OpeningPacket flagSyn x) s
  keyed : s.Keyed

/-- The session that waits in LISTEN, or has answered a SYN with its own. -/
structure Accepting (x y : UInt32) (s : TcpSession) : Prop where
  state : s.state = .closed ∨ s.state = .listen ∨ s.state = .synReceived
  numbers : s.state = .synReceived → s.sendWindow.sendUnack = y ∧
    s.sendWindow.sendNext = y + 1 ∧ s.recvWindow.recvNext = x + 1
  silent : s.state = .listen → AllPackets (fun _ => False) s
  packets : AllPackets (OpeningPacket (flagSyn ||| flagAck) y) s
  keyed : s.Keyed

section Steps

variable {s s' : TcpSession} {e : Event} {x y : UInt32}

/-- A connecting session goes on connecting until it is established. -/
theorem connecting_step (hs : Connecting x s) (h : step s e = some s')
    (hlisten : e ≠ .listen) (hconnect : ∀ iss, e = .connect iss → iss = x)
    (hinput : ∀ packet iss, e = .input packet iss →
      OpeningPacket (flagSyn ||| flagAck) y packet)
    (hnone : s.establishment e = none) : Connecting x s' := by
  have hopening : s.NotEstablished := by
    rcases hs.state with hstate | hstate
    · exact Or.inl hstate
    · exact Or.inr (Or.inr (Or.inl hstate))
  have hkeyed := keyed_step hs.keyed h
  cases opening_step hopening h with
  | quiet hstate hsend hrecv hsent htimers =>
      refine ⟨hstate ▸ hs.state, ?_, hs.packets.of_eq hsent htimers, hkeyed⟩
      rw [hstate, hsend]
      exact hs.numbers
  | listened hstate => exact absurd rfl hlisten
  | connected iss =>
      cases hconnect iss rfl
      rw [connect_eq] at h hkeyed ⊢
      refine ⟨Or.inr rfl, fun _ => ⟨rfl, rfl⟩, ?_, hkeyed⟩
      refine packets_step_of_single hs.packets (by simp) h rfl ?_
      exact Or.inr ⟨rfl, datagram_seq _ _ _ _⟩
  | aborted hstate =>
      rw [abortOpening_eq] at h hkeyed ⊢
      refine ⟨Or.inl rfl, fun hsyn => ?_, ?_, hkeyed⟩
      · contradiction
      · exact packets_step_of_single hs.packets (by simp) h rfl (Or.inl rfl)
  | reset hrst =>
      refine ⟨Or.inl rfl, fun hsyn => ?_, ?_, hkeyed⟩
      · contradiction
      · exact packets_step_of_quiet hs.packets (by simp) h rfl
  | passiveOpen hadmitted hstate hsyn => rcases hs.state with h | h <;> simp [h] at hstate
  | synAck hadmitted hstate hsyn hflag hack =>
      rw [establishment_of_synAck hadmitted hstate hsyn hflag hack] at hnone
      contradiction
  | peerSyn hadmitted hstate hsyn hflag =>
      have hflags := ((hinput _ _ rfl).of_has (by decide) hsyn).1
      rw [MyuTcpPacket.has, hflags] at hflag
      contradiction
  | synReceivedAck hadmitted hstate hflag hack =>
      rcases hs.state with h | h <;> simp [h] at hstate
  | expired hexpire =>
      rcases expire_frame hexpire with ⟨hstate, hunack, hnext, -⟩
      have hpackets := packets_expire hs.packets hs.keyed hexpire
        fun _ => openingPacket_refresh s
      refine ⟨hstate ▸ hs.state, ?_, hpackets, hkeyed⟩
      rw [hstate, hunack, hnext]
      exact hs.numbers
  | expired2Msl =>
      refine ⟨Or.inl rfl, fun hsyn => ?_, ?_, hkeyed⟩
      · contradiction
      · exact packets_step_of_quiet hs.packets (by simp) h rfl

/-- A listening session goes on accepting until it is established. -/
theorem accepting_step (hs : Accepting x y s) (h : step s e = some s') (hopens : ¬ Opens e)
    (hinput : ∀ packet iss, e = .input packet iss →
      iss = y ∧ (s.state = .listen → OpeningPacket flagSyn x packet))
    (hnone : s.establishment e = none) : Accepting x y s' := by
  have hopening : s.NotEstablished := by
    rcases hs.state with hstate | hstate | hstate
    · exact Or.inl hstate
    · exact Or.inr (Or.inl hstate)
    · exact Or.inr (Or.inr (Or.inr hstate))
  have hkeyed := keyed_step hs.keyed h
  cases opening_step hopening h with
  | quiet hstate hsend hrecv hsent htimers =>
      refine ⟨hstate ▸ hs.state, ?_, ?_, hs.packets.of_eq hsent htimers, hkeyed⟩
      · rw [hstate, hsend, hrecv]
        exact hs.numbers
      · intro hlisten
        exact (hs.silent (hstate ▸ hlisten)).of_eq hsent htimers
  | listened hstate => exact absurd trivial hopens
  | connected iss => exact absurd trivial hopens
  | aborted hstate =>
      rw [abortOpening_eq] at h hkeyed ⊢
      refine ⟨Or.inl rfl, fun hsyn => ?_, fun hsyn => ?_, ?_, hkeyed⟩
      · contradiction
      · contradiction
      · exact packets_step_of_single hs.packets (by simp) h rfl (Or.inl rfl)
  | reset hrst =>
      refine ⟨Or.inl rfl, fun hsyn => ?_, fun hsyn => ?_, ?_, hkeyed⟩
      · contradiction
      · contradiction
      · exact packets_step_of_quiet hs.packets (by simp) h rfl
  | passiveOpen hadmitted hstate hsyn =>
      rcases hinput _ _ rfl with ⟨rfl, hpeer⟩
      have hseq := ((hpeer hstate).of_has (by decide) hsyn).2
      rw [handleListen_eq _ hsyn] at h hkeyed ⊢
      refine ⟨Or.inr (Or.inr rfl), fun _ => ⟨rfl, rfl, ?_⟩, fun hlisten => ?_, ?_, hkeyed⟩
      · dsimp only
        rw [hseq]
      · contradiction
      · refine packets_step_of_single hs.packets (by simp) h rfl ?_
        exact Or.inr ⟨rfl, datagram_seq _ _ _ _⟩
  | synAck hadmitted hstate hsyn hflag hack =>
      rcases hs.state with h | h | h <;> simp [h] at hstate
  | peerSyn hadmitted hstate hsyn hflag =>
      rcases hs.state with h | h | h <;> simp [h] at hstate
  | synReceivedAck hadmitted hstate hflag hack =>
      rw [establishment_of_synReceivedAck hadmitted hstate hflag hack] at hnone
      contradiction
  | expired hexpire =>
      rcases expire_frame hexpire with ⟨hstate, hunack, hnext, hrecv⟩
      have hpackets := packets_expire hs.packets hs.keyed hexpire
        fun _ => openingPacket_refresh s
      refine ⟨hstate ▸ hs.state, ?_, ?_, hpackets, hkeyed⟩
      · rw [hstate, hunack, hnext, hrecv]
        exact hs.numbers
      · intro hlisten
        rcases expire_eq_some_iff.mp hexpire with ⟨t, hactive, -⟩
        exact absurd ((hs.silent (hstate ▸ hlisten)).timers _ t hactive) id
  | expired2Msl =>
      refine ⟨Or.inl rfl, fun hsyn => ?_, fun hsyn => ?_, ?_, hkeyed⟩
      · contradiction
      · contradiction
      · exact packets_step_of_quiet hs.packets (by simp) h rfl

/-! ## The moment of establishment -/

/-- The numbers of both sides agree: one behind each initial number. -/
structure Agreed (own peer : UInt32) (m : TcpSession) : Prop where
  sendUnack : m.sendWindow.sendUnack = own + 1
  sendNext : m.sendWindow.sendNext = own + 1
  recvNext : m.recvWindow.recvNext = peer + 1

/-- The connecting side is established by the SYN-ACK of a listening side. -/
theorem Connecting.establishment (hs : Connecting x s) {m : TcpSession}
    (hm : s.establishment e = some m)
    (hinput : ∀ packet iss, e = .input packet iss →
      OpeningPacket (flagSyn ||| flagAck) y packet) : Agreed x y m := by
  rcases establishment_cases hm with
    ⟨packet, iss, he, -, hflag, hack, ⟨hstate, -, rfl⟩ | ⟨hstate, -⟩⟩
  · rcases hs.numbers hstate with ⟨hunack, hnext⟩
    have hseq := ((hinput packet iss he).of_has (by decide) hflag).2
    rw [acceptSynAck_eq]
    exact ⟨by rw [hack, hunack], hnext, by rw [hseq]⟩
  · rcases hs.state with h | h <;> simp [h] at hstate

/-- The listening side is established by the acknowledgment of its own SYN. -/
theorem Accepting.establishment (hs : Accepting x y s) {m : TcpSession}
    (hm : s.establishment e = some m) : Agreed y x m := by
  rcases establishment_cases hm with
    ⟨packet, iss, he, -, hflag, hack, ⟨hstate, -⟩ | ⟨hstate, rfl⟩⟩
  · rcases hs.state with h | h | h <;> simp [h] at hstate
  · rcases hs.numbers hstate with ⟨hunack, hnext, hrecv⟩
    exact ⟨by rw [← hunack, ← hack]; rfl, hnext, hrecv⟩

/-- An established session has sent its last opening packet. -/
theorem sent_ne_nil_of_establishment {m : TcpSession} (hs : Connecting x s)
    (hm : s.establishment e = some m) : m.handleTrySend.sent ≠ [] := by
  have hsent : m.sent ≠ [] := by
    rcases establishment_cases hm with
      ⟨packet, iss, -, -, -, -, ⟨-, -, rfl⟩ | ⟨hstate, -⟩⟩
    · rw [acceptSynAck_eq]
      simp
    · rcases hs.state with h | h <;> simp [h] at hstate
  intro hnil
  have hprefix := sent_prefix_handleTrySend m
  rw [hnil, List.prefix_nil] at hprefix
  exact hsent hprefix

end Steps

end TcpSession

namespace Connection

open TcpSession

/-! ## Both sides -/

/-- The steps of a handshake in which side {lit}`a` connects once, with the number
{lit}`x`, and side {lit}`b` draws {lit}`y` when it receives a SYN.  A session that has not
called {lit}`connect()` has sent nothing. -/
def Handshakes (x y : UInt32) (c : Connection) (e : ConnectionEvent) : Prop :=
  match e.event with
  | .connect iss => e.side = .a ∧ iss = x ∧ c.a.sent = []
  | .listen => False
  | .input _ iss => e.side = .b → iss = y
  | _ => True

instance (x y : UInt32) (c : Connection) : (e : ConnectionEvent) →
    Decidable (Handshakes x y c e)
  | ⟨_, .connect _⟩ => inferInstanceAs (Decidable (_ ∧ _))
  | ⟨_, .listen⟩ => isFalse id
  | ⟨_, .input ..⟩ => inferInstanceAs (Decidable (_ → _))
  | ⟨_, .setRemoteAddr ..⟩ | ⟨_, .setListenerPort ..⟩ | ⟨_, .send ..⟩ | ⟨_, .recv ..⟩
  | ⟨_, .readAll⟩ | ⟨_, .close⟩ | ⟨_, .expire ..⟩ | ⟨_, .expire2Msl⟩ => isTrue trivial

/-- What a handshake keeps: each side is opening or has entered ESTABLISHED before, the
connecting side first. -/
structure Handshaking (x y : UInt32) (g : Connection × List Side) : Prop where
  connecting : .a ∉ g.2 → Connecting x g.1.a
  accepting : .b ∉ g.2 → Accepting x y g.1.b
  order : .b ∈ g.2 → .a ∈ g.2
  accepted : .a ∈ g.2 → g.1.b.state ≠ .listen
  pastA : .a ∈ g.2 → Past g.1.a ∧ g.1.a.sent ≠ []
  pastB : .b ∈ g.2 → Past g.1.b

section Handshake

variable {x y : UInt32} {g g' : Connection × List Side} {e : ConnectionEvent}

theorem handshaking_start {a b : TcpSession} (ha : Created a) (hb : Created b) :
    Handshaking x y (⟨a, b.listen⟩, []) where
  connecting _ :=
    { state := Or.inl ha.state
      numbers := fun h => by simp [ha.state] at h
      packets := allPackets_of_unsent ha.sent ha.activeAt
      keyed := ha.keyed }
  accepting _ := by
    rw [hb.listen]
    exact
      { state := Or.inr (Or.inl rfl)
        numbers := fun h => by contradiction
        silent := fun _ => allPackets_of_unsent hb.sent hb.activeAt
        packets := allPackets_of_unsent hb.sent hb.activeAt
        keyed := hb.keyed }
  order h := absurd h (List.not_mem_nil)
  accepted h := absurd h (List.not_mem_nil)
  pastA h := absurd h (List.not_mem_nil)
  pastB h := absurd h (List.not_mem_nil)

/-- While the connecting side is opening, it receives packets of an opening side only. -/
theorem Handshaking.input_a (h : Handshaking x y g) (ha : .a ∉ g.2) (hside : e.side = .a)
    (hpossible : g.1.Possible e) {packet : MyuTcpPacket} {iss : UInt32}
    (he : e.event = .input packet iss) : OpeningPacket (flagSyn ||| flagAck) y packet := by
  have hmem := possible_input hpossible he
  rw [hside] at hmem
  exact (h.accepting fun hb => ha (h.order hb)).packets.packets hmem

/-- As long as the listening side is in LISTEN, so is the connecting side opening. -/
theorem Handshaking.input_b (h : Handshaking x y g) (hlisten : g.1.b.state = .listen)
    (hside : e.side = .b) (hpossible : g.1.Possible e) {packet : MyuTcpPacket} {iss : UInt32}
    (he : e.event = .input packet iss) : OpeningPacket flagSyn x packet := by
  have hmem := possible_input hpossible he
  rw [hside] at hmem
  exact (h.connecting fun ha => h.accepted ha hlisten).packets.packets hmem

/-- A step of the connecting side. -/
theorem handshaking_step_a (h : Handshaking x y g) (hok : Handshakes x y g.1 e)
    (hside : e.side = .a) (hstep : withEntries g e = some g') : Handshaking x y g' := by
  rcases withEntries_step hstep with ⟨hpossible, s', hs', hupdate, henters, hother⟩
  rcases e with ⟨side, e⟩
  cases hside
  rcases g' with ⟨c', entered'⟩
  cases hupdate
  replace hs' : TcpSession.step g.1.a e = some s' := hs'
  replace henters : .a ∈ entered' ↔ .a ∈ g.2 ∨ (g.1.a.establishment e).isSome := henters
  replace hother : .b ∈ entered' ↔ .b ∈ g.2 := hother
  have hlisten : e ≠ .listen := by
    rintro rfl
    exact hok
  by_cases ha : .a ∈ g.2
  · have hpast := h.pastA ha
    have hopens : ¬ Opens e := by
      cases e with
      | connect iss => exact absurd hok.2.2 hpast.2
      | listen => exact absurd rfl hlisten
      | _ => exact id
    have ha' : .a ∈ entered' := henters.mpr (Or.inl ha)
    exact
      { connecting := fun hna => absurd ha' hna
        accepting := fun hb => h.accepting (mt hother.mpr hb)
        order := fun _ => ha'
        accepted := fun _ => h.accepted ha
        pastA := fun _ => ⟨past_step hpast.1 hopens hs',
          fun hnil => hpast.2 (List.prefix_nil.mp (hnil ▸ sent_prefix_step hs'))⟩
        pastB := fun hb => h.pastB (hother.mp hb) }
  · have hb : .b ∉ g.2 := mt h.order ha
    have hinput : ∀ packet iss, e = .input packet iss →
        OpeningPacket (flagSyn ||| flagAck) y packet :=
      fun packet iss he => h.input_a ha rfl hpossible he
    cases hm : g.1.a.establishment e with
    | none =>
        rw [hm] at henters
        have ha' : .a ∉ entered' := by simp [henters, ha]
        have hconnect : ∀ iss, e = .connect iss → iss = x := by
          rintro iss rfl
          exact hok.2.1
        exact
          { connecting := fun _ =>
              connecting_step (h.connecting ha) hs' hlisten hconnect hinput hm
            accepting := fun _ => h.accepting hb
            order := fun hb' => absurd (hother.mp hb') hb
            accepted := fun hmem => absurd hmem ha'
            pastA := fun hmem => absurd hmem ha'
            pastB := fun hb' => absurd (hother.mp hb') hb }
    | some m =>
        rw [hm] at henters
        have ha' : .a ∈ entered' := henters.mpr (Or.inr rfl)
        rcases step_of_establishment hm with ⟨hestablished, hstate, -⟩
        rw [hestablished] at hs'
        cases hs'
        rcases establishment_has_ack hm with ⟨packet, iss, he, -⟩
        have hmem : packet ∈ g.1.b.packets := possible_input hpossible he
        exact
          { connecting := fun hna => absurd ha' hna
            accepting := fun _ => h.accepting hb
            order := fun hb' => absurd (hother.mp hb') hb
            accepted := fun _ hlisten' => ((h.accepting hb).silent hlisten').packets hmem
            pastA := fun _ => ⟨past_of_established (by
                rw [← hstate]
                exact handleTrySend_state m),
              sent_ne_nil_of_establishment (h.connecting ha) hm⟩
            pastB := fun hb' => absurd (hother.mp hb') hb }

/-- A step of the listening side. -/
theorem handshaking_step_b (h : Handshaking x y g) (hok : Handshakes x y g.1 e)
    (hside : e.side = .b) (hstep : withEntries g e = some g') : Handshaking x y g' := by
  rcases withEntries_step hstep with ⟨hpossible, s', hs', hupdate, henters, hother⟩
  rcases e with ⟨side, e⟩
  cases hside
  rcases g' with ⟨c', entered'⟩
  cases hupdate
  replace hs' : TcpSession.step g.1.b e = some s' := hs'
  replace henters : .b ∈ entered' ↔ .b ∈ g.2 ∨ (g.1.b.establishment e).isSome := henters
  replace hother : .a ∈ entered' ↔ .a ∈ g.2 := hother
  have hopens : ¬ Opens e := by
    cases e with
    | connect iss => exact absurd hok.1 (by simp)
    | listen => exact absurd hok id
    | _ => exact id
  have haccepted : .a ∈ entered' → s'.state ≠ .listen := fun ha' =>
    not_listen_step (h.accepted (hother.mp ha')) hopens hs'
  have hconnecting : .a ∉ entered' → Connecting x g.1.a := fun ha' =>
    h.connecting (mt hother.mpr ha')
  have hpastA : .a ∈ entered' → Past g.1.a ∧ g.1.a.sent ≠ [] := fun ha' =>
    h.pastA (hother.mp ha')
  by_cases hb : .b ∈ g.2
  · have hb' : .b ∈ entered' := henters.mpr (Or.inl hb)
    exact
      { connecting := hconnecting
        accepting := fun hnb => absurd hb' hnb
        order := fun _ => hother.mpr (h.order hb)
        accepted := haccepted
        pastA := hpastA
        pastB := fun _ => past_step (h.pastB hb) hopens hs' }
  · cases hm : g.1.b.establishment e with
    | none =>
        rw [hm] at henters
        have hb' : .b ∉ entered' := by simp [henters, hb]
        have hinput : ∀ packet iss, e = .input packet iss →
            iss = y ∧ (g.1.b.state = .listen → OpeningPacket flagSyn x packet) := by
          rintro packet iss rfl
          exact ⟨hok rfl, fun hlisten => h.input_b hlisten rfl hpossible rfl⟩
        exact
          { connecting := hconnecting
            accepting := fun _ => accepting_step (h.accepting hb) hs' hopens hinput hm
            order := fun hmem => absurd hmem hb'
            accepted := haccepted
            pastA := hpastA
            pastB := fun hmem => absurd hmem hb' }
    | some m =>
        rw [hm] at henters
        have hb' : .b ∈ entered' := henters.mpr (Or.inr rfl)
        rcases establishment_has_ack hm with ⟨packet, iss, he, hflag⟩
        have hmem : packet ∈ g.1.a.packets := possible_input hpossible he
        -- an opening side sends no acknowledgment
        have ha : .a ∈ g.2 := by
          by_contra hna
          have hpacket := (h.connecting hna).packets.packets hmem
          rw [hpacket.has_eq_false (by decide) (by decide)] at hflag
          contradiction
        rcases step_of_establishment hm with ⟨hestablished, hstate, -⟩
        rw [hestablished] at hs'
        cases hs'
        exact
          { connecting := hconnecting
            accepting := fun hnb => absurd hb' hnb
            order := fun _ => hother.mpr ha
            accepted := haccepted
            pastA := hpastA
            pastB := fun _ => past_of_established (by
              rw [← hstate]
              exact handleTrySend_state m) }

theorem handshaking_step (h : Handshaking x y g) (hok : Handshakes x y g.1 e)
    (hstep : withEntries g e = some g') : Handshaking x y g' := by
  cases hside : e.side with
  | a => exact handshaking_step_a h hok hside hstep
  | b => exact handshaking_step_b h hok hside hstep

/-- A side that a step of the handshake establishes has the agreed numbers. -/
theorem Handshaking.agreed (h : Handshaking x y g) (hpossible : g.1.Possible e) {m : TcpSession}
    (hm : (g.1.session e.side).establishment e.event = some m) :
    Agreed (isn x y e.side) (isn x y e.side.other) m := by
  rcases e with ⟨side, e⟩
  cases side with
  | a =>
      have ha : .a ∉ g.2 := by
        intro ha
        rw [show (g.1.session .a).establishment e = none from (h.pastA ha).1.establishment] at hm
        contradiction
      exact (h.connecting ha).establishment hm fun packet iss he => h.input_a ha rfl hpossible he
  | b =>
      have hb : .b ∉ g.2 := by
        intro hb
        rw [show (g.1.session .b).establishment e = none from (h.pastB hb).establishment] at hm
        contradiction
      exact (h.accepting hb).establishment hm

end Handshake

/-- In every reachable configuration of a handshake the listening side has entered ESTABLISHED
only after the connecting side, and a step that makes a side established passes through a
moment at which its numbers are the agreed ones. -/
theorem handshake_agreement {x y : UInt32} {a b : TcpSession} (ha : Created a) (hb : Created b)
    {g : Connection × List Side}
    (hg : withEntries.Reachable (fun g e => Handshakes x y g.1 e) (⟨a, b.listen⟩, []) g) :
    (.b ∈ g.2 → .a ∈ g.2) ∧
      ∀ e c', Handshakes x y g.1 e → step g.1 e = some c' →
        (g.1.session e.side).state ≠ .established → (c'.session e.side).state = .established →
        ∃ m, (g.1.session e.side).establishment e.event = some m ∧
          c'.session e.side = m.handleTrySend ∧
          Agreed (isn x y e.side) (isn x y e.side.other) m := by
  have hinv : Handshaking x y g := by
    apply hg.invariant (handshaking_start ha hb)
    intro g e g' h hok hstep
    exact handshaking_step h hok hstep
  refine ⟨hinv.order, ?_⟩
  intro e c' hok hstep hbefore hafter
  rcases step_eq_some_iff.mp hstep with ⟨hpossible, s', hs', rfl⟩
  rw [session_update_self] at hafter ⊢
  rcases (establishes_iff hs').mp ⟨hbefore, hafter⟩ with ⟨m, hm, heq⟩
  exact ⟨m, hm, heq, hinv.agreed hpossible hm⟩

/-- The call of {lit}`connect()` and the first two packets of a handshake. -/
def handshakeRun : List ConnectionEvent :=
  [⟨.a, .connect 0⟩, ⟨.b, .input (wirePacket 7000 8000 flagSyn 0 0) 100⟩,
    ⟨.a, .input (wirePacket 8000 7000 (flagSyn ||| flagAck) 100 1) 0⟩]

/-- After two packets the connecting side has entered, and the third one establishes the other. -/
theorem handshake_agreement_run :
    ∃ g, withEntries.run (⟨clientSession, serverSession.listen⟩, []) handshakeRun = some g ∧
      g.2 = [.a] ∧ (.b ∈ g.2 → .a ∈ g.2) ∧
      ∀ e c', Handshakes 0 100 g.1 e → step g.1 e = some c' →
        (g.1.session e.side).state ≠ .established → (c'.session e.side).state = .established →
        ∃ m, (g.1.session e.side).establishment e.event = some m ∧
          c'.session e.side = m.handleTrySend ∧
          Agreed (isn 0 100 e.side) (isn 0 100 e.side.other) m := by
  have hrun : ((withEntries.run (⟨clientSession, serverSession.listen⟩, []) handshakeRun).any
      fun g => g.2 = [.a]) = true := by
    decide +kernel
  have hcheck : withEntries.checkSteps (fun g e => Handshakes 0 100 g.1 e)
      (⟨clientSession, serverSession.listen⟩, []) handshakeRun = true := by
    decide +kernel
  rcases (Option.any_eq_true _ _).mp hrun with ⟨g, hg, hentered⟩
  have hall : withEntries.AllSteps (fun g e => Handshakes 0 100 g.1 e)
      (⟨clientSession, serverSession.listen⟩, []) handshakeRun :=
    StepFn.allSteps_of_check (fun _ _ => of_decide_eq_true) hcheck
  have hreachable := StepFn.reachable_of_run hall hg
  exact ⟨g, hg, of_decide_eq_true hentered,
    handshake_agreement created_clientSession created_serverSession hreachable⟩

end Connection

end MyuTcp
