import MyuTcp.Core.Network
import MyuTcp.Properties.HostStreams
import MyuTcp.Properties.ServedPeers

/-!
# The streams of a server and its clients

Any number of hosts on one network: a server that listens, and clients that each open one
connection to it.  The network delivers a datagram to the host that it is addressed to, any number
of times and at any time, or bytes that hold no packet with a right checksum.  The events of all
hosts interleave in any order.

The timer of a data segment sends to {lit}`127.0.0.1:9999`, whoever the peer is.  A client at that
address receives what was lost on the way to others, and takes it for its own; no other client is
affected.

Main results:

- Theorem {lit}`network_refines`: what a run of the network is for a client with any other address,
  is a run of one connection.
- Theorem {lit}`network_stream_safety`: such a client reads what the server has sent to it, and the
  server reads from it what it has sent.
- Theorem {lit}`strayData_read`: a client with that address reads a byte of another one.
-/

namespace MyuTcp

open Library

namespace Network

open Connection

/-! ## The record of the connections -/

/-- The streams between each client and the server, and the addresses for which the server has
opened a session.  The client is the first side of its connection. -/
structure Service where
  streams : Address → Streams
  opened : List Address

/-- No client has sent anything. -/
def Service.empty : Service where
  streams _ := Streams.empty
  opened := []

/-- The streams after an event of the stack on one side. -/
def recordSide (side : Side) (st : TcpStack) (ev : TcpStack.StackEvent) (st' : TcpStack)
    (g : Streams) : Streams where
  accepted := Function.update g.accepted side (g.accepted side ++ st.acceptedBy ev)
  wire := Function.update g.wire side (g.wire side ++ st.sentBy ev st')
  read := Function.update g.read side (g.read side ++ st.readBy ev)

/-- The record after a step: an event of the server is recorded for the client that it concerns. -/
def recordService (v : Address) (n : Network) (e : NetworkEvent) (n' : Network) (g : Service) :
    Service where
  streams k :=
    if e.host = v then
      if TcpStack.Concerning k e.event then recordSide .b (n v) e.event (n' v) (g.streams k)
      else g.streams k
    else if e.host = k then recordSide .a (n k) e.event (n' k) (g.streams k)
    else g.streams k
  opened := if e.host = v then (n v).recordOpened e.event g.opened else g.opened

/-- The network and the record of the connections to the server. -/
def withService (v : Address) : StepFn (Network × Service) NetworkEvent :=
  step.withGhost (recordService v)

/-! ## Clients of one server -/

/-- No session gets another address than the one that its stack knows it by. -/
def KeepsAddress : TcpStack.StackEvent → Prop
  | .session k (.setRemoteAddr ip port) => Address.of ip port = k
  | _ => True

instance : (ev : TcpStack.StackEvent) → Decidable (KeepsAddress ev)
  | .session _ (.setRemoteAddr ..) => inferInstanceAs (Decidable (_ = _))
  | .session _ (.connect ..) | .session _ .listen | .session _ (.setListenerPort ..)
  | .session _ (.send ..) | .session _ (.recv ..) | .session _ .readAll | .session _ .close
  | .session _ (.input ..) | .session _ (.expire ..) | .session _ .expire2Msl | .createSession ..
  | .datagram .. | .listen | .takeReadyQueue | .dispatchNext => isTrue trivial

/-- The server opens one session for each client, and every other host one for the server. -/
structure OneServer (v : Address) (seeds : Address → Side → SessionSeeds) (h : Network × Service)
    (e : NetworkEvent) : Prop where
  server : e.host = v → (h.1 v).ServesOnce (fun k => seeds k .b) h.2.opened e.event
  client : e.host ≠ v → (h.1 e.host).OpensOnce .a v (seeds e.host .a) e.event
  keeps : KeepsAddress e.event

instance (v : Address) (seeds : Address → Side → SessionSeeds) (h : Network × Service)
    (e : NetworkEvent) : Decidable (OneServer v seeds h e) :=
  decidable_of_iff ((e.host = v → (h.1 v).ServesOnce (fun k => seeds k .b) h.2.opened e.event) ∧
      (e.host ≠ v → (h.1 e.host).OpensOnce .a v (seeds e.host .a) e.event) ∧
      KeepsAddress e.event)
    ⟨fun ⟨hserver, hclient, hkeeps⟩ => ⟨hserver, hclient, hkeeps⟩,
      fun h => ⟨h.server, h.client, h.keeps⟩⟩

/-- The host of each side of the connection of a client. -/
def endpoint (v k : Address) : Side → Address
  | .a => k
  | .b => v

/-- The sessions of a client and of the server for it, before their first packet. -/
def firstSessions (v : Address) (seeds : Address → Side → SessionSeeds) (k : Address) :
    Connection :=
  ⟨TcpStack.firstSession v (seeds k .a) .a, TcpStack.firstSession k (seeds k .b) .b⟩

/-- The addresses that a session with the given peer knows. -/
def Toward (k j : Address) : Prop := j = k ∨ j = defaultAddress

/-- The hosts are those of the sessions of the connections. -/
structure Projects (v : Address) (seeds : Address → Side → SessionSeeds) (h : Network × Service)
    (c : Address → Connection) : Prop where
  clients : ∀ k, k ≠ v →
    TcpStack.Hosted v (TcpStack.firstSession v (seeds k .a) .a) (h.1 k) (c k).a
  server : TcpStack.Serving (fun k => seeds k .b) h.2.opened (h.1 v) fun k => (c k).b
  toServer : ∀ k, (c k).a.Within (Toward v)
  toClient : ∀ k, (c k).b.Within (Toward k)

/-- The connection of a client stays as it is, or takes a step that the event is one of. -/
inductive Follows (v k : Address) (e : NetworkEvent) (g g' : Connection × Streams) : Prop
  | rests (hsame : g' = g)
  | acts {side : Side} {ev : Event} (hhost : e.host = endpoint v k side)
      (hpeer : side = .b → TcpStack.Concerning k e.event)
      (hconcerns : TcpStack.Concerns e.event ev)
      (hstep : Connection.withStreams g ⟨side, ev⟩ = some g')

/-! ## What arrives -/

section Arrivals

variable {v j k : Address} {st : TcpStack} {bytes : List UInt8} {packet : MyuTcpPacket}

/-- What arrives from a client is a packet of its session, sent to the host. -/
theorem Carried.hosted {first s : TcpSession} (hcarried : Carried st j bytes)
    (hhosted : TcpStack.Hosted k first st s) (hparse : UdpDriver.onUvRecv bytes = some packet) :
    (∃ d ∈ s.sent, d.address = j ∧ d.packet = packet) ∨ verifyChecksum packet = false := by
  rcases hcarried with ⟨d, hd, haddress, rfl⟩ | hrejected
  · rcases hhosted.sent d hd with hsent | hreset
    · exact Or.inl
        ⟨d, hsent, haddress, packet_of_parse (hhosted.optionless.sent d hsent) hparse⟩
    · right
      rw [← packet_of_parse (by rw [hreset]; rfl) hparse, hreset]
      exact verifyChecksum_resetPacket
  · rw [hparse] at hrejected
    exact Or.inr hrejected

/-- What arrives from the server is a packet of one of its sessions, sent to the host. -/
theorem Carried.served {seeds : Address → SessionSeeds} {opened : List Address}
    {sessions : Address → TcpSession} (hcarried : Carried st j bytes)
    (hserving : TcpStack.Serving seeds opened st sessions)
    (hparse : UdpDriver.onUvRecv bytes = some packet) :
    (∃ k, ∃ d ∈ (sessions k).sent, d.address = j ∧ d.packet = packet) ∨
      verifyChecksum packet = false := by
  rcases hcarried with ⟨d, hd, haddress, rfl⟩ | hrejected
  · rcases hserving.sent d hd with ⟨k, hsent⟩ | hreset
    · exact Or.inl ⟨k, d, hsent, haddress,
        packet_of_parse ((hserving.optionless k).sent d hsent) hparse⟩
    · right
      rw [← packet_of_parse (by rw [hreset]; rfl) hparse, hreset]
      exact verifyChecksum_resetPacket
  · rw [hparse] at hrejected
    exact Or.inr hrejected

end Arrivals

/-! ## The connections of the clients -/

section Projection

variable {v k : Address} {seeds : Address → Side → SessionSeeds} {h h' : Network × Service}
  {c : Address → Connection} {e : NetworkEvent}

theorem recordSide_of_nil {side : Side} {st st' : TcpStack} {ev : TcpStack.StackEvent}
    {g : Streams} (haccepted : st.acceptedBy ev = []) (hsent : st.sentBy ev st' = [])
    (hread : st.readBy ev = []) : recordSide side st ev st' g = g := by
  rw [recordSide, haccepted, hsent, hread, List.append_nil, List.append_nil, List.append_nil,
    Function.update_eq_self, Function.update_eq_self, Function.update_eq_self]

theorem recordSide_of_rests {side : Side} {st st' : TcpStack} {ev : TcpStack.StackEvent}
    {g : Streams} (h : st.Rests ev st') : recordSide side st ev st' g = g :=
  recordSide_of_nil h.acceptedBy h.sentBy h.readBy

theorem update_session_self (c : Connection) (side : Side) :
    c.update side (c.session side) = c := by
  cases side <;> rfl

/-- An event of the session of one side is a step of the connection, or a packet that fails its
checksum. -/
theorem follows_of_acts (g : Connection × Streams) (side : Side) {st st' : TcpStack} {ev : Event}
    {s' : TcpSession} (hhost : e.host = endpoint v k side)
    (hpeer : side = .b → TcpStack.Concerning k e.event)
    (hacts : st.Acts e.event st' (g.1.session side) ev s')
    (hcarried : ∀ packet iss, ev = .input packet iss →
      packet ∈ (g.1.session side.other).packets ∨ verifyChecksum packet = false) :
    Follows v k e g (g.1.update side s', recordSide side st e.event st' g.2) := by
  by_cases hpossible : g.1.Possible ⟨side, ev⟩
  · refine .acts hhost hpeer hacts.concerns ?_
    rw [withStreams_of_step hpossible hacts.step, Connection.recordStreams, recordSide,
      hacts.acceptedBy, hacts.sentBy, hacts.readBy, session_update_self]
  · cases ev with
    | input packet iss =>
        rcases hcarried packet iss rfl with hmem | hrejected
        · exact absurd hmem hpossible
        have hsame := hacts.step
        rw [TcpStack.step_corrupted hrejected, Option.some.injEq] at hsame
        subst hsame
        rw [update_session_self, recordSide_of_nil hacts.acceptedBy
          (hacts.sentBy.trans (TcpSession.newWire_of_eq rfl)) hacts.readBy]
        exact .rests rfl
    | _ => exact absurd trivial hpossible

/-- The owner of a session gives it no other address. -/
theorem givesAddress_of_concerns {ev : TcpStack.StackEvent} {e : Event}
    (hconcerns : TcpStack.Concerns ev e) (hkeeps : KeepsAddress ev)
    (howner : ∀ j, ev = .session j e → j = k) : TcpSession.GivesAddress (Toward k) e := by
  cases hconcerns with
  | call j hcall =>
      cases e with
      | setRemoteAddr ip port => exact Or.inl (hkeeps.trans (howner j rfl))
      | _ => trivial
  | packet hparse => trivial

/-- What the server receives from a client was sent by the session of the client. -/
theorem Projects.arrives_server (hp : Projects v seeds h c) (hne : k ≠ v)
    (hpossible : h.1.Possible e) (hconcerning : TcpStack.Concerning k e.event) {ev : Event}
    (hconcerns : TcpStack.Concerns e.event ev) {packet : MyuTcpPacket} {iss : UInt32}
    (hev : ev = .input packet iss) :
    packet ∈ (c k).a.packets ∨ verifyChecksum packet = false := by
  rcases e with ⟨host, event⟩
  subst hev
  cases hconcerns with
  | call j hcall => exact absurd rfl (hcall packet iss)
  | packet hparse =>
      cases hconcerning
      rcases Carried.hosted hpossible (hp.clients k hne) hparse with ⟨d, hd, -, rfl⟩ | hrejected
      · exact Or.inl (List.mem_map_of_mem hd)
      · exact Or.inr hrejected

/-- What a client receives was sent by the session of the server for it: no other session of the
server, and no other client, knows the address of the client. -/
theorem Projects.arrives_client (hp : Projects v seeds h c) (hne : e.host ≠ v)
    (hdefault : e.host ≠ defaultAddress) (hpossible : h.1.Possible e) {ev : Event}
    (hconcerns : TcpStack.Concerns e.event ev) {packet : MyuTcpPacket} {iss : UInt32}
    (hev : ev = .input packet iss) :
    packet ∈ (c e.host).b.packets ∨ verifyChecksum packet = false := by
  rcases e with ⟨host, event⟩
  subst hev
  cases hconcerns with
  | call j hcall => exact absurd rfl (hcall packet iss)
  | @packet j bytes packet drawn iss hparse =>
      have hcarried : Carried (h.1 j) host bytes := hpossible
      by_cases hserver : j = v
      · rw [hserver] at hcarried
        rcases hcarried.served hp.server hparse with ⟨k, d, hd, haddress, rfl⟩ | hrejected
        · rcases (hp.toClient k).sent d hd with hk | hk
          · rw [haddress] at hk
            subst hk
            exact Or.inl (List.mem_map_of_mem hd)
          · exact absurd (haddress.symm.trans hk) hdefault
        · exact Or.inr hrejected
      · rcases hcarried.hosted (hp.clients j hserver) hparse with ⟨d, hd, haddress, -⟩ | hrejected
        · rcases (hp.toServer j).sent d hd with hv | hv
          · exact absurd (haddress.symm.trans hv) hne
          · exact absurd (haddress.symm.trans hv) hdefault
        · exact Or.inr hrejected

/-- A step of the server is a step of the connection of the client that it concerns. -/
theorem projects_step_server (hp : Projects v seeds h c) (hok : OneServer v seeds h e)
    (hserver : e.host = v) (hstep : withService v h e = some h') :
    ∃ c', Projects v seeds h' c' ∧
      ∀ k, k ≠ v → Follows v k e (c k, h.2.streams k) (c' k, h'.2.streams k) := by
  rcases StepFn.withGhost_eq_some.mp hstep with ⟨hnetwork, hghost⟩
  rcases step_eq_some_iff.mp hnetwork with ⟨hpossible, st', hst', hupdate⟩
  rw [hserver] at hst' hupdate
  have hself : h'.1 v = st' := by rw [hupdate, Function.update_self]
  have hclients : ∀ k, k ≠ v → h'.1 k = h.1 k := by
    intro k hk
    rw [hupdate, Function.update_of_ne hk]
  have hopened : h'.2.opened = (h.1 v).recordOpened e.event h.2.opened := by
    rw [hghost, recordService, if_pos hserver]
  have hstreams : ∀ k, h'.2.streams k =
      if TcpStack.Concerning k e.event then recordSide .b (h.1 v) e.event st' (h.2.streams k)
      else h.2.streams k := by
    intro k
    rw [hghost, recordService]
    dsimp only
    rw [if_pos hserver, hself]
  rcases TcpStack.serving_step hp.server (hok.server hserver) hst' with
    ⟨hrests, hserving⟩ | ⟨i, ev, s', hconcerning, hacts, hserving⟩
  · refine ⟨c, ⟨fun k hk => ?_, ?_, hp.toServer, hp.toClient⟩, fun k hk => ?_⟩
    · rw [hclients k hk]
      exact hp.clients k hk
    · rw [hself, hopened]
      exact hserving
    · rw [hstreams k, recordSide_of_rests hrests, ite_self]
      exact .rests rfl
  · have hsessions : (fun k => (Function.update c i ((c i).update .b s') k).b) =
        Function.update (fun k => (c k).b) i s' :=
      Function.comp_update Connection.b c i _
    refine ⟨Function.update c i ((c i).update .b s'), ⟨?_, ?_, ?_, ?_⟩, ?_⟩
    · rw [Function.forall_update_iff c fun k ck => k ≠ v → TcpStack.Hosted v
        (TcpStack.firstSession v (seeds k .a) .a) (h'.1 k) ck.a]
      refine ⟨fun hi => ?_, fun k _ hk => ?_⟩
      · rw [hclients i hi]
        exact hp.clients i hi
      · rw [hclients k hk]
        exact hp.clients k hk
    · rw [hself, hopened, hsessions]
      exact hserving
    · rw [Function.forall_update_iff c fun _ ck => ck.a.Within (Toward v)]
      exact ⟨hp.toServer i, fun k _ => hp.toServer k⟩
    · rw [Function.forall_update_iff c fun k ck => ck.b.Within (Toward k)]
      refine ⟨TcpSession.within_step (Or.inr rfl) (hp.toClient i) ?_ hacts.step,
        fun k _ => hp.toClient k⟩
      refine givesAddress_of_concerns hacts.concerns hok.keeps fun j hj => ?_
      rw [hj] at hconcerning
      exact hconcerning
    · rw [Function.forall_update_iff c fun k ck =>
        k ≠ v → Follows v k e (c k, h.2.streams k) (ck, h'.2.streams k)]
      refine ⟨fun hi => ?_, fun k hk _ => ?_⟩
      · rw [hstreams i, if_pos hconcerning]
        exact follows_of_acts (c i, h.2.streams i) .b hserver
          (fun _ => hconcerning) hacts
          fun packet iss hev => hp.arrives_server hi hpossible hconcerning hacts.concerns hev
      · rw [hstreams k, if_neg fun hboth => hk (hboth.unique hconcerning)]
        exact .rests rfl

/-- A step of a client is a step of its connection. -/
theorem projects_step_client (hp : Projects v seeds h c) (hok : OneServer v seeds h e)
    (hclient : e.host ≠ v) (hstep : withService v h e = some h') :
    ∃ c', Projects v seeds h' c' ∧
      ∀ k, k ≠ defaultAddress → Follows v k e (c k, h.2.streams k) (c' k, h'.2.streams k) := by
  rcases StepFn.withGhost_eq_some.mp hstep with ⟨hnetwork, hghost⟩
  rcases step_eq_some_iff.mp hnetwork with ⟨hpossible, st', hst', hupdate⟩
  have hself : h'.1 e.host = st' := by rw [hupdate, Function.update_self]
  have hothers : ∀ k, k ≠ e.host → h'.1 k = h.1 k := by
    intro k hk
    rw [hupdate, Function.update_of_ne hk]
  have hserving : TcpStack.Serving (fun k => seeds k .b) h'.2.opened (h'.1 v)
      fun k => (c k).b := by
    rw [hothers v (Ne.symm hclient), hghost, recordService, if_neg hclient]
    exact hp.server
  have hstreams : ∀ k, h'.2.streams k =
      if e.host = k then recordSide .a (h.1 k) e.event (h'.1 k) (h.2.streams k)
      else h.2.streams k := by
    intro k
    rw [hghost, recordService]
    dsimp only
    rw [if_neg hclient]
  rcases TcpStack.hosted_step (hp.clients e.host hclient) (hok.client hclient) hst' with
    ⟨hrests, hhosted⟩ | ⟨ev, s', hacts, hhosted⟩
  · refine ⟨c, ⟨fun k hk => ?_, hserving, hp.toServer, hp.toClient⟩, fun k _ => ?_⟩
    · by_cases hhost : k = e.host
      · subst hhost
        rw [hself]
        exact hhosted
      · rw [hothers k hhost]
        exact hp.clients k hk
    · rw [hstreams k]
      split <;> rename_i hhost
      · subst hhost
        rw [hself, recordSide_of_rests hrests]
        exact .rests rfl
      · exact .rests rfl
  · have hsessions : (fun k => (Function.update c e.host ((c e.host).update .a s') k).b) =
        fun k => (c k).b :=
      (Function.comp_update Connection.b c e.host _).trans (Function.update_eq_self e.host _)
    refine ⟨Function.update c e.host ((c e.host).update .a s'), ⟨?_, ?_, ?_, ?_⟩, ?_⟩
    · rw [Function.forall_update_iff c fun k ck => k ≠ v → TcpStack.Hosted v
        (TcpStack.firstSession v (seeds k .a) .a) (h'.1 k) ck.a]
      refine ⟨fun _ => ?_, fun k hhost hk => ?_⟩
      · rw [hself]
        exact hhosted
      · rw [hothers k hhost]
        exact hp.clients k hk
    · rw [hsessions]
      exact hserving
    · rw [Function.forall_update_iff c fun _ ck => ck.a.Within (Toward v)]
      refine ⟨TcpSession.within_step (Or.inr rfl) (hp.toServer e.host) ?_ hacts.step,
        fun k _ => hp.toServer k⟩
      refine givesAddress_of_concerns hacts.concerns hok.keeps fun j hj => ?_
      rcases hacts.owner j hj with ⟨entry, hfind, -⟩
      exact ((hp.clients e.host hclient).entries j entry hfind).1
    · rw [Function.forall_update_iff c fun k ck => ck.b.Within (Toward k)]
      exact ⟨hp.toClient e.host, fun k _ => hp.toClient k⟩
    · rw [Function.forall_update_iff c fun k ck => k ≠ defaultAddress →
        Follows v k e (c k, h.2.streams k) (ck, h'.2.streams k)]
      refine ⟨fun hdefault => ?_, fun k hhost _ => ?_⟩
      · rw [hstreams e.host, if_pos rfl, hself]
        exact follows_of_acts (c e.host, h.2.streams e.host) .a rfl
          (by simp) hacts
          fun packet iss hev => hp.arrives_client hclient hdefault hpossible hacts.concerns hev
      · rw [hstreams k, if_neg (Ne.symm hhost)]
        exact .rests rfl

/-- A step of the network is a step of each connection, or leaves it as it is. -/
theorem projects_step (hp : Projects v seeds h c) (hok : OneServer v seeds h e)
    (hstep : withService v h e = some h') :
    ∃ c', Projects v seeds h' c' ∧ ∀ k, k ≠ v → k ≠ defaultAddress →
      Follows v k e (c k, h.2.streams k) (c' k, h'.2.streams k) := by
  by_cases hserver : e.host = v
  · rcases projects_step_server hp hok hserver hstep with ⟨c', hp', hfollows⟩
    exact ⟨c', hp', fun k hk _ => hfollows k hk⟩
  · rcases projects_step_client hp hok hserver hstep with ⟨c', hp', hfollows⟩
    exact ⟨c', hp', fun k _ hdefault => hfollows k hdefault⟩

theorem within_firstSession (k : Address) (seeds : SessionSeeds) (side : Side) :
    (TcpStack.firstSession k seeds side).Within (Toward k) := by
  have hfresh : (TcpStack.freshSession k seeds 0).session.Within (Toward k) :=
    ⟨Or.inl rfl, fun _ _ ht => (nomatch ht), fun _ hd => (nomatch hd)⟩
  cases side
  · exact hfresh
  · exact hfresh.of_eq rfl rfl rfl

theorem projects_start (v : Address) (seeds : Address → Side → SessionSeeds) :
    Projects v seeds (new, Service.empty) (firstSessions v seeds) where
  clients k _ := TcpStack.hosted_new v (seeds k .a) .a
  server := TcpStack.serving_new fun k => seeds k .b
  toServer k := within_firstSession v (seeds k .a) .a
  toClient k := within_firstSession k (seeds k .b) .b

/-- For each client whose address is not the default one of {lit}`_handle_retransmit`, a run of the
network is a run of one connection, with the same bytes handed over and read. -/
theorem network_refines
    (hh : (withService v).Reachable (OneServer v seeds) (new, Service.empty) h) :
    ∃ c, Projects v seeds h c ∧ ∀ k, k ≠ v → k ≠ defaultAddress →
      Connection.withStreams.Reachable (fun _ _ => True) (firstSessions v seeds k, Streams.empty)
        (c k, h.2.streams k) := by
  refine hh.invariant (P := fun h => ∃ c, Projects v seeds h c ∧ ∀ k, k ≠ v → k ≠ defaultAddress →
    Connection.withStreams.Reachable (fun _ _ => True) (firstSessions v seeds k, Streams.empty)
      (c k, h.2.streams k)) ⟨_, projects_start v seeds, fun _ _ _ => .start⟩ ?_
  rintro h e h' ⟨c, hp, hruns⟩ hok hstep
  rcases projects_step hp hok hstep with ⟨c', hp', hfollows⟩
  refine ⟨c', hp', fun k hk hdefault => ?_⟩
  have hrun := hruns k hk hdefault
  cases hfollows k hk hdefault with
  | rests hsame =>
      rw [hsame]
      exact hrun
  | acts hhost hpeer hconcerns hstep => exact hrun.next trivial hstep

end Projection

/-! ## The streams of the clients -/

/-- The client connects once, with its number, and the server draws its number for the SYN. -/
def Draws (v : Address) (number : Address → Side → UInt32) (n : Network) (e : NetworkEvent) :
    Prop :=
  match e.event with
  | .session _ (.connect iss) => iss = number e.host .a ∧ (n e.host).sent = []
  | .session _ .listen => False
  | .datagram k _ _ iss => e.host = v → iss = number k .b
  | _ => True

instance (v : Address) (number : Address → Side → UInt32) (n : Network) : (e : NetworkEvent) →
    Decidable (Draws v number n e)
  | ⟨_, .session _ (.connect _)⟩ => inferInstanceAs (Decidable (_ ∧ _))
  | ⟨_, .session _ .listen⟩ => isFalse id
  | ⟨_, .datagram ..⟩ => inferInstanceAs (Decidable (_ → _))
  | ⟨_, .session _ (.setRemoteAddr ..)⟩ | ⟨_, .session _ (.setListenerPort ..)⟩
  | ⟨_, .session _ (.send ..)⟩ | ⟨_, .session _ (.recv ..)⟩ | ⟨_, .session _ .readAll⟩
  | ⟨_, .session _ .close⟩ | ⟨_, .session _ (.input ..)⟩ | ⟨_, .session _ (.expire ..)⟩
  | ⟨_, .session _ .expire2Msl⟩ | ⟨_, .createSession ..⟩ | ⟨_, .listen⟩ | ⟨_, .takeReadyQueue⟩
  | ⟨_, .dispatchNext⟩ => isTrue trivial

/-- A step of a server and its clients, in which the connection of one client has not used a number
twice. -/
structure Streaming (v : Address) (seeds : Address → Side → SessionSeeds)
    (number : Address → Side → UInt32) (k : Address) (h : Network × Service) (e : NetworkEvent) :
    Prop where
  once : OneServer v seeds h e
  draws : Draws v number h.1 e
  unrepeated : ∀ side, TcpSession.Unrepeated ((h.2.streams k).wire side)

instance (v : Address) (seeds : Address → Side → SessionSeeds) (number : Address → Side → UInt32)
    (k : Address) (h : Network × Service) (e : NetworkEvent) :
    Decidable (Streaming v seeds number k h e) :=
  decidable_of_iff (OneServer v seeds h e ∧ Draws v number h.1 e ∧
      ((h.2.streams k).wire .a).length ≤ 2 ^ 32 ∧ ((h.2.streams k).wire .b).length ≤ 2 ^ 32) <| by
    constructor
    · rintro ⟨honce, hdraws, ha, hb⟩
      refine ⟨honce, hdraws, fun side => ?_⟩
      cases side
      · exact ha
      · exact hb
    · exact fun hstreaming => ⟨hstreaming.once, hstreaming.draws, hstreaming.unrepeated .a,
        hstreaming.unrepeated .b⟩

section Safety

variable {v k : Address} {seeds : Address → Side → SessionSeeds}
  {number : Address → Side → UInt32} {h : Network × Service} {c : Address → Connection}
  {e : NetworkEvent}

/-- The event of the session is one of a handshake. -/
theorem Streaming.handshakes (hok : Streaming v seeds number k h e) (hp : Projects v seeds h c)
    (hk : k ≠ v) {side : Side} {ev : Event} (hhost : e.host = endpoint v k side)
    (hpeer : side = .b → TcpStack.Concerning k e.event)
    (hconcerns : TcpStack.Concerns e.event ev) :
    Handshakes (number k .a) (number k .b) (c k) ⟨side, ev⟩ := by
  have hdraws := hok.draws
  have honce := hok.once
  rcases e with ⟨host, event⟩
  cases hconcerns with
  | call j hcall =>
      cases ev with
      | connect iss =>
          cases side with
          | a =>
              cases hhost
              refine ⟨rfl, hdraws.1, List.eq_nil_iff_forall_not_mem.mpr fun d hd => ?_⟩
              have hlog := (hp.clients k hk).log d hd
              rw [hdraws.2] at hlog
              contradiction
          | b => exact (honce.server hhost).elim
      | listen => exact hdraws
      | input packet iss => exact absurd rfl (hcall packet iss)
      | _ => trivial
  | packet hparse =>
      rintro rfl
      cases hpeer rfl
      exact hdraws hhost

/-- The streams of the connection of a client are in order at every moment. -/
theorem network_joined
    (hh : (withService v).Reachable (Streaming v seeds number k) (new, Service.empty) h)
    (hk : k ≠ v) (hdefault : k ≠ defaultAddress) :
    ∃ c, Projects v seeds h c ∧
      Joined False (number k .a) (number k .b) (c k, h.2.streams k) := by
  have hstart : Joined False (number k .a) (number k .b)
      (firstSessions v seeds k, Service.empty.streams k) :=
    joined_start (TcpStack.created_freshSession _ _ _) (TcpStack.created_freshSession _ _ _)
  refine hh.invariant (P := fun h => ∃ c, Projects v seeds h c ∧
    Joined False (number k .a) (number k .b) (c k, h.2.streams k))
    ⟨_, projects_start v seeds, hstart⟩ ?_
  rintro h e h' ⟨c, hp, hjoined⟩ hok hstep
  rcases projects_step hp hok.once hstep with ⟨c', hp', hfollows⟩
  refine ⟨c', hp', ?_⟩
  cases hfollows k hk hdefault with
  | rests hsame =>
      rw [hsame]
      exact hjoined
  | acts hhost hpeer hconcerns hstep' =>
      exact joined_step hjoined ⟨hok.handshakes hp hk hhost hpeer hconcerns, hok.unrepeated⟩
        (fun hfalse => absurd hfalse id) hstep'

theorem Projects.session (hp : Projects v seeds h c) (hk : k ≠ v) {side : Side}
    {entry : StackSession}
    (hfind : (h.1 (endpoint v k side)).tcpSessions.find? (endpoint v k side.other) = some entry) :
    entry.session = (c k).session side := by
  cases side with
  | a => exact ((hp.clients k hk).entries v entry hfind).2
  | b => exact hp.server.entries k entry hfind

/-- In every run of a server and its clients, a client whose address is not the default one of
{lit}`_handle_retransmit` reads a prefix of what the server has sent to it, and the server reads
from it a prefix of what it has sent; what has left a send buffer has arrived. -/
theorem network_stream_safety
    (hh : (withService v).Reachable (Streaming v seeds number k) (new, Service.empty) h)
    (hk : k ≠ v) (hdefault : k ≠ defaultAddress) (side : Side) :
    (h.2.streams k).read side.other <+: (h.2.streams k).accepted side ∧
      ∀ receiver,
        (h.1 (endpoint v k side.other)).tcpSessions.find? (endpoint v k side) = some receiver →
        (h.2.streams k).read side.other ++ receiver.session.recvBuffer.toList <+:
            (h.2.streams k).accepted side ∧
          ∀ sender,
            (h.1 (endpoint v k side)).tcpSessions.find? (endpoint v k side.other) = some sender →
            ∃ released,
              (h.2.streams k).accepted side = released ++ sender.session.sendBuffer.toList ∧
              released <+:
                (h.2.streams k).read side.other ++ receiver.session.recvBuffer.toList := by
  rcases network_joined hh hk hdefault with ⟨c, hp, hjoined⟩
  rcases hjoined.streams side with ⟨hreceived, hreleased⟩
  refine ⟨(List.prefix_append _ _).trans hreceived, fun receiver hreceiver => ?_⟩
  have hback : endpoint v k side = endpoint v k side.other.other := by rw [Side.other_other]
  rw [hback] at hreceiver
  rw [hp.session hk hreceiver]
  refine ⟨hreceived, fun sender hsender => ?_⟩
  rw [hp.session hk hsender]
  exact hreleased

end Safety

/-- The server of the concrete run. -/
def serverAddress : Address := Address.of "10.0.0.1" 7000

/-- Two clients connect, one of them with the default address, and the server draws one number for
both.  The other one sends a byte, which the server reads.  The byte that the server sends to it is
lost and sent again, to the default address. -/
def strayDataRun : List NetworkEvent :=
  let arrives (host sender : Address) (packet : MyuTcpPacket) : NetworkEvent :=
    ⟨host, .datagram sender (UdpDriver.sendPacket packet) zeroSeeds 100⟩
  [⟨serverAddress, .listen⟩,
    ⟨clientAddress, .createSession serverAddress zeroSeeds⟩,
    ⟨defaultAddress, .createSession serverAddress zeroSeeds⟩,
    ⟨clientAddress, .session serverAddress (.connect 0)⟩,
    ⟨defaultAddress, .session serverAddress (.connect 0)⟩,
    arrives serverAddress clientAddress (wirePacket 0 7000 flagSyn 0 0),
    arrives serverAddress defaultAddress (wirePacket 0 7000 flagSyn 0 0),
    arrives clientAddress serverAddress (wirePacket 0 8000 (flagSyn ||| flagAck) 100 1),
    arrives defaultAddress serverAddress (wirePacket 0 9999 (flagSyn ||| flagAck) 100 1),
    arrives serverAddress clientAddress (wirePacket 0 7000 flagAck 1 101),
    arrives serverAddress defaultAddress (wirePacket 0 7000 flagAck 1 101),
    ⟨clientAddress, .session serverAddress (.send [8])⟩,
    ⟨serverAddress, .session clientAddress (.send [7])⟩,
    ⟨serverAddress, .session clientAddress (.expire 101)⟩,
    arrives serverAddress clientAddress
      (calculateChecksum { wirePacket 0 7000 flagAck 1 101 with payload := [8] }),
    ⟨serverAddress, .session clientAddress .readAll⟩,
    arrives defaultAddress serverAddress
      (calculateChecksum { wirePacket 0 8000 flagAck 101 1 with payload := [7] }),
    ⟨defaultAddress, .session serverAddress .readAll⟩]

/-- Each client draws zero, and the server one number for all. -/
def strayNumber : Address → Side → UInt32 := fun _ => isn 0 100

/-- The server has a connection of its own with the other client. -/
theorem network_refines_strayData :
    ∃ h c, (withService serverAddress).run (new, Service.empty) strayDataRun = some h ∧
      (h.2.streams clientAddress).read .b = [8] ∧
      Projects serverAddress (fun _ _ => zeroSeeds) h c ∧
      ∀ k, k ≠ serverAddress → k ≠ defaultAddress →
        Connection.withStreams.Reachable (fun _ _ => True)
          (firstSessions serverAddress (fun _ _ => zeroSeeds) k, Streams.empty)
          (c k, h.2.streams k) := by
  have hrun : (((withService serverAddress).run (new, Service.empty) strayDataRun).any fun h =>
      (h.2.streams clientAddress).read .b = [8]) = true := by
    decide +kernel
  have hcheck : (withService serverAddress).checkSteps
      (fun h e => OneServer serverAddress (fun _ _ => zeroSeeds) h e) (new, Service.empty)
      strayDataRun = true := by
    decide +kernel
  rcases (Option.any_eq_true _ _).mp hrun with ⟨h, hh, hread⟩
  rcases network_refines (StepFn.reachable_of_run
    (StepFn.allSteps_of_check (fun _ _ => of_decide_eq_true) hcheck) hh) with ⟨c, hp, hruns⟩
  exact ⟨h, c, hh, of_decide_eq_true hread, hp, hruns⟩

/-- The server reads from the other client what it has sent. -/
theorem network_stream_safety_strayData :
    ∃ h, (withService serverAddress).run (new, Service.empty) strayDataRun = some h ∧
      (h.2.streams clientAddress).accepted .a = [8] ∧ (h.2.streams clientAddress).read .b = [8] ∧
      (h.2.streams clientAddress).read (Side.other .a) <+: (h.2.streams clientAddress).accepted .a ∧
      ∀ receiver,
        (h.1 (endpoint serverAddress clientAddress (Side.other .a))).tcpSessions.find?
            (endpoint serverAddress clientAddress .a) = some receiver →
        (h.2.streams clientAddress).read (Side.other .a) ++ receiver.session.recvBuffer.toList <+:
            (h.2.streams clientAddress).accepted .a ∧
          ∀ sender,
            (h.1 (endpoint serverAddress clientAddress .a)).tcpSessions.find?
              (endpoint serverAddress clientAddress (Side.other .a)) = some sender →
            ∃ released,
              (h.2.streams clientAddress).accepted .a =
                released ++ sender.session.sendBuffer.toList ∧
              released <+: (h.2.streams clientAddress).read (Side.other .a) ++
                receiver.session.recvBuffer.toList := by
  have hrun : (((withService serverAddress).run (new, Service.empty) strayDataRun).any fun h =>
      (h.2.streams clientAddress).accepted .a = [8] ∧
        (h.2.streams clientAddress).read .b = [8]) = true := by
    decide +kernel
  have hcheck : (withService serverAddress).checkSteps
      (fun h e => Streaming serverAddress (fun _ _ => zeroSeeds) strayNumber clientAddress h e)
      (new, Service.empty) strayDataRun = true := by
    decide +kernel
  rcases (Option.any_eq_true _ _).mp hrun with ⟨h, hh, hfacts⟩
  rcases of_decide_eq_true hfacts with ⟨haccepted, hread⟩
  exact ⟨h, hh, haccepted, hread, network_stream_safety (StepFn.reachable_of_run
    (StepFn.allSteps_of_check (fun _ _ => of_decide_eq_true) hcheck) hh) (by decide) (by decide)
    .a⟩

/-- The client with the default address reads a byte that the server has sent to the other one. -/
theorem strayData_read :
    ∃ h, (withService serverAddress).Reachable
        (Streaming serverAddress (fun _ _ => zeroSeeds) strayNumber defaultAddress)
        (new, Service.empty) h ∧
      (h.2.streams clientAddress).accepted .b = [7] ∧
      (h.2.streams defaultAddress).read .a = [7] ∧
      (h.2.streams defaultAddress).accepted .b = [] := by
  have hrun : (((withService serverAddress).run (new, Service.empty) strayDataRun).any fun h =>
      (h.2.streams clientAddress).accepted .b = [7] ∧
        (h.2.streams defaultAddress).read .a = [7] ∧
        (h.2.streams defaultAddress).accepted .b = []) = true := by
    decide +kernel
  have hcheck : (withService serverAddress).checkSteps
      (fun h e => Streaming serverAddress (fun _ _ => zeroSeeds) strayNumber defaultAddress h e)
      (new, Service.empty) strayDataRun = true := by
    decide +kernel
  rcases (Option.any_eq_true _ _).mp hrun with ⟨h, hh, hfacts⟩
  exact ⟨h, StepFn.reachable_of_run
    (StepFn.allSteps_of_check (fun _ _ => of_decide_eq_true) hcheck) hh,
    of_decide_eq_true hfacts⟩

end Network

end MyuTcp
