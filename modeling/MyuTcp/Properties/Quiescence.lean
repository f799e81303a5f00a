import MyuTcp.Core.Connection
import MyuTcp.Core.Replies
import MyuTcp.Library.Termination

/-!
# Quiescence of the network

Two sessions and the packets on their way, when the applications make no further calls and no
timer expires.  Each delivery removes a packet from the network and adds what the receiver
sends.

Main results:

- Theorem {lit}`Traffic.measure_lt`: a delivery lowers the measure of the traffic, unless both
  sessions answer every packet.
- Theorem {lit}`Traffic.quiesces_iff`: the deliveries end exactly when they never lead to two
  sessions in CLOSE_WAIT that both have not finished, with a packet between them.
-/

namespace MyuTcp

open Library TcpSession

/-- The packets that {lit}`s'` has sent beyond those of {lit}`s`. -/
def TcpSession.newPackets (s s' : TcpSession) : List MyuTcpPacket :=
  (newDatagrams s s').map Datagram.packet

/-- A connection with the packets on their way to each side. -/
structure Traffic where
  connection : Connection
  towards : Side → Multiset MyuTcpPacket

namespace Traffic

/-- The session of an end. -/
def session (t : Traffic) (side : Side) : TcpSession := t.connection.session side

/-- The traffic after a packet has turned the session of a side into {lit}`s'`. -/
def afterDelivery (t : Traffic) (side : Side) (packet : MyuTcpPacket) (s' : TcpSession) :
    Traffic where
  connection := t.connection.update side s'
  towards i :=
    if i = side then (t.towards i).erase packet
    else t.towards i + newPackets (t.session side) s'

/-- One delivery. -/
inductive Delivery : Traffic → Traffic → Prop
  | mk (t : Traffic) {side : Side} {packet : MyuTcpPacket} {iss : UInt32} {s' : TcpSession}
      (hmem : packet ∈ t.towards side)
      (hstep : TcpSession.step (t.session side) (.input packet iss) = some s') :
      Delivery t (t.afterDelivery side packet s')

/-- Both sessions are in CLOSE_WAIT without having finished, and a packet that passes the
checks is on its way. -/
def Echoing (t : Traffic) : Prop :=
  (∀ side, (t.session side).Echoes) ∧ ∃ side, ∃ packet ∈ t.towards side, Admitted packet

section Fields

variable (t : Traffic) (side : Side) (packet : MyuTcpPacket) (s' : TcpSession)

/-- The receiver has taken its step. -/
@[simp]
theorem session_afterDelivery : (t.afterDelivery side packet s').session side = s' :=
  Connection.session_update_self _ _ _

/-- The other side has not. -/
@[simp]
theorem session_afterDelivery_other :
    (t.afterDelivery side packet s').session side.other = t.session side.other :=
  Connection.session_update_other _ _ _

/-- The packet is no longer on its way. -/
@[simp]
theorem towards_afterDelivery :
    (t.afterDelivery side packet s').towards side = (t.towards side).erase packet :=
  if_pos rfl

/-- The replies are on their way to the other side. -/
@[simp]
theorem towards_afterDelivery_other :
    (t.afterDelivery side packet s').towards side.other =
      t.towards side.other + newPackets (t.session side) s' :=
  if_neg (Side.other_ne side)

end Fields

/-! ## The measure -/

/-- The sum of both sides. -/
def total (f : Side → Nat) : Nat := f .a + f .b

/-- The total is the sum over both sides. -/
theorem total_eq (f : Side → Nat) (side : Side) : total f = f side + f side.other := by
  cases side
  · rfl
  · exact Nat.add_comm _ _

/-- The total falls with one side. -/
theorem total_lt {f g : Side → Nat} (side : Side) (hlt : f side < g side)
    (hother : f side.other = g side.other) : total f < total g := by
  rw [total_eq f side, total_eq g side]
  omega

/-- The total stays with both sides. -/
theorem total_congr {f g : Side → Nat} (side : Side) (hside : f side = g side)
    (hother : f side.other = g side.other) : total f = total g := by
  rw [total_eq f side, total_eq g side, hside, hother]

/-- What a packet can still cause at its receiver: one answer at a session that answers
everything, otherwise an answer to data or FIN, which may have to be answered once more. -/
def weight (s : TcpSession) (packet : MyuTcpPacket) : Nat :=
  if s.Echoes then 2 else if IsPlain packet then 1 else 3

/-- The weight of all packets on their way to a session. -/
def load (s : TcpSession) (m : Multiset MyuTcpPacket) : Nat := (m.map (weight s)).sum

/-- Each packet weighs something. -/
theorem weight_pos (s : TcpSession) (packet : MyuTcpPacket) : 0 < weight s packet := by
  unfold weight
  split
  · decide
  · split <;> decide

/-- The load depends on whether the session echoes. -/
theorem load_congr {s s' : TcpSession} (h : s'.Echoes ↔ s.Echoes) : load s' = load s := by
  unfold load weight
  simp only [h]

/-- The load is less by the weight of the packet. -/
theorem load_erase {s : TcpSession} {m : Multiset MyuTcpPacket} {packet : MyuTcpPacket}
    (hmem : packet ∈ m) : load s (m.erase packet) + weight s packet = load s m := by
  unfold load
  conv_rhs => rw [← Multiset.cons_erase hmem, Multiset.map_cons, Multiset.sum_cons]
  exact Nat.add_comm _ _

/-- How far both sessions are from CLOSED. -/
def ranks (t : Traffic) : Nat := total fun i => (t.session i).state.rank

/-- The numbers above the acknowledged ones. -/
def unacked (t : Traffic) : Nat :=
  total fun i => 2 ^ 32 - (t.session i).sendWindow.sendUnack.toNat

/-- The bytes that can still be transmitted. -/
def unsentBytes (t : Traffic) : Nat := total fun i => (t.session i).unsent

/-- What the packets on their way can still cause. -/
def loads (t : Traffic) : Nat := total fun i => load (t.session i) (t.towards i)

/-- What every delivery lowers but an echo: the ranks of the states first, then what is
unacknowledged, what is unsent, and the packets in flight. -/
def measure (t : Traffic) : ℕ ×ₗ ℕ ×ₗ ℕ ×ₗ ℕ :=
  toLex (t.ranks, toLex (t.unacked, toLex (t.unsentBytes, t.loads)))

/-- The measure is ordered lexicographically. -/
theorem measure_lt_iff {t t' : Traffic} :
    t'.measure < t.measure ↔
      t'.ranks < t.ranks ∨ t'.ranks = t.ranks ∧ (t'.unacked < t.unacked ∨
        t'.unacked = t.unacked ∧ (t'.unsentBytes < t.unsentBytes ∨
          t'.unsentBytes = t.unsentBytes ∧ t'.loads < t.loads)) := by
  simp only [measure, Prod.Lex.toLex_lt_toLex]

section Measure

variable {t : Traffic} {side : Side} {packet : MyuTcpPacket} {s' : TcpSession}

/-- A delivery in the same state keeps the ranks. -/
theorem ranks_congr (hstate : s'.state = (t.session side).state) :
    (t.afterDelivery side packet s').ranks = t.ranks :=
  total_congr side (by simp [hstate]) (by simp)

/-- A delivery that acknowledges nothing keeps this part. -/
theorem unacked_congr
    (hunack : s'.sendWindow.sendUnack = (t.session side).sendWindow.sendUnack) :
    (t.afterDelivery side packet s').unacked = t.unacked :=
  total_congr side (by simp [hunack]) (by simp)

/-- A delivery that sends no data keeps this part. -/
theorem unsentBytes_congr (hunsent : s'.unsent = (t.session side).unsent) :
    (t.afterDelivery side packet s').unsentBytes = t.unsentBytes :=
  total_congr side (by simp [hunsent]) (by simp)

/-- After a delivery that leaves the session where it was, the packets decide. -/
theorem measure_lt_of_unmoved (hunmoved : Unmoved (t.session side) s')
    (hmem : packet ∈ t.towards side)
    (hload : load (t.session side.other) (newPackets (t.session side) s') <
      weight (t.session side) packet) :
    (t.afterDelivery side packet s').measure < t.measure := by
  have herase := load_erase (s := t.session side) hmem
  have hadd : load (t.session side.other) (t.towards side.other + newPackets (t.session side) s') =
      load (t.session side.other) (t.towards side.other) +
        load (t.session side.other) (newPackets (t.session side) s') := by
    unfold load
    rw [Multiset.map_add, Multiset.sum_add]
  have hloads : (t.afterDelivery side packet s').loads < t.loads := by
    unfold loads
    rw [total_eq _ side, total_eq _ side]
    simp only [session_afterDelivery, session_afterDelivery_other, towards_afterDelivery,
      towards_afterDelivery_other, load_congr hunmoved.echoes, hadd]
    omega
  rw [measure_lt_iff]
  exact Or.inr ⟨ranks_congr hunmoved.state, Or.inr ⟨unacked_congr hunmoved.sendUnack,
    Or.inr ⟨unsentBytes_congr hunmoved.unsent, hloads⟩⟩⟩

/-- An answer weighs less than the packet that caused it, as long as not both sessions answer
everything. -/
theorem weight_lt {s peer : TcpSession} {answer : MyuTcpPacket} (hplain : IsPlain answer)
    (hcause : ¬ IsPlain packet ∨ s.Echoes) (hechoes : ¬ (s.Echoes ∧ peer.Echoes)) :
    weight peer answer < weight s packet := by
  unfold weight
  by_cases hs : s.Echoes
  · have hpeer : ¬ peer.Echoes := fun hpeer => hechoes ⟨hs, hpeer⟩
    simp [hs, hpeer, hplain]
  · have hpacket : ¬ IsPlain packet := hcause.resolve_right hs
    by_cases hpeer : peer.Echoes
    · simp [hs, hpeer, hpacket]
    · simp [hs, hpeer, hpacket, hplain]

/-- A delivery lowers the measure, unless both sessions answer every packet. -/
theorem measure_lt {t t' : Traffic} (hechoing : ¬ t.Echoing) (h : Delivery t t') :
    t'.measure < t.measure := by
  cases h with
  | @mk side packet iss s' hmem hstep =>
      cases reply_input hstep with
      | left hrank =>
          rw [measure_lt_iff]
          exact Or.inl (total_lt side (by simpa using hrank) (by simp))
      | acked hstate hunack =>
          rw [measure_lt_iff]
          refine Or.inr ⟨ranks_congr hstate, Or.inl (total_lt side ?_ (by simp))⟩
          have hlt := s'.sendWindow.sendUnack.toNat_lt
          rw [UInt32.lt_iff_toNat_lt] at hunack
          simp only [session_afterDelivery]
          omega
      | transmitted hstate hunack hunsent =>
          rw [measure_lt_iff]
          exact Or.inr ⟨ranks_congr hstate, Or.inr ⟨unacked_congr hunack,
            Or.inl (total_lt side (by simpa using hunsent) (by simp))⟩⟩
      | silent hunmoved hsent =>
          apply measure_lt_of_unmoved hunmoved hmem
          rw [newPackets, newDatagrams, hsent, List.drop_length]
          exact weight_pos _ _
      | replied hunmoved hsent hplain hadmitted hcause =>
          apply measure_lt_of_unmoved hunmoved hmem
          rw [newPackets, newDatagrams_of_append hsent]
          have hboth : ¬ ((t.session side).Echoes ∧ (t.session side.other).Echoes) := by
            rintro ⟨hside, hother⟩
            refine hechoing ⟨fun i => ?_, side, packet, hmem, hadmitted⟩
            rcases Side.eq_or_eq_other side i with rfl | rfl
            · exact hside
            · exact hother
          simpa [load] using weight_lt hplain hcause hboth

end Measure

/-! ## Endless answers -/

/-- Two sessions that answer everything go on doing so. -/
theorem exists_delivery_echoing {t : Traffic} (h : t.Echoing) :
    ∃ t', Delivery t t' ∧ t'.Echoing := by
  rcases h with ⟨hechoes, side, packet, hmem, hadmitted⟩
  rcases echo_input (hechoes side) hadmitted 0 with ⟨s', d, hstep, hechoes', hd, hadmitted'⟩
  refine ⟨_, .mk t hmem hstep, fun i => ?_, side.other, d.packet, ?_, hadmitted'⟩
  · rcases Side.eq_or_eq_other side i with rfl | rfl
    · rw [session_afterDelivery]
      exact hechoes'
    · rw [session_afterDelivery_other]
      exact hechoes _
  · rw [towards_afterDelivery_other, Multiset.mem_add]
    exact Or.inr (List.mem_map_of_mem hd)

/-- From any traffic, the deliveries end exactly when they never lead to two sessions in
CLOSE_WAIT that both have not finished, with a packet between them. -/
theorem quiesces_iff (t : Traffic) :
    (¬ ∃ run : ℕ → Traffic, run 0 = t ∧ ∀ n, Delivery (run n) (run (n + 1))) ↔
      ∀ t', Relation.ReflTransGen Delivery t t' → ¬ t'.Echoing :=
  terminates_iff_avoids measure (fun _ _ => measure_lt)
    (fun _ => exists_delivery_echoing) t

/-- A handshake, after which both sides call {lit}`close()`. -/
def crossedClosesRun : List ConnectionEvent :=
  [⟨.a, .connect 0⟩, ⟨.b, .input (Connection.wirePacket 7000 8000 flagSyn 0 0) 100⟩,
    ⟨.a, .input (Connection.wirePacket 8000 7000 (flagSyn ||| flagAck) 100 1) 0⟩,
    ⟨.b, .input (Connection.wirePacket 7000 8000 flagAck 1 101) 0⟩, ⟨.a, .close⟩, ⟨.b, .close⟩]

/-- The FIN of the first session. -/
def finOfA : MyuTcpPacket := Connection.wirePacket 7000 8000 flagFin 1 101

/-- The FIN of the second session. -/
def finOfB : MyuTcpPacket := Connection.wirePacket 8000 7000 flagFin 101 1

/-- The traffic with the two FINs on their way and nothing else. -/
def crossedFins (c : Connection) : Traffic where
  connection := c
  towards
    | .a => {finOfB}
    | .b => {finOfA}

/-- The two FINs cross, and the sessions answer each other's acknowledgments for ever. -/
theorem crossedFins_endless :
    ∃ c, Connection.step.run ⟨clientSession, Connection.serverSession.listen⟩ crossedClosesRun =
        some c ∧ c.a.state = .finWait1 ∧ c.b.state = .finWait1 ∧
      finOfA ∈ c.a.packets ∧ finOfB ∈ c.b.packets ∧
      ∃ run : ℕ → Traffic, run 0 = crossedFins c ∧ ∀ n, Delivery (run n) (run (n + 1)) := by
  have hrun : ((Connection.step.run ⟨clientSession, Connection.serverSession.listen⟩
      crossedClosesRun).any fun c =>
        decide (c.a.state = .finWait1 ∧ c.b.state = .finWait1 ∧ finOfA ∈ c.a.packets ∧
          finOfB ∈ c.b.packets) &&
        ((TcpSession.step c.a (.input finOfB 0)).any fun s => decide s.Echoes) &&
        (TcpSession.step c.b (.input finOfA 0)).any fun s =>
          decide (s.Echoes ∧ ∃ packet ∈ newPackets c.b s, Admitted packet)) = true := by
    decide +kernel
  rcases (Option.any_eq_true _ _).mp hrun with ⟨c, hc, hfacts⟩
  rw [Bool.and_eq_true, Bool.and_eq_true] at hfacts
  rcases of_decide_eq_true hfacts.1.1 with ⟨ha, hb, hfinA, hfinB⟩
  rcases (Option.any_eq_true _ _).mp hfacts.1.2 with ⟨a', ha', haechoes⟩
  rcases (Option.any_eq_true _ _).mp hfacts.2 with ⟨b', hb', hbechoes⟩
  rcases of_decide_eq_true hbechoes with ⟨hbechoes, packet, hmem, hadmitted⟩
  refine ⟨c, hc, ha, hb, hfinA, hfinB, ?_⟩
  have hfirst : Delivery (crossedFins c) ((crossedFins c).afterDelivery .a finOfB a') :=
    .mk _ (Multiset.mem_singleton_self _) ha'
  have hsecond : Delivery ((crossedFins c).afterDelivery .a finOfB a')
      (((crossedFins c).afterDelivery .a finOfB a').afterDelivery .b finOfA b') :=
    .mk _ (Multiset.mem_add.mpr (Or.inl (Multiset.mem_singleton_self _))) hb'
  by_contra hends
  have hechoing :
      (((crossedFins c).afterDelivery .a finOfB a').afterDelivery .b finOfA b').Echoing := by
    refine ⟨?_, .a, packet, Multiset.mem_add.mpr (Or.inr hmem), hadmitted⟩
    rintro (_ | _)
    · exact of_decide_eq_true haechoes
    · exact hbechoes
  exact not_terminates_of_bad (fun _ => exists_delivery_echoing) hechoing
    ((Terminates.step hends hfirst).step hsecond)

end Traffic

end MyuTcp
