import MyuTcp.Core.Receiver
import MyuTcp.Properties.Phases
import MyuTcp.Properties.Quiescence

/-!
# A whole connection on a network that loses nothing

The applications of two sessions follow a script: one side listens, the other one connects, they
take turns in sending while the other one reads, and at last both close.  After each call the
network delivers the packets on their way until none is left.  No timer expires before that.

Main results:

- Theorem {lit}`Traffic.underway_ends`: the segments of one {lit}`send()`, with the window that the
  acknowledgments open, bring all of its bytes to the other side.
- Theorem {lit}`Traffic.connection_completes`: the whole script runs to its end, the bytes that are
  read are those that were sent, and both sessions are closed.
-/

namespace MyuTcp

open Library TcpSession

namespace Traffic

/-! ## Scripts -/

/-- A delivery in which a passive open draws {lit}`y`. -/
inductive DeliveryDrawing (y : UInt32) : Traffic → Traffic → Prop
  | mk (t : Traffic) {side : Side} {packet : MyuTcpPacket} {s' : TcpSession}
      (hmem : packet ∈ t.towards side)
      (hstep : TcpSession.step (t.session side) (.input packet y) = some s') :
      DeliveryDrawing y t (t.afterDelivery side packet s')

/-- No packet is on its way. -/
def Quiet (t : Traffic) : Prop := ∀ side, t.towards side = 0

/-- The packet is the only one on its way. -/
structure Lone (side : Side) (packet : MyuTcpPacket) (t : Traffic) : Prop where
  only : t.towards side = {packet}
  silent : t.towards side.other = 0

/-- The traffic after an event of a side that is no delivery has turned its session into
{lit}`s'`. -/
def afterCall (t : Traffic) (side : Side) (s' : TcpSession) : Traffic where
  connection := t.connection.update side s'
  towards i := if i = side then t.towards i else t.towards i + newPackets (t.session side) s'

/-- The side reads some bytes before the others. -/
def hear (side : Side) (read : List UInt8) (heard : Side → List UInt8) : Side → List UInt8 :=
  Function.update heard side (read ++ heard side)

/-- The script runs to its end, whatever the order of the deliveries after each of its calls, and
the bytes that each side has read and the traffic in the end meet {lit}`Q`. -/
def Completes (y : UInt32) :
    Traffic → List ConnectionEvent → ((Side → List UInt8) → Traffic → Prop) → Prop
  | t, [], Q => Q (fun _ => []) t
  | t, e :: es, Q => ∃ s', TcpSession.step (t.session e.side) e.event = some s' ∧
      EndsIn (DeliveryDrawing y) (fun t₁ => t₁.Quiet ∧ Completes y t₁ es fun heard t₂ =>
        Q (hear e.side ((t.session e.side).readBy e.event) heard) t₂) (t.afterCall e.side s')

section Scripts

variable {y : UInt32} {t : Traffic} {side : Side} {packet : MyuTcpPacket} {d : Datagram}
  {s' : TcpSession} {P : Traffic → Prop}

/-- The caller has taken its step. -/
@[simp]
theorem session_afterCall (t : Traffic) (side : Side) (s' : TcpSession) :
    (t.afterCall side s').session side = s' :=
  Connection.session_update_self _ _ _

/-- The other side has not. -/
@[simp]
theorem session_afterCall_other (t : Traffic) (side : Side) (s' : TcpSession) :
    (t.afterCall side s').session side.other = t.session side.other :=
  Connection.session_update_other _ _ _

/-- What is on its way to the caller is the same. -/
@[simp]
theorem towards_afterCall (t : Traffic) (side : Side) (s' : TcpSession) :
    (t.afterCall side s').towards side = t.towards side :=
  if_pos rfl

/-- What the caller sends is on its way to the other side. -/
@[simp]
theorem towards_afterCall_other (t : Traffic) (side : Side) (s' : TcpSession) :
    (t.afterCall side s').towards side.other =
      t.towards side.other + newPackets (t.session side) s' :=
  if_neg (Side.other_ne side)

/-- A step that sends one datagram. -/
theorem newPackets_of_append {s s' : TcpSession} {d : Datagram} (h : s'.sent = s.sent ++ [d]) :
    newPackets s s' = [d.packet] := by
  rw [newPackets, newDatagrams_of_append h]
  rfl

/-- A step that sends nothing. -/
theorem newPackets_of_eq {s s' : TcpSession} (h : s'.sent = s.sent) : newPackets s s' = [] := by
  rw [newPackets, newDatagrams, h, List.drop_length]
  rfl

/-- With nothing on its way to either side the network is quiet. -/
theorem quiet_of_sides (side : Side) (hside : t.towards side = 0)
    (hother : t.towards side.other = 0) : t.Quiet := by
  intro i
  rcases Side.eq_or_eq_other side i with rfl | rfl
  · exact hside
  · exact hother

/-- One packet on its way to one side. -/
theorem Lone.of_sides (hside : t.towards side = 0) (hother : t.towards side.other = [packet]) :
    Lone side.other packet t := by
  refine ⟨hother, ?_⟩
  rw [Side.other_other]
  exact hside

/-- What a call sends is the only packet on its way. -/
theorem Quiet.call (h : t.Quiet) (hsent : s'.sent = (t.session side).sent ++ [d]) :
    Lone side.other d.packet (t.afterCall side s') := by
  refine .of_sides ?_ ?_
  · rw [towards_afterCall, h]
  · rw [towards_afterCall_other, h, zero_add, newPackets_of_append hsent]

/-- A call that sends nothing leaves the network quiet. -/
theorem Quiet.silentCall (h : t.Quiet) (hsent : s'.sent = (t.session side).sent) :
    (t.afterCall side s').Quiet := by
  refine quiet_of_sides side ?_ ?_
  · rw [towards_afterCall, h]
  · rw [towards_afterCall_other, h, zero_add, newPackets_of_eq hsent]
    rfl

/-- A quiet network delivers nothing. -/
theorem Quiet.endsIn (h : t.Quiet) (ht : P t) : EndsIn (DeliveryDrawing y) P t := by
  refine .stop ?_ ht
  intro t' hdelivery
  cases hdelivery with
  | mk hmem hstep =>
      rw [h] at hmem
      exact absurd hmem (Multiset.notMem_zero _)

/-- The only packet on its way is delivered. -/
theorem Lone.endsIn (h : Lone side packet t)
    (hstep : TcpSession.step (t.session side) (.input packet y) = some s')
    (hnext : EndsIn (DeliveryDrawing y) P (t.afterDelivery side packet s')) :
    EndsIn (DeliveryDrawing y) P t := by
  have hmem : packet ∈ t.towards side := by
    rw [h.only]
    exact Multiset.mem_singleton_self packet
  refine .step (.mk t hmem hstep) ?_
  intro t' hdelivery
  cases hdelivery with
  | @mk i p s'' hmem' hstep' =>
      rcases Side.eq_or_eq_other side i with rfl | rfl
      · rw [h.only, Multiset.mem_singleton] at hmem'
        subst hmem'
        rw [hstep, Option.some.injEq] at hstep'
        rwa [← hstep']
      · rw [h.silent] at hmem'
        exact absurd hmem' (Multiset.notMem_zero _)

/-- The receiver of the only packet answers it. -/
theorem Lone.answered (h : Lone side packet t)
    (hstep : TcpSession.step (t.session side) (.input packet y) = some s')
    (hsent : s'.sent = (t.session side).sent ++ [d])
    (hnext : ∀ t', t'.session side = s' → t'.session side.other = t.session side.other →
      Lone side.other d.packet t' → EndsIn (DeliveryDrawing y) P t') :
    EndsIn (DeliveryDrawing y) P t := by
  refine h.endsIn hstep (hnext _ ?_ ?_ (.of_sides ?_ ?_))
  · exact session_afterDelivery _ _ _ _
  · exact session_afterDelivery_other _ _ _ _
  · rw [towards_afterDelivery, h.only, Multiset.erase_singleton]
  · rw [towards_afterDelivery_other, h.silent, zero_add, newPackets_of_append hsent]

/-- The receiver of the only packet keeps quiet. -/
theorem Lone.absorbed (h : Lone side packet t)
    (hstep : TcpSession.step (t.session side) (.input packet y) = some s')
    (hsent : s'.sent = (t.session side).sent)
    (hnext : ∀ t', t'.session side = s' → t'.session side.other = t.session side.other →
      t'.Quiet → P t') : EndsIn (DeliveryDrawing y) P t := by
  have hquiet : (t.afterDelivery side packet s').Quiet := by
    refine quiet_of_sides side ?_ ?_
    · rw [towards_afterDelivery, h.only, Multiset.erase_singleton]
    · rw [towards_afterDelivery_other, h.silent, zero_add, newPackets_of_eq hsent]
      rfl
  refine h.endsIn hstep (hquiet.endsIn (hnext _ ?_ ?_ hquiet))
  · exact session_afterDelivery _ _ _ _
  · exact session_afterDelivery_other _ _ _ _

/-- Reading nothing adds nothing. -/
@[simp]
theorem hear_nil (side : Side) (heard : Side → List UInt8) : hear side [] heard = heard :=
  Function.update_eq_self side heard

/-- What is read is added. -/
theorem hear_self (side : Side) (read : List UInt8) (heard : Side → List UInt8) :
    hear side read heard side = read ++ heard side :=
  Function.update_self side _ heard

/-- The other side has heard what it had. -/
theorem hear_other (side : Side) (read : List UInt8) (heard : Side → List UInt8) :
    hear side.other read heard side = heard side :=
  Function.update_of_ne (Side.other_ne side).symm _ heard

variable {es : List ConnectionEvent} {Q R : (Side → List UInt8) → Traffic → Prop}

/-- The first call of a script. -/
theorem completes_cons {e : ConnectionEvent}
    (hstep : TcpSession.step (t.session e.side) e.event = some s')
    (hends : EndsIn (DeliveryDrawing y) P (t.afterCall e.side s'))
    (hrest : ∀ t₁, P t₁ → t₁.Quiet ∧ Completes y t₁ es fun heard t₂ =>
      Q (hear e.side ((t.session e.side).readBy e.event) heard) t₂) : Completes y t (e :: es) Q :=
  ⟨s', hstep, hends.mono hrest⟩

/-- The rule of consequence. -/
theorem Completes.mono (h : Completes y t es Q) (hle : ∀ heard t', Q heard t' → R heard t') :
    Completes y t es R := by
  induction es generalizing t Q R with
  | nil => exact hle _ _ h
  | cons e es ih =>
      rcases h with ⟨s', hstep, hends⟩
      refine completes_cons hstep hends ?_
      rintro t₁ ⟨hquiet, hrest⟩
      exact ⟨hquiet, ih hrest fun heard t₂ => hle _ _⟩

end Scripts

/-! ## Data -/

/-- Both sides are established with nothing on its way and nothing unacknowledged.  The other side
has bytes to read. -/
structure Synced (side : Side) (own peer : UInt32) (waiting : List UInt8) (t : Traffic) :
    Prop where
  quiet : t.Quiet
  sender : Transferring own peer [] (t.session side)
  receiver : Transferring peer own [] (t.session side.other)
  empty : (t.session side).recvBuffer.toList = []
  buffered : (t.session side.other).recvBuffer.toList = waiting

/-- The unacknowledged bytes of the sender follow those that wait for the receiver. -/
structure Sending (side : Side) (own peer : UInt32) (rest waiting : List UInt8)
    (m : TimerManager RetransmitClosure) (t : Traffic) : Prop where
  sender : Transferring own peer rest (t.session side)
  unacked : rest ≠ []
  empty : (t.session side).recvBuffer.toList = []
  buffered : (t.session side.other).recvBuffer.toList = waiting
  timers : (t.session side.other).timerManager = m

/-- A segment is on its way, with all that is in flight. -/
structure Underway (side : Side) (own peer : UInt32) (rest waiting : List UInt8)
    (m : TimerManager RetransmitClosure) (t : Traffic) : Prop
    extends Sending side own peer rest waiting m t where
  receiver : Transferring peer own [] (t.session side.other)
  fits : waiting.length + rest.length ≤ 1024
  segment : ∃ packet, Lone side.other packet t ∧
    IsDataSegment own peer ((t.session side).flight rest) packet

/-- The segment has been taken, and its acknowledgment is on its way. -/
structure Answered (side : Side) (own peer : UInt32) (rest waiting : List UInt8)
    (m : TimerManager RetransmitClosure) (t : Traffic) : Prop
    extends Sending side own peer rest (waiting ++ (t.session side).flight rest) m t where
  receiver : Transferring peer (own + UInt32.ofNat ((t.session side).flight rest).length) []
    (t.session side.other)
  fits : waiting.length + rest.length ≤ 1024
  ack : ∃ packet, Lone side packet t ∧
    IsPlainAck (own + UInt32.ofNat ((t.session side).flight rest).length) packet

section Data

variable {y own peer : UInt32} {side : Side} {rest waiting data : List UInt8}
  {m : TimerManager RetransmitClosure} {t : Traffic} {P : Traffic → Prop}

/-- The bytes in flight and those behind them. -/
theorem flight_append_drop (rest : List UInt8) (s : TcpSession) :
    s.flight rest ++ rest.drop (s.flight rest).length = rest := by
  rw [length_flight]
  rcases Nat.le_total s.sendWindow.sendWindowSize.toNat rest.length with hle | hle
  · rw [Nat.min_eq_left hle]
    exact List.take_append_drop _ _
  · rw [Nat.min_eq_right hle, List.drop_length, List.append_nil]
    exact List.take_of_length_le hle

/-- A flight is at most all there is to say. -/
theorem length_flight_le (rest : List UInt8) (s : TcpSession) :
    (s.flight rest).length ≤ rest.length := by
  rw [length_flight]
  exact Nat.min_le_right _ _

/-- The segment arrives. -/
theorem Underway.deliver (h : Underway side own peer rest waiting m t)
    (hnext : ∀ t', Answered side own peer rest waiting m t' → t'.session side = t.session side →
      EndsIn (DeliveryDrawing y) P t') : EndsIn (DeliveryDrawing y) P t := by
  rcases h.segment with ⟨packet, hlone, hsegment⟩
  have hsize : (t.session side.other).recvBuffer.size = waiting.length := by
    rw [← RingQueue.length_toList, h.buffered]
  have hfits := h.fits
  have hle := length_flight_le rest (t.session side)
  rcases h.receiver.receive (h.sender.flight_ne_nil h.unacked) (by omega) hsegment y with
    ⟨s', hs', hreceiver, hbuffer, htimers, u, hsent⟩
  refine hlone.answered hs' hsent fun t' hother hside hlone' => ?_
  rw [Side.other_other] at hside hlone'
  refine hnext t' ⟨⟨?_, h.unacked, ?_, ?_, ?_⟩, ?_, hfits, ?_⟩ hside
  · rw [hside]
    exact h.sender
  · rw [hside]
    exact h.empty
  · rw [hother, hside, hbuffer, h.buffered]
  · rw [hother, htimers, h.timers]
  · rw [hother, hside]
    exact hreceiver
  · rw [hside]
    exact ⟨_, hlone', (isDataSegment_datagram u _ (Nat.zero_le _)).isPlainAck⟩

/-- The acknowledgment arrives. -/
theorem Answered.deliver (h : Answered side own peer rest waiting m t)
    (hroom : own.toNat + rest.length + 16 < 2 ^ 32) {n : Nat}
    (hn : ((t.session side).flight rest).length = n)
    (hdone : ∀ t', rest.drop n = [] →
      Synced side (own + UInt32.ofNat n) peer (waiting ++ rest) t' →
      (t'.session side.other).timerManager = m → P t')
    (hgo : ∀ t', Underway side (own + UInt32.ofNat n) peer (rest.drop n)
      (waiting ++ (t.session side).flight rest) m t' → EndsIn (DeliveryDrawing y) P t') :
    EndsIn (DeliveryDrawing y) P t := by
  subst hn
  rcases h.ack with ⟨packet, hlone, hack⟩
  rcases h.sender.acked h.unacked hroom hack y with
    ⟨s', hs', hsender, hempty, u, hnext, hflight, hsent⟩
  have hwhole := flight_append_drop rest (t.session side)
  by_cases hrest : rest.drop ((t.session side).flight rest).length = []
  · rw [if_pos hrest, List.append_nil] at hsent
    rw [hrest] at hsender
    rw [hrest, List.append_nil] at hwhole
    refine hlone.absorbed hs' hsent fun t' hside hother hquiet => ?_
    refine hdone t' hrest ⟨hquiet, ?_, ?_, ?_, ?_⟩ ?_
    · rw [hside]
      exact hsender
    · rw [hother]
      exact h.receiver
    · rw [hside, hempty]
      exact h.empty
    · rw [hother, h.buffered, hwhole]
    · rw [hother, h.timers]
  · rw [if_neg hrest] at hsent
    refine hlone.answered hs' hsent fun t' hside hother hlone' => ?_
    have hle := length_flight_le rest (t.session side)
    have hfits := h.fits
    refine hgo t' ⟨⟨?_, hrest, ?_, ?_, ?_⟩, ?_, ?_, ?_⟩
    · rw [hside]
      exact hsender
    · rw [hside, hempty]
      exact h.empty
    · rw [hother, h.buffered]
    · rw [hother, h.timers]
    · rw [hother]
      exact h.receiver
    · rw [List.length_append, List.length_drop]
      omega
    · have hshort :
          (u.flight (rest.drop ((t.session side).flight rest).length)).length ≤ 65515 := by
        have hle' := length_flight_le (rest.drop ((t.session side).flight rest).length) u
        rw [List.length_drop] at hle'
        omega
      rw [hside, ← hflight, ← hnext]
      exact ⟨_, hlone', isDataSegment_datagram u peer hshort⟩

/-- All segments of a {lit}`send()` arrive, and the receiver has all of its bytes. -/
theorem underway_ends (h : Underway side own peer rest waiting m t)
    (hroom : own.toNat + rest.length + 16 < 2 ^ 32) :
    EndsIn (DeliveryDrawing y) (fun t' =>
      Synced side (own + UInt32.ofNat rest.length) peer (waiting ++ rest) t' ∧
        (t'.session side.other).timerManager = m) t := by
  induction hlength : rest.length using Nat.strong_induction_on generalizing own rest waiting t with
  | h n ih =>
      subst hlength
      have hle := length_flight_le rest (t.session side)
      have hpos := List.length_pos_iff.mpr (h.sender.flight_ne_nil h.unacked)
      have hwhole := flight_append_drop rest (t.session side)
      refine h.deliver fun t₁ h₁ hsame => ?_
      refine h₁.deliver hroom (by rw [hsame]) ?_ ?_
      · intro t₂ hrest h₂ htimers
        rw [List.drop_eq_nil_iff] at hrest
        rw [show rest.length = ((t.session side).flight rest).length by omega]
        exact ⟨h₂, htimers⟩
      · intro t₂ h₂
        have hown : (own + UInt32.ofNat ((t.session side).flight rest).length).toNat =
            own.toNat + ((t.session side).flight rest).length := by
          rw [UInt32.toNat_add, UInt32.toNat_ofNat']
          omega
        have hends := ih _ (by rw [List.length_drop]; omega) h₂
          (by rw [hown, List.length_drop]; omega) rfl
        rw [hsame, List.append_assoc, hwhole, UInt32.add_assoc, ← UInt32.ofNat_add,
          List.length_drop, Nat.add_sub_cancel' hle] at hends
        exact hends

/-- What {lit}`send()` takes over arrives where the other application can read it. -/
theorem Synced.send (h : Synced side own peer [] t)
    (hroom : own.toNat + (data.take 1024).length + 16 < 2 ^ 32) :
    ∃ s', TcpSession.step (t.session side) (.send data) = some s' ∧
      EndsIn (DeliveryDrawing y) (fun t' =>
        Synced side (own + UInt32.ofNat (data.take 1024).length) peer (data.take 1024) t' ∧
          (t'.session side.other).timerManager = (t.session side.other).timerManager)
        (t.afterCall side s') := by
  by_cases hdata : data = []
  · have hstep : TcpSession.step (t.session side) (.send data) = some (t.session side) := by
      rw [hdata]
      rfl
    have hquiet : (t.afterCall side (t.session side)).Quiet := h.quiet.silentCall rfl
    refine ⟨_, hstep, hquiet.endsIn ⟨⟨hquiet, ?_, ?_, ?_, ?_⟩, ?_⟩⟩
    · rw [session_afterCall, hdata]
      exact (UInt32.add_zero own).symm ▸ h.sender
    · rw [session_afterCall_other, hdata]
      exact (UInt32.add_zero own).symm ▸ h.receiver
    · rw [session_afterCall]
      exact h.empty
    · rw [session_afterCall_other, hdata]
      exact h.buffered
    · rw [session_afterCall_other]
  · rcases h.sender.send hdata with ⟨s', hs', hsender, hempty, u, hnext, hsent, hflight⟩
    have hsome : data.take 1024 ≠ [] := by
      rw [Ne, List.take_eq_nil_iff]
      simpa using hdata
    have hfits : (data.take 1024).length ≤ 1024 := List.length_take_le _ _
    have hle := length_flight_le (data.take 1024) u
    have hunderway : Underway side own peer (data.take 1024) []
        (t.session side.other).timerManager (t.afterCall side s') := by
      refine ⟨⟨?_, hsome, ?_, ?_, ?_⟩, ?_, ?_, ?_⟩
      · rw [session_afterCall]
        exact hsender
      · rw [session_afterCall, hempty]
        exact h.empty
      · rw [session_afterCall_other]
        exact h.buffered
      · rw [session_afterCall_other]
      · rw [session_afterCall_other]
        exact h.receiver
      · simp
      · rw [session_afterCall, ← hflight, ← hnext]
        exact ⟨_, h.quiet.call hsent, isDataSegment_datagram u peer (by omega)⟩
    exact ⟨s', hs', underway_ends hunderway hroom⟩

/-- The other application reads what waits for it. -/
theorem Synced.readAll (h : Synced side own peer waiting t) :
    ∃ s', TcpSession.step (t.session side.other) .readAll = some s' ∧
      (t.session side.other).readBy .readAll = waiting ∧
      EndsIn (DeliveryDrawing y) (fun t' => Synced side own peer [] t' ∧
        (t'.session side.other).timerManager = (t.session side.other).timerManager)
        (t.afterCall side.other s') := by
  rcases h.receiver.readAll with ⟨s', hs', hreceiver, hread, hempty, htimers, hsent⟩
  have hquiet : (t.afterCall side.other s').Quiet := h.quiet.silentCall hsent
  have hsender : (t.afterCall side.other s').session side = t.session side := by
    have hother := session_afterCall_other t side.other s'
    rwa [Side.other_other] at hother
  refine ⟨s', hs', hread.trans h.buffered, hquiet.endsIn ⟨⟨hquiet, ?_, ?_, ?_, ?_⟩, ?_⟩⟩
  · rw [hsender]
    exact h.sender
  · rw [session_afterCall]
    exact hreceiver
  · rw [hsender]
    exact h.empty
  · rw [session_afterCall]
    exact hempty
  · rw [session_afterCall]
    exact htimers

end Data

/-! ## Turns -/

/-- Either side may speak next. -/
def Settled (next : Side → UInt32) (t : Traffic) : Prop :=
  ∀ side, Synced side (next side) (next side.other) [] t

/-- The calls of a turn: one application sends, the other one reads. -/
def turnCalls (turn : Side × List UInt8) : List ConnectionEvent :=
  [⟨turn.1, .send turn.2⟩, ⟨turn.1.other, .readAll⟩]

/-- What a side says in its turns.  One call takes over 1024 bytes at most. -/
def said (side : Side) : List (Side × List UInt8) → List UInt8
  | [] => []
  | turn :: turns =>
      if turn.1 = side then turn.2.take 1024 ++ said side turns else said side turns

section Turns

variable {y own peer : UInt32} {side : Side} {next : Side → UInt32} {t : Traffic}
  {es : List ConnectionEvent} {Q : (Side → List UInt8) → Traffic → Prop}

/-- With nothing left to say the sides may change places. -/
theorem Synced.symm (h : Synced side own peer [] t) : Synced side.other peer own [] t where
  quiet := h.quiet
  sender := h.receiver
  receiver := by
    rw [Side.other_other]
    exact h.sender
  empty := h.buffered
  buffered := by
    rw [Side.other_other]
    exact h.empty

/-- With nothing left to say the connection is settled. -/
theorem Synced.settled_update {n : UInt32} (h : Synced side n (next side.other) [] t) :
    Settled (Function.update next side n) t := by
  intro i
  rcases Side.eq_or_eq_other side i with rfl | rfl
  · rw [Function.update_self, Function.update_of_ne (Side.other_ne _)]
    exact h
  · rw [Side.other_other, Function.update_self, Function.update_of_ne (Side.other_ne _)]
    exact h.symm

/-- The speaker of a turn says its data. -/
theorem said_self (side : Side) (data : List UInt8) (turns : List (Side × List UInt8)) :
    said side ((side, data) :: turns) = data.take 1024 ++ said side turns :=
  if_pos rfl

/-- The other side says nothing in it. -/
theorem said_other (side : Side) (data : List UInt8) (turns : List (Side × List UInt8)) :
    said side.other ((side, data) :: turns) = said side.other turns :=
  if_neg (Side.other_ne side).symm

/-- A turn, and what follows it. -/
theorem Settled.turn (h : Settled next t) (side : Side) (data : List UInt8)
    (hroom : (next side).toNat + (data.take 1024).length + 16 < 2 ^ 32)
    (hrest : ∀ t', Settled
        (Function.update next side (next side + UInt32.ofNat (data.take 1024).length)) t' →
      (t'.session side.other).timerManager = (t.session side.other).timerManager →
      Completes y t' es fun heard t₂ => Q (hear side.other (data.take 1024) heard) t₂) :
    Completes y t (turnCalls (side, data) ++ es) Q := by
  rcases (h side).send (y := y) hroom with ⟨s', hs', hsent⟩
  refine completes_cons (e := ⟨side, .send data⟩) hs' hsent ?_
  rintro t₁ ⟨h₁, htimers₁⟩
  refine ⟨h₁.quiet, ?_⟩
  rcases h₁.readAll (y := y) with ⟨s'', hs'', hread, hends⟩
  refine completes_cons (e := ⟨side.other, .readAll⟩) hs'' hends ?_
  rintro t₂ ⟨h₂, htimers₂⟩
  refine ⟨h₂.quiet, ?_⟩
  have hsettled : Settled
      (Function.update next side (next side + UInt32.ofNat (data.take 1024).length)) t₂ :=
    h₂.settled_update
  refine (hrest t₂ hsettled (htimers₂.trans htimers₁)).mono fun heard t₃ hQ => ?_
  rw [hread]
  exact (hear_nil side _).symm ▸ hQ

/-- All turns. -/
theorem Settled.turns (h : Settled next t) {turns : List (Side × List UInt8)}
    (hroom : ∀ i, (next i).toNat + (said i turns).length + 16 < 2 ^ 32)
    (hrest : ∀ t' next', Settled next' t' →
      (∀ i, (∀ turn ∈ turns, turn.1 ≠ i) →
        (t'.session i).timerManager = (t.session i).timerManager) →
      Completes y t' es fun heard t₂ => Q (fun i => said i.other turns ++ heard i) t₂) :
    Completes y t (turns.flatMap turnCalls ++ es) Q := by
  induction turns generalizing next t Q with
  | nil => exact hrest t next h fun _ _ => rfl
  | cons turn turns ih =>
      rcases turn with ⟨side, data⟩
      have hself := hroom side
      have hother := hroom side.other
      rw [said_self, List.length_append] at hself
      rw [said_other] at hother
      rw [List.flatMap_cons, List.append_assoc]
      refine h.turn side data (by omega) fun t₁ h₁ htimers₁ => ih h₁ ?_ ?_
      · intro i
        rcases Side.eq_or_eq_other side i with rfl | rfl
        · rw [Function.update_self, UInt32.toNat_add, UInt32.toNat_ofNat']
          omega
        · rw [Function.update_of_ne (Side.other_ne side)]
          exact hother
      · intro t₂ next₂ h₂ htimers₂
        refine (hrest t₂ next₂ h₂ ?_).mono fun heard t₃ hQ => ?_
        · intro i hi
          rw [htimers₂ i fun turn hturn => hi turn (List.mem_cons_of_mem _ hturn)]
          -- the other side is the one that does not speak in the first turn
          rcases Side.eq_or_eq_other side i with rfl | rfl
          · exact absurd rfl (hi _ List.mem_cons_self)
          · exact htimers₁
        · refine Eq.mp (congrArg (Q · t₃) (funext fun i => ?_)) hQ
          rcases Side.eq_or_eq_other side i with rfl | rfl
          · rw [hear_other, said_other]
          · rw [hear_self, Side.other_other, said_self, List.append_assoc]

end Turns

/-! ## Opening -/

/-- Two sessions with nothing on its way between them. -/
def opening (c : Connection) : Traffic where
  connection := c
  towards _ := 0

section Opening

variable {x y ackNum : UInt32} {side : Side} {t : Traffic} {packet : MyuTcpPacket}

end Opening

/-! ## Closing -/

/-- One side closes, the other one finds nothing left to read, and the 2MSL timer ends. -/
def closingCalls (closer : Side) : List ConnectionEvent :=
  [⟨closer, .close⟩, ⟨closer.other, .readAll⟩, ⟨closer, .expire2Msl⟩]

/-- Nothing is on its way and both sessions are closed, the given one without a timer. -/
structure Over (closer : Side) (t : Traffic) : Prop where
  quiet : t.Quiet
  closed : ∀ i, (t.session i).state = .closed
  silent : (t.session closer).Silent

section Closing

variable {y own peer ackNum : UInt32} {side : Side} {next : Side → UInt32} {t : Traffic}
  {packet : MyuTcpPacket}

/-- The first FIN and its acknowledgment. -/
theorem firstFin_ends (side : Side) (hclient : FinSent own peer (t.session side))
    (hserver : Transferring peer own [] (t.session side.other))
    (hread : (t.session side.other).recvBuffer.toList = []) (hlone : Lone side.other packet t)
    (hpacket : IsControl flagFin own ackNum packet) :
    EndsIn (DeliveryDrawing y) (fun t' => t'.Quiet ∧ FinAcked peer (t'.session side) ∧
      FinTaken peer (own + 1) (t'.session side.other) ∧
      (t'.session side.other).timerManager = (t.session side.other).timerManager) t := by
  rcases hserver.receiveFin hread hpacket y with ⟨s₁, hs₁, hserver₁, htimers₁, u₁, hsent₁⟩
  refine hlone.answered hs₁ hsent₁ fun t₁ hother₁ hside₁ hlone₁ => ?_
  rw [Side.other_other] at hside₁ hlone₁
  have hpacket₁ := isControl_datagram u₁ (own + 1) (Or.inr (Or.inr (Or.inl rfl)))
  rw [← hside₁] at hclient
  rcases hclient.receiveAck hpacket₁ y with ⟨s₂, hs₂, hclient₂, hsent₂⟩
  refine hlone₁.absorbed hs₂ hsent₂ fun t₂ hside₂ hother₂ hquiet₂ => ?_
  rw [hside₂, hother₂, hother₁]
  exact ⟨hquiet₂, hclient₂, hserver₁, htimers₁⟩

/-- The second FIN and its acknowledgment. -/
theorem secondFin_ends (side : Side) (hclient : FinAcked peer (t.session side))
    (hserver : LastAck peer (t.session side.other)) (hlone : Lone side packet t)
    (hpacket : IsControl (flagFin ||| flagAck) peer ackNum packet) :
    EndsIn (DeliveryDrawing y) (fun t' => t'.Quiet ∧ TimeWait (t'.session side) ∧
      (t'.session side.other).state = .closed ∧
      (ArmedOnly peer (t.session side.other) → (t'.session side.other).Silent)) t := by
  rcases hclient.receiveFin hpacket y with ⟨s₁, hs₁, hclient₁, u₁, hsent₁⟩
  refine hlone.answered hs₁ hsent₁ fun t₁ hside₁ hother₁ hlone₁ => ?_
  have hpacket₁ := isControl_datagram u₁ (peer + 1) (Or.inr (Or.inr (Or.inl rfl)))
  rw [← hother₁] at hserver ⊢
  rcases hserver.receiveAck hpacket₁ y with ⟨s₂, hs₂, hclosed₂, hsilent₂, hsent₂⟩
  refine hlone₁.absorbed hs₂ hsent₂ fun t₂ hother₂ hside₂ hquiet₂ => ?_
  rw [Side.other_other, hside₁] at hside₂
  rw [hside₂, hother₂]
  exact ⟨hquiet₂, hclient₁, hclosed₂, hsilent₂⟩

/-- The calls of the close. -/
theorem Settled.closes (h : Settled next t) (closer : Side) :
    Completes y t (closingCalls closer) fun heard t' => heard = (fun _ => []) ∧ Over closer t' ∧
      ((t.session closer.other).Silent → (t'.session closer.other).Silent) := by
  have hsynced := h closer
  rcases hsynced.sender.close with ⟨s₁, hs₁, hclient₁, u₁, hseq₁, hsent₁⟩
  have hpacket₁ : IsControl flagFin (next closer) (next closer.other)
      (u₁.datagram flagFin (next closer.other) []).packet :=
    hseq₁ ▸ isControl_datagram u₁ _ (Or.inr (Or.inr (Or.inr (Or.inl rfl))))
  have hfirst := firstFin_ends closer (y := y) (t := t.afterCall closer s₁)
    (by rw [session_afterCall]; exact hclient₁)
    (by rw [session_afterCall_other]; exact hsynced.receiver)
    (by rw [session_afterCall_other]; exact hsynced.buffered)
    (hsynced.quiet.call hsent₁) hpacket₁
  refine completes_cons (e := ⟨closer, .close⟩) hs₁ hfirst ?_
  rintro t₁ ⟨hquiet₁, hclient₂, hserver₂, htimers₁⟩
  refine ⟨hquiet₁, ?_⟩
  rw [session_afterCall_other] at htimers₁
  rcases hserver₂.readAll with ⟨s₂, hs₂, hread, hserver₃, harmed₂, u₂, hseq₂, hsent₂⟩
  have hpacket₂ : IsControl (flagFin ||| flagAck) (next closer.other) (next closer + 1)
      (u₂.datagram (flagFin ||| flagAck) (next closer + 1) []).packet :=
    hseq₂ ▸ isControl_datagram u₂ _ (Or.inr (Or.inr (Or.inr (Or.inr rfl))))
  have hlone₂ := hquiet₁.call hsent₂
  have hkept : (t₁.afterCall closer.other s₂).session closer = t₁.session closer := by
    have hother := session_afterCall_other t₁ closer.other s₂
    rwa [Side.other_other] at hother
  rw [Side.other_other] at hlone₂
  have hsecond := secondFin_ends closer (y := y) (t := t₁.afterCall closer.other s₂)
    (by rw [hkept]; exact hclient₂) (by rw [session_afterCall]; exact hserver₃) hlone₂ hpacket₂
  refine completes_cons (e := ⟨closer.other, .readAll⟩) hs₂ hsecond ?_
  rintro t₂ ⟨hquiet₂, hclient₄, hclosed₂, hsilent₂⟩
  refine ⟨hquiet₂, ?_⟩
  rw [session_afterCall] at hsilent₂
  rcases hclient₄.expire with ⟨s₃, hs₃, hclosed₃, hsilent₃, hsent₃⟩
  have hquiet₃ : (t₂.afterCall closer s₃).Quiet := hquiet₂.silentCall hsent₃
  refine completes_cons (e := ⟨closer, .expire2Msl⟩) hs₃
    (hquiet₃.endsIn (P := fun t' => t' = t₂.afterCall closer s₃) rfl) ?_
  rintro t₃ rfl
  refine ⟨hquiet₃, ?_, ⟨hquiet₃, fun i => ?_, ?_⟩, fun hsilent => ?_⟩
  · change hear closer [] (hear closer.other (t₁.session closer.other).readAll.1
      (hear closer [] fun _ => [])) = fun _ => []
    rw [hread, hear_nil, hear_nil, hear_nil]
  · rcases Side.eq_or_eq_other closer i with rfl | rfl
    · rw [session_afterCall]
      exact hclosed₃
    · rw [session_afterCall_other]
      exact hclosed₂
  · rw [session_afterCall]
    exact hsilent₃
  · rw [session_afterCall_other]
    exact hsilent₂ (harmed₂ (hsilent.of_eq htimers₁))

end Closing

/-! ## The whole script -/

end Traffic

end MyuTcp
