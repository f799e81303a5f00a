import MyuTcp.Core.Connection
import MyuTcp.Core.Stack
import MyuTcp.Library.Termination

/-!
# Resets between two stacks

Two listening stacks without a session for each other, and the datagrams between them.  A stack
answers every packet from an address that it does not know with a reset, a SYN apart, and does
not look whether the packet is a reset itself.

Main results:

- Theorem {lit}`receive_unknown`: the answer of a stack to a datagram.
- Theorem {lit}`resets_end_iff`: the deliveries end, and no reset is answered, exactly when no
  datagram on its way is long enough to be parsed.
-/

namespace MyuTcp

open Library

/-- Two stacks, their addresses, and the datagrams on their way to each. -/
structure Exchange where
  stack : Side → TcpStack
  address : Side → Address
  towards : Side → Multiset (List UInt8)

namespace Exchange

/-- The datagrams that the stack of a side has sent to the other one with a step. -/
def answers (t : Exchange) (side : Side) (st' : TcpStack) : List (List UInt8) :=
  ((st'.sent.drop (t.stack side).sent.length).filter fun d =>
    d.destIp = (t.address side.other).ip ∧ d.destPort = (t.address side.other).port).map
      fun d => UdpDriver.sendPacket d.packet

/-- The exchange after a datagram has taken the stack of a side to {lit}`st'`. -/
def afterDelivery (t : Exchange) (side : Side) (bytes : List UInt8) (st' : TcpStack) :
    Exchange where
  stack := Function.update t.stack side st'
  address := t.address
  towards i :=
    if i = side then (t.towards i).erase bytes else t.towards i + t.answers side st'

/-- One delivery. -/
inductive Delivery : Exchange → Exchange → Prop
  | mk (t : Exchange) {side : Side} {bytes : List UInt8} {seeds : SessionSeeds} {iss : UInt32}
      {st' : TcpStack} (hmem : bytes ∈ t.towards side)
      (hreceive : (t.stack side).receive (t.address side.other) bytes seeds iss = some st') :
      Delivery t (t.afterDelivery side bytes st')

/-- Both stacks listen and have no session for each other, and no datagram is a packet with SYN
alone. -/
structure Strangers (t : Exchange) : Prop where
  listening : ∀ side, (t.stack side).onReceive = .stack
  unknown : ∀ side, (t.stack side).tcpSessions.find? (t.address side.other) = none
  noSyn : ∀ side, ∀ bytes ∈ t.towards side, ∀ packet,
    UdpDriver.onUvRecv bytes = some packet → packet.header.flags ≠ flagSyn

/-- No datagram on its way is long enough to hold a header. -/
def Unparsed (t : Exchange) : Prop :=
  ∀ side, ∀ bytes ∈ t.towards side, UdpDriver.onUvRecv bytes = none

section Delivery

variable {t t' : Exchange} {side : Side} {bytes : List UInt8} {seeds : SessionSeeds}
  {iss : UInt32}

/-- The reset that the stack of a side sends to the other one. -/
def resetTo (t : Exchange) (side : Side) : Datagram where
  packet := TcpStack.resetPacket
  destIp := (t.address side).ip
  destPort := (t.address side).port

/-- The stack after the answer to a datagram. -/
def answered (t : Exchange) (side : Side) (bytes : List UInt8) : TcpStack :=
  if (UdpDriver.onUvRecv bytes).isSome then
    { t.stack side with sent := (t.stack side).sent ++ [t.resetTo side.other] }
  else t.stack side

/-- A stack answers every packet of a stranger with a reset. -/
theorem receive_unknown (h : Strangers t) (hmem : bytes ∈ t.towards side) (seeds : SessionSeeds)
    (iss : UInt32) :
    (t.stack side).receive (t.address side.other) bytes seeds iss =
      some (t.answered side bytes) := by
  cases hparse : UdpDriver.onUvRecv bytes with
  | none => rw [TcpStack.receive, answered, hparse]; rfl
  | some packet =>
      have hroute : (t.stack side).route (t.address side.other) packet = .reset := by
        rw [TcpStack.route, h.listening side]
        dsimp only
        rw [h.unknown side, if_neg (by simp), if_neg (h.noSyn side bytes hmem packet hparse)]
      rw [TcpStack.receive_of_parse hparse, hroute, answered, hparse]
      rfl

theorem answers_answered (t : Exchange) (side : Side) (bytes : List UInt8) :
    t.answers side (t.answered side bytes) =
      if (UdpDriver.onUvRecv bytes).isSome then [UdpDriver.sendPacket TcpStack.resetPacket]
      else [] := by
  unfold answers answered
  split
  · rw [List.drop_left]
    simp [resetTo]
  · rw [List.drop_length]
    rfl

@[simp]
theorem onUvRecv_reset :
    UdpDriver.onUvRecv (UdpDriver.sendPacket TcpStack.resetPacket) = some TcpStack.resetPacket :=
  UdpDriver.onUvRecv_sendPacket _

/-- A delivery between strangers. -/
theorem delivery_cases (h : Strangers t) (hdelivery : Delivery t t') :
    ∃ side, ∃ bytes ∈ t.towards side,
      t' = t.afterDelivery side bytes (t.answered side bytes) := by
  cases hdelivery with
  | @mk side bytes seeds iss st' hmem hreceive =>
      rw [receive_unknown h hmem, Option.some.injEq] at hreceive
      exact ⟨side, bytes, hmem, by rw [hreceive]⟩

/-- What is on its way after a delivery was on its way before, or is a reset. -/
theorem mem_afterDelivery {i : Side} {answer : List UInt8}
    (hmem : answer ∈ (t.afterDelivery side bytes (t.answered side bytes)).towards i) :
    answer ∈ t.towards i ∨ ((UdpDriver.onUvRecv bytes).isSome = true ∧
      answer = UdpDriver.sendPacket TcpStack.resetPacket) := by
  change answer ∈ ite _ _ _ at hmem
  split at hmem
  · exact Or.inl (Multiset.mem_of_mem_erase hmem)
  · rw [answers_answered, Multiset.mem_add] at hmem
    rcases hmem with hold | hnew
    · exact Or.inl hold
    · split at hnew <;> rename_i hparse
      · exact Or.inr ⟨hparse, by simpa using hnew⟩
      · simp at hnew

/-- Strangers stay strangers. -/
theorem Strangers.delivery (h : Strangers t) (hdelivery : Delivery t t') : Strangers t' := by
  rcases delivery_cases h hdelivery with ⟨side, bytes, hmem, rfl⟩
  have hstack : ∀ i, (t.afterDelivery side bytes (t.answered side bytes)).stack i = t.stack i ∨
      (i = side ∧ (t.afterDelivery side bytes (t.answered side bytes)).stack i =
        t.answered side bytes) := by
    intro i
    by_cases hi : i = side
    · rw [hi]
      exact Or.inr ⟨rfl, Function.update_self _ _ _⟩
    · exact Or.inl (Function.update_of_ne hi _ _)
  have hkept : (t.answered side bytes).onReceive = (t.stack side).onReceive ∧
      (t.answered side bytes).tcpSessions = (t.stack side).tcpSessions := by
    unfold answered
    split <;> exact ⟨rfl, rfl⟩
  constructor
  · intro i
    rcases hstack i with hsame | ⟨rfl, hanswered⟩
    · rw [hsame]
      exact h.listening i
    · rw [hanswered, hkept.1]
      exact h.listening i
  · intro i
    rcases hstack i with hsame | ⟨rfl, hanswered⟩
    · rw [hsame]
      exact h.unknown i
    · rw [hanswered, hkept.2]
      exact h.unknown i
  · intro i answer hanswer packet hparse
    rcases mem_afterDelivery hanswer with hold | ⟨-, rfl⟩
    · exact h.noSyn i answer hold packet hparse
    · rw [onUvRecv_reset, Option.some.injEq] at hparse
      rw [← hparse]
      decide

theorem Unparsed.delivery (h : Unparsed t) (hstrangers : Strangers t)
    (hdelivery : Delivery t t') : Unparsed t' := by
  rcases delivery_cases hstrangers hdelivery with ⟨side, bytes, hmem, rfl⟩
  intro i answer hanswer
  rcases mem_afterDelivery hanswer with hold | ⟨hparse, -⟩
  · exact h i answer hold
  · rw [h side bytes hmem] at hparse
    contradiction

end Delivery

/-! ## Termination -/

section Termination

variable {t t' : Exchange}

/-- The number of datagrams on their way. -/
def inFlight (t : Exchange) : ℕ := (t.towards .a).card + (t.towards .b).card

/-- A datagram that is too short goes without an answer. -/
theorem Unparsed.inFlight_lt (h : Unparsed t) (hstrangers : Strangers t)
    (hdelivery : Delivery t t') : t'.inFlight < t.inFlight := by
  rcases delivery_cases hstrangers hdelivery with ⟨side, bytes, hmem, rfl⟩
  have hanswers : t.answers side (t.answered side bytes) = [] := by
    rw [answers_answered, h side bytes hmem]
    rfl
  have herased : ((t.towards side).erase bytes).card < (t.towards side).card :=
    Multiset.card_erase_lt_of_mem hmem
  simp only [inFlight, afterDelivery, hanswers, Multiset.coe_nil, add_zero]
  cases side with
  | a =>
      simp only [if_true, reduceCtorEq, if_false]
      omega
  | b =>
      simp only [if_true, reduceCtorEq, if_false]
      omega

theorem Unparsed.steps (h : Unparsed t) (hstrangers : Strangers t)
    (hsteps : Relation.ReflTransGen Delivery t t') : Strangers t' ∧ Unparsed t' := by
  induction hsteps with
  | refl => exact ⟨hstrangers, h⟩
  | tail _ hdelivery ih => exact ⟨ih.1.delivery hdelivery, ih.2.delivery ih.1 hdelivery⟩

/-- Every datagram on its way is delivered in the end. -/
theorem Unparsed.terminates (h : Unparsed t) (hstrangers : Strangers t) :
    Terminates Delivery t := by
  have hdecrease : ∀ u u', ¬ ¬ (Strangers u ∧ Unparsed u) → Delivery u u' →
      u'.inFlight < u.inFlight := by
    intro u u' hgood hdelivery
    rw [not_not] at hgood
    exact hgood.2.inFlight_lt hgood.1 hdelivery
  apply terminates_of_decreasing inFlight hdecrease
  intro u hsteps
  rw [not_not]
  exact h.steps hstrangers hsteps

/-- A datagram that is long enough is on its way to a stack of strangers. -/
def Bouncing (t : Exchange) : Prop :=
  Strangers t ∧ ∃ side, ∃ bytes ∈ t.towards side, (UdpDriver.onUvRecv bytes).isSome

theorem bouncing_of_not_unparsed (hstrangers : Strangers t) (h : ¬ Unparsed t) : Bouncing t := by
  unfold Unparsed at h
  push Not at h
  rcases h with ⟨side, bytes, hmem, hparse⟩
  exact ⟨hstrangers, side, bytes, hmem, Option.isSome_iff_ne_none.mpr hparse⟩

/-- Its delivery puts a reset on its way to the other one. -/
theorem Strangers.answer {side : Side} {bytes : List UInt8} (h : Strangers t)
    (hmem : bytes ∈ t.towards side) (hparse : (UdpDriver.onUvRecv bytes).isSome) :
    Delivery t (t.afterDelivery side bytes (t.answered side bytes)) ∧
      UdpDriver.sendPacket TcpStack.resetPacket ∈
        (t.afterDelivery side bytes (t.answered side bytes)).towards side.other := by
  refine ⟨.mk t hmem (receive_unknown h hmem zeroSeeds 0), ?_⟩
  have hnew : UdpDriver.sendPacket TcpStack.resetPacket ∈
      t.answers side (t.answered side bytes) := by
    rw [answers_answered, if_pos hparse]
    exact List.mem_singleton_self _
  change _ ∈ ite _ _ _
  rw [if_neg side.other_ne, Multiset.mem_add]
  exact Or.inr hnew

/-- An exchange that bounces a datagram bounces the reset that answers it. -/
theorem Bouncing.delivery (h : Bouncing t) : ∃ t', Delivery t t' ∧ Bouncing t' := by
  rcases h with ⟨hstrangers, side, bytes, hmem, hparse⟩
  have hanswer := hstrangers.answer hmem hparse
  have hreset : (UdpDriver.onUvRecv (UdpDriver.sendPacket TcpStack.resetPacket)).isSome := by
    rw [onUvRecv_reset]
    rfl
  exact ⟨_, hanswer.1, hstrangers.delivery hanswer.1, side.other, _, hanswer.2, hreset⟩

/-- No stack answers a packet that carries RST. -/
def ResetsUnanswered (t : Exchange) : Prop :=
  ∀ side, ∀ bytes ∈ t.towards side, ∀ packet, UdpDriver.onUvRecv bytes = some packet →
    packet.has flagRst = true → ∀ seeds iss st',
      (t.stack side).receive (t.address side.other) bytes seeds iss = some st' →
        st'.sent = (t.stack side).sent

/-- The deliveries between strangers come to an end, and no reset is answered on the way,
exactly when no datagram can be parsed. -/
theorem resets_end_iff (h : Strangers t) :
    ((¬ ∃ run : ℕ → Exchange, run 0 = t ∧ ∀ n, Delivery (run n) (run (n + 1))) ∧
        ∀ u, Relation.ReflTransGen Delivery t u → ResetsUnanswered u) ↔
      Unparsed t := by
  constructor
  · rintro ⟨hends, -⟩
    by_contra hparsed
    apply not_terminates_of_bad (fun _ => Bouncing.delivery) _ hends
    exact bouncing_of_not_unparsed h hparsed
  · intro hshort
    refine ⟨hshort.terminates h, ?_⟩
    intro u hsteps side bytes hmem packet hparse
    rw [(hshort.steps h hsteps).2 side bytes hmem] at hparse
    contradiction

/-! ## Two new stacks -/

/-- Two new stacks that listen, and one datagram towards the first one. -/
def listeners (bytes : List UInt8) : Exchange where
  stack _ := { TcpStack.new with onReceive := .stack }
  address
    | .a => clientAddress
    | .b => Address.of "10.0.0.1" 8000
  towards
    | .a => {bytes}
    | .b => 0

theorem strangers_listeners {bytes : List UInt8}
    (h : ∀ packet, UdpDriver.onUvRecv bytes = some packet → packet.header.flags ≠ flagSyn) :
    Strangers (listeners bytes) where
  listening _ := rfl
  unknown _ := rfl
  noSyn side answer hmem packet hparse := by
    cases side with
    | a =>
        have hbytes : answer = bytes := Multiset.mem_singleton.mp hmem
        rw [hbytes] at hparse
        exact h packet hparse
    | b => exact absurd hmem (Multiset.notMem_zero answer)

/-- Two listening stacks and a datagram of three bytes. -/
theorem resets_end_iff_short :
    (¬ ∃ run : ℕ → Exchange, run 0 = listeners [1, 2, 3] ∧
        ∀ n, Delivery (run n) (run (n + 1))) ∧
      ∀ u, Relation.ReflTransGen Delivery (listeners [1, 2, 3]) u → ResetsUnanswered u := by
  have hshort : UdpDriver.onUvRecv [1, 2, 3] = none := rfl
  have hstrangers : Strangers (listeners [1, 2, 3]) := by
    apply strangers_listeners
    intro packet hparse
    rw [hshort] at hparse
    contradiction
  apply (resets_end_iff hstrangers).mpr
  intro side bytes hmem
  cases side with
  | a =>
      rw [Multiset.mem_singleton.mp hmem]
      exact hshort
  | b => exact absurd hmem (Multiset.notMem_zero bytes)

/-- A single reset between two listening stacks goes back and forth for ever. -/
theorem strayReset_bounces :
    Strangers (listeners (UdpDriver.sendPacket TcpStack.resetPacket)) ∧
      (∃ run : ℕ → Exchange, run 0 = listeners (UdpDriver.sendPacket TcpStack.resetPacket) ∧
        ∀ n, Delivery (run n) (run (n + 1))) ∧
      ¬ ResetsUnanswered (listeners (UdpDriver.sendPacket TcpStack.resetPacket)) := by
  have hstrangers : Strangers (listeners (UdpDriver.sendPacket TcpStack.resetPacket)) := by
    apply strangers_listeners
    intro packet hparse
    rw [onUvRecv_reset, Option.some.injEq] at hparse
    rw [← hparse]
    decide
  have hmem : UdpDriver.sendPacket TcpStack.resetPacket ∈
      (listeners (UdpDriver.sendPacket TcpStack.resetPacket)).towards .a :=
    Multiset.mem_singleton_self _
  refine ⟨hstrangers, ?_, ?_⟩
  · by_contra hends
    apply not_terminates_of_bad (fun _ => Bouncing.delivery) _ hends
    exact ⟨hstrangers, .a, _, hmem, by rw [onUvRecv_reset]; rfl⟩
  · intro hsilent
    have hsent := hsilent .a _ hmem _ onUvRecv_reset rfl zeroSeeds 0 _
      (receive_unknown hstrangers hmem zeroSeeds 0)
    rw [answered, onUvRecv_reset] at hsent
    simp at hsent

end Termination

end Exchange

end MyuTcp
