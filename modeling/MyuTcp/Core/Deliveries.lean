import MyuTcp.Core.OneConnection

/-!
# Deliveries

What becomes of the bytes that {lit}`send()` accepts, told from the packets: what the numbers
in flight carry, and what the acknowledgments cover that the session takes over as
{lit}`send_unack_`.  A new connection starts with nothing in flight.

Main results:

- Theorem {lit}`deliveredBy_step`: the accepted bytes are those that have been sent and acknowledged
  and then those in the send buffer, as long as no SYN crosses and no segment is sent twice by a
  fast retransmit.
-/

namespace MyuTcp

open Library

namespace TcpSession

/-! ## What is acknowledged -/

/-- The session takes acknowledgments over: that of its SYN, or those of its data. -/
def TakesAcks (s : TcpSession) : Prop :=
  s.state = .synSent ∨ s.state = .synReceived ∨ s.state = .established

instance (s : TcpSession) : Decidable s.TakesAcks := inferInstanceAs (Decidable (_ ∨ _))

/-- How many numbers an incoming acknowledgment covers that becomes {lit}`send_unack_`. -/
def coveredBy (s : TcpSession) (e : Event) (s' : TcpSession) : Nat :=
  match e with
  | .input packet _ =>
      if s.TakesAcks ∧ packet.has flagAck = true ∧ s'.sendWindow.sendUnack = packet.ack then
        (packet.ack - s.sendWindow.sendUnack).toNat
      else 0
  | _ => 0

/-- The bytes that {lit}`send()` has accepted, and what the numbers carry that have been
acknowledged and that are in flight, the oldest first: a mark for a SYN or FIN, or a byte. -/
structure Deliveries where
  accepted : List UInt8
  acknowledged : List (Option UInt8)
  inFlight : List (Option UInt8)

namespace Deliveries

/-- Nothing has been accepted or sent. -/
def empty : Deliveries where
  accepted := []
  acknowledged := []
  inFlight := []

/-- A step first takes its acknowledgment over, and then sends. -/
def update (s : TcpSession) (e : Event) (s' : TcpSession) (g : Deliveries) : Deliveries :=
  let before := if (s.openingIss e).isSome then [] else g.inFlight
  { accepted := g.accepted ++ s.acceptedBy e
    acknowledged := g.acknowledged ++ before.take (s.coveredBy e s')
    inFlight := before.drop (s.coveredBy e s') ++ s.sentBy e s' }

/-- Every accepted byte has been sent and acknowledged, in order. -/
def Complete (g : Deliveries) : Prop := g.acknowledged.reduceOption = g.accepted

instance (g : Deliveries) : Decidable g.Complete := inferInstanceAs (Decidable (_ = _))

end Deliveries

/-- A third duplicate acknowledgment sends a stored segment again, with new numbers. -/
def ResendsStored (s : TcpSession) : Event → Prop
  | .input packet i => s.AcceptsAckEvent (.input packet i) ∧ s.ThirdDuplicate packet.ack ∧
      (s.inflightPackets.find? packet.ack).isSome = true
  | _ => False

instance (s : TcpSession) : (e : Event) → Decidable (s.ResendsStored e)
  | .input .. => inferInstanceAs (Decidable (_ ∧ _))
  | .setRemoteAddr .. | .setListenerPort .. | .connect .. | .listen | .send .. | .recv ..
  | .readAll | .close | .expire .. | .expire2Msl => isFalse id

/-! ## The send buffer and the numbers in flight -/

/-- What is not acknowledged is in the send buffer.  While the session takes acknowledgments
over, its numbers in flight carry the SYN, or the bytes at the front of the send buffer. -/
structure Delivers (accepted : List UInt8) (acknowledged inFlight : List (Option UInt8))
    (s : TcpSession) : Prop where
  buffer : acknowledged.reduceOption ++ s.sendBuffer.toList = accepted
  opening : s.state = .synSent ∨ s.state = .synReceived →
    inFlight = [none] ∧ s.sendWindow.sendNext = s.sendWindow.sendUnack + 1
  window : s.state = .established →
    inFlight = (s.sendBuffer.toList.take inFlight.length).map some ∧
      s.sendWindow.sendNext = s.sendWindow.sendUnack + UInt32.ofNat inFlight.length

section Delivers

variable {accepted : List UInt8} {acknowledged inFlight : List (Option UInt8)}
  {s₀ a b : TcpSession} {e : Event}

/-- A step that sends and takes nothing keeps the record. -/
theorem Delivers.quiet (h : Delivers accepted acknowledged inFlight a)
    (hstate : b.state = a.state) (hunack : b.sendWindow.sendUnack = a.sendWindow.sendUnack)
    (hnext : b.sendWindow.sendNext = a.sendWindow.sendNext)
    (hbuffer : b.sendBuffer = a.sendBuffer) : Delivers accepted acknowledged inFlight b where
  buffer := by rw [hbuffer]; exact h.buffer
  opening := by rw [hstate, hunack, hnext]; exact h.opening
  window := by rw [hstate, hunack, hnext, hbuffer]; exact h.window

/-- A session that takes no acknowledgments over only has to keep its buffer. -/
theorem Delivers.leave (h : Delivers accepted acknowledged inFlight a) (hstate : ¬ b.TakesAcks)
    (hbuffer : b.sendBuffer = a.sendBuffer) (inFlight' : List (Option UInt8)) :
    Delivers accepted acknowledged inFlight' b where
  buffer := by rw [hbuffer]; exact h.buffer
  opening hopening := absurd (hopening.imp_right Or.inl) hstate
  window hopen := absurd (Or.inr (Or.inr hopen)) hstate

/-- A SYN is the first number in flight. -/
theorem Delivers.opened (h : Delivers accepted acknowledged inFlight a)
    (hstate : b.state = .synSent ∨ b.state = .synReceived)
    (hnext : b.sendWindow.sendNext = b.sendWindow.sendUnack + 1)
    (hbuffer : b.sendBuffer = a.sendBuffer) : Delivers accepted acknowledged [none] b where
  buffer := by rw [hbuffer]; exact h.buffer
  opening _ := ⟨rfl, hnext⟩
  window hopen := by simp [hopen] at hstate

/-- The acknowledgment of the SYN leaves nothing in flight. -/
theorem Delivers.established (h : Delivers accepted acknowledged inFlight a)
    (hopening : a.state = .synSent ∨ a.state = .synReceived) (hstate : b.state = .established)
    (hunack : b.sendWindow.sendUnack = a.sendWindow.sendUnack + 1)
    (hnext : b.sendWindow.sendNext = a.sendWindow.sendNext)
    (hbuffer : b.sendBuffer = a.sendBuffer) :
    Delivers accepted (acknowledged ++ inFlight.take 1) (inFlight.drop 1) b := by
  rcases h.opening hopening with ⟨rfl, hlast⟩
  refine ⟨?_, by simp [hstate], fun _ => ⟨rfl, ?_⟩⟩
  · rw [hbuffer, List.reduceOption_append]
    simpa using h.buffer
  · rw [hnext, hlast, hunack]
    exact (UInt32.add_zero _).symm

/-- The bytes in flight are buffered, so that their numbers do not wrap around. -/
theorem Delivers.toNat_inflight (h : Delivers accepted acknowledged inFlight a)
    (hstate : a.state = .established) :
    a.inflight.toNat = inFlight.length ∧ inFlight.length ≤ a.sendBuffer.size := by
  rcases h.window hstate with ⟨hbytes, hnext⟩
  have hlength := congrArg List.length hbytes
  rw [List.length_map, List.length_take, RingQueue.length_toList] at hlength
  have hsize := a.sendBuffer.size_le
  have hinflight : a.inflight = UInt32.ofNat inFlight.length := by
    rw [TcpSession.inflight, hnext]
    grind
  rw [hinflight, UInt32.toNat_ofNat']
  omega

/-- An accepted acknowledgment covers bytes at the front of the send buffer, which releases
them. -/
theorem Delivers.release (h : Delivers accepted acknowledged inFlight a)
    (hstate : a.state = .established) {ackNum : UInt32} (haccepts : a.acceptsAck ackNum = true)
    (hnext : (a.processAck ackNum).sendWindow.sendNext = a.sendWindow.sendNext) :
    Delivers accepted
      (acknowledged ++ inFlight.take (ackNum - a.sendWindow.sendUnack).toNat)
      (inFlight.drop (ackNum - a.sendWindow.sendUnack).toNat) (a.processAck ackNum) := by
  rcases h.toNat_inflight hstate with ⟨hinflight, hsize⟩
  rcases h.window hstate with ⟨hbytes, hlast⟩
  rcases acceptsAck_iff.mp haccepts with ⟨hlow, hhigh⟩
  rcases (lt_and_le_iff_sub (hlow.le.trans hhigh)).mp ⟨hlow, hhigh⟩ with ⟨-, hle⟩
  have hcovered : (ackNum - a.sendWindow.sendUnack).toNat ≤ inFlight.length := by
    rw [← hinflight]
    exact hle
  generalize hn : (ackNum - a.sendWindow.sendUnack).toNat = n at hcovered
  have hack : ackNum = a.sendWindow.sendUnack + UInt32.ofNat n := by
    rw [← hn, UInt32.ofNat_toNat]
    grind
  have hbuffer : (a.processAck ackNum).sendBuffer.toList = a.sendBuffer.toList.drop n := by
    rw [processAck_sendBuffer, RingQueue.toList_popFront, hn]
  have hreleased : (inFlight.take n).reduceOption = a.sendBuffer.toList.take n := by
    rw [hbytes, ← List.map_take, List.take_take, Nat.min_eq_left hcovered]
    exact reduceOption_map_some _
  refine ⟨?_, by simp [hstate], fun _ => ⟨?_, ?_⟩⟩
  · rw [hbuffer, List.reduceOption_append, hreleased, List.append_assoc, List.take_append_drop]
    exact h.buffer
  · rw [hbuffer, List.length_drop, ← List.drop_take, List.map_drop, ← hbytes]
  · rw [hnext, hlast, processAck_sendUnack, hack, List.length_drop, UInt32.add_assoc,
      ← UInt32.ofNat_add, Nat.add_sub_cancel' hcovered]

/-- A transmission puts the bytes behind those in flight in flight. -/
theorem Delivers.trySend (h : Delivers accepted acknowledged inFlight a) :
    Delivers accepted acknowledged (inFlight ++ newWire a a.handleTrySend) a.handleTrySend := by
  by_cases htransmits : a.Transmits
  · have hframe := a.handleTrySend_of_transmits htransmits
    have hcarried : newWire a a.handleTrySend = a.nextPayload.map some := by
      rw [newWire_of_append (by rw [hframe]), carried_datagram, if_neg (by decide)]
    refine ⟨?_, ?_, ?_⟩
    · rw [handleTrySend_sendBuffer]
      exact h.buffer
    · rw [handleTrySend_state]
      rcases htransmits.1 with hstate | hstate <;> simp [hstate]
    · rw [handleTrySend_state, handleTrySend_sendBuffer, handleTrySend_sendUnack, hcarried]
      intro hstate
      rcases h.toNat_inflight hstate with ⟨hinflight, hsize⟩
      rcases h.window hstate with ⟨hbytes, hlast⟩
      rw [List.length_append, List.length_map]
      constructor
      · rw [List.take_add, List.map_append, ← hbytes, nextPayload, hinflight, List.length_take]
        congr 2
        rw [List.take_eq_take_min]
      · rw [hframe]
        dsimp only
        rw [hlast, UInt32.ofNat_add, UInt32.add_assoc]
  · have hsame := a.handleTrySend_of_not htransmits
    rw [hsame, newWire_of_eq rfl, List.append_nil]
    exact h

/-- Without a second transmission an accepted acknowledgment sends nothing. -/
theorem processAck_of_not_resends {ackNum : UInt32} (hresends : ¬ (a.ThirdDuplicate ackNum ∧
    (a.inflightPackets.find? ackNum).isSome = true)) :
    (a.processAck ackNum).sent = a.sent ∧
      (a.processAck ackNum).sendWindow.sendNext = a.sendWindow.sendNext := by
  by_cases hthird : a.ThirdDuplicate ackNum
  · rcases (a.releaseAcked ackNum).countDupAck_frame ackNum with ⟨c, d, hframe⟩
    have heq : ((a.releaseAcked ackNum).countDupAck ackNum).dupAckCount = 3 := by
      rw [(a.countDupAck_releaseAcked ackNum).1]
      exact hthird
    have hfind : (a.releaseAcked ackNum).inflightPackets.find? ackNum = none := by
      rw [releaseAcked, OrderedMap.find?_dropBelow, if_neg (lt_irrefl _)]
      simpa [hthird] using hresends
    rw [processAck, fastRetransmit, if_pos heq, hframe, onRecvThreeDupAck]
    dsimp only
    rw [hfind]
    exact ⟨rfl, rfl⟩
  · rw [a.processAck_of_not hthird]
    exact ⟨rfl, rfl⟩

/-! ## Moves -/

/-- A pure ACK uses no numbers. -/
theorem newWire_of_pureAck {t : TcpSession} {ackNum : UInt32}
    (hsent : b.sent = a.sent ++ [t.datagram flagAck ackNum []]) : newWire a b = [] := by
  rw [newWire_of_append hsent, carried_datagram, if_neg (by decide), List.map_nil]

/-- The move takes an acknowledgment over. -/
def Takes (s₀ : TcpSession) (e : Event) (a b : TcpSession) : Prop :=
  ∃ packet i, e = .input packet i ∧ a = s₀.observe packet ∧ s₀.TakesAcks ∧
    packet.has flagAck = true ∧ b.sendWindow.sendUnack = packet.ack

/-- The move keeps what is acknowledged, in a session that takes acknowledgments over. -/
def Keeps (s₀ a b : TcpSession) : Prop :=
  s₀.TakesAcks → b.sendWindow.sendUnack = a.sendWindow.sendUnack

/-- A move sends behind what is in flight, and covers what is in flight by the acknowledgment
that it takes over.  Openings, {lit}`send()` and expiries are left to the steps. -/
theorem Move.delivers (hopens : s₀.openingIss e = none) (hsend : ∀ data, e ≠ .send data)
    (hexpire : ∀ k, e ≠ .expire k) (hpeer : ¬ s₀.AnswersPeerSyn e)
    (hresends : ¬ s₀.ResendsStored e)
    (hadmitted : ∀ packet i, e = .input packet i → Admitted packet)
    (hmove : Move s₀ e a b) :
    (Keeps s₀ a b ∧ ∀ accepted acknowledged inFlight,
      Delivers accepted acknowledged inFlight a →
        Delivers accepted acknowledged (inFlight ++ newWire a b) b) ∨
    (Takes s₀ e a b ∧ newWire a b = [] ∧ ∀ accepted acknowledged inFlight,
      Delivers accepted acknowledged inFlight a →
        Delivers accepted
          (acknowledged ++
            inFlight.take (b.sendWindow.sendUnack - s₀.sendWindow.sendUnack).toNat)
          (inFlight.drop (b.sendWindow.sendUnack - s₀.sendWindow.sendUnack).toNat) b) := by
  have hleave : ∀ {b : TcpSession}, Keeps s₀ a b → ¬ b.TakesAcks →
      b.sendBuffer = a.sendBuffer → Keeps s₀ a b ∧ ∀ accepted acknowledged inFlight,
        Delivers accepted acknowledged inFlight a →
          Delivers accepted acknowledged (inFlight ++ newWire a b) b :=
    fun hkeeps hstate hbuffer => ⟨hkeeps, fun _ _ _ h => h.leave hstate hbuffer _⟩
  have hquiet : ∀ {b : TcpSession}, b.state = a.state →
      b.sendWindow.sendUnack = a.sendWindow.sendUnack →
      b.sendWindow.sendNext = a.sendWindow.sendNext → b.sendBuffer = a.sendBuffer →
      newWire a b = [] → Keeps s₀ a b ∧ ∀ accepted acknowledged inFlight,
        Delivers accepted acknowledged inFlight a →
          Delivers accepted acknowledged (inFlight ++ newWire a b) b := by
    intro b hstate hunack hnext hbuffer hnew
    refine ⟨fun _ => hunack, fun _ _ _ h => ?_⟩
    rw [hnew, List.append_nil]
    exact h.quiet hstate hunack hnext hbuffer
  cases hmove with
  | note s peer wantClose calls => exact Or.inl (hquiet rfl rfl rfl rfl (newWire_of_eq rfl))
  | setRemoteAddr ip port => exact Or.inl (hquiet rfl rfl rfl rfl (newWire_of_eq rfl))
  | setListenerPort port => exact Or.inl (hquiet rfl rfl rfl rfl (newWire_of_eq rfl))
  | connect i => simp [openingIss] at hopens
  | listen hstate => exact Or.inl (hleave (fun _ => rfl) (by simp [TakesAcks, transitionTo]) rfl)
  | enqueue hpush => exact absurd rfl (hsend _)
  | trySend s => exact Or.inl ⟨fun _ => handleTrySend_sendUnack a, fun _ _ _ h => h.trySend⟩
  | read s hn => exact Or.inl (hquiet rfl rfl rfl rfl (newWire_of_eq rfl))
  | closeEstablished hstate =>
      rw [closeEstablished_eq]
      exact Or.inl (hleave (fun _ => rfl) (by simp [TakesAcks]) rfl)
  | closeCloseWait s hstate =>
      rw [closeCloseWait_eq]
      exact Or.inl (hleave (fun _ => rfl) (by simp [TakesAcks]) rfl)
  | abortOpening hstate =>
      rw [abortOpening_eq]
      exact Or.inl (hleave (fun _ => rfl) (by simp [TakesAcks]) rfl)
  | reset hrst =>
      refine Or.inl (hleave (fun _ => rfl) ?_ rfl)
      simp [TakesAcks, handleReset, notify, transitionTo]
  | @passiveOpen packet i hstate hsyn =>
      simp [openingIss, hstate, hadmitted packet i rfl, hsyn] at hopens
  | @synAck packet i hstate hsyn hflag hack =>
      have hone : packet.ack - s₀.sendWindow.sendUnack = 1 := by
        rw [hack]
        grind
      rw [acceptSynAck_eq]
      refine Or.inr ⟨⟨packet, i, rfl, rfl, Or.inl hstate, hflag, rfl⟩, newWire_of_pureAck rfl,
        fun _ _ _ h => ?_⟩
      dsimp only
      rw [hone]
      exact h.established (Or.inl hstate) rfl hack rfl rfl
  | @peerSyn packet i hstate hsyn hflag =>
      exact absurd ⟨hadmitted packet i rfl, hstate, hsyn, hflag⟩ hpeer
  | @synReceivedAck packet i hstate hflag hack =>
      have hone : packet.ack - s₀.sendWindow.sendUnack = 1 := by
        rw [hack]
        grind
      refine Or.inr ⟨⟨packet, i, rfl, rfl, Or.inr (Or.inl hstate), hflag, rfl⟩, newWire_of_eq rfl,
        fun _ _ _ h => ?_⟩
      change Delivers _ (_ ++ List.take (packet.ack - s₀.sendWindow.sendUnack).toNat _)
        (List.drop (packet.ack - s₀.sendWindow.sendUnack).toNat _) _
      rw [hone]
      exact h.established (Or.inr hstate) rfl hack rfl rfl
  | @ack packet i haccepts =>
      have hthird : ¬ ((s₀.observe packet).ThirdDuplicate packet.ack ∧
          ((s₀.observe packet).inflightPackets.find? packet.ack).isSome = true) :=
        fun hthird => hresends ⟨haccepts, hthird.imp_left
          ((countDupAck_congr (s := s₀) (t := s₀.observe packet) rfl rfl _).1.trans ·)⟩
      have hsends := processAck_of_not_resends hthird
      refine Or.inr ⟨⟨packet, i, rfl, rfl, Or.inr (Or.inr haccepts.2.1), haccepts.2.2.1,
        processAck_sendUnack _ _⟩, newWire_of_eq hsends.1, fun _ _ _ h => ?_⟩
      rw [processAck_sendUnack]
      exact h.release haccepts.2.1 haccepts.2.2.2 hsends.2
  | pureAck s hstate => exact Or.inl (hquiet rfl rfl rfl rfl (newWire_of_pureAck rfl))
  | inOrder s hstate hseq hdrain =>
      rcases reassemble_acceptPayload_frame a _ _ with ⟨m, q, n, hframe⟩
      rw [hframe]
      exact Or.inl (hquiet rfl rfl rfl rfl (newWire_of_eq rfl))
  | outOfOrder s hstate hseq =>
      rcases storeOutOfOrder_frame a _ _ with ⟨m, hframe⟩
      rw [hframe]
      exact Or.inl (hquiet rfl rfl rfl rfl (newWire_of_eq rfl))
  | @fin packet i s next hfin hnext horder =>
      refine Or.inl (hleave (fun _ => rfl) ?_ rfl)
      change ¬ (next = .synSent ∨ next = .synReceived ∨ next = .established)
      generalize a.state = before at hnext
      cases hnext <;> simp
  | finAcked hstate hflag hack =>
      exact Or.inl (hleave (by simp [Keeps, TakesAcks, hstate])
        (by simp [TakesAcks, advanceUnack, transitionTo]) rfl)
  | start2Msl s hstate => exact Or.inl (hquiet rfl rfl rfl rfl (newWire_of_eq rfl))
  | finishCloseWait s hstate =>
      by_cases hdrained : a.Drained
      · rw [finishCloseWait_of_drained _ hdrained]
        exact Or.inl (hleave (fun _ => rfl) (by simp [TakesAcks]) rfl)
      · rw [finishCloseWait_of_not _ hdrained]
        exact Or.inl (hquiet rfl rfl rfl rfl (newWire_of_eq rfl))
  | lastAck hstate hflag hack =>
      exact Or.inl (hleave (by simp [Keeps, TakesAcks, hstate])
        (by simp [TakesAcks, transitionTo]) rfl)
  | expire hactive => exact absurd rfl (hexpire _)
  | expire2Msl hactive => exact Or.inl (hleave (fun _ => rfl) (by simp [TakesAcks]) rfl)

/-! ## Steps -/

/-- How many numbers have been acknowledged since the step began. -/
def taken (s₀ a : TcpSession) : Nat :=
  if s₀.TakesAcks then (a.sendWindow.sendUnack - s₀.sendWindow.sendUnack).toNat else 0

/-- In the middle of a step: what has been taken over so far is acknowledged, and the rest is
followed by what has been sent so far. -/
structure Underway (s₀ : TcpSession) (e : Event) (g : Deliveries) (a : TcpSession) : Prop where
  sent : s₀.sent <+: a.sent
  source : s₀.TakesAcks → a.sendWindow.sendUnack = s₀.sendWindow.sendUnack ∨
    ∃ packet i, e = .input packet i ∧ packet.has flagAck = true ∧
      a.sendWindow.sendUnack = packet.ack
  delivers : Delivers g.accepted (g.acknowledged ++ g.inFlight.take (taken s₀ a))
    (g.inFlight.drop (taken s₀ a) ++ newWire s₀ a) a

/-- Where {lit}`send_unack_` stays, nothing is taken. -/
theorem taken_of_eq (h : a.sendWindow.sendUnack = s₀.sendWindow.sendUnack) : taken s₀ a = 0 := by
  rw [taken, h, UInt32.sub_self]
  exact ite_self 0

/-- At its start a step has moved nothing. -/
theorem underway_start {g : Deliveries}
    (h : Delivers g.accepted g.acknowledged g.inFlight s₀) : Underway s₀ e g s₀ where
  sent := List.prefix_rfl
  source _ := Or.inl rfl
  delivers := by
    rw [taken_of_eq rfl, newWire_of_eq rfl, List.take_zero, List.append_nil, List.drop_zero,
      List.append_nil]
    exact h

/-- A move that takes no acknowledgment over. -/
theorem Underway.keep {g : Deliveries} (h : Underway s₀ e g a) (hsent : a.sent <+: b.sent)
    (hkeeps : Keeps s₀ a b)
    (hdelivers : ∀ accepted acknowledged inFlight, Delivers accepted acknowledged inFlight a →
      Delivers accepted acknowledged (inFlight ++ newWire a b) b) : Underway s₀ e g b where
  sent := h.sent.trans hsent
  source htakes := by rw [hkeeps htakes]; exact h.source htakes
  delivers := by
    have htaken : taken s₀ b = taken s₀ a := by
      unfold taken
      split <;> rename_i htakes
      · rw [hkeeps htakes]
      · rfl
    rw [htaken, newWire_trans h.sent hsent, ← List.append_assoc]
    exact hdelivers _ _ _ h.delivers

/-- The move that takes the acknowledgment over. -/
theorem Underway.take {g : Deliveries} (h : Underway s₀ e g a) (hsent : a.sent <+: b.sent)
    (htakes : Takes s₀ e a b) (hnew : newWire a b = [])
    (hdelivers : ∀ accepted acknowledged inFlight, Delivers accepted acknowledged inFlight a →
      Delivers accepted
        (acknowledged ++ inFlight.take (b.sendWindow.sendUnack - s₀.sendWindow.sendUnack).toNat)
        (inFlight.drop (b.sendWindow.sendUnack - s₀.sendWindow.sendUnack).toNat) b) :
    Underway s₀ e g b := by
  rcases htakes with ⟨packet, i, rfl, rfl, htakes, hflag, hunack⟩
  have hnone : taken s₀ (s₀.observe packet) = 0 := taken_of_eq rfl
  have hsilent : newWire s₀ (s₀.observe packet) = [] := newWire_of_eq rfl
  have hbefore := h.delivers
  rw [hnone, hsilent, List.take_zero, List.append_nil, List.drop_zero, List.append_nil] at hbefore
  refine ⟨h.sent.trans hsent, fun _ => Or.inr ⟨packet, i, rfl, hflag, hunack⟩, ?_⟩
  rw [taken, if_pos htakes, newWire_trans h.sent hsent, hsilent, hnew, List.append_nil,
    List.append_nil]
  exact hdelivers _ _ _ hbefore

/-- What the step has taken over is what the packet covers. -/
theorem Underway.coveredBy_eq {g : Deliveries} (h : Underway s₀ e g a) :
    s₀.coveredBy e a = taken s₀ a := by
  by_cases htakes : s₀.TakesAcks
  · rw [taken, if_pos htakes]
    rcases h.source htakes with hsame | ⟨packet, i, rfl, hflag, hunack⟩
    · rw [hsame, UInt32.sub_self]
      cases e with
      | input packet i =>
          rw [coveredBy]
          split <;> rename_i hguard
          · rw [← hguard.2.2, hsame, UInt32.sub_self]
          · rfl
      | _ => rfl
    · rw [coveredBy, if_pos ⟨htakes, hflag, hunack⟩, hunack]
  · rw [taken, if_neg htakes]
    cases e with
    | input packet i => rw [coveredBy, if_neg fun hguard => htakes hguard.1]
    | _ => rfl

/-- The deliveries before and after a step. -/
def DeliveredBy (g : Deliveries) (s : TcpSession) : Prop :=
  Delivers g.accepted g.acknowledged g.inFlight s

/-- A step that opens nothing, apart from {lit}`send()` and expiries. -/
theorem deliveredBy_moves {s s' : TcpSession} {g : Deliveries} (h : DeliveredBy g s)
    (hopens : s.openingIss e = none) (hsend : ∀ data, e ≠ .send data)
    (hexpire : ∀ k, e ≠ .expire k) (hpeer : ¬ s.AnswersPeerSyn e) (hresends : ¬ s.ResendsStored e)
    (hadmitted : ∀ packet i, e = .input packet i → Admitted packet) (hstep : step s e = some s') :
    DeliveredBy (Deliveries.update s e s' g) s' := by
  have hunderway : Underway s e g s' := by
    apply (step_moves hstep).preserves _ (underway_start h)
    intro a b ha hmove
    rcases hmove.delivers hopens hsend hexpire hpeer hresends hadmitted with
      ⟨hkeeps, hdelivers⟩ | ⟨htakes, hnew, hdelivers⟩
    · exact ha.keep hmove.sent_prefix hkeeps hdelivers
    · exact ha.take hmove.sent_prefix htakes hnew hdelivers
  have hnone : s.acceptedBy e = [] := by
    cases e with
    | send data => exact absurd rfl (hsend data)
    | _ => rfl
  have hsentBy : s.sentBy e s' = newWire s s' := by
    cases e with
    | expire k => exact absurd rfl (hexpire k)
    | _ => rfl
  rw [DeliveredBy, Deliveries.update, hopens, hunderway.coveredBy_eq, hnone, hsentBy]
  dsimp only
  rw [List.append_nil]
  exact hunderway.delivers

/-- Where {lit}`send_unack_` stays, the step covers nothing. -/
theorem coveredBy_of_eq {s s' : TcpSession}
    (h : s'.sendWindow.sendUnack = s.sendWindow.sendUnack) : s.coveredBy e s' = 0 := by
  cases e with
  | input packet i =>
      rw [coveredBy]
      split <;> rename_i hguard
      · rw [← hguard.2.2, h, UInt32.sub_self]
        rfl
      · rfl
  | _ => rfl

/-- A step that takes nothing over, accepts nothing and opens nothing. -/
theorem deliveredBy_of_quiet {s s' : TcpSession} {g : Deliveries} (hopens : s.openingIss e = none)
    (hunack : s'.sendWindow.sendUnack = s.sendWindow.sendUnack) (hnone : s.acceptedBy e = [])
    (hsilent : s.sentBy e s' = [])
    (h : Delivers g.accepted g.acknowledged g.inFlight s') :
    DeliveredBy (Deliveries.update s e s' g) s' := by
  rw [DeliveredBy, Deliveries.update, hopens, coveredBy_of_eq hunack, hnone, hsilent]
  dsimp only
  rw [List.append_nil, List.append_nil, Option.isSome_none, if_neg Bool.false_ne_true,
    List.take_zero, List.append_nil, List.drop_zero]
  exact h

/-- The step that sends the first SYN of a connection. -/
theorem deliveredBy_opened {s s' : TcpSession} {g : Deliveries} (h : DeliveredBy g s)
    (hopens : (s.openingIss e).isSome = true) (hcovered : s.coveredBy e s' = 0)
    (hnone : s.acceptedBy e = []) (hsent : s.sentBy e s' = [none])
    (hstate : s'.state = .synSent ∨ s'.state = .synReceived)
    (hnext : s'.sendWindow.sendNext = s'.sendWindow.sendUnack + 1)
    (hbuffer : s'.sendBuffer = s.sendBuffer) :
    DeliveredBy (Deliveries.update s e s' g) s' := by
  rw [DeliveredBy, Deliveries.update, hcovered, hnone, hsent, if_pos hopens]
  dsimp only
  rw [List.append_nil, List.take_nil, List.append_nil, List.drop_nil, List.nil_append]
  exact Delivers.opened h hstate hnext hbuffer

/-- An active opening starts the record again. -/
theorem deliveredBy_connect {s : TcpSession} {g : Deliveries} (h : DeliveredBy g s)
    (iss : UInt32) :
    DeliveredBy (Deliveries.update s (.connect iss) (s.connect iss) g) (s.connect iss) := by
  have hframe := connect_eq s iss
  refine deliveredBy_opened h rfl rfl rfl ?_ (Or.inl ?_) ?_ ?_
  · change newWire s (s.connect iss) = [none]
    rw [newWire_of_append (by rw [hframe]), carried_datagram, if_pos (by decide)]
  · rw [hframe]
  · rw [hframe]
  · rw [hframe]

/-- So does a passive one. -/
theorem deliveredBy_passiveOpen {s : TcpSession} {packet : MyuTcpPacket} {iss : UInt32}
    {g : Deliveries} (h : DeliveredBy g s)
    (hopens : (s.openingIss (.input packet iss)).isSome = true)
    (hlisten : s.state = .listen) (hsyn : packet.has flagSyn = true) :
    DeliveredBy
      (Deliveries.update s (.input packet iss) ((s.observe packet).handleListen packet iss) g)
      ((s.observe packet).handleListen packet iss) := by
  have hframe := handleListen_eq (s.observe packet) hsyn iss
  refine deliveredBy_opened h hopens ?_ rfl ?_ (Or.inr ?_) ?_ ?_
  · rw [coveredBy, if_neg]
    rintro ⟨htakes, -⟩
    simp [TakesAcks, hlisten] at htakes
  · change newWire s _ = [none]
    rw [newWire_of_append (by rw [hframe]; rfl), carried_datagram, if_pos (by decide)]
  · rw [hframe]
  · rw [hframe]
  · rw [hframe]
    rfl

/-- {lit}`send()` adds to what is accepted. -/
theorem deliveredBy_send {s : TcpSession} {g : Deliveries} (h : DeliveredBy g s)
    (data : List UInt8) :
    DeliveredBy (Deliveries.update s (.send data) (s.send data).2 g) (s.send data).2 := by
  rcases send_eq s data with ⟨hnone, hsame⟩ | ⟨buffer, hbuffer, hframe⟩
  · refine deliveredBy_of_quiet rfl (by rw [hsame]) hnone (newWire_of_eq (by rw [hsame])) ?_
    rw [hsame]
    exact h
  · -- the accepted bytes are behind those in flight
    have hstored : Delivers (g.accepted ++ s.acceptedBy (.send data)) g.acknowledged g.inFlight
        { s with sendBuffer := buffer } := by
      refine ⟨?_, h.opening, fun hstate => ?_⟩
      · change g.acknowledged.reduceOption ++ buffer.toList = _
        rw [hbuffer, ← List.append_assoc, h.buffer]
      · rcases Delivers.toNat_inflight h hstate with ⟨-, hsize⟩
        change g.inFlight = (buffer.toList.take g.inFlight.length).map some ∧ _
        rw [hbuffer, List.take_append_of_le_length (by rwa [RingQueue.length_toList])]
        exact h.window hstate
    rw [hframe]
    change Delivers _ (g.acknowledged ++ g.inFlight.take 0) (g.inFlight.drop 0 ++ _) _
    rw [List.take_zero, List.append_nil, List.drop_zero]
    exact hstored.trySend

/-- An expiry sends what is in flight once more. -/
theorem deliveredBy_expire {s s' : TcpSession} {k : UInt32} {g : Deliveries}
    (h : DeliveredBy g s) (hstep : s.expire k = some s') :
    DeliveredBy (Deliveries.update s (.expire k) s' g) s' := by
  rcases expire_frame hstep with ⟨hstate, hunack, hnext, -⟩
  have hbuffer : s'.sendBuffer = s.sendBuffer := by
    rcases expire_eq_some_iff.mp hstep with ⟨t, -, rfl⟩
    by_cases hlimit : t.callback.retransmitCount + 1 ≥ maxRetransmitCount
    · rw [runClosure_of_limit _ hlimit]
    · rw [runClosure_of_lt _ hlimit]
  exact deliveredBy_of_quiet rfl hunack rfl rfl (Delivers.quiet h hstate hunack hnext hbuffer)

/-- A packet that is not admitted changes nothing, or resets the session. -/
theorem deliveredBy_notAdmitted {s s' : TcpSession} {packet : MyuTcpPacket} {i : UInt32}
    {g : Deliveries} (h : DeliveredBy g s) (hadmitted : ¬ Admitted packet)
    (hstep : s.input packet i = some s') :
    DeliveredBy (Deliveries.update s (.input packet i) s' g) s' := by
  have hopens : s.openingIss (.input packet i) = none :=
    if_neg fun hguard => hadmitted hguard.2.1
  rcases input_cases hstep with ⟨-, -, rfl⟩ | ⟨-, rfl⟩ | ⟨-, -, rfl⟩ | ⟨hadmitted', -⟩
  · exact deliveredBy_of_quiet hopens rfl rfl (newWire_of_eq rfl) h
  · exact deliveredBy_of_quiet hopens rfl rfl (newWire_of_eq rfl) h
  · refine deliveredBy_of_quiet hopens rfl rfl (newWire_of_eq rfl)
      (Delivers.leave (b := s.handleReset) h ?_ rfl g.inFlight)
    simp [TakesAcks, handleReset, notify, transitionTo]
  · exact absurd hadmitted' hadmitted

/-- A step keeps the link between the accepted bytes, the acknowledged ones and the send buffer,
unless a SYN crosses or a fast retransmit sends a stored segment again. -/
theorem deliveredBy_step {s s' : TcpSession} {g : Deliveries} (h : DeliveredBy g s)
    (hpeer : ¬ s.AnswersPeerSyn e) (hresends : ¬ s.ResendsStored e) (hstep : step s e = some s') :
    DeliveredBy (Deliveries.update s e s' g) s' := by
  cases e with
  | connect iss =>
      cases hstep
      exact deliveredBy_connect h iss
  | send data =>
      cases hstep
      exact deliveredBy_send h data
  | expire k => exact deliveredBy_expire h hstep
  | input packet i =>
      by_cases hadmitted : Admitted packet
      · by_cases hopening : s.state = .listen ∧ packet.has flagSyn = true
        · have hopens : (s.openingIss (.input packet i)).isSome = true := by
            rw [openingIss, if_pos ⟨hopening.1, hadmitted, hopening.2⟩]
            rfl
          have hinput : s.input packet i = (s.observe packet).dispatch packet i :=
            input_of_admitted hadmitted
          rw [dispatch, show (s.observe packet).state = .listen from hopening.1] at hinput
          cases hinput.symm.trans hstep
          exact deliveredBy_passiveOpen h hopens hopening.1 hopening.2
        · have hopens : s.openingIss (.input packet i) = none :=
            if_neg fun hguard => hopening ⟨hguard.1, hguard.2.2⟩
          refine deliveredBy_moves h hopens (by simp) (by simp) hpeer hresends ?_ hstep
          rintro _ _ ⟨⟩
          exact hadmitted
      · exact deliveredBy_notAdmitted h hadmitted hstep
  | _ => exact deliveredBy_moves h rfl (by simp) (by simp) hpeer hresends (by simp) hstep

end Delivers

end TcpSession

end MyuTcp
