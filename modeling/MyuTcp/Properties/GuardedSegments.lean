import MyuTcp.Core.Connection
import MyuTcp.Core.Replies
import MyuTcp.Core.Transmission

/-!
# Guarded segments

Which segments of a session are not yet acknowledged, and which timers stand for them.
{lit}`close()` in ESTABLISHED discards what is buffered or in flight together with its
timers.

Main results:

- Theorem {lit}`Move.guards`: every move keeps the outstanding segments guarded, as long as no
  acknowledgment ends inside one of them.
- Theorem {lit}`outstanding_guarded`: an active timer sends each outstanding segment again,
  unless it has given up.
- Theorem {lit}`closedWithData_unguarded`: a run in which {lit}`close()` discards a byte.
-/

namespace MyuTcp

open Library

/-- A state that waits for the acknowledgment of a SYN or FIN. -/
def TcpState.AwaitsOne (state : TcpState) : Prop :=
  state = .synSent ∨ state = .synReceived ∨ state = .finWait1

instance (state : TcpState) : Decidable state.AwaitsOne := inferInstanceAs (Decidable (_ ∨ _))

/-- A state change of an open connection, apart from one that closes it. -/
structure TcpState.GoesOn (before after : TcpState) : Prop where
  opened : before ≠ .closed
  listen : before ≠ .listen
  listen' : after ≠ .listen
  rank : after.rank < before.rank

instance (before after : TcpState) : Decidable (before.GoesOn after) :=
  decidable_of_iff (before ≠ .closed ∧ before ≠ .listen ∧ after ≠ .listen ∧
      after.rank < before.rank)
    ⟨fun ⟨h₁, h₂, h₃, h₄⟩ => ⟨h₁, h₂, h₃, h₄⟩, fun h => ⟨h.opened, h.listen, h.listen', h.rank⟩⟩

namespace TcpSession

/-! ## Outstanding segments -/

/-- A segment that takes numbers, and how often its timer has expired. -/
structure OutstandingSegment where
  packet : MyuTcpPacket
  expiries : Nat

/-- The segments among these packets that take numbers. -/
def numbered (ds : List Datagram) : List OutstandingSegment :=
  (ds.filter fun d => d.packet.span ≠ 0).map fun d => ⟨d.packet, 0⟩

/-- The segment is acknowledged when the acknowledged numbers advance between these two:
the number behind its last one lies between them. -/
def OutstandingSegment.Covered (before after : UInt32) (g : OutstandingSegment) : Prop :=
  (g.packet.seq + UInt32.ofNat g.packet.span - before).toNat ≤ (after - before).toNat

instance (before after : UInt32) (g : OutstandingSegment) : Decidable (g.Covered before after) :=
  inferInstanceAs (Decidable (_ ≤ _))

/-- The segment after the expiry of the timer of a number. -/
def OutstandingSegment.expire (k : UInt32) (g : OutstandingSegment) : OutstandingSegment :=
  if g.packet.seq = k then { g with expiries := g.expiries + 1 } else g

/-- The segments that stay outstanding, and those that are sent between two sessions. -/
def outstandingAfter (s s' : TcpSession) (gs : List OutstandingSegment) :
    List OutstandingSegment :=
  (gs.filter fun g => ¬ g.Covered s.sendWindow.sendUnack s'.sendWindow.sendUnack) ++
    numbered (newDatagrams s s')

/-- The outstanding segments after a step.  A connection begins with its SYN, a
{lit}`close()` in ESTABLISHED discards all but its FIN, and nothing is outstanding once the
session is closed. -/
def recordOutstanding (s : TcpSession) (e : Event) (s' : TcpSession)
    (gs : List OutstandingSegment) : List OutstandingSegment :=
  if s'.state = .closed then []
  else
    match e with
    | .connect _ => numbered (newDatagrams s s')
    | .close =>
        if s.state = .established then
          (numbered (newDatagrams s s')).filter fun g => g.packet.has flagFin
        else outstandingAfter s s' gs
    | .expire k => gs.map (OutstandingSegment.expire k)
    | _ => outstandingAfter s s' gs

/-- A session with the segments it has sent and that are not yet acknowledged. -/
def outstandingStep : StepFn (TcpSession × List OutstandingSegment) Event :=
  step.withGhost recordOutstanding

/-- The callback of the timer sends the segment again. -/
structure Resends (t : UvTimer RetransmitClosure) (packet : MyuTcpPacket) : Prop where
  seq : t.callback.packet.seq = packet.seq
  flags : t.callback.packet.header.flags = packet.header.flags
  payload : t.callback.packet.payload = packet.payload

/-- An active timer sends the segment again, unless it has expired as often as is allowed. -/
def IsGuarded (s : TcpSession) (g : OutstandingSegment) : Prop :=
  g.expiries < maxRetransmitCount.toNat →
    ∃ t, s.timerManager.activeAt g.packet.seq = some t ∧ Resends t g.packet

/-! ## The condition -/

/-- The event is an accepted acknowledgment that ends inside an outstanding segment, behind
its first byte, or that finds something to send again as a third duplicate. -/
def Unguards (x : TcpSession × List OutstandingSegment) : Event → Prop
  | .input packet iss => x.1.AcceptsAckEvent (.input packet iss) ∧
      (¬ x.1.NothingToFastRetransmit packet.ack ∨
        ∃ g ∈ x.2, 1 < (packet.ack - g.packet.seq).toNat ∧
          (packet.ack - g.packet.seq).toNat < g.packet.span)
  | _ => False

/-! ## The invariant -/

/-- How far the number behind the first one of the segment lies beyond the acknowledged
numbers. -/
def OutstandingSegment.offset (unack : UInt32) (g : OutstandingSegment) : Nat :=
  (g.packet.seq + 1 - unack).toNat

/-- The segment ends between the acknowledged and the next number, and at most its first
number is acknowledged. -/
structure Placed (s : TcpSession) (g : OutstandingSegment) : Prop where
  span : g.packet.span ≠ 0
  low : 1 < g.offset s.sendWindow.sendUnack + g.packet.span
  high : g.offset s.sendWindow.sendUnack + g.packet.span ≤ s.inflight.toNat + 1

/-- The outstanding segments are placed in the window, and their timers are active as long as
they have not given up. -/
structure Guards (s : TcpSession) (gs : List OutstandingSegment) : Prop where
  placed : ∀ g ∈ gs, Placed s g
  guarded : ∀ g ∈ gs, g.expiries < maxRetransmitCount.toNat →
    ∃ t, s.timerManager.activeAt g.packet.seq = some t ∧ Resends t g.packet ∧
      t.callback.retransmitCount.toNat = g.expiries
  bound : s.state ≠ .listen → s.inflight.toNat + 2 * s.state.rank ≤ 2048
  listening : s.state = .listen → gs = []
  awaits : s.state.AwaitsOne → s.inflight ≠ 0 ∧ ∀ g ∈ gs, g.packet.span = 1

/-! ## Placed segments -/

section Placed

variable {a b : TcpSession} {g : OutstandingSegment}

/-- The send window alone decides the place of a segment. -/
theorem Placed.of_window (h : Placed a g) (hwindow : b.sendWindow = a.sendWindow) :
    Placed b g := by
  have hinflight : b.inflight = a.inflight := by
    rw [inflight, inflight, hwindow]
  exact ⟨h.span, by rw [hwindow]; exact h.low, by rw [hwindow, hinflight]; exact h.high⟩

/-- The segment stays placed when the session sends more. -/
theorem Placed.extend (h : Placed a g) (hunack : b.sendWindow.sendUnack = a.sendWindow.sendUnack)
    (hinflight : a.inflight.toNat ≤ b.inflight.toNat) : Placed b g := by
  have hhigh := h.high
  exact ⟨h.span, by rw [hunack]; exact h.low, by rw [hunack]; omega⟩

/-- A segment is covered when it ends by the acknowledged number. -/
theorem Placed.covered_iff (h : Placed a g) (after : UInt32) :
    g.Covered a.sendWindow.sendUnack after ↔
      g.offset a.sendWindow.sendUnack + g.packet.span ≤
        (after - a.sendWindow.sendUnack).toNat + 1 := by
  have hlow := h.low
  have hhigh := h.high
  have hspan := h.span
  have hlt := a.inflight.toNat_lt
  have hone : (1 : UInt32).toNat = 1 := rfl
  have hend : (g.packet.seq + UInt32.ofNat g.packet.span - a.sendWindow.sendUnack).toNat + 1 =
      g.offset a.sendWindow.sendUnack + g.packet.span := by
    have heq : g.packet.seq + UInt32.ofNat g.packet.span - a.sendWindow.sendUnack =
        g.packet.seq + 1 - a.sendWindow.sendUnack + UInt32.ofNat (g.packet.span - 1) := by
      have hsplit : UInt32.ofNat g.packet.span = 1 + UInt32.ofNat (g.packet.span - 1) := by
        rw [← UInt32.toNat_inj, UInt32.toNat_add, UInt32.toNat_ofNat', UInt32.toNat_ofNat']
        omega
      rw [hsplit]
      grind
    unfold OutstandingSegment.offset at hlow hhigh ⊢
    rw [heq, UInt32.toNat_add, UInt32.toNat_ofNat']
    omega
  unfold OutstandingSegment.Covered
  omega

/-- {lit}`send_unack_` covers no outstanding segment. -/
theorem Placed.not_covered_self (h : Placed a g) :
    ¬ g.Covered a.sendWindow.sendUnack a.sendWindow.sendUnack := by
  have hlow := h.low
  rw [h.covered_iff, UInt32.sub_self, UInt32.toNat_zero]
  omega

end Placed

/-! ## Steps that keep the guards -/

section Guards

variable {s₀ a b : TcpSession} {gs : List OutstandingSegment}

/-- With nothing in flight no segment is outstanding. -/
theorem Guards.eq_nil (h : Guards a gs) (hinflight : a.inflight = 0) : gs = [] := by
  rw [List.eq_nil_iff_forall_not_mem]
  intro g hg
  have hlow := (h.placed g hg).low
  have hhigh := (h.placed g hg).high
  rw [hinflight, UInt32.toNat_zero] at hhigh
  omega

/-- Whatever keeps the numbers and the timers, and leaves the state or goes on to one that
waits for nothing, keeps the guards. -/
theorem Guards.of_eq (h : Guards a gs) (hwindow : b.sendWindow = a.sendWindow)
    (htimers : ∀ k, b.timerManager.activeAt k = a.timerManager.activeAt k)
    (hstate : b.state = a.state ∨
      a.state.GoesOn b.state ∧ ¬ b.state.AwaitsOne) :
    Guards b gs := by
  have hinflight : b.inflight = a.inflight := by
    rw [inflight, inflight, hwindow]
  constructor
  · intro g hg
    exact (h.placed g hg).of_window hwindow
  · simp only [htimers]
    exact h.guarded
  · intro hlisten
    rw [hinflight]
    rcases hstate with hsame | ⟨hnext, -⟩
    · rw [hsame] at hlisten ⊢
      exact h.bound hlisten
    · have hbound := h.bound hnext.listen
      have hrank := hnext.rank
      omega
  · intro hlisten
    rcases hstate with hsame | ⟨hnext, -⟩
    · exact h.listening (hsame ▸ hlisten)
    · exact absurd hlisten hnext.listen'
  · intro hone
    rw [hinflight]
    rcases hstate with hsame | ⟨-, hnot⟩
    · rw [hsame] at hone
      exact h.awaits hone
    · exact absurd hone hnot

/-- The closure sends the packet again, and has not done so yet. -/
theorem resends_startTimer {c : RetransmitClosure} {packet : MyuTcpPacket} {timeoutMs : UInt64}
    (hpacket : c.packet = packet) (hcount : c.retransmitCount = 0) :
    Resends ⟨true, timeoutMs, c⟩ packet ∧ c.retransmitCount.toNat = 0 := by
  rw [← hpacket, hcount]
  exact ⟨⟨rfl, rfl, rfl⟩, rfl⟩

/-- Sending one numbered segment with a timer. -/
theorem Guards.send {d : Datagram} {m : TimerManager RetransmitClosure} {timeoutMs : UInt64}
    {c : RetransmitClosure} {n : Nat} (h : Guards a gs)
    (hunack : b.sendWindow.sendUnack = a.sendWindow.sendUnack)
    (hinflight : b.inflight.toNat = a.inflight.toNat + d.packet.span + n)
    (hseq : d.packet.seq = a.sendWindow.sendNext) (hspan : d.packet.span ≠ 0)
    (htimers : b.timerManager = m.startTimer a.sendWindow.sendNext timeoutMs c)
    (hold : ∀ g ∈ gs, m.activeAt g.packet.seq = a.timerManager.activeAt g.packet.seq)
    (hpacket : c.packet = d.packet) (hcount : c.retransmitCount = 0)
    (hbound : b.inflight.toNat + 2 * b.state.rank ≤ 2048) (hlisten : b.state ≠ .listen)
    (hawaits : b.state.AwaitsOne → d.packet.span = 1 ∧ ∀ g ∈ gs, g.packet.span = 1) :
    Guards b (gs ++ [⟨d.packet, 0⟩]) := by
  have hone : (1 : UInt32).toNat = 1 := rfl
  -- the new segment starts behind everything in flight
  have hoffset : (a.sendWindow.sendNext + 1 - a.sendWindow.sendUnack).toNat =
      a.inflight.toNat + 1 := by
    have heq : a.sendWindow.sendNext + 1 - a.sendWindow.sendUnack = a.inflight + 1 := by
      unfold inflight
      grind
    rw [heq, UInt32.toNat_add]
    omega
  constructor
  · intro g hg
    rw [List.mem_append, List.mem_singleton] at hg
    rcases hg with hg | rfl
    · exact (h.placed g hg).extend hunack (by omega)
    · refine ⟨hspan, ?_, ?_⟩
      · unfold OutstandingSegment.offset
        dsimp only
        rw [hunack, hseq]
        omega
      · unfold OutstandingSegment.offset
        dsimp only
        rw [hunack, hseq]
        omega
  · intro g hg hlive
    rw [htimers, TimerManager.activeAt_startTimer]
    rw [List.mem_append, List.mem_singleton] at hg
    rcases hg with hg | rfl
    · have hne : g.packet.seq ≠ a.sendWindow.sendNext := by
        intro heq
        have hhigh := (h.placed g hg).high
        have hne := (h.placed g hg).span
        unfold OutstandingSegment.offset at hhigh
        rw [heq] at hhigh
        omega
      rw [if_neg hne, hold g hg]
      exact h.guarded g hg hlive
    · rw [if_pos hseq]
      exact ⟨_, rfl, resends_startTimer hpacket hcount⟩
  · exact fun _ => hbound
  · exact fun h => absurd h hlisten
  · intro hwaits
    rcases hawaits hwaits with ⟨hd, hgs⟩
    constructor
    · intro hzero
      rw [hzero, UInt32.toNat_zero] at hinflight
      omega
    · intro g hg
      rw [List.mem_append, List.mem_singleton] at hg
      rcases hg with hg | rfl
      · exact hgs g hg
      · exact hd

/-- Opening a connection leaves its SYN outstanding. -/
theorem guards_opened {d : Datagram} {m : TimerManager RetransmitClosure} {iss : UInt32}
    {timeoutMs : UInt64} {c : RetransmitClosure}
    (hunack : b.sendWindow.sendUnack = iss) (hnext : b.sendWindow.sendNext = iss + 1)
    (hseq : d.packet.seq = iss) (hspan : d.packet.span = 1)
    (htimers : b.timerManager = m.startTimer iss timeoutMs c)
    (hpacket : c.packet = d.packet) (hcount : c.retransmitCount = 0)
    (hlisten : b.state ≠ .listen) : Guards b [⟨d.packet, 0⟩] := by
  have hinflight : b.inflight = 1 := by
    rw [inflight, hunack, hnext]
    grind
  have hone : (1 : UInt32).toNat = 1 := rfl
  have hoffset : (iss + 1 - iss).toNat = 1 := by
    have heq : iss + 1 - iss = 1 := by grind
    rw [heq, hone]
  have hrank : b.state.rank ≤ 9 := by
    cases b.state <;> decide
  constructor
  · intro g hg
    rw [List.mem_singleton] at hg
    subst hg
    refine ⟨by simp [hspan], ?_, ?_⟩
    · unfold OutstandingSegment.offset
      dsimp only
      rw [hunack, hseq, hspan]
      omega
    · unfold OutstandingSegment.offset
      dsimp only
      rw [hunack, hseq, hspan, hinflight]
      omega
  · intro g hg _
    rw [List.mem_singleton] at hg
    subst hg
    rw [htimers, TimerManager.activeAt_startTimer, if_pos hseq]
    exact ⟨_, rfl, resends_startTimer hpacket hcount⟩
  · intro _
    rw [hinflight]
    omega
  · exact fun h => absurd h hlisten
  · intro _
    rw [hinflight]
    refine ⟨by decide, ?_⟩
    intro g hg
    rw [List.mem_singleton] at hg
    rw [hg, hspan]

/-- The segments that an acknowledgment leaves outstanding stay placed, if it ends inside
none of them behind its first number. -/
theorem Placed.release {g : OutstandingSegment} {ackNum : UInt32} (h : Placed a g)
    (hunack : b.sendWindow.sendUnack = ackNum)
    (hinflight : b.inflight.toNat + (ackNum - a.sendWindow.sendUnack).toNat = a.inflight.toNat)
    (hcovered : ¬ g.Covered a.sendWindow.sendUnack ackNum)
    (hinside : 1 < (ackNum - g.packet.seq).toNat →
      ¬ (ackNum - g.packet.seq).toNat < g.packet.span) : Placed b g := by
  rw [h.covered_iff] at hcovered
  have hhigh := h.high
  have hone : (1 : UInt32).toNat = 1 := rfl
  have hlt := a.inflight.toNat_lt
  -- at most the first number of the segment is acknowledged
  have hbehind : (ackNum - a.sendWindow.sendUnack).toNat ≤
      g.offset a.sendWindow.sendUnack := by
    by_contra hahead
    have hle : g.packet.seq + 1 - a.sendWindow.sendUnack ≤
        ackNum - a.sendWindow.sendUnack := by
      rw [UInt32.le_iff_toNat_le]
      unfold OutstandingSegment.offset at hahead
      omega
    have hsub : (ackNum - g.packet.seq).toNat =
        (ackNum - a.sendWindow.sendUnack).toNat - g.offset a.sendWindow.sendUnack + 1 := by
      have heq : ackNum - g.packet.seq = ackNum - a.sendWindow.sendUnack -
          (g.packet.seq + 1 - a.sendWindow.sendUnack) + 1 := by
        grind
      unfold OutstandingSegment.offset at hahead ⊢
      rw [heq, UInt32.toNat_add, UInt32.toNat_sub_of_le _ _ hle]
      omega
    exact hinside (by omega) (by omega)
  have hoffset : g.offset a.sendWindow.sendUnack =
      (ackNum - a.sendWindow.sendUnack).toNat + g.offset ackNum := by
    have hle : ackNum - a.sendWindow.sendUnack ≤
        g.packet.seq + 1 - a.sendWindow.sendUnack := by
      rw [UInt32.le_iff_toNat_le]
      exact hbehind
    have heq : g.packet.seq + 1 - ackNum = g.packet.seq + 1 - a.sendWindow.sendUnack -
        (ackNum - a.sendWindow.sendUnack) := by
      grind
    unfold OutstandingSegment.offset at hbehind ⊢
    rw [heq, UInt32.toNat_sub_of_le _ _ hle]
    omega
  refine ⟨h.span, ?_, ?_⟩
  · rw [hunack]
    omega
  · rw [hunack]
    omega

/-- An acknowledgment of one more number in a state that waits for it. -/
theorem Guards.advance (h : Guards a gs) {before : TcpState} (after : TcpState)
    (hbefore : a.state = before) (hafter : b.state = after) (hawaits : before.AwaitsOne)
    (hnext' : before.GoesOn after) (hnot : ¬ after.AwaitsOne)
    (hunack : b.sendWindow.sendUnack = a.sendWindow.sendUnack + 1)
    (hnext : b.sendWindow.sendNext = a.sendWindow.sendNext)
    (htimers : ∀ k, k ≠ a.sendWindow.sendUnack →
      b.timerManager.activeAt k = a.timerManager.activeAt k) :
    Guards b (gs.filter fun g =>
      ¬ g.Covered a.sendWindow.sendUnack (a.sendWindow.sendUnack + 1)) := by
  subst hbefore hafter
  rcases h.awaits hawaits with ⟨hne, hspans⟩
  have hone : (1 : UInt32).toNat = 1 := rfl
  have hpos : 0 < a.inflight.toNat := by
    rw [Nat.pos_iff_ne_zero, Ne, ← UInt32.toNat_zero, UInt32.toNat_inj]
    exact hne
  have hstep : (a.sendWindow.sendUnack + 1 - a.sendWindow.sendUnack).toNat = 1 := by
    have heq : a.sendWindow.sendUnack + 1 - a.sendWindow.sendUnack = 1 := by grind
    rw [heq, hone]
  have hinflight : b.inflight.toNat + 1 = a.inflight.toNat := by
    have heq : b.inflight = a.inflight - 1 := by
      unfold inflight
      rw [hunack, hnext]
      grind
    rw [heq, UInt32.toNat_sub_of_le _ _ (by rw [UInt32.le_iff_toNat_le]; omega)]
    omega
  have hrest : ∀ g ∈ gs, ¬ g.Covered a.sendWindow.sendUnack (a.sendWindow.sendUnack + 1) →
      Placed b g ∧ g.packet.seq ≠ a.sendWindow.sendUnack := by
    intro g hg hcovered
    have hspan := hspans g hg
    refine ⟨(h.placed g hg).release hunack (by rw [hstep]; exact hinflight) hcovered
      (by omega), ?_⟩
    intro heq
    rw [(h.placed g hg).covered_iff, OutstandingSegment.offset, heq, hspan, hstep] at hcovered
    omega
  constructor
  · intro g hg
    rw [List.mem_filter, decide_eq_true_eq] at hg
    exact (hrest g hg.1 hg.2).1
  · intro g hg hlive
    rw [List.mem_filter, decide_eq_true_eq] at hg
    rw [htimers _ (hrest g hg.1 hg.2).2]
    exact h.guarded g hg.1 hlive
  · intro _
    have hbound := h.bound hnext'.listen
    have hrank := hnext'.rank
    omega
  · exact fun h => absurd h hnext'.listen'
  · exact fun h => absurd h hnot

/-- An accepted acknowledgment that does not end inside an outstanding segment. -/
theorem Guards.release {ackNum : UInt32} (h : Guards a gs) (hstate : a.state = .established)
    (haccepts : a.acceptsAck ackNum = true) (hthird : a.NothingToFastRetransmit ackNum)
    (hinside : ∀ g ∈ gs, 1 < (ackNum - g.packet.seq).toNat →
      ¬ (ackNum - g.packet.seq).toNat < g.packet.span) :
    Guards (a.processAck ackNum)
      (gs.filter fun g => ¬ g.Covered a.sendWindow.sendUnack ackNum) := by
  rcases acceptsAck_iff.mp haccepts with ⟨hlow, hhigh⟩
  have hpred := toNat_pred_of_lt hlow
  rw [UInt32.lt_iff_toNat_lt] at hlow
  rw [UInt32.le_iff_toNat_le] at hhigh
  have hnext := (activeAt_processAck hthird 0).2
  have hdist : (ackNum - a.sendWindow.sendUnack).toNat =
      ackNum.toNat - a.sendWindow.sendUnack.toNat :=
    UInt32.toNat_sub_of_le _ _ (UInt32.le_iff_toNat_le.mpr (by omega))
  have hbefore : a.inflight.toNat =
      a.sendWindow.sendNext.toNat - a.sendWindow.sendUnack.toNat :=
    UInt32.toNat_sub_of_le _ _ (UInt32.le_iff_toNat_le.mpr (by omega))
  have hafter : (a.processAck ackNum).inflight.toNat =
      a.sendWindow.sendNext.toNat - ackNum.toNat := by
    rw [inflight, processAck_sendUnack, hnext]
    exact UInt32.toNat_sub_of_le _ _ (UInt32.le_iff_toNat_le.mpr (by omega))
  have hrest : ∀ g ∈ gs, ¬ g.Covered a.sendWindow.sendUnack ackNum →
      Placed (a.processAck ackNum) g := by
    intro g hg hcovered
    exact (h.placed g hg).release (processAck_sendUnack _ _) (by omega) hcovered
      (hinside g hg)
  constructor
  · intro g hg
    rw [List.mem_filter, decide_eq_true_eq] at hg
    exact hrest g hg.1 hg.2
  · intro g hg hlive
    rw [List.mem_filter, decide_eq_true_eq] at hg
    -- the numbers from the acknowledged one to the next one do not wrap
    have hkeep : ¬ g.packet.seq < ackNum - 1 := by
      have hplaced := hrest g hg.1 hg.2
      have hhigh' := hplaced.high
      have hspan := hplaced.span
      have hlt := a.sendWindow.sendNext.toNat_lt
      have heq : g.packet.seq = ackNum - 1 + (g.packet.seq + 1 - ackNum) := by grind
      rw [processAck_sendUnack, OutstandingSegment.offset] at hhigh'
      rw [UInt32.lt_iff_toNat_lt, heq, UInt32.toNat_add]
      omega
    rw [(activeAt_processAck hthird _).1, if_neg hkeep]
    exact h.guarded g hg.1 hlive
  · intro _
    have hbound := h.bound (by simp [hstate])
    rw [processAck_state]
    omega
  · intro hlisten
    rw [processAck_state, hstate] at hlisten
    contradiction
  · intro hwaits
    rw [processAck_state, hstate] at hwaits
    exact absurd hwaits (by decide)

end Guards

/-! ## Moves -/

section Moves

variable {s₀ a b : TcpSession} {gs : List OutstandingSegment}

/-- The numbered packets of two lists. -/
theorem numbered_append (l₁ l₂ : List Datagram) :
    numbered (l₁ ++ l₂) = numbered l₁ ++ numbered l₂ := by
  simp [numbered]

/-- A packet without numbers needs no guard. -/
theorem numbered_singleton (d : Datagram) :
    numbered [d] = if d.packet.span = 0 then [] else [⟨d.packet, 0⟩] := by
  by_cases h : d.packet.span = 0 <;> simp [numbered, h]

/-- As long as no number is acknowledged, what is sent is added. -/
theorem outstandingAfter_append (hbefore : s₀.sent <+: a.sent) (hafter : a.sent <+: b.sent)
    (hunack : b.sendWindow.sendUnack = a.sendWindow.sendUnack) :
    outstandingAfter s₀ b gs = outstandingAfter s₀ a gs ++ numbered (newDatagrams a b) := by
  rw [outstandingAfter, outstandingAfter, hunack, newDatagrams_trans hbefore hafter,
    numbered_append, List.append_assoc]

/-- Before anything is sent or acknowledged, the outstanding segments are as before. -/
theorem Guards.outstandingAfter_self (h : Guards s₀ gs) (hsent : a.sent = s₀.sent)
    (hunack : a.sendWindow.sendUnack = s₀.sendWindow.sendUnack) :
    outstandingAfter s₀ a gs = gs := by
  have hall : ∀ g ∈ gs, decide
      (¬ g.Covered s₀.sendWindow.sendUnack s₀.sendWindow.sendUnack) = true := by
    intro g hg
    exact decide_eq_true (h.placed g hg).not_covered_self
  rw [outstandingAfter, hunack, newDatagrams, hsent, List.drop_length,
    List.filter_eq_self.mpr hall]
  exact List.append_nil _

/-- The log has grown since the step began, and what it adds is guarded. -/
structure GuardsAfter (s₀ : TcpSession) (gs : List OutstandingSegment) (t : TcpSession) :
    Prop where
  sent : s₀.sent <+: t.sent
  guards : t.state ≠ .closed → Guards t (outstandingAfter s₀ t gs)

/-- A move that sends no number keeps the guards. -/
theorem GuardsAfter.of_eq (h : GuardsAfter s₀ gs a) (hsent : a.sent <+: b.sent)
    (hnew : numbered (newDatagrams a b) = []) (hwindow : b.sendWindow = a.sendWindow)
    (htimers : ∀ k, b.timerManager.activeAt k = a.timerManager.activeAt k)
    (hclosed : b.state ≠ .closed → a.state ≠ .closed)
    (hstate : b.state = a.state ∨
      a.state.GoesOn b.state ∧ ¬ b.state.AwaitsOne) :
    GuardsAfter s₀ gs b where
  sent := h.sent.trans hsent
  guards hopen := by
    rw [outstandingAfter_append h.sent hsent (by rw [hwindow]), hnew, List.append_nil]
    exact (h.guards (hclosed hopen)).of_eq hwindow htimers hstate

/-- A move that changes nothing of this. -/
theorem GuardsAfter.quiet (h : GuardsAfter s₀ gs a) (hsent : b.sent = a.sent)
    (hwindow : b.sendWindow = a.sendWindow) (htimers : b.timerManager = a.timerManager)
    (hstate : b.state = a.state) : GuardsAfter s₀ gs b := by
  refine h.of_eq (by rw [hsent]) ?_ hwindow (by simp [htimers]) (by simp [hstate])
    (Or.inl hstate)
  rw [newDatagrams, hsent, List.drop_length]
  rfl

/-- A closed session owes no guard. -/
theorem GuardsAfter.closed (h : GuardsAfter s₀ gs a) (hsent : a.sent <+: b.sent)
    (hstate : b.state = .closed) : GuardsAfter s₀ gs b :=
  ⟨h.sent.trans hsent, fun hopen => absurd hstate hopen⟩

/-- A move that sends one numbered segment with a timer. -/
theorem GuardsAfter.send {d : Datagram} (h : GuardsAfter s₀ gs a)
    (hsent : b.sent = a.sent ++ [d]) (hspan : d.packet.span ≠ 0)
    (hunack : b.sendWindow.sendUnack = a.sendWindow.sendUnack)
    (hguards : Guards b (outstandingAfter s₀ a gs ++ [⟨d.packet, 0⟩])) :
    GuardsAfter s₀ gs b := by
  have hprefix : a.sent <+: b.sent := by
    rw [hsent]
    exact List.prefix_append _ _
  refine ⟨h.sent.trans hprefix, fun _ => ?_⟩
  rw [outstandingAfter_append h.sent hprefix hunack, newDatagrams_of_append hsent,
    numbered_singleton, if_neg hspan]
  exact hguards

/-- How many numbers a datagram takes. -/
theorem datagram_span (t : TcpSession) (flags : UInt8) (ackNum : UInt32) (payload : List UInt8) :
    (t.datagram flags ackNum payload).packet.span =
      if (flags &&& flagSyn != 0) || (flags &&& flagFin != 0) then 1 else payload.length :=
  rfl

/-- A pure acknowledgment takes none. -/
theorem span_pureAck (t : TcpSession) (ackNum : UInt32) :
    (t.datagram flagAck ackNum []).packet.span = 0 := by
  rw [datagram_span, if_neg (by decide)]
  rfl

/-- {lit}`_handle_try_send` starts a timer for what it sends. -/
theorem GuardsAfter.trySend (h : GuardsAfter s₀ gs a) : GuardsAfter s₀ gs a.handleTrySend := by
  by_cases htransmits : a.Transmits
  · have hopen : a.state ≠ .closed := by
      rcases htransmits.1 with hstate | hstate <;> simp [hstate]
    have hspan : (a.datagram flagAck a.recvWindow.recvNext a.nextPayload).packet.span =
        a.nextPayload.length :=
      datagram_span _ _ _ _
    have hpos := List.length_pos_iff.mpr (a.nextPayload_ne_nil htransmits)
    have hinflight := a.toNat_inflight_handleTrySend htransmits
    have hsize := a.sendBuffer.size_le
    have hlen := a.length_nextPayload
    have hrank : a.state.rank ≤ 6 := by
      rcases htransmits.1 with hstate | hstate <;> simp [hstate, TcpState.rank]
    have hwaits : ¬ a.handleTrySend.state.AwaitsOne := by
      rw [handleTrySend_state]
      rcases htransmits.1 with hstate | hstate <;> rw [hstate] <;> decide
    have hlisten : a.handleTrySend.state ≠ .listen := by
      rw [handleTrySend_state]
      rcases htransmits.1 with hstate | hstate <;> simp [hstate]
    have hbound : a.handleTrySend.inflight.toNat + 2 * a.handleTrySend.state.rank ≤ 2048 := by
      rw [hinflight, handleTrySend_state]
      omega
    have hframe := a.handleTrySend_of_transmits htransmits
    refine h.send (d := a.datagram flagAck a.recvWindow.recvNext a.nextPayload)
      (by rw [hframe]) (by omega) (handleTrySend_sendUnack a) ?_
    exact (h.guards hopen).send (n := 0) (handleTrySend_sendUnack a)
      (by rw [hinflight, hspan, Nat.add_zero]) (datagram_seq _ _ _ _) (by omega)
      (by rw [hframe]) (fun _ _ => rfl) rfl rfl hbound hlisten (fun hone => absurd hone hwaits)
  · rw [handleTrySend_of_not _ htransmits]
    exact h

/-- A move that sends one SYN or FIN with a timer, and goes on to a state of lower rank. -/
theorem GuardsAfter.control {flags : UInt8} {ackNum : UInt32} {n : Nat}
    {m : TimerManager RetransmitClosure} (h : GuardsAfter s₀ gs a) {before : TcpState}
    (after : TcpState) (hbefore : a.state = before) (hafter : b.state = after)
    (hflags : ((flags &&& flagSyn != 0) || (flags &&& flagFin != 0)) = true)
    (hsent : b.sent = a.sent ++ [a.datagram flags ackNum []])
    (hunack : b.sendWindow.sendUnack = a.sendWindow.sendUnack)
    (hnext : b.sendWindow.sendNext = a.sendWindow.sendNext + 1 + UInt32.ofNat n) (hn : n ≤ 1)
    (htimers : b.timerManager = m.startTimer a.sendWindow.sendNext a.getTimeoutMs
      (a.controlClosure flags ackNum))
    (hold : ∀ g ∈ outstandingAfter s₀ a gs,
      m.activeAt g.packet.seq = a.timerManager.activeAt g.packet.seq)
    (hnext' : before.GoesOn after)
    (hawaits : after.AwaitsOne → ∀ g ∈ outstandingAfter s₀ a gs, g.packet.span = 1) :
    GuardsAfter s₀ gs b := by
  subst hbefore hafter
  have hguards := h.guards hnext'.opened
  have hbound := hguards.bound hnext'.listen
  have hrank := hnext'.rank
  have hspan : (a.datagram flags ackNum []).packet.span = 1 := by
    rw [datagram_span, if_pos hflags]
  have hinflight : b.inflight.toNat = a.inflight.toNat + 1 + n := by
    have heq : b.inflight = a.inflight + UInt32.ofNat (1 + n) := by
      have hone : UInt32.ofNat (1 + n) = 1 + UInt32.ofNat n := UInt32.ofNat_add 1 n
      unfold inflight
      rw [hunack, hnext, hone]
      grind
    rw [heq, UInt32.toNat_add, UInt32.toNat_ofNat']
    omega
  refine h.send hsent (by omega) hunack ?_
  refine hguards.send (n := n) hunack (by rw [hspan]; exact hinflight) (datagram_seq _ _ _ _)
    (by omega) htimers hold rfl rfl (by omega) hnext'.listen' ?_
  exact fun hone => ⟨hspan, hawaits hone⟩

/-- An acknowledgment move leaves the segments outstanding that it does not cover. -/
theorem guardsAfter_acked {ackNum : UInt32} (hsent : b.sent = s₀.sent ∨
      ∃ d, b.sent = s₀.sent ++ [d] ∧ d.packet.span = 0)
    (hunack : b.sendWindow.sendUnack = ackNum)
    (hguards : Guards b (gs.filter fun g => ¬ g.Covered s₀.sendWindow.sendUnack ackNum)) :
    GuardsAfter s₀ gs b := by
  have hnew : s₀.sent <+: b.sent ∧ numbered (newDatagrams s₀ b) = [] := by
    rcases hsent with hsent | ⟨d, hsent, hspan⟩
    · rw [newDatagrams, hsent, List.drop_length]
      exact ⟨List.prefix_rfl, rfl⟩
    · rw [newDatagrams_of_append hsent, numbered_singleton, if_pos hspan, hsent]
      exact ⟨List.prefix_append _ _, rfl⟩
  refine ⟨hnew.1, fun _ => ?_⟩
  rw [outstandingAfter, hnew.2, List.append_nil, hunack]
  exact hguards

/-- Every move keeps the outstanding segments guarded, connects, expiries and the discarding
{lit}`close()` apart. -/
theorem Move.guards {e : Event} (hclosed : s₀.state = .closed → gs = [])
    (hguards : s₀.state ≠ .closed → Guards s₀ gs) (hconnect : ∀ iss, e ≠ .connect iss)
    (hexpire : ∀ k, e ≠ .expire k) (hclose : e = .close → s₀.state ≠ .established)
    (hcondition : ¬ Unguards (s₀, gs) e) (h : GuardsAfter s₀ gs a) (hmove : Move s₀ e a b) :
    GuardsAfter s₀ gs b := by
  have hsent := hmove.sent_prefix
  cases hmove with
  | note s peer wantClose calls => exact h.quiet rfl rfl rfl rfl
  | setRemoteAddr ip port => exact h.quiet rfl rfl rfl rfl
  | setListenerPort port => exact h.quiet rfl rfl rfl rfl
  | connect iss => exact absurd rfl (hconnect iss)
  | listen hstate =>
      refine ⟨hsent, fun _ => ?_⟩
      have hnil : outstandingAfter s₀ (s₀.transitionTo .listen) gs = [] := by
        rw [hclosed hstate, outstandingAfter, newDatagrams]
        simp [transitionTo, numbered]
      rw [hnil]
      refine ⟨by simp, by simp, fun hlisten => absurd rfl hlisten, fun _ => rfl, ?_⟩
      exact fun hone => absurd hone (by simp [TcpState.AwaitsOne, transitionTo])
  | enqueue hpush => exact h.quiet rfl rfl rfl rfl
  | trySend s => exact h.trySend
  | read s hn => exact h.quiet rfl rfl rfl rfl
  | closeEstablished hstate => exact absurd hstate (hclose rfl)
  | closeCloseWait s hstate =>
      rw [closeCloseWait_eq]
      exact h.control (n := 0) .lastAck hstate rfl (by decide) rfl rfl (UInt32.add_zero _).symm
        (by decide) rfl (fun _ _ => rfl) (by decide) (fun hone => absurd hone (by decide))
  | abortOpening hstate => exact h.closed hsent rfl
  | reset hrst => exact h.closed hsent rfl
  | @passiveOpen packet iss hstate hsyn =>
      have hnil := (hguards (by simp [hstate])).listening hstate
      have hspan : (((s₀.observe packet).atSeq iss).datagram (flagSyn ||| flagAck)
          (packet.seq + 1) []).packet.span = 1 := by
        rw [datagram_span, if_pos (by decide)]
      refine ⟨h.sent.trans hsent, fun _ => ?_⟩
      rw [handleListen_eq _ hsyn, outstandingAfter, hnil,
        newDatagrams_of_append (s := s₀) rfl, numbered_singleton, hspan]
      exact guards_opened rfl rfl (datagram_seq _ _ _ _) hspan rfl rfl rfl (by simp)
  | @synAck packet iss hstate hsyn hflag hack =>
      rw [acceptSynAck_eq]
      refine guardsAfter_acked (Or.inr ⟨_, rfl, span_pureAck _ _⟩) hack ?_
      exact (hguards (by simp [hstate])).advance .established hstate rfl (by decide) (by decide)
        (by decide) hack rfl
        (fun k hk => (TimerManager.activeAt_stopTimer _ _ _).trans (if_neg hk))
  | peerSyn hstate hsyn hflag =>
      have hspans := ((h.guards (by simp [observe, setPeerUsableWindowSize, hstate])).awaits
        (Or.inl hstate)).2
      rw [acceptPeerSyn_eq]
      exact h.control (n := 0) (a := s₀.observe _) .synReceived hstate rfl (by decide) rfl rfl
        (UInt32.add_zero _).symm (by decide) rfl (fun _ _ => rfl) (by decide) (fun _ => hspans)
  | @synReceivedAck packet iss hstate hflag hack =>
      have hkey : packet.ack - 1 = s₀.sendWindow.sendUnack := by
        rw [hack, UInt32.add_sub_cancel]
      refine guardsAfter_acked (Or.inl rfl) hack ?_
      refine (hguards (by simp [hstate])).advance .established hstate rfl (by decide) (by decide)
        (by decide) hack rfl ?_
      intro k hk
      exact (TimerManager.activeAt_stopTimer _ _ _).trans (if_neg (by rwa [hkey]))
  | @ack packet iss haccepts =>
      have hstate : (s₀.observe packet).state = .established := haccepts.2.1
      have hopen : s₀.state ≠ .closed := by simp [haccepts.2.1]
      unfold Unguards at hcondition
      rw [not_and, not_or, not_not] at hcondition
      rcases hcondition haccepts with ⟨hthird, hinside⟩
      have hthird' := (s₀.nothingToFastRetransmit_observe packet).mpr hthird
      refine guardsAfter_acked (Or.inl (sent_processAck hthird')) (processAck_sendUnack _ _) ?_
      refine Guards.release ((hguards hopen).of_eq rfl (fun _ => rfl) (Or.inl rfl)) hstate
        haccepts.2.2.2 hthird' ?_
      intro g hg hlow hhigh
      exact hinside ⟨g, hg, hlow, hhigh⟩
  | pureAck s hstate =>
      refine h.of_eq hsent ?_ rfl (fun _ => rfl) (fun hopen => hopen) (Or.inl rfl)
      rw [sendPureAck_eq, newDatagrams_of_append rfl, numbered_singleton,
        if_pos (span_pureAck _ _)]
  | inOrder s hstate hseq hdrain =>
      rw [acceptPayload]
      split <;> exact h.quiet rfl rfl rfl rfl
  | outOfOrder s hstate hseq =>
      rw [storeOutOfOrder]
      split <;> exact h.quiet rfl rfl rfl rfl
  | @fin packet iss s next hfin hnext horder =>
      refine h.of_eq hsent ?_ rfl (fun _ => rfl) ?_ ?_
      · rw [acceptFin_eq, transitionTo, newDatagrams_of_append rfl, numbered_singleton,
          if_pos (span_pureAck _ _)]
      · intro _
        generalize a.state = before at hnext
        cases hnext <;> simp
      · have hgoes : ∀ x y, FinTransition x y → y = x ∨ TcpState.GoesOn x y ∧ ¬ y.AwaitsOne := by
          intro x y hxy
          cases hxy <;> decide
        exact hgoes _ _ hnext
  | @finAcked packet iss hstate hflag hack =>
      have hkey : packet.ack - 1 = s₀.sendWindow.sendUnack := by
        rw [hack, UInt32.add_sub_cancel]
      refine guardsAfter_acked (Or.inl rfl) hack ?_
      refine (hguards (by simp [hstate])).advance .finWait2 hstate rfl (by decide) (by decide)
        (by decide) hack rfl ?_
      intro k hk
      exact (TimerManager.activeAt_stopTimer _ _ _).trans (if_neg (by rwa [hkey]))
  | start2Msl s hstate =>
      refine h.of_eq hsent ?_ rfl (fun _ => rfl) (fun hopen => hopen) (Or.inl rfl)
      rw [newDatagrams, start2MslTimer, List.drop_length]
      rfl
  | finishCloseWait s hstate =>
      by_cases hdrained : a.Drained
      · have hinflight : a.inflight = 0 := by
          rw [inflight, hdrained.2.2, UInt32.sub_self]
        have hnil := (h.guards (by simp [hstate])).eq_nil hinflight
        rw [finishCloseWait_of_drained _ hdrained]
        exact h.control (n := 1) (m := a.timerManager.stopAllTimers) .lastAck hstate rfl
          (by decide) rfl rfl rfl le_rfl rfl (by simp [hnil]) (by decide) (by simp [hnil])
      · rw [finishCloseWait_of_not _ hdrained]
        exact h
  | lastAck hstate hflag hack => exact h.closed hsent rfl
  | expire hactive => exact absurd rfl (hexpire _)
  | expire2Msl hactive => exact h.closed hsent rfl

end Moves

/-! ## Steps -/

section Steps

variable {s s' : TcpSession} {gs : List OutstandingSegment}

/-- A connect leaves its SYN outstanding. -/
theorem guards_connect (s : TcpSession) (iss : UInt32) :
    Guards (s.connect iss) (numbered (newDatagrams s (s.connect iss))) := by
  have hspan : ((s.atSeq iss).datagram flagSyn s.recvWindow.recvNext []).packet.span = 1 := by
    rw [datagram_span, if_pos (by decide)]
  rw [connect_eq, newDatagrams_of_append rfl, numbered_singleton, hspan]
  exact guards_opened rfl rfl (datagram_seq _ _ _ _) hspan rfl rfl rfl (by simp)

/-- A {lit}`close()` in ESTABLISHED discards the data in flight and leaves its FIN
outstanding. -/
theorem Guards.close (h : Guards s gs) (hstate : s.state = .established) :
    Guards s.close ((numbered (newDatagrams s s.close)).filter
      fun g => g.packet.has flagFin) := by
  have htry : GuardsAfter s gs s.handleTrySend := by
    apply GuardsAfter.trySend
    refine ⟨List.prefix_rfl, fun _ => ?_⟩
    rw [h.outstandingAfter_self rfl rfl]
    exact h
  have hopen := s.handleTrySend_state.trans hstate
  have hclose : s.close = s.handleTrySend.closeEstablished := by
    rw [TcpSession.close, hstate]
  -- nothing of what was sent before counts from here on
  have hdiscard : GuardsAfter s.handleTrySend [] s.handleTrySend := by
    refine ⟨List.prefix_rfl, fun hne => ⟨?_, ?_, (htry.guards hne).bound, ?_, ?_⟩⟩
    all_goals rw [outstandingAfter, newDatagrams, List.drop_length]
    · simp [numbered]
    · simp [numbered]
    · simp [numbered]
    · rw [hopen]
      exact fun hone => absurd hone (by decide)
  have hframe := s.handleTrySend.closeEstablished_eq
  have hfin : GuardsAfter s.handleTrySend [] s.close := by
    rw [hclose, hframe]
    refine hdiscard.control (n := 0) (m := s.handleTrySend.timerManager.stopAllTimers) .finWait1
      hopen rfl (by decide) rfl rfl (UInt32.add_zero _).symm (by decide) rfl ?_ (by decide) ?_
    all_goals simp [outstandingAfter, newDatagrams, numbered]
  have hlast : newDatagrams s.handleTrySend s.close =
      [s.handleTrySend.datagram flagFin s.handleTrySend.recvWindow.recvNext []] := by
    rw [hclose, hframe]
    exact newDatagrams_of_append rfl
  have hdata : (numbered (newDatagrams s s.handleTrySend)).filter
      (fun g => g.packet.has flagFin) = [] := by
    rw [newDatagrams_handleTrySend]
    split
    · rw [numbered_singleton]
      split
      · rfl
      · simp [show flagAck &&& flagFin = 0 by decide]
    · rfl
  have hspan : (s.handleTrySend.datagram flagFin s.handleTrySend.recvWindow.recvNext
      []).packet.span ≠ 0 := by
    rw [datagram_span, if_pos (by decide)]
    exact one_ne_zero
  have hguards := hfin.guards (by rw [hclose, hframe]; simp)
  rw [newDatagrams_trans (sent_prefix_handleTrySend s) hfin.sent, numbered_append,
    List.filter_append, hdata, hlast, numbered_singleton, if_neg hspan]
  rw [outstandingAfter, hlast, numbered_singleton, if_neg hspan] at hguards
  simpa [show flagFin ≠ 0 by decide] using hguards

/-- An expiry touches its own timer only. -/
theorem activeAt_expire_of_ne {j k : UInt32} (hkeyed : s.Keyed) (hne : j ≠ k)
    (h : s.expire k = some s') : s'.timerManager.activeAt j = s.timerManager.activeAt j := by
  rcases expire_eq_some_iff.mp h with ⟨t, ht, rfl⟩
  have hkey := hkeyed k t ht
  by_cases hlimit : t.callback.retransmitCount + 1 ≥ maxRetransmitCount
  · rw [runClosure_of_limit _ hlimit, hkey]
    simp [TimerManager.activeAt_stopTimer, hne]
  · rw [runClosure_of_lt _ hlimit, hkey]
    simp [TimerManager.activeAt_stopTimer, TimerManager.activeAt_startTimer, hne]

/-- Below the limit, the timer that has expired is active again. -/
theorem activeAt_expire_self {k : UInt32} {t : UvTimer RetransmitClosure}
    (ht : s.timerManager.activeAt k = some t) (hkey : t.callback.packet.seq = k)
    (hcount : t.callback.retransmitCount.toNat + 1 < maxRetransmitCount.toNat)
    (h : s.expire k = some s') :
    ∃ t', s'.timerManager.activeAt k = some t' ∧
      t'.callback.packet = s.refreshPacket t.callback.packet ∧
      t'.callback.retransmitCount.toNat = t.callback.retransmitCount.toNat + 1 := by
  rcases expire_eq_some_iff.mp h with ⟨u, hu, rfl⟩
  cases ht.symm.trans hu
  have hmax : maxRetransmitCount.toNat = 5 := rfl
  have hone : (1 : UInt32).toNat = 1 := rfl
  have hsucc : (t.callback.retransmitCount + 1).toNat = t.callback.retransmitCount.toNat + 1 := by
    rw [UInt32.toNat_add]
    omega
  have hlimit : ¬ t.callback.retransmitCount + 1 ≥ maxRetransmitCount := by
    rw [ge_iff_le, UInt32.le_iff_toNat_le]
    omega
  rw [runClosure_of_lt _ hlimit, hkey]
  exact ⟨_, (TimerManager.activeAt_startTimer _ _ _ _ _).trans (if_pos rfl), rfl, hsucc⟩

/-- An expiry counts for the segment whose timer it is, and gives up or arms it again. -/
theorem Guards.expire {k : UInt32} (h : Guards s gs) (hkeyed : s.Keyed)
    (hstep : s.expire k = some s') : Guards s' (gs.map (OutstandingSegment.expire k)) := by
  have hpacket : ∀ g : OutstandingSegment, (g.expire k).packet = g.packet := by
    intro g
    unfold OutstandingSegment.expire
    split <;> rfl
  rcases expire_frame hstep with ⟨hstate, hunack, hnext, -⟩
  have hinflight : s'.inflight = s.inflight := by
    rw [inflight, inflight, hunack, hnext]
  constructor
  · intro g' hg'
    rcases List.mem_map.mp hg' with ⟨g, hg, rfl⟩
    have hplaced := (h.placed g hg).extend hunack (by rw [hinflight])
    refine ⟨?_, ?_, ?_⟩
    all_goals rw [hpacket]
    · exact hplaced.span
    · rw [OutstandingSegment.offset, hpacket]
      exact hplaced.low
    · rw [OutstandingSegment.offset, hpacket]
      exact hplaced.high
  · intro g' hg' hlive
    rcases List.mem_map.mp hg' with ⟨g, hg, rfl⟩
    rw [hpacket]
    by_cases hk : g.packet.seq = k
    · rw [OutstandingSegment.expire, if_pos hk] at hlive ⊢
      dsimp only at hlive ⊢
      rcases h.guarded g hg (by omega) with ⟨t, ht, hresends, hcount⟩
      rw [hk] at ht ⊢
      rcases activeAt_expire_self ht (hkeyed k t ht) (by omega) hstep with
        ⟨t', ht', hrefresh, hcount'⟩
      refine ⟨t', ht', ⟨?_, ?_, ?_⟩, by omega⟩
      · rw [hrefresh, refreshPacket_seq, hresends.seq]
      · rw [hrefresh, refreshPacket_flags, hresends.flags]
      · rw [hrefresh, refreshPacket_payload, hresends.payload]
    · rw [OutstandingSegment.expire, if_neg hk] at hlive ⊢
      rw [activeAt_expire_of_ne hkeyed hk hstep]
      exact h.guarded g hg hlive
  · rw [hstate, hinflight]
    exact h.bound
  · intro hlisten
    rw [h.listening (hstate ▸ hlisten)]
    rfl
  · intro hone
    rw [hstate] at hone
    rw [hinflight]
    refine ⟨(h.awaits hone).1, ?_⟩
    intro g' hg'
    rcases List.mem_map.mp hg' with ⟨g, hg, rfl⟩
    rw [hpacket]
    exact (h.awaits hone).2 g hg

/-- The invariant of a run. -/
structure GuardsInv (x : TcpSession × List OutstandingSegment) : Prop where
  keyed : x.1.Keyed
  closed : x.1.state = .closed → x.2 = []
  guards : x.1.state ≠ .closed → Guards x.1 x.2

/-- A step of a session that stays open keeps every outstanding segment guarded. -/
theorem guards_step {e : Event} (hinv : GuardsInv (s, gs)) (hcondition : ¬ Unguards (s, gs) e)
    (h : step s e = some s') (hopen : s'.state ≠ .closed) :
    Guards s' (recordOutstanding s e s' gs) := by
  have hmoves : (∀ iss, e ≠ .connect iss) → (∀ k, e ≠ .expire k) →
      (e = .close → s.state ≠ .established) → Guards s' (outstandingAfter s s' gs) := by
    intro hconnect hexpire hclose
    have hstart : GuardsAfter s gs s := by
      refine ⟨List.prefix_rfl, fun hne => ?_⟩
      rw [(hinv.guards hne).outstandingAfter_self rfl rfl]
      exact hinv.guards hne
    refine ((step_moves h).preserves (P := GuardsAfter s gs) ?_ hstart).guards hopen
    intro a b ha hmove
    exact hmove.guards hinv.closed hinv.guards hconnect hexpire hclose hcondition ha
  unfold recordOutstanding
  rw [if_neg hopen]
  cases e with
  | connect iss =>
      cases h
      exact guards_connect s iss
  | close =>
      dsimp only
      split <;> rename_i hstate
      · cases h
        exact (hinv.guards (by simp [hstate])).close hstate
      · exact hmoves (by simp) (by simp) (fun _ => hstate)
  | expire k =>
      have hbefore : s.state ≠ .closed := by
        rw [← (expire_frame h).1]
        exact hopen
      exact (hinv.guards hbefore).expire hinv.keyed h
  | _ => exact hmoves (by simp) (by simp) (by simp)

/-- So does a step with the list of outstanding segments. -/
theorem guardsInv_step {x y : TcpSession × List OutstandingSegment} {e : Event}
    (hinv : GuardsInv x) (hcondition : ¬ Unguards x e) (h : outstandingStep x e = some y) :
    GuardsInv y := by
  rcases StepFn.withGhost_eq_some.mp h with ⟨hstep, hghost⟩
  constructor
  · exact keyed_step hinv.keyed hstep
  · intro hclosed
    exact hghost.trans (if_pos hclosed)
  · intro hopen
    rw [hghost]
    exact guards_step hinv hcondition hstep hopen

end Steps

/-- In every run without an acknowledgment that ends inside a segment or finds something to
send again as a third duplicate, an active timer sends each outstanding segment again, unless
it has expired as often as is allowed. -/
theorem outstanding_guarded {s : TcpSession} (hs : Created s) {es : List Event}
    (hall : outstandingStep.AllSteps (fun x e => ¬ Unguards x e) (s, []) es)
    {x : TcpSession × List OutstandingSegment} (hrun : outstandingStep.run (s, []) es = some x) :
    ∀ g ∈ x.2, IsGuarded x.1 g := by
  have hstart : GuardsInv (s, []) :=
    ⟨hs.keyed, fun _ => rfl, fun hopen => absurd hs.state hopen⟩
  have hinv : GuardsInv x := (StepFn.reachable_of_run hall hrun).invariant hstart
    fun _ _ _ hbefore hcondition hstep => guardsInv_step hbefore hcondition hstep
  intro g hg hlive
  by_cases hclosed : x.1.state = .closed
  · rw [hinv.closed hclosed] at hg
    contradiction
  · rcases (hinv.guards hclosed).guarded g hg hlive with ⟨t, ht, hresends, -⟩
    exact ⟨t, ht, hresends⟩

/-- Two exchanges of data, and an expiry of the second one. -/
def unansweredRun : List Event :=
  [.connect 0, .input (peerPacket (flagSyn ||| flagAck) 100 1 1024 []) 0, .send [7],
    .input (peerPacket flagAck 101 2 1024 []) 0, .send [8, 9], .expire 2]

/-- A decidable condition that is enough for a step to keep the guards. -/
def keepsGuards (x : TcpSession × List OutstandingSegment) : Event → Bool
  | .input packet _ => !decide (x.1.ThirdDuplicate packet.ack) && x.2.all fun g =>
      !(decide (1 < (packet.ack - g.packet.seq).toNat) &&
        decide ((packet.ack - g.packet.seq).toNat < g.packet.span))
  | _ => true

/-- The test decides the condition. -/
theorem keepsGuards_sound (x : TcpSession × List OutstandingSegment) (e : Event)
    (h : keepsGuards x e = true) : ¬ Unguards x e := by
  cases e with
  | input packet iss =>
      simp only [keepsGuards, Bool.and_eq_true, Bool.not_eq_true', decide_eq_false_iff_not,
        List.all_eq_true, Bool.and_eq_false_iff] at h
      rintro ⟨-, hthird | ⟨g, hg, hlow, hhigh⟩⟩
      · exact hthird fun hdup => absurd hdup h.1
      · rcases h.2 g hg with hnot | hnot
        · exact hnot hlow
        · exact hnot hhigh
  | _ => exact id

theorem outstanding_guarded_unanswered :
    ∃ x, outstandingStep.run (clientSession, []) unansweredRun = some x ∧
      x.2.map (fun g => (g.packet.seq, g.packet.payload, g.expiries)) = [(2, [8, 9], 1)] ∧
      ∀ g ∈ x.2, IsGuarded x.1 g := by
  have hcheck :
      outstandingStep.checkSteps keepsGuards (clientSession, []) unansweredRun = true := by
    decide +kernel
  have hrun : ((outstandingStep.run (clientSession, []) unansweredRun).any fun x =>
      x.2.map (fun g => (g.packet.seq, g.packet.payload, g.expiries)) = [(2, [8, 9], 1)]) =
        true := by
    decide +kernel
  rcases (Option.any_eq_true _ _).mp hrun with ⟨x, hx, hlist⟩
  exact ⟨x, hx, of_decide_eq_true hlist, outstanding_guarded (.mk _ _ _ _ _ _)
    (StepFn.allSteps_of_check keepsGuards_sound hcheck) hx⟩

/-- After {lit}`close()` in ESTABLISHED no timer sends payload again. -/
theorem payload_activeAt_close {s : TcpSession} (hstate : s.state = .established) {k : UInt32}
    {t : UvTimer RetransmitClosure} (ht : s.close.timerManager.activeAt k = some t) :
    t.callback.packet.payload = [] := by
  rw [close, hstate] at ht
  dsimp only at ht
  rw [closeEstablished_eq] at ht
  dsimp only at ht
  rw [TimerManager.activeAt_startTimer, TimerManager.activeAt_stopAllTimers] at ht
  split at ht
  · cases ht
    rfl
  · contradiction

/-- The application closes with a byte in flight: the byte is not acknowledged, its timer has
not expired once, and no timer sends it again. -/
theorem closedWithData_unguarded :
    ∃ s, step.run clientSession byteInFlightRun = some s ∧ step s .close = some s.close ∧
      s.close.state = .finWait1 ∧ s.close.sendWindow.sendUnack = 1 ∧
      (s.close.sent.any fun d => d.packet.seq = 1 ∧ d.packet.payload = [7]) = true ∧
      ∀ k t, s.close.timerManager.activeAt k = some t → t.callback.packet.payload ≠ [7] := by
  have hrun : ((step.run clientSession byteInFlightRun).any fun s =>
      decide (s.state = .established ∧ s.close.state = .finWait1 ∧
        s.close.sendWindow.sendUnack = 1) &&
      s.close.sent.any fun d => d.packet.seq = 1 ∧ d.packet.payload = [7]) = true := by
    decide +kernel
  rcases (Option.any_eq_true _ _).mp hrun with ⟨s, hs, hfacts⟩
  rw [Bool.and_eq_true, decide_eq_true_eq] at hfacts
  rcases hfacts with ⟨⟨hstate, hclosing, hunack⟩, hsent⟩
  refine ⟨s, hs, rfl, hclosing, hunack, hsent, ?_⟩
  intro k t ht
  rw [payload_activeAt_close hstate ht]
  decide

end TcpSession

end MyuTcp
