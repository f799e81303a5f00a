import MyuTcp.Properties.LostSegments

/-!
# Recovery after a loss

All that an established session had sent is lost on the way to its peer.  The receiver takes the
segments one after another, so that each of them has to come again, and what comes again is what
the timers of the segments send.

Main results:

- Theorem {lit}`Recovering.recovers`: with a timer left for each segment the whole stream arrives.
- Theorem {lit}`lostSegments_arrive_iff`: without one of them it never does.
-/

namespace MyuTcp

open Library

namespace Connection

open TcpSession

/-- The timer of the number can still send its packet again. -/
def CanRetry (s : TcpSession) (k : UInt32) : Prop :=
  ∃ t, s.timerManager.activeAt k = some t ∧
    t.callback.retransmitCount + 1 < maxRetransmitCount

instance (s : TcpSession) (k : UInt32) : Decidable (CanRetry s k) :=
  decidable_of_iff ((s.timerManager.activeAt k).any fun t =>
      t.callback.retransmitCount + 1 < maxRetransmitCount) <| by
    simp [CanRetry, Option.any_eq_true]

/-- The packet has data that the receiver has not taken. -/
def Missing (x y : UInt32) (g : Connection × Streams) (side : Side) (p : MyuTcpPacket) : Prop :=
  p.payload ≠ [] ∧ (received g side.other).length < (p.seq - isn x y side).toNat

instance (x y : UInt32) (g : Connection × Streams) (side : Side) (p : MyuTcpPacket) :
    Decidable (Missing x y g side p) :=
  inferInstanceAs (Decidable (_ ∧ _))

/-- Both sides are established, and each segment that the receiver misses can be sent again. -/
structure Recovering (x y : UInt32) (c₀ : Connection) (side : Side) (g : Connection × Streams) :
    Prop where
  sound : Sound x y g
  opened : ∀ i, (g.1.session i).state = .established
  accepted : ∀ i, (g.2.accepted i).length < 2 ^ 32
  since : (c₀.session side).sent <+: (g.1.session side).sent
  retries : ∀ d ∈ (g.1.session side).sent, Missing x y g side d.packet →
    CanRetry (g.1.session side) d.packet.seq

section Recovery

variable {x y : UInt32} {c₀ : Connection} {g g' : Connection × Streams} {side : Side} {o : Nat}
  {t : UvTimer RetransmitClosure}

/-- An established side has used a number for its SYN and for bytes that it has accepted. -/
theorem Sound.unrepeated (h : Sound x y g) (hopen : (g.1.session side).state = .established)
    (haccepted : (g.2.accepted side).length < 2 ^ 32) : Unrepeated (g.2.wire side) := by
  have hnumbering := (h.joined.sender side).numbering
  rcases List.head?_eq_some_iff.mp (hnumbering.next (by simp [Numbered, hopen])).2 with
    ⟨rest, hrest⟩
  have hstream := hnumbering.stream.length_le
  have hunmarked := hnumbering.unfinished hopen
  rw [hrest, List.tail_cons] at hstream hunmarked
  rw [length_leading hunmarked] at hstream
  rw [Unrepeated, hrest, List.length_cons]
  omega

theorem toNat_sub_isn (iss : UInt32) (ho : o < 2 ^ 32) :
    (iss + UInt32.ofNat o - iss).toNat = o := by
  rw [UInt32.add_comm, UInt32.add_sub_cancel, UInt32.toNat_ofNat', Nat.mod_eq_of_lt ho]

/-- The receiver still needs the segments behind the one that it has taken. -/
theorem Recovering.renewed (h : Recovering x y c₀ side g) (hsound : Sound x y g')
    (hpayload : t.callback.packet.payload ≠ [])
    (ho : o = 1 + (received g side.other).length) (hbelow : o < 2 ^ 32)
    (hkey : t.callback.packet.seq = isn x y side + UInt32.ofNat o)
    (hrenewed : Renewed side (isn x y side + UInt32.ofNat o) t g g') :
    Recovering x y c₀ side g' := by
  have hlonger : o ≤ (received g' side.other).length := by
    have hpos := List.length_pos_iff.mpr hpayload
    rw [hrenewed.received, List.length_append]
    omega
  constructor
  · exact hsound
  · intro i
    rcases Side.eq_or_eq_other side i with rfl | rfl
    · exact hrenewed.again.state.trans (h.opened _)
    · exact hrenewed.receiver
  · intro i
    rw [hrenewed.accepted]
    exact h.accepted i
  · rw [hrenewed.again.sent]
    exact h.since.trans (List.prefix_append _ _)
  · rintro d hd ⟨hdata, hmissing⟩
    have hne : d.packet.seq ≠ isn x y side + UInt32.ofNat o := by
      intro hseq
      rw [hseq, toNat_sub_isn _ hbelow] at hmissing
      omega
    rw [hrenewed.again.sent, List.mem_append, List.mem_singleton] at hd
    rcases hd with hd | rfl
    · rw [CanRetry, hrenewed.again.timers _ hne]
      exact h.retries d hd ⟨hdata, by omega⟩
    · rw [refreshPacket_seq] at hne
      exact absurd hkey hne

/-- The segment that the receiver waits for is among those that were sent. -/
theorem Recovering.exists_missing (h : Recovering x y c₀ side g)
    (ho : o = 1 + (received g side.other).length) (hbelow : o < (g.2.wire side).length) :
    ∃ d ∈ (g.1.session side).sent, d.packet.seq = isn x y side + UInt32.ofNat o ∧
      Missing x y g side d.packet := by
  have hshort := h.sound.unrepeated (h.opened side) (h.accepted side)
  rcases h.sound.aligned side (Or.inr (Or.inr (h.opened side))) with
    ⟨pieces, hsegmented, i, hi, hstart⟩
  have hlt : i < pieces.length := by
    refine lt_of_le_of_ne hi fun heq => ?_
    rw [heq, pieceStart_length, hsegmented.flatten] at hstart
    omega
  rcases hsegmented.sent i hlt with ⟨d, hd, hpiece, hseq⟩
  rw [← hstart, ← ho] at hseq
  have hcarried : d.packet.carried ≠ [] := by
    intro hnil
    rw [hnil] at hpiece
    exact hsegmented.nonempty (List.mem_of_getElem? hpiece)
  have hwire := (h.sound.joined.sender side).packets.sent d hd
  have hpayload := h.sound.payload_of_seq (h.opened side) hshort (by omega) hbelow hwire hcarried
    hseq
  refine ⟨d, hd, hseq, hpayload, ?_⟩
  unfold Unrepeated at hshort
  rw [hseq, toNat_sub_isn _ (by omega)]
  omega

/-- A receiver that has as many bytes as were sent has the whole stream. -/
theorem Sound.arrived (h : Sound x y g)
    (hend : (g.2.wire side).length ≤ 1 + (received g side.other).length) :
    (g.2.wire side).tail <+: (received g side.other).map some := by
  have hreceiver := h.joined.receiver side.other
  rw [Side.other_other] at hreceiver
  have hlength : (g.2.wire side).tail.length ≤ ((received g side.other).map some).length := by
    rw [List.length_tail, List.length_map]
    omega
  rw [← hreceiver.stream.eq_of_length_le hlength]

/-- With a timer left for each segment that is missing the whole stream arrives. -/
theorem Recovering.recovers
    (hremote : (c₀.session side).remoteIp = defaultCapturedIp ∧
      (c₀.session side).remotePort = defaultCapturedPort) (n : Nat)
    (h : Recovering x y c₀ side g)
    (hn : (g.2.wire side).length ≤ 1 + (received g side.other).length + n) :
    ∃ g', withStreams.Reachable (AfterLoss x y side c₀) g g' ∧
      (g.2.wire side).tail <+: (received g' side.other).map some := by
  -- the induction is on the numbers that the receiver has not taken yet
  induction n generalizing g with
  | zero => exact ⟨g, .start, h.sound.arrived hn⟩
  | succ n ih =>
      by_cases hbelow : 1 + (received g side.other).length < (g.2.wire side).length
      · have hshort := fun i => h.sound.unrepeated (h.opened i) (h.accepted i)
        have hbound : (g.2.wire side).length ≤ 2 ^ 32 := hshort side
        rcases h.exists_missing rfl hbelow with ⟨d, hd, hseq, hmissing⟩
        rcases h.retries d hd hmissing with ⟨t, hactive, hcount⟩
        rw [hseq] at hactive
        rcases h.sound.renewal_arrives h.opened hshort h.since hremote rfl hbelow hactive hcount
          with ⟨g₁, hg₁, hrenewed⟩
        have hpayload := h.sound.payload_of_timer (h.opened side) (hshort side) (by omega) hbelow
          hactive
        have hsound₁ : Sound x y g₁ :=
          hg₁.invariant h.sound fun _ _ _ hg hok => sound_step hg hok.1
        have h₁ : Recovering x y c₀ side g₁ :=
          h.renewed hsound₁ hpayload rfl (by omega) (h.sound.joined.keyed side _ t hactive) hrenewed
        have hpos := List.length_pos_iff.mpr hpayload
        have hn₁ : (g₁.2.wire side).length ≤ 1 + (received g₁ side.other).length + n := by
          rw [hrenewed.wire, hrenewed.received, List.length_append]
          omega
        rcases ih h₁ hn₁ with ⟨g', hg', harrived⟩
        rw [hrenewed.wire] at harrived
        exact ⟨g', hg₁.trans hg', harrived⟩
      · exact ih h (by omega)

end Recovery

/-! ## When the whole stream arrives -/

/-- In every state of a connection with both sides established, and after the loss of everything
on its way to one of them, all that the other side had sent can still arrive exactly when each
segment that is missing has a timer that can send it again, to the default address of
{lit}`_handle_retransmit`, and this is the address of the receiver. -/
theorem lostSegments_arrive_iff {x y : UInt32} {a b : TcpSession} (ha : Created a) (hb : Created b)
    {g : Connection × Streams}
    (hg : withStreams.Reachable (Streaming x y) (⟨a, b.listen⟩, Streams.empty) g)
    (hopen : ∀ i, (g.1.session i).state = .established)
    (haccepted : ∀ i, (g.2.accepted i).length < 2 ^ 32) (side : Side) :
    (∃ g', withStreams.Reachable (AfterLoss x y side g.1) g g' ∧
        (g.2.wire side).tail <+: (received g' side.other).map some) ↔
      ∀ d ∈ (g.1.session side).sent, Missing x y g side d.packet →
        ((g.1.session side).remoteIp = defaultCapturedIp ∧
            (g.1.session side).remotePort = defaultCapturedPort) ∧
          CanRetry (g.1.session side) d.packet.seq := by
  have hsound : Sound x y g := hg.invariant (sound_start ha hb) fun _ _ _ => sound_step
  have hshort := hsound.unrepeated (hopen side) (haccepted side)
  constructor
  · rintro ⟨g', hg', harrived⟩ d hd ⟨hpayload, hmissing⟩
    by_contra hnot
    -- the segment is a piece of the stream, and the receiver never gets beyond its start
    rcases hsound.aligned side (Or.inr (Or.inr (hopen side))) with ⟨pieces, hsegmented, -⟩
    have hwire := (hsound.joined.sender side).packets.sent d hd
    rcases isPiece_of_payload hsegmented hwire (hsegmented.packets.sent d hd) hshort hpayload with
      ⟨j, hj, hpos, hbelow⟩
    unfold Unrepeated at hshort
    rw [hj.2, toNat_sub_isn _ (by omega)] at hmissing
    rw [hj.2] at hnot
    have hnone : ∀ t, (g.1.session side).timerManager.activeAt
        (isn x y side + UInt32.ofNat (pieceStart pieces j)) = some t →
          ¬ Renews (g.1.session side) t := by
      rintro t hactive ⟨hdata, hip, hport, hcount⟩
      have haddress := (hsound.registered side _ t hactive).address hdata
      exact hnot ⟨⟨hip.symm.trans haddress.1, hport.symm.trans haddress.2⟩, t, hactive, hcount⟩
    have hstalled : Stalled x y g side (pieceStart pieces j) g' :=
      hg'.invariant (stalled_start hsound (hopen side.other) hshort hsegmented hj.lt.le (by omega)
        hnone) fun _ _ _ hg hok => stalled_step hg hbelow hok
    have hbound := hstalled.bound
    have hlength := harrived.length_le
    rw [List.length_tail, List.length_map] at hlength
    omega
  · intro hall
    have hrecovering : Recovering x y g.1 side g :=
      ⟨hsound, hopen, haccepted, List.prefix_rfl, fun d hd hmissing => (hall d hd hmissing).2⟩
    by_cases hmissing : ∃ d ∈ (g.1.session side).sent, Missing x y g side d.packet
    · rcases hmissing with ⟨d, hd, hmissing⟩
      exact hrecovering.recovers (hall d hd hmissing).1 (g.2.wire side).length (by omega)
    · refine ⟨g, .start, hsound.arrived (not_lt.mp fun hbelow => hmissing ?_)⟩
      rcases hrecovering.exists_missing rfl hbelow with ⟨d, hd, -, hm⟩
      exact ⟨d, hd, hm⟩

/-- A client whose server has the default address of {lit}`_handle_retransmit`. -/
def localClient : TcpSession := TcpSession.createSession 0 0 7000 7000 "127.0.0.1" 9999

theorem created_localClient : Created localClient := .mk _ _ _ _ _ _

/-- Two segments are on their way, behind a byte that has been received. -/
def twoSegmentsRun : List ConnectionEvent :=
  [⟨.a, .connect 0⟩, ⟨.b, .input (wirePacket 7000 9999 flagSyn 0 0) 100⟩,
    ⟨.a, .input (wirePacket 8000 7000 (flagSyn ||| flagAck) 100 1) 0⟩,
    ⟨.b, .input (wirePacket 7000 9999 flagAck 1 101) 100⟩, ⟨.a, .send [7]⟩,
    ⟨.b, .input
      (calculateChecksum { wirePacket 7000 9999 flagAck 1 101 with payload := [7] }) 100⟩,
    ⟨.a, .input
      (calculateChecksum { wirePacket 8000 7000 flagAck 101 2 with
        header.windowSize := htons 1023 }) 0⟩,
    ⟨.a, .send [8]⟩, ⟨.a, .send [9]⟩]

/-- Once both are lost, both can still arrive. -/
theorem lostSegments_arrive_iff_twoSegments :
    ∃ g, withStreams.run (⟨localClient, serverSession.listen⟩, Streams.empty) twoSegmentsRun =
        some g ∧
      received g .b = [7] ∧
      ∃ g', withStreams.Reachable (AfterLoss 0 100 .a g.1) g g' ∧ [7, 8, 9] <+: received g' .b := by
  have hrun : ((withStreams.run (⟨localClient, serverSession.listen⟩, Streams.empty)
      twoSegmentsRun).any fun g => (received g .b = [7] ∧ g.2.wire .a = [none, some 7, some 8,
          some 9]) ∧
        ((g.2.accepted .a).length = 3 ∧ (g.2.accepted .b).length = 0) ∧
        (g.1.a.state = .established ∧ g.1.b.state = .established) ∧
        ∀ d ∈ g.1.a.sent, Missing 0 100 g .a d.packet →
          (g.1.a.remoteIp = defaultCapturedIp ∧ g.1.a.remotePort = defaultCapturedPort) ∧
            CanRetry g.1.a d.packet.seq) = true := by
    decide +kernel
  have hcheck : withStreams.checkSteps (fun g e => Streaming 0 100 g e)
      (⟨localClient, serverSession.listen⟩, Streams.empty) twoSegmentsRun = true := by
    decide +kernel
  rcases (Option.any_eq_true _ _).mp hrun with ⟨g, hg, hfacts⟩
  rcases of_decide_eq_true hfacts with
    ⟨⟨hreceived, hwire⟩, ⟨hacceptedA, hacceptedB⟩, ⟨hstateA, hstateB⟩, hretries⟩
  have hall : withStreams.AllSteps (Streaming 0 100)
      (⟨localClient, serverSession.listen⟩, Streams.empty) twoSegmentsRun :=
    StepFn.allSteps_of_check (fun _ _ => of_decide_eq_true) hcheck
  have hopen : ∀ i, (g.1.session i).state = .established := by
    rintro (_ | _)
    · exact hstateA
    · exact hstateB
  have haccepted : ∀ i, (g.2.accepted i).length < 2 ^ 32 := by
    rintro (_ | _)
    · rw [hacceptedA]
      decide
    · rw [hacceptedB]
      decide
  have harrives := lostSegments_arrive_iff created_localClient created_serverSession
    (StepFn.reachable_of_run hall hg) hopen haccepted .a
  rcases harrives.mpr hretries with ⟨g', hg', harrived⟩
  refine ⟨g, hg, hreceived, g', hg', ?_⟩
  have hbytes : [7, 8, 9].map some <+: (received g' .b).map some := by
    rw [hwire] at harrived
    exact harrived
  rwa [map_some_prefix_iff, leading_map_some] at hbytes

end Connection

end MyuTcp
