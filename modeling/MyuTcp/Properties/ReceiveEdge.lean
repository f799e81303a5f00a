import MyuTcp.Properties.AdvertisedWindow

/-!
# The right edge of the receive window

The number {lit}`recv_next_ + get_usable_recv_window_size()` up to which a session has promised
to accept bytes.  A proof-only track counts {lit}`recv_next_` without wrap and records the edge
of every state and of every packet sent.

Main results:

- Theorem {lit}`grants_step`: a step in ESTABLISHED moves the expected number by what it stores
  at least, and the packets that it sends promise no more than is left.
- Theorem {lit}`receiveEdge_kept`: the edge never moves back, so what fits below an edge that
  was promised once is accepted in full.
-/

namespace MyuTcp

open Library

namespace TcpSession

/-! ## What a step grants -/

/-- From {lit}`a` to {lit}`b` the expected number moves by {lit}`k`, the receive buffer gains
at most as many bytes, and no packet sent promises a byte behind the edge of {lit}`b`. -/
structure Grants (a b : TcpSession) (k : Nat) : Prop where
  recvNext : b.recvWindow.recvNext = a.recvWindow.recvNext + UInt32.ofNat k
  size : b.recvBuffer.size ≤ a.recvBuffer.size + k
  sent : ∃ l, b.sent = a.sent ++ l ∧ ∀ d ∈ l, ∃ j ≤ k,
    d.packet.ack = a.recvWindow.recvNext + UInt32.ofNat j ∧
      j + d.packet.window.toNat ≤ k + (1024 - b.recvBuffer.size)

section Grants

variable {s s' s₀ a b c : TcpSession} {e : Event} {k m : Nat}

/-- A step that receives and sends nothing. -/
theorem Grants.of_eq (hnext : b.recvWindow.recvNext = a.recvWindow.recvNext)
    (hbuffer : b.recvBuffer.size ≤ a.recvBuffer.size) (hsent : b.sent = a.sent) :
    Grants a b 0 where
  recvNext := by rw [hnext]; exact (UInt32.add_zero _).symm
  size := hbuffer
  sent := ⟨[], by rw [hsent, List.append_nil], by simp⟩

/-- A step that sends one packet. -/
theorem Grants.of_single {t : TcpSession} {flags : UInt8} {payload : List UInt8}
    (hnext : b.recvWindow.recvNext = a.recvWindow.recvNext)
    (hbuffer : b.recvBuffer = a.recvBuffer) (ht : t.recvBuffer = a.recvBuffer)
    (hsent : b.sent = a.sent ++ [t.datagram flags a.recvWindow.recvNext payload]) :
    Grants a b 0 where
  recvNext := by rw [hnext]; exact (UInt32.add_zero _).symm
  size := by rw [hbuffer]; exact le_rfl
  sent := by
    refine ⟨_, hsent, ?_⟩
    intro d hd
    rw [List.mem_singleton.mp hd]
    refine ⟨0, le_rfl, ?_, ?_⟩
    · rw [datagram_ack]
      exact (UInt32.add_zero _).symm
    · rw [toNat_datagram_window, ht, hbuffer]

/-- Two steps grant what both of them do. -/
theorem Grants.trans (hab : Grants a b k) (hbc : Grants b c m) : Grants a c (k + m) where
  recvNext := by rw [hbc.recvNext, hab.recvNext, ofNat_add_ofNat]
  size := by
    have hfirst := hab.size
    have hsecond := hbc.size
    omega
  sent := by
    rcases hab.sent with ⟨l, hl, hpromise⟩
    rcases hbc.sent with ⟨l', hl', hpromise'⟩
    refine ⟨l ++ l', by rw [hl', hl, List.append_assoc], ?_⟩
    intro d hd
    rcases List.mem_append.mp hd with hd | hd
    · rcases hpromise d hd with ⟨j, hj, hack, hwindow⟩
      have hsize := hbc.size
      have hle := b.recvBuffer.size_le
      exact ⟨j, by omega, hack, by omega⟩
    · rcases hpromise' d hd with ⟨j, hj, hack, hwindow⟩
      refine ⟨k + j, by omega, ?_, by omega⟩
      rw [hack, hab.recvNext, ofNat_add_ofNat]

/-- {lit}`_handle_try_send` receives nothing. -/
theorem grants_handleTrySend (s : TcpSession) : Grants s s.handleTrySend 0 := by
  by_cases htransmits : s.Transmits
  · rw [s.handleTrySend_of_transmits htransmits]
    exact .of_single rfl rfl rfl rfl
  · rw [s.handleTrySend_of_not htransmits]
    exact .of_eq rfl le_rfl rfl

/-- An acknowledgment receives nothing. -/
theorem grants_processAck (s : TcpSession) (ackNum : UInt32) :
    Grants s (s.processAck ackNum) 0 := by
  by_cases hthird : s.ThirdDuplicate ackNum
  · rcases (s.releaseAcked ackNum).countDupAck_frame ackNum with ⟨c, d, hframe⟩
    have heq : ((s.releaseAcked ackNum).countDupAck ackNum).dupAckCount = 3 := by
      rw [(s.countDupAck_releaseAcked ackNum).1]
      exact hthird
    rw [processAck, fastRetransmit, if_pos heq, hframe, onRecvThreeDupAck]
    dsimp only
    split
    · rename_i packet hfind
      by_cases hnil : packet.payload = []
      · rw [sendPayloadPacket, if_pos (by simp [hnil])]
        exact .of_eq rfl le_rfl rfl
      · rw [sendPayloadPacket_eq _ hnil]
        exact .of_single rfl rfl rfl rfl
    · exact .of_eq rfl le_rfl rfl
  · rw [s.processAck_of_not hthird]
    exact .of_eq rfl le_rfl rfl

/-- What is no packet leaves the expected number as it is. -/
theorem Move.grants (hmove : Move s₀ e a b) (hinput : ∀ packet iss, e ≠ .input packet iss) :
    Grants a b 0 := by
  cases hmove with
  | connect iss => rw [connect_eq]; exact .of_single (t := s₀.atSeq iss) rfl rfl rfl rfl
  | trySend s => exact grants_handleTrySend a
  | read s hn =>
      refine .of_eq rfl ?_ rfl
      dsimp only
      rw [size_readLoop hn]
      omega
  | closeEstablished hstate => rw [closeEstablished_eq]; exact .of_single rfl rfl rfl rfl
  | closeCloseWait s hstate => rw [closeCloseWait_eq]; exact .of_single rfl rfl rfl rfl
  | abortOpening hstate => rw [abortOpening_eq]; exact .of_single rfl rfl rfl rfl
  | @expire k t hactive =>
      by_cases hlimit : t.callback.retransmitCount + 1 ≥ maxRetransmitCount
      · rw [runClosure_of_limit _ hlimit]
        exact .of_eq rfl le_rfl rfl
      · rw [runClosure_of_lt _ hlimit]
        refine ⟨(UInt32.add_zero _).symm, le_rfl, _, rfl, ?_⟩
        intro d hd
        rw [List.mem_singleton.mp hd]
        refine ⟨0, le_rfl, ?_, ?_⟩
        · rw [refreshPacket_ack]
          exact (UInt32.add_zero _).symm
        · rw [toNat_refreshPacket_window]
  | _ =>
      first
      | exact absurd rfl (hinput _ _)
      | exact .of_eq rfl le_rfl rfl

variable {packet : MyuTcpPacket} {iss : UInt32}

/-- Nor does the first part of ESTABLISHED. -/
theorem grants_handleEstablishedAck (s : TcpSession) (packet : MyuTcpPacket) :
    Grants s (s.handleEstablishedAck packet) 0 := by
  rw [handleEstablishedAck]
  split
  · refine Grants.trans (k := 0) (m := 0) ?_ (grants_handleTrySend _)
    rw [handleAck]
    split
    · exact (grants_processAck _ _).trans (grants_handleTrySend _)
    · exact .of_eq rfl le_rfl rfl
  · exact .of_eq rfl le_rfl rfl

/-- What an in-order segment does when the loop returns. -/
theorem handleEstablishedPayload_inOrder (hpayload : packet.payload ≠ [])
    (hseq : packet.seq = s.recvWindow.recvNext)
    (h : s.handleEstablishedPayload packet = some s') :
    ∃ t, t.recvBuffer = s'.recvBuffer ∧
      s'.recvBuffer.toList =
        s.recvBuffer.toList ++ s.admissible packet.payload ++ (s.line packet.payload).flatten ∧
      s'.recvWindow.recvNext = s.nextAfter packet.payload +
        UInt32.ofNat (s.line packet.payload).flatten.length ∧
      s'.sent = s.sent ++ [datagram t flagAck s'.recvWindow.recvNext []] := by
  rw [handleEstablishedPayload, if_pos (List.length_pos_iff.mpr hpayload)] at h
  have hfits : s.LineFits packet.payload := by
    by_contra hover
    rw [handleIncomingPacket_eq_none hseq hover] at h
    cases h
  rcases handleIncomingPacket_inOrder hseq hfits with ⟨buffer, t, hhandle, ht, hbuffer⟩
  rw [hhandle, Option.map_some, if_pos rfl, Option.some.injEq] at h
  subst h
  exact ⟨t, ht, hbuffer, rfl, rfl⟩

/-- A payload moves the edge by at most a buffer. -/
theorem grants_handleEstablishedPayload (h : s.handleEstablishedPayload packet = some s') :
    ∃ k ≤ 1024, Grants s s' k := by
  by_cases hnil : packet.payload = []
  · rw [handleEstablishedPayload_nil hnil, Option.some.injEq] at h
    rw [h]
    exact ⟨0, by omega, .of_eq rfl le_rfl rfl⟩
  by_cases hseq : packet.seq = s.recvWindow.recvNext
  · rcases handleEstablishedPayload_inOrder hnil hseq h with ⟨t, ht, hbuffer, hnext, hsent⟩
    have hsize := congrArg List.length hbuffer
    simp only [List.length_append, RingQueue.length_toList] at hsize
    have hle := s'.recvBuffer.size_le
    refine ⟨(s.admissible packet.payload).length + (s.line packet.payload).flatten.length,
      by omega, ?_, by omega, _, hsent, ?_⟩
    · rw [hnext, nextAfter, ofNat_add_ofNat]
    · intro d hd
      rw [List.mem_singleton.mp hd]
      refine ⟨_, le_rfl, ?_, ?_⟩
      · rw [datagram_ack, hnext, nextAfter, ofNat_add_ofNat]
      · rw [toNat_datagram_window, ht]
  · rw [handleEstablishedPayload, if_pos (List.length_pos_iff.mpr hnil),
      handleIncomingPacket_outOfOrder hseq, Option.map_some, Option.some.injEq] at h
    subst h
    exact ⟨0, by omega, .of_single rfl rfl rfl rfl⟩

/-- What a step in ESTABLISHED grants. -/
theorem grants_step (hstate : s.state = .established) (hstate' : s'.state = .established)
    (hstep : step s e = some s') : ∃ k ≤ 1024, Grants s s' k := by
  by_cases hinput : ∃ packet iss, e = .input packet iss
  · rcases hinput with ⟨packet, iss, rfl⟩
    rcases input_cases hstep with ⟨-, -, rfl⟩ | ⟨-, rfl⟩ | ⟨-, -, rfl⟩ | ⟨hadmitted, -⟩
    · exact ⟨0, by omega, .of_eq rfl le_rfl rfl⟩
    · exact ⟨0, by omega, .of_eq rfl le_rfl rfl⟩
    · cases hstate'
    · rw [step, input_established hadmitted hstate, Option.map_eq_some_iff] at hstep
      rcases hstep with ⟨s₂, hpayload, rfl⟩
      have hobserve : Grants s (s.observe packet) 0 := .of_eq rfl le_rfl rfl
      rcases grants_handleEstablishedPayload hpayload with ⟨k, hk, hgrants⟩
      -- a FIN would have left ESTABLISHED
      have hfin : handleEstablishedFin packet s₂ = s₂ := by
        rw [handleEstablishedFin] at hstate' ⊢
        split at hstate' <;> rename_i hflag
        · cases hstate'
        · rw [if_neg hflag]
      rw [hfin]
      have hall := (hobserve.trans (grants_handleEstablishedAck _ packet)).trans hgrants
      rw [Nat.zero_add] at hall
      exact ⟨k, hk, hall⟩
  · refine ⟨0, by omega, ?_⟩
    apply (step_moves hstep).preserves (P := fun t => Grants s t 0) _ (.of_eq rfl le_rfl rfl)
    intro a b ha hmove
    exact ha.trans (hmove.grants fun packet iss heq => hinput ⟨packet, iss, heq⟩)

end Grants

/-! ## The track of the edge -/

/-- The right edge of the receive window, from the expected number counted without wrap. -/
def recvEdge (s : TcpSession) (position : Nat) : Nat :=
  position + s.getUsableRecvWindowSize.toNat

/-- The expected number counted without wrap, and the right edges of the states passed and of
the packets sent on the way. -/
structure RecvTrack where
  position : Nat
  edges : List Nat

namespace RecvTrack

/-- The record of a session whose numbers are not counted yet. -/
def start (s : TcpSession) : RecvTrack where
  position := s.recvWindow.recvNext.toNat
  edges := [s.recvEdge s.recvWindow.recvNext.toNat]

/-- The edge that a packet promises, seen from the state after it was sent. -/
def promised (s : TcpSession) (position : Nat) (d : Datagram) : Nat :=
  position - (s.recvWindow.recvNext - d.packet.ack).toNat + d.packet.window.toNat

/-- One step moves the position with the expected number and records the new edges. -/
def update (s : TcpSession) (_ : Event) (s' : TcpSession) (g : RecvTrack) : RecvTrack where
  position := g.position + (s'.recvWindow.recvNext - s.recvWindow.recvNext).toNat
  edges :=
    g.edges ++
      s'.recvEdge (g.position + (s'.recvWindow.recvNext - s.recvWindow.recvNext).toNat) ::
      (newDatagrams s s').map
        (promised s' (g.position + (s'.recvWindow.recvNext - s.recvWindow.recvNext).toNat))

end RecvTrack

section Track

variable {s s' s₀ : TcpSession} {g : RecvTrack} {e : Event}

/-- The edge is the position and the room behind it. -/
theorem recvEdge_eq (s : TcpSession) (position : Nat) :
    s.recvEdge position = position + (1024 - s.recvBuffer.size) := by
  have hcap : s.recvBuffer.capacity = 1024 := rfl
  rw [recvEdge, getUsableRecvWindowSize, hcap, UInt32.toNat_ofNat']
  omega

/-- The expected number is the position modulo 2^32, and no recorded edge lies behind the edge
of the state. -/
structure Tracked (s : TcpSession) (g : RecvTrack) : Prop where
  state : s.state = .established
  position : UInt32.ofNat g.position = s.recvWindow.recvNext
  edges : ∀ edge ∈ g.edges, edge ≤ s.recvEdge g.position

/-- The record starts at the state it is about. -/
theorem tracked_start (hstate : s.state = .established) : Tracked s (RecvTrack.start s) where
  state := hstate
  position := UInt32.ofNat_toNat
  edges := by
    intro edge hedge
    rw [List.mem_singleton.mp hedge]
    exact le_rfl

/-- Distances of at most a buffer do not wrap. -/
theorem toNat_ofNat_sub {k j : Nat} (n : UInt32) (hk : k ≤ 1024) (hj : j ≤ k) :
    (n + UInt32.ofNat k - (n + UInt32.ofNat j)).toNat = k - j := by
  have hn := n.toNat_lt
  simp only [UInt32.toNat_sub, UInt32.toNat_add, UInt32.toNat_ofNat']
  omega

/-- A step keeps the record. -/
theorem tracked_step (h : Tracked s g) (hstate : s'.state = .established)
    (hstep : step s e = some s') : Tracked s' (RecvTrack.update s e s' g) := by
  rcases grants_step h.state hstate hstep with ⟨k, hk, hgrants⟩
  have hmoved : (s'.recvWindow.recvNext - s.recvWindow.recvNext).toNat = k := by
    have hsub := toNat_ofNat_sub s.recvWindow.recvNext hk (Nat.zero_le k)
    rwa [← hgrants.recvNext, show UInt32.ofNat 0 = 0 from rfl, UInt32.add_zero,
      Nat.sub_zero] at hsub
  have hsize := hgrants.size
  refine ⟨hstate, ?_, ?_⟩
  · rw [RecvTrack.update, hmoved, hgrants.recvNext, UInt32.ofNat_add, h.position]
  · rw [RecvTrack.update, hmoved]
    dsimp only
    intro edge hedge
    rcases List.mem_append.mp hedge with hold | hnew
    · have hle := h.edges edge hold
      rw [recvEdge_eq] at hle ⊢
      omega
    rcases List.mem_cons.mp hnew with rfl | hsent
    · exact le_rfl
    rcases List.mem_map.mp hsent with ⟨d, hd, rfl⟩
    rcases hgrants.sent with ⟨l, hl, hpromise⟩
    rw [newDatagrams_of_append hl] at hd
    rcases hpromise d hd with ⟨j, hj, hack, hwindow⟩
    rw [recvEdge_eq, RecvTrack.promised, hgrants.recvNext, hack, toNat_ofNat_sub _ hk hj]
    omega

/-! ## What the edge promises -/

/-- A segment that ends below the edge fits the receive buffer. -/
theorem fits_of_le_recvEdge {payload : List UInt8} {position edge : Nat}
    (hedge : edge ≤ s.recvEdge position) (hend : position + payload.length ≤ edge) :
    s.recvBuffer.size + payload.length ≤ 1024 := by
  have hsize := s.recvBuffer.size_le
  rw [recvEdge_eq] at hedge
  omega

/-- A payload that fits is appended. -/
theorem acceptPayload_of_fits {payload : List UInt8}
    (hfits : s.recvBuffer.size + payload.length ≤ 1024) :
    (s.acceptPayload payload).recvBuffer.toList = s.recvBuffer.toList ++ payload ∧
      (s.acceptPayload payload).recvWindow.recvNext =
        s.recvWindow.recvNext + UInt32.ofNat payload.length := by
  rcases s.acceptPayload_eq payload with ⟨buffer, haccept, hbuffer⟩
  have hadmissible : s.admissible payload = payload := if_pos hfits
  rw [haccept]
  dsimp only
  rw [hbuffer, nextAfter, hadmissible]
  exact ⟨rfl, rfl⟩

/-- A payload that does not fit is refused. -/
theorem acceptPayload_of_not_fits {payload : List UInt8}
    (hover : ¬ s.recvBuffer.size + payload.length ≤ 1024) : s.acceptPayload payload = s := by
  rw [acceptPayload, (RingQueue.pushBatch_eq_none_iff _ _).mpr (by omega)]

/-- The whole packet appends a payload that fits, in front of what the loop appends. -/
theorem input_appends {packet : MyuTcpPacket} {iss : UInt32} (hstate : s.state = .established)
    (hadmitted : Admitted packet) (hseq : packet.seq = s.recvWindow.recvNext)
    (hfits : s.recvBuffer.size + packet.payload.length ≤ 1024)
    (hinput : s.input packet iss = some s') :
    s.recvBuffer.toList ++ packet.payload <+: s'.recvBuffer.toList := by
  rw [input_established hadmitted hstate, Option.map_eq_some_iff] at hinput
  rcases hinput with ⟨s₂, hpayload, rfl⟩
  have hkeeps := keepsReceiving_ack s packet
  generalize (s.observe packet).handleEstablishedAck packet = s₁ at hkeeps hpayload
  rw [(handleEstablishedFin_received packet s₂).1, ← hkeeps.recvBuffer]
  by_cases hnil : packet.payload = []
  · rw [handleEstablishedPayload_nil hnil, Option.some.injEq] at hpayload
    rw [hnil, hpayload, List.append_nil]
  · rcases handleEstablishedPayload_inOrder hnil (by rw [hkeeps.recvWindow, hseq]) hpayload with
      ⟨t, -, hbuffer, -⟩
    have hadmissible : s₁.admissible packet.payload = packet.payload := by
      rw [admissible, if_pos (by rwa [hkeeps.recvBuffer])]
    rw [hbuffer, hadmissible]
    exact List.prefix_append _ _

/-- What a session keeps of its promises: no edge recorded lies behind its own, an in-order
segment that ends at or before a recorded edge is accepted in full, and a segment that does not
fit changes nothing before the loop. -/
structure KeepsEdges (s : TcpSession) (g : RecvTrack) : Prop where
  position : UInt32.ofNat g.position = s.recvWindow.recvNext
  edges : ∀ edge ∈ g.edges, edge ≤ s.recvEdge g.position
  accepts : ∀ edge ∈ g.edges, ∀ payload : List UInt8, g.position + payload.length ≤ edge →
    (s.acceptPayload payload).recvBuffer.toList = s.recvBuffer.toList ++ payload ∧
      (s.acceptPayload payload).recvWindow.recvNext =
        s.recvWindow.recvNext + UInt32.ofNat payload.length
  appends : ∀ edge ∈ g.edges, ∀ (packet : MyuTcpPacket) (iss : UInt32) (s' : TcpSession),
    Admitted packet → packet.seq = s.recvWindow.recvNext →
    g.position + packet.payload.length ≤ edge → s.input packet iss = some s' →
    s.recvBuffer.toList ++ packet.payload <+: s'.recvBuffer.toList
  refuses : ∀ payload : List UInt8, ¬ s.recvBuffer.size + payload.length ≤ 1024 →
    s.acceptPayload payload = s

/-- With the record the edge never moves back. -/
theorem Tracked.keepsEdges (h : Tracked s g) : KeepsEdges s g where
  position := h.position
  edges := h.edges
  accepts edge hedge _ hend :=
    acceptPayload_of_fits (fits_of_le_recvEdge (h.edges edge hedge) hend)
  appends edge hedge _ _ _ hadmitted hseq hend hinput :=
    input_appends h.state hadmitted hseq (fits_of_le_recvEdge (h.edges edge hedge) hend) hinput
  refuses _ hover := acceptPayload_of_not_fits hover

end Track

/-- Along every run that stays in ESTABLISHED, from any established session, the edge never
moves back and every edge is kept. -/
theorem receiveEdge_kept {s₀ s : TcpSession} {g : RecvTrack} (hstart : s₀.state = .established)
    (hs : (step.withGhost RecvTrack.update).Reachable
      (fun x e => ∀ s', step x.1 e = some s' → s'.state = .established)
      (s₀, RecvTrack.start s₀) (s, g)) : KeepsEdges s g := by
  have htracked : Tracked s g := by
    apply hs.invariant (P := fun x => Tracked x.1 x.2) (tracked_start hstart)
    intro x e y hx hok hstep
    rcases StepFn.withGhost_eq_some.mp hstep with ⟨hy, hghost⟩
    rw [hghost]
    exact tracked_step hx (hok y.1 hy) hy
  exact htracked.keepsEdges

/-- An established client that receives two bytes in order. -/
theorem receiveEdge_kept_twoBytes :
    ∃ s₁ s₂, step.run clientSession establishedRun = some s₁ ∧
      step s₁ (.input (twoBytes 101) 0) = some s₂ ∧
      KeepsEdges s₂ (RecvTrack.update s₁ (.input (twoBytes 101) 0) s₂ (RecvTrack.start s₁)) := by
  have hrun : ((step.run clientSession establishedRun).any fun s₁ =>
      decide (s₁.state = .established) &&
        (step s₁ (.input (twoBytes 101) 0)).any fun s₂ => s₂.state = .established) = true := by
    decide +kernel
  rcases (Option.any_eq_true _ _).mp hrun with ⟨s₁, hs₁, hfacts⟩
  rw [Bool.and_eq_true, decide_eq_true_eq] at hfacts
  rcases (Option.any_eq_true _ _).mp hfacts.2 with ⟨s₂, hs₂, hstate⟩
  refine ⟨s₁, s₂, hs₁, hs₂, receiveEdge_kept hfacts.1 ?_⟩
  refine .next .start (e := .input (twoBytes 101) 0) ?_ (StepFn.withGhost_eq_some.mpr ⟨hs₂, rfl⟩)
  intro s' hs'
  rw [hs₂, Option.some.injEq] at hs'
  rw [← hs']
  exact of_decide_eq_true hstate

end TcpSession

end MyuTcp
