import MyuTcp.Core.RegisteredTimers
import MyuTcp.Core.Segmentation
import MyuTcp.Properties.EmittedChecksums
import MyuTcp.Properties.StreamSafety

/-!
# Lost segments

A connection whose network has lost everything that was on its way.  From then on it delivers what
is sent, to the address that it is sent to.  A receiver that is behind goes on only if the timer of
the segment that it waits for can still expire, and if the default address of
{lit}`_handle_retransmit` happens to be its own; otherwise its stream has ended there.

Main results:

- Theorem {lit}`stalled_step`: without such a timer no step brings a byte to the receiver.
- Theorem {lit}`lostSegment_arrives_iff`: when the stream can go on.
-/

namespace MyuTcp

open Library

namespace TcpSession

section Session

variable {s s' : TcpSession} {e : Event}

theorem OpensAs.oneConnection {flags : UInt8} {iss : UInt32} (h : OpensAs flags iss s e) :
    s.OneConnection e := by
  cases e with
  | connect i => exact h.2.2
  | listen => exact absurd h id
  | _ => trivial

/-- Bytes are received only from a segment at the number that an established session expects. -/
theorem readBy_append_of_not (hstored : NothingStored s) (hstep : step s e = some s')
    (hnot : ∀ packet iss, e = .input packet iss → Admitted packet → s.state = .established →
      packet.payload ≠ [] → packet.seq ≠ s.recvWindow.recvNext) :
    s.readBy e ++ s'.recvBuffer.toList = s.recvBuffer.toList := by
  by_cases hlocal : ∀ packet i, e ≠ .input packet i
  · exact readBy_append hlocal hstep
  push Not at hlocal
  rcases hlocal with ⟨packet, i, rfl⟩
  change s'.recvBuffer.toList = s.recvBuffer.toList
  rcases input_cases hstep with ⟨-, -, rfl⟩ | ⟨-, rfl⟩ | ⟨-, -, rfl⟩ | ⟨hadmitted, hdispatch⟩
  · rfl
  · rfl
  · rfl
  by_cases hstate : s.state = .established
  · rw [← input_of_admitted hadmitted, input_established hadmitted hstate] at hdispatch
    have hkeeps := keepsReceiving_ack s packet
    rcases Option.map_eq_some_iff.mp hdispatch with ⟨t, ht, rfl⟩
    rcases handleEstablishedFin_frame packet t with ⟨st, n, l, c, hframe⟩
    rw [hframe]
    change t.recvBuffer.toList = _
    by_cases hpayload : packet.payload = []
    · rw [handleEstablishedPayload_nil hpayload, Option.some.injEq] at ht
      rw [← ht, hkeeps.recvBuffer]
    · have hseq := hnot packet i rfl hadmitted hstate hpayload
      rw [← hkeeps.recvWindow] at hseq
      rw [(hkeeps.nothingStored hstored).payload_outOfOrder hpayload hseq,
        Option.some.injEq] at ht
      rw [← ht]
      exact congrArg RingQueue.toList hkeeps.recvBuffer
  · exact congrArg RingQueue.toList (recvBuffer_dispatch (a := s.observe packet) hstate hdispatch)

/-- A segment at the expected number is taken as a whole if there is room for it. -/
theorem step_input_of_inOrder {packet : MyuTcpPacket} (hstored : NothingStored s)
    (hstate : s.state = .established) (hadmitted : Admitted packet) (hpayload : packet.payload ≠ [])
    (hseq : packet.seq = s.recvWindow.recvNext) (iss : UInt32) :
    ∃ s', step s (.input packet iss) = some s' ∧
      s'.recvBuffer.toList = s.recvBuffer.toList ++ s.admissible packet.payload ∧
      (packet.has flagFin = false → s'.state = .established) := by
  have hkeeps := keepsReceiving_ack s packet
  rw [← hkeeps.recvWindow] at hseq
  rcases (hkeeps.nothingStored hstored).payload_inOrder hpayload hseq with
    ⟨buffer, t, hhandle, -, hbuffer⟩
  have hadmissible : ((s.observe packet).handleEstablishedAck packet).admissible packet.payload =
      s.admissible packet.payload := by
    rw [admissible, hkeeps.recvBuffer]
    rfl
  rw [hadmissible, hkeeps.recvBuffer] at hbuffer
  obtain ⟨m, hm, hmBuffer⟩ : ∃ m, ((s.observe packet).handleEstablishedAck
      packet).handleEstablishedPayload packet = some m ∧ m.recvBuffer = buffer := ⟨_, hhandle, rfl⟩
  have hmState : m.state = .established := by
    rcases handleEstablishedPayload_frame hpayload hm with ⟨_, _, _, _, _, _, -, rfl⟩
    exact hkeeps.state.trans hstate
  refine ⟨handleEstablishedFin packet m, ?_, ?_, ?_⟩
  · rw [step, input_established hadmitted hstate, hm, Option.map_some]
  · rcases handleEstablishedFin_frame packet m with ⟨st, n, l, c, hframe⟩
    rw [hframe, ← hbuffer, ← hmBuffer]
  · intro hfin
    rw [handleEstablishedFin, hfin]
    exact hmState

/-- Bytes are received as whole segments, from those that an established session expects. -/
theorem readBy_append_cases (hstored : NothingStored s) (hstep : step s e = some s') :
    s.readBy e ++ s'.recvBuffer.toList = s.recvBuffer.toList ∨
      ∃ packet iss, e = .input packet iss ∧ s.state = .established ∧ packet.payload ≠ [] ∧
        packet.seq = s.recvWindow.recvNext ∧
        s.readBy e ++ s'.recvBuffer.toList = s.recvBuffer.toList ++ packet.payload := by
  by_cases hinOrder : ∃ packet iss, e = .input packet iss ∧ Admitted packet ∧
      s.state = .established ∧ packet.payload ≠ [] ∧ packet.seq = s.recvWindow.recvNext
  · rcases hinOrder with ⟨packet, iss, rfl, hadmitted, hstate, hpayload, hseq⟩
    rcases step_input_of_inOrder hstored hstate hadmitted hpayload hseq iss with
      ⟨t, ht, hbuffer, -⟩
    rw [hstep, Option.some.injEq] at ht
    subst ht
    change s'.recvBuffer.toList = _ ∨ _
    by_cases hfits : s.recvBuffer.size + packet.payload.length ≤ 1024
    · right
      rw [admissible, if_pos hfits] at hbuffer
      exact ⟨packet, iss, rfl, hstate, hpayload, hseq, hbuffer⟩
    · left
      rw [hbuffer, admissible, if_neg hfits, List.append_nil]
  · left
    refine readBy_append_of_not hstored hstep fun packet iss he hadmitted hstate hpayload hseq => ?_
    exact hinOrder ⟨packet, iss, he, hadmitted, hstate, hpayload, hseq⟩

/-- An expiry below the limit sends the packet of the timer and starts it again. -/
theorem activeAt_expire_same {k : UInt32} {t t' : UvTimer RetransmitClosure}
    (hactive : s.timerManager.activeAt k = some t) (hkey : t.callback.packet.seq = k)
    (hstep : s.expire k = some s') (ht' : s'.timerManager.activeAt k = some t') :
    ¬ t.callback.retransmitCount + 1 ≥ maxRetransmitCount ∧
      t'.callback.packet = s.refreshPacket t.callback.packet ∧
      t'.callback.capturedIp = t.callback.capturedIp ∧
      t'.callback.capturedPort = t.callback.capturedPort := by
  rcases expire_eq_some_iff.mp hstep with ⟨u, hu, rfl⟩
  cases hactive.symm.trans hu
  by_cases hlimit : t.callback.retransmitCount + 1 ≥ maxRetransmitCount
  · rw [runClosure_of_limit _ hlimit, hkey] at ht'
    dsimp only at ht'
    rw [TimerManager.activeAt_stopTimer, if_pos rfl] at ht'
    contradiction
  · rw [runClosure_of_lt _ hlimit, hkey] at ht'
    dsimp only at ht'
    rw [TimerManager.activeAt_startTimer, if_pos rfl] at ht'
    cases ht'
    exact ⟨hlimit, rfl, rfl, rfl⟩

/-- The timer of a number sends its packet again, and nothing else changes that matters to
others. -/
structure SendsAgain (k : UInt32) (t : UvTimer RetransmitClosure) (s s' : TcpSession) : Prop where
  state : s'.state = s.state
  remoteIp : s'.remoteIp = s.remoteIp
  remotePort : s'.remotePort = s.remotePort
  sent : s'.sent = s.sent ++
    [{ packet := s.refreshPacket t.callback.packet, destIp := t.callback.capturedIp,
       destPort := t.callback.capturedPort }]
  timers : ∀ j, j ≠ k → s'.timerManager.activeAt j = s.timerManager.activeAt j

/-- An expiry below the limit sends the refreshed packet. -/
theorem step_expire_of_lt {k : UInt32} {t : UvTimer RetransmitClosure}
    (hactive : s.timerManager.activeAt k = some t) (hkey : t.callback.packet.seq = k)
    (hlimit : ¬ t.callback.retransmitCount + 1 ≥ maxRetransmitCount) :
    ∃ s', step s (.expire k) = some s' ∧ SendsAgain k t s s' := by
  refine ⟨_, expire_eq_some_iff.mpr ⟨t, hactive, rfl⟩, ?_⟩
  rw [runClosure_of_lt _ hlimit]
  refine ⟨rfl, rfl, rfl, rfl, fun j hj => ?_⟩
  dsimp only
  rw [hkey, TimerManager.activeAt_startTimer, if_neg hj, TimerManager.activeAt_stopTimer,
    if_neg hj, TimerManager.activeAt_stopTimer, if_neg hj]

/-- The refreshed data of a timer is taken by a receiver that has read everything. -/
theorem step_input_of_renewal {r : TcpSession} {k : UInt32} {t : UvTimer RetransmitClosure}
    (hstamped : s.WellStamped) (hclosure : RegisteredClosure t.callback)
    (hactive : s.timerManager.activeAt k = some t) (hpayload : t.callback.packet.payload ≠ [])
    (hkey : t.callback.packet.seq = k) (hstored : NothingStored r) (hstate : r.state = .established)
    (hempty : r.recvBuffer.toList = []) (hnext : r.recvWindow.recvNext = k) (iss : UInt32) :
    ∃ r', step r (.input (s.refreshPacket t.callback.packet) iss) = some r' ∧
      r'.recvBuffer.toList = t.callback.packet.payload ∧ r'.state = .established := by
  have hpacket := hstamped.packets.timers k t hactive
  have hflags := hclosure.flags hpayload
  have hadmitted : Admitted (s.refreshPacket t.callback.packet) := by
    refine ⟨(isStamped_refreshPacket s hpacket).verify, ?_, ?_⟩
    · rw [refreshPacket_has, MyuTcpPacket.has, hflags]
      decide
    · rw [lacksFlags, refreshPacket_has, MyuTcpPacket.has, hflags]
      rfl
  have hlength : t.callback.packet.payload.length ≤ 1024 := by
    rcases hpacket with ⟨q, hlength, hstamp⟩
    rw [hstamp]
    exact hlength
  have hfits : r.recvBuffer.size + t.callback.packet.payload.length ≤ 1024 := by
    rw [← RingQueue.length_toList, hempty]
    simpa using hlength
  have hfin : (s.refreshPacket t.callback.packet).has flagFin = false := by
    rw [refreshPacket_has, MyuTcpPacket.has, hflags]
    decide
  rcases step_input_of_inOrder hstored hstate hadmitted (by rwa [refreshPacket_payload])
    (by rw [refreshPacket_seq, hkey, hnext]) iss with ⟨r', hr', hbuffer, hopen⟩
  rw [refreshPacket_payload, admissible, if_pos hfits, hempty, List.nil_append] at hbuffer
  exact ⟨r', hr', hbuffer, hopen hfin⟩

/-- An expiry at the limit sends nothing. -/
theorem lt_limit_of_newDatagrams {k : UInt32} {t : UvTimer RetransmitClosure} {d : Datagram}
    (hactive : s.timerManager.activeAt k = some t) (hstep : s.expire k = some s')
    (hd : d ∈ newDatagrams s s') : ¬ t.callback.retransmitCount + 1 ≥ maxRetransmitCount := by
  intro hlimit
  rcases expire_eq_some_iff.mp hstep with ⟨u, hu, rfl⟩
  cases hactive.symm.trans hu
  rw [runClosure_of_limit _ hlimit, newDatagrams, List.drop_length] at hd
  contradiction

end Session

end TcpSession

namespace Connection

open TcpSession

/-! ## After the loss -/

/-- What is delivered from an end has been sent since {lit}`c₀`, to the address that the end had
then. -/
def Fresh (side : Side) (c₀ c : Connection) (e : ConnectionEvent) : Prop :=
  e.side = side.other → match e.event with
  | .input packet _ => ∃ d ∈ newDatagrams (c₀.session e.side.other) (c.session e.side.other),
      d.packet = packet ∧ d.destIp = (c₀.session e.side.other).remoteIp ∧
        d.destPort = (c₀.session e.side.other).remotePort
  | _ => True

/-- A step after all that was on its way from an end in {lit}`c₀` is lost. -/
def AfterLoss (x y : UInt32) (side : Side) (c₀ : Connection) (g : Connection × Streams)
    (e : ConnectionEvent) : Prop :=
  Streaming x y g e ∧ Fresh side c₀ g.1 e

/-- The expiry of the timer sends data to the address of the session. -/
structure Renews (s : TcpSession) (t : UvTimer RetransmitClosure) : Prop where
  payload : t.callback.packet.payload ≠ []
  ip : t.callback.capturedIp = s.remoteIp
  port : t.callback.capturedPort = s.remotePort
  count : t.callback.retransmitCount + 1 < maxRetransmitCount

/-- What the side sends is cut into pieces, and the other side has received whole ones. -/
def Aligned (x y : UInt32) (g : Connection × Streams) (side : Side) : Prop :=
  ∃ pieces, Segmented (isn x y side) (g.2.wire side) pieces (g.1.session side) ∧
    ∃ i ≤ pieces.length, 1 + (received g side.other).length = pieceStart pieces i

/-- What holds in every state of a run of one connection. -/
structure Sound (x y : UInt32) (g : Connection × Streams) : Prop where
  joined : Joined False x y g
  once : ∀ side, Once (g.1.session side)
  registered : ∀ side, (g.1.session side).Registered
  stamped : ∀ side, (g.1.session side).WellStamped
  aligned : ∀ side, (g.1.session side).Pending → Aligned x y g side

section Sound

variable {x y : UInt32} {g g' : Connection × Streams} {e : ConnectionEvent} {s' : TcpSession}
  {side : Side}

/-- A property of both sessions after a step of one. -/
theorem Advances.each {P : TcpSession → Prop} (h : Advances g e s' g')
    (hall : ∀ i, P (g.1.session i)) (hs' : P s') (i : Side) : P (g'.1.session i) := by
  rcases Side.eq_or_eq_other e.side i with rfl | rfl
  · rwa [h.session]
  · rw [h.session_other]
    exact hall _

/-- A step of the side that sends. -/
theorem Sound.aligned_self (h : Sound x y g) (hok : Streaming x y g e)
    (hadvances : Advances g e s' g') (hjoined : Joined False x y g')
    (hpending : (g'.1.session e.side).Pending) : Aligned x y g' e.side := by
  have hs' := hadvances.step
  have hopens := h.joined.opensAs hok.1 hadvances.possible
  have hnumbering := (h.joined.sender e.side).numbering
  have hpending' : s'.Pending := hadvances.session ▸ hpending
  have hfirst := firstNumber_of_pending (h.once e.side) hopens hopens.oneConnection hnumbering hs'
    hpending'
  have hstep : ∀ pieces, Segmented (isn x y e.side) (g.2.wire e.side) pieces
      (g.1.session e.side) → ∃ more, Segmented (isn x y e.side) (g'.2.wire e.side)
        (pieces ++ more) (g'.1.session e.side) := by
    intro pieces hsegmented
    rw [hadvances.session, hadvances.wire]
    exact segmented_step hsegmented (h.once e.side) (h.joined.keyed e.side) hs' hfirst
  rcases pending_before (h.once e.side) hopens.oneConnection hs' hpending' with hbefore | hunsent
  · rcases h.aligned e.side hbefore with ⟨pieces, hsegmented, i, hi, hstart⟩
    rcases hstep pieces hsegmented with ⟨more, hmore⟩
    refine ⟨pieces ++ more, hmore, i, ?_, ?_⟩
    · rw [List.length_append]
      omega
    · rw [hadvances.received_other, pieceStart_append_of_le more hi, hstart]
  · -- the first piece is the mark of the SYN, and nothing has been received
    have hwire := hnumbering.unused (Or.inl hunsent)
    rcases hstep [] (hwire ▸ segmented_unsent hunsent (h.once e.side)) with ⟨more, hmore⟩
    rw [List.nil_append] at hmore
    have hhead := ((hjoined.sender e.side).numbering.next hpending.state_ne).2
    rcases hmore.first hhead with ⟨hlength, hone⟩
    have hreceiver := h.joined.receiver e.side.other
    have hstream := hreceiver.stream
    rw [Side.other_other, hwire, List.tail_nil, List.prefix_nil, List.map_eq_nil_iff] at hstream
    refine ⟨more, hmore, 1, hlength, ?_⟩
    rw [hadvances.received_other, hstream, hone]
    rfl

/-- A packet with a payload carries its bytes. -/
theorem carried_of_payload {flags : UInt8} {iss : UInt32} {wire : List (Option UInt8)}
    {p : MyuTcpPacket} (h : OnWire flags iss wire p) (hpayload : p.payload ≠ []) :
    p.carried = p.payload.map some := by
  have hcontrol : ¬ (p.has flagSyn || p.has flagFin) = true :=
    fun hcontrol => hpayload (h.control hcontrol)
  rw [MyuTcpPacket.carried, if_neg hcontrol]

/-- A segment on the wire is one of the pieces. -/
theorem isPiece_of_payload {flags : UInt8} {iss : UInt32} {wire : List (Option UInt8)}
    {pieces : List (List (Option UInt8))} {s : TcpSession} {p : MyuTcpPacket}
    (h : Segmented iss wire pieces s) (hwire : OnWire flags iss wire p)
    (hp : p.carried ≠ [] → ∃ i, IsPiece iss pieces i p) (hshort : Unrepeated wire)
    (hpayload : p.payload ≠ []) :
    ∃ i, IsPiece iss pieces i p ∧ 1 ≤ pieceStart pieces i ∧ pieceStart pieces i < wire.length := by
  have hcarried := carried_of_payload hwire hpayload
  rcases hp (by simpa [hcarried] using hpayload) with ⟨i, hi⟩
  rcases hwire.payload hpayload with ⟨o, hpos, hseq, hprefix⟩
  have hlength := hprefix.length_le
  rw [List.length_map, List.length_drop] at hlength
  have hbytes := List.length_pos_iff.mpr hpayload
  have hend := pieceStart_add_le_length hi.1
  rw [h.flatten] at hend
  unfold Unrepeated at hshort
  have hsame := ofNat_add_inj_of_pos hpos (by omega) (by omega) (hseq.symm.trans hi.2)
  exact ⟨i, hi, by omega, by omega⟩

/-- A step of the side that receives. -/
theorem Sound.aligned_other {event : Event} (h : Sound x y g)
    (hok : Streaming x y g ⟨side.other, event⟩)
    (hadvances : Advances g ⟨side.other, event⟩ s' g')
    (hpending : (g'.1.session side).Pending) : Aligned x y g' side := by
  have hkept : g'.1.session side = g.1.session side := by
    have hkept := hadvances.session_other
    rwa [Side.other_other] at hkept
  have hwire : g'.2.wire side = g.2.wire side := by
    have hwire := hadvances.wire_other
    rwa [Side.other_other] at hwire
  have hself : g'.1.session side.other = s' := hadvances.session
  have hread : g'.2.read side.other =
      g.2.read side.other ++ (g.1.session side.other).readBy event := hadvances.read
  have hs' : TcpSession.step (g.1.session side.other) event = some s' := hadvances.step
  rw [hkept] at hpending
  rcases h.aligned side hpending with ⟨pieces, hsegmented, i, hi, hstart⟩
  rw [Aligned, hkept, hwire, received, hread, hself, List.append_assoc]
  rcases readBy_append_cases (h.joined.stored side.other) hs' with
    hsame | ⟨packet, iss, he, hstate, hpayload, hseq, hmore⟩
  · rw [hsame]
    exact ⟨pieces, hsegmented, i, hi, hstart⟩
  · -- the segment is the piece that starts where the received ones end
    have hmem : packet ∈ (g.1.session side).packets := by
      have hmem := possible_input hadvances.possible he
      rwa [Side.other_other] at hmem
    have hshort := hok.2 side
    have honWire := (h.joined.sender side).packets.packets hmem
    rcases isPiece_of_payload hsegmented honWire (hsegmented.packets.packets hmem) hshort
      hpayload with ⟨j, hj, hpos, hbelow⟩
    have hreceiver := h.joined.receiver side.other
    rw [Side.other_other] at hreceiver
    have hnext := (hreceiver.next (Or.inr hstate)).2
    have hend := pieceStart_mono pieces hi
    rw [pieceStart_length, hsegmented.flatten] at hend
    unfold Unrepeated at hshort
    have hnumbers : isn x y side + UInt32.ofNat (pieceStart pieces j) =
        isn x y side + UInt32.ofNat (pieceStart pieces i) := by
      rw [← hj.2, hseq, hnext, ← hstart]
    have hsame := ofNat_add_inj_of_pos hpos (by omega) (by omega) hnumbers
    have hindex := eq_of_pieceStart_eq hsegmented.nonempty hj.lt.le hi hsame
    subst hindex
    refine ⟨pieces, hsegmented, j + 1, hj.lt, ?_⟩
    rw [pieceStart_succ hj.1, carried_of_payload honWire hpayload, ← hstart, hmore, received,
      List.length_map]
    simp only [List.length_append]
    omega

theorem sound_step (h : Sound x y g) (hok : Streaming x y g e) (hstep : withStreams g e = some g') :
    Sound x y g' := by
  rcases withStreams_step hstep with ⟨s', hadvances⟩
  have hone := (h.joined.opensAs hok.1 hadvances.possible).oneConnection
  have hs' := hadvances.step
  have hjoined := joined_step h.joined hok (fun hfalse => absurd hfalse id) hstep
  constructor
  · exact hjoined
  · exact hadvances.each h.once (once_step (h.once _) hone hs')
  · exact hadvances.each h.registered (registered_step (h.once _) (h.registered _) hs')
  · exact hadvances.each h.stamped (wellStamped_step (h.stamped _) hs')
  · intro side hpending
    rcases e with ⟨i, event⟩
    rcases Side.eq_or_eq_other i side with rfl | rfl
    · exact h.aligned_self hok hadvances hjoined hpending
    · obtain ⟨j, rfl⟩ : ∃ j : Side, i = j.other := ⟨i.other, i.other_other.symm⟩
      rw [Side.other_other] at hpending ⊢
      exact h.aligned_other hok hadvances hpending

theorem sound_start {a b : TcpSession} (ha : Created a) (hb : Created b) :
    Sound x y (⟨a, b.listen⟩, Streams.empty) := by
  have hnew : ∀ s, Created s → Once s ∧ s.Registered ∧ s.WellStamped ∧ s.state = .closed := by
    intro s hs
    refine ⟨hs.once, fun k t ht => ?_, ?_⟩
    · rw [hs.activeAt k] at ht
      contradiction
    · cases hs
      exact ⟨wellStamped_createSession .., rfl⟩
  have hlisten : TcpSession.step b .listen = some b.listen := rfl
  rcases hnew b hb with ⟨honce, hregistered, hstamped, hclosed⟩
  constructor
  · exact joined_start ha hb
  · rintro (_ | _)
    · exact (hnew a ha).1
    · exact once_step (e := .listen) honce (fun _ => hb.sent) hlisten
  · rintro (_ | _)
    · exact (hnew a ha).2.1
    · exact registered_step honce hregistered hlisten
  · rintro (_ | _)
    · exact (hnew a ha).2.2.1
    · exact wellStamped_step hstamped hlisten
  · rintro (_ | _) hpending
    · exact absurd (hnew a ha).2.2.2 hpending.state_ne.1
    · have hstate : b.listen.state = .listen := by rw [TcpSession.listen, hclosed]; rfl
      exact absurd hstate hpending.state_ne.2.1

/-- A receiver that is behind expects a number that its peer has used. -/
theorem Sound.position (h : Sound x y g) (hsender : (g.1.session side).state = .established)
    (hreceiver : (g.1.session side.other).state = .established)
    (hbehind : (g.1.session side).sendWindow.sendNext ≠
      (g.1.session side.other).recvWindow.recvNext) :
    1 + (received g side.other).length < (g.2.wire side).length ∧
      (g.1.session side.other).recvWindow.recvNext =
        isn x y side + UInt32.ofNat (1 + (received g side.other).length) := by
  have hnumbering := (h.joined.sender side).numbering
  have hpeer := h.joined.receiver side.other
  rw [Side.other_other] at hpeer
  rcases hnumbering.next (by simp [Numbered, hsender]) with ⟨hnext, -⟩
  rcases hpeer.next (Or.inr hreceiver) with ⟨hhead, hexpected⟩
  refine ⟨?_, hexpected⟩
  have hlength := hpeer.stream.length_le
  rcases List.head?_eq_some_iff.mp hhead with ⟨rest, hrest⟩
  rw [hrest, List.length_map, List.tail_cons] at hlength
  rw [hexpected, hnext] at hbehind
  have hne : (g.2.wire side).length ≠ 1 + (received g side.other).length :=
    fun heq => hbehind (by rw [heq])
  rw [hrest, List.length_cons] at hne ⊢
  omega

end Sound

/-! ## A stream that has ended -/

/-- The packet does not reach beyond the position, unless it starts there or behind it. -/
def EndsBy (iss : UInt32) (o : Nat) (p : MyuTcpPacket) : Prop :=
  ∀ n < o, p.seq = iss + UInt32.ofNat n → n + p.payload.length ≤ o

/-- Since {lit}`g₀` no more has been received than what lies before the position, and what the
sender has sent since does not bring the segment that starts there, nor will its timers. -/
structure Stalled (x y : UInt32) (g₀ : Connection × Streams) (side : Side) (o : Nat)
    (g : Connection × Streams) : Prop where
  sound : Sound x y g
  past : Past (g.1.session side.other)
  begun : (g.1.session side.other).sent ≠ []
  grown : received g₀ side.other <+: received g side.other
  bound : 1 + (received g side.other).length ≤ o
  log : (g₀.1.session side).sent <+: (g.1.session side).sent
  wire : g₀.2.wire side <+: g.2.wire side
  apart : Unrepeated (g.2.wire side) →
    AllPackets (fun p => p.payload ≠ [] → EndsBy (isn x y side) o p) (g.1.session side)
  segments : Unrepeated (g.2.wire side) →
    ∀ d ∈ newDatagrams (g₀.1.session side) (g.1.session side), d.packet.payload ≠ [] →
      d.packet.seq = isn x y side + UInt32.ofNat o →
      ¬ (d.destIp = (g₀.1.session side).remoteIp ∧ d.destPort = (g₀.1.session side).remotePort)
  timer : Unrepeated (g.2.wire side) → ∀ t,
    (g.1.session side).timerManager.activeAt (isn x y side + UInt32.ofNat o) = some t →
      ¬ Renews (g₀.1.session side) t

section Stalled

variable {x y : UInt32} {g₀ g g' : Connection × Streams} {e : ConnectionEvent} {s' : TcpSession}
  {side : Side} {o : Nat}

/-- New segments start behind all numbers that were used before. -/
theorem Stalled.starts_behind (h : Stalled x y g₀ side o g) (hbelow : o < (g₀.2.wire side).length)
    {event : Event} (hexpire : ∀ k, event ≠ .expire k)
    (hstep : TcpSession.step (g.1.session side) event = some s')
    (hshort : Unrepeated (g.2.wire side ++ newWire (g.1.session side) s')) {d : Datagram}
    (hd : d ∈ newDatagrams (g.1.session side) s') (hpayload : d.packet.payload ≠ []) {n : Nat}
    (hn : n ≤ o) : d.packet.seq ≠ isn x y side + UInt32.ofNat n := by
  have hsegment : d.packet ∈ newSegments (g.1.session side) s' :=
    List.mem_map_of_mem (List.mem_filter.mpr ⟨hd, by simpa using hpayload⟩)
  rcases newSegments_behind (h.sound.once side) hexpire hstep
    (h.sound.joined.sender side).numbering hsegment with ⟨m, hlow, hhigh, hseq⟩
  have hused := h.wire.length_le
  unfold Unrepeated at hshort
  rw [hseq]
  intro heq
  have hsame := ofNat_add_inj (by omega) (by omega) heq
  omega

/-- A step of the sender. -/
theorem Stalled.sender_step {event : Event} (h : Stalled x y g₀ side o g)
    (hbelow : o < (g₀.2.wire side).length) (hok : Streaming x y g ⟨side, event⟩)
    (hstep : withStreams g ⟨side, event⟩ = some g') : Stalled x y g₀ side o g' := by
  rcases withStreams_step hstep with ⟨s', hadvances⟩
  have hs' : TcpSession.step (g.1.session side) event = some s' := hadvances.step
  have hself : g'.1.session side = s' := hadvances.session
  have hother : g'.1.session side.other = g.1.session side.other := hadvances.session_other
  have hwire : g'.2.wire side = g.2.wire side ++ (g.1.session side).sentBy event s' :=
    hadvances.wire
  have hreceived : received g' side.other = received g side.other := hadvances.received_other
  have hprefix := sent_prefix_step hs'
  have hnew := newDatagrams_trans h.log hprefix
  constructor
  · exact sound_step h.sound hok hstep
  · rw [hother]
    exact h.past
  · rw [hother]
    exact h.begun
  · rw [hreceived]
    exact h.grown
  · rw [hreceived]
    exact h.bound
  · rw [hself]
    exact h.log.trans hprefix
  · rw [hwire]
    exact h.wire.trans (List.prefix_append _ _)
  · intro hshort
    rw [hself]
    refine packets_step (h.apart (hok.2 side)) (h.sound.joined.keyed side) hs' ?_ ?_
    · intro hexpire d hd hpayload n hn hseq
      rw [hwire, sentBy_of_ne hexpire] at hshort
      exact absurd hseq (h.starts_behind hbelow hexpire hs' hshort hd hpayload hn.le)
    · intro p hp
      rw [refreshPacket_payload, EndsBy, refreshPacket_seq, refreshPacket_payload]
      exact hp
  · intro hshort d hd hpayload hseq
    rw [hself, hnew, List.mem_append] at hd
    rcases hd with hd | hd
    · exact h.segments (hok.2 side) d hd hpayload hseq
    by_cases hexpire : ∃ k, event = .expire k
    · -- only the timer of the number sends such a segment, and it sends elsewhere
      rcases hexpire with ⟨k, rfl⟩
      rcases newDatagrams_expire hs' hd with ⟨t, hactive, hpacket, hip, hport⟩
      have hkey := h.sound.joined.keyed side k t hactive
      rw [hpacket, refreshPacket_seq, hkey] at hseq
      rw [hpacket, refreshPacket_payload] at hpayload
      rw [hip, hport]
      rintro ⟨hremoteIp, hremotePort⟩
      have hlimit := lt_limit_of_newDatagrams hactive hs' hd
      exact h.timer (hok.2 side) t (hseq ▸ hactive)
        ⟨hpayload, hremoteIp, hremotePort, not_le.mp hlimit⟩
    · rw [not_exists] at hexpire
      rw [hwire, sentBy_of_ne hexpire] at hshort
      exact absurd hseq (h.starts_behind hbelow hexpire hs' hshort hd hpayload le_rfl)
  · intro hshort t ht hrenews
    rw [hself] at ht
    by_cases hexpire : ∃ k, event = .expire k
    · rcases hexpire with ⟨k, rfl⟩
      rcases expire_eq_some_iff.mp hs' with ⟨u, hactive, -⟩
      have hkey := h.sound.joined.keyed side k u hactive
      rcases activeAt_expire hactive hkey hs' ht with ⟨-, hold⟩ | ⟨rfl, -⟩
      · exact h.timer (hok.2 side) t hold hrenews
      · rcases activeAt_expire_same hactive hkey hs' ht with ⟨hlimit, hpacket, hip, hport⟩
        refine h.timer (hok.2 side) u hactive ⟨?_, ?_, ?_, not_le.mp hlimit⟩
        · have hpayload := hrenews.payload
          rwa [hpacket, refreshPacket_payload] at hpayload
        · rw [← hip, hrenews.ip]
        · rw [← hport, hrenews.port]
    · rw [not_exists] at hexpire
      rcases (step_grows hexpire hs').timers _ t ht with hold | harmed
      · exact h.timer (hok.2 side) t hold hrenews
      · rw [hwire, sentBy_of_ne hexpire] at hshort
        rcases harmed.sent with ⟨d, hd, hpacket⟩
        refine h.starts_behind hbelow hexpire hs' hshort hd ?_ le_rfl ?_
        · rw [hpacket]
          exact hrenews.payload
        · rw [hpacket, harmed.seq]

/-- A step of the receiver takes a segment before the position, or none. -/
theorem Stalled.receiver_step {event : Event} (h : Stalled x y g₀ side o g)
    (hok : AfterLoss x y side g₀.1 g ⟨side.other, event⟩)
    (hstep : withStreams g ⟨side.other, event⟩ = some g') : Stalled x y g₀ side o g' := by
  rcases withStreams_step hstep with ⟨s', hadvances⟩
  have hs' : TcpSession.step (g.1.session side.other) event = some s' := hadvances.step
  have hself : g'.1.session side.other = s' := hadvances.session
  have hother : g'.1.session side = g.1.session side := by
    have hkept := hadvances.session_other
    rwa [Side.other_other] at hkept
  have hwire : g'.2.wire side = g.2.wire side := by
    have hkept := hadvances.wire_other
    rwa [Side.other_other] at hkept
  have hone := (h.sound.joined.opensAs hok.1.1 hadvances.possible).oneConnection
  have hread : g'.2.read side.other =
      g.2.read side.other ++ (g.1.session side.other).readBy event := hadvances.read
  obtain ⟨more, hmore, hbound⟩ : ∃ more, received g' side.other =
      received g side.other ++ more ∧ 1 + (received g side.other ++ more).length ≤ o := by
    rw [received, hread, hself, List.append_assoc]
    rcases readBy_append_cases (h.sound.joined.stored side.other) hs' with
      hsame | ⟨packet, iss, rfl, hstate, hpayload, hseq, hmore⟩
    · exact ⟨[], by rw [hsame, List.append_nil, received], by
        rw [List.append_nil]
        exact h.bound⟩
    refine ⟨packet.payload, by rw [hmore, received, List.append_assoc], ?_⟩
    have hreceiver := h.sound.joined.receiver side.other
    rw [Side.other_other] at hreceiver
    have hnext := (hreceiver.next (Or.inr hstate)).2
    rcases h.bound.lt_or_eq with hlt | heq
    · -- the segment starts before the position, and ends there or before it
      have hmem : packet ∈ (g.1.session side).packets := by
        have hmem := possible_input hadvances.possible rfl
        rwa [Side.other_other] at hmem
      have hends := (h.apart (hok.1.2 side)).packets hmem hpayload _ hlt (hseq.trans hnext)
      rw [List.length_append]
      omega
    · rw [heq] at hnext
      rcases hok.2 rfl with ⟨d, hd, rfl, hip, hport⟩
      rw [Side.other_other] at hd hip hport
      exact absurd ⟨hip, hport⟩ (h.segments (hok.1.2 side) d hd hpayload (hseq.trans hnext))
  constructor
  · exact sound_step h.sound hok.1 hstep
  · rw [hself]
    exact past_of_sent h.past h.begun hone hs'
  · rw [hself]
    intro hnil
    exact h.begun (List.prefix_nil.mp (hnil ▸ sent_prefix_step hs'))
  · rw [hmore]
    exact h.grown.trans (List.prefix_append _ _)
  · rw [hmore]
    exact hbound
  · rw [hother]
    exact h.log
  · rw [hwire]
    exact h.wire
  · rw [hwire, hother]
    exact h.apart
  · rw [hwire, hother]
    exact h.segments
  · rw [hwire, hother]
    exact h.timer

/-- Without a timer that renews the segment no step brings the receiver beyond the position. -/
theorem stalled_step (h : Stalled x y g₀ side o g) (hbelow : o < (g₀.2.wire side).length)
    (hok : AfterLoss x y side g₀.1 g e) (hstep : withStreams g e = some g') :
    Stalled x y g₀ side o g' := by
  rcases e with ⟨i, event⟩
  rcases Side.eq_or_eq_other side i with rfl | rfl
  · exact h.sender_step hbelow hok.1 hstep
  · exact h.receiver_step hok hstep

/-- The segments before a piece end before it. -/
theorem endsBy_pieceStart {flags : UInt8} {iss : UInt32} {wire : List (Option UInt8)}
    {pieces : List (List (Option UInt8))} {s : TcpSession} {j : Nat}
    (h : Segmented iss wire pieces s) (hpackets : AllPackets (OnWire flags iss wire) s)
    (hshort : Unrepeated wire) (hj : j ≤ pieces.length) :
    AllPackets (fun p => p.payload ≠ [] → EndsBy iss (pieceStart pieces j) p) s := by
  have hends : ∀ p, OnWire flags iss wire p → (p.carried ≠ [] → ∃ i, IsPiece iss pieces i p) →
      p.payload ≠ [] → EndsBy iss (pieceStart pieces j) p := by
    intro p hwire hp hpayload n hn hseq
    rcases isPiece_of_payload h hwire hp hshort hpayload with ⟨i, hi, hpos, hbelow⟩
    have hlast := pieceStart_mono pieces hj
    rw [pieceStart_length, h.flatten] at hlast
    unfold Unrepeated at hshort
    have hsame := ofNat_add_inj_of_pos hpos (by omega) (by omega) (hi.2.symm.trans hseq)
    have hend := pieceStart_add_le hi.1 (lt_of_pieceStart_lt (hsame ▸ hn))
    rw [carried_of_payload hwire hpayload, List.length_map] at hend
    omega
  exact ⟨fun d hd => hends _ (hpackets.sent d hd) (h.packets.sent d hd),
    fun k t ht => hends _ (hpackets.timers k t ht) (h.packets.timers k t ht)⟩

/-- The state in which everything on its way is lost, without such a timer. -/
theorem stalled_start (hsound : Sound x y g₀)
    (hopen : (g₀.1.session side.other).state = .established)
    (hshort : Unrepeated (g₀.2.wire side)) {pieces : List (List (Option UInt8))}
    (hsegmented : Segmented (isn x y side) (g₀.2.wire side) pieces (g₀.1.session side)) {j : Nat}
    (hj : j ≤ pieces.length) (hbound : 1 + (received g₀ side.other).length ≤ pieceStart pieces j)
    (hnone : ∀ t, (g₀.1.session side).timerManager.activeAt
        (isn x y side + UInt32.ofNat (pieceStart pieces j)) = some t →
      ¬ Renews (g₀.1.session side) t) : Stalled x y g₀ side (pieceStart pieces j) g₀ where
  sound := hsound
  past := by constructor <;> simp [hopen]
  begun := (hsound.once _).opened (by simp [hopen]) (by simp [hopen])
  grown := List.prefix_rfl
  bound := hbound
  log := List.prefix_rfl
  wire := List.prefix_rfl
  apart _ := endsBy_pieceStart hsegmented (hsound.joined.sender side).packets hshort hj
  segments _ d hd := by
    rw [newDatagrams, List.drop_length] at hd
    contradiction
  timer _ := hnone

end Stalled

/-! ## A segment that is sent again -/

/-- The receiver has taken the packet of the timer of a number. -/
structure Renewed (side : Side) (k : UInt32) (t : UvTimer RetransmitClosure)
    (g g' : Connection × Streams) : Prop where
  again : SendsAgain k t (g.1.session side) (g'.1.session side)
  receiver : (g'.1.session side.other).state = .established
  received : received g' side.other = received g side.other ++ t.callback.packet.payload
  accepted : ∀ i, g'.2.accepted i = g.2.accepted i
  wire : g'.2.wire side = g.2.wire side

section Renewal

variable {x y : UInt32} {c₀ : Connection} {g g' : Connection × Streams} {e : ConnectionEvent}
  {s' : TcpSession} {side : Side} {t : UvTimer RetransmitClosure} {o : Nat}

/-- A packet of an established session carries data, unless it is its SYN. -/
theorem Sound.payload_of_seq (h : Sound x y g) (hsender : (g.1.session side).state = .established)
    (hshort : Unrepeated (g.2.wire side)) (hpos : 1 ≤ o) (hbelow : o < (g.2.wire side).length)
    {p : MyuTcpPacket} (hwire : OnWire (synFlags side) (isn x y side) (g.2.wire side) p)
    (hcarried : p.carried ≠ []) (hseq : p.seq = isn x y side + UInt32.ofNat o) :
    p.payload ≠ [] := by
  intro hnil
  have hmark : p.carried = [none] := by
    rw [MyuTcpPacket.carried] at hcarried ⊢
    split
    · rfl
    · rename_i hflags
      rw [if_neg hflags, hnil] at hcarried
      contradiction
  rcases hwire.placed hcarried with ⟨n, hplace, hprefix, -⟩
  have hlength := hprefix.length_le
  rw [hmark, List.length_singleton, List.length_drop] at hlength
  unfold Unrepeated at hshort
  have hsame := ofNat_add_inj (by omega) (by omega) (hseq.symm.trans hplace)
  subst hsame
  -- a mark behind the SYN is a FIN, and an established session has sent none
  refine (h.joined.sender side).numbering.unfinished hsender
    (List.mem_iff_getElem?.mpr ⟨o - 1, ?_⟩)
  rw [List.getElem?_tail, Nat.sub_add_cancel hpos, ← List.head?_drop]
  rcases hprefix with ⟨rest, hrest⟩
  rw [← hrest, hmark]
  rfl

/-- The timer of a number of an established session holds data, unless it is that of the SYN. -/
theorem Sound.payload_of_timer (h : Sound x y g)
    (hsender : (g.1.session side).state = .established) (hshort : Unrepeated (g.2.wire side))
    (hpos : 1 ≤ o) (hbelow : o < (g.2.wire side).length)
    (hactive : (g.1.session side).timerManager.activeAt (isn x y side + UInt32.ofNat o) = some t) :
    t.callback.packet.payload ≠ [] := by
  have hkey := h.joined.keyed side _ t hactive
  have hwire := (h.joined.sender side).packets.timers _ t hactive
  intro hnil
  have hcontrol := (h.registered side _ t hactive).control hnil
  refine h.payload_of_seq hsender hshort hpos hbelow hwire ?_ hkey hnil
  rw [MyuTcpPacket.carried, if_pos hcontrol]
  exact List.cons_ne_nil _ _

/-- A step of one side. -/
theorem exists_advances {event : Event} (hpossible : g.1.Possible ⟨side, event⟩)
    (hs' : TcpSession.step (g.1.session side) event = some s') :
    ∃ g', withStreams g ⟨side, event⟩ = some g' ∧ Advances g ⟨side, event⟩ s' g' := by
  have hstep := withStreams_of_step hpossible hs'
  rcases withStreams_step hstep with ⟨s'', hadvances⟩
  have hsame : s'' = s' := Option.some.inj (hadvances.step.symm.trans hs')
  exact ⟨_, hstep, hsame ▸ hadvances⟩

/-- A step that uses no numbers. -/
theorem Advances.wire_eq (h : Advances g e s' g')
    (hnone : (g.1.session e.side).sentBy e.event s' = []) (i : Side) :
    g'.2.wire i = g.2.wire i := by
  rcases Side.eq_or_eq_other e.side i with rfl | rfl
  · rw [h.wire, hnone, List.append_nil]
  · exact h.wire_other

/-- A step in which {lit}`send()` is not called. -/
theorem Advances.accepted_eq (h : Advances g e s' g')
    (hnone : (g.1.session e.side).acceptedBy e.event = []) (i : Side) :
    g'.2.accepted i = g.2.accepted i := by
  rcases Side.eq_or_eq_other e.side i with rfl | rfl
  · rw [h.accepted, hnone, List.append_nil]
  · exact h.accepted_other

/-- The timer expires, the receiver reads what it has and takes the segment. -/
theorem Sound.renewal_arrives (h : Sound x y g)
    (hopen : ∀ i, (g.1.session i).state = .established) (hshort : ∀ i, Unrepeated (g.2.wire i))
    (hsince : (c₀.session side).sent <+: (g.1.session side).sent)
    (hremote : (c₀.session side).remoteIp = defaultCapturedIp ∧
      (c₀.session side).remotePort = defaultCapturedPort)
    (ho : o = 1 + (received g side.other).length) (hbelow : o < (g.2.wire side).length)
    (hactive : (g.1.session side).timerManager.activeAt (isn x y side + UInt32.ofNat o) = some t)
    (hcount : t.callback.retransmitCount + 1 < maxRetransmitCount) :
    ∃ g', withStreams.Reachable (AfterLoss x y side c₀) g g' ∧
      Renewed side (isn x y side + UInt32.ofNat o) t g g' := by
  have hpayload := h.payload_of_timer (hopen side) (hshort side) (by omega) hbelow hactive
  have hclosure := h.registered side _ t hactive
  have haddress := hclosure.address hpayload
  have hkey := h.joined.keyed side _ t hactive
  have hnext : (g.1.session side.other).recvWindow.recvNext =
      isn x y side + UInt32.ofNat o := by
    have hreceiver := h.joined.receiver side.other
    rw [Side.other_other] at hreceiver
    rw [ho]
    exact (hreceiver.next (Or.inr (hopen side.other))).2
  -- the expiry
  rcases step_expire_of_lt hactive hkey (not_le.mpr hcount) with ⟨s₁, hs₁, hagain⟩
  have hpossible₁ : g.1.Possible ⟨side, .expire (isn x y side + UInt32.ofNat o)⟩ := trivial
  rcases exists_advances hpossible₁ hs₁ with ⟨g₁, hg₁, h₁⟩
  have hok₁ : AfterLoss x y side c₀ g ⟨side, .expire (isn x y side + UInt32.ofNat o)⟩ :=
    ⟨⟨trivial, hshort⟩, fun _ => trivial⟩
  have hother₁ : g₁.1.session side.other = g.1.session side.other := h₁.session_other
  have hwire₁ := h₁.wire_eq rfl
  -- the read
  rcases readAll_of_established (hopen side.other) with ⟨buffer, hempty, hread⟩
  have hs₂ : TcpSession.step (g₁.1.session side.other) .readAll =
      some { g.1.session side.other with recvBuffer := buffer } := by
    rw [TcpSession.step, hother₁, hread]
  have hpossible₂ : g₁.1.Possible ⟨side.other, .readAll⟩ := trivial
  rcases exists_advances hpossible₂ hs₂ with ⟨g₂, hg₂, h₂⟩
  have hok₂ : AfterLoss x y side c₀ g₁ ⟨side.other, .readAll⟩ := by
    refine ⟨⟨trivial, fun i => ?_⟩, fun _ => trivial⟩
    rw [hwire₁]
    exact hshort i
  have hself₂ : g₂.1.session side.other = { g.1.session side.other with recvBuffer := buffer } :=
    h₂.session
  have hother₂ : g₂.1.session side = s₁ := by
    have hkept := h₂.session_other
    rw [Side.other_other] at hkept
    exact hkept.trans h₁.session
  have hwire₂ := h₂.wire_eq (newWire_of_eq (by rw [hother₁]))
  -- the delivery
  have hself : (g₂.1.session side.other).recvWindow.recvNext =
      isn x y side + UInt32.ofNat o := by
    rw [hself₂]
    exact hnext
  rcases step_input_of_renewal (h.stamped side) hclosure hactive hpayload hkey
    (by rw [hself₂]; exact (h.joined.stored _).of_eq rfl rfl)
    (by rw [hself₂]; exact hopen _) (by rw [hself₂]; exact hempty) hself y with
    ⟨s₃, hs₃, hbuffer₃, hopen₃⟩
  have hfresh : Fresh side c₀ g₂.1
      ⟨side.other, .input ((g.1.session side).refreshPacket t.callback.packet) y⟩ := by
    intro _
    dsimp only
    rw [Side.other_other, hother₂, newDatagrams_trans hsince (by simp [hagain.sent]),
      newDatagrams_of_append hagain.sent]
    exact ⟨_, List.mem_append_right _ (List.mem_singleton_self _), rfl,
      haddress.1.trans hremote.1.symm, haddress.2.trans hremote.2.symm⟩
  have hpossible₃ : g₂.1.Possible
      ⟨side.other, .input ((g.1.session side).refreshPacket t.callback.packet) y⟩ := by
    change _ ∈ (g₂.1.session side.other.other).packets
    rw [Side.other_other, hother₂, TcpSession.packets, hagain.sent]
    simp
  rcases exists_advances hpossible₃ hs₃ with ⟨g₃, hg₃, h₃⟩
  have hok₃ : AfterLoss x y side c₀ g₂
      ⟨side.other, .input ((g.1.session side).refreshPacket t.callback.packet) y⟩ := by
    refine ⟨⟨fun _ => rfl, fun i => ?_⟩, hfresh⟩
    rw [hwire₂, hwire₁]
    exact hshort i
  have hother₃ : g₃.1.session side = s₁ := by
    have hkept := h₃.session_other
    rw [Side.other_other] at hkept
    exact hkept.trans hother₂
  refine ⟨g₃, ((StepFn.Reachable.start.next hok₁ hg₁).next hok₂ hg₂).next hok₃ hg₃, ?_⟩
  constructor
  · rw [hother₃]
    exact hagain
  · have hself₃ : g₃.1.session side.other = s₃ := h₃.session
    rw [hself₃]
    exact hopen₃
  · -- what was buffered has been read, and the payload is new
    have hread₁ : g₁.2.read side.other = g.2.read side.other := h₁.read_other
    have hread₂ : g₂.2.read side.other =
        g.2.read side.other ++ (g.1.session side.other).recvBuffer.toList := by
      rw [h₂.read, hread₁]
      change _ ++ (g₁.1.session side.other).readAll.1 = _
      rw [hother₁, hread]
    have hread₃ : g₃.2.read side.other = g₂.2.read side.other ++ [] := h₃.read
    have hself₃ : g₃.1.session side.other = s₃ := h₃.session
    rw [received, hread₃, hself₃, hbuffer₃, List.append_nil, hread₂, received]
  · intro i
    rw [h₃.accepted_eq rfl, h₂.accepted_eq rfl, h₁.accepted_eq rfl]
  · have hwire₃ : g₃.2.wire side = g₂.2.wire side := by
      have hkept := h₃.wire_other
      rwa [Side.other_other] at hkept
    rw [hwire₃, hwire₂, hwire₁]

end Renewal

/-! ## When the stream goes on -/

/-- In every state of a connection with a receiver that is behind, and after the loss of everything
on its way, a byte can still arrive exactly when the peer has the default address of
{lit}`_handle_retransmit` and the timer of the number that it expects has not used up its
retransmissions.  Otherwise nothing arrives any more, whatever the applications call and whichever
timers expire. -/
theorem lostSegment_arrives_iff {x y : UInt32} {a b : TcpSession} (ha : Created a) (hb : Created b)
    {g : Connection × Streams}
    (hg : withStreams.Reachable (Streaming x y) (⟨a, b.listen⟩, Streams.empty) g)
    (hshort : ∀ i, Unrepeated (g.2.wire i)) (hopen : ∀ i, (g.1.session i).state = .established)
    (side : Side)
    (hbehind : (g.1.session side).sendWindow.sendNext ≠
      (g.1.session side.other).recvWindow.recvNext) :
    (∃ g', withStreams.Reachable (AfterLoss x y side g.1) g g' ∧
        received g' side.other ≠ received g side.other) ↔
      ((g.1.session side).remoteIp = defaultCapturedIp ∧
          (g.1.session side).remotePort = defaultCapturedPort) ∧
        ∃ t, (g.1.session side).timerManager.activeAt
            (g.1.session side.other).recvWindow.recvNext = some t ∧
          t.callback.retransmitCount + 1 < maxRetransmitCount := by
  have hsound : Sound x y g := hg.invariant (sound_start ha hb) fun _ _ _ => sound_step
  rcases hsound.position (hopen side) (hopen side.other) hbehind with ⟨hbelow, hexpected⟩
  rw [hexpected]
  constructor
  · rintro ⟨g', hg', hmore⟩
    by_contra hnot
    rcases hsound.aligned side (Or.inr (Or.inr (hopen side))) with
      ⟨pieces, hsegmented, i, hi, hstart⟩
    rw [hstart] at hnot hbelow
    have hnone : ∀ t, (g.1.session side).timerManager.activeAt
        (isn x y side + UInt32.ofNat (pieceStart pieces i)) = some t →
          ¬ Renews (g.1.session side) t := by
      rintro t hactive ⟨hpayload, hip, hport, hcount⟩
      have haddress := (hsound.registered side _ t hactive).address hpayload
      exact hnot ⟨⟨hip.symm.trans haddress.1, hport.symm.trans haddress.2⟩, t, hactive, hcount⟩
    have hstalled : Stalled x y g side (pieceStart pieces i) g' :=
      hg'.invariant (stalled_start hsound (hopen side.other) (hshort side) hsegmented hi
        hstart.le hnone) fun _ _ _ hg hok => stalled_step hg hbelow hok
    have hlength : (received g' side.other).length ≤ (received g side.other).length := by
      have hbound := hstalled.bound
      omega
    exact hmore (hstalled.grown.eq_of_length_le hlength).symm
  · rintro ⟨hremote, t, hactive, hcount⟩
    rcases hsound.renewal_arrives hopen hshort List.prefix_rfl hremote rfl hbelow hactive
      hcount with ⟨g', hg', hrenewed⟩
    have hpayload := hsound.payload_of_timer (hopen side) (hshort side) (by omega) hbelow hactive
    refine ⟨g', hg', ?_⟩
    rw [hrenewed.received]
    simpa using hpayload

/-- The first byte of a connection is on its way. -/
def firstByteRun : List ConnectionEvent :=
  [⟨.a, .connect 0⟩, ⟨.b, .input (wirePacket 7000 8000 flagSyn 0 0) 100⟩,
    ⟨.a, .input (wirePacket 8000 7000 (flagSyn ||| flagAck) 100 1) 0⟩,
    ⟨.b, .input (wirePacket 7000 8000 flagAck 1 101) 100⟩, ⟨.a, .send [7]⟩]

/-- Once the segment is lost, the byte never arrives, because the peer has another address. -/
theorem lostSegment_arrives_iff_firstByte :
    ∃ g, withStreams.run (⟨clientSession, serverSession.listen⟩, Streams.empty) firstByteRun =
        some g ∧
      g.2.accepted .a = [7] ∧ received g .b = [] ∧
      ∀ g', withStreams.Reachable (AfterLoss 0 100 .a g.1) g g' → received g' .b = [] := by
  have hrun : ((withStreams.run (⟨clientSession, serverSession.listen⟩, Streams.empty)
      firstByteRun).any fun g => (g.2.accepted .a = [7] ∧ received g .b = []) ∧
        ((g.2.wire .a).length = 2 ∧ (g.2.wire .b).length = 1) ∧
        (g.1.a.state = .established ∧ g.1.b.state = .established) ∧
        g.1.a.sendWindow.sendNext ≠ g.1.b.recvWindow.recvNext ∧
        g.1.a.remotePort ≠ defaultCapturedPort) = true := by
    decide +kernel
  have hcheck : withStreams.checkSteps (fun g e => Streaming 0 100 g e)
      (⟨clientSession, serverSession.listen⟩, Streams.empty) firstByteRun = true := by
    decide +kernel
  rcases (Option.any_eq_true _ _).mp hrun with ⟨g, hg, hfacts⟩
  rcases of_decide_eq_true hfacts with
    ⟨⟨haccepted, hnone⟩, ⟨hwireA, hwireB⟩, ⟨hstateA, hstateB⟩, hbehind, hremote⟩
  have hall : withStreams.AllSteps (Streaming 0 100)
      (⟨clientSession, serverSession.listen⟩, Streams.empty) firstByteRun :=
    StepFn.allSteps_of_check (fun _ _ => of_decide_eq_true) hcheck
  have hshort : ∀ i, Unrepeated (g.2.wire i) := by
    rintro (_ | _)
    · rw [Unrepeated, hwireA]
      decide
    · rw [Unrepeated, hwireB]
      decide
  have hopen : ∀ i, (g.1.session i).state = .established := by
    rintro (_ | _)
    · exact hstateA
    · exact hstateB
  have harrives := lostSegment_arrives_iff created_clientSession created_serverSession
    (StepFn.reachable_of_run hall hg) hshort hopen .a hbehind
  refine ⟨g, hg, haccepted, hnone, fun g' hg' => ?_⟩
  by_contra hmore
  have hdefault := harrives.mp ⟨g', hg', fun hsame => hmore (hsame.trans hnone)⟩
  exact hremote hdefault.1.2

end Connection

end MyuTcp
