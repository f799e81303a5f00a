import MyuTcp.Core.Connection

/-!
# Simultaneous open

Both sides connect.  The side that answers the crossing SYN consumes a second number for its
SYN-ACK, which the other side never learns of.

Main results:

- Theorem {lit}`Connection.simultaneousOpen_disagrees`: for every pair of initial numbers,
  two sessions that are both established this way and have sent no data disagree.
-/

namespace MyuTcp

open Library

namespace TcpSession

/-! ## One side -/

/-- How far a side of a simultaneous open has come. -/
inductive OpenPhase
  | idle
  | waiting
  | crossed
  | matched
  | early
deriving DecidableEq, Repr

namespace OpenPhase

/-- The state of the session in a phase. -/
def state : OpenPhase → TcpState
  | idle => .closed
  | waiting => .synSent
  | crossed => .synReceived
  | matched | early => .established

/-- What the side acknowledges, when its peer has drawn the number {lit}`y`. -/
def acked (y : UInt32) : OpenPhase → Option UInt32
  | idle | waiting => none
  | crossed | matched => some (y + 1)
  | early => some (y + 1 + 1)

/-- The phases of the two sides that go together: a side that was established by the
acknowledgment of its SYN has a peer that answered it, and a side that was established by a
SYN-ACK has a peer that still waits. -/
def Fits (p q : OpenPhase) : Prop :=
  (p = matched → q = crossed ∨ q = matched) ∧ (p = early → q = crossed)

end OpenPhase

/-- A packet of a side that has drawn {lit}`x` and acknowledges {lit}`acked`. -/
structure CrossingPacket (x : UInt32) (acked : Option UInt32) (packet : MyuTcpPacket) : Prop where
  noFin : packet.has flagFin = false
  noRst : packet.has flagRst = false
  noPayload : packet.payload = []
  ack : packet.has flagAck = true → acked = some packet.ack
  seq : packet.has flagSyn = true → packet.seq = if packet.has flagAck then x + 1 else x

/-- A side of a simultaneous open that has sent no data. -/
structure InPhase (x y : UInt32) (p : OpenPhase) (s : TcpSession) : Prop where
  state : s.state = p.state
  packets : AllPackets (CrossingPacket x (p.acked y)) s
  keyed : s.Keyed
  recvNext : ∀ r, p.acked y = some r → s.recvWindow.recvNext = r
  waiting : p = .waiting → s.sendWindow.sendUnack = x ∧ s.sendWindow.sendNext = x + 1
  crossed : p = .crossed → s.sendWindow.sendUnack = x ∧ s.sendWindow.sendNext = x + 1 + 1
  matched : p = .matched → s.sendWindow.sendNext = x + 1 + 1
  opened : p ≠ .idle → s.sent ≠ []

/-- The session has been opened and will not be established any more. -/
structure Over (s : TcpSession) : Prop where
  past : Past s
  established : s.state ≠ .established
  opened : s.sent ≠ []

/-- The session has sent data. -/
def SentData (s : TcpSession) : Prop := ∃ d ∈ s.sent, d.packet.payload ≠ []

section Steps

variable {s s' : TcpSession} {e : Event} {x y : UInt32} {p q : OpenPhase}

/-- Data that have been sent stay so. -/
theorem sentData_step (hs : SentData s) (h : step s e = some s') : SentData s' := by
  rcases hs with ⟨d, hd, hpayload⟩
  exact ⟨d, (sent_prefix_step h).subset hd, hpayload⟩

/-- A session that has sent stays so. -/
theorem opened_step (hs : s.sent ≠ []) (h : step s e = some s') : s'.sent ≠ [] :=
  fun hnil => hs (List.prefix_nil.mp (hnil ▸ sent_prefix_step h))

/-- What is over stays over until the session opens again. -/
theorem over_step (hs : Over s) (hopens : ¬ Opens e) (h : step s e = some s') : Over s' where
  past := past_step hs.past hopens h
  established := by
    intro hafter
    rcases (establishes_iff h).mp ⟨hs.established, hafter⟩ with ⟨m, hm, -⟩
    rw [hs.past.establishment] at hm
    contradiction
  opened := opened_step hs.opened h

/-- A session that has been closed is over. -/
theorem over_of_closed (hstate : s.state = .closed) (hsent : s.sent ≠ []) : Over s where
  past := by constructor <;> simp [hstate]
  established := by simp [hstate]
  opened := hsent

/-- A packet that is sent again is still one of the crossing. -/
theorem crossingPacket_refresh {acked : Option UInt32} {packet : MyuTcpPacket}
    (hrecv : ∀ r, acked = some r → s.recvWindow.recvNext = r)
    (h : CrossingPacket x acked packet) : CrossingPacket x acked (s.refreshPacket packet) where
  noFin := by rw [refreshPacket_has, h.noFin]
  noRst := by rw [refreshPacket_has, h.noRst]
  noPayload := by rw [refreshPacket_payload, h.noPayload]
  ack hflag := by
    rw [refreshPacket_has] at hflag
    rw [refreshPacket_ack, hrecv _ (h.ack hflag)]
    exact h.ack hflag
  seq hflag := by
    rw [refreshPacket_has] at hflag ⊢
    rw [refreshPacket_seq]
    exact h.seq hflag

/-- The packets of a phase without acknowledgments are packets of every phase. -/
theorem CrossingPacket.of_none {acked : Option UInt32} {packet : MyuTcpPacket}
    (h : CrossingPacket x none packet) : CrossingPacket x acked packet where
  noFin := h.noFin
  noRst := h.noRst
  noPayload := h.noPayload
  ack hflag := by
    have hnone := h.ack hflag
    contradiction
  seq := h.seq

/-! ## Established without data -/

/-- Data has been sent, or the numbers and the log are as before. -/
def Still (s s' : TcpSession) : Prop :=
  SentData s' ∨ (s'.sendWindow.sendNext = s.sendWindow.sendNext ∧ s'.recvWindow = s.recvWindow ∧
    s'.sent = s.sent)

/-- {lit}`_handle_try_send` sends data or does nothing. -/
theorem still_handleTrySend (s : TcpSession) : SentData s.handleTrySend ∨ s.handleTrySend = s := by
  by_cases htransmits : s.Transmits
  · apply Or.inl
    rw [s.handleTrySend_of_transmits htransmits]
    refine ⟨_, List.mem_append_right _ (List.mem_singleton_self _), ?_⟩
    rw [datagram_payload]
    exact s.nextPayload_ne_nil htransmits
  · exact Or.inr (s.handleTrySend_of_not htransmits)

/-- An acknowledgment changes nothing that matters to the crossing. -/
theorem still_processAck (s : TcpSession) (ackNum : UInt32) : Still s (s.processAck ackNum) := by
  by_cases hthird : s.ThirdDuplicate ackNum
  · rcases (s.releaseAcked ackNum).countDupAck_frame ackNum with ⟨c, d, hframe⟩
    have heq : ((s.releaseAcked ackNum).countDupAck ackNum).dupAckCount = 3 := by
      rw [(s.countDupAck_releaseAcked ackNum).1]
      exact hthird
    rw [processAck, fastRetransmit, if_pos heq, hframe, onRecvThreeDupAck]
    dsimp only
    split
    · rename_i packet hfind
      by_cases hnil : packet.payload = []
      · rw [sendPayloadPacket, if_pos (by simp [hnil])]
        exact Or.inr ⟨rfl, rfl, rfl⟩
      · rw [sendPayloadPacket_eq _ hnil]
        refine Or.inl ⟨_, List.mem_append_right _ (List.mem_singleton_self _), ?_⟩
        rw [datagram_payload]
        exact hnil
    · exact Or.inr ⟨rfl, rfl, rfl⟩
  · rw [s.processAck_of_not hthird]
    exact Or.inr ⟨rfl, rfl, rfl⟩

/-- Nor does {lit}`_handle_try_send` without data. -/
theorem Still.handleTrySend {s s' : TcpSession} (h : Still s s') : Still s s'.handleTrySend := by
  rcases h with ⟨d, hd, hpayload⟩ | h
  · exact Or.inl ⟨d, (sent_prefix_handleTrySend s').subset hd, hpayload⟩
  · rcases still_handleTrySend s' with hsent | heq
    · exact Or.inl hsent
    · rw [heq]
      exact Or.inr h

/-- Nor does an established session without data and FIN. -/
theorem still_handleEstablished {packet : MyuTcpPacket} (hfin : packet.has flagFin = false)
    (hpayload : packet.payload = []) (h : s.handleEstablished packet = some s') :
    Still s s' := by
  simp only [handleEstablished, handleEstablishedPayload, hpayload, List.length_nil, gt_iff_lt,
    Nat.lt_irrefl, if_false, Option.map_some, Option.some.injEq, handleEstablishedFin, hfin,
    Bool.false_eq_true] at h
  subst h
  split
  · rw [handleAck]
    split
    · exact ((still_processAck s packet.ack).handleTrySend).handleTrySend
    · exact Still.handleTrySend (Or.inr ⟨rfl, rfl, rfl⟩)
  · exact Or.inr ⟨rfl, rfl, rfl⟩

/-- As long as it receives no data and no end of data, an established session leaves
ESTABLISHED, sends data, or keeps its numbers and sends by expiries only. -/
theorem still_step (hstate : s.state = .established) (hopens : ¬ Opens e)
    (hexpire : ∀ k, e ≠ .expire k)
    (hinput : ∀ packet iss, e = .input packet iss →
      packet.has flagRst = false ∧ packet.has flagFin = false ∧ packet.payload = [])
    (h : step s e = some s') : s'.state ≠ .established ∨ Still s s' := by
  have hstill : Still s s := Or.inr ⟨rfl, rfl, rfl⟩
  cases e with
  | setRemoteAddr ip port => cases h; exact Or.inr hstill
  | setListenerPort port => cases h; exact Or.inr hstill
  | connect iss => exact absurd trivial hopens
  | listen => exact absurd trivial hopens
  | send data =>
      cases h
      apply Or.inr
      rw [send]
      split
      · exact hstill
      · dsimp only
        split
        · exact hstill
        · exact Still.handleTrySend (Or.inr ⟨rfl, rfl, rfl⟩)
  | recv bufSize =>
      cases h
      rcases recv_of_not_closeWait (s := s) (by simp [hstate]) bufSize with ⟨buffer, hrecv⟩
      rw [hrecv]
      exact Or.inr (Or.inr ⟨rfl, rfl, rfl⟩)
  | readAll =>
      cases h
      rcases readAll_of_not_closeWait (s := s) (by simp [hstate]) with ⟨buffer, hread⟩
      rw [hread]
      exact Or.inr (Or.inr ⟨rfl, rfl, rfl⟩)
  | close =>
      cases h
      apply Or.inl
      rw [close, hstate]
      simp [closeEstablished_eq]
  | input packet iss =>
      rcases hinput packet iss rfl with ⟨hrst, hfin, hpayload⟩
      rcases input_cases h with ⟨-, -, rfl⟩ | ⟨-, rfl⟩ | ⟨-, hreset, -⟩ | ⟨hadmitted, h⟩
      · exact Or.inr hstill
      · exact Or.inr hstill
      · rw [hrst] at hreset
        contradiction
      · rw [dispatch, show (s.observe packet).state = .established from hstate] at h
        exact Or.inr (still_handleEstablished (s := s.observe packet) hfin hpayload h)
  | expire k => exact absurd rfl (hexpire k)
  | expire2Msl =>
      rw [step] at h
      split at h
      · cases h
        exact Or.inl (by simp [handle2MslTimeout, transitionTo, notify])
      · contradiction

/-! ## Steps of one side -/

/-- A side after a step next to a peer in phase {lit}`q`. -/
def Proceeds (x y : UInt32) (q : OpenPhase) (s : TcpSession) : Prop :=
  Over s ∨ SentData s ∨ ∃ p, InPhase x y p s ∧ p.Fits q ∧ q.Fits p

/-- What is sent without FIN and RST is a packet of the crossing. -/
theorem crossingPacket_datagram {acked : Option UInt32} (t : TcpSession) {flags : UInt8}
    {ackNum : UInt32} (hfin : flags &&& flagFin = 0) (hrst : flags &&& flagRst = 0)
    (hack : flags &&& flagAck ≠ 0 → acked = some ackNum)
    (hseq : flags &&& flagSyn ≠ 0 →
      t.sendWindow.sendNext = if flags &&& flagAck ≠ 0 then x + 1 else x) :
    CrossingPacket x acked (t.datagram flags ackNum []).packet where
  noFin := by simp [hfin]
  noRst := by simp [hrst]
  noPayload := datagram_payload _ _ _ _
  ack hflag := by
    rw [datagram_has, bne_iff_ne] at hflag
    rw [datagram_ack, hack hflag]
  seq hflag := by
    rw [datagram_has, bne_iff_ne] at hflag
    simp [hseq hflag]

/-- A side that connects waits. -/
theorem phase_connect (hs : InPhase x y p s) (hfits' : q.Fits p) (hnil : s.sent = []) :
    Proceeds x y q (s.connect x) := by
  have h : step s (.connect x) = some (s.connect x) := rfl
  have hkeyed := keyed_step hs.keyed h
  have hidle : p = .idle := by
    by_contra hne
    exact hs.opened hne hnil
  subst hidle
  rw [connect_eq] at h hkeyed ⊢
  refine Or.inr (Or.inr ⟨.waiting,
    { state := rfl
      packets := ?_
      keyed := hkeyed
      recvNext := fun _ hr => by contradiction
      waiting := fun _ => ⟨rfl, rfl⟩
      crossed := fun hp => by contradiction
      matched := fun hp => by contradiction
      opened := fun _ => by simp }, ?_, ?_⟩)
  · refine packets_step_of_single hs.packets (by simp) h rfl ?_
    exact crossingPacket_datagram _ (by decide) (by decide) (fun hack => absurd rfl hack)
      fun _ => rfl
  · exact ⟨fun hp => by contradiction, fun hp => by contradiction⟩
  · exact ⟨fun hq => by simpa using hfits'.1 hq, fun hq => by simpa using hfits'.2 hq⟩

section Answers

variable {packet : MyuTcpPacket} {iss : UInt32}

/-- A waiting side that takes a SYN-ACK has a crossed peer, and is established early. -/
theorem phase_synAck (hs : InPhase x y p s) (hfits' : q.Fits p) (hstate : s.state = .synSent)
    (hsyn : packet.has flagSyn = true) (hflag : packet.has flagAck = true)
    (hpacket : CrossingPacket y (q.acked x) packet)
    (h : step s (.input packet iss) =
      some ((s.observe packet).acceptSynAck packet).handleTrySend) :
    Proceeds x y q ((s.observe packet).acceptSynAck packet).handleTrySend := by
  have hkeyed := keyed_step hs.keyed h
  have hwaiting : p = .waiting := by
    rw [hs.state] at hstate
    cases p <;> simp [OpenPhase.state] at hstate ⊢
  subst hwaiting
  have hcrossed : q = .crossed := by
    have hacked := hpacket.ack hflag
    cases q with
    | crossed => rfl
    | matched => simpa using hfits'.1 rfl
    | early => simpa using hfits'.2 rfl
    | idle => contradiction
    | waiting => contradiction
  have hseq : packet.seq = y + 1 := by
    rw [hpacket.seq hsyn, if_pos hflag]
  rcases still_handleTrySend ((s.observe packet).acceptSynAck packet) with hsent | heq
  · exact Or.inr (Or.inl hsent)
  rw [heq, acceptSynAck_eq] at h hkeyed ⊢
  refine Or.inr (Or.inr ⟨.early,
    { state := rfl
      packets := ?_
      keyed := hkeyed
      recvNext := ?_
      waiting := fun hp => by contradiction
      crossed := fun hp => by contradiction
      matched := fun hp => by contradiction
      opened := fun _ => by simp }, ?_, ?_⟩)
  · refine packets_step_of_single (hs.packets.mono fun _ => CrossingPacket.of_none)
      (by simp) h rfl ?_
    exact crossingPacket_datagram _ (by decide) (by decide)
      (fun _ => by rw [hseq]; rfl) fun hflag => absurd rfl hflag
  · rintro r ⟨⟩
    dsimp only
    rw [hseq]
  · exact ⟨fun hp => by contradiction, fun _ => hcrossed⟩
  · subst hcrossed
    exact ⟨fun hp => by contradiction, fun hp => by contradiction⟩

/-- A waiting side that takes a SYN has crossed. -/
theorem phase_peerSyn (hs : InPhase x y p s) (hstate : s.state = .synSent)
    (hsyn : packet.has flagSyn = true) (hflag : packet.has flagAck = false)
    (hpacket : CrossingPacket y (q.acked x) packet)
    (h : step s (.input packet iss) = some ((s.observe packet).acceptPeerSyn packet)) :
    Proceeds x y q ((s.observe packet).acceptPeerSyn packet) := by
  have hkeyed := keyed_step hs.keyed h
  have hwaiting : p = .waiting := by
    rw [hs.state] at hstate
    cases p <;> simp [OpenPhase.state] at hstate ⊢
  subst hwaiting
  have hseq : packet.seq = y := by
    rw [hpacket.seq hsyn, if_neg (by simp [hflag])]
  rcases hs.waiting rfl with ⟨hunack, hnext⟩
  rw [acceptPeerSyn_eq] at h hkeyed ⊢
  refine Or.inr (Or.inr ⟨.crossed,
    { state := rfl
      packets := ?_
      keyed := hkeyed
      recvNext := ?_
      waiting := fun hp => by contradiction
      crossed := fun _ => ⟨hunack, congrArg (· + 1) hnext⟩
      matched := fun hp => by contradiction
      opened := fun _ => by simp }, ?_, ?_⟩)
  · refine packets_step_of_single (hs.packets.mono fun _ => CrossingPacket.of_none)
      (by simp) h rfl ?_
    exact crossingPacket_datagram _ (by decide) (by decide)
      (fun _ => by rw [hseq]; rfl) fun _ => hnext
  · rintro r ⟨⟩
    dsimp only
    rw [hseq]
  · exact ⟨fun hp => by contradiction, fun hp => by contradiction⟩
  · exact ⟨fun _ => Or.inl rfl, fun _ => rfl⟩

/-- A crossed side that is acknowledged matches its peer. -/
theorem phase_synReceivedAck (hs : InPhase x y p s) (hstate : s.state = .synReceived)
    (hflag : packet.has flagAck = true) (hack : packet.ack = s.sendWindow.sendUnack + 1)
    (hpacket : CrossingPacket y (q.acked x) packet)
    (h : step s (.input packet iss) =
      some ((s.observe packet).acceptSynReceivedAck packet).handleTrySend) :
    Proceeds x y q ((s.observe packet).acceptSynReceivedAck packet).handleTrySend := by
  have hkeyed := keyed_step hs.keyed h
  have hcrossed : p = .crossed := by
    rw [hs.state] at hstate
    cases p <;> simp [OpenPhase.state] at hstate ⊢
  subst hcrossed
  rcases hs.crossed rfl with ⟨hunack, hnext⟩
  -- a side that was established by a SYN-ACK acknowledges another number
  have hpeer : q = .crossed ∨ q = .matched := by
    have hacked := hpacket.ack hflag
    rw [hack, hunack] at hacked
    cases q with
    | crossed => exact Or.inl rfl
    | matched => exact Or.inr rfl
    | early =>
        rw [OpenPhase.acked, Option.some.injEq] at hacked
        simp at hacked
    | idle => contradiction
    | waiting => contradiction
  rcases still_handleTrySend ((s.observe packet).acceptSynReceivedAck packet) with hsent | heq
  · exact Or.inr (Or.inl hsent)
  rw [heq] at h hkeyed ⊢
  refine Or.inr (Or.inr ⟨.matched,
    { state := rfl
      packets := packets_step_of_quiet hs.packets (by simp) h rfl
      keyed := hkeyed
      recvNext := hs.recvNext
      waiting := fun hp => by contradiction
      crossed := fun hp => by contradiction
      matched := fun _ => hnext
      opened := fun _ => hs.opened (by simp) }, ?_, ?_⟩)
  · exact ⟨fun _ => hpeer, fun hp => by contradiction⟩
  · refine ⟨fun _ => Or.inr rfl, fun hq => ?_⟩
    subst hq
    simp at hpeer

end Answers

/-- A step of a session that is opening. -/
theorem phase_step_opening (hs : InPhase x y p s) (hfits : p.Fits q) (hfits' : q.Fits p)
    (hopening : s.NotEstablished) (h : step s e = some s') (hlisten : e ≠ .listen)
    (hconnect : ∀ iss, e = .connect iss → iss = x ∧ s.sent = [])
    (hinput : ∀ packet iss, e = .input packet iss → CrossingPacket y (q.acked x) packet) :
    Proceeds x y q s' := by
  have hkeyed := keyed_step hs.keyed h
  cases opening_step hopening h with
  | quiet hstate hsend hrecv hsent htimers =>
      exact Or.inr (Or.inr ⟨p,
        { state := hstate.trans hs.state
          packets := hs.packets.of_eq hsent htimers
          keyed := hkeyed
          recvNext := hrecv ▸ hs.recvNext
          waiting := hsend ▸ hs.waiting
          crossed := hsend ▸ hs.crossed
          matched := hsend ▸ hs.matched
          opened := hsent ▸ hs.opened }, hfits, hfits'⟩)
  | listened hstate => exact absurd rfl hlisten
  | connected iss =>
      rcases hconnect iss rfl with ⟨rfl, hnil⟩
      exact phase_connect hs hfits' hnil
  | aborted hstate =>
      rw [abortOpening_eq]
      exact Or.inl (over_of_closed rfl (by simp))
  | reset hrst =>
      rw [(hinput _ _ rfl).noRst] at hrst
      contradiction
  | passiveOpen hadmitted hstate hsyn =>
      rw [hs.state] at hstate
      cases p <;> contradiction
  | synAck hadmitted hstate hsyn hflag hack =>
      exact phase_synAck hs hfits' hstate hsyn hflag (hinput _ _ rfl) h
  | peerSyn hadmitted hstate hsyn hflag =>
      exact phase_peerSyn hs hstate hsyn hflag (hinput _ _ rfl) h
  | synReceivedAck hadmitted hstate hflag hack =>
      exact phase_synReceivedAck hs hstate hflag hack (hinput _ _ rfl) h
  | expired hexpire =>
      rcases expire_frame hexpire with ⟨hstate, hunack, hnext, hrecv⟩
      have hpackets := packets_expire hs.packets hs.keyed hexpire
        fun _ => crossingPacket_refresh hs.recvNext
      exact Or.inr (Or.inr ⟨p,
        { state := hstate.trans hs.state
          packets := hpackets
          keyed := hkeyed
          recvNext := hrecv ▸ hs.recvNext
          waiting := by rw [hunack, hnext]; exact hs.waiting
          crossed := by rw [hunack, hnext]; exact hs.crossed
          matched := by rw [hnext]; exact hs.matched
          opened := fun hp => opened_step (hs.opened hp) h }, hfits, hfits'⟩)
  | expired2Msl =>
      by_cases hidle : p = .idle
      · subst hidle
        exact Or.inr (Or.inr ⟨.idle,
          { state := rfl
            packets := packets_step_of_quiet hs.packets (by simp) h rfl
            keyed := hkeyed
            recvNext := hs.recvNext
            waiting := fun hp => by contradiction
            crossed := fun hp => by contradiction
            matched := fun hp => by contradiction
            opened := fun hp => by contradiction }, hfits, hfits'⟩)
      · exact Or.inl (over_of_closed rfl (hs.opened hidle))

/-- A step of a session that is established. -/
theorem phase_step_established (hs : InPhase x y p s) (hfits : p.Fits q) (hfits' : q.Fits p)
    (hstate : s.state = .established) (h : step s e = some s') (hopens : ¬ Opens e)
    (hinput : ∀ packet iss, e = .input packet iss → CrossingPacket y (q.acked x) packet) :
    Proceeds x y q s' := by
  have hkeyed := keyed_step hs.keyed h
  have hphase : p = .matched ∨ p = .early := by
    rw [hs.state] at hstate
    cases p <;> simp [OpenPhase.state] at hstate ⊢
  have hopened : s.sent ≠ [] := hs.opened (by rcases hphase with rfl | rfl <;> simp)
  have hwaiting : p ≠ .waiting := by rcases hphase with rfl | rfl <;> simp
  have hcrossed : p ≠ .crossed := by rcases hphase with rfl | rfl <;> simp
  by_cases hexpire : ∃ k, e = .expire k
  · rcases hexpire with ⟨k, rfl⟩
    rcases expire_frame h with ⟨hsame, hunack, hnext, hrecv⟩
    exact Or.inr (Or.inr ⟨p,
      { state := hsame.trans hs.state
        packets := packets_expire hs.packets hs.keyed h
          fun _ => crossingPacket_refresh hs.recvNext
        keyed := hkeyed
        recvNext := hrecv ▸ hs.recvNext
        waiting := fun hp => absurd hp hwaiting
        crossed := fun hp => absurd hp hcrossed
        matched := by rw [hnext]; exact hs.matched
        opened := fun _ => opened_step hopened h }, hfits, hfits'⟩)
  · rw [not_exists] at hexpire
    by_cases hsame : s'.state = .established
    · rcases still_step hstate hopens hexpire
        (fun packet iss he => ⟨(hinput packet iss he).noRst, (hinput packet iss he).noFin,
          (hinput packet iss he).noPayload⟩) h with hleft | hsent | ⟨hnext, hrecv, hsent⟩
      · exact absurd hsame hleft
      · exact Or.inr (Or.inl hsent)
      · exact Or.inr (Or.inr ⟨p,
          { state := by rw [hsame, ← hstate, hs.state]
            packets := packets_step_of_quiet hs.packets hexpire h hsent
            keyed := hkeyed
            recvNext := hrecv ▸ hs.recvNext
            waiting := fun hp => absurd hp hwaiting
            crossed := fun hp => absurd hp hcrossed
            matched := by rw [hnext]; exact hs.matched
            opened := fun _ => hsent ▸ hopened }, hfits, hfits'⟩)
    · exact Or.inl
        { past := past_step (past_of_established hstate) hopens h
          established := hsame
          opened := opened_step hopened h }

/-- One step of a side that receives the packets of a peer in phase {lit}`q`. -/
theorem phase_step (hs : InPhase x y p s) (hfits : p.Fits q) (hfits' : q.Fits p)
    (h : step s e = some s') (hlisten : e ≠ .listen)
    (hconnect : ∀ iss, e = .connect iss → iss = x ∧ s.sent = [])
    (hinput : ∀ packet iss, e = .input packet iss → CrossingPacket y (q.acked x) packet) :
    Proceeds x y q s' := by
  have hopening : s.state ≠ .established → s.NotEstablished := by
    intro hne
    unfold NotEstablished
    rw [hs.state] at hne ⊢
    cases p <;> simp [OpenPhase.state] at hne ⊢
  by_cases hstate : s.state = .established
  · refine phase_step_established hs hfits hfits' hstate h ?_ hinput
    cases e with
    | connect iss =>
        intro
        refine hs.opened ?_ (hconnect iss rfl).2
        rintro rfl
        rw [hs.state] at hstate
        contradiction
    | listen => exact absurd rfl hlisten
    | _ => exact id
  · exact phase_step_opening hs hfits hfits' (hopening hstate) h hlisten hconnect hinput

end Steps

end TcpSession

namespace Connection

open TcpSession

/-! ## Both sides -/

/-- The steps of a simultaneous open: each side connects once, with its own number. -/
def OpensBothWays (x y : UInt32) (c : Connection) (e : ConnectionEvent) : Prop :=
  match e.event with
  | .connect iss => iss = isn x y e.side ∧ (c.session e.side).sent = []
  | .listen => False
  | _ => True

instance (x y : UInt32) (c : Connection) : (e : ConnectionEvent) →
    Decidable (OpensBothWays x y c e)
  | ⟨_, .connect _⟩ => inferInstanceAs (Decidable (_ ∧ _))
  | ⟨_, .listen⟩ => isFalse id
  | ⟨_, .setRemoteAddr ..⟩ | ⟨_, .setListenerPort ..⟩ | ⟨_, .send ..⟩ | ⟨_, .recv ..⟩
  | ⟨_, .readAll⟩ | ⟨_, .close⟩ | ⟨_, .input ..⟩ | ⟨_, .expire ..⟩ | ⟨_, .expire2Msl⟩ =>
      isTrue trivial

/-- Both sides are in phases that fit, unless one of them is over or has sent data. -/
def Crossing (x y : UInt32) (c : Connection) : Prop :=
  (∃ side, Over (c.session side)) ∨ (∃ side, SentData (c.session side)) ∨
    ∃ phase : Side → OpenPhase, ∀ side,
      InPhase (isn x y side) (isn x y side.other) (phase side) (c.session side) ∧
        (phase side).Fits (phase side.other)

/-- What two established sides without data should agree on. -/
structure Synchronized (c : Connection) : Prop where
  recvNext : ∀ side, (c.session side).recvWindow.recvNext =
    (c.session side.other).sendWindow.sendNext
  sendUnack : ∀ side, (c.session side).sendWindow.sendUnack = (c.session side).sendWindow.sendNext
  timers : ∀ side k t, (c.session side).timerManager.activeAt k = some t →
    t.callback.packet.has flagSyn = false

section Crossing

variable {x y : UInt32} {c c' : Connection} {e : ConnectionEvent}

/-- Before any step. -/
theorem crossing_start {a b : TcpSession} (ha : Created a) (hb : Created b) :
    Crossing x y ⟨a, b⟩ := by
  refine Or.inr (Or.inr ⟨fun _ => .idle, fun side => ⟨?_, ?_⟩⟩)
  · have hcreated : Created (session ⟨a, b⟩ side) := by
      cases side
      · exact ha
      · exact hb
    exact
      { state := hcreated.state
        packets := allPackets_of_unsent hcreated.sent hcreated.activeAt
        keyed := hcreated.keyed
        recvNext := fun _ hr => by contradiction
        waiting := fun hp => by contradiction
        crossed := fun hp => by contradiction
        matched := fun hp => by contradiction
        opened := fun hp => absurd rfl hp }
  · exact ⟨fun hp => by contradiction, fun hp => by contradiction⟩

/-- A step of either side. -/
theorem crossing_step (h : Crossing x y c) (hok : OpensBothWays x y c e)
    (hstep : step c e = some c') : Crossing x y c' := by
  rcases step_eq_some_iff.mp hstep with ⟨hpossible, s', hs', rfl⟩
  have hlisten : e.event ≠ .listen := by
    intro hlisten
    unfold OpensBothWays at hok
    rw [hlisten] at hok
    exact hok
  have hconnect : ∀ iss, e.event = .connect iss →
      iss = isn x y e.side ∧ (c.session e.side).sent = [] := by
    intro iss hconnect
    unfold OpensBothWays at hok
    rw [hconnect] at hok
    exact hok
  -- what one side has reached it keeps, whichever side moves
  have hkeeps : ∀ P : TcpSession → Prop, (∀ side, side = e.side → P (c.session side) → P s') →
      (∃ side, P (c.session side)) → ∃ side, P ((c.update e.side s').session side) := by
    rintro P hP ⟨side, hside⟩
    rcases Side.eq_or_eq_other e.side side with rfl | rfl
    · refine ⟨e.side, ?_⟩
      rw [session_update_self]
      exact hP _ rfl hside
    · refine ⟨e.side.other, ?_⟩
      rw [session_update_other]
      exact hside
  rcases h with hover | hsent | ⟨phase, hphase⟩
  · apply Or.inl
    apply hkeeps Over _ hover
    rintro side rfl hover
    refine over_step hover ?_ hs'
    intro hopens
    cases he : e.event with
    | connect iss => exact hover.opened (hconnect iss he).2
    | listen => exact hlisten he
    | _ => rw [he] at hopens; exact hopens
  · exact Or.inr (Or.inl (hkeeps SentData (by
      rintro side rfl hsent
      exact sentData_step hsent hs') hsent))
  · have hpeer := hphase e.side.other
    rw [Side.other_other] at hpeer
    have hproceeds := phase_step (hphase e.side).1 (hphase e.side).2 hpeer.2 hs' hlisten hconnect
      fun packet iss he => hpeer.1.packets.packets (possible_input hpossible he)
    rcases hproceeds with hover | hsent | ⟨p, hp, hfits, hfits'⟩
    · exact Or.inl ⟨e.side, by rw [session_update_self]; exact hover⟩
    · exact Or.inr (Or.inl ⟨e.side, by rw [session_update_self]; exact hsent⟩)
    · refine Or.inr (Or.inr ⟨Function.update phase e.side p, fun side => ?_⟩)
      rcases Side.eq_or_eq_other e.side side with rfl | rfl
      · rw [session_update_self, Function.update_self, Function.update_of_ne (Side.other_ne _)]
        exact ⟨hp, hfits⟩
      · rw [session_update_other, Side.other_other, Function.update_self,
          Function.update_of_ne (Side.other_ne _)]
        exact ⟨hpeer.1, hfits'⟩

/-- Two established sides without data have both answered the other's SYN. -/
theorem Crossing.matched (h : Crossing x y c)
    (hestablished : ∀ side, (c.session side).state = .established)
    (hdata : ∀ side, ¬ SentData (c.session side)) (side : Side) :
    InPhase (isn x y side) (isn x y side.other) .matched (c.session side) := by
  rcases h with ⟨i, hover⟩ | ⟨i, hsent⟩ | ⟨phase, hphase⟩
  · exact absurd (hestablished i) hover.established
  · exact absurd hsent (hdata i)
  · have hboth : ∀ i, phase i = .matched ∨ phase i = .early := by
      intro i
      have hstate := (hphase i).1.state
      rw [hestablished i] at hstate
      cases hp : phase i <;> simp [hp, OpenPhase.state] at hstate ⊢
    rcases hboth side with hp | hp
    · rw [← hp]
      exact (hphase side).1
    · have hcrossed := (hphase side).2.2 hp
      rcases hboth side.other with hother | hother
      · rw [hother] at hcrossed
        contradiction
      · rw [hother] at hcrossed
        contradiction

/-- With both sides established and no data the numbers disagree. -/
theorem Crossing.not_synchronized (h : Crossing x y c) (hestablished : ∀ side,
    (c.session side).state = .established) (hdata : ∀ side, ¬ SentData (c.session side)) :
    ¬ c.Synchronized := by
  intro hsync
  have ha := h.matched hestablished hdata .a
  have hb := h.matched hestablished hdata .b
  have hrecv := hsync.recvNext .a
  rw [ha.recvNext (y + 1) rfl, show (c.session Side.a.other).sendWindow.sendNext = y + 1 + 1 from
    hb.matched rfl] at hrecv
  simp at hrecv

end Crossing

/-! ## The crossing SYNs -/

section CrossingSyns

variable {s t : TcpSession} {x y : UInt32}

/-- The SYN that a session sends when it connects. -/
def synPacket (s : TcpSession) (x : UInt32) : MyuTcpPacket :=
  ((s.atSeq x).datagram flagSyn s.recvWindow.recvNext []).packet

/-- A session that connects and receives the SYN of another one that does. -/
def answerSyn (s t : TcpSession) (x y : UInt32) : TcpSession :=
  ((s.connect x).observe (synPacket t y)).acceptPeerSyn (synPacket t y)

/-- The SYN-ACK with which it answers. -/
def synAckPacket (s : TcpSession) (x y : UInt32) : MyuTcpPacket :=
  ((s.atSeq (x + 1)).datagram (flagSyn ||| flagAck) (y + 1) []).packet

/-- The active opening sends a SYN. -/
theorem packets_connect (hs : Created s) : (s.connect x).packets = [synPacket s x] := by
  rw [TcpSession.packets, connect_eq, hs.sent]
  rfl

/-- The SYN has the initial number. -/
theorem synPacket_seq (s : TcpSession) (x : UInt32) : (synPacket s x).seq = x := by
  rw [synPacket, datagram_seq]
  rfl

/-- The crossing SYN is answered. -/
theorem step_answerSyn (s t : TcpSession) (x y : UInt32) :
    TcpSession.step (s.connect x) (.input (synPacket t y) 0) = some (answerSyn s t x y) := by
  apply step_peerSyn
  · exact admitted_datagram _ _ (by decide) (by decide)
  · rw [connect_eq]
  · rw [synPacket, datagram_has]
    decide
  · rw [synPacket, datagram_has]
    decide

/-- The session after it has answered the crossing SYN. -/
theorem answerSyn_fields (hs : Created s) (t : TcpSession) (x y : UInt32) :
    (answerSyn s t x y).state = .synReceived ∧
      (answerSyn s t x y).sendWindow.sendUnack = x ∧
      (answerSyn s t x y).sendBuffer = emptyRing ∧
      (answerSyn s t x y).packets = [synPacket s x, synAckPacket s x y] := by
  rw [answerSyn, acceptPeerSyn_eq, connect_eq]
  refine ⟨rfl, rfl, hs.sendBuffer, ?_⟩
  unfold TcpSession.packets
  dsimp only [observe, setPeerUsableWindowSize]
  rw [hs.sent, synPacket_seq]
  rfl

/-- The SYN-ACK of a peer that has answered as well establishes the session. -/
theorem step_synAckPacket (hs : Created s) (t : TcpSession) (x y : UInt32) :
    ∃ s', TcpSession.step (answerSyn s t x y) (.input (synAckPacket t y x) 0) = some s' ∧
      s'.state = .established ∧ s'.packets = [synPacket s x, synAckPacket s x y] := by
  rcases answerSyn_fields hs t x y with ⟨hstate, hunack, hbuffer, hpackets⟩
  have hack : (synAckPacket t y x).ack = (answerSyn s t x y).sendWindow.sendUnack + 1 := by
    rw [hunack, synAckPacket, datagram_ack]
  have hflag : (synAckPacket t y x).has flagAck = true := by
    rw [synAckPacket, datagram_has]
    decide
  have hadmitted : Admitted (synAckPacket t y x) :=
    admitted_datagram _ _ (by decide) (by decide)
  have hm : (answerSyn s t x y).establishment (.input (synAckPacket t y x) 0) = some _ :=
    establishment_of_synReceivedAck hadmitted hstate hflag hack
  have hquiet : ∀ m : TcpSession, m.sendBuffer = emptyRing → m.handleTrySend = m := by
    intro m hm
    refine handleTrySend_of_not _ fun htransmits => ?_
    have hsize := htransmits.2.2
    rw [hm] at hsize
    exact absurd hsize (Nat.not_lt_zero _)
  refine ⟨_, (step_of_establishment hm).1, ?_⟩
  rw [hquiet]
  · exact ⟨rfl, hpackets⟩
  · exact hbuffer

/-- SYN and SYN-ACK are no data. -/
theorem not_sentData_of_packets (h : s.packets = [synPacket t x, synAckPacket t x y]) :
    ¬ SentData s := by
  rintro ⟨d, hd, hpayload⟩
  have hmem : d.packet ∈ s.packets := List.mem_map_of_mem hd
  rw [h] at hmem
  simp only [List.mem_cons, List.not_mem_nil, or_false] at hmem
  rcases hmem with hpacket | hpacket <;> exact hpayload (hpacket ▸ datagram_payload _ _ _ _)

/-- A packet of the other side can be delivered. -/
theorem reachable_deliver {c₀ c : Connection} {s' : TcpSession} (side : Side)
    (packet : MyuTcpPacket) (hc : step.Reachable (OpensBothWays x y) c₀ c)
    (hmem : packet ∈ (c.session side.other).packets)
    (hs' : TcpSession.step (c.session side) (.input packet 0) = some s') :
    step.Reachable (OpensBothWays x y) c₀ (c.update side s') :=
  hc.next (e := ⟨side, .input packet 0⟩) trivial (step_eq_some_iff.mpr ⟨hmem, s', hs', rfl⟩)

/-- Two sessions that connect to each other can both be established without data. -/
theorem exists_established {a b : TcpSession} (ha : Created a) (hb : Created b) (x y : UInt32) :
    ∃ c, step.Reachable (OpensBothWays x y) ⟨a, b⟩ c ∧
      (∀ side, (c.session side).state = .established) ∧
      ∀ side, ¬ SentData (c.session side) := by
  rcases step_synAckPacket ha b x y with ⟨a', ha', hastate, hapackets⟩
  rcases step_synAckPacket hb a y x with ⟨b', hb', hbstate, hbpackets⟩
  have h₁ : step.Reachable (OpensBothWays x y) ⟨a, b⟩ ⟨a.connect x, b⟩ :=
    StepFn.Reachable.start.next (e := ⟨.a, .connect x⟩) ⟨rfl, ha.sent⟩ rfl
  have h₂ : step.Reachable (OpensBothWays x y) ⟨a, b⟩ ⟨a.connect x, b.connect y⟩ :=
    h₁.next (e := ⟨.b, .connect y⟩) ⟨rfl, hb.sent⟩ rfl
  have h₃ : step.Reachable (OpensBothWays x y) ⟨a, b⟩ ⟨answerSyn a b x y, b.connect y⟩ := by
    refine reachable_deliver .a (synPacket b y) h₂ ?_ (step_answerSyn a b x y)
    rw [show session _ Side.a.other = b.connect y from rfl, packets_connect hb]
    simp
  have h₄ : step.Reachable (OpensBothWays x y) ⟨a, b⟩ ⟨answerSyn a b x y, answerSyn b a y x⟩ := by
    refine reachable_deliver .b (synPacket a x) h₃ ?_ (step_answerSyn b a y x)
    rw [show session _ Side.b.other = answerSyn a b x y from rfl,
      (answerSyn_fields ha b x y).2.2.2]
    simp
  have h₅ : step.Reachable (OpensBothWays x y) ⟨a, b⟩ ⟨a', answerSyn b a y x⟩ := by
    refine reachable_deliver .a (synAckPacket b y x) h₄ ?_ ha'
    rw [show session _ Side.a.other = answerSyn b a y x from rfl,
      (answerSyn_fields hb a y x).2.2.2]
    simp
  have h₆ : step.Reachable (OpensBothWays x y) ⟨a, b⟩ ⟨a', b'⟩ := by
    refine reachable_deliver .b (synAckPacket a x y) h₅ ?_ hb'
    rw [show session _ Side.b.other = a' from rfl, hapackets]
    simp
  refine ⟨_, h₆, ?_, ?_⟩
  · rintro (_ | _)
    · exact hastate
    · exact hbstate
  · rintro (_ | _)
    · exact not_sentData_of_packets hapackets
    · exact not_sentData_of_packets hbpackets

end CrossingSyns

/-- For every pair of initial numbers, two sessions that connect to each other disagree
whenever both are established without having sent data, and this happens. -/
theorem simultaneousOpen_disagrees {a b : TcpSession} (ha : Created a) (hb : Created b)
    (x y : UInt32) :
    (∀ c, step.Reachable (OpensBothWays x y) ⟨a, b⟩ c →
      (∀ side, (c.session side).state = .established) →
      (∀ side, ¬ SentData (c.session side)) → ¬ c.Synchronized) ∧
    ∃ c, step.Reachable (OpensBothWays x y) ⟨a, b⟩ c ∧
      (∀ side, (c.session side).state = .established) ∧
      ∀ side, ¬ SentData (c.session side) := by
  refine ⟨?_, exists_established ha hb x y⟩
  intro c hc hestablished hdata
  have hcrossing : Crossing x y c := by
    apply hc.invariant (crossing_start ha hb)
    intro c e c' h hok hstep
    exact crossing_step h hok hstep
  exact hcrossing.not_synchronized hestablished hdata

theorem simultaneousOpen_disagrees_zero :
    (∀ c, step.Reachable (OpensBothWays 0 0) ⟨clientSession, serverSession⟩ c →
      (∀ side, (c.session side).state = .established) →
      (∀ side, ¬ SentData (c.session side)) → ¬ c.Synchronized) ∧
    ∃ c, step.Reachable (OpensBothWays 0 0) ⟨clientSession, serverSession⟩ c ∧
      (∀ side, (c.session side).state = .established) ∧
      ∀ side, ¬ SentData (c.session side) :=
  simultaneousOpen_disagrees created_clientSession created_serverSession 0 0

/-- Both sides connect, with the numbers 100 and 200, their SYNs cross, and so do their
answers. -/
def crossedSynsRun : List ConnectionEvent :=
  [⟨.a, .connect 100⟩, ⟨.b, .connect 200⟩,
    ⟨.a, .input (wirePacket 8000 7000 flagSyn 200 0) 0⟩,
    ⟨.b, .input (wirePacket 7000 8000 flagSyn 100 0) 0⟩,
    ⟨.a, .input (wirePacket 8000 7000 (flagSyn ||| flagAck) 201 101) 0⟩,
    ⟨.b, .input (wirePacket 7000 8000 (flagSyn ||| flagAck) 101 201) 0⟩]

/-- Each side has counted its SYN twice and the SYN of the other side once, and still waits to
repeat its SYN-ACK. -/
theorem crossedSynsRun_disagree :
    ∃ c, step.run ⟨clientSession, serverSession⟩ crossedSynsRun = some c ∧
      step.AllSteps (OpensBothWays 100 200) ⟨clientSession, serverSession⟩ crossedSynsRun ∧
      c.a.state = .established ∧ c.b.state = .established ∧
      (∀ d ∈ c.a.sent ++ c.b.sent, d.packet.payload = []) ∧
      c.a.recvWindow.recvNext = 201 ∧ c.b.sendWindow.sendNext = 202 ∧
      c.a.sendWindow.sendUnack = 101 ∧ c.a.sendWindow.sendNext = 102 ∧
      (c.a.timerManager.activeAt 101).any (fun t => t.callback.packet.has flagSyn) = true ∧
      ¬ c.Synchronized := by
  have hrun : ((step.run ⟨clientSession, serverSession⟩ crossedSynsRun).any fun c =>
      c.a.state = .established ∧ c.b.state = .established ∧
        (∀ d ∈ c.a.sent ++ c.b.sent, d.packet.payload = []) ∧
        c.a.recvWindow.recvNext = 201 ∧ c.b.sendWindow.sendNext = 202 ∧
        c.a.sendWindow.sendUnack = 101 ∧ c.a.sendWindow.sendNext = 102 ∧
        (c.a.timerManager.activeAt 101).any (fun t => t.callback.packet.has flagSyn) = true) =
      true := by
    decide +kernel
  have hcheck : step.checkSteps (fun c e => OpensBothWays 100 200 c e)
      ⟨clientSession, serverSession⟩ crossedSynsRun = true := by
    decide +kernel
  rcases (Option.any_eq_true _ _).mp hrun with ⟨c, hc, hfacts⟩
  rcases of_decide_eq_true hfacts with ⟨ha, hb, hdata, hrecv, hnext, hunack, hnextA, htimer⟩
  refine ⟨c, hc, StepFn.allSteps_of_check (fun _ _ => of_decide_eq_true) hcheck, ha, hb, hdata,
    hrecv, hnext, hunack, hnextA, htimer, fun hsync => ?_⟩
  have hagree : c.a.sendWindow.sendUnack = c.a.sendWindow.sendNext := hsync.sendUnack .a
  rw [hunack, hnextA] at hagree
  contradiction

end Connection

end MyuTcp
