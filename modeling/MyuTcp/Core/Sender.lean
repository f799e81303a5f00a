import MyuTcp.Core.Opening
import MyuTcp.Library.MarkedStream

/-!
# The stream of a sender

What the sequence numbers carry that a session uses in one connection: a mark for each SYN
and FIN, and the bytes of its payload.  The bytes up to the first FIN are the bytes that
{lit}`send()` has accepted, in order.

Main results:

- Theorem {lit}`Move.sender`: every move keeps the link between the accepted bytes, the send
  buffer, the send window and the numbers used.
- Theorem {lit}`sender_step`: so does a step of a session that connects or listens once.
-/

namespace MyuTcp

open Library

/-- What the numbers of a packet carry: a mark for SYN or FIN, else the payload. -/
def MyuTcpPacket.carried (p : MyuTcpPacket) : List (Option UInt8) :=
  if p.has flagSyn || p.has flagFin then [none] else p.payload.map some

namespace TcpSession

/-! ## What an event accepts and sends -/

/-- The bytes that {lit}`send()` reports as accepted. -/
def acceptedBy (s : TcpSession) : Event → List UInt8
  | .send data => data.take (s.send data).1
  | _ => []

/-- What the numbers carry that are used between two sessions. -/
def newWire (s s' : TcpSession) : List (Option UInt8) :=
  (newDatagrams s s').flatMap fun d => d.packet.carried

/-- A step that sends nothing puts nothing on the wire. -/
theorem newWire_of_eq {s s' : TcpSession} (h : s'.sent = s.sent) : newWire s s' = [] := by
  rw [newWire, newDatagrams, h, List.drop_length]
  rfl

/-- A step that sends one datagram puts its numbers on the wire. -/
theorem newWire_of_append {s s' : TcpSession} {d : Datagram} (h : s'.sent = s.sent ++ [d]) :
    newWire s s' = d.packet.carried := by
  rw [newWire, newDatagrams_of_append h, List.flatMap_singleton]

/-- Two steps put on the wire what each of them does. -/
theorem newWire_trans {a b c : TcpSession} (hab : a.sent <+: b.sent) (hbc : b.sent <+: c.sent) :
    newWire a c = newWire a b ++ newWire b c := by
  rw [newWire, newDatagrams_trans hab hbc, List.flatMap_append]
  rfl

/-- What the numbers carry that a step uses.  A retransmission uses no new numbers. -/
def sentBy (s : TcpSession) (e : Event) (s' : TcpSession) : List (Option UInt8) :=
  match e with
  | .expire _ => []
  | _ => newWire s s'

/-! ## Packets on the wire -/

/-- The packet carries what the wire has at its number.  A SYN has the flags of its side, and
a SYN or FIN has no payload. -/
structure OnWire (flags : UInt8) (iss : UInt32) (wire : List (Option UInt8))
    (packet : MyuTcpPacket) : Prop where
  control : (packet.has flagSyn || packet.has flagFin) = true → packet.payload = []
  syn : packet.has flagSyn = true → packet.header.flags = flags ∧ packet.seq = iss
  placed : packet.carried ≠ [] → ∃ o : Nat, packet.seq = iss + UInt32.ofNat o ∧
    packet.carried <+: wire.drop o ∧ (o = 0 → packet.has flagSyn = true)

section OnWire

variable {flags : UInt8} {iss : UInt32} {wire wire' : List (Option UInt8)}
  {packet : MyuTcpPacket}

/-- What is on the wire stays there. -/
theorem OnWire.mono (h : OnWire flags iss wire packet) (hw : wire <+: wire') :
    OnWire flags iss wire' packet where
  control := h.control
  syn := h.syn
  placed hne := by
    rcases h.placed hne with ⟨o, hseq, hcarried, hsyn⟩
    exact ⟨o, hseq, hcarried.trans (hw.drop o), hsyn⟩

/-- A packet sent again carries the same numbers. -/
theorem onWire_refresh (s : TcpSession) (h : OnWire flags iss wire packet) :
    OnWire flags iss wire (s.refreshPacket packet) := by
  have hcarried : (s.refreshPacket packet).carried = packet.carried := by
    simp [MyuTcpPacket.carried]
  constructor
  · simp only [refreshPacket_has, refreshPacket_payload]
    exact h.control
  · rw [refreshPacket_has, refreshPacket_flags, refreshPacket_seq]
    exact h.syn
  · rw [hcarried, refreshPacket_seq, refreshPacket_has]
    exact h.placed

/-- A packet without numbers. -/
theorem onWire_of_unnumbered (hflags : (packet.has flagSyn || packet.has flagFin) = false)
    (hpayload : packet.payload = []) : OnWire flags iss wire packet := by
  constructor
  · exact fun _ => hpayload
  · intro hsyn
    rw [hsyn] at hflags
    contradiction
  · intro hne
    rw [MyuTcpPacket.carried, hflags, hpayload] at hne
    exact absurd rfl hne

/-- What a datagram carries: its SYN or FIN, or its bytes. -/
theorem carried_datagram (t : TcpSession) (flags : UInt8) (ackNum : UInt32)
    (payload : List UInt8) :
    (t.datagram flags ackNum payload).packet.carried =
      if (flags &&& flagSyn != 0) || (flags &&& flagFin != 0) then [none]
      else payload.map some :=
  rfl

/-- A packet that is sent at the end of the wire. -/
theorem onWire_append (hcontrol : (packet.has flagSyn || packet.has flagFin) = true →
      packet.payload = [])
    (hseq : packet.seq = iss + UInt32.ofNat wire.length)
    (hsyn : packet.has flagSyn = true ↔ wire = [])
    (hflags : packet.has flagSyn = true → packet.header.flags = flags) :
    OnWire flags iss (wire ++ packet.carried) packet := by
  refine ⟨hcontrol, ?_, fun _ => ⟨wire.length, hseq, ?_, ?_⟩⟩
  · intro hhas
    refine ⟨hflags hhas, ?_⟩
    rw [hseq, hsyn.mp hhas]
    exact UInt32.add_zero _
  · rw [List.drop_left]
  · intro hzero
    exact hsyn.mpr (List.length_eq_zero_iff.mp hzero)

end OnWire

/-- A property of all packets is checked on the new ones. -/
theorem AllPackets.of_grows {P : MyuTcpPacket → Prop} {a b : TcpSession} (h : AllPackets P a)
    (hgrows : Grows a b) (hnew : ∀ d ∈ newDatagrams a b, P d.packet) : AllPackets P b := by
  constructor
  · intro d hd
    rw [sent_eq_append hgrows.sent, List.mem_append] at hd
    rcases hd with hd | hd
    · exact h.sent d hd
    · exact hnew d hd
  · intro k t ht
    rcases hgrows.timers k t ht with hold | harmed
    · exact h.timers k t hold
    · rcases harmed.sent with ⟨d, hd, hpacket⟩
      rw [← hpacket]
      exact hnew d hd

/-! ## The invariant of a sender -/

/-- The session has numbers in use that it counts from {lit}`send_next_`. -/
def Numbered (s : TcpSession) : Prop :=
  s.state ≠ .closed ∧ s.state ≠ .listen ∧ s.state ≠ .lastAck

/-- The accepted bytes, the numbers used, the send buffer and the send window fit together.
{lit}`window` counts by {lit}`k` the bytes that have been acknowledged. -/
structure Numbering (iss : UInt32) (accepted : List UInt8) (wire : List (Option UInt8))
    (s : TcpSession) : Prop where
  stream : leading wire.tail <+: accepted
  buffer : s.sendBuffer.toList <:+ accepted
  unused : s.sent = [] ∨ s.state = .listen → wire = []
  fresh : wire = [] → s.sendBuffer.toList = accepted
  next : s.Numbered → s.sendWindow.sendNext = iss + UInt32.ofNat wire.length ∧
    wire.head? = some none
  opening : s.state = .synSent ∨ s.state = .synReceived →
    wire = [none] ∧ s.sendWindow.sendUnack = iss ∧ s.sendBuffer.toList = accepted
  window : s.state = .established ∨ s.state = .closeWait → none ∉ wire.tail →
    ∃ k : Nat, 1 + k ≤ wire.length ∧ s.sendWindow.sendUnack = iss + UInt32.ofNat (1 + k) ∧
      s.sendBuffer.toList = accepted.drop k
  unfinished : s.state = .established → none ∉ wire.tail
  finished : s.state = .finWait1 ∨ s.state = .finWait2 → none ∈ wire.tail

section Numbering

variable {iss : UInt32} {accepted : List UInt8} {wire : List (Option UInt8)}
  {a b : TcpSession}

/-- A step that sends and accepts nothing keeps the numbering. -/
theorem Numbering.quiet (h : Numbering iss accepted wire a) (hsent : a.sent <+: b.sent)
    (hstate : b.state = a.state) (hunack : b.sendWindow.sendUnack = a.sendWindow.sendUnack)
    (hnext : b.sendWindow.sendNext = a.sendWindow.sendNext)
    (hbuffer : b.sendBuffer = a.sendBuffer) : Numbering iss accepted wire b where
  stream := h.stream
  buffer := by rw [hbuffer]; exact h.buffer
  unused hunused := by
    rw [hstate] at hunused
    refine h.unused (hunused.imp_left fun hnil => ?_)
    exact List.prefix_nil.mp (hnil ▸ hsent)
  fresh := by rw [hbuffer]; exact h.fresh
  next := by rw [Numbered, hstate, hnext]; exact h.next
  opening := by rw [hstate, hunack, hbuffer]; exact h.opening
  window := by rw [hstate, hunack, hbuffer]; exact h.window
  unfinished := by rw [hstate]; exact h.unfinished
  finished := by rw [hstate]; exact h.finished

/-- A session that is closed only has to keep its buffer. -/
theorem Numbering.closed (h : Numbering iss accepted wire a) (hsent : a.sent <+: b.sent)
    (hstate : b.state = .closed) (hbuffer : b.sendBuffer = a.sendBuffer) :
    Numbering iss accepted wire b where
  stream := h.stream
  buffer := by rw [hbuffer]; exact h.buffer
  unused hunused := by
    refine h.unused (hunused.imp (fun hnil => ?_) fun hlisten => ?_)
    · exact List.prefix_nil.mp (hnil ▸ hsent)
    · rw [hstate] at hlisten
      contradiction
  fresh := by rw [hbuffer]; exact h.fresh
  next hnumbered := absurd hstate hnumbered.1
  opening hopening := by simp [hstate] at hopening
  window hopen := by simp [hstate] at hopen
  unfinished hopen := by simp [hstate] at hopen
  finished hfin := by simp [hstate] at hfin

/-- A SYN that opens the connection. -/
theorem Numbering.opened (h : Numbering iss accepted [] a)
    (hstate : b.state = .synSent ∨ b.state = .synReceived) (hsent : b.sent ≠ [])
    (hunack : b.sendWindow.sendUnack = iss) (hnext : b.sendWindow.sendNext = iss + 1)
    (hbuffer : b.sendBuffer = a.sendBuffer) : Numbering iss accepted [none] b where
  stream := List.nil_prefix
  buffer := by rw [hbuffer]; exact h.buffer
  unused hunused := by
    rcases hunused with hnil | hlisten
    · exact absurd hnil hsent
    · simp [hlisten] at hstate
  fresh hnil := by contradiction
  next _ := ⟨hnext, rfl⟩
  opening _ := ⟨rfl, hunack, by rw [hbuffer]; exact h.fresh rfl⟩
  window hopen := by rcases hstate with hstate | hstate <;> simp [hstate] at hopen
  unfinished hopen := by simp [hopen] at hstate
  finished hfin := by rcases hstate with hstate | hstate <;> simp [hstate] at hfin

/-- The acknowledgment of its SYN establishes the session. -/
theorem Numbering.established (h : Numbering iss accepted wire a)
    (hopening : a.state = .synSent ∨ a.state = .synReceived) (hstate : b.state = .established)
    (hsent : b.sent ≠ [])
    (hunack : b.sendWindow.sendUnack = a.sendWindow.sendUnack + 1)
    (hnext : b.sendWindow.sendNext = a.sendWindow.sendNext)
    (hbuffer : b.sendBuffer = a.sendBuffer) : Numbering iss accepted wire b := by
  rcases h.opening hopening with ⟨rfl, hiss, hlist⟩
  have hnumbered : a.Numbered := by
    rcases hopening with hopening | hopening <;> simp [Numbered, hopening]
  constructor
  · exact h.stream
  · rw [hbuffer]
    exact h.buffer
  · simp [hsent, hstate]
  · exact fun hnil => by contradiction
  · rw [hnext]
    exact fun _ => h.next hnumbered
  · simp [hstate]
  · intro _ _
    refine ⟨0, le_rfl, ?_, by rw [hbuffer]; exact hlist⟩
    rw [hunack, hiss]
    rfl
  · simp
  · simp [hstate]

/-- A FIN marks the end of the stream. -/
theorem Numbering.mark (h : Numbering iss accepted wire a) (hnumbered : a.Numbered)
    (hstate : b.state = .finWait1 ∨ b.state = .lastAck) (hsent : b.sent ≠ [])
    (hnext : b.Numbered → b.sendWindow.sendNext = a.sendWindow.sendNext + 1)
    (hbuffer : b.sendBuffer = a.sendBuffer) : Numbering iss accepted (wire ++ [none]) b := by
  rcases h.next hnumbered with ⟨hlast, hhead⟩
  rcases List.head?_eq_some_iff.mp hhead with ⟨rest, rfl⟩
  constructor
  · rw [List.cons_append, List.tail_cons, leading_append_none]
    exact h.stream
  · rw [hbuffer]
    exact h.buffer
  · rcases hstate with hstate | hstate <;> simp [hsent, hstate]
  · exact fun hnil => by contradiction
  · intro hb
    refine ⟨?_, rfl⟩
    rw [hnext hb, hlast, List.length_append, List.length_singleton, UInt32.ofNat_add]
    grind
  · rcases hstate with hstate | hstate <;> simp [hstate]
  · rcases hstate with hstate | hstate <;> simp [hstate]
  · rcases hstate with hstate | hstate <;> simp [hstate]
  · simp

/-- Data in flight does not exceed the send buffer. -/
theorem Numbering.inflight (h : Numbering iss accepted wire a)
    (hstate : a.state = .established ∨ a.state = .closeWait) (hopen : none ∉ wire.tail) :
    ∃ k : Nat, a.sendWindow.sendUnack = iss + UInt32.ofNat (1 + k) ∧
      a.sendBuffer.toList = accepted.drop k ∧ wire.length = 1 + k + a.inflight.toNat ∧
      k + a.inflight.toNat ≤ accepted.length := by
  have hnumbered : a.Numbered := by
    rcases hstate with hstate | hstate <;> simp [Numbered, hstate]
  rcases h.window hstate hopen with ⟨k, hle, hunack, hbuffer⟩
  rcases h.next hnumbered with ⟨hnext, hhead⟩
  rcases List.head?_eq_some_iff.mp hhead with ⟨rest, rfl⟩
  have hstream := h.stream.length_le
  rw [List.tail_cons] at hopen hstream
  rw [length_leading hopen] at hstream
  rw [List.length_cons] at hle hnext ⊢
  -- what is not acknowledged is still in the send buffer
  have hsize : accepted.length - k = a.sendBuffer.size := by
    rw [← List.length_drop, ← hbuffer, RingQueue.length_toList]
  have hcapacity := a.sendBuffer.size_le
  have hinflight : a.inflight.toNat = rest.length - k := by
    have hsplit : rest.length + 1 = 1 + k + (rest.length - k) := by omega
    have heq : a.inflight = UInt32.ofNat (rest.length - k) := by
      unfold TcpSession.inflight
      rw [hnext, hunack, hsplit, UInt32.ofNat_add (1 + k)]
      grind
    rw [heq, UInt32.toNat_ofNat']
    omega
  exact ⟨k, hunack, hbuffer, by omega, by omega⟩

/-- A transmission continues the stream, or follows a FIN. -/
theorem Numbering.trySend (h : Numbering iss accepted wire a) (htransmits : a.Transmits) :
    Numbering iss accepted (wire ++ a.nextPayload.map some) a.handleTrySend := by
  have hstate := htransmits.1
  have hnumbered : a.Numbered := by
    rcases hstate with hstate | hstate <;> simp [Numbered, hstate]
  have hframe := a.handleTrySend_of_transmits htransmits
  rcases h.next hnumbered with ⟨hnext, hhead⟩
  rcases List.head?_eq_some_iff.mp hhead with ⟨rest, rfl⟩
  have hmarks : none ∉ rest ++ a.nextPayload.map some ↔ none ∉ rest := by simp
  constructor
  · rw [List.cons_append, List.tail_cons]
    by_cases hopen : none ∈ rest
    · rw [leading_append_of_mem hopen]
      exact h.stream
    · rcases h.inflight hstate hopen with ⟨k, -, hbuffer, hlen, hle⟩
      rw [leading_append_of_notMem hopen, leading_map_some]
      rw [List.length_cons] at hlen
      -- the payload is the part of the accepted bytes behind those on the wire
      have hlead : leading rest = accepted.take (k + a.inflight.toNat) := by
        have hstream : leading rest <+: accepted := h.stream
        rw [List.prefix_iff_eq_take.mp hstream, length_leading hopen]
        congr 1
        omega
      rw [hlead, nextPayload, hbuffer, List.drop_drop, ← List.take_add]
      exact List.take_prefix _ _
  · rw [handleTrySend_sendBuffer]
    exact h.buffer
  · rw [handleTrySend_state, hframe]
    rcases hstate with hstate | hstate <;> simp [hstate]
  · exact fun hnil => by contradiction
  · intro _
    refine ⟨?_, rfl⟩
    rw [hframe, List.cons_append, List.length_cons, List.length_append, List.length_map]
    dsimp only
    rw [hnext, List.length_cons, Nat.add_right_comm, UInt32.ofNat_add (rest.length + 1)]
    grind
  · rw [handleTrySend_state]
    rcases hstate with hstate | hstate <;> simp [hstate]
  · rw [handleTrySend_state, handleTrySend_sendUnack, handleTrySend_sendBuffer,
      List.cons_append, List.tail_cons, hmarks]
    intro hstate hopen
    rcases h.window hstate hopen with ⟨k, hle, hrest⟩
    refine ⟨k, ?_, hrest⟩
    rw [List.length_cons] at hle ⊢
    rw [List.length_append]
    omega
  · rw [handleTrySend_state, List.cons_append, List.tail_cons, hmarks]
    exact h.unfinished
  · rw [handleTrySend_state]
    rcases hstate with hstate | hstate <;> simp [hstate]

/-- An accepted acknowledgment removes the bytes from the send buffer that it covers. -/
theorem Numbering.release (h : Numbering iss accepted wire a) (hstate : a.state = .established)
    {ackNum : UInt32} (haccepts : a.acceptsAck ackNum = true)
    (hthird : ¬ a.ThirdDuplicate ackNum) :
    Numbering iss accepted wire (a.processAck ackNum) := by
  have hopen := h.unfinished hstate
  have hnumbered : a.Numbered := by simp [Numbered, hstate]
  have hframe := a.processAck_of_not hthird
  have hnext : (a.processAck ackNum).sendWindow.sendNext = a.sendWindow.sendNext := by
    rw [hframe]
  have hsent : (a.processAck ackNum).sent = a.sent := by
    rw [hframe]
  rcases acceptsAck_iff.mp haccepts with ⟨hlow, hhigh⟩
  rcases (lt_and_le_iff_sub (le_of_lt (lt_of_lt_of_le hlow hhigh))).mp ⟨hlow, hhigh⟩ with
    ⟨hpos, hle⟩
  rcases h.inflight (Or.inl hstate) hopen with ⟨k, hunack, hbuffer, hlen, hbound⟩
  have hin : (ackNum - a.sendWindow.sendUnack).toNat ≤ a.inflight.toNat := hle
  constructor
  · exact h.stream
  · rw [processAck_sendBuffer, RingQueue.toList_popFront]
    exact (List.drop_suffix _ _).trans h.buffer
  · rw [hsent, processAck_state]
    exact h.unused
  · intro hnil
    rw [hnil] at hlen
    simp at hlen
    omega
  · rw [Numbered, processAck_state, hnext]
    exact h.next
  · simp [hstate]
  · intro _ _
    refine ⟨k + (ackNum - a.sendWindow.sendUnack).toNat, by omega, ?_, ?_⟩
    · rw [processAck_sendUnack, ← Nat.add_assoc, UInt32.ofNat_add, UInt32.ofNat_toNat, hunack]
      grind
    · rw [processAck_sendBuffer, RingQueue.toList_popFront, hbuffer, List.drop_drop]
  · rw [processAck_state]
    exact h.unfinished
  · simp [hstate]

/-- A FIN of the peer. -/
theorem Numbering.peerFin (h : Numbering iss accepted wire a) {next : TcpState}
    (hnext : FinTransition a.state next) (hsent : a.sent <+: b.sent) (hstate : b.state = next)
    (hwindow : b.sendWindow = a.sendWindow) (hbuffer : b.sendBuffer = a.sendBuffer) :
    Numbering iss accepted wire b := by
  have hnumbered : a.Numbered ∧ b.state ≠ .listen := by
    rw [Numbered, hstate]
    generalize a.state = before at hnext
    cases hnext <;> simp
  have hopening : b.state ≠ .synSent ∧ b.state ≠ .synReceived ∧ b.state ≠ .established ∧
      b.state ≠ .finWait1 ∧ b.state ≠ .finWait2 := by
    rw [hstate]
    generalize a.state = before at hnext
    cases hnext <;> simp
  constructor
  · exact h.stream
  · rw [hbuffer]
    exact h.buffer
  · intro hunused
    refine h.unused (Or.inl ?_)
    rcases hunused with hnil | hlisten
    · exact List.prefix_nil.mp (hnil ▸ hsent)
    · exact absurd hlisten hnumbered.2
  · rw [hbuffer]
    exact h.fresh
  · intro _
    rw [hwindow]
    exact h.next hnumbered.1
  · simp [hopening]
  · intro hafter hopen
    rw [hwindow, hbuffer]
    refine h.window ?_ hopen
    rw [hstate] at hafter
    generalize hbefore : a.state = before at hnext
    cases hnext with
    | established => exact Or.inl rfl
    | finWait1 => exact absurd (h.finished (Or.inl hbefore)) hopen
    | finWait1Acked => exact absurd (h.finished (Or.inr hbefore)) hopen
    | finWait2 => simp at hafter
    | timeWait => simp at hafter
  · simp [hopening]
  · simp [hopening]

/-- The acknowledgment of its FIN. -/
theorem Numbering.finAcked (h : Numbering iss accepted wire a) (hbefore : a.state = .finWait1)
    (hstate : b.state = .finWait2) (hsent : a.sent <+: b.sent)
    (hnext : b.sendWindow.sendNext = a.sendWindow.sendNext)
    (hbuffer : b.sendBuffer = a.sendBuffer) : Numbering iss accepted wire b := by
  constructor
  · exact h.stream
  · rw [hbuffer]
    exact h.buffer
  · intro hunused
    refine h.unused (Or.inl ?_)
    rcases hunused with hnil | hlisten
    · exact List.prefix_nil.mp (hnil ▸ hsent)
    · simp [hstate] at hlisten
  · rw [hbuffer]
    exact h.fresh
  · rw [hnext]
    exact fun _ => h.next (by simp [Numbered, hbefore])
  · simp [hstate]
  · simp [hstate]
  · simp [hstate]
  · exact fun _ => h.finished (Or.inl hbefore)

end Numbering

/-! ## Duplicate acknowledgments -/

/-- The accepted acknowledgments of one connection increase, so at most one of them repeats
the number that the counter started with. -/
def SingleDuplicate (s : TcpSession) : Prop :=
  s.dupAckCount = 0 ∨ s.dupAckCount = 1 ∧ s.sent ≠ [] ∧ Past s ∧
    (s.state = .established → s.lastAckReceived ≤ s.sendWindow.sendUnack)

/-- The events of a session that opens one connection, with the number {lit}`iss` and a SYN
with the given flags. -/
def OpensAs (flags : UInt8) (iss : UInt32) (s : TcpSession) : Event → Prop
  | .connect i => i = iss ∧ flags = flagSyn ∧ s.sent = []
  | .listen => False
  | .input packet i =>
      (s.state = .listen → i = iss ∧ flags = flagSyn ||| flagAck) ∧
        (s.state = .synSent → packet.has flagSyn = true → packet.has flagAck = true)
  | _ => True

section SingleDuplicate

variable {s₀ a b : TcpSession} {e : Event} {flags : UInt8} {iss : UInt32}

/-- An acknowledgment above {lit}`send_unack_` starts the count again. -/
theorem SingleDuplicate.of_le {ackNum : UInt32} (h : SingleDuplicate a)
    (hstate : a.state = .established) (hlow : a.sendWindow.sendUnack < ackNum) :
    (a.countDupAck ackNum).dupAckCount = 0 ∨
      (a.countDupAck ackNum).dupAckCount = 1 ∧
        (a.countDupAck ackNum).lastAckReceived ≤ ackNum := by
  have hbehind : a.dupAckCount = 0 ∨ a.lastAckReceived < ackNum := by
    rcases h with hzero | ⟨-, -, -, hlast⟩
    · exact Or.inl hzero
    · exact Or.inr (lt_of_le_of_lt (hlast hstate) hlow)
  rw [countDupAck]
  split <;> rename_i hlt
  · exact Or.inl rfl
  · have hzero : a.dupAckCount = 0 := hbehind.resolve_right hlt
    split <;> rename_i heq
    · exact Or.inr ⟨congrArg (· + 1) hzero, heq.le⟩
    · exact Or.inl hzero

/-- Such an acknowledgment is no third duplicate. -/
theorem SingleDuplicate.not_thirdDuplicate {ackNum : UInt32} (h : SingleDuplicate a)
    (hstate : a.state = .established) (hlow : a.sendWindow.sendUnack < ackNum) :
    ¬ a.ThirdDuplicate ackNum := by
  unfold ThirdDuplicate
  rcases h.of_le hstate hlow with hcount | ⟨hcount, -⟩ <;> omega

/-- A step that counts nothing keeps the count. -/
theorem SingleDuplicate.quiet (h : SingleDuplicate a) (hsent : a.sent <+: b.sent)
    (hcount : b.dupAckCount = a.dupAckCount) (hlast : b.lastAckReceived = a.lastAckReceived)
    (hstate : b.state = a.state)
    (hunack : b.sendWindow.sendUnack = a.sendWindow.sendUnack) : SingleDuplicate b := by
  rcases h with hzero | ⟨hone, hne, hpast, hle⟩
  · exact Or.inl (hcount.trans hzero)
  · refine Or.inr ⟨hcount.trans hone, ?_, ⟨?_, ?_, ?_⟩, ?_⟩
    · exact fun hnil => hne (List.prefix_nil.mp (hnil ▸ hsent))
    · rw [hstate]
      exact hpast.listen
    · rw [hstate]
      exact hpast.synSent
    · rw [hstate]
      exact hpast.synReceived
    · rw [hstate, hlast, hunack]
      exact hle

/-- A session that is neither opening nor established accepts no more acknowledgments. -/
theorem SingleDuplicate.leave (h : SingleDuplicate a) (next : TcpState)
    (hsent : a.sent <+: b.sent) (hcount : b.dupAckCount = a.dupAckCount) (hstate : b.state = next)
    (hnext : next ≠ .listen ∧ next ≠ .synSent ∧ next ≠ .synReceived ∧ next ≠ .established) :
    SingleDuplicate b := by
  subst hstate
  rcases h with hzero | ⟨hone, hne, -, -⟩
  · exact Or.inl (hcount.trans hzero)
  · refine Or.inr ⟨hcount.trans hone, ?_, ⟨hnext.1, hnext.2.1, hnext.2.2.1⟩, ?_⟩
    · exact fun hnil => hne (List.prefix_nil.mp (hnil ▸ hsent))
    · exact fun hopen => absurd hopen hnext.2.2.2

/-- Before the connection is established nothing is counted. -/
theorem SingleDuplicate.zero_of_not_past (h : SingleDuplicate a) (hpast : ¬ Past a) :
    a.dupAckCount = 0 := by
  rcases h with hzero | ⟨-, -, hstate, -⟩
  · exact hzero
  · exact absurd hstate hpast

/-- A session that is opening is not past its opening. -/
theorem not_past_of_opening (h : a.state = .listen ∨ a.state = .synSent ∨
    a.state = .synReceived) : ¬ Past a := by
  intro hpast
  rcases h with hstate | hstate | hstate
  · exact hpast.listen hstate
  · exact hpast.synSent hstate
  · exact hpast.synReceived hstate

/-- At most one duplicate is counted as long as a session is opened before it sends. -/
theorem Move.singleDuplicate_of_unsent (h : SingleDuplicate a)
    (hopen : s₀.state = .established → a.state = .established → a.sent ≠ [])
    (hconnect : ∀ i, e = .connect i → s₀.sent = [])
    (hlisten : e = .listen → s₀.state = .closed → s₀.sent = []) (hmove : Move s₀ e a b) :
    SingleDuplicate b := by
  have hsent := hmove.sent_prefix
  cases hmove with
  | connect i =>
      rcases h with hzero | ⟨-, hne, -⟩
      · rw [connect_eq]
        exact Or.inl hzero
      · exact absurd (hconnect i rfl) hne
  | listen hstate =>
      rcases h with hzero | ⟨-, hne, -⟩
      · exact Or.inl hzero
      · exact absurd (hlisten rfl hstate) hne
  | trySend s =>
      exact h.quiet hsent (handleTrySend_dupAckCount a) (handleTrySend_lastAckReceived a)
        (handleTrySend_state a) (handleTrySend_sendUnack a)
  | closeEstablished hstate =>
      rw [closeEstablished_eq] at hsent ⊢
      exact h.leave .finWait1 hsent rfl rfl (by decide)
  | closeCloseWait s hstate =>
      rw [closeCloseWait_eq] at hsent ⊢
      exact h.leave .lastAck hsent rfl rfl (by decide)
  | abortOpening hstate =>
      rw [abortOpening_eq] at hsent ⊢
      exact h.leave .closed hsent rfl rfl (by decide)
  | reset hrst => exact h.leave .closed hsent rfl rfl (by decide)
  | passiveOpen hstate hsyn =>
      rw [handleListen_eq _ hsyn]
      exact Or.inl (h.zero_of_not_past (not_past_of_opening (Or.inl hstate)))
  | synAck hstate hsyn hflag hack =>
      rw [acceptSynAck_eq]
      exact Or.inl (h.zero_of_not_past (not_past_of_opening (Or.inr (Or.inl hstate))))
  | peerSyn hstate hsyn hflag =>
      rw [acceptPeerSyn_eq]
      exact Or.inl (h.zero_of_not_past (not_past_of_opening (Or.inr (Or.inl hstate))))
  | synReceivedAck hstate hflag hack =>
      exact Or.inl (h.zero_of_not_past (not_past_of_opening (Or.inr (Or.inr hstate))))
  | @ack packet iss haccepts =>
      have hstate : (s₀.observe packet).state = .established := haccepts.2.1
      have hlow := (acceptsAck_iff.mp haccepts.2.2.2).1
      have hne : (s₀.observe packet).sent ≠ [] := hopen hstate hstate
      rw [processAck_of_not _ (h.not_thirdDuplicate hstate hlow)]
      rcases h.of_le hstate hlow with hcount | ⟨hcount, hle⟩
      · exact Or.inl hcount
      · exact Or.inr ⟨hcount, hne, past_of_established hstate, fun _ => hle⟩
  | inOrder s hstate hseq hdrain =>
      rcases reassemble_acceptPayload_frame a _ _ with ⟨m, q, n, hframe⟩
      rw [hframe] at hsent ⊢
      exact h.quiet hsent rfl rfl rfl rfl
  | outOfOrder s hstate hseq =>
      rcases storeOutOfOrder_frame a _ _ with ⟨m, hframe⟩
      rw [hframe] at hsent ⊢
      exact h.quiet hsent rfl rfl rfl rfl
  | @fin packet iss s next hfin hnext horder =>
      refine h.leave next hsent rfl rfl ?_
      generalize a.state = before at hnext
      cases hnext <;> decide
  | finAcked hstate hflag hack => exact h.leave .finWait2 hsent rfl rfl (by decide)
  | finishCloseWait s hstate =>
      by_cases hdrained : a.Drained
      · rw [finishCloseWait_of_drained _ hdrained] at hsent ⊢
        exact h.leave .lastAck hsent rfl rfl (by decide)
      · rw [finishCloseWait_of_not _ hdrained]
        exact h
  | lastAck hstate hflag hack => exact h.leave .closed hsent rfl rfl (by decide)
  | @expire k t hactive =>
      by_cases hlimit : t.callback.retransmitCount + 1 ≥ maxRetransmitCount
      · rw [runClosure_of_limit _ hlimit] at hsent ⊢
        exact h.quiet hsent rfl rfl rfl rfl
      · rw [runClosure_of_lt _ hlimit] at hsent ⊢
        exact h.quiet hsent rfl rfl rfl rfl
  | expire2Msl hactive => exact h.leave .closed hsent rfl rfl (by decide)
  | _ => exact h.quiet hsent rfl rfl rfl rfl

/-- At most one duplicate is counted in one connection. -/
theorem Move.singleDuplicate (h : SingleDuplicate a)
    (hopen : a.state = .established → a.sent ≠ []) (hok : OpensAs flags iss s₀ e)
    (hmove : Move s₀ e a b) : SingleDuplicate b := by
  refine hmove.singleDuplicate_of_unsent h (fun _ => hopen) ?_ ?_
  · rintro i rfl
    exact hok.2.2
  · rintro rfl
    exact absurd hok id

end SingleDuplicate

/-! ## The moves of a sender -/

/-- The bytes accepted, the numbers used, the packets sent and the counters fit together. -/
structure Sender (flags : UInt8) (iss : UInt32) (accepted : List UInt8)
    (wire : List (Option UInt8)) (s : TcpSession) : Prop where
  numbering : Numbering iss accepted wire s
  packets : AllPackets (OnWire flags iss wire) s
  single : SingleDuplicate s

section Sender

variable {flags : UInt8} {iss : UInt32} {accepted : List UInt8} {wire : List (Option UInt8)}
  {s₀ a b : TcpSession} {e : Event}

/-- A step that sends nothing keeps the sender. -/
theorem Sender.silent (h : Sender flags iss accepted wire a) (hgrows : Grows a b)
    (hsent : b.sent = a.sent) (hsingle : SingleDuplicate b)
    (hnumbering : Numbering iss accepted wire b) :
    Sender flags iss accepted (wire ++ newWire a b) b := by
  rw [newWire_of_eq hsent, List.append_nil]
  refine ⟨hnumbering, h.packets.of_grows hgrows ?_, hsingle⟩
  intro d hd
  rw [newDatagrams, hsent, List.drop_length] at hd
  contradiction

/-- A step that sends one datagram extends the wire by it. -/
theorem Sender.emit {d : Datagram} (h : Sender flags iss accepted wire a) (hgrows : Grows a b)
    (hsent : b.sent = a.sent ++ [d]) (hsingle : SingleDuplicate b)
    (hnumbering : Numbering iss accepted (wire ++ d.packet.carried) b)
    (hpacket : OnWire flags iss (wire ++ d.packet.carried) d.packet) :
    Sender flags iss accepted (wire ++ newWire a b) b := by
  rw [newWire_of_append hsent]
  refine ⟨hnumbering, ?_, hsingle⟩
  refine (h.packets.mono fun _ hp => hp.mono (List.prefix_append _ _)).of_grows hgrows ?_
  intro d' hd'
  rw [newDatagrams_of_append hsent, List.mem_singleton] at hd'
  rw [hd']
  exact hpacket

/-- A control packet without SYN and FIN. -/
theorem Sender.reply {t : TcpSession} {f : UInt8} {ackNum : UInt32}
    (h : Sender flags iss accepted wire a) (hgrows : Grows a b)
    (hsent : b.sent = a.sent ++ [t.datagram f ackNum []])
    (hf : ((f &&& flagSyn != 0) || (f &&& flagFin != 0)) = false) (hsingle : SingleDuplicate b)
    (hnumbering : Numbering iss accepted wire b) :
    Sender flags iss accepted (wire ++ newWire a b) b := by
  have hcarried : (t.datagram f ackNum []).packet.carried = [] := by
    rw [carried_datagram, hf]
    rfl
  refine h.emit hgrows hsent hsingle ?_ (onWire_of_unnumbered hf rfl)
  rw [hcarried, List.append_nil]
  exact hnumbering

/-- The SYN of the session. -/
theorem Sender.openWith {t : TcpSession} {ackNum : UInt32}
    (h : Sender flags iss accepted [] a) (hgrows : Grows a b)
    (hsent : b.sent = a.sent ++ [t.datagram flags ackNum []])
    (hseq : t.sendWindow.sendNext = iss) (hflags : (flags &&& flagSyn != 0) = true)
    (hsingle : SingleDuplicate b) (hstate : b.state = .synSent ∨ b.state = .synReceived)
    (hunack : b.sendWindow.sendUnack = iss) (hnext : b.sendWindow.sendNext = iss + 1)
    (hbuffer : b.sendBuffer = a.sendBuffer) :
    Sender flags iss accepted ([] ++ newWire a b) b := by
  have hcarried : (t.datagram flags ackNum []).packet.carried = [none] := by
    rw [carried_datagram, hflags]
    rfl
  refine h.emit hgrows hsent hsingle ?_ (onWire_append (fun _ => rfl) ?_ ?_ fun _ => rfl)
  · rw [hcarried, List.nil_append]
    exact h.numbering.opened hstate (by simp [hsent]) hunack hnext hbuffer
  · rw [datagram_seq, hseq]
    exact (UInt32.add_zero _).symm
  · rw [datagram_has, hflags]
    simp

/-- A FIN of the session. -/
theorem Sender.finish {f : UInt8} {ackNum : UInt32} (h : Sender flags iss accepted wire a)
    (hgrows : Grows a b) (hsent : b.sent = a.sent ++ [a.datagram f ackNum []])
    (hsyn : (f &&& flagSyn != 0) = false) (hfin : (f &&& flagFin != 0) = true)
    (hsingle : SingleDuplicate b) (hnumbered : a.Numbered)
    (hstate : b.state = .finWait1 ∨ b.state = .lastAck)
    (hnext : b.Numbered → b.sendWindow.sendNext = a.sendWindow.sendNext + 1)
    (hbuffer : b.sendBuffer = a.sendBuffer) :
    Sender flags iss accepted (wire ++ newWire a b) b := by
  have hcarried : (a.datagram f ackNum []).packet.carried = [none] := by
    rw [carried_datagram, hfin, Bool.or_true]
    rfl
  rcases h.numbering.next hnumbered with ⟨hlast, hhead⟩
  refine h.emit hgrows hsent hsingle ?_ (onWire_append (fun _ => rfl) ?_ ?_ ?_)
  · rw [hcarried]
    exact h.numbering.mark hnumbered hstate (by simp [hsent]) hnext hbuffer
  · rw [datagram_seq, hlast]
  · rw [datagram_has, hsyn]
    constructor
    · intro hfalse
      contradiction
    · rintro rfl
      contradiction
  · rw [datagram_has, hsyn]
    intro hfalse
    contradiction

/-- {lit}`_handle_try_send` keeps the sender. -/
theorem Sender.trySend (h : Sender flags iss accepted wire a) :
    Sender flags iss accepted (wire ++ newWire a a.handleTrySend) a.handleTrySend := by
  have hgrows := grows_handleTrySend a
  have hsingle := h.single.quiet hgrows.sent (handleTrySend_dupAckCount a)
    (handleTrySend_lastAckReceived a) (handleTrySend_state a) (handleTrySend_sendUnack a)
  by_cases htransmits : a.Transmits
  · have hnumbered : a.Numbered := by
      rcases htransmits.1 with hstate | hstate <;> simp [Numbered, hstate]
    have hcarried : (a.datagram flagAck a.recvWindow.recvNext a.nextPayload).packet.carried =
        a.nextPayload.map some := by
      rw [carried_datagram, if_neg (by decide)]
    rcases h.numbering.next hnumbered with ⟨hlast, hhead⟩
    refine h.emit hgrows (by rw [handleTrySend_of_transmits _ htransmits]) hsingle ?_
      (onWire_append ?_ ?_ ?_ ?_)
    · rw [hcarried]
      exact h.numbering.trySend htransmits
    · intro hcontrol
      simp only [datagram_has] at hcontrol
      contradiction
    · rw [datagram_seq, hlast]
    · constructor
      · intro hhas
        rw [datagram_has] at hhas
        contradiction
      · rintro rfl
        contradiction
    · intro hhas
      rw [datagram_has] at hhas
      contradiction
  · have hsame := a.handleTrySend_of_not htransmits
    refine h.silent hgrows (by rw [hsame]) hsingle ?_
    rw [hsame]
    exact h.numbering

/-- Every move of a session that opens one connection keeps the invariant of the sender,
{lit}`send()` and expiries apart. -/
theorem Move.sender (h : Sender flags iss accepted wire a) (hok : OpensAs flags iss s₀ e)
    (hsend : ∀ data, e ≠ .send data) (hexpire : ∀ k, e ≠ .expire k) (hmove : Move s₀ e a b) :
    Sender flags iss accepted (wire ++ newWire a b) b := by
  have hgrows := hmove.grows hexpire
  have hopen : a.state = .established → a.sent ≠ [] := by
    intro hstate hnil
    have hnext := (h.numbering.next (by simp [Numbered, hstate])).2
    rw [h.numbering.unused (Or.inl hnil)] at hnext
    contradiction
  have hsingle := hmove.singleDuplicate h.single hopen hok
  have hnumbering := h.numbering
  cases hmove with
  | connect i =>
      rcases hok with ⟨rfl, rfl, hnil⟩
      cases hnumbering.unused (Or.inl hnil)
      rw [connect_eq] at hgrows hsingle ⊢
      exact h.openWith hgrows rfl rfl rfl hsingle (Or.inl rfl) rfl rfl rfl
  | listen hstate => exact absurd hok id
  | enqueue hpush => exact absurd rfl (hsend _)
  | trySend s => exact h.trySend
  | closeEstablished hstate =>
      rw [closeEstablished_eq] at hgrows hsingle ⊢
      refine h.finish hgrows rfl rfl rfl hsingle ?_ (Or.inl rfl) (fun _ => rfl) rfl
      rw [Numbered, handleTrySend_state, hstate]
      simp
  | closeCloseWait s hstate =>
      rw [closeCloseWait_eq] at hgrows hsingle ⊢
      refine h.finish hgrows rfl rfl rfl hsingle ?_ (Or.inr rfl) (fun _ => rfl) rfl
      simp [Numbered, hstate]
  | abortOpening hstate =>
      rw [abortOpening_eq] at hgrows hsingle ⊢
      exact h.reply hgrows rfl rfl hsingle (hnumbering.closed hgrows.sent rfl rfl)
  | reset hrst => exact h.silent hgrows rfl hsingle (hnumbering.closed hgrows.sent rfl rfl)
  | @passiveOpen packet i hstate hsyn =>
      rcases hok.1 hstate with ⟨rfl, rfl⟩
      cases hnumbering.unused (Or.inr hstate)
      rw [handleListen_eq _ hsyn] at hgrows hsingle ⊢
      exact h.openWith hgrows rfl rfl rfl hsingle (Or.inr rfl) rfl rfl rfl
  | @synAck packet i hstate hsyn hflag hack =>
      rw [acceptSynAck_eq] at hgrows hsingle ⊢
      exact h.reply hgrows rfl rfl hsingle
        (hnumbering.established (Or.inl hstate) rfl (by simp) hack rfl rfl)
  | peerSyn hstate hsyn hflag =>
      rw [hok.2 hstate hsyn] at hflag
      contradiction
  | @synReceivedAck packet i hstate hflag hack =>
      have hne : (s₀.observe packet).sent ≠ [] := by
        intro hnil
        have hwire := (hnumbering.opening (Or.inr hstate)).1
        rw [hnumbering.unused (Or.inl hnil)] at hwire
        contradiction
      exact h.silent hgrows rfl hsingle
        (hnumbering.established (Or.inr hstate) rfl hne hack rfl rfl)
  | @ack packet i haccepts =>
      have hstate : (s₀.observe packet).state = .established := haccepts.2.1
      have hthird := h.single.not_thirdDuplicate hstate (acceptsAck_iff.mp haccepts.2.2.2).1
      refine h.silent hgrows ?_ hsingle (hnumbering.release hstate haccepts.2.2.2 hthird)
      rw [processAck_of_not _ hthird]
  | pureAck s hstate =>
      exact h.reply hgrows rfl rfl hsingle (hnumbering.quiet hgrows.sent rfl rfl rfl rfl)
  | inOrder s hstate hseq hdrain =>
      rcases reassemble_acceptPayload_frame a _ _ with ⟨m, q, n, hframe⟩
      rw [hframe] at hgrows hsingle ⊢
      exact h.silent hgrows rfl hsingle (hnumbering.quiet hgrows.sent rfl rfl rfl rfl)
  | outOfOrder s hstate hseq =>
      rcases storeOutOfOrder_frame a _ _ with ⟨m, hframe⟩
      rw [hframe] at hgrows hsingle ⊢
      exact h.silent hgrows rfl hsingle (hnumbering.quiet hgrows.sent rfl rfl rfl rfl)
  | @fin packet i s next hfin hnext horder =>
      exact h.reply hgrows rfl rfl hsingle (hnumbering.peerFin hnext hgrows.sent rfl rfl rfl)
  | finAcked hstate hflag hack =>
      exact h.silent hgrows rfl hsingle (hnumbering.finAcked hstate rfl hgrows.sent rfl rfl)
  | finishCloseWait s hstate =>
      by_cases hdrained : a.Drained
      · rw [finishCloseWait_of_drained _ hdrained] at hgrows hsingle ⊢
        refine h.finish hgrows rfl rfl rfl hsingle (by simp [Numbered, hstate]) (Or.inr rfl) ?_ rfl
        exact fun hnumbered => absurd rfl hnumbered.2.2
      · rw [finishCloseWait_of_not _ hdrained] at hgrows ⊢
        exact h.silent hgrows rfl h.single hnumbering
  | lastAck hstate hflag hack =>
      exact h.silent hgrows rfl hsingle (hnumbering.closed hgrows.sent rfl rfl)
  | expire hactive => exact absurd rfl (hexpire _)
  | expire2Msl hactive =>
      exact h.silent hgrows rfl hsingle (hnumbering.closed hgrows.sent rfl rfl)
  | _ =>
      exact h.silent hgrows rfl hsingle (hnumbering.quiet hgrows.sent rfl rfl rfl rfl)

/-! ## The steps of a sender -/

/-- The step after a send call that stores bytes: the accepted bytes are stored behind the
buffered ones, and an attempt is made to send them. -/
theorem send_eq (s : TcpSession) (data : List UInt8) :
    (s.acceptedBy (.send data) = [] ∧ (s.send data).2 = s) ∨
      ∃ buffer, buffer.toList = s.sendBuffer.toList ++ s.acceptedBy (.send data) ∧
        (s.send data).2 = { s with sendBuffer := buffer }.handleTrySend := by
  rw [acceptedBy, send]
  split
  · exact Or.inl ⟨List.take_zero, rfl⟩
  · dsimp only
    split
    · exact Or.inl ⟨List.take_zero, rfl⟩
    · rename_i buffer hpush
      exact Or.inr ⟨buffer, RingQueue.toList_pushBatch hpush, rfl⟩

/-- Accepted bytes continue the stream. -/
theorem Sender.enqueue {data : List UInt8} {buffer : RingQueue UInt8 1024}
    (h : Sender flags iss accepted wire a) (hbuffer : buffer.toList = a.sendBuffer.toList ++ data) :
    Sender flags iss (accepted ++ data) wire { a with sendBuffer := buffer } := by
  have hnumbering := h.numbering
  refine ⟨?_, h.packets.of_eq rfl rfl, h.single.quiet List.prefix_rfl rfl rfl rfl rfl⟩
  constructor
  · exact hnumbering.stream.trans (List.prefix_append _ _)
  · rcases hnumbering.buffer with ⟨acked, hacked⟩
    exact ⟨acked, by rw [hbuffer, ← hacked, List.append_assoc]⟩
  · exact hnumbering.unused
  · intro hwire
    rw [hbuffer, hnumbering.fresh hwire]
  · exact hnumbering.next
  · intro hopening
    rcases hnumbering.opening hopening with ⟨hwire, hunack, hlist⟩
    exact ⟨hwire, hunack, by rw [hbuffer, hlist]⟩
  · intro hstate hopen
    rcases hnumbering.inflight hstate hopen with ⟨k, hunack, hlist, hlen, hle⟩
    refine ⟨k, by omega, hunack, ?_⟩
    rw [hbuffer, hlist, List.drop_append_of_le_length (by omega)]
  · exact hnumbering.unfinished
  · exact hnumbering.finished

/-- An expiry sends a packet again that is on the wire. -/
theorem Sender.expire {k : UInt32} (h : Sender flags iss accepted wire a) (hkeyed : a.Keyed)
    (hstep : a.expire k = some b) : Sender flags iss accepted wire b := by
  have hsent : a.sent <+: b.sent := sent_prefix_step (e := .expire k) hstep
  rcases expire_frame hstep with ⟨hstate, hunack, hnext, -⟩
  have hcounters : b.sendBuffer = a.sendBuffer ∧ b.dupAckCount = a.dupAckCount ∧
      b.lastAckReceived = a.lastAckReceived := by
    rcases expire_eq_some_iff.mp hstep with ⟨t, -, rfl⟩
    by_cases hlimit : t.callback.retransmitCount + 1 ≥ maxRetransmitCount
    · rw [runClosure_of_limit _ hlimit]
      exact ⟨rfl, rfl, rfl⟩
    · rw [runClosure_of_lt _ hlimit]
      exact ⟨rfl, rfl, rfl⟩
  exact
    { numbering := h.numbering.quiet hsent hstate hunack hnext hcounters.1
      packets := packets_expire h.packets hkeyed hstep fun _ hp => onWire_refresh a hp
      single := h.single.quiet hsent hcounters.2.1 hcounters.2.2 hstate hunack }

/-- A step of a session that opens one connection keeps the invariant of the sender. -/
theorem sender_step (h : Sender flags iss accepted wire a) (hkeyed : a.Keyed)
    (hok : OpensAs flags iss a e) (hstep : step a e = some b) :
    Sender flags iss (accepted ++ a.acceptedBy e) (wire ++ a.sentBy e b) b := by
  have hmoves : (∀ data, e ≠ .send data) → (∀ k, e ≠ .expire k) →
      Sender flags iss accepted (wire ++ newWire a b) b := by
    intro hsend hexpire
    refine ((step_moves hstep).preserves
      (P := fun t => a.sent <+: t.sent ∧
        Sender flags iss accepted (wire ++ newWire a t) t) ?_ ⟨List.prefix_rfl, ?_⟩).2
    · rintro s t ⟨hlog, hs⟩ hmove
      refine ⟨hlog.trans hmove.sent_prefix, ?_⟩
      rw [newWire_trans hlog hmove.sent_prefix, ← List.append_assoc]
      exact hmove.sender hs hok hsend hexpire
    · rw [newWire_of_eq rfl, List.append_nil]
      exact h
  cases e with
  | send data =>
      cases hstep
      rcases send_eq a data with ⟨hnone, hsame⟩ | ⟨buffer, hbuffer, hframe⟩
      · change Sender flags iss (accepted ++ a.acceptedBy (.send data))
          (wire ++ newWire a (a.send data).2) (a.send data).2
        rw [hnone, hsame, List.append_nil, newWire_of_eq rfl, List.append_nil]
        exact h
      · rw [hframe]
        exact (h.enqueue hbuffer).trySend
  | expire k =>
      change Sender flags iss (accepted ++ []) (wire ++ []) b
      rw [List.append_nil, List.append_nil]
      exact h.expire hkeyed hstep
  | _ =>
      change Sender flags iss (accepted ++ []) _ b
      rw [List.append_nil]
      exact hmoves (by simp) (by simp)

/-- A session that has not been opened, with an empty send buffer. -/
theorem sender_start {s : TcpSession} (hstate : s.state = .closed ∨ s.state = .listen)
    (hsent : s.sent = []) (hbuffer : s.sendBuffer.toList = []) (hdup : s.dupAckCount = 0)
    (htimers : ∀ k, s.timerManager.activeAt k = none) : Sender flags iss [] [] s where
  numbering :=
    { stream := List.prefix_rfl
      buffer := by rw [hbuffer]
      unused := fun _ => rfl
      fresh := fun _ => hbuffer
      next := by rcases hstate with hstate | hstate <;> simp [Numbered, hstate]
      opening := by rcases hstate with hstate | hstate <;> simp [hstate]
      window := by rcases hstate with hstate | hstate <;> simp [hstate]
      unfinished := by simp
      finished := by rcases hstate with hstate | hstate <;> simp [hstate] }
  packets := allPackets_of_unsent hsent htimers
  single := Or.inl hdup

end Sender

end TcpSession

end MyuTcp
