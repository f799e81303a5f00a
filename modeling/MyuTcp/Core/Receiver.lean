import MyuTcp.Core.Receiving
import MyuTcp.Core.Sender

/-!
# The stream of a receiver

What a session has received of the stream of its peer, and what it acknowledges.  The stream is
what the numbers of the peer carry: a mark for each SYN and FIN, and the bytes of its payload.

Main results:

- Theorem {lit}`receiver_dispatch`: a packet of the peer adds to the received bytes what follows
  them in the stream, or nothing.
- Theorem {lit}`receiver_step`: every step keeps the received bytes a prefix of the stream, and
  the acknowledgment numbers covered by what has been received.
-/

namespace MyuTcp

open Library

namespace TcpSession

/-! ## Packets of the peer -/

section OnWire

variable {flags : UInt8} {irs : UInt32} {wire : List (Option UInt8)} {packet : MyuTcpPacket}

/-- No number is used twice. -/
def Unrepeated (wire : List (Option UInt8)) : Prop := wire.length ≤ 2 ^ 32

/-- A SYN is the first entry of the stream. -/
theorem OnWire.head (h : OnWire flags irs wire packet) (hshort : Unrepeated wire)
    (hsyn : packet.has flagSyn = true) : packet.seq = irs ∧ wire.head? = some none := by
  have hcarried : packet.carried = [none] := by
    rw [MyuTcpPacket.carried, hsyn]
    rfl
  have hseq := (h.syn hsyn).2
  rcases h.placed (by simp [hcarried]) with ⟨o, hplace, hprefix, -⟩
  rw [hcarried] at hprefix
  have hlen := hprefix.length_le
  rw [List.length_singleton, List.length_drop] at hlen
  unfold Unrepeated at hshort
  have hzero : o = 0 := by
    apply ofNat_add_inj (s := irs) (by omega) (by omega)
    rw [← hplace, hseq]
    exact (UInt32.add_zero _).symm
  rw [hzero, List.drop_zero] at hprefix
  exact ⟨hseq, List.head?_eq_some_iff.mpr (by
    rcases hprefix with ⟨rest, hrest⟩
    exact ⟨rest, hrest.symm⟩)⟩

/-- A FIN is an entry behind the first one. -/
theorem OnWire.fin (h : OnWire flags irs wire packet) (hflags : flags &&& flagFin = 0)
    (hfin : packet.has flagFin = true) :
    ∃ o : Nat, 1 ≤ o ∧ packet.seq = irs + UInt32.ofNat o ∧ wire[o]? = some none := by
  have hcarried : packet.carried = [none] := by
    rw [MyuTcpPacket.carried, hfin, Bool.or_true]
    rfl
  rcases h.placed (by simp [hcarried]) with ⟨o, hplace, hprefix, hzero⟩
  refine ⟨o, ?_, hplace, ?_⟩
  · by_contra hnot
    have hsyn := (h.syn (hzero (by omega))).1
    rw [MyuTcpPacket.has, hsyn, hflags] at hfin
    contradiction
  · rw [hcarried] at hprefix
    rcases hprefix with ⟨rest, hrest⟩
    rw [← List.head?_drop, ← hrest]
    rfl

/-- A payload is a part of the stream behind its first entry. -/
theorem OnWire.payload (h : OnWire flags irs wire packet) (hpayload : packet.payload ≠ []) :
    ∃ o : Nat, 1 ≤ o ∧ packet.seq = irs + UInt32.ofNat o ∧
      packet.payload.map some <+: wire.drop o := by
  have hcontrol : (packet.has flagSyn || packet.has flagFin) = false := by
    by_contra hcontrol
    exact hpayload (h.control (Bool.eq_true_of_not_eq_false hcontrol))
  have hcarried : packet.carried = packet.payload.map some := by
    rw [MyuTcpPacket.carried, hcontrol]
    rfl
  rcases h.placed (by simpa [hcarried] using hpayload) with ⟨o, hplace, hprefix, hzero⟩
  rw [hcarried] at hprefix
  refine ⟨o, ?_, hplace, hprefix⟩
  by_contra hnot
  rw [hzero (by omega)] at hcontrol
  contradiction

end OnWire

/-! ## The invariant of a receiver -/

/-- What an acknowledgment number covers has been received.  Unless all FINs arrive in order,
this is said of a stream without a FIN only. -/
def Knows (ordered : Prop) (irs : UInt32) (wire : List (Option UInt8)) (received : List UInt8)
    (ackNum : UInt32) : Prop :=
  ordered ∨ none ∉ wire.tail →
    ∃ m : Nat, 1 ≤ m ∧ ackNum = irs + UInt32.ofNat m ∧ KnownTo wire received m

/-- The session has taken the initial number of its peer. -/
def Synchronized (s : TcpSession) : Prop :=
  s.state ≠ .closed ∧ s.state ≠ .listen ∧ s.state ≠ .synSent

/-- The received bytes begin the stream, and the session expects and acknowledges no more than
the numbers that they cover. -/
structure Receiver (ordered : Prop) (irs : UInt32) (wire : List (Option UInt8))
    (received : List UInt8) (s : TcpSession) : Prop where
  stream : received.map some <+: wire.tail
  fresh : s.sent = [] ∨ s.state = .listen ∨ s.state = .synSent → received = []
  next : s.state = .synReceived ∨ s.state = .established →
    wire.head? = some none ∧ s.recvWindow.recvNext = irs + UInt32.ofNat (1 + received.length)
  known : s.Synchronized → Knows ordered irs wire received s.recvWindow.recvNext
  acks : AllPackets (fun p => p.has flagAck = true → Knows ordered irs wire received p.ack ∧
    Knows ordered irs wire received s.recvWindow.recvNext) s

section Receiver

variable {ordered : Prop} {irs : UInt32} {wire wire' : List (Option UInt8)}
  {received received' : List UInt8} {ackNum : UInt32} {a b : TcpSession}

/-- What is known stays known. -/
theorem Knows.mono (h : Knows ordered irs wire received ackNum) (hwire : wire <+: wire')
    (hreceived : received <+: received') : Knows ordered irs wire' received' ackNum := by
  intro hopen
  have hbefore : ordered ∨ none ∉ wire.tail := by
    refine hopen.imp_right fun hnot hmem => hnot ?_
    rw [← List.drop_one] at hmem ⊢
    exact (hwire.drop 1).subset hmem
  rcases h hbefore with ⟨m, hpos, hack, hknown⟩
  exact ⟨m, hpos, hack, hknown.mono hwire hreceived⟩

/-- The bytes received behind a SYN are known. -/
theorem knows_of_received (hhead : wire.head? = some none)
    (hstream : received.map some <+: wire.tail)
    (hack : ackNum = irs + UInt32.ofNat (1 + received.length)) :
    Knows ordered irs wire received ackNum := by
  intro _
  rcases List.head?_eq_some_iff.mp hhead with ⟨rest, rfl⟩
  refine ⟨1 + received.length, by omega, hack, knownTo_of_prefix ?_⟩
  exact List.cons_prefix_cons.mpr ⟨rfl, hstream⟩

/-- The stream of the peer grows. -/
theorem Receiver.mono (h : Receiver ordered irs wire received a) (hwire : wire <+: wire') :
    Receiver ordered irs wire' received a where
  stream := by
    rw [← List.drop_one]
    exact h.stream.trans (by rw [← List.drop_one]; exact hwire.drop 1)
  fresh := h.fresh
  next hopen := by
    rcases h.next hopen with ⟨hhead, hnext⟩
    refine ⟨?_, hnext⟩
    rcases List.head?_eq_some_iff.mp hhead with ⟨rest, rfl⟩
    rcases hwire with ⟨more, rfl⟩
    rfl
  known hsync := (h.known hsync).mono hwire List.prefix_rfl
  acks := h.acks.mono fun _ hp hack =>
    ⟨(hp hack).1.mono hwire List.prefix_rfl, (hp hack).2.mono hwire List.prefix_rfl⟩

/-- The second session expects the same number as the first one, in a state that is not ahead
of its state. -/
structure Resumes (a b : TcpSession) : Prop where
  next : b.recvWindow.recvNext = a.recvWindow.recvNext
  fresh : b.state = .listen ∨ b.state = .synSent →
    a.sent = [] ∨ a.state = .listen ∨ a.state = .synSent
  opened : b.state = .synReceived ∨ b.state = .established →
    a.state = .synReceived ∨ a.state = .established
  synchronized : b.Synchronized → a.Synchronized

/-- The same number in the same state. -/
theorem resumes_of_eq (hnext : b.recvWindow.recvNext = a.recvWindow.recvNext)
    (hstate : b.state = a.state) : Resumes a b where
  next := hnext
  fresh := by rw [hstate]; exact Or.inr
  opened := by rw [hstate]; exact id
  synchronized := by rw [Synchronized, hstate]; exact id

/-- A closed session may keep any number. -/
theorem resumes_of_closed (hnext : b.recvWindow.recvNext = a.recvWindow.recvNext)
    (hstate : b.state = .closed) : Resumes a b where
  next := hnext
  fresh := by simp [hstate]
  opened := by simp [hstate]
  synchronized hsync := absurd hstate hsync.1

/-- The number is kept on the way out of ESTABLISHED. -/
theorem resumes_of_synchronized (hnext : b.recvWindow.recvNext = a.recvWindow.recvNext)
    (ha : a.Synchronized) (hb : Past b) (hstate : b.state ≠ .established) : Resumes a b where
  next := hnext
  fresh hlisten := absurd hlisten (not_or.mpr ⟨hb.listen, hb.synSent⟩)
  opened hopen := absurd hopen (not_or.mpr ⟨hb.synReceived, hstate⟩)
  synchronized _ := ha

/-- What is sent in between acknowledges the expected number, and only a synchronized session
acknowledges. -/
theorem Receiver.keep (h : Receiver ordered irs wire received a) (hgrows : Grows a b)
    (hresumes : Resumes a b)
    (hnew : ∀ d ∈ newDatagrams a b, d.packet.has flagAck = true →
      d.packet.ack = b.recvWindow.recvNext ∧ a.Synchronized) :
    Receiver ordered irs wire received b where
  stream := h.stream
  fresh hfresh := by
    apply h.fresh
    rcases hfresh with hnil | hstate
    · exact Or.inl (List.prefix_nil.mp (hnil ▸ hgrows.sent))
    · exact hresumes.fresh hstate
  next hopen := by
    rw [hresumes.next]
    exact h.next (hresumes.opened hopen)
  known hsync := by
    rw [hresumes.next]
    exact h.known (hresumes.synchronized hsync)
  acks := by
    rw [hresumes.next]
    apply h.acks.of_grows hgrows
    intro d hd hack
    rcases hnew d hd hack with ⟨hnumber, hsync⟩
    rw [hnumber, hresumes.next]
    exact ⟨h.known hsync, h.known hsync⟩

/-- Nothing is sent. -/
theorem Receiver.quiet (h : Receiver ordered irs wire received a) (hgrows : Grows a b)
    (hresumes : Resumes a b) (hsent : b.sent = a.sent) : Receiver ordered irs wire received b := by
  apply h.keep hgrows hresumes
  intro d hd
  rw [newDatagrams, hsent, List.drop_length] at hd
  contradiction

/-- One packet is sent. -/
theorem Receiver.reply (h : Receiver ordered irs wire received a) (hgrows : Grows a b)
    (hresumes : Resumes a b) {t : TcpSession} {f : UInt8} {payload : List UInt8}
    (hsent : b.sent = a.sent ++ [t.datagram f b.recvWindow.recvNext payload])
    (hack : (f &&& flagAck != 0) = true → a.Synchronized) :
    Receiver ordered irs wire received b := by
  apply h.keep hgrows hresumes
  intro d hd hflag
  rw [newDatagrams_of_append hsent, List.mem_singleton] at hd
  rw [hd, datagram_has] at hflag
  rw [hd, datagram_ack]
  exact ⟨rfl, hack hflag⟩

/-- The session of a synchronized one sends something. -/
theorem Receiver.sends {s : TcpSession} (h : Receiver ordered irs wire received a)
    (hgrows : Grows a b) (hresumes : Resumes a b) (hsends : Sends s a b)
    (hsync : a.Synchronized) : Receiver ordered irs wire received b := by
  rcases hsends with hsent | ⟨t, f, payload, hsent, -⟩
  · exact h.quiet hgrows hresumes hsent
  · exact h.reply hgrows hresumes hsent fun _ => hsync

/-- Sending leaves the receiver's half as it is. -/
theorem Receiver.trySend (h : Receiver ordered irs wire received a) :
    Receiver ordered irs wire received a.handleTrySend := by
  have hresumes : Resumes a a.handleTrySend :=
    resumes_of_eq (by rw [handleTrySend_recvWindow]) (handleTrySend_state a)
  by_cases htransmits : a.Transmits
  · apply h.sends (grows_handleTrySend a) hresumes (sends_handleTrySend a)
    rcases htransmits.1 with hstate | hstate <;> simp [Synchronized, hstate]
  · rw [a.handleTrySend_of_not htransmits]
    exact h

/-- More has been received, and the expected number is acknowledged. -/
theorem Receiver.learn (h : Receiver ordered irs wire received a) (hgrows : Grows a b)
    (hreceived : received <+: received') (hstream : received'.map some <+: wire.tail)
    (hknows : Knows ordered irs wire received' b.recvWindow.recvNext)
    {t : TcpSession} {f : UInt8} {payload : List UInt8}
    (hsent : b.sent = a.sent ++ [t.datagram f b.recvWindow.recvNext payload])
    (hfresh : b.state ≠ .listen ∧ b.state ≠ .synSent)
    (hnext : b.state = .synReceived ∨ b.state = .established → wire.head? = some none ∧
      b.recvWindow.recvNext = irs + UInt32.ofNat (1 + received'.length)) :
    Receiver ordered irs wire received' b where
  stream := hstream
  fresh hnil := by simp [hsent, hfresh] at hnil
  next := hnext
  known _ := hknows
  acks := by
    have hold : AllPackets (fun p => p.has flagAck = true →
        Knows ordered irs wire received' p.ack ∧
          Knows ordered irs wire received' b.recvWindow.recvNext) a :=
      h.acks.mono fun _ hp hack => ⟨(hp hack).1.mono List.prefix_rfl hreceived, hknows⟩
    apply hold.of_grows hgrows
    intro d hd _
    rw [newDatagrams_of_append hsent, List.mem_singleton] at hd
    rw [hd, datagram_ack]
    exact ⟨hknows, hknows⟩

/-- A session that has not been opened. -/
theorem receiver_start {s : TcpSession} (hstate : s.state = .closed ∨ s.state = .listen)
    (hsent : s.sent = []) (htimers : ∀ k, s.timerManager.activeAt k = none) :
    Receiver ordered irs [] [] s where
  stream := List.prefix_rfl
  fresh _ := rfl
  next := by rcases hstate with hstate | hstate <;> simp [hstate]
  known := by rcases hstate with hstate | hstate <;> simp [Synchronized, hstate]
  acks := allPackets_of_unsent hsent htimers

/-! ## Payload -/

/-- A segment at the expected number continues what has been received. -/
theorem Receiver.continues {flags : UInt8} {packet : MyuTcpPacket}
    (h : Receiver ordered irs wire received a) (hopen : a.state = .established)
    (hpacket : OnWire flags irs wire packet) (hshort : Unrepeated wire)
    (hpayload : packet.payload ≠ []) (hseq : packet.seq = a.recvWindow.recvNext) :
    (received ++ packet.payload).map some <+: wire.tail := by
  rcases h.next (Or.inr hopen) with ⟨hhead, hnext⟩
  rcases hpacket.payload hpayload with ⟨o, hpos, hplace, hprefix⟩
  have hlen := hprefix.length_le
  have hstream := h.stream
  have hstreamLen := hstream.length_le
  rcases List.head?_eq_some_iff.mp hhead with ⟨rest, rfl⟩
  have hpayloadLen := List.length_pos_iff.mpr hpayload
  unfold Unrepeated at hshort
  simp only [List.length_map, List.length_drop, List.length_cons, List.tail_cons] at *
  have hposition : o = 1 + received.length := by
    apply ofNat_add_inj_of_pos (s := irs) hpos (by omega) (by omega)
    rw [← hplace, hseq, hnext]
  rw [hposition, Nat.add_comm, List.drop_succ_cons] at hprefix
  rcases hstream with ⟨later, rfl⟩
  have hlength : received.length = (received.map some).length := by rw [List.length_map]
  rw [hlength, List.drop_left] at hprefix
  rw [List.map_append]
  exact (List.prefix_append_right_inj _).mpr hprefix

/-- The payload part of {lit}`handle_established` takes what continues the stream, or nothing. -/
theorem Receiver.payload {flags : UInt8} {packet : MyuTcpPacket}
    (h : Receiver ordered irs wire received a) (hstored : NothingStored a)
    (hopen : a.state = .established) (hpacket : OnWire flags irs wire packet)
    (hshort : Unrepeated wire) (hstep : a.handleEstablishedPayload packet = some b) :
    ∃ new, b.recvBuffer.toList = a.recvBuffer.toList ++ new ∧ b.state = .established ∧
      (packet.payload = [] → b.recvWindow = a.recvWindow) ∧
      Receiver ordered irs wire (received ++ new) b := by
  by_cases hpayload : packet.payload = []
  · rw [handleEstablishedPayload_nil hpayload, Option.some.injEq] at hstep
    subst hstep
    exact ⟨[], by simp, hopen, fun _ => rfl, by rwa [List.append_nil]⟩
  by_cases hseq : packet.seq = a.recvWindow.recvNext
  · rcases hstored.payload_inOrder hpayload hseq with ⟨buffer, t, hhandle, -, hbuffer⟩
    rw [hhandle, Option.some.injEq] at hstep
    rcases h.next (Or.inr hopen) with ⟨hhead, hnext⟩
    -- the payload is taken as a whole, or it does not fit
    have hstream : (received ++ a.admissible packet.payload).map some <+: wire.tail := by
      unfold admissible
      split
      · exact h.continues hopen hpacket hshort hpayload hseq
      · rw [List.append_nil]
        exact h.stream
    have hafter : a.nextAfter packet.payload =
        irs + UInt32.ofNat (1 + (received ++ a.admissible packet.payload).length) := by
      rw [nextAfter, hnext, List.length_append, ← Nat.add_assoc, UInt32.ofNat_add (1 + _)]
      exact UInt32.add_assoc _ _ _
    subst hstep
    refine ⟨a.admissible packet.payload, hbuffer, hopen, fun hnil => absurd hnil hpayload, ?_⟩
    exact h.learn (grows_of_eq (List.prefix_append _ _) rfl) (List.prefix_append _ _) hstream
      (knows_of_received hhead hstream hafter) rfl (by simp [hopen]) fun _ => ⟨hhead, hafter⟩
  · rw [hstored.payload_outOfOrder hpayload hseq, Option.some.injEq] at hstep
    subst hstep
    refine ⟨[], by simp, hopen, fun _ => rfl, ?_⟩
    rw [List.append_nil]
    refine h.reply (grows_of_eq (List.prefix_append _ _) rfl) (resumes_of_eq rfl rfl) rfl ?_
    intro _
    simp [Synchronized, hopen]

/-! ## FIN -/

/-- The FIN is not ahead of the number that the session expects: it is at most one number
behind the last one that the session has taken. -/
def FinInOrder (irs : UInt32) (packet : MyuTcpPacket) (s : TcpSession) : Prop :=
  (packet.seq - irs).toNat ≤ (s.recvWindow.recvNext - 1 - irs).toNat + 1

instance (irs : UInt32) (packet : MyuTcpPacket) (s : TcpSession) :
    Decidable (FinInOrder irs packet s) :=
  inferInstanceAs (Decidable (_ ≤ _))

/-- What precedes a FIN that is not ahead has been received. -/
theorem Receiver.before_fin {flags : UInt8} {packet : MyuTcpPacket}
    (h : Receiver ordered irs wire received a) (hsync : a.Synchronized)
    (hpacket : OnWire flags irs wire packet) (hflags : flags &&& flagFin = 0)
    (hshort : Unrepeated wire) (hfin : packet.has flagFin = true) (hordered : ordered)
    (hinOrder : FinInOrder irs packet a) :
    ∃ o : Nat, 1 ≤ o ∧ packet.seq = irs + UInt32.ofNat o ∧ wire[o]? = some none ∧
      KnownTo wire received o := by
  rcases hpacket.fin hflags hfin with ⟨o, hpos, hplace, hmark⟩
  rcases h.known hsync (Or.inl hordered) with ⟨m, hm, hnext, hknown⟩
  refine ⟨o, hpos, hplace, hmark, hknown.le ?_⟩
  have hlt := (List.getElem?_eq_some_iff.mp hmark).1
  unfold FinInOrder at hinOrder
  unfold Unrepeated at hshort
  have hoffset : packet.seq - irs = UInt32.ofNat o := by
    rw [hplace, UInt32.add_comm, UInt32.add_sub_cancel]
  have hlast : a.recvWindow.recvNext - 1 - irs = UInt32.ofNat (m - 1) := by
    have hsplit : UInt32.ofNat m = UInt32.ofNat (m - 1) + 1 := by
      rw [← Nat.sub_add_cancel hm, UInt32.ofNat_add, Nat.add_sub_cancel]
      rfl
    rw [hnext, hsplit]
    grind
  rw [hoffset, hlast, UInt32.toNat_ofNat', UInt32.toNat_ofNat'] at hinOrder
  have hle := Nat.mod_le (m - 1) (2 ^ 32)
  omega

/-- A FIN of the peer. -/
theorem Receiver.fin {flags : UInt8} {packet : MyuTcpPacket} {next : TcpState}
    (h : Receiver ordered irs wire received a) (hnext : FinTransition a.state next)
    (hpacket : OnWire flags irs wire packet) (hflags : flags &&& flagFin = 0)
    (hshort : Unrepeated wire) (hfin : packet.has flagFin = true)
    (hinOrder : ordered → FinInOrder irs packet a) :
    Receiver ordered irs wire received ((a.acceptFin packet).transitionTo next) := by
  have hstates : a.Synchronized ∧ next ≠ .listen ∧ next ≠ .synSent ∧ next ≠ .synReceived ∧
      next ≠ .established := by
    rw [Synchronized]
    generalize a.state = before at hnext
    cases hnext <;> simp
  rw [acceptFin_eq]
  refine h.learn (grows_of_eq (List.prefix_append _ _) rfl) List.prefix_rfl h.stream ?_ rfl
    ⟨hstates.2.1, hstates.2.2.1⟩ fun hopen => absurd hopen (not_or.mpr hstates.2.2.2)
  · intro hopen
    rcases hpacket.fin hflags hfin with ⟨o, hpos, -, hmark⟩
    -- the stream has a FIN, so all FINs are in order
    have hordered : ordered := by
      apply hopen.resolve_right
      rw [not_not, List.mem_iff_getElem?]
      refine ⟨o - 1, ?_⟩
      rw [List.getElem?_tail, Nat.sub_add_cancel hpos]
      exact hmark
    rcases h.before_fin hstates.1 hpacket hflags hshort hfin hordered (hinOrder hordered) with
      ⟨o, hpos, hplace, hmark, hknown⟩
    refine ⟨o + 1, by omega, ?_, hknown.mark hmark⟩
    change packet.seq + 1 = _
    rw [hplace, UInt32.ofNat_add]
    exact UInt32.add_assoc _ _ _

/-! ## Packets -/

/-- The SYN of the peer. -/
theorem Receiver.synchronize {flags f : UInt8} {packet : MyuTcpPacket} {t : TcpSession}
    (h : Receiver ordered irs wire received a)
    (hstate : a.state = .listen ∨ a.state = .synSent) (hpacket : OnWire flags irs wire packet)
    (hshort : Unrepeated wire) (hsyn : packet.has flagSyn = true) (hgrows : Grows a b)
    (hnext : b.recvWindow.recvNext = packet.seq + 1)
    (hsent : b.sent = a.sent ++ [t.datagram f (packet.seq + 1) []])
    (hafter : b.state = .synReceived ∨ b.state = .established) :
    Receiver ordered irs wire received b := by
  have hnone : received = [] := h.fresh (Or.inr hstate)
  rcases hpacket.head hshort hsyn with ⟨hseq, hhead⟩
  have hexpected : b.recvWindow.recvNext = irs + UInt32.ofNat (1 + received.length) := by
    rw [hnext, hseq, hnone]
    rfl
  rw [← hnext] at hsent
  refine h.learn hgrows List.prefix_rfl h.stream (knows_of_received hhead h.stream hexpected) hsent
    ?_ fun _ => ⟨hhead, hexpected⟩
  rcases hafter with hafter | hafter <;> simp [hafter]

section Packets

variable {flags : UInt8} {packet : MyuTcpPacket} {iss : UInt32}

/-- The window that a packet advertises is not part of the receiver. -/
theorem Receiver.observe (h : Receiver ordered irs wire received a) :
    Receiver ordered irs wire received (a.observe packet) :=
  h.quiet (grows_of_eq List.prefix_rfl rfl) (resumes_of_eq rfl rfl) rfl

/-- The SYN tells the first number of the stream. -/
theorem Receiver.handleListen (h : Receiver ordered irs wire received a)
    (hstate : a.state = .listen) (hpacket : OnWire flags irs wire packet)
    (hshort : Unrepeated wire) :
    Receiver ordered irs wire received (a.handleListen packet iss) := by
  by_cases hsyn : packet.has flagSyn = true
  · have hgrows : Grows a (a.handleListen packet iss) := by
      rw [handleListen_eq _ hsyn]
      exact grows_of_startTimer rfl (fun _ _ ht => ht)
        (controlClosure_seq (s := a.atSeq iss) _ _) rfl rfl rfl
    rw [handleListen_eq _ hsyn] at hgrows ⊢
    exact h.synchronize (Or.inl hstate) hpacket hshort hsyn hgrows rfl rfl (Or.inl rfl)
  · rw [TcpSession.handleListen, if_pos (by simpa using hsyn)]
    exact h

/-- The SYN-ACK tells the first number of the stream. -/
theorem Receiver.handleSynSent (h : Receiver ordered irs wire received a)
    (hstate : a.state = .synSent) (hpacket : OnWire flags irs wire packet)
    (hshort : Unrepeated wire) (hack : packet.has flagSyn = true → packet.has flagAck = true) :
    Receiver ordered irs wire received (a.handleSynSent packet) := by
  rw [TcpSession.handleSynSent]
  split <;> rename_i hflags
  · rw [Bool.and_eq_true] at hflags
    split
    · exact h
    · apply Receiver.trySend
      rw [acceptSynAck_eq]
      exact h.synchronize (Or.inr hstate) hpacket hshort hflags.1
        (grows_of_subset (List.prefix_append _ _) fun _ _ => activeAt_of_stopTimer) rfl rfl
        (Or.inr rfl)
  · split <;> rename_i hsyn
    · rw [hsyn, hack hsyn] at hflags
      contradiction
    · exact h

/-- The last packet of the handshake brings no byte. -/
theorem Receiver.handleSynReceived (h : Receiver ordered irs wire received a)
    (hstate : a.state = .synReceived) :
    Receiver ordered irs wire received (a.handleSynReceived packet) := by
  rw [TcpSession.handleSynReceived]
  split
  · exact h
  · split
    · exact h
    · apply Receiver.trySend
      refine h.quiet (grows_of_subset List.prefix_rfl fun _ _ => activeAt_of_stopTimer) ?_ rfl
      exact
        { next := rfl
          fresh := by simp [acceptSynReceivedAck, notify, transitionTo]
          opened := fun _ => Or.inl hstate
          synchronized := fun _ => by simp [Synchronized, hstate] }

/-- The acknowledgment part of {lit}`handle_established`. -/
theorem Receiver.ack (h : Receiver ordered irs wire received a) (hopen : a.state = .established) :
    Receiver ordered irs wire received (a.handleEstablishedAck packet) := by
  have hsync : a.Synchronized := by simp [Synchronized, hopen]
  unfold handleEstablishedAck
  split
  · apply Receiver.trySend
    unfold handleAck
    split
    · apply Receiver.trySend
      refine h.sends (grows_processAck a _) (resumes_of_eq ?_ (processAck_state _ _))
        (sends_processAck a _) hsync
      rw [processAck_recvWindow]
    · exact h
  · exact h

/-- A FIN in FIN_WAIT_1 brings no byte. -/
theorem Receiver.handleFinWait1 (h : Receiver ordered irs wire received a)
    (hstate : a.state = .finWait1) (hpacket : OnWire flags irs wire packet)
    (hflags : flags &&& flagFin = 0) (hshort : Unrepeated wire)
    (hinOrder : ordered → packet.has flagFin = true → FinInOrder irs packet a) :
    Receiver ordered irs wire received (a.handleFinWait1 packet) := by
  have hack : Receiver ordered irs wire received (a.handleFinWait1Ack packet) ∧
      (a.handleFinWait1Ack packet).recvWindow = a.recvWindow ∧
      FinTransition (a.handleFinWait1Ack packet).state .closeWait := by
    rw [handleFinWait1Ack]
    split
    · refine ⟨?_, rfl, .finWait1Acked⟩
      refine h.quiet (grows_of_subset List.prefix_rfl fun _ _ => activeAt_of_stopTimer) ?_ rfl
      refine resumes_of_synchronized rfl (by simp [Synchronized, hstate]) ?_ ?_
      · constructor <;> simp [advanceUnack, transitionTo]
      · simp [advanceUnack, transitionTo]
    · exact ⟨h, rfl, hstate ▸ .finWait1⟩
  rw [TcpSession.handleFinWait1]
  split <;> rename_i hfin
  · refine hack.1.fin hack.2.2 hpacket hflags hshort hfin fun hordered => ?_
    rw [FinInOrder, hack.2.1]
    exact hinOrder hordered hfin
  · exact hack.1

/-- After the FIN of the peer no byte arrives. -/
theorem Receiver.handleCloseWait (h : Receiver ordered irs wire received a)
    (hstate : a.state = .closeWait) :
    Receiver ordered irs wire received (a.handleCloseWait packet) := by
  have hsync : a.Synchronized := by simp [Synchronized, hstate]
  have hecho : Receiver ordered irs wire received (a.sendPureAck a.recvWindow.recvNext) :=
    h.reply (grows_of_eq (List.prefix_append _ _) rfl) (resumes_of_eq rfl rfl) rfl fun _ => hsync
  have htry := hecho.trySend
  have hstate' : (a.sendPureAck a.recvWindow.recvNext).handleTrySend.state = .closeWait := by
    rw [handleTrySend_state]
    exact hstate
  rw [TcpSession.handleCloseWait]
  generalize (a.sendPureAck a.recvWindow.recvNext).handleTrySend = t at htry hstate'
  by_cases hdrained : t.Drained
  · have hmove : Move t (.input packet 0) t t.finishCloseWait := .finishCloseWait t hstate'
    have hgrows := hmove.grows fun _ => Event.noConfusion
    rw [finishCloseWait_of_drained _ hdrained] at hgrows ⊢
    refine htry.reply hgrows (resumes_of_synchronized rfl ?_ ?_ ?_) rfl fun hflag => ?_
    · simp [Synchronized, hstate']
    · constructor <;> simp
    · simp
    · contradiction
  · rw [finishCloseWait_of_not _ hdrained]
    exact htry

/-- The last acknowledgment brings no byte. -/
theorem Receiver.handleLastAck (h : Receiver ordered irs wire received a) :
    Receiver ordered irs wire received (a.handleLastAck packet) := by
  rw [TcpSession.handleLastAck]
  split
  · exact h
  · split
    · exact h
    · exact h.quiet (grows_of_subset List.prefix_rfl fun _ _ => activeAt_of_stopTimer)
        (resumes_of_closed rfl rfl) rfl

/-- Only an established session takes payload. -/
theorem recvBuffer_dispatch (hstate : a.state ≠ .established)
    (h : a.dispatch packet iss = some b) : b.recvBuffer = a.recvBuffer := by
  rw [dispatch] at h
  split at h
  case h_5 => contradiction
  all_goals cases h
  · rfl
  · by_cases hsyn : packet.has flagSyn = true
    · rw [handleListen_eq _ hsyn]
    · rw [TcpSession.handleListen, if_pos (by simpa using hsyn)]
  · rw [TcpSession.handleSynSent]
    split
    · split
      · rfl
      · rw [handleTrySend_recvBuffer, acceptSynAck_eq]
    · split
      · rw [acceptPeerSyn_eq]
      · rfl
  · rw [TcpSession.handleSynReceived]
    split
    · rfl
    · split
      · rfl
      · rw [handleTrySend_recvBuffer]
        rfl
  · have hack : (a.handleFinWait1Ack packet).recvBuffer = a.recvBuffer := by
      rw [handleFinWait1Ack]
      split <;> rfl
    rw [TcpSession.handleFinWait1]
    split
    · exact hack
    · exact hack
  · rw [handleFinWait2]
    split <;> rfl
  · have hecho : (a.sendPureAck a.recvWindow.recvNext).handleTrySend.recvBuffer = a.recvBuffer := by
      rw [handleTrySend_recvBuffer]
      rfl
    rw [TcpSession.handleCloseWait]
    generalize (a.sendPureAck a.recvWindow.recvNext).handleTrySend = t at hecho
    rw [← hecho]
    by_cases hdrained : t.Drained
    · rw [finishCloseWait_of_drained _ hdrained]
    · rw [finishCloseWait_of_not _ hdrained]
  · rw [TcpSession.handleLastAck]
    split
    · rfl
    · split <;> rfl
  · rw [handleTimedWait]
    split <;> rfl

/-- The states in which a session processes a FIN. -/
def TakesFin (s : TcpSession) : Prop :=
  s.state = .established ∨ s.state = .finWait1 ∨ s.state = .finWait2 ∨ s.state = .timeWait

instance (s : TcpSession) : Decidable s.TakesFin := inferInstanceAs (Decidable (_ ∨ _))

/-- A packet that passes the checks. -/
theorem receiver_dispatch (h : Receiver ordered irs wire received a) (hstored : NothingStored a)
    (hadmitted : Admitted packet) (hpacket : OnWire flags irs wire packet)
    (hflags : flags &&& flagFin = 0) (hshort : Unrepeated wire)
    (hack : a.state = .synSent → packet.has flagSyn = true → packet.has flagAck = true)
    (hinOrder : ordered → a.TakesFin → packet.has flagFin = true → FinInOrder irs packet a)
    (hstep : (a.observe packet).dispatch packet iss = some b) :
    ∃ new, b.recvBuffer.toList = a.recvBuffer.toList ++ new ∧
      Receiver ordered irs wire (received ++ new) b := by
  have hobserved : Receiver ordered irs wire received (a.observe packet) := h.observe
  by_cases hopen : a.state = .established
  · have hinput := input_established hadmitted hopen iss
    rw [input_of_admitted hadmitted, hstep] at hinput
    rcases Option.map_eq_some_iff.mp hinput.symm with ⟨t, ht, rfl⟩
    have hkeeps := keepsReceiving_ack a packet
    have hstate : ((a.observe packet).handleEstablishedAck packet).state = .established :=
      hkeeps.state.trans hopen
    rcases (hobserved.ack hopen).payload (hkeeps.nothingStored hstored) hstate hpacket hshort ht
      with ⟨new, hbuffer, htstate, hwindow, htreceiver⟩
    rw [hkeeps.recvBuffer] at hbuffer
    refine ⟨new, ?_, ?_⟩
    · rw [← hbuffer, handleEstablishedFin]
      split <;> rfl
    · rw [handleEstablishedFin]
      split <;> rename_i hfin
      · refine (htreceiver.fin (htstate ▸ .established) hpacket hflags hshort hfin ?_).quiet
          (grows_of_eq List.prefix_rfl rfl) (resumes_of_eq rfl rfl) rfl
        intro hordered
        have hnil := hpacket.control (by rw [hfin, Bool.or_true])
        rw [FinInOrder, hwindow hnil, hkeeps.recvWindow]
        exact hinOrder hordered (Or.inl hopen) hfin
      · exact htreceiver
  · have hbuffer : b.recvBuffer = (a.observe packet).recvBuffer := recvBuffer_dispatch hopen hstep
    refine ⟨[], by rw [hbuffer, List.append_nil]; rfl, ?_⟩
    rw [List.append_nil]
    rw [dispatch] at hstep
    split at hstep <;> rename_i hstate
    case h_5 => exact absurd hstate hopen
    all_goals cases hstep
    · exact hobserved.quiet (grows_of_eq List.prefix_rfl rfl) (resumes_of_eq rfl rfl) rfl
    · exact hobserved.handleListen hstate hpacket hshort
    · exact hobserved.handleSynSent hstate hpacket hshort (hack hstate)
    · exact hobserved.handleSynReceived hstate
    · exact hobserved.handleFinWait1 hstate hpacket hflags hshort fun hordered =>
        hinOrder hordered (Or.inr (Or.inl hstate))
    · rw [handleFinWait2]
      split <;> rename_i hfin
      · exact (hobserved.fin (hstate ▸ .finWait2) hpacket hflags hshort hfin fun hordered =>
          hinOrder hordered (Or.inr (Or.inr (Or.inl hstate))) hfin).quiet
            (grows_of_subset List.prefix_rfl fun _ _ ht => ht) (resumes_of_eq rfl rfl) rfl
      · exact hobserved
    · exact hobserved.handleCloseWait hstate
    · exact hobserved.handleLastAck
    · rw [handleTimedWait]
      split <;> rename_i hfin
      · have htimeWait : Receiver ordered irs wire received
            (((a.observe packet).acceptFin packet).transitionTo .timeWait) :=
          hobserved.fin (hstate ▸ .timeWait) hpacket hflags hshort hfin fun hordered =>
            hinOrder hordered (Or.inr (Or.inr (Or.inr hstate))) hfin
        rw [← hstate] at htimeWait
        exact htimeWait
      · exact hobserved

end Packets

/-! ## Steps -/

/-- The bytes that the application reads with an event. -/
def readBy (s : TcpSession) : Event → List UInt8
  | .recv bufSize => (s.recv bufSize).1
  | .readAll => s.readAll.1
  | _ => []

/-- A FIN that the event delivers to a session that processes it is not ahead. -/
def FinsInOrder (irs : UInt32) (s : TcpSession) : Event → Prop
  | .input packet _ =>
      Admitted packet → s.TakesFin → packet.has flagFin = true → FinInOrder irs packet s
  | _ => True

instance (irs : UInt32) (s : TcpSession) : (e : Event) → Decidable (FinsInOrder irs s e)
  | .input _ _ => inferInstanceAs (Decidable (_ → _))
  | .setRemoteAddr .. | .setListenerPort .. | .connect .. | .listen | .send .. | .recv ..
  | .readAll | .close | .expire .. | .expire2Msl => isTrue trivial

section Steps

variable {s₀ : TcpSession} {e : Event}

/-- The end of the stream leaves the receive buffer as it is. -/
theorem recvBuffer_closeOnEof (s : TcpSession) : s.closeOnEof.recvBuffer = s.recvBuffer := by
  by_cases heof : s.recvBuffer.isEmpty = true ∧ s.state = .closeWait
  · by_cases hauto : s.autoCloseOnEof = true
    · rw [closeOnEof_of_eof heof.1 heof.2 hauto, closeCloseWait_eq]
    · rw [closeOnEof, if_pos (by simp [heof]), if_neg hauto]
  · rw [closeOnEof, if_neg (by simpa using heof)]

/-- {lit}`send()` leaves the receive buffer as it is. -/
theorem recvBuffer_send (s : TcpSession) (data : List UInt8) :
    (s.send data).2.recvBuffer = s.recvBuffer := by
  rcases send_eq s data with ⟨-, hsame⟩ | ⟨buffer, -, hframe⟩
  · rw [hsame]
  · rw [hframe, handleTrySend_recvBuffer]

/-- {lit}`close()` leaves the receive buffer as it is. -/
theorem recvBuffer_close (s : TcpSession) : s.close.recvBuffer = s.recvBuffer := by
  rw [close]
  split
  · rw [closeEstablished_eq, handleTrySend_recvBuffer]
  · rw [closeCloseWait_eq]
  · rw [abortOpening_eq]
  · rw [abortOpening_eq]
  all_goals rfl

/-- Reading hands over the oldest bytes, and no other event of the session's own side touches
the received bytes. -/
theorem readBy_append (hlocal : ∀ packet i, e ≠ .input packet i) (hstep : step a e = some b) :
    a.readBy e ++ b.recvBuffer.toList = a.recvBuffer.toList := by
  have hread : ∀ n, n ≤ a.recvBuffer.size → (readLoop n a.recvBuffer).1 ++
      (readLoop n a.recvBuffer).2.toList = a.recvBuffer.toList := by
    intro n hn
    rw [(readLoop_eq hn).1, (readLoop_eq hn).2, List.take_append_drop]
  cases e with
  | input packet i => exact absurd rfl (hlocal packet i)
  | recv bufSize =>
      cases hstep
      rw [readBy, recv, recvBuffer_closeOnEof]
      apply hread
      split
      · exact Nat.min_le_right _ _
      · exact Nat.zero_le _
  | readAll =>
      cases hstep
      rw [readBy, readAll, recvBuffer_closeOnEof]
      exact hread _ le_rfl
  | send data => cases hstep; rw [recvBuffer_send]; rfl
  | close => cases hstep; rw [recvBuffer_close]; rfl
  | connect i => cases hstep; rw [connect_eq]; rfl
  | listen =>
      cases hstep
      rw [listen]
      split <;> rfl
  | expire k =>
      rcases expire_eq_some_iff.mp hstep with ⟨t, -, rfl⟩
      by_cases hlimit : t.callback.retransmitCount + 1 ≥ maxRetransmitCount
      · rw [runClosure_of_limit _ hlimit]
        rfl
      · rw [runClosure_of_lt _ hlimit]
        rfl
  | expire2Msl =>
      rw [step] at hstep
      split at hstep
      · cases hstep
        rfl
      · contradiction
  | _ => cases hstep; rfl

/-- A move of the session's own side. -/
theorem Move.receiver (h : Receiver ordered irs wire received a)
    (hlocal : ∀ packet i, e ≠ .input packet i) (hexpire : ∀ k, e ≠ .expire k)
    (hconnect : ∀ i, e = .connect i → s₀.sent = []) (hlisten : e ≠ .listen)
    (hmove : Move s₀ e a b) : Receiver ordered irs wire received b := by
  have hgrows := hmove.grows hexpire
  have hsame : ∀ t : TcpSession, Grows a t → t.recvWindow = a.recvWindow → t.state = a.state →
      t.sent = a.sent → Receiver ordered irs wire received t := by
    intro t ht hwindow hstate hsent
    exact h.quiet ht (resumes_of_eq (by rw [hwindow]) hstate) hsent
  cases hmove with
  | connect i =>
      rw [connect_eq] at hgrows ⊢
      refine h.reply hgrows ⟨rfl, fun _ => Or.inl (hconnect i rfl), ?_, ?_⟩ rfl fun hflag => ?_
      · simp
      · simp [Synchronized]
      · contradiction
  | listen hstate => exact absurd rfl hlisten
  | trySend s => exact h.trySend
  | closeEstablished hstate =>
      rw [closeEstablished_eq] at hgrows ⊢
      refine h.reply hgrows (resumes_of_synchronized rfl ?_ ?_ ?_) rfl fun hflag => ?_
      · simp [Synchronized, hstate]
      · constructor <;> simp
      · simp
      · contradiction
  | closeCloseWait s hstate =>
      have hsync : a.Synchronized := by simp [Synchronized, hstate]
      rw [closeCloseWait_eq] at hgrows ⊢
      refine h.reply hgrows (resumes_of_synchronized rfl hsync ?_ ?_) rfl fun _ => hsync
      · constructor <;> simp
      · simp
  | abortOpening hstate =>
      rw [abortOpening_eq] at hgrows ⊢
      refine h.reply hgrows (resumes_of_closed rfl rfl) rfl fun hflag => ?_
      contradiction
  | expire hactive => exact absurd rfl (hexpire _)
  | expire2Msl hactive => exact h.quiet hgrows (resumes_of_closed rfl rfl) rfl
  | _ =>
      -- the other moves belong to a packet, or send nothing and keep the state
      first
      | exact absurd rfl (hlocal _ _)
      | exact hsame _ hgrows rfl rfl rfl

/-- An expiry acknowledges the expected number again. -/
theorem Receiver.expire {k : UInt32} (h : Receiver ordered irs wire received a)
    (hkeyed : a.Keyed) (hstep : a.expire k = some b) :
    Receiver ordered irs wire received b := by
  rcases expire_frame hstep with ⟨hstate, -, -, hwindow⟩
  have hsent : a.sent <+: b.sent := sent_prefix_step (e := .expire k) hstep
  constructor
  · exact h.stream
  · intro hfresh
    rw [hstate] at hfresh
    rcases hfresh with hnil | hopening
    · exact h.fresh (Or.inl (List.prefix_nil.mp (hnil ▸ hsent)))
    · exact h.fresh (Or.inr hopening)
  · rw [hstate, hwindow]
    exact h.next
  · rw [Synchronized, hstate, hwindow]
    exact h.known
  · rw [hwindow]
    apply packets_expire h.acks hkeyed hstep
    intro packet hp hflag
    rw [refreshPacket_has] at hflag
    rw [refreshPacket_ack]
    exact ⟨(hp hflag).2, (hp hflag).2⟩

/-- The events of the session's own side. -/
theorem receiver_local {own : UInt8} {iss : UInt32} (h : Receiver ordered irs wire received a)
    (hkeyed : a.Keyed) (hopens : OpensAs own iss a e) (hlocal : ∀ packet i, e ≠ .input packet i)
    (hstep : step a e = some b) : Receiver ordered irs wire received b := by
  by_cases hexpire : ∃ k, e = .expire k
  · rcases hexpire with ⟨k, rfl⟩
    exact h.expire hkeyed hstep
  rw [not_exists] at hexpire
  apply (step_moves hstep).preserves _ h
  intro s t hs hmove
  apply hmove.receiver hs hlocal hexpire
  · rintro i rfl
    exact hopens.2.2
  · rintro rfl
    exact hopens

/-- A step adds to the received bytes what follows them in the stream of the peer, or nothing. -/
theorem receiver_step {own flags : UInt8} {iss : UInt32}
    (h : Receiver ordered irs wire received a) (hstored : NothingStored a) (hkeyed : a.Keyed)
    (hopens : OpensAs own iss a e)
    (hpacket : ∀ packet i, e = .input packet i → OnWire flags irs wire packet)
    (hflags : flags &&& flagFin = 0) (hshort : Unrepeated wire)
    (hinOrder : ordered → a.FinsInOrder irs e) (hstep : step a e = some b) :
    ∃ new, a.readBy e ++ b.recvBuffer.toList = a.recvBuffer.toList ++ new ∧
      Receiver ordered irs wire (received ++ new) b := by
  by_cases hlocal : ∀ packet i, e ≠ .input packet i
  · refine ⟨[], ?_, ?_⟩
    · rw [readBy_append hlocal hstep, List.append_nil]
    · rw [List.append_nil]
      exact receiver_local h hkeyed hopens hlocal hstep
  · push Not at hlocal
    rcases hlocal with ⟨packet, i, rfl⟩
    have hsame : b = a → ∃ new, [] ++ b.recvBuffer.toList = a.recvBuffer.toList ++ new ∧
        Receiver ordered irs wire (received ++ new) b := by
      rintro rfl
      exact ⟨[], by simp, by rwa [List.append_nil]⟩
    rcases input_cases hstep with ⟨-, -, hb⟩ | ⟨-, hb⟩ | ⟨-, hrst, rfl⟩ | ⟨hadmitted, hdispatch⟩
    · exact hsame hb
    · exact hsame hb
    · refine ⟨[], by rw [List.append_nil]; rfl, ?_⟩
      rw [List.append_nil]
      have hmove : Move a (.input packet 0) a a.handleReset := .reset hrst
      exact h.quiet (hmove.grows fun _ => Event.noConfusion) (resumes_of_closed rfl rfl) rfl
    · exact receiver_dispatch h hstored hadmitted (hpacket packet i rfl) hflags hshort hopens.2
        (fun hordered => hinOrder hordered hadmitted) hdispatch

end Steps

end Receiver

end TcpSession

end MyuTcp
