import MyuTcp.Core.OneConnection

/-!
# Segments and send attempts

What the send attempts of a step put on the wire and into the in-flight map, for a session with
one connection.  A step makes two attempts at most, and the second one never sends.

Main results:

- Theorem {lit}`newSegments_step`: the new segments of a step are those of its attempts.
- Theorem {lit}`find?_step`: what a step adds to the in-flight map it has sent.
- Theorems {lit}`attempts_of_established` and {lit}`attempts_of_establishes`: the attempts of a step
  that ends in ESTABLISHED.
- Theorem {lit}`TransmitsData.establishes`: where a step that sends data ends.
-/

namespace MyuTcp

open Library

namespace TcpSession

/-- The packets with payload among those sent between two sessions. -/
def newSegments (s s' : TcpSession) : List MyuTcpPacket :=
  ((newDatagrams s s').filter fun d => !d.packet.payload.isEmpty).map Datagram.packet

/-- The event makes an established session leave ESTABLISHED. -/
def LeavesEstablished (s : TcpSession) : Event → Prop
  | .close => s.state = .established
  | .input packet _ => Admitted packet ∧ s.state = .established ∧ packet.has flagFin = true
  | _ => False

instance (s : TcpSession) : (e : Event) → Decidable (s.LeavesEstablished e)
  | .close => inferInstanceAs (Decidable (_ = _))
  | .input _ _ => inferInstanceAs (Decidable (_ ∧ _))
  | .setRemoteAddr .. | .setListenerPort .. | .connect .. | .listen | .send .. | .recv ..
  | .readAll | .expire .. | .expire2Msl => isFalse id

/-- A send attempt of the step puts data on the wire. -/
def TransmitsData (s : TcpSession) (e : Event) : Prop := ∃ c ∈ trySendCalls s e, c.Transmits

instance (s : TcpSession) (e : Event) : Decidable (s.TransmitsData e) :=
  inferInstanceAs (Decidable (∃ c ∈ trySendCalls s e, c.Transmits))

/-! ## The segments of a step -/

section Segments

variable {s s' a b c : TcpSession} {e : Event}

/-- The segments of two steps in a row. -/
theorem newSegments_trans (hab : a.sent <+: b.sent) (hbc : b.sent <+: c.sent) :
    newSegments a c = newSegments a b ++ newSegments b c := by
  simp [newSegments, newDatagrams_trans hab hbc]

/-- The packet that a transmitting attempt sends. -/
def nextSegment (s : TcpSession) : MyuTcpPacket :=
  (s.datagram flagAck s.recvWindow.recvNext s.nextPayload).packet

/-- The next segment starts at {lit}`send_next_`. -/
theorem nextSegment_seq (s : TcpSession) : s.nextSegment.seq = s.sendWindow.sendNext :=
  datagram_seq ..

/-- {lit}`_handle_try_send` sends one segment or none. -/
theorem newSegments_handleTrySend (s : TcpSession) :
    newSegments s s.handleTrySend = if s.Transmits then [s.nextSegment] else [] := by
  rw [newSegments, newDatagrams_handleTrySend]
  split <;> rename_i htransmits
  · have hne := s.nextPayload_ne_nil htransmits
    rw [List.filter_cons_of_pos (by simpa using hne), List.filter_nil]
    rfl
  · rfl

/-- An attempt sends all that it may, so that another one sends nothing. -/
theorem not_transmits_handleTrySend (s : TcpSession) : ¬ s.handleTrySend.Transmits := by
  by_cases htransmits : s.Transmits
  · rintro ⟨-, hwindow, hsize⟩
    have hinflight := s.toNat_inflight_handleTrySend htransmits
    have hlength := s.length_nextPayload
    rw [handleTrySend_sendBuffer] at hsize
    rw [handleTrySend_sendWindowSize, Ne, ← UInt32.toNat_inj, hinflight] at hwindow
    have hbelow := htransmits.2.2
    have hallowance := UInt32.toNat_sub s.sendWindow.sendWindowSize s.inflight
    have hlt := s.sendWindow.sendWindowSize.toNat_lt
    have hlt' := s.inflight.toNat_lt
    have hbound := s.sendBuffer.size_le
    omega
  · rwa [s.handleTrySend_of_not htransmits]

/-- A second call in a row sends nothing. -/
theorem handleTrySend_handleTrySend (s : TcpSession) :
    s.handleTrySend.handleTrySend = s.handleTrySend :=
  s.handleTrySend.handleTrySend_of_not s.not_transmits_handleTrySend

/-- The segments of a step are those of its send attempts. -/
theorem newSegments_step (h : Once s) (hexpire : ∀ k, e ≠ .expire k)
    (hstep : step s e = some s') :
    newSegments s s' = (trySendCalls s e).flatMap fun c => newSegments c c.handleTrySend := by
  have hdata := payloadSent_step hexpire h.not_countsThirdDuplicate hstep
  rw [payloadSent, sent_eq_append (sent_prefix_step hstep), List.filter_append, payloadSent,
    List.append_cancel_left_eq] at hdata
  rw [newSegments, hdata, List.map_flatMap]
  congr 1
  funext c
  rw [newSegments_handleTrySend, newDatagrams_handleTrySend]
  split <;> rfl

/-- A move of such a session leaves the map as it is, erases what is acknowledged, or tries to
send. -/
theorem Move.inflightPackets {s₀ : TcpSession} (h : Once s₀) (hmove : Move s₀ e a b) :
    b.inflightPackets = a.inflightPackets ∨
      (∃ n, b.inflightPackets = a.inflightPackets.dropBelow n) ∨ b = a.handleTrySend := by
  cases hmove with
  | trySend s => exact Or.inr (Or.inr rfl)
  | @ack packet iss haccepts =>
      rw [processAck_of_not _ (h.not_thirdDuplicate packet).2]
      exact Or.inr (Or.inl ⟨packet.ack, rfl⟩)
  | connect iss => rw [connect_eq]; exact Or.inl rfl
  | closeEstablished hstate => rw [closeEstablished_eq]; exact Or.inl rfl
  | closeCloseWait s hstate => rw [closeCloseWait_eq]; exact Or.inl rfl
  | abortOpening hstate => rw [abortOpening_eq]; exact Or.inl rfl
  | passiveOpen hstate hsyn => rw [handleListen_eq _ hsyn]; exact Or.inl rfl
  | synAck hstate hsyn hflag hack => rw [acceptSynAck_eq]; exact Or.inl rfl
  | peerSyn hstate hsyn hflag => rw [acceptPeerSyn_eq]; exact Or.inl rfl
  | @inOrder packet iss s drained hstate hseq hdrain =>
      rcases a.reassemble_acceptPayload_frame packet.payload drained with ⟨m, q, n, hframe⟩
      rw [hframe]
      exact Or.inl rfl
  | @outOfOrder packet iss s hstate hseq =>
      rcases a.storeOutOfOrder_frame packet.seq packet.payload with ⟨m, hframe⟩
      rw [hframe]
      exact Or.inl rfl
  | finishCloseWait s hstate =>
      by_cases hdrained : a.Drained
      · rw [finishCloseWait_of_drained _ hdrained]
        exact Or.inl rfl
      · rw [finishCloseWait_of_not _ hdrained]
        exact Or.inl rfl
  | @expire k t hactive =>
      by_cases hlimit : t.callback.retransmitCount + 1 ≥ maxRetransmitCount
      · rw [runClosure_of_limit _ hlimit]
        exact Or.inl rfl
      · rw [runClosure_of_lt _ hlimit]
        exact Or.inl rfl
  | _ => exact Or.inl rfl

/-- What a step adds to the map it has sent. -/
theorem find?_step (h : Once s) (hstep : step s e = some s') {k : UInt32} {p : MyuTcpPacket}
    (hfind : s'.inflightPackets.find? k = some p) :
    s.inflightPackets.find? k = some p ∨ calculateChecksum p ∈ newSegments s s' := by
  have hmoves := (step_moves hstep).preserves
    (P := fun t => s.sent <+: t.sent ∧ ∀ k p, t.inflightPackets.find? k = some p →
      s.inflightPackets.find? k = some p ∨ calculateChecksum p ∈ newSegments s t) ?_
    ⟨List.prefix_rfl, fun _ _ => Or.inl⟩
  · exact hmoves.2 k p hfind
  rintro a b ⟨hlog, hstored⟩ hmove
  refine ⟨hlog.trans hmove.sent_prefix, ?_⟩
  intro k p hfind
  rw [newSegments_trans hlog hmove.sent_prefix, List.mem_append, ← or_assoc]
  rcases hmove.inflightPackets h with hmap | ⟨n, hmap⟩ | rfl
  · rw [hmap] at hfind
    exact Or.inl (hstored k p hfind)
  · rw [hmap, OrderedMap.find?_dropBelow] at hfind
    split at hfind
    · contradiction
    · exact Or.inl (hstored k p hfind)
  · by_cases htransmits : a.Transmits
    · rw [a.handleTrySend_of_transmits htransmits] at hfind
      dsimp only at hfind
      rw [OrderedMap.find?_tryEmplace] at hfind
      rw [newSegments_handleTrySend, if_pos htransmits, List.mem_singleton]
      split at hfind <;> rename_i hkey
      · cases hbefore : a.inflightPackets.find? (htonl a.sendWindow.sendNext) with
        | none =>
            rw [hbefore, Option.getD_none, Option.some.injEq] at hfind
            rw [← hfind]
            exact Or.inr rfl
        | some q =>
            rw [hbefore, Option.getD_some, Option.some.injEq] at hfind
            exact Or.inl (hstored k p (by rw [hkey, hbefore, hfind]))
      · exact Or.inl (hstored k p hfind)
    · rw [a.handleTrySend_of_not htransmits] at hfind
      exact Or.inl (hstored k p hfind)

/-- A segment takes a number at least. -/
theorem length_newWire_pos {q : MyuTcpPacket} (hq : q ∈ newSegments s s') :
    0 < (newWire s s').length := by
  rcases List.mem_map.mp hq with ⟨d, hd, -⟩
  rcases List.mem_filter.mp hd with ⟨hnew, hpayload⟩
  rw [List.length_pos_iff, newWire, Ne, List.flatMap_eq_nil_iff]
  intro hnone
  have hcarried := hnone d hnew
  rw [MyuTcpPacket.carried] at hcarried
  split at hcarried
  · contradiction
  · simp [List.map_eq_nil_iff.mp hcarried] at hpayload

end Segments

/-! ## Steps that end established -/

section Attempts

variable {s s' m : TcpSession} {e : Event} {packet : MyuTcpPacket}

/-- The session before its first send attempt: the map and the acknowledged number are those of
the established session, or the step has acknowledged some more, or it has established the
session. -/
inductive Prepares (s m : TcpSession) : Prop
  | kept (hstate : s.state = .established)
      (hunack : m.sendWindow.sendUnack = s.sendWindow.sendUnack)
      (hmap : m.inflightPackets = s.inflightPackets)
  | acked (hstate : s.state = .established) (hlow : s.sendWindow.sendUnack < m.sendWindow.sendUnack)
      (hhigh : m.sendWindow.sendUnack ≤ s.sendWindow.sendNext)
      (hmap : m.inflightPackets = s.inflightPackets.dropBelow m.sendWindow.sendUnack)
  | opened (hstate : s.state = .synSent ∨ s.state = .synReceived)
      (hunack : m.sendWindow.sendUnack = s.sendWindow.sendUnack + 1)
      (hmap : m.inflightPackets = s.inflightPackets)

/-- The in-flight map and the acknowledged number are the same. -/
def SameFlight (a b : TcpSession) : Prop :=
  b.inflightPackets = a.inflightPackets ∧ b.sendWindow.sendUnack = a.sendWindow.sendUnack

/-- The send attempts of a step, of which the first one may send. -/
inductive Attempts (s : TcpSession) (e : Event) (s' m : TcpSession) : Prop
  | silent (hcalls : trySendCalls s e = []) (hsame : SameFlight m s')
  | tries (hcalls : trySendCalls s e = [m] ∨ trySendCalls s e = [m, m.handleTrySend])
      (hsame : SameFlight m.handleTrySend s')

/-- The end of the stream leaves an established session's flight as it is. -/
theorem sameFlight_closeOnEof {buffer : RingQueue UInt8 1024} (hstate : s.state = .established) :
    SameFlight s { s with recvBuffer := buffer }.closeOnEof := by
  rw [closeOnEof_of_ne (by simp [hstate])]
  exact ⟨rfl, rfl⟩

/-- A send call makes one attempt, if it stores bytes. -/
theorem trySendCalls_send (s : TcpSession) (data : List UInt8) :
    (trySendCalls s (.send data) = [] ∧ (s.send data).2 = s) ∨
      ∃ buffer, trySendCalls s (.send data) = [{ s with sendBuffer := buffer }] ∧
        (s.send data).2 = { s with sendBuffer := buffer }.handleTrySend := by
  rw [trySendCalls, send]
  split
  · exact Or.inl ⟨rfl, rfl⟩
  · dsimp only
    cases hpush : s.sendBuffer.pushBatch
        (data.take (min data.length (s.sendBuffer.capacity - s.sendBuffer.size))) with
    | none => exact Or.inl ⟨rfl, rfl⟩
    | some buffer => exact Or.inr ⟨buffer, rfl, rfl⟩

/-- The calls that an admitted packet makes. -/
theorem trySendCalls_input {packet : MyuTcpPacket} (hadmitted : Admitted packet) (iss : UInt32) :
    trySendCalls s (.input packet iss) = (s.observe packet).dispatchCalls packet := by
  simp [trySendCalls, hadmitted.1, hadmitted.2.1, hadmitted.2.2]

/-- A packet that is not admitted makes none. -/
theorem trySendCalls_of_not_admitted {packet : MyuTcpPacket} (hadmitted : ¬ Admitted packet)
    (iss : UInt32) : trySendCalls s (.input packet iss) = [] := by
  rw [trySendCalls]
  split <;> rename_i hverify
  · rfl
  · split <;> rename_i hrst
    · rfl
    · split <;> rename_i hlacks
      · rfl
      · exact absurd ⟨by simpa using hverify, by simpa using hrst, by simpa using hlacks⟩ hadmitted

/-- The attempts of a step that establishes the session. -/
theorem attempts_of_establishes (hbefore : s.state ≠ .established)
    (hafter : s'.state = .established) (hstep : step s e = some s') :
    ∃ m, Prepares s m ∧ m.sendWindow.sendNext = s.sendWindow.sendNext ∧ Attempts s e s' m := by
  rcases (establishes_iff hstep).mp ⟨hbefore, hafter⟩ with ⟨m, hm, rfl⟩
  rcases establishment_cases hm with
    ⟨packet, iss, rfl, hadmitted, hflag, hack, ⟨hstate, hsyn, rfl⟩ | ⟨hstate, rfl⟩⟩
  · have hobserve : (s.observe packet).state = .synSent := hstate
    have hunack : (s.observe packet).sendWindow.sendUnack = s.sendWindow.sendUnack := rfl
    have hcalls : trySendCalls s (.input packet iss) =
        [(s.observe packet).acceptSynAck packet] := by
      rw [trySendCalls_input hadmitted]
      simp [dispatchCalls, hobserve, hsyn, hflag, hack, hunack]
    refine ⟨(s.observe packet).acceptSynAck packet, .opened (Or.inl hstate) ?_ ?_, ?_,
      .tries (Or.inl hcalls) ⟨rfl, rfl⟩⟩
    all_goals rw [acceptSynAck_eq]
    · exact hack
    · rfl
    · rfl
  · have hobserve : (s.observe packet).state = .synReceived := hstate
    have hunack : (s.observe packet).sendWindow.sendUnack = s.sendWindow.sendUnack := rfl
    have hcalls : trySendCalls s (.input packet iss) =
        [(s.observe packet).acceptSynReceivedAck packet] := by
      rw [trySendCalls_input hadmitted]
      simp [dispatchCalls, hobserve, hflag, hack, hunack]
    exact ⟨(s.observe packet).acceptSynReceivedAck packet, .opened (Or.inr hstate) hack rfl, rfl,
      .tries (Or.inl hcalls) ⟨rfl, rfl⟩⟩

/-- The attempts of the acknowledgment part. -/
theorem attempts_handleEstablishedAck {packet : MyuTcpPacket} (h : Once s)
    (hadmitted : Admitted packet) (hstate : s.state = .established) (iss : UInt32)
    (hsame : SameFlight ((s.observe packet).handleEstablishedAck packet) s') :
    ∃ m, Prepares s m ∧ m.sendWindow.sendNext = s.sendWindow.sendNext ∧
      Attempts s (.input packet iss) s' m := by
  have hobserve : (s.observe packet).state = .established := hstate
  by_cases hflag : packet.has flagAck = true
  · rw [handleEstablishedAck, if_pos hflag, handleAck] at hsame
    by_cases haccepts : (s.observe packet).acceptsAck packet.ack = true
    · have hcalls : trySendCalls s (.input packet iss) =
          [(s.observe packet).processAck packet.ack,
            ((s.observe packet).processAck packet.ack).handleTrySend] := by
        rw [trySendCalls_input hadmitted]
        simp [dispatchCalls, hobserve, hflag, haccepts]
      rw [if_pos haccepts, handleTrySend_handleTrySend] at hsame
      rw [acceptsAck, Bool.and_eq_true, decide_eq_true_eq, decide_eq_true_eq] at haccepts
      refine ⟨(s.observe packet).processAck packet.ack, ?_, ?_, .tries (Or.inr hcalls) hsame⟩
      all_goals rw [processAck_of_not _ (h.not_thirdDuplicate packet).2]
      · exact .acked hstate haccepts.1 haccepts.2 rfl
      · rfl
    · have hcalls : trySendCalls s (.input packet iss) = [s.observe packet] := by
        rw [trySendCalls_input hadmitted]
        simp [dispatchCalls, hobserve, hflag, haccepts]
      rw [if_neg haccepts] at hsame
      exact ⟨s.observe packet, .kept hstate rfl rfl, rfl, .tries (Or.inl hcalls) hsame⟩
  · have hcalls : trySendCalls s (.input packet iss) = [] := by
      rw [trySendCalls_input hadmitted]
      simp [dispatchCalls, hobserve, hflag]
    rw [handleEstablishedAck, if_neg hflag] at hsame
    exact ⟨s, .kept hstate rfl rfl, rfl, .silent hcalls hsame⟩

/-- What follows the acknowledgment part neither sends data nor acknowledges. -/
theorem sameFlight_established {packet : MyuTcpPacket} {iss : UInt32} (hstored : NothingStored s)
    (hadmitted : Admitted packet) (hstate : s.state = .established)
    (hstep : s.input packet iss = some s') :
    SameFlight ((s.observe packet).handleEstablishedAck packet) s' := by
  have hkept := (keepsReceiving_ack s packet).nothingStored hstored
  rcases hkept.payload_frame packet with ⟨q, n, l, c, hpayload⟩
  rw [input_established hadmitted hstate, hpayload, Option.map_some, Option.some.injEq] at hstep
  rcases handleEstablishedFin_frame packet
    { (s.observe packet).handleEstablishedAck packet with
      recvBuffer := q, recvWindow.recvNext := n
      sent := ((s.observe packet).handleEstablishedAck packet).sent ++ l
      calls := c } with ⟨st, n', l', c', hfin⟩
  rw [hfin] at hstep
  rw [← hstep]
  exact ⟨rfl, rfl⟩

/-- The attempts of a step of an established session that stays established. -/
theorem attempts_of_established (h : Once s) (hstored : NothingStored s)
    (hstate : s.state = .established) (hafter : s'.state = .established)
    (hexpire : ∀ k, e ≠ .expire k) (hstep : step s e = some s') :
    ∃ m, Prepares s m ∧ m.sendWindow.sendNext = s.sendWindow.sendNext ∧ Attempts s e s' m := by
  have hquiet : trySendCalls s e = [] → SameFlight s s' →
      ∃ m, Prepares s m ∧ m.sendWindow.sendNext = s.sendWindow.sendNext ∧ Attempts s e s' m :=
    fun hcalls hsame => ⟨s, .kept hstate rfl rfl, rfl, .silent hcalls hsame⟩
  cases e with
  | setRemoteAddr ip port =>
      cases hstep
      exact hquiet rfl ⟨rfl, rfl⟩
  | setListenerPort port =>
      cases hstep
      exact hquiet rfl ⟨rfl, rfl⟩
  | connect iss =>
      cases hstep
      rw [connect_eq] at hafter
      contradiction
  | listen =>
      cases hstep
      rw [listen, if_pos (by simp [hstate])] at hquiet ⊢
      exact hquiet rfl ⟨rfl, rfl⟩
  | send data =>
      cases hstep
      rcases trySendCalls_send s data with ⟨hcalls, hsame⟩ | ⟨buffer, hcalls, hsame⟩
      · rw [hsame] at hquiet ⊢
        exact hquiet hcalls ⟨rfl, rfl⟩
      · rw [hsame]
        exact ⟨{ s with sendBuffer := buffer }, .kept hstate rfl rfl, rfl,
          .tries (Or.inl hcalls) ⟨rfl, rfl⟩⟩
  | recv bufSize =>
      cases hstep
      exact hquiet rfl (sameFlight_closeOnEof hstate)
  | readAll =>
      cases hstep
      exact hquiet rfl (sameFlight_closeOnEof hstate)
  | close =>
      cases hstep
      rw [close, hstate] at hafter
      dsimp only at hafter
      rw [closeEstablished_eq] at hafter
      contradiction
  | input packet iss =>
      by_cases hadmitted : Admitted packet
      · exact attempts_handleEstablishedAck h hadmitted hstate iss
          (sameFlight_established hstored hadmitted hstate hstep)
      · have hcalls := trySendCalls_of_not_admitted (s := s) hadmitted iss
        rcases input_cases hstep with ⟨-, -, rfl⟩ | ⟨-, rfl⟩ | ⟨-, -, rfl⟩ | ⟨hadmitted', -⟩
        · exact hquiet hcalls ⟨rfl, rfl⟩
        · exact hquiet hcalls ⟨rfl, rfl⟩
        · contradiction
        · exact absurd hadmitted' hadmitted
  | expire k => exact absurd rfl (hexpire k)
  | expire2Msl =>
      rw [step] at hstep
      split at hstep
      · cases hstep
        contradiction
      · contradiction

/-- An established session takes every packet, and stays established without a FIN. -/
theorem step_input_established {packet : MyuTcpPacket} (hstored : NothingStored s)
    (hadmitted : Admitted packet) (hstate : s.state = .established)
    (hfin : packet.has flagFin = false) (iss : UInt32) :
    ∃ s', step s (.input packet iss) = some s' ∧ s'.state = .established := by
  have hack := keepsReceiving_ack s packet
  have htakes : ∃ b, ((s.observe packet).handleEstablishedAck packet).handleEstablishedPayload
      packet = some b := by
    rcases (hack.nothingStored hstored).payload_frame packet with ⟨q, n, l, c, hpayload⟩
    exact ⟨_, hpayload⟩
  rcases htakes with ⟨b, hb⟩
  refine ⟨handleEstablishedFin packet b, ?_, ?_⟩
  · rw [step, input_established hadmitted hstate, hb, Option.map_some]
  · rw [handleEstablishedFin, if_neg (by simp [hfin])]
    exact (handleEstablishedPayload_state hb).1.trans (hack.state.trans hstate)

/-- A step that sends data is taken.  It ends in ESTABLISHED, unless the session is in CLOSE_WAIT
or leaves ESTABLISHED. -/
theorem TransmitsData.establishes (h : s.TransmitsData e) (hstored : NothingStored s)
    (hcloseWait : s.state ≠ .closeWait) (hleaves : ¬ s.LeavesEstablished e) :
    ∃ s', step s e = some s' ∧ s'.state = .established := by
  rcases h with ⟨c, hc, htransmits⟩
  cases e with
  | send data =>
      refine ⟨(s.send data).2, rfl, ?_⟩
      rcases trySendCalls_send s data with ⟨hcalls, -⟩ | ⟨buffer, hcalls, -⟩
      · rw [hcalls] at hc
        contradiction
      · rw [hcalls, List.mem_singleton] at hc
        subst hc
        rw [send_state]
        exact htransmits.1.resolve_right hcloseWait
  | close =>
      rw [trySendCalls] at hc
      split at hc <;> rename_i hstate
      · exact absurd hstate hleaves
      · contradiction
  | input packet iss =>
      by_cases hadmitted : Admitted packet
      · have hobserve : (s.observe packet).state = s.state := rfl
        rw [trySendCalls_input hadmitted, dispatchCalls, hobserve] at hc
        split at hc <;> rename_i hstate
        · split at hc <;> rename_i hflags
          · split at hc <;> rename_i hack
            · contradiction
            · rw [Bool.and_eq_true] at hflags
              have hm : s.establishment (.input packet iss) = _ :=
                establishment_of_synAck hadmitted hstate hflags.1 hflags.2 (not_not.mp hack)
              rcases step_of_establishment hm with ⟨hstep, hafter, -⟩
              exact ⟨_, hstep, by rw [handleTrySend_state, hafter]⟩
          · contradiction
        · split at hc <;> rename_i hflag
          · contradiction
          · split at hc <;> rename_i hack
            · contradiction
            · have hm : s.establishment (.input packet iss) = _ :=
                establishment_of_synReceivedAck hadmitted hstate (by simpa using hflag)
                  (not_not.mp hack)
              rcases step_of_establishment hm with ⟨hstep, hafter, -⟩
              exact ⟨_, hstep, by rw [handleTrySend_state, hafter]⟩
        · have hfin : packet.has flagFin = false := by
            rw [← Bool.not_eq_true]
            exact fun hfin => hleaves ⟨hadmitted, hstate, hfin⟩
          exact step_input_established hstored hadmitted hstate hfin iss
        · exact absurd hstate hcloseWait
        · contradiction
      · rw [trySendCalls_of_not_admitted hadmitted] at hc
        contradiction
  | _ => contradiction

/-- A session that is established after the step was not in CLOSE_WAIT and has not left
ESTABLISHED. -/
theorem not_leaves_of_established (hstep : step s e = some s') (hafter : s'.state = .established) :
    s.state ≠ .closeWait ∧ ¬ s.LeavesEstablished e := by
  constructor
  · intro hstate
    rcases (establishes_iff hstep).mp ⟨by simp [hstate], hafter⟩ with ⟨m, hm, -⟩
    rw [Past.establishment ⟨by simp [hstate], by simp [hstate], by simp [hstate]⟩] at hm
    contradiction
  · intro hleaves
    cases e with
    | close =>
        have hstate : s.state = .established := hleaves
        cases hstep
        rw [close, hstate] at hafter
        dsimp only at hafter
        rw [closeEstablished_eq] at hafter
        contradiction
    | input packet iss =>
        rcases hleaves with ⟨hadmitted, hstate, hfin⟩
        rw [step, input_established hadmitted hstate] at hstep
        rcases Option.map_eq_some_iff.mp hstep with ⟨b, -, rfl⟩
        rw [handleEstablishedFin, if_pos hfin] at hafter
        contradiction
    | _ => exact hleaves

/-- The segments of a step are those of its first attempt. -/
theorem Attempts.segments (h : Attempts s e s' m) (hone : Once s)
    (hexpire : ∀ k, e ≠ .expire k) (hstep : step s e = some s') :
    (¬ s.TransmitsData e ∧ newSegments s s' = [] ∧ SameFlight m s') ∨
      (m.Transmits ∧ s.TransmitsData e ∧ newSegments s s' = [m.nextSegment] ∧
        SameFlight m.handleTrySend s') := by
  rw [newSegments_step hone hexpire hstep, TransmitsData]
  cases h with
  | silent hcalls hsame => exact Or.inl (by simp [hcalls, hsame])
  | tries hcalls hsame =>
      have hsecond := m.not_transmits_handleTrySend
      by_cases htransmits : m.Transmits
      · refine Or.inr ⟨htransmits, ?_, ?_, hsame⟩
        · rcases hcalls with hcalls | hcalls <;> simp [hcalls, htransmits]
        · rcases hcalls with hcalls | hcalls <;>
            simp [hcalls, newSegments_handleTrySend, htransmits, hsecond]
      · rw [m.handleTrySend_of_not htransmits] at hcalls hsame
        refine Or.inl ⟨?_, ?_, hsame⟩
        · rcases hcalls with hcalls | hcalls <;> simp [hcalls, htransmits]
        · rcases hcalls with hcalls | hcalls <;>
            simp [hcalls, newSegments_handleTrySend, htransmits]

end Attempts

/-! ## Steps that open -/

section Opening

variable {s s' : TcpSession} {e : Event}

/-- No connection is opened by a step that ends in ESTABLISHED. -/
theorem openingIss_of_established (h : Once s) (hok : s.OneConnection e)
    (hstep : step s e = some s') (hafter : s'.state = .established) : s.openingIss e = none := by
  cases hopens : s.openingIss e with
  | none => rfl
  | some iss =>
      have hbefore := (h.notEstablished (h.unsent_of_openingIss hok hopens)).not_open.1
      rcases (establishes_iff hstep).mp ⟨hbefore, hafter⟩ with ⟨m, hm, -⟩
      rcases establishment_cases hm with ⟨packet, i, rfl, -, -, -, ⟨hstate, -⟩ | ⟨hstate, -⟩⟩
      · simp [openingIss, hstate] at hopens
      · simp [openingIss, hstate] at hopens

/-- The opening step takes its number as the one that is not acknowledged. -/
theorem sendUnack_of_openingIss {iss : UInt32} (hopens : s.openingIss e = some iss)
    (hstep : step s e = some s') : s'.sendWindow.sendUnack = iss := by
  cases e with
  | connect i =>
      cases hstep
      rw [connect_eq]
      exact Option.some.inj hopens
  | input packet i =>
      rw [openingIss] at hopens
      split at hopens <;> rename_i hguard
      · rcases hguard with ⟨hstate, hadmitted, hsyn⟩
        rw [step, input_of_admitted hadmitted, dispatch,
          show (s.observe packet).state = .listen from hstate] at hstep
        cases hstep
        rw [handleListen_eq _ hsyn]
        exact Option.some.inj hopens
      · contradiction
  | _ => contradiction

/-- A session that waits for the answer to its SYN keeps waiting for the same number. -/
theorem sendUnack_of_opening (h : Once s) (hok : s.OneConnection e)
    (hopens : s.openingIss e = none) (hexpire : ∀ k, e ≠ .expire k)
    (hstep : step s e = some s') (hafter : s'.state = .synSent ∨ s'.state = .synReceived) :
    (s.state = .synSent ∨ s.state = .synReceived) ∧
      s'.sendWindow.sendUnack = s.sendWindow.sendUnack := by
  have hopening : s.NotEstablished := by
    by_cases hsent : s.sent = []
    · exact h.notEstablished hsent
    · by_contra hne
      have hpast : Past s := by
        constructor <;> intro hstate <;> exact hne (by simp [NotEstablished, hstate])
      have hpast' := past_of_sent hpast hsent hok hstep
      exact hafter.elim hpast'.synSent hpast'.synReceived
  cases opening_step hopening hstep with
  | quiet hstate hsend hrecv hsent htimers =>
      rw [hstate] at hafter
      exact ⟨hafter, by rw [hsend]⟩
  | listened hstate => simp [transitionTo] at hafter
  | connected iss => simp [openingIss] at hopens
  | aborted hstate =>
      rw [abortOpening_eq] at hafter
      simp at hafter
  | reset hrst => simp [handleReset, notify, transitionTo] at hafter
  | passiveOpen hadmitted hstate hsyn => simp [openingIss, hstate, hadmitted, hsyn] at hopens
  | synAck hadmitted hstate hsyn hflag hack =>
      rw [handleTrySend_state, acceptSynAck_eq] at hafter
      simp at hafter
  | peerSyn hadmitted hstate hsyn hflag =>
      rw [acceptPeerSyn_eq]
      exact ⟨Or.inl hstate, rfl⟩
  | synReceivedAck hadmitted hstate hflag hack =>
      rw [handleTrySend_state] at hafter
      simp [acceptSynReceivedAck, transitionTo, notify] at hafter
  | expired hexp => exact absurd rfl (hexpire _)
  | expired2Msl => simp [handle2MslTimeout, transitionTo, notify] at hafter

end Opening

end TcpSession

end MyuTcp
