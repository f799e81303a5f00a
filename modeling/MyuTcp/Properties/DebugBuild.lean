import MyuTcp.Core.Emissions
import MyuTcp.Core.StackSessions

/-!
# The log lines of a debug build

A build with {lit}`MYU_ENABLE_DEBUG` names the flags of every packet before its receive callback
does anything with it, and throws for flags that have no name.  The two builds agree on what
another stack of this program sends.  The reassembly loop logs behind an entry that it has erased;
no session of a stack gets there, since none ever stores a segment.

Main results:

- Theorem {lit}`shaped_step`: a session sends segments of six kinds, and data only with ACK.
- Theorem {lit}`debugBuild_agrees`: no packet of a stack makes the log line of another one throw.
-/

namespace MyuTcp

open Library

/-- {lit}`parse_flags_to_string`; it throws for flags without a name. -/
def parseFlagsToString (flags : UInt8) : Option String :=
  if flags = 0x01 then some "FLAG_FIN"
  else if flags = 0x02 then some "FLAG_SYN"
  else if flags = 0x04 then some "FLAG_RST"
  else if flags = 0x08 then some "FLAG_PSH"
  else if flags = 0x10 then some "FLAG_ACK"
  else if flags = 0x20 then some "FLAG_URG"
  else if flags = 0x40 then some "FLAG_ECE"
  else if flags = 0x80 then some "FLAG_CWR"
  else if flags = 0x11 then some "FLAG_FIN_ACK"
  else if flags = 0x12 then some "FLAG_SYN_ACK"
  else none

/-- The flags that the emission functions are called with. -/
def emittedFlags : List UInt8 :=
  [flagFin, flagSyn, flagRst, flagAck, flagSyn ||| flagAck, flagFin ||| flagAck]

/-- The flags that are emitted all have a name. -/
theorem isSome_parseFlagsToString {flags : UInt8} (h : flags ∈ emittedFlags) :
    (parseFlagsToString flags).isSome = true := by
  simp only [emittedFlags, List.mem_cons, List.not_mem_nil, or_false] at h
  rcases h with rfl | rfl | rfl | rfl | rfl | rfl <;> rfl

namespace TcpSession

/-- The packet has flags of an emission function, and only those of an acknowledgment with
data. -/
structure Shaped (packet : MyuTcpPacket) : Prop where
  flags : packet.header.flags ∈ emittedFlags
  data : packet.payload ≠ [] → packet.header.flags = flagAck

/-- All packets of the session have such a shape, and all in flight are acknowledgments. -/
structure WellShaped (s : TcpSession) : Prop where
  packets : AllPackets Shaped s
  keyed : s.Keyed
  inflight : ∀ k packet, s.inflightPackets.find? k = some packet → packet.header.flags = flagAck

section Shapes

variable {s s' a b : TcpSession} {e : Event}

/-- A control packet has its shape. -/
theorem shaped_control (t : TcpSession) {flags : UInt8} (ackNum : UInt32)
    (h : flags ∈ emittedFlags) : Shaped (t.datagram flags ackNum []).packet :=
  ⟨h, fun hpayload => absurd rfl hpayload⟩

/-- A packet with ACK may carry data. -/
theorem shaped_ack (t : TcpSession) (ackNum : UInt32) (payload : List UInt8) :
    Shaped (t.datagram flagAck ackNum payload).packet := by
  refine ⟨?_, fun _ => datagram_flags _ _ _ _⟩
  rw [datagram_flags]
  decide

/-- Nothing is sent, or one packet of such a shape. -/
def SendsShaped (a b : TcpSession) : Prop :=
  b.sent = a.sent ∨ ∃ d : Datagram, b.sent = a.sent ++ [d] ∧ Shaped d.packet

/-- A step that sends one control packet. -/
theorem sendsShaped_of_control (t : TcpSession) {flags : UInt8} (ackNum : UInt32)
    (h : flags ∈ emittedFlags) (hsent : b.sent = a.sent ++ [t.datagram flags ackNum []]) :
    SendsShaped a b :=
  Or.inr ⟨_, hsent, shaped_control t ackNum h⟩

/-- A step that sends one packet with ACK. -/
theorem sendsShaped_of_ack (t : TcpSession) (ackNum : UInt32) (payload : List UInt8)
    (hsent : b.sent = a.sent ++ [t.datagram flagAck ackNum payload]) : SendsShaped a b :=
  Or.inr ⟨_, hsent, shaped_ack t ackNum payload⟩

/-- Data packets have ACK. -/
theorem sendsShaped_handleTrySend (s : TcpSession) : SendsShaped s s.handleTrySend := by
  by_cases htransmits : s.Transmits
  · rw [s.handleTrySend_of_transmits htransmits]
    exact sendsShaped_of_ack s _ _ rfl
  · rw [s.handleTrySend_of_not htransmits]
    exact Or.inl rfl

/-- A fast retransmit sends a segment that is in flight with its own flags. -/
theorem sendsShaped_processAck
    (hinflight : ∀ k packet, s.inflightPackets.find? k = some packet →
      packet.header.flags = flagAck) (ackNum : UInt32) : SendsShaped s (s.processAck ackNum) := by
  by_cases hthird : s.ThirdDuplicate ackNum
  · obtain ⟨c, d, hframe⟩ := (s.releaseAcked ackNum).countDupAck_frame ackNum
    have heq : ((s.releaseAcked ackNum).countDupAck ackNum).dupAckCount = 3 := by
      rw [(s.countDupAck_releaseAcked ackNum).1]
      exact hthird
    rw [processAck, fastRetransmit, if_pos heq, hframe, onRecvThreeDupAck]
    dsimp only
    split
    · rename_i packet hfind
      have hflags : packet.header.flags = flagAck :=
        hinflight ackNum packet (find?_releaseAcked hfind)
      by_cases hnil : packet.payload = []
      · rw [sendPayloadPacket, if_pos (by simp [hnil])]
        exact Or.inl rfl
      · rw [sendPayloadPacket_eq _ hnil, hflags]
        exact sendsShaped_of_ack _ _ _ rfl
    · exact Or.inl rfl
  · rw [s.processAck_of_not hthird]
    exact Or.inl rfl

/-- Each move that is no expiry calls an emission function with its own flags. -/
theorem Move.sendsShaped {s₀ : TcpSession} (hexpire : ∀ k, e ≠ .expire k)
    (hinflight : ∀ k packet, a.inflightPackets.find? k = some packet →
      packet.header.flags = flagAck) (hmove : Move s₀ e a b) : SendsShaped a b := by
  cases hmove with
  | connect iss => rw [connect_eq]; exact sendsShaped_of_control _ _ (by decide) rfl
  | trySend s => exact sendsShaped_handleTrySend _
  | closeEstablished hstate =>
      rw [closeEstablished_eq]
      exact sendsShaped_of_control _ _ (by decide) rfl
  | closeCloseWait s hstate =>
      rw [closeCloseWait_eq]
      exact sendsShaped_of_control _ _ (by decide) rfl
  | abortOpening hstate => rw [abortOpening_eq]; exact sendsShaped_of_control _ _ (by decide) rfl
  | passiveOpen hstate hsyn =>
      rw [handleListen_eq _ hsyn]
      exact sendsShaped_of_control _ _ (by decide) rfl
  | synAck hstate hsyn hflag hack => rw [acceptSynAck_eq]; exact sendsShaped_of_ack _ _ _ rfl
  | peerSyn hstate hsyn hflag =>
      rw [acceptPeerSyn_eq]
      exact sendsShaped_of_control _ _ (by decide) rfl
  | ack haccepts => exact sendsShaped_processAck hinflight _
  | pureAck s hstate => exact sendsShaped_of_ack _ _ _ rfl
  | inOrder s hstate hseq hdrain =>
      apply Or.inl
      rw [reassemble, acceptPayload]
      split <;> rfl
  | outOfOrder s hstate hseq =>
      apply Or.inl
      rw [storeOutOfOrder]
      split <;> rfl
  | fin s hfin hnext horder => exact sendsShaped_of_ack _ _ _ rfl
  | finishCloseWait s hstate =>
      by_cases hdrained : a.Drained
      · rw [finishCloseWait_of_drained _ hdrained]
        exact sendsShaped_of_control _ _ (by decide) rfl
      · rw [finishCloseWait_of_not _ hdrained]
        exact Or.inl rfl
  | expire hactive => exact absurd rfl (hexpire _)
  | _ => exact Or.inl rfl

/-- What is in flight has ACK. -/
theorem Move.inflightFlags {s₀ : TcpSession}
    (hinflight : ∀ k packet, a.inflightPackets.find? k = some packet →
      packet.header.flags = flagAck) (hmove : Move s₀ e a b) (k : UInt32) (packet : MyuTcpPacket)
    (hfind : b.inflightPackets.find? k = some packet) : packet.header.flags = flagAck := by
  cases hmove.stores hfind with
  | kept hfind' hpayload hflags => exact hflags.trans (hinflight _ _ hfind')
  | transmitted htransmits hpayload hflags => exact hflags

/-- The packets of a session keep their shapes. -/
theorem shaped_step (hs : s.WellShaped) (h : step s e = some s') : s'.WellShaped where
  packets := by
    refine packets_step hs.packets hs.keyed h ?_ fun packet hpacket => ⟨hpacket.flags, hpacket.data⟩
    intro hexpire d hd
    have hlog : (∀ d ∈ s'.sent, Shaped d.packet) ∧
        ∀ k packet, s'.inflightPackets.find? k = some packet → packet.header.flags = flagAck := by
      refine (step_moves h).preserves (P := fun t => (∀ d ∈ t.sent, Shaped d.packet) ∧
        ∀ k packet, t.inflightPackets.find? k = some packet → packet.header.flags = flagAck) ?_
        ⟨hs.packets.sent, hs.inflight⟩
      rintro a b ⟨ha, hinflight⟩ hmove
      refine ⟨?_, hmove.inflightFlags hinflight⟩
      intro d hd
      rcases hmove.sendsShaped hexpire hinflight with hsent | ⟨d', hsent, hshaped⟩
      · rw [hsent] at hd
        exact ha d hd
      · rw [hsent, List.mem_append, List.mem_singleton] at hd
        rcases hd with hd | rfl
        · exact ha d hd
        · exact hshaped
    exact hlog.1 d (List.mem_of_mem_drop hd)
  keyed := keyed_step hs.keyed h
  inflight := (step_moves h).preserves (fun _ _ ha hmove => hmove.inflightFlags ha) hs.inflight

/-- A new session has sent nothing. -/
theorem Created.wellShaped (h : Created s) : s.WellShaped where
  packets := allPackets_of_unsent h.sent h.activeAt
  keyed := h.keyed
  inflight := by
    cases h
    exact fun _ _ hfind => nomatch hfind

/-- All packets of a session of a stack have their shape. -/
theorem Descends.wellShaped (h : s.Descends) : s.WellShaped :=
  h.invariant (fun _ hcreated => hcreated.wellShaped) fun _ _ _ hs hstep => shaped_step hs hstep

end Shapes

end TcpSession

namespace TcpStack

/-- A datagram at a stack of a debug build: the callback logs the packet before it does anything
with it, and an exception leaves no stack behind. -/
def receiveLogged (k : Address) (bytes : List UInt8) (seeds : SessionSeeds) (iss : UInt32)
    (st : TcpStack) : Option TcpStack :=
  match UdpDriver.onUvRecv bytes with
  | none => some st
  | some packet =>
      if st.onReceive = .unset then some st
      else (parseFlagsToString packet.header.flags).bind fun _ => st.receive k bytes seeds iss

section Logged

variable {st : TcpStack}

/-- So have all packets of a stack. -/
theorem Composed.shaped (h : st.Composed) {d : Datagram} (hd : d ∈ st.sent) :
    TcpSession.Shaped d.packet := by
  rcases h.sent d hd with hreset | ⟨s, hdescends, hsent⟩
  · rw [hreset]
    exact ⟨by decide, fun hpayload => absurd rfl hpayload⟩
  · exact hdescends.wellShaped.packets.sent d hsent

/-- In every run of a stack, each packet that it hands to its driver has one of six combinations of
flags, data only with ACK, and a debug build of another stack does with it, in whatever state it
is, what the other build does.  No session of the stack stores a segment, so that the log line
behind an erased entry is never reached. -/
theorem debugBuild_agrees (h : TcpStack.step.Reachable (fun _ _ => True) new st) {d : Datagram}
    (hd : d ∈ st.sent) :
    d.packet.header.flags ∈ emittedFlags ∧
      (d.packet.payload ≠ [] → d.packet.header.flags = flagAck) ∧
      (∀ (st' : TcpStack) k seeds iss,
        st'.receiveLogged k (UdpDriver.sendPacket d.packet) seeds iss =
          st'.receive k (UdpDriver.sendPacket d.packet) seeds iss) ∧
      ∀ k entry, st.tcpSessions.find? k = some entry → TcpSession.NothingStored entry.session := by
  have hcomposed := composed_reachable h
  have hshaped := hcomposed.shaped hd
  refine ⟨hshaped.flags, hshaped.data, fun st' k seeds iss => ?_,
    fun k entry hfind => (hcomposed.sessions k entry hfind).nothingStored⟩
  rcases Option.isSome_iff_exists.mp (isSome_parseFlagsToString hshaped.flags) with ⟨name, hname⟩
  rw [receiveLogged, UdpDriver.onUvRecv_sendPacket]
  dsimp only
  rw [hname, Option.bind_some]
  split <;> rename_i hunset
  · rw [receive_of_parse (UdpDriver.onUvRecv_sendPacket _), route, hunset]
  · rfl

end Logged

/-- A stack connects and repeats its SYN. -/
def repeatedSynRun : List StackEvent :=
  [.createSession clientAddress zeroSeeds, .session clientAddress (.connect 0),
    .session clientAddress (.expire 0)]

theorem debugBuild_agrees_repeatedSynRun :
    ∃ st d, step.run new repeatedSynRun = some st ∧ d ∈ st.sent ∧
      d.packet.header.flags ∈ emittedFlags ∧
      (d.packet.payload ≠ [] → d.packet.header.flags = flagAck) ∧
      (∀ (st' : TcpStack) k seeds iss,
        st'.receiveLogged k (UdpDriver.sendPacket d.packet) seeds iss =
          st'.receive k (UdpDriver.sendPacket d.packet) seeds iss) ∧
      ∀ k entry, st.tcpSessions.find? k = some entry → TcpSession.NothingStored entry.session := by
  have hrun : ((step.run new repeatedSynRun).any fun st => st.sent.length = 2) = true := by
    decide +kernel
  rcases (Option.any_eq_true _ _).mp hrun with ⟨st, hst, hlength⟩
  have hpos : 0 < st.sent.length := by
    rw [of_decide_eq_true hlength]
    decide
  exact ⟨st, _, hst, List.getElem_mem hpos,
    debugBuild_agrees (StepFn.reachable_of_run_true hst) (List.getElem_mem hpos)⟩

/-- A segment with PSH, as other stacks send it, makes the log line of a listening stack throw. -/
example : (step.run new [.listen]).bind (receiveLogged clientAddress
    (UdpDriver.sendPacket (TcpSession.peerPacket (flagPsh ||| flagAck) 0 0 1024 [7]))
    zeroSeeds 0) |>.isNone := by
  decide +kernel

end TcpStack

end MyuTcp
