import MyuTcp.Core.Stack

/-!
# Corrupted datagrams

A session ignores a packet whose checksum is wrong.  The receive callback of a listening
stack chooses by the flags of the packet before any session tests the checksum, so only a
known address is protected.

Main results:

- Theorem {lit}`step_corrupted`: a session is unchanged by a corrupted packet.
- Theorem {lit}`corrupted_unaffected_iff`: a corrupted datagram has no effect on a listening
  stack exactly when its address has a session.
-/

namespace MyuTcp

open Library

namespace TcpStack

/-- Sessions with their timers, the ready queue and the packets sent are as before. -/
def Unaffected (st st' : TcpStack) : Prop :=
  st'.tcpSessions = st.tcpSessions ∧ st'.readyQueue = st.readyQueue ∧ st'.sent = st.sent

section Corrupted

variable {st : TcpStack} {k : Address} {packet : MyuTcpPacket} {iss : UInt32}

theorem step_corrupted (hcorrupted : verifyChecksum packet = false) (s : TcpSession) :
    TcpSession.step s (.input packet iss) = some s := by
  rw [TcpSession.step, TcpSession.input, hcorrupted]
  rfl

/-- A corrupted packet that reaches a session leaves the stack as it was. -/
theorem stepSession_corrupted {entry : StackSession}
    (hfind : st.tcpSessions.find? k = some entry)
    (hcorrupted : verifyChecksum packet = false) :
    st.stepSession k (.input packet iss) = some st := by
  apply stepSession_eq_some_iff.mpr
  exact ⟨entry, entry.session, hfind, step_corrupted hcorrupted _, (commit_self hfind).symm⟩

theorem receive_corrupted_known {bytes : List UInt8} (hlisten : st.onReceive = .stack)
    (hparse : UdpDriver.onUvRecv bytes = some packet)
    (hcorrupted : verifyChecksum packet = false) {entry : StackSession}
    (hfind : st.tcpSessions.find? k = some entry) (seeds : SessionSeeds) :
    st.receive k bytes seeds iss = some st := by
  have hroute : st.route k packet = .input k := by
    rw [route, hlisten]
    dsimp only
    rw [hfind]
    rfl
  rw [receive_of_parse hparse, hroute]
  exact stepSession_corrupted hfind hcorrupted

/-- From an unknown address a corrupted packet leaves a new session behind or is answered. -/
theorem receive_corrupted_unknown {bytes : List UInt8} (hlisten : st.onReceive = .stack)
    (hparse : UdpDriver.onUvRecv bytes = some packet)
    (hcorrupted : verifyChecksum packet = false) (hfind : st.tcpSessions.find? k = none)
    (seeds : SessionSeeds) :
    ∃ st', st.receive k bytes seeds iss = some st' ∧
      ((packet.header.flags = flagSyn ∧ st'.tcpSessions.find? k ≠ none) ∨
        (packet.header.flags ≠ flagSyn ∧ st'.sent ≠ st.sent)) := by
  by_cases hflags : packet.header.flags = flagSyn
  · have hroute : st.route k packet = .openSession := by
      rw [route, hlisten]
      dsimp only
      rw [hfind, if_neg (by simp), if_pos hflags]
    rcases openSession_eq hfind packet seeds iss with ⟨st₁, hopen, hnew, -⟩
    refine ⟨st₁, ?_, Or.inl ⟨hflags, ?_⟩⟩
    · rw [receive_of_parse hparse, hroute]
      dsimp only
      rw [hopen]
      exact stepSession_corrupted hnew hcorrupted
    · rw [hnew]
      simp
  · have hroute : st.route k packet = .reset := by
      rw [route, hlisten]
      dsimp only
      rw [hfind, if_neg (by simp), if_neg hflags]
    have hanswer : st.receive k bytes seeds iss =
        some { st with
          sent := st.sent ++ [{ packet := resetPacket, destIp := k.ip, destPort := k.port }] } := by
      rw [receive_of_parse hparse, hroute]
    exact ⟨_, hanswer, Or.inr ⟨hflags, by simp⟩⟩

end Corrupted

/-- A corrupted datagram has no effect on a listening stack exactly when its address has a
session. -/
theorem corrupted_unaffected_iff {st : TcpStack} {k : Address} {bytes : List UInt8}
    {packet : MyuTcpPacket} (hlisten : st.onReceive = .stack)
    (hparse : UdpDriver.onUvRecv bytes = some packet)
    (hcorrupted : verifyChecksum packet = false) (seeds : SessionSeeds) (iss : UInt32) :
    (∃ st', st.receive k bytes seeds iss = some st' ∧ st.Unaffected st') ↔
      (st.tcpSessions.find? k).isSome = true := by
  constructor
  · rintro ⟨st', hreceive, hsessions, -, hsent⟩
    rw [Option.isSome_iff_ne_none]
    intro hfind
    rcases receive_corrupted_unknown hlisten hparse hcorrupted hfind seeds with
      ⟨st'', hreceive', hchanged⟩
    rw [hreceive, Option.some.injEq] at hreceive'
    subst hreceive'
    rcases hchanged with ⟨-, hnew⟩ | ⟨-, hanswer⟩
    · rw [hsessions] at hnew
      exact hnew hfind
    · exact hanswer hsent
  · intro hknown
    rcases Option.isSome_iff_exists.mp hknown with ⟨entry, hfind⟩
    exact ⟨st, receive_corrupted_known hlisten hparse hcorrupted hfind seeds, rfl, rfl, rfl⟩

/-- A SYN whose checksum field was never stamped. -/
def corruptedSyn : MyuTcpPacket where
  header :=
    { sPort := 0, dPort := 0, seqNum := 0, ackNum := 0, dataOffsetAndReserved := 0x50,
      flags := flagSyn, windowSize := 0, checksum := 0, urgentPtr := 0 }
  payload := []

/-- A listening stack with one session. -/
def knownStack : TcpStack :=
  { new.createSession clientAddress zeroSeeds with onReceive := .stack }

theorem corrupted_unaffected_iff_knownStack :
    (∃ st', knownStack.receive clientAddress (UdpDriver.sendPacket corruptedSyn) zeroSeeds 0 =
        some st' ∧ knownStack.Unaffected st') ↔
      (knownStack.tcpSessions.find? clientAddress).isSome = true :=
  corrupted_unaffected_iff rfl (UdpDriver.onUvRecv_sendPacket corruptedSyn) (by decide +kernel)
    zeroSeeds 0

/-- A corrupted SYN from an unknown address creates a session that listens for good. -/
theorem corruptedSyn_opensSession :
    verifyChecksum corruptedSyn = false ∧
      ∃ st st', step.run new [.listen] = some st ∧
        step st (.datagram clientAddress (UdpDriver.sendPacket corruptedSyn) zeroSeeds 0) =
          some st' ∧
        st.tcpSessions.entries = [] ∧
        st'.tcpSessions.entries.map (fun e => e.2.session.state) = [.listen] ∧
        ¬ st.Unaffected st' := by
  refine ⟨by decide +kernel, { new with onReceive := .stack }, ?_⟩
  have hstep : (step { new with onReceive := .stack }
      (.datagram clientAddress (UdpDriver.sendPacket corruptedSyn) zeroSeeds 0)).any
        (fun st' => st'.tcpSessions.entries.map (fun e => e.2.session.state) = [.listen]) =
      true := by
    decide +kernel
  rcases (Option.any_eq_true _ _).mp hstep with ⟨st', hst', hstates⟩
  refine ⟨st', rfl, hst', rfl, of_decide_eq_true hstates, ?_⟩
  rintro ⟨hsessions, -, -⟩
  rw [hsessions] at hstates
  contradiction

end TcpStack

end MyuTcp
