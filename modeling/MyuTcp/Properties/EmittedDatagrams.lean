import MyuTcp.Core.Hosts
import MyuTcp.Core.StackSessions
import MyuTcp.Properties.EmittedChecksums

/-!
# Emitted datagrams

What the driver of a stack makes of the packets that it is given, in every run of the stack.

Main results:

- Theorem {lit}`datagrams_roundTrip`: another driver reads each packet back as it was sent, from at
  most 1044 bytes, and its checksum is right unless it is a reset of the stack.
-/

namespace MyuTcp

open Library

namespace TcpSession

theorem Descends.optionless {s : TcpSession} (h : s.Descends) : s.Optionless := by
  refine (h.invariant (P := fun s => s.Optionless ∧ s.Keyed) ?_ ?_).1
  · exact fun _ hcreated => ⟨hcreated.optionless, hcreated.keyed⟩
  · exact fun _ _ _ hs hstep => ⟨optionless_step hs.1 hs.2 hstep, keyed_step hs.2 hstep⟩

theorem Descends.wellStamped {s : TcpSession} (h : s.Descends) : s.WellStamped := by
  refine h.invariant ?_ fun _ _ _ hs hstep => wellStamped_step hs hstep
  intro s₀ hcreated
  cases hcreated
  exact wellStamped_createSession _ _ _ _ _ _

end TcpSession

namespace TcpStack

variable {st : TcpStack} {d : Datagram}

/-- What the driver reads from a datagram of a stack, in every run. -/
structure RoundTrips (d : Datagram) : Prop where
  parsed : UdpDriver.onUvRecv (UdpDriver.sendPacket d.packet) = some d.packet
  length : (UdpDriver.sendPacket d.packet).length ≤ 1044
  checksum : d.packet ≠ resetPacket → verifyChecksum d.packet = true

theorem roundTrips_of (packet : MyuTcpPacket) (hoptions : packet.options = [])
    (hlength : packet.payload.length ≤ 1024) :
    UdpDriver.onUvRecv (UdpDriver.sendPacket packet) = some packet ∧
      (UdpDriver.sendPacket packet).length ≤ 1044 := by
  constructor
  · rw [UdpDriver.onUvRecv_sendPacket, ← hoptions]
  · rw [UdpDriver.sendPacket, List.length_append, length_header_bytes]
    exact Nat.add_le_add_left hlength 20

/-- In every run of a stack, the driver of a receiver reads each packet back as it was sent, and
all but the resets of the stack pass its checksum test. -/
theorem datagrams_roundTrip (h : TcpStack.step.Reachable (fun _ _ => True) new st)
    (hd : d ∈ st.sent) : RoundTrips d := by
  rcases (composed_reachable h).sent d hd with hreset | ⟨s, hdescends, hsent⟩
  · have hboth := roundTrips_of resetPacket rfl (by decide)
    rw [← hreset] at hboth
    exact ⟨hboth.1, hboth.2, fun hne => absurd hreset hne⟩
  · have hstamped := hdescends.wellStamped.packets.sent d hsent
    have hshort : d.packet.payload.length ≤ 1024 := by
      rcases hstamped with ⟨q, hq, hpacket⟩
      rw [hpacket]
      exact hq
    have hboth := roundTrips_of d.packet (hdescends.optionless.sent d hsent) hshort
    exact ⟨hboth.1, hboth.2, fun _ => hstamped.verify⟩

/-- A stack connects, repeats its SYN, and sends a byte once the answer is there. -/
def repeatedSynByteRun : List StackEvent :=
  [.createSession clientAddress zeroSeeds, .session clientAddress (.connect 0),
    .session clientAddress (.expire 0),
    .datagram clientAddress
      (UdpDriver.sendPacket (TcpSession.peerPacket (flagSyn ||| flagAck) 100 1 1024 []))
      zeroSeeds 0,
    .session clientAddress (.send [7])]

theorem datagrams_roundTrip_repeatedSynByte :
    ∃ st d, step.run new repeatedSynByteRun = some st ∧ d ∈ st.sent ∧ d.packet.payload = [7] ∧
      RoundTrips d := by
  have hrun : ((step.run new repeatedSynByteRun).any fun st =>
      st.sent.any fun d => d.packet.payload = [7]) = true := by
    decide +kernel
  rcases (Option.any_eq_true _ _).mp hrun with ⟨st, hst, hsent⟩
  rcases List.any_eq_true.mp hsent with ⟨d, hd, hpayload⟩
  exact ⟨st, d, hst, hd, of_decide_eq_true hpayload,
    datagrams_roundTrip (StepFn.reachable_of_run_true hst) hd⟩

end TcpStack

end MyuTcp
