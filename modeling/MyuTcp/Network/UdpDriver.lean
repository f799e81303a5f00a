import MyuTcp.Core.Segment

/-!
# UdpDriver

The datagrams of {lit}`src/network/UdpDriver.cpp`.  Sending copies the packed header
and the payload into one datagram; receiving copies them back.  The options of a
packet are never sent.  The loss simulation decides only whether a datagram leaves,
so it is left to the network.

Main results:

- Theorem {lit}`onUvRecv_sendPacket`: a packet without options is received as it was sent.
-/

namespace MyuTcp

namespace UdpDriver

/-- Size of the packed header. -/
def headerSize : Nat := 20

/-- The datagram that {lit}`send_packet` hands to libuv. -/
def sendPacket (packet : MyuTcpPacket) : List UInt8 :=
  packet.header.bytes ++ packet.payload

/-- A 16-bit field at an offset of a datagram, on a little-endian host. -/
def field16 (bytes : List UInt8) (offset : Nat) : UInt16 :=
  UInt16.ofNat ((bytes.getD offset 0).toNat + 256 * (bytes.getD (offset + 1) 0).toNat)

/-- A 32-bit field at an offset of a datagram, on a little-endian host. -/
def field32 (bytes : List UInt8) (offset : Nat) : UInt32 :=
  UInt32.ofNat
    ((bytes.getD offset 0).toNat + 256 * (bytes.getD (offset + 1) 0).toNat +
      65536 * (bytes.getD (offset + 2) 0).toNat +
      16777216 * (bytes.getD (offset + 3) 0).toNat)

/-- The header that a datagram starts with. -/
def headerOf (bytes : List UInt8) : MyuTcpHeader where
  sPort := field16 bytes 0
  dPort := field16 bytes 2
  seqNum := field32 bytes 4
  ackNum := field32 bytes 8
  dataOffsetAndReserved := bytes.getD 12 0
  flags := bytes.getD 13 0
  windowSize := field16 bytes 14
  checksum := field16 bytes 16
  urgentPtr := field16 bytes 18

/-- The packet that {lit}`on_uv_recv` hands to the receive callback, if it hands one. -/
def onUvRecv (bytes : List UInt8) : Option MyuTcpPacket :=
  if headerSize ≤ bytes.length then
    some { header := headerOf bytes, payload := bytes.drop headerSize }
  else none

/-! ## Fields -/

theorem ofNat_bytes16 (x : UInt16) :
    UInt16.ofNat ((UInt8.ofNat (x.toNat % 256)).toNat +
      256 * (UInt8.ofNat (x.toNat / 256)).toNat) = x := by
  have hlt := x.toNat_lt
  apply UInt16.toNat_inj.mp
  simp only [UInt16.toNat_ofNat', UInt8.toNat_ofNat']
  omega

theorem ofNat_bytes32 (x : UInt32) :
    UInt32.ofNat ((UInt8.ofNat (x.toNat % 256)).toNat +
      256 * (UInt8.ofNat (x.toNat / 256 % 256)).toNat +
      65536 * (UInt8.ofNat (x.toNat / 65536 % 256)).toNat +
      16777216 * (UInt8.ofNat (x.toNat / 16777216)).toNat) = x := by
  have hlt := x.toNat_lt
  apply UInt32.toNat_inj.mp
  simp only [UInt32.toNat_ofNat', UInt8.toNat_ofNat']
  omega

/-- The header is read back from its memory image. -/
theorem headerOf_bytes (header : MyuTcpHeader) (payload : List UInt8) :
    headerOf (header.bytes ++ payload) = header := by
  have h16 := ofNat_bytes16
  have h32 := ofNat_bytes32
  cases header
  simp only [headerOf, field16, field32, MyuTcpHeader.bytes, bytes16, bytes32, List.cons_append,
    List.nil_append, List.getD_cons_zero, List.getD_cons_succ, h16, h32]

/-! ## Round trips -/

/-- A packet without options is received as it was sent. -/
theorem onUvRecv_sendPacket (packet : MyuTcpPacket) :
    onUvRecv (sendPacket packet) = some { packet with options := [] } := by
  have hlength : packet.header.bytes.length = headerSize := length_header_bytes packet.header
  rw [onUvRecv, sendPacket, if_pos (by rw [List.length_append]; omega), headerOf_bytes,
    ← hlength, List.drop_left]

end UdpDriver

end MyuTcp
