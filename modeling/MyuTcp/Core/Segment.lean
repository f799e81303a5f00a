import MyuTcp.Library.OnesComplement

/-!
# Segments

Header and packet of {lit}`include/myutcp/core/segment.h`, with the flag bits of
{lit}`tcb.h` and the checksum of {lit}`tcb.cpp`.  The multi-byte header fields hold
the stored value, in network order, of a little-endian host; {lit}`htonl` and
{lit}`ntohl` convert as the source does.

Main results:

- Theorem {lit}`ntohl_htonl`: the byte-order conversions cancel.
- Theorem {lit}`verifyChecksum_calculateChecksum`: a stamped packet is accepted.
-/

namespace MyuTcp

open Library

/-! ## Byte order -/

/-- Host to network order of a 16-bit value on a little-endian host. -/
def htons (x : UInt16) : UInt16 :=
  UInt16.ofBitVec (x.toBitVec.extractLsb' 0 8 ++ x.toBitVec.extractLsb' 8 8)

/-- Network to host order of a 16-bit value. -/
def ntohs (x : UInt16) : UInt16 := htons x

/-- Host to network order of a 32-bit value on a little-endian host. -/
def htonl (x : UInt32) : UInt32 :=
  UInt32.ofBitVec (x.toBitVec.extractLsb' 0 8 ++ x.toBitVec.extractLsb' 8 8 ++
    x.toBitVec.extractLsb' 16 8 ++ x.toBitVec.extractLsb' 24 8)

/-- Network to host order of a 32-bit value. -/
def ntohl (x : UInt32) : UInt32 := htonl x

/-- Sixteen bits in network order and back. -/
@[simp]
theorem ntohs_htons (x : UInt16) : ntohs (htons x) = x := by
  rw [← UInt16.toBitVec_inj]
  refine BitVec.eq_of_getLsbD_eq ?_
  intro i hi
  simp only [ntohs, htons, UInt16.toBitVec_ofBitVec, BitVec.getLsbD_append,
    BitVec.getLsbD_extractLsb']
  grind

/-- Thirty-two bits in network order and back. -/
@[simp]
theorem ntohl_htonl (x : UInt32) : ntohl (htonl x) = x := by
  rw [← UInt32.toBitVec_inj]
  refine BitVec.eq_of_getLsbD_eq ?_
  intro i hi
  simp only [ntohl, htonl, UInt32.toBitVec_ofBitVec, BitVec.getLsbD_append,
    BitVec.getLsbD_extractLsb']
  grind

example : htonl 0x01020304 = 0x04030201 := by decide

/-! ## Flags -/

/-- The sender has no more data. -/
def flagFin : UInt8 := 0x01

/-- The sender opens a connection. -/
def flagSyn : UInt8 := 0x02

/-- The connection is reset. -/
def flagRst : UInt8 := 0x04

/-- Data to be handed over at once.  The program neither sets nor tests it. -/
def flagPsh : UInt8 := 0x08

/-- The acknowledgment number is valid. -/
def flagAck : UInt8 := 0x10

/-! ## Header and packet -/

/-- The packed 20-byte header. -/
structure MyuTcpHeader where
  sPort : UInt16
  dPort : UInt16
  seqNum : UInt32
  ackNum : UInt32
  dataOffsetAndReserved : UInt8
  flags : UInt8
  windowSize : UInt16
  checksum : UInt16
  urgentPtr : UInt16
deriving DecidableEq, Repr

/-- The header with another value in its checksum field. -/
def MyuTcpHeader.withChecksum (h : MyuTcpHeader) (c : UInt16) : MyuTcpHeader :=
  { h with checksum := c }

/-- The header with another acknowledgment number and window, in host order. -/
def MyuTcpHeader.withAckAndWindow (h : MyuTcpHeader) (ackNum : UInt32) (window : UInt16) :
    MyuTcpHeader :=
  { h with ackNum := htonl ackNum, windowSize := htons window }

/-- A header with its options, which no code fills or sends, and its payload. -/
structure MyuTcpPacket where
  header : MyuTcpHeader
  options : List UInt8 := []
  payload : List UInt8
deriving DecidableEq, Repr

namespace MyuTcpPacket

/-- Sequence number in host order. -/
def seq (p : MyuTcpPacket) : UInt32 := ntohl p.header.seqNum

/-- Acknowledgment number in host order. -/
def ack (p : MyuTcpPacket) : UInt32 := ntohl p.header.ackNum

/-- Advertised window in host order. -/
def window (p : MyuTcpPacket) : UInt16 := ntohs p.header.windowSize

/-- The test {lit}`packet.header.flags & flag`. -/
def has (p : MyuTcpPacket) (flag : UInt8) : Bool := p.header.flags &&& flag != 0

/-- Sequence numbers a packet occupies: one for SYN or FIN, else one per byte. -/
def span (p : MyuTcpPacket) : Nat :=
  if p.has flagSyn || p.has flagFin then 1 else p.payload.length

end MyuTcpPacket

/-! ## Checksum -/

/-- Memory image of a 16-bit field on a little-endian host. -/
def bytes16 (x : UInt16) : List UInt8 :=
  [UInt8.ofNat (x.toNat % 256), UInt8.ofNat (x.toNat / 256)]

/-- Memory image of a 32-bit field on a little-endian host. -/
def bytes32 (x : UInt32) : List UInt8 :=
  [UInt8.ofNat (x.toNat % 256), UInt8.ofNat (x.toNat / 256 % 256),
    UInt8.ofNat (x.toNat / 65536 % 256), UInt8.ofNat (x.toNat / 16777216)]

/-- Memory image of the packed header. -/
def MyuTcpHeader.bytes (h : MyuTcpHeader) : List UInt8 :=
  bytes16 h.sPort ++ bytes16 h.dPort ++ bytes32 h.seqNum ++ bytes32 h.ackNum ++
    [h.dataOffsetAndReserved, h.flags] ++ bytes16 h.windowSize ++ bytes16 h.checksum ++
    bytes16 h.urgentPtr

/-- The {lit}`add_to_sum` loop: add little-endian words, then an odd last byte. -/
def addToSum (sum : UInt32) : List UInt8 → UInt32
  | [] => sum
  | [a] => sum + a.toUInt32
  | a :: b :: rest => addToSum (sum + (a.toUInt32 + 256 * b.toUInt32)) rest

/-- The loop {lit}`while (sum >> 16)`.  Two rounds always suffice for 32 bits, so the
fuel of {lit}`checksumOf` is never used up. -/
def foldSum : Nat → UInt32 → UInt32
  | 0, sum => sum
  | fuel + 1, sum =>
      if sum >>> 16 = 0 then sum
      else foldSum fuel ((sum &&& (0xFFFF : UInt32)) + (sum >>> 16))

/-- The folded and complemented sum over header and payload. -/
def checksumOf (p : MyuTcpPacket) : UInt16 :=
  (~~~ foldSum 4 (addToSum (addToSum 0 p.header.bytes) p.payload)).toUInt16

/-- Stamp a packet: clear the checksum field, then store the complement. -/
def calculateChecksum (p : MyuTcpPacket) : MyuTcpPacket :=
  let cleared := { p with header := p.header.withChecksum 0 }
  { p with header := p.header.withChecksum (checksumOf cleared) }

/-- A packet is accepted when the complement over the whole packet is zero. -/
def verifyChecksum (p : MyuTcpPacket) : Bool := checksumOf p == 0

/-! ### Fields of a stamped packet -/

/-- The checksum is the only field that is written. -/
theorem calculateChecksum_header (p : MyuTcpPacket) :
    (calculateChecksum p).header =
      p.header.withChecksum (checksumOf { p with header := p.header.withChecksum 0 }) :=
  rfl

@[simp]
theorem calculateChecksum_payload (p : MyuTcpPacket) :
    (calculateChecksum p).payload = p.payload :=
  rfl

@[simp]
theorem calculateChecksum_flags (p : MyuTcpPacket) :
    (calculateChecksum p).header.flags = p.header.flags :=
  rfl

@[simp]
theorem calculateChecksum_seq (p : MyuTcpPacket) : (calculateChecksum p).seq = p.seq :=
  rfl

@[simp]
theorem calculateChecksum_ack (p : MyuTcpPacket) : (calculateChecksum p).ack = p.ack :=
  rfl

@[simp]
theorem calculateChecksum_window (p : MyuTcpPacket) :
    (calculateChecksum p).window = p.window :=
  rfl

@[simp]
theorem calculateChecksum_has (p : MyuTcpPacket) (flag : UInt8) :
    (calculateChecksum p).has flag = p.has flag :=
  rfl

@[simp]
theorem calculateChecksum_span (p : MyuTcpPacket) : (calculateChecksum p).span = p.span :=
  rfl

/-! ### Acceptance of stamped packets -/

/-- The 32-bit sum is the sum of the words, modulo 2^32. -/
theorem addToSum_toNat (sum : UInt32) (bs : List UInt8) :
    (addToSum sum bs).toNat = (sum.toNat + wordSum bs) % 2 ^ 32 := by
  induction bs using wordSum.induct generalizing sum with
  | case1 =>
      have := sum.toNat_lt
      simp only [addToSum, wordSum]
      omega
  | case2 a => simp [addToSum, wordSum]
  | case3 a b rest ih =>
      have := a.toNat_lt
      have := b.toNat_lt
      rw [addToSum, ih, wordSum]
      simp only [UInt32.toNat_add, UInt32.toNat_mul, UInt8.toNat_toUInt32, UInt32.toNat_ofNat]
      omega

/-- The loop that folds the sum, over the natural numbers. -/
theorem foldSum_toNat (fuel : Nat) (sum : UInt32) :
    (foldSum fuel sum).toNat = foldCarry fuel sum.toNat := by
  induction fuel generalizing sum with
  | zero => rfl
  | succ fuel ih =>
      have hlt := sum.toNat_lt
      have hshift : (sum >>> 16).toNat = sum.toNat / 65536 := by
        simp [UInt32.toNat_shiftRight, Nat.shiftRight_eq_div_pow]
      have hmask : (sum &&& (0xFFFF : UInt32)).toNat = sum.toNat % 65536 := by
        rw [UInt32.toNat_and]
        exact Nat.and_two_pow_sub_one_eq_mod sum.toNat 16
      have hzero : sum >>> 16 = 0 ↔ sum.toNat / 65536 = 0 := by
        rw [← UInt32.toNat_inj, hshift]
        rfl
      rw [foldSum, foldCarry]
      by_cases h : sum.toNat / 65536 = 0
      · rw [if_pos (hzero.mpr h), if_pos h]
      · rw [if_neg (mt hzero.mp h), if_neg h, ih, UInt32.toNat_add, hshift, hmask]
        congr 1
        omega

/-- The first two bytes are one word. -/
theorem wordSum_bytes16 (x : UInt16) (rest : List UInt8) :
    wordSum (bytes16 x ++ rest) = x.toNat + wordSum rest := by
  have := x.toNat_lt
  simp only [bytes16, List.cons_append, List.nil_append, wordSum, UInt8.toNat_ofNat']
  omega

/-- The header sum depends on the checksum field by addition. -/
theorem wordSum_withChecksum (h : MyuTcpHeader) (c : UInt16) :
    wordSum (h.withChecksum c).bytes = wordSum (h.withChecksum 0).bytes + c.toNat := by
  have hsplit : ∀ c : UInt16, wordSum (h.withChecksum c).bytes =
      wordSum (bytes16 h.sPort ++ bytes16 h.dPort ++ bytes32 h.seqNum ++ bytes32 h.ackNum ++
        [h.dataOffsetAndReserved, h.flags] ++ bytes16 h.windowSize) +
      (c.toNat + wordSum (bytes16 h.urgentPtr)) := by
    intro c
    rw [MyuTcpHeader.bytes, MyuTcpHeader.withChecksum, List.append_assoc,
      wordSum_append_of_even _ _ (by simp [bytes16, bytes32]), wordSum_bytes16]
  rw [hsplit c, hsplit 0]
  simp only [UInt16.toNat_zero]
  omega

/-- A header without options has 20 bytes. -/
theorem length_header_bytes (h : MyuTcpHeader) : h.bytes.length = 20 := by
  rfl

/-- The checksum of a packet as a fold over natural numbers, while the 32-bit sum
cannot overflow. -/
theorem checksumOf_toNat (p : MyuTcpPacket) (hlen : p.payload.length ≤ 65515) :
    (checksumOf p).toNat =
      65535 - foldCarry 4 (wordSum p.header.bytes + wordSum p.payload) := by
  have hheader := wordSum_le p.header.bytes
  have hpayload := wordSum_le p.payload
  rw [length_header_bytes] at hheader
  have hsum : (foldSum 4 (addToSum (addToSum 0 p.header.bytes) p.payload)).toNat =
      foldCarry 4 (wordSum p.header.bytes + wordSum p.payload) := by
    rw [foldSum_toNat, addToSum_toNat, addToSum_toNat]
    congr 1
    simp only [UInt32.toNat_zero]
    omega
  have hlt := foldCarry_lt (show 2 ≤ 4 by omega)
    (show wordSum p.header.bytes + wordSum p.payload < 2 ^ 32 by omega)
  rw [checksumOf, UInt32.toNat_toUInt16, UInt32.toNat_not, hsum, UInt32.size]
  omega

/-- A stamped packet is accepted. -/
theorem verifyChecksum_calculateChecksum (p : MyuTcpPacket)
    (hlen : p.payload.length ≤ 65515) : verifyChecksum (calculateChecksum p) = true := by
  have hheader := wordSum_le (p.header.withChecksum 0).bytes
  have hpayload := wordSum_le p.payload
  rw [length_header_bytes] at hheader
  have hstamp := checksumOf_toNat { p with header := p.header.withChecksum 0 } hlen
  have hcheck := checksumOf_toNat (calculateChecksum p) hlen
  dsimp only at hstamp
  have hfold := foldCarry_complement (show 2 ≤ 4 by omega)
    (show wordSum (p.header.withChecksum 0).bytes + wordSum p.payload + 65535 < 2 ^ 32 by omega)
  rw [calculateChecksum_payload, calculateChecksum_header, wordSum_withChecksum, hstamp,
    Nat.add_right_comm, hfold] at hcheck
  rw [verifyChecksum, beq_iff_eq, ← UInt16.toNat_inj]
  exact hcheck

end MyuTcp
