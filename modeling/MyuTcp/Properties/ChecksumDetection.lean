import MyuTcp.Network.UdpDriver

/-!
# What the checksum accepts and detects

A stamped packet survives the way through a datagram and is accepted; the 32-bit accumulator
of the two checksum functions is exact for everything a datagram can hold.  Conversely no
alteration of one 16-bit word is accepted, except between the two zeros of one's complement.

Main results:

- Theorem {lit}`sumsExactly`: the accumulator never overflows.
- Theorem {lit}`stamped_roundTrip`: a stamped packet is received as it was and is accepted.
- Theorem {lit}`verifyChecksum_iff`: what the test of a packet computes.
- Theorem {lit}`alteration_rejected`: an alteration of one word, byte or bit is rejected.
-/

namespace MyuTcp

open Library

/-- The largest payload of a UDP datagram that starts with the packed header. -/
def maxDatagramPayload : Nat := 65487

/-! ## The accumulator -/

/-- Up to every point of the header and of the payload the accumulator is the sum of the words
read so far, and every round of folding is exact too. -/
def SumsExactly (packet : MyuTcpPacket) : Prop :=
  (∀ j, (addToSum 0 (packet.header.bytes.take j)).toNat =
      wordSum (packet.header.bytes.take j)) ∧
    (∀ j, (addToSum (addToSum 0 packet.header.bytes) (packet.payload.take j)).toNat =
      wordSum packet.header.bytes + wordSum (packet.payload.take j)) ∧
    ∀ rounds, (foldSum rounds (addToSum (addToSum 0 packet.header.bytes) packet.payload)).toNat =
      foldCarry rounds (wordSum packet.header.bytes + wordSum packet.payload)

/-- No datagram is long enough for the sum to overflow. -/
theorem sumsExactly (packet : MyuTcpPacket) (hlen : packet.payload.length ≤ maxDatagramPayload) :
    SumsExactly packet := by
  rw [maxDatagramPayload] at hlen
  have hheader : ∀ j, wordSum (packet.header.bytes.take j) ≤ 65535 * 10 := by
    intro j
    refine (wordSum_le _).trans (Nat.mul_le_mul_left _ ?_)
    have hbytes := length_header_bytes packet.header
    rw [List.length_take]
    omega
  have hpayload : ∀ j, wordSum (packet.payload.take j) ≤ 65535 * 32744 := by
    intro j
    refine (wordSum_le _).trans (Nat.mul_le_mul_left _ ?_)
    rw [List.length_take]
    omega
  have hexact : ∀ j, (addToSum 0 (packet.header.bytes.take j)).toNat =
      wordSum (packet.header.bytes.take j) := by
    intro j
    have hle := hheader j
    rw [addToSum_toNat, UInt32.toNat_zero, Nat.zero_add]
    omega
  have hwhole := hexact 20
  rw [List.take_of_length_le (length_header_bytes packet.header).le] at hwhole
  have htotal : ∀ j, (addToSum (addToSum 0 packet.header.bytes) (packet.payload.take j)).toNat =
      wordSum packet.header.bytes + wordSum (packet.payload.take j) := by
    intro j
    have hle := hpayload j
    have hle' := hheader 20
    rw [List.take_of_length_le (length_header_bytes packet.header).le] at hle'
    rw [addToSum_toNat, hwhole]
    omega
  refine ⟨hexact, htotal, ?_⟩
  intro rounds
  have hall := htotal packet.payload.length
  rw [List.take_length] at hall
  rw [foldSum_toNat, hall]

/-- A stamped packet without options is received as it was and is accepted, and the accumulator
does not overflow on either side. -/
theorem stamped_roundTrip (packet : MyuTcpPacket) (hoptions : packet.options = [])
    (hlen : packet.payload.length ≤ maxDatagramPayload) :
    UdpDriver.onUvRecv (UdpDriver.sendPacket (calculateChecksum packet)) =
        some (calculateChecksum packet) ∧
      verifyChecksum (calculateChecksum packet) = true ∧
      SumsExactly { packet with header := packet.header.withChecksum 0 } ∧
      SumsExactly (calculateChecksum packet) := by
  have hkept : { calculateChecksum packet with options := [] } = calculateChecksum packet := by
    rw [calculateChecksum, ← hoptions]
  refine ⟨?_, ?_, sumsExactly _ hlen, sumsExactly _ hlen⟩
  · rw [UdpDriver.onUvRecv_sendPacket, hkept]
  · rw [maxDatagramPayload] at hlen
    exact verifyChecksum_calculateChecksum packet (by omega)

/-- A packet with three bytes of payload. -/
def oddPacket : MyuTcpPacket where
  header :=
    { sPort := 1, dPort := 2, seqNum := 3, ackNum := 4, dataOffsetAndReserved := 0x50,
      flags := flagAck, windowSize := 5, checksum := 6, urgentPtr := 7 }
  payload := [8, 9, 10]

theorem stamped_roundTrip_odd :
    UdpDriver.onUvRecv (UdpDriver.sendPacket (calculateChecksum oddPacket)) =
        some (calculateChecksum oddPacket) ∧
      verifyChecksum (calculateChecksum oddPacket) = true ∧
      SumsExactly { oddPacket with header := oddPacket.header.withChecksum 0 } ∧
      SumsExactly (calculateChecksum oddPacket) :=
  stamped_roundTrip oddPacket rfl (by decide)

/-! ## Altered packets -/

/-- The sum over a packet is the sum over its datagram: the header has an even length. -/
theorem wordSum_sendPacket (packet : MyuTcpPacket) :
    wordSum (UdpDriver.sendPacket packet) =
      wordSum packet.header.bytes + wordSum packet.payload := by
  refine wordSum_append_of_even _ _ ?_
  rw [length_header_bytes]

/-- A datagram is its header and its payload. -/
theorem length_sendPacket (packet : MyuTcpPacket) :
    (UdpDriver.sendPacket packet).length = 20 + packet.payload.length := by
  rw [UdpDriver.sendPacket, List.length_append, length_header_bytes]

/-- The sum of the words has 32 bits. -/
theorem wordSum_sendPacket_lt {packet : MyuTcpPacket}
    (hlen : packet.payload.length ≤ maxDatagramPayload) :
    wordSum (UdpDriver.sendPacket packet) < 2 ^ 32 := by
  have hle := wordSum_le (UdpDriver.sendPacket packet)
  rw [length_sendPacket] at hle
  rw [maxDatagramPayload] at hlen
  omega

/-- A packet is accepted when the sum over its datagram folds to all ones. -/
theorem verifyChecksum_iff {packet : MyuTcpPacket}
    (hlen : packet.payload.length ≤ maxDatagramPayload) :
    verifyChecksum packet = true ↔
      foldCarry 4 (wordSum (UdpDriver.sendPacket packet)) = 65535 := by
  have hlt := foldCarry_lt (show 2 ≤ 4 by omega) (wordSum_sendPacket_lt hlen)
  rw [maxDatagramPayload] at hlen
  have hvalue := checksumOf_toNat packet (by omega)
  rw [← wordSum_sendPacket] at hvalue
  rw [verifyChecksum, beq_iff_eq, ← UInt16.toNat_inj, hvalue, UInt16.toNat_zero]
  omega

/-- The datagrams differ in one aligned word, and not by a swap of the two zeros. -/
def AltersWord (i : Nat) (packet altered : MyuTcpPacket) : Prop :=
  AgreeOutside i (UdpDriver.sendPacket packet) (UdpDriver.sendPacket altered) ∧
    wordAt (UdpDriver.sendPacket packet) i ≠ wordAt (UdpDriver.sendPacket altered) i ∧
    ¬ (wordAt (UdpDriver.sendPacket packet) i = 0 ∧
      wordAt (UdpDriver.sendPacket altered) i = 65535) ∧
    ¬ (wordAt (UdpDriver.sendPacket packet) i = 65535 ∧
      wordAt (UdpDriver.sendPacket altered) i = 0)

/-- The datagrams differ in one byte. -/
def AltersByte (j : Nat) (packet altered : MyuTcpPacket) : Prop :=
  ∃ b, j < (UdpDriver.sendPacket packet).length ∧ b ≠ (UdpDriver.sendPacket packet).getD j 0 ∧
    UdpDriver.sendPacket altered = (UdpDriver.sendPacket packet).set j b

/-- The datagrams differ in one bit. -/
def FlipsBit (j k : Nat) (packet altered : MyuTcpPacket) : Prop :=
  j < (UdpDriver.sendPacket packet).length ∧ k < 8 ∧
    UdpDriver.sendPacket altered = (UdpDriver.sendPacket packet).set j
      ((UdpDriver.sendPacket packet).getD j 0 ^^^ (1 <<< UInt8.ofNat k))

variable {packet altered : MyuTcpPacket}

/-- Only the swap of 0x0000 and 0xFFFF in one word is accepted. -/
theorem verifyChecksum_altersWord {i : Nat} (haccepts : verifyChecksum packet = true)
    (hlen : packet.payload.length ≤ maxDatagramPayload) (halters : AltersWord i packet altered) :
    verifyChecksum altered = false := by
  obtain ⟨hagree, hne, hswap, hswap'⟩ := halters
  have hlen' : altered.payload.length ≤ maxDatagramPayload := by
    have hlengths := hagree.1
    rw [length_sendPacket, length_sendPacket] at hlengths
    omega
  have hfold := (verifyChecksum_iff hlen).mp haccepts
  have hfold' := foldCarry_ne_of_agreeOutside (show 2 ≤ 4 by omega) hagree hne hswap hswap'
    (wordSum_sendPacket_lt hlen) (wordSum_sendPacket_lt hlen') hfold
  exact Bool.eq_false_iff.mpr (mt (verifyChecksum_iff hlen').mp hfold')

/-- One byte of a word differs, so the word does not change between the two zeros. -/
theorem AltersByte.altersWord {j : Nat} (h : AltersByte j packet altered) :
    AltersWord (j / 2) packet altered := by
  rcases h with ⟨b, hj, hb, hset⟩
  have hget : ∀ k, (UdpDriver.sendPacket altered).getD k 0 =
      if k = j then b else (UdpDriver.sendPacket packet).getD k 0 := by
    intro k
    rw [hset, List.getD_eq_getElem?_getD, List.getElem?_set, List.getD_eq_getElem?_getD]
    by_cases hk : j = k
    · subst hk
      simp [hj]
    · simp [hk, Ne.symm hk]
  have hne : b.toNat ≠ ((UdpDriver.sendPacket packet).getD j 0).toNat :=
    mt UInt8.toNat_inj.mp hb
  have hlow := ((UdpDriver.sendPacket packet).getD (2 * (j / 2)) 0).toNat_lt
  have hhigh := ((UdpDriver.sendPacket packet).getD (2 * (j / 2) + 1) 0).toNat_lt
  have hbyte := b.toNat_lt
  have hagree : AgreeOutside (j / 2) (UdpDriver.sendPacket packet)
      (UdpDriver.sendPacket altered) := by
    refine ⟨by rw [hset, List.length_set], ?_⟩
    intro k hk
    rw [hget, if_neg]
    rintro rfl
    exact hk rfl
  have hcases : j = 2 * (j / 2) ∨ j = 2 * (j / 2) + 1 := by omega
  refine ⟨hagree, ?_⟩
  simp only [wordAt, hget]
  rcases hcases with heven | hodd
  · rw [if_pos heven.symm, if_neg (by omega)]
    rw [heven] at hne
    omega
  · rw [if_neg (by omega), if_pos hodd.symm]
    rw [hodd] at hne
    omega

/-- A flipped bit alters its byte. -/
theorem FlipsBit.altersByte {j k : Nat} (h : FlipsBit j k packet altered) :
    AltersByte j packet altered := by
  refine ⟨_, h.1, ?_, h.2.2⟩
  have hbit : ∀ k < 8, (1 : UInt8) <<< UInt8.ofNat k ≠ 0 := by decide
  intro heq
  exact hbit k h.2.1 (by simpa using heq)

/-- Every alteration of an accepted packet that is confined to one aligned word is rejected,
unless it swaps the two zeros; in particular every alteration of one byte or one bit. -/
theorem alteration_rejected (haccepts : verifyChecksum packet = true)
    (hlen : packet.payload.length ≤ maxDatagramPayload) :
    (∀ i, AltersWord i packet altered → verifyChecksum altered = false) ∧
      (∀ j, AltersByte j packet altered → verifyChecksum altered = false) ∧
      ∀ j k, FlipsBit j k packet altered → verifyChecksum altered = false := by
  have hword : ∀ i, AltersWord i packet altered → verifyChecksum altered = false :=
    fun i => verifyChecksum_altersWord haccepts hlen
  have hbyte : ∀ j, AltersByte j packet altered → verifyChecksum altered = false :=
    fun j h => hword _ h.altersWord
  exact ⟨hword, hbyte, fun j k h => hbyte _ h.altersByte⟩

/-- The stamped packet with its last byte changed. -/
theorem alteration_rejected_lastByte :
    verifyChecksum { calculateChecksum oddPacket with payload := [8, 9, 11] } = false :=
  (@alteration_rejected (calculateChecksum oddPacket)
    { calculateChecksum oddPacket with payload := [8, 9, 11] } (by decide +kernel)
    (by decide)).2.1 22 ⟨11, by decide +kernel, by decide +kernel, by decide +kernel⟩

end MyuTcp
