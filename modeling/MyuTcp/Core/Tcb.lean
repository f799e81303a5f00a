import MyuTcp.Core.RingBuffer
import MyuTcp.Core.Segment
import MyuTcp.Network.TimerManager

/-!
# TcpSession

The control block of {lit}`include/myutcp/core/tcb.h` and its operations from
{lit}`src/core/tcb.cpp`, for a session whose duplicate-ACK callback is the default
one that {lit}`TcpStack::create_session` installs.  An operation maps the session
to the session after it.  The packets handed to {lit}`UdpDriver::send_packet` and
the callbacks invoked are kept, oldest first, in two logs of the session.

A retransmission closure is the record of what it captures.  The shared packet
that a closure rewrites is reachable from that closure alone, so the closure
carries it by value.  Log lines, clocks and the host-side port numbers that the
source leaves indeterminate have no counterpart.

The only operation that can fail to return is the reassembly loop of
{lit}`_handle_incoming_packet`; its divergence is {lit}`none`, and {lit}`none`
propagates through {lit}`handleEstablished` and {lit}`input`.
-/

namespace MyuTcp

/-! ## Data -/

/-- The states of {lit}`TcpState`. -/
inductive TcpState
  | closed
  | listen
  | synSent
  | synReceived
  | established
  | finWait1
  | finWait2
  | closeWait
  | lastAck
  | timeWait
deriving DecidableEq, Repr

/-- The retransmission timeout of a new session, in milliseconds. -/
def initialRto : UInt32 := 1000

/-- The slow-start threshold of a new session. -/
def initialSsthresh : UInt32 := 8

/-- The number of expiries after which a packet is given up. -/
def maxRetransmitCount : UInt32 := 5

/-- Default arguments of {lit}`_handle_retransmit`. -/
def defaultCapturedIp : String := "127.0.0.1"

/-- The port that goes with it. -/
def defaultCapturedPort : UInt16 := 9999

/-- The send side: the first number that is not acknowledged, the next one to use, the congestion
window and the number drawn at construction. -/
structure SendWindow where
  sendUnack : UInt32
  sendNext : UInt32
  sendWindowSize : UInt32
  initialSendSeq : UInt32

/-- Free part of the congestion window, zero when more is in flight. -/
def SendWindow.getUsableWindowSize (w : SendWindow) : Nat :=
  let inflight := w.sendNext - w.sendUnack
  if w.sendWindowSize > inflight then (w.sendWindowSize - inflight).toNat else 0

/-- The receive side: the next number expected, the window in which segments ahead of it are
kept, and the number drawn at construction. -/
structure RecvWindow where
  recvNext : UInt32
  recvWindowSize : UInt32
  initialRecvSeq : UInt32

/-- A packet as handed to the driver, with the address passed to {lit}`uv_ip4_addr`. -/
structure Datagram where
  packet : MyuTcpPacket
  destIp : String
  destPort : UInt16

/-- What a retransmission timer captures. -/
structure RetransmitClosure where
  packet : MyuTcpPacket
  retransmitCount : UInt32
  capturedIp : String
  capturedPort : UInt16

/-- An invocation of a callback that is set, or of {lit}`set_on_receive`. -/
inductive CallbackCall
  | setOnReceive
  | established
  | data (size : Nat)
  | closed
deriving DecidableEq, Repr

/-- The fields of {lit}`TcpSession`, with the packets sent and the callbacks invoked so far in
{lit}`sent` and {lit}`calls`. -/
structure TcpSession where
  state : TcpState
  sendBuffer : RingQueue UInt8 1024
  recvBuffer : RingQueue UInt8 1024
  oooMap : Library.OrderedMap UInt32 (List UInt8)
  inflightPackets : Library.OrderedMap UInt32 MyuTcpPacket
  sent : List Datagram
  calls : List CallbackCall
  listenerPort : UInt16
  remoteIp : String
  remotePort : UInt16
  userWantToClose : Bool
  peerUsableWindowSize : UInt32
  timerManager : TimerManager RetransmitClosure
  sendWindow : SendWindow
  recvWindow : RecvWindow
  ssthresh : UInt32
  currentRto : UInt32
  lastAckReceived : UInt32
  dupAckCount : Nat
  autoCloseOnEof : Bool

namespace TcpSession

/-- An empty byte ring of the session's capacity. -/
def emptyRing : RingQueue UInt8 1024 := RingQueue.empty (by decide) (by decide)

/-- The constructor.  The two initial sequence fields are drawn at random; the two
ports are indeterminate until they are set. -/
def new (initialSendSeq initialRecvSeq : UInt32) (listenerPort remotePort : UInt16) :
    TcpSession where
  state := .closed
  sendBuffer := emptyRing
  recvBuffer := emptyRing
  oooMap := Library.OrderedMap.empty
  inflightPackets := Library.OrderedMap.empty
  sent := []
  calls := []
  listenerPort := listenerPort
  remoteIp := "127.0.0.1"
  remotePort := remotePort
  userWantToClose := false
  peerUsableWindowSize := 0
  timerManager := TimerManager.init
  sendWindow :=
    { sendUnack := 0, sendNext := 0, sendWindowSize := 1, initialSendSeq := initialSendSeq }
  recvWindow := { recvNext := 0, recvWindowSize := 1, initialRecvSeq := initialRecvSeq }
  ssthresh := initialSsthresh
  currentRto := initialRto
  lastAckReceived := initialSendSeq
  dupAckCount := 0
  autoCloseOnEof := true

/-- The address that packets are sent to. -/
def setRemoteAddr (ip : String) (port : UInt16) (s : TcpSession) : TcpSession :=
  { s with remoteIp := ip, remotePort := port }

/-- The port that packets are sent from. -/
def setListenerPort (port : UInt16) (s : TcpSession) : TcpSession :=
  { s with listenerPort := port }

/-- The timeout of a timer that is started now. -/
def getTimeoutMs (s : TcpSession) : UInt64 := s.currentRto.toUInt64

/-- The free space of the receive buffer, which is advertised to the peer. -/
def getUsableRecvWindowSize (s : TcpSession) : UInt32 :=
  UInt32.ofNat (s.recvBuffer.capacity - s.recvBuffer.size)

/-- {lit}`_transition_to`.  The log line has no counterpart. -/
def transitionTo (newState : TcpState) (s : TcpSession) : TcpSession :=
  { s with state := newState }

/-- Invoke a callback. -/
def notify (call : CallbackCall) (s : TcpSession) : TcpSession :=
  { s with calls := s.calls ++ [call] }

/-- {lit}`UdpDriver::send_packet`. -/
def sendPacket (packet : MyuTcpPacket) (ip : String) (port : UInt16) (s : TcpSession) :
    TcpSession :=
  { s with sent := s.sent ++ [{ packet := packet, destIp := ip, destPort := port }] }

/-! ## Emission -/

/-- The header that all three emission functions fill in.  The source leaves the
checksum and urgent fields to the stamp and to chance. -/
def segmentHeader (s : TcpSession) (flags : UInt8) (ackNum : UInt32) : MyuTcpHeader where
  sPort := htons s.listenerPort
  dPort := htons s.remotePort
  seqNum := htonl s.sendWindow.sendNext
  ackNum := htonl ackNum
  dataOffsetAndReserved := (5 : UInt8) <<< 4
  flags := flags
  windowSize := htons s.getUsableRecvWindowSize.toUInt16
  checksum := 0
  urgentPtr := 0

/-- The packet that an emission function builds, before the checksum is stamped. -/
def segment (flags : UInt8) (ackNum : UInt32) (payload : List UInt8) (s : TcpSession) :
    MyuTcpPacket where
  header := s.segmentHeader flags ackNum
  payload := payload

/-- {lit}`_send_pure_ack`: a packet with ACK alone, which uses no number. -/
def sendPureAck (ackNum : UInt32) (s : TcpSession) : TcpSession :=
  s.sendPacket (calculateChecksum (s.segment flagAck ackNum [])) s.remoteIp s.remotePort

/-- {lit}`_send_control_packet`: a packet without payload.  A SYN or a FIN uses a number and is
guarded by a timer that remembers the address of the peer. -/
def sendControlPacket (flags : UInt8) (s : TcpSession) : TcpSession :=
  let packet := calculateChecksum (s.segment flags s.recvWindow.recvNext [])
  let s' :=
    if packet.has flagSyn || packet.has flagFin then
      { s with
        timerManager := s.timerManager.startTimer s.sendWindow.sendNext s.getTimeoutMs
          { packet := packet, retransmitCount := 0,
            capturedIp := s.remoteIp, capturedPort := s.remotePort }
        sendWindow.sendNext := s.sendWindow.sendNext + 1 }
    else s
  s'.sendPacket packet s.remoteIp s.remotePort

/-- The in-flight map is keyed by the header field, in network order.  The closure
is registered with the default address arguments. -/
def sendPayloadPacket (payload : List UInt8) (flags : UInt8) (s : TcpSession) : TcpSession :=
  if payload.isEmpty then s
  else
    let packet := s.segment flags s.recvWindow.recvNext payload
    let stamped := calculateChecksum packet
    let s' :=
      { s with
        inflightPackets := s.inflightPackets.tryEmplace packet.header.seqNum packet
        timerManager := s.timerManager.startTimer s.sendWindow.sendNext s.getTimeoutMs
          { packet := stamped, retransmitCount := 0,
            capturedIp := defaultCapturedIp, capturedPort := defaultCapturedPort }
        sendWindow.sendNext := s.sendWindow.sendNext + UInt32.ofNat payload.length }
    s'.sendPacket stamped s.remoteIp s.remotePort

/-- The packet a retransmission sends: new acknowledgment, window and checksum. -/
def refreshPacket (packet : MyuTcpPacket) (s : TcpSession) : MyuTcpPacket :=
  calculateChecksum
    { packet with
      header := packet.header.withAckAndWindow s.recvWindow.recvNext
        s.getUsableRecvWindowSize.toUInt16 }

/-- The slow-start threshold chosen at a timeout. -/
def timeoutSsthresh (cwnd : UInt32) : UInt32 :=
  if cwnd % 2 ≠ 0 then (cwnd + 1) / 2 else cwnd + 1

/-- {lit}`_handle_retransmit`: at the limit the packet is given up, below it the window
collapses, the timer starts again with a longer timeout, and the packet is sent with a new
acknowledgment. -/
def handleRetransmit (packet : MyuTcpPacket) (retransmitCount retrSeqNum : UInt32)
    (nextTimeoutMs : UInt64) (capturedIp : String) (capturedPort : UInt16) (s : TcpSession) :
    Bool × TcpSession :=
  let packet := s.refreshPacket packet
  let count := retransmitCount + 1
  let s := { s with timerManager := s.timerManager.stopTimer retrSeqNum }
  if count ≥ maxRetransmitCount then (false, s)
  else
    let s :=
      { s with
        ssthresh := timeoutSsthresh s.sendWindow.sendWindowSize
        sendWindow.sendWindowSize := 1
        timerManager := s.timerManager.startTimer retrSeqNum
          (nextTimeoutMs * (1 <<< count.toUInt64))
          { packet := packet, retransmitCount := count,
            capturedIp := capturedIp, capturedPort := capturedPort } }
    (true, s.sendPacket packet capturedIp capturedPort)

/-- Run a retransmission closure, as its timer's callback does. -/
def runClosure (c : RetransmitClosure) (s : TcpSession) : TcpSession :=
  (s.handleRetransmit c.packet c.retransmitCount c.packet.seq s.getTimeoutMs
    c.capturedIp c.capturedPort).2

/-- How many numbers are in flight. -/
def inflight (s : TcpSession) : UInt32 :=
  s.sendWindow.sendNext - s.sendWindow.sendUnack

/-- Transmit what the congestion window allows.  The allowance is an unsigned
difference. -/
def handleTrySend (s : TcpSession) : TcpSession :=
  match s.state with
  | .timeWait | .finWait1 | .finWait2 | .closed | .lastAck | .listen | .synReceived
  | .synSent => s
  | .established | .closeWait =>
      let allowance := s.sendWindow.sendWindowSize - s.inflight
      if allowance = 0 then s
      else s.sendPayloadPacket (s.sendBuffer.peekRange s.inflight.toNat allowance.toNat) flagAck

/-! ## Acknowledgments -/

/-- The range test on an acknowledgment number. -/
def acceptsAck (s : TcpSession) (ackNum : UInt32) : Bool :=
  ackNum > s.sendWindow.sendUnack && ackNum ≤ s.sendWindow.sendNext

/-- Drop timers, buffered bytes and in-flight packets below an accepted number. -/
def releaseAcked (ackNum : UInt32) (s : TcpSession) : TcpSession :=
  { s with
    timerManager := s.timerManager.dropTimerUpTo (ackNum - 1)
    sendBuffer := s.sendBuffer.popFront (ackNum - s.sendWindow.sendUnack).toNat
    sendWindow.sendUnack := ackNum
    inflightPackets := s.inflightPackets.dropBelow ackNum }

/-- Count repetitions of the last acknowledgment number. -/
def countDupAck (ackNum : UInt32) (s : TcpSession) : TcpSession :=
  if s.lastAckReceived < ackNum then { s with lastAckReceived := ackNum, dupAckCount := 0 }
  else if s.lastAckReceived = ackNum then { s with dupAckCount := s.dupAckCount + 1 }
  else s

/-- The default {lit}`on_recv_three_dup_ack` callback. -/
def onRecvThreeDupAck (ackNum : UInt32) (s : TcpSession) : TcpSession :=
  let s := { s with timerManager := s.timerManager.stopTimer ackNum }
  match s.inflightPackets.find? ackNum with
  | some packet => s.sendPayloadPacket packet.payload packet.header.flags
  | none => s

/-- Fast retransmit after the third duplicate. -/
def fastRetransmit (ackNum : UInt32) (s : TcpSession) : TcpSession :=
  if s.dupAckCount = 3 then
    let s := s.onRecvThreeDupAck ackNum
    let swz := s.sendWindow.sendWindowSize
    { s with ssthresh := swz / 2, sendWindow.sendWindowSize := swz / 2 + 3, dupAckCount := 0 }
  else s

/-- Growth of the congestion window by one accepted acknowledgment. -/
def grownWindow (cwnd ssthresh : UInt32) : UInt32 :=
  if cwnd < ssthresh then cwnd * 2 else cwnd + 1

/-- Slow start below the threshold, one more above it. -/
def growWindow (s : TcpSession) : TcpSession :=
  { s with sendWindow.sendWindowSize := grownWindow s.sendWindow.sendWindowSize s.ssthresh }

/-- Everything {lit}`_handle_ack` does with an accepted number before it sends. -/
def processAck (ackNum : UInt32) (s : TcpSession) : TcpSession :=
  (((s.releaseAcked ackNum).countDupAck ackNum).fastRetransmit ackNum).growWindow

/-- {lit}`_handle_ack`: an acknowledgment of something in flight is processed and may let more
data out; any other is rejected. -/
def handleAck (packet : MyuTcpPacket) (s : TcpSession) : Bool × TcpSession :=
  if s.acceptsAck packet.ack then (true, (s.processAck packet.ack).handleTrySend)
  else (false, s)

/-! ## Incoming payload -/

/-- The loop over the stored out-of-order segments, in key order: the number of
entries it erases, the receive buffer and the next expected number.  When the
segment next in line does not fit, neither the iterator nor its comparison
changes, and the loop does not return. -/
def drainOutOfOrder : List (UInt32 × List UInt8) → RingQueue UInt8 1024 → UInt32 →
    Option (Nat × RingQueue UInt8 1024 × UInt32)
  | [], buffer, recvNext => some (0, buffer, recvNext)
  | (seqNum, payload) :: rest, buffer, recvNext =>
      if seqNum = recvNext then
        match buffer.pushBatch payload with
        | some buffer' =>
            (drainOutOfOrder rest buffer' (recvNext + UInt32.ofNat payload.length)).map
              fun r => (r.1 + 1, r.2)
        | none => none
      else some (0, buffer, recvNext)

/-- Append an in-order payload if the receive buffer has room for it. -/
def acceptPayload (payload : List UInt8) (s : TcpSession) : TcpSession :=
  match s.recvBuffer.pushBatch payload with
  | some buffer =>
      { s with
        recvBuffer := buffer
        recvWindow.recvNext := s.recvWindow.recvNext + UInt32.ofNat payload.length }
  | none => s

/-- Keep an out-of-order payload that starts inside the receive window. -/
def storeOutOfOrder (seqNum : UInt32) (payload : List UInt8) (s : TcpSession) : TcpSession :=
  let windowEnd := s.recvWindow.recvNext + s.recvWindow.recvWindowSize
  if seqNum > s.recvWindow.recvNext ∧ seqNum < windowEnd then
    { s with oooMap := s.oooMap.insert seqNum payload }
  else s

/-- Take over what the loop over the stored segments did. -/
def reassemble (drained : Nat × RingQueue UInt8 1024 × UInt32) (s : TcpSession) : TcpSession :=
  { s with
    oooMap := s.oooMap.dropFirst drained.1
    recvBuffer := drained.2.1
    recvWindow.recvNext := drained.2.2 }

/-- {lit}`_handle_incoming_packet`: in-order payload is appended and followed by the stored
segments that continue it; payload ahead is kept if it is inside the window.  Either way a pure
ACK answers. -/
def handleIncomingPacket (packet : MyuTcpPacket) (s : TcpSession) :
    Option (Bool × TcpSession) :=
  if packet.seq = s.recvWindow.recvNext then
    let s := s.acceptPayload packet.payload
    (drainOutOfOrder s.oooMap.entries s.recvBuffer s.recvWindow.recvNext).map fun r =>
      let s := s.reassemble r
      (true, s.sendPureAck s.recvWindow.recvNext)
  else
    let s := s.storeOutOfOrder packet.seq packet.payload
    some (false, s.sendPureAck s.recvWindow.recvNext)

/-! ## Application calls -/

/-- The number of bytes accepted, and the session after the call. -/
def send (data : List UInt8) (s : TcpSession) : Nat × TcpSession :=
  if data.isEmpty then (0, s)
  else
    let bufferFreeSpace := s.sendBuffer.capacity - s.sendBuffer.size
    let toWrite := min data.length bufferFreeSpace
    match s.sendBuffer.pushBatch (data.take toWrite) with
    | none => (0, s)
    | some buffer => (toWrite, { s with sendBuffer := buffer }.handleTrySend)

/-- The active open.  The number drawn for it is a parameter. -/
def connect (iss : UInt32) (s : TcpSession) : TcpSession :=
  let s := s.transitionTo .synSent
  let s := s.notify .setOnReceive
  let s :=
    { s with sendWindow.sendNext := iss, sendWindow.sendUnack := iss }
  let s := s.sendControlPacket flagSyn
  { s with sendWindow.sendNext := iss + 1 }

/-- The part of {lit}`close` in ESTABLISHED that follows the send attempt. -/
def closeEstablished (s : TcpSession) : TcpSession :=
  let s := { s with timerManager := s.timerManager.stopAllTimers }
  let s := s.transitionTo .finWait1
  let s := s.sendControlPacket flagFin
  { s with userWantToClose := true }

/-- The part of {lit}`close` in CLOSE_WAIT, which does not look at the send buffer. -/
def closeCloseWait (s : TcpSession) : TcpSession :=
  let s := s.transitionTo .lastAck
  let s := s.sendControlPacket (flagFin ||| flagAck)
  { s with userWantToClose := true }

/-- Give up a connection that is not yet established. -/
def abortOpening (s : TcpSession) : TcpSession :=
  let s := s.sendControlPacket flagRst
  let s := { s with timerManager := s.timerManager.stopAllTimers }
  s.transitionTo .closed

/-- {lit}`close()`, by the state of the session. -/
def close (s : TcpSession) : TcpSession :=
  match s.state with
  | .established => s.handleTrySend.closeEstablished
  | .closeWait => s.closeCloseWait
  | .synSent | .synReceived => s.abortOpening
  | .closed | .listen | .finWait1 | .finWait2 | .lastAck | .timeWait => s

/-- {lit}`listen()`, which opens closed sessions only. -/
def listen (s : TcpSession) : TcpSession :=
  if s.state ≠ .closed then s else s.transitionTo .listen

/-- The read loops: take the front, pop one, {lit}`n` times. -/
def readLoop : Nat → RingQueue UInt8 1024 → List UInt8 × RingQueue UInt8 1024
  | 0, q => ([], q)
  | n + 1, q => (q.front :: (readLoop n (q.popFront 1)).1, (readLoop n (q.popFront 1)).2)

/-- The automatic close of a drained session whose peer has finished. -/
def closeOnEof (s : TcpSession) : TcpSession :=
  if s.recvBuffer.isEmpty && s.state = .closeWait then
    if s.autoCloseOnEof then s.close else s
  else s

/-- The bytes read into a buffer of the given size, and the session after the call. -/
def recv (bufSize : Nat) (s : TcpSession) : List UInt8 × TcpSession :=
  let toRead :=
    if !s.recvBuffer.isEmpty && bufSize ≠ 0 then min bufSize s.recvBuffer.size else 0
  let r := readLoop toRead s.recvBuffer
  (r.1, { s with recvBuffer := r.2 }.closeOnEof)

/-- {lit}`read_all()`: everything that the receive buffer holds. -/
def readAll (s : TcpSession) : List UInt8 × TcpSession :=
  let r := readLoop s.recvBuffer.size s.recvBuffer
  (r.1, { s with recvBuffer := r.2 }.closeOnEof)

/-! ## State handlers -/

/-- What {lit}`handle_syn_sent` does with the expected SYN-ACK before it sends data. -/
def acceptSynAck (packet : MyuTcpPacket) (s : TcpSession) : TcpSession :=
  let s :=
    { s with
      recvWindow.recvNext := packet.seq + 1
      sendWindow.sendUnack := packet.ack
      timerManager := s.timerManager.stopTimer (s.sendWindow.sendUnack + 1 - 1) }
  let s := s.sendPureAck s.recvWindow.recvNext
  (s.transitionTo .established).notify .established

/-- The answer to a SYN that carries no acknowledgment. -/
def acceptPeerSyn (packet : MyuTcpPacket) (s : TcpSession) : TcpSession :=
  let s := { s with recvWindow.recvNext := packet.seq + 1 }
  let s := s.transitionTo .synReceived
  s.sendControlPacket (flagSyn ||| flagAck)

/-- In SYN_SENT a SYN with the expected acknowledgment establishes the session, and a SYN alone
is answered as in a simultaneous open. -/
def handleSynSent (packet : MyuTcpPacket) (s : TcpSession) : TcpSession :=
  let expectedAck := s.sendWindow.sendUnack + 1
  if packet.has flagSyn && packet.has flagAck then
    if packet.ack ≠ expectedAck then s
    else (s.acceptSynAck packet).handleTrySend
  else if packet.has flagSyn then s.acceptPeerSyn packet
  else s

/-- Acknowledge a FIN: continue behind it and answer with a pure ACK. -/
def acceptFin (packet : MyuTcpPacket) (s : TcpSession) : TcpSession :=
  let s := { s with recvWindow.recvNext := packet.seq + 1 }
  s.sendPureAck s.recvWindow.recvNext

/-- Take an acknowledgment of exactly one more number, and stop its timer. -/
def advanceUnack (ackNum : UInt32) (s : TcpSession) : TcpSession :=
  { s with
    sendWindow.sendUnack := ackNum
    timerManager := s.timerManager.stopTimer (ackNum - 1) }

/-- The acknowledgment part of {lit}`handle_fin_wait_1`. -/
def handleFinWait1Ack (packet : MyuTcpPacket) (s : TcpSession) : TcpSession :=
  let expectedAck := s.sendWindow.sendUnack + 1
  if packet.has flagAck && packet.ack = expectedAck then
    (s.transitionTo .finWait2).advanceUnack packet.ack
  else s

/-- In FIN_WAIT_1 the acknowledgment is looked at before the FIN, which leads to CLOSE_WAIT
either way. -/
def handleFinWait1 (packet : MyuTcpPacket) (s : TcpSession) : TcpSession :=
  let s := s.handleFinWait1Ack packet
  if packet.has flagFin then (s.acceptFin packet).transitionTo .closeWait else s

/-- {lit}`_start_2msl_timer`. -/
def start2MslTimer (s : TcpSession) : TcpSession :=
  { s with timerManager := s.timerManager.start2Msl }

/-- In FIN_WAIT_2 a FIN leads to TIME_WAIT. -/
def handleFinWait2 (packet : MyuTcpPacket) (s : TcpSession) : TcpSession :=
  if packet.has flagFin then
    ((s.acceptFin packet).transitionTo .timeWait).start2MslTimer
  else s

/-- In TIME_WAIT a repeated FIN is acknowledged again. -/
def handleTimedWait (packet : MyuTcpPacket) (s : TcpSession) : TcpSession :=
  if packet.has flagFin then s.acceptFin packet else s

/-- The passive open.  The initial sequence number drawn for it is a parameter. -/
def handleListen (packet : MyuTcpPacket) (iss : UInt32) (s : TcpSession) : TcpSession :=
  if !packet.has flagSyn then s
  else
    let s :=
      { s with
        sendWindow.sendNext := iss
        sendWindow.sendUnack := iss
        recvWindow.recvNext := packet.seq + 1 }
    let s := s.setRemoteAddr s.remoteIp s.remotePort
    let s := s.transitionTo .synReceived
    let s := s.sendControlPacket (flagSyn ||| flagAck)
    { s with sendWindow.sendNext := iss + 1 }

/-- What {lit}`handle_syn_received` does with the expected number before it sends data. -/
def acceptSynReceivedAck (packet : MyuTcpPacket) (s : TcpSession) : TcpSession :=
  ((s.advanceUnack packet.ack).transitionTo .established).notify .established

/-- In SYN_RECEIVED the acknowledgment of the SYN establishes the session. -/
def handleSynReceived (packet : MyuTcpPacket) (s : TcpSession) : TcpSession :=
  if !packet.has flagAck then s
  else if packet.ack ≠ s.sendWindow.sendUnack + 1 then s
  else (s.acceptSynReceivedAck packet).handleTrySend

/-- The FIN that {lit}`handle_close_wait` sends once everything is acknowledged. -/
def finishCloseWait (s : TcpSession) : TcpSession :=
  if s.userWantToClose && s.sendBuffer.isEmpty &&
      s.sendWindow.sendUnack = s.sendWindow.sendNext then
    let s := { s with timerManager := s.timerManager.stopAllTimers }
    let s := s.sendControlPacket flagFin
    let s := { s with sendWindow.sendNext := s.sendWindow.sendNext + 1 }
    s.transitionTo .lastAck
  else s

/-- In CLOSE_WAIT every packet is answered, data may be sent, and a requested close is finished. -/
def handleCloseWait (_packet : MyuTcpPacket) (s : TcpSession) : TcpSession :=
  (s.sendPureAck s.recvWindow.recvNext).handleTrySend.finishCloseWait

/-- In LAST_ACK the acknowledgment of one more number closes the session. -/
def handleLastAck (packet : MyuTcpPacket) (s : TcpSession) : TcpSession :=
  if !packet.has flagAck then s
  else if packet.ack ≠ s.sendWindow.sendUnack + 1 then s
  else ((s.advanceUnack packet.ack).transitionTo .closed).notify .closed

/-- A reset closes the session in every state. -/
def handleReset (s : TcpSession) : TcpSession :=
  let s := { s with timerManager := s.timerManager.stopAllTimers }
  (s.transitionTo .closed).notify .closed

/-- The FIN part of {lit}`handle_established`. -/
def handleEstablishedFin (packet : MyuTcpPacket) (s : TcpSession) : TcpSession :=
  if packet.has flagFin then
    ((s.acceptFin packet).transitionTo .closeWait).notify (.data 0)
  else s

/-- The payload part of {lit}`handle_established`. -/
def handleEstablishedPayload (packet : MyuTcpPacket) (s : TcpSession) : Option TcpSession :=
  if packet.payload.length > 0 then
    (s.handleIncomingPacket packet).map fun r =>
      if r.1 then r.2.notify (.data r.2.recvBuffer.size) else r.2
  else some s

/-- In ESTABLISHED the acknowledgment, the payload and the FIN are handled in this order. -/
def handleEstablished (packet : MyuTcpPacket) (s : TcpSession) : Option TcpSession :=
  let s := if packet.has flagAck then (s.handleAck packet).2.handleTrySend else s
  (s.handleEstablishedPayload packet).map (handleEstablishedFin packet)

/-- Whether neither ACK, SYN nor FIN is set, so that the packet is ignored. -/
def lacksFlags (packet : MyuTcpPacket) : Bool :=
  (!packet.has flagAck && !packet.has flagSyn) && (!packet.has flagAck && !packet.has flagFin)

/-- The window that the peer advertises. -/
def setPeerUsableWindowSize (size : UInt32) (s : TcpSession) : TcpSession :=
  { s with peerUsableWindowSize := size }

/-- Take over the window that a packet advertises. -/
def observe (packet : MyuTcpPacket) (s : TcpSession) : TcpSession :=
  s.setPeerUsableWindowSize packet.window.toUInt32

/-- The dispatch of {lit}`input` on the state, for a packet that passed its checks. -/
def dispatch (packet : MyuTcpPacket) (iss : UInt32) (s : TcpSession) : Option TcpSession :=
  match s.state with
  | .closed => some { s with userWantToClose := false }
  | .listen => some (s.handleListen packet iss)
  | .synSent => some (s.handleSynSent packet)
  | .synReceived => some (s.handleSynReceived packet)
  | .established => s.handleEstablished packet
  | .finWait1 => some (s.handleFinWait1 packet)
  | .finWait2 => some (s.handleFinWait2 packet)
  | .closeWait => some (s.handleCloseWait packet)
  | .lastAck => some (s.handleLastAck packet)
  | .timeWait => some (s.handleTimedWait packet)

/-- {lit}`input`: the checksum, then a reset, then the flags, and then the handler of the state. -/
def input (packet : MyuTcpPacket) (iss : UInt32) (s : TcpSession) : Option TcpSession :=
  if !verifyChecksum packet then some s
  else if packet.has flagRst then some s.handleReset
  else if lacksFlags packet then some s
  else (s.observe packet).dispatch packet iss

/-- {lit}`_handle_2msl_timeout`. -/
def handle2MslTimeout (s : TcpSession) : TcpSession :=
  let s := s.transitionTo .closed
  { s with timerManager := s.timerManager.stop2Msl }.notify .closed

end TcpSession

end MyuTcp
