import MyuTcp.Core.Stack
import MyuTcp.Core.Timers

/-!
# A network of hosts

Any number of hosts, each with a stack, and what travels between them: the network delivers a
datagram to the host that it is addressed to, any number of times and at any time, or bytes that
hold no packet with a right checksum.

A session sends to its remote address, to the addresses that its timers have captured, and, when
the timer of a data segment expires, to the default address of {lit}`_handle_retransmit`.

Main results:

- Theorem {lit}`within_step`: a session sends to no other addresses, as long as its owner gives it
  none.
- Theorem {lit}`packet_of_parse`: a packet arrives as it was sent.
-/

namespace MyuTcp

open Library

/-! ## The addresses that a session knows -/

/-- Where a datagram goes. -/
def Datagram.address (d : Datagram) : Address := Address.of d.destIp d.destPort

/-- Where a closure sends its packet. -/
def RetransmitClosure.address (c : RetransmitClosure) : Address :=
  Address.of c.capturedIp c.capturedPort

/-- The default arguments of {lit}`_handle_retransmit`. -/
def defaultAddress : Address := Address.of defaultCapturedIp defaultCapturedPort

namespace TcpSession

/-- The address of the peer. -/
def remoteAddress (s : TcpSession) : Address := Address.of s.remoteIp s.remotePort

/-- All addresses that the session sends to have a property. -/
structure Within (known : Address → Prop) (s : TcpSession) : Prop where
  remote : known s.remoteAddress
  timers : ∀ k t, s.timerManager.activeAt k = some t → known t.callback.address
  sent : ∀ d ∈ s.sent, known d.address

/-- The owner of the session gives it no address without the property. -/
def GivesAddress (known : Address → Prop) : Event → Prop
  | .setRemoteAddr ip port => known (Address.of ip port)
  | _ => True

section Within

variable {known : Address → Prop} {s₀ s s' a b : TcpSession} {e : Event}

/-- Fewer timers, and the same log. -/
theorem Within.of_subset (h : Within known a) (hremote : b.remoteAddress = a.remoteAddress)
    (htimers : ∀ k t, b.timerManager.activeAt k = some t → a.timerManager.activeAt k = some t)
    (hsent : b.sent = a.sent) : Within known b where
  remote := hremote ▸ h.remote
  timers k t ht := h.timers k t (htimers k t ht)
  sent d hd := h.sent d (hsent ▸ hd)

/-- Address, timers and log alone decide. -/
theorem Within.of_eq (h : Within known a) (hremote : b.remoteAddress = a.remoteAddress)
    (htimers : b.timerManager = a.timerManager) (hsent : b.sent = a.sent) : Within known b :=
  h.of_subset hremote (fun _ _ ht => htimers ▸ ht) hsent

/-- Fewer timers, and one more packet. -/
theorem Within.append {d : Datagram} (h : Within known a)
    (hremote : b.remoteAddress = a.remoteAddress)
    (htimers : ∀ k t, b.timerManager.activeAt k = some t → a.timerManager.activeAt k = some t)
    (hsent : b.sent = a.sent ++ [d]) (hd : known d.address) : Within known b where
  remote := hremote ▸ h.remote
  timers k t ht := h.timers k t (htimers k t ht)
  sent d' hd' := by
    rw [hsent, List.mem_append, List.mem_singleton] at hd'
    rcases hd' with hd' | rfl
    · exact h.sent d' hd'
    · exact hd

/-- One more packet, with its timer. -/
theorem Within.start {m : TimerManager RetransmitClosure} {d : Datagram} {k : UInt32}
    {timeoutMs : UInt64} {c : RetransmitClosure} (h : Within known a)
    (hremote : b.remoteAddress = a.remoteAddress)
    (hold : ∀ j t, m.activeAt j = some t → a.timerManager.activeAt j = some t)
    (htimers : b.timerManager = m.startTimer k timeoutMs c) (hsent : b.sent = a.sent ++ [d])
    (hc : known c.address) (hd : known d.address) : Within known b where
  remote := hremote ▸ h.remote
  timers j t ht := by
    rw [htimers, TimerManager.activeAt_startTimer] at ht
    split at ht
    · cases ht
      exact hc
    · exact h.timers j t (hold j t ht)
  sent d' hd' := by
    rw [hsent, List.mem_append, List.mem_singleton] at hd'
    rcases hd' with hd' | rfl
    · exact h.sent d' hd'
    · exact hd

/-- A data packet goes to the peer, its retransmission to the default address. -/
theorem Within.sendPayloadPacket (hdefault : known defaultAddress) (h : Within known s)
    (payload : List UInt8) (flags : UInt8) : Within known (s.sendPayloadPacket payload flags) := by
  by_cases hpayload : payload = []
  · rw [TcpSession.sendPayloadPacket, if_pos (by simp [hpayload])]
    exact h
  · rw [sendPayloadPacket_eq s hpayload]
    exact h.start rfl (fun _ _ ht => ht) rfl rfl hdefault h.remote

/-- {lit}`_handle_try_send` keeps to the known addresses. -/
theorem Within.handleTrySend (hdefault : known defaultAddress) (h : Within known s) :
    Within known s.handleTrySend := by
  by_cases htransmits : s.Transmits
  · rw [s.handleTrySend_of_transmits htransmits]
    exact h.start rfl (fun _ _ ht => ht) rfl rfl hdefault h.remote
  · rwa [s.handleTrySend_of_not htransmits]

/-- An acknowledgment keeps to the known addresses. -/
theorem Within.processAck (hdefault : known defaultAddress) (h : Within known s)
    (ackNum : UInt32) : Within known (s.processAck ackNum) := by
  have hrelease : Within known (s.releaseAcked ackNum) :=
    h.of_subset rfl (fun _ _ => activeAt_of_dropTimerUpTo) rfl
  rcases (s.releaseAcked ackNum).countDupAck_frame ackNum with ⟨last, count, hframe⟩
  have hcount : Within known ((s.releaseAcked ackNum).countDupAck ackNum) := by
    rw [hframe]
    exact hrelease.of_eq rfl rfl rfl
  have hfast : Within known
      (((s.releaseAcked ackNum).countDupAck ackNum).fastRetransmit ackNum) := by
    rw [fastRetransmit]
    split
    · have hstop : Within known { (s.releaseAcked ackNum).countDupAck ackNum with
          timerManager :=
            ((s.releaseAcked ackNum).countDupAck ackNum).timerManager.stopTimer ackNum } :=
        hcount.of_subset rfl (fun _ _ => activeAt_of_stopTimer) rfl
      rw [onRecvThreeDupAck]
      dsimp only
      split
      · exact (hstop.sendPayloadPacket hdefault _ _).of_eq rfl rfl rfl
      · exact hstop.of_eq rfl rfl rfl
    · exact hcount
  exact hfast.of_eq rfl rfl rfl

/-- An expiry sends to the address that its timer has captured. -/
theorem Within.runClosure {c : RetransmitClosure} (h : Within known s) (hc : known c.address) :
    Within known (s.runClosure c) := by
  by_cases hlimit : c.retransmitCount + 1 ≥ maxRetransmitCount
  · rw [runClosure_of_limit s hlimit]
    exact h.of_subset rfl (fun _ _ => activeAt_of_stopTimer) rfl
  · rw [runClosure_of_lt s hlimit]
    exact h.start rfl (fun _ _ => activeAt_of_stopTimer) rfl rfl hc hc

/-- Every move keeps to the known addresses. -/
theorem Move.within (hdefault : known defaultAddress) (h₀ : Within known s₀)
    (hgives : GivesAddress known e) (h : Within known a) (hmove : Move s₀ e a b) :
    Within known b := by
  have hkept : ∀ j t, a.timerManager.activeAt j = some t → a.timerManager.activeAt j = some t :=
    fun _ _ ht => ht
  cases hmove with
  | setRemoteAddr ip port => exact ⟨hgives, h.timers, h.sent⟩
  | connect iss =>
      rw [connect_eq]
      exact h.start rfl hkept rfl rfl h.remote h.remote
  | trySend s => exact h.handleTrySend hdefault
  | closeEstablished hstate =>
      rw [closeEstablished_eq]
      exact h.start rfl (fun _ _ => activeAt_of_stopAllTimers) rfl rfl h.remote h.remote
  | closeCloseWait s hstate =>
      rw [closeCloseWait_eq]
      exact h.start rfl hkept rfl rfl h.remote h.remote
  | abortOpening hstate =>
      rw [abortOpening_eq]
      exact h.append rfl (fun _ _ => activeAt_of_stopAllTimers) rfl h.remote
  | reset hrst => exact h.of_subset rfl (fun _ _ => activeAt_of_stopAllTimers) rfl
  | @passiveOpen packet iss hstate hsyn =>
      rw [handleListen_eq _ hsyn]
      exact h.start rfl hkept rfl rfl h.remote h.remote
  | @synAck packet iss hstate hsyn hflag hack =>
      rw [acceptSynAck_eq]
      exact h.append rfl (fun _ _ => activeAt_of_stopTimer) rfl h.remote
  | @peerSyn packet iss hstate hsyn hflag =>
      rw [acceptPeerSyn_eq]
      exact h.start rfl hkept rfl rfl h.remote h.remote
  | synReceivedAck hstate hflag hack => exact h.of_subset rfl (fun _ _ => activeAt_of_stopTimer) rfl
  | ack haccepts => exact h.processAck hdefault _
  | pureAck s hstate => exact h.append rfl hkept rfl h.remote
  | inOrder s hstate hseq hdrain =>
      rw [reassemble, acceptPayload]
      split <;> exact h.of_eq rfl rfl rfl
  | outOfOrder s hstate hseq =>
      rw [storeOutOfOrder]
      split
      · exact h.of_eq rfl rfl rfl
      · exact h
  | fin s hfin hnext horder => exact h.append rfl hkept rfl h.remote
  | finAcked hstate hflag hack => exact h.of_subset rfl (fun _ _ => activeAt_of_stopTimer) rfl
  | start2Msl s hstate => exact h.of_subset rfl hkept rfl
  | finishCloseWait s hstate =>
      by_cases hdrained : a.Drained
      · rw [finishCloseWait_of_drained _ hdrained]
        exact h.start rfl (fun _ _ => activeAt_of_stopAllTimers) rfl rfl h.remote h.remote
      · rwa [finishCloseWait_of_not _ hdrained]
  | lastAck hstate hflag hack => exact h.of_subset rfl (fun _ _ => activeAt_of_stopTimer) rfl
  | @expire k t hactive =>
      have hstop : Within known { s₀ with timerManager := s₀.timerManager.stopTimer k } :=
        h₀.of_subset rfl (fun _ _ => activeAt_of_stopTimer) rfl
      exact hstop.runClosure (h₀.timers k t hactive)
  | expire2Msl hactive => exact h.of_subset rfl hkept rfl
  | _ => exact h.of_eq rfl rfl rfl

/-- A session sends to no addresses but those it knows. -/
theorem within_step (hdefault : known defaultAddress) (h : Within known s)
    (hgives : GivesAddress known e) (hstep : step s e = some s') : Within known s' :=
  (step_moves hstep).preserves (fun _ _ ha hmove => hmove.within hdefault h hgives ha) h

end Within

end TcpSession

/-! ## The network -/

/-- The stack of each host. -/
abbrev Network := Address → TcpStack

/-- An event of one of the stacks. -/
structure NetworkEvent where
  host : Address
  event : TcpStack.StackEvent

namespace Network

/-- A network whose hosts have no sessions. -/
def new : Network := fun _ => TcpStack.new

/-- The bytes are a datagram that the stack has handed to its driver for the given host, or they
hold no packet with a right checksum. -/
def Carried (st : TcpStack) (k : Address) (bytes : List UInt8) : Prop :=
  (∃ d ∈ st.sent, d.address = k ∧ UdpDriver.sendPacket d.packet = bytes) ∨
    (UdpDriver.onUvRecv bytes).any verifyChecksum = false

instance (st : TcpStack) (k : Address) (bytes : List UInt8) : Decidable (Carried st k bytes) :=
  inferInstanceAs (Decidable (_ ∨ _))

/-- A datagram comes from the host that has sent it. -/
def Possible (n : Network) (e : NetworkEvent) : Prop :=
  match e.event with
  | .datagram j bytes _ _ => Carried (n j) e.host bytes
  | _ => True

instance (n : Network) (e : NetworkEvent) : Decidable (n.Possible e) := by
  unfold Possible
  split <;> infer_instance

/-- One event of one host. -/
def step : StepFn Network NetworkEvent := fun n e =>
  if n.Possible e then (TcpStack.step (n e.host) e.event).map (Function.update n e.host) else none

/-- A step of the network is one of a host. -/
theorem step_eq_some_iff {n n' : Network} {e : NetworkEvent} :
    step n e = some n' ↔ n.Possible e ∧
      ∃ st', TcpStack.step (n e.host) e.event = some st' ∧ n' = Function.update n e.host st' := by
  unfold step
  split <;> rename_i hpossible
  · simp [hpossible, eq_comm]
  · simp [hpossible]

section Arrivals

variable {packet : MyuTcpPacket}

/-- The stack's own RST has no checksum. -/
theorem verifyChecksum_resetPacket : verifyChecksum TcpStack.resetPacket = false := by
  decide +kernel

/-- A packet without options arrives as it was sent. -/
theorem packet_of_parse {d : Datagram} (hoptions : d.packet.options = [])
    (hparse : UdpDriver.onUvRecv (UdpDriver.sendPacket d.packet) = some packet) :
    d.packet = packet := by
  rw [UdpDriver.onUvRecv_sendPacket, Option.some.injEq] at hparse
  rw [← hparse, ← hoptions]

end Arrivals

end Network

end MyuTcp
