import GossipGate.Engine.Upkeep

namespace GossipGate

/-- A schedule of cleanups at every multiple of an interval, in milliseconds since its start. -/
structure Maintenance where
  interval : Nat
  elapsed : Nat
  stopped : Bool
  deriving DecidableEq, Repr

namespace Maintenance

def start (interval : Nat) : Maintenance := ⟨interval, 0, false⟩

/-- Whether a schedule still runs. One without an interval ends by itself when time passes. -/
def isRunning (m : Maintenance) : Bool := !m.stopped && (0 < m.interval || m.elapsed = 0)

/-- Whether cleanups take place. -/
def isActive (m : Maintenance) : Bool := !m.stopped && 0 < m.interval

/-- How many cleanups fall due while some time passes. -/
def due (m : Maintenance) (millis : Nat) : Nat :=
  if m.isActive then (m.elapsed + millis) / m.interval - m.elapsed / m.interval else 0

variable {α : Type} [Scalar α]

/-- One scheduled cleanup. -/
def tick (e : Engine α) (now : Nat) : Engine α × List (Event α) :=
  let reply := e.cleanup now
  let report :=
    if reply.value.isZero then []
    else [Event.maintained reply.value.entries reply.value.peers]
  (reply.engine, reply.events ++ report)

def ticks (now : Nat) : Nat → Engine α → Engine α × List (Event α)
  | 0, e => (e, [])
  | more + 1, e =>
    let first := tick e now
    let later := ticks now more first.1
    (later.1, first.2 ++ later.2)

/-- Lets time pass for the schedule; the clock of the gate reads `now` throughout. -/
def sleep (m : Maintenance) (e : Engine α) (now millis : Nat) :
    Maintenance × Engine α × List (Event α) :=
  ({ m with elapsed := m.elapsed + millis }, ticks now (m.due millis) e)

/-- Stops the schedule, once. -/
def stop (m : Maintenance) : Maintenance × List (Event α) :=
  ({ m with stopped := true }, if m.isActive then [.maintenanceStopped] else [])

end Maintenance

end GossipGate
