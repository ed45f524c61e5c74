import GossipGate.Engine.Receive
import GossipGate.Engine.Upkeep

namespace GossipGate

/-- What can be asked of a gate. -/
inductive Call where
  | message (m : Message)
  | activity (peer : String)
  | cleanup
  | setTier (requested : String)
  | close

inductive Answer where
  | verdict (suppressed : Bool)
  | removed (counts : CleanupCounts)
  | done
  deriving DecidableEq, Repr

namespace Engine

variable {α : Type} [Scalar α]

/-- Carries one call out while the clock reads `now`. -/
def perform (e : Engine α) (now : Nat) : Call → Except Fault (Reply α Answer)
  | .message m => (e.receive now m).map (Reply.map Answer.verdict)
  | .activity peer => .ok ⟨e.trackPeer peer now, .done, []⟩
  | .cleanup => .ok ((e.cleanup now).map Answer.removed)
  | .setTier requested => .ok ((e.setTier now requested).map fun _ => .done)
  | .close => .ok (e.close.map fun _ => .done)

/-- Carries calls out one after another, each with its own reading of the clock. -/
def run (e : Engine α) : List (Nat × Call) → Except Fault (Reply α (List Answer))
  | [] => .ok ⟨e, [], []⟩
  | (now, call) :: rest => do
    let first ← e.perform now call
    let later ← first.engine.run rest
    return ⟨later.engine, first.value :: later.value, first.events ++ later.events⟩

end Engine

end GossipGate
