import GossipGate.Engine

namespace GossipGate

namespace Engine

variable {α : Type} [Scalar α]

/-- The TTLs that the types of messages learn from a new global TTL, as new records. Only adaptive
learning yields any. -/
def learn (e : Engine α) (global : Duration) : Except Fault (List (String × Traffic α)) :=
  if e.profile.adaptiveLearning then do
    let learned ← e.traffic.entries.mapM fun (messageType, t) => do
      let ttl? ← t.learnedTtl global messageType e.tuning.learningRate e.tuning.window.toTtlBounds
      return ttl?.map fun ttl => (messageType, { t with ttl, adapted := true })
    return learned.filterMap id
  else .ok []

/-- A type that has learned takes its own TTL; one that never did follows the global TTL. -/
def follow (learned : List (String × Traffic α)) (global : Duration) (messageType : String)
    (t : Traffic α) : Traffic α :=
  match learned.lookup messageType with
  | some own => own
  | none => if t.adapted then t else { t with ttl := global }

/-- Moves the TTL by the duplicate rate of the latest messages, of which at least 100 are needed,
and halves their counts. -/
def adjustTtl (e : Engine α) : Except Fault (Engine α × List (Event α)) :=
  if e.seen < 100 then .ok (e, [])
  else do
    let rate : α := Scalar.ratio e.duplicates e.seen
    let bounds := e.tuning.window.toTtlBounds
    let change ←
      if e.profile.adaptiveLearning then
        TtlChange.scale e.globalTtl rate e.tuning.learningRate bounds
      else TtlChange.step e.globalTtl rate bounds
    let learned ← e.learn change.ttl
    let adjusted :=
      { e with
        ttlMillis := change.ttl.millisWord
        traffic := e.traffic.mapValues (follow learned change.ttl)
        seen := e.seen / 2
        duplicates := e.duplicates / 2 }
    let events := learned.map fun (messageType, t) =>
      Event.typeTtlLearned e.tier messageType t.duplicateRate t.ttl
    return (adjusted, events ++ [.ttlAdjusted e.tier rate e.globalTtl change])

/-- Adjusts the TTL where the interval since the latest adjustment is over. -/
def adjustIfDue (e : Engine α) (now : Nat) : Except Fault (Engine α × List (Event α)) :=
  if now - e.lastAdjust < e.tuning.adjustEvery then .ok (e, [])
  else { e with lastAdjust := now }.adjustTtl

end Engine

end GossipGate
