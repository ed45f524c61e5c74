import GossipGate.Proofs.Adjustment
import GossipGate.Proofs.Run

namespace GossipGate

/-- Two things that are made of a result in either order. -/
theorem map_map_comm {ε β γ γ' δ : Type} {f : β → γ} {g : γ → δ} (h : β → γ') (k : γ' → δ)
    (same : ∀ x, g (f x) = k (h x)) (first : Except ε β) :
    (first.map f).map g = (first.map h).map k := by
  cases first with
  | error => rfl
  | ok value => exact congrArg Except.ok (same value)

variable {α : Type} [Scalar α] {e : Engine α} {now : Nat} {m : Message}

/-! ### A gate that does not look for anomalies -/

namespace Engine

/-- Lets a message through like `pass`, with no look at it afterwards. -/
def passUnwatched (e : Engine α) (now : Nat) (a : Arrival α) (m : Message) (outcome : Outcome) :
    Except Fault (Reply α Bool) := do
  let judged := if outcome = .inserted then e.judgeCaller a m false else (e, [])
  let untracked := if outcome = .dropped then [Event.saturated m.messageType] else []
  let adjusted ← judged.1.adjustIfDue now
  return ⟨adjusted.1, false, judged.2 ++ untracked ++ adjusted.2⟩

def resolveUnwatched (now : Nat) (a : Arrival α) (m : Message) : Except Fault (Reply α Bool) :=
  let admission := lookUp now a m
  let admitted := a.engine.withStore admission.store
  let decided :=
    if admission.outcome = .duplicate then .ok (admitted.suppress a m)
    else admitted.passUnwatched now a m admission.outcome
  decided.map fun reply => reply.after (a.events ++ a.engine.evictions admission)

def receiveUnwatched (e : Engine α) (now : Nat) (m : Message) : Except Fault (Reply α Bool) :=
  if m.hash.isEmpty then .ok ⟨e, false, []⟩
  else do
    let a ← e.arrive now m
    if a.isBlocked then return block a m else resolveUnwatched now a m

/-- What `perform` does without the detection of anomalies. -/
def performUnwatched (e : Engine α) (now : Nat) : Call → Except Fault (Reply α Answer)
  | .message m => (e.receiveUnwatched now m).map (Reply.map Answer.verdict)
  | call => e.perform now call

end Engine

def Event.isAnomaly : Event α → Bool
  | .anomalyFound _ _ => true
  | _ => false

/-- The events that do not report an anomaly. -/
def calmEvents (events : List (Event α)) : List (Event α) :=
  events.filter fun event => !event.isAnomaly

/-- The reply without the anomalies that it reports. -/
def Reply.calm {β : Type} (r : Reply α β) : Reply α β := { r with events := calmEvents r.events }

namespace Engine

omit [Scalar α] in
theorem after_calm {β : Type} (r : Reply α β) (events : List (Event α)) :
    (r.after events).calm = r.calm.after (calmEvents events) := by
  unfold Reply.after Reply.calm calmEvents
  rw [List.filter_append]

/-- The look at a message that passed comes last and does nothing but report. -/
theorem pass_calm (a : Arrival α) (outcome : Outcome) :
    (e.pass now a m outcome).map Reply.calm =
      (e.passUnwatched now a m outcome).map Reply.calm := by
  have reported : ∀ found : List (Anomaly α),
      calmEvents (found.map (Event.anomalyFound e.tier)) = [] := by
    intro found
    unfold calmEvents
    rw [List.filter_eq_nil_iff]
    intro event member
    obtain ⟨anomaly, _, rfl⟩ := List.mem_map.1 member
    simp [Event.isAnomaly]
  unfold pass passUnwatched
  dsimp only
  generalize (if outcome = .inserted then e.judgeCaller a m false else (e, [])) = judged
  cases judged.1.adjustIfDue now with
  | error => rfl
  | ok adjusted =>
    refine congrArg Except.ok (congrArg (Reply.mk _ _) ?_)
    show calmEvents (_ ++ _) = calmEvents _
    unfold calmEvents at reported ⊢
    rw [List.filter_append, reported, List.append_nil]

theorem resolve_calm (a : Arrival α) :
    (resolve now a m).map Reply.calm = (resolveUnwatched now a m).map Reply.calm := by
  unfold resolveUnwatched
  dsimp only
  by_cases duplicate : (lookUp now a m).outcome = .duplicate
  · rw [resolve_duplicate duplicate, if_pos duplicate]
    rfl
  · rw [resolve_other duplicate, if_neg duplicate]
    generalize a.events ++ a.engine.evictions (lookUp now a m) = told
    have comm : ∀ r : Reply α Bool, (r.after told).calm = r.calm.after (calmEvents told) :=
      fun r => after_calm r told
    rw [map_map_comm Reply.calm (fun r => r.after (calmEvents told)) comm,
      map_map_comm Reply.calm (fun r => r.after (calmEvents told)) comm, pass_calm]

theorem receive_calm :
    (e.receive now m).map Reply.calm = (e.receiveUnwatched now m).map Reply.calm := by
  unfold receive receiveUnwatched
  split
  · rfl
  cases e.arrive now m with
  | error => rfl
  | ok a =>
    simp only [bind, Except.bind]
    split
    · rfl
    · exact resolve_calm a

/-- Detection reports and does nothing else. -/
theorem perform_calm (call : Call) :
    (e.perform now call).map Reply.calm = (e.performUnwatched now call).map Reply.calm := by
  cases call with
  | message m =>
    have named : ∀ r : Reply α Bool, (r.map Answer.verdict).calm = r.calm.map .verdict :=
      fun _ => rfl
    unfold perform performUnwatched
    dsimp only
    rw [map_map_comm Reply.calm _ named, map_map_comm Reply.calm _ named, receive_calm]
  | activity | cleanup | setTier | close => rfl

end Engine

/-! ### The threshold of the detection -/

/-- The same gate with another threshold for anomalies. -/
def Engine.withThreshold (x : α) (e : Engine α) : Engine α :=
  { e with tuning := { e.tuning with anomalyThreshold := x } }

def Arrival.withThreshold (x : α) (a : Arrival α) : Arrival α :=
  { a with engine := a.engine.withThreshold x }

def Reply.withThreshold {β : Type} (x : α) (r : Reply α β) : Reply α β :=
  { r with engine := r.engine.withThreshold x }

namespace Engine

variable (x : α)

section Fields

omit [Scalar α]

@[simp] theorem withThreshold_profile : (e.withThreshold x).profile = e.profile := rfl
@[simp] theorem withThreshold_peers : (e.withThreshold x).peers = e.peers := rfl
@[simp] theorem withThreshold_seen : (e.withThreshold x).seen = e.seen := rfl
@[simp] theorem withThreshold_lastAdjust : (e.withThreshold x).lastAdjust = e.lastAdjust := rfl
@[simp] theorem withThreshold_adjustEvery :
    (e.withThreshold x).tuning.adjustEvery = e.tuning.adjustEvery := rfl

end Fields

theorem meet_withThreshold (now : Nat) (peer : String) : (e.withThreshold x).meet peer now =
    ((e.meet peer now).1.withThreshold x, (e.meet peer now).2) := by
  unfold meet
  rw [withThreshold_profile]
  dsimp only
  split <;> rfl

theorem arrive_withThreshold : (e.withThreshold x).arrive now m =
    (e.arrive now m).map (Arrival.withThreshold x) := by
  have met := meet_withThreshold (e := { e with seen := e.seen + 1 }) x now m.peer
  have counted : { e.withThreshold x with seen := (e.withThreshold x).seen + 1 } =
      ({ e with seen := e.seen + 1 } : Engine α).withThreshold x := rfl
  unfold arrive
  rw [counted, met, withThreshold_profile]
  generalize ({ e with seen := e.seen + 1 } : Engine α).meet m.peer now = record
  dsimp only
  generalize (if e.profile.reputationScoring then record.2 else none) = scorer
  have measured : (record.1.withThreshold x).measure now m (scorer.any Peer.blacklisted) =
      record.1.measure now m (scorer.any Peer.blacklisted) := rfl
  rw [measured]
  cases record.1.measure now m (scorer.any Peer.blacklisted) <;> rfl

theorem judgeCaller_withThreshold (a : Arrival α) (duplicate : Bool) :
    (e.withThreshold x).judgeCaller a m duplicate =
      ((e.judgeCaller a m duplicate).1.withThreshold x, (e.judgeCaller a m duplicate).2) := by
  unfold judgeCaller judge
  rw [withThreshold_peers]
  split
  · cases e.peers.get? m.peer <;> rfl
  · rfl

theorem adjustTtl_withThreshold : (e.withThreshold x).adjustTtl =
    e.adjustTtl.map fun result => (result.1.withThreshold x, result.2) := by
  have control : (e.withThreshold x).control = e.control := rfl
  rw [adjustTtl_eq, adjustTtl_eq, withThreshold_seen, control]
  split
  · rfl
  cases e.control with
  | error => rfl
  | ok change =>
    have learned : (e.withThreshold x).learn change.ttl = e.learn change.ttl := rfl
    simp only [bind, Except.bind, learned]
    cases e.learn change.ttl <;> rfl

theorem adjustIfDue_withThreshold : (e.withThreshold x).adjustIfDue now =
    (e.adjustIfDue now).map fun result => (result.1.withThreshold x, result.2) := by
  unfold adjustIfDue
  rw [withThreshold_lastAdjust, withThreshold_adjustEvery]
  split
  · rfl
  · exact adjustTtl_withThreshold (e := { e with lastAdjust := now }) x

theorem suppress_withThreshold (a : Arrival α) :
    (e.withThreshold x).suppress a m = (e.suppress a m).withThreshold x := by
  let counted : Engine α :=
    { e with
      duplicates := e.duplicates + 1
      traffic := e.traffic.modify m.messageType Traffic.countDuplicate }
  have judged := judgeCaller_withThreshold (e := counted) (m := m) x a true
  show Reply.mk ((counted.withThreshold x).judgeCaller a m true).1 true
    (((counted.withThreshold x).judgeCaller a m true).2 ++
      [.suppressed e.tier m.messageType .duplicate]) = _
  rw [judged]
  rfl

theorem passUnwatched_withThreshold (now : Nat) (a : Arrival α) (outcome : Outcome) :
    (e.withThreshold x).passUnwatched now a m outcome =
      (e.passUnwatched now a m outcome).map (Reply.withThreshold x) := by
  have judged : (if outcome = .inserted then (e.withThreshold x).judgeCaller a m false
      else (e.withThreshold x, [])) =
      ((if outcome = .inserted then e.judgeCaller a m false else (e, [])).1.withThreshold x,
        (if outcome = .inserted then e.judgeCaller a m false else (e, [])).2) := by
    split
    · exact judgeCaller_withThreshold x a false
    · rfl
  unfold passUnwatched
  rw [judged]
  generalize (if outcome = .inserted then e.judgeCaller a m false else (e, [])) = settled
  simp only [adjustIfDue_withThreshold]
  cases settled.1.adjustIfDue now <;> rfl

theorem lookUp_withThreshold (now : Nat) (a : Arrival α) :
    lookUp now (a.withThreshold x) m = lookUp now a m := by
  have tracked : ∀ seen attempts s, (a.engine.withThreshold x).track now seen attempts s =
      a.engine.track now seen attempts s := track_congr (fun _ => rfl) rfl
  exact tracked _ _ _

theorem resolveUnwatched_withThreshold (a : Arrival α) :
    resolveUnwatched now (a.withThreshold x) m =
      (resolveUnwatched now a m).map (Reply.withThreshold x) := by
  have looked := lookUp_withThreshold (m := m) x now a
  have admitted : (a.withThreshold x).engine.withStore (lookUp now a m).store =
      (a.engine.withStore (lookUp now a m).store).withThreshold x := rfl
  have events : (a.withThreshold x).events ++
      (a.withThreshold x).engine.evictions (lookUp now a m) =
        a.events ++ a.engine.evictions (lookUp now a m) := rfl
  unfold resolveUnwatched
  dsimp only
  rw [looked, admitted, events]
  generalize a.events ++ a.engine.evictions (lookUp now a m) = told
  split
  · have suppressed := suppress_withThreshold
      (e := a.engine.withStore (lookUp now a m).store) (m := m) x a
    exact congrArg (fun r => Except.ok (Reply.after r told)) suppressed
  · have passed := passUnwatched_withThreshold
      (e := a.engine.withStore (lookUp now a m).store) (m := m) x now a
      (lookUp now a m).outcome
    have scorer : ((a.engine.withStore (lookUp now a m).store).withThreshold x).passUnwatched now
        (a.withThreshold x) m (lookUp now a m).outcome = _ := passed
    rw [scorer]
    refine map_map_comm (fun r : Reply α Bool => r.after told) (Reply.withThreshold x) ?_ _
    exact fun _ => rfl

theorem receiveUnwatched_withThreshold : (e.withThreshold x).receiveUnwatched now m =
    (e.receiveUnwatched now m).map (Reply.withThreshold x) := by
  unfold receiveUnwatched
  rw [arrive_withThreshold]
  split
  · rfl
  cases e.arrive now m with
  | error => rfl
  | ok a =>
    have blocked : (a.withThreshold x).isBlocked = a.isBlocked := rfl
    simp only [Except.map, bind, Except.bind, blocked]
    split
    · rfl
    · exact resolveUnwatched_withThreshold x a

theorem shrunk_withThreshold (tier : Tier) :
    (e.withThreshold x).shrunk now tier = e.shrunk now tier := by
  let changed : Engine α := { e with profile := .ofTier tier }
  have evicted : ∀ count s, (changed.withThreshold x).evictMany now count s =
      changed.evictMany now count s := evictMany_congr fun _ => rfl
  exact evicted _ _

omit [Scalar α] in
theorem retiered_withThreshold (requested : String) (shrunk : Store α × List (Entry α)) :
    (e.withThreshold x).retiered requested shrunk =
      (e.retiered requested shrunk).withThreshold x := rfl

/-- Without detection no call goes by the threshold. -/
theorem performUnwatched_withThreshold (call : Call) :
    (e.withThreshold x).performUnwatched now call =
      (e.performUnwatched now call).map (Reply.withThreshold x) := by
  cases call with
  | message m =>
    simp only [performUnwatched, receiveUnwatched_withThreshold]
    refine map_map_comm (Reply.map Answer.verdict) (Reply.withThreshold x) ?_ _
    exact fun _ => rfl
  | activity peer =>
    simp only [performUnwatched, perform, trackPeer, meet_withThreshold]
    rfl
  | setTier requested =>
    simp only [performUnwatched, perform, setTier_eq, shrunk_withThreshold,
      retiered_withThreshold]
    generalize e.retiered requested _ = reply
    rfl
  | cleanup | close => rfl

/-- Neither the threshold nor the detection makes a difference to a call but in what it reports. -/
theorem performUnwatched_calm (now : Nat) (call : Call) :
    ((e.withThreshold x).performUnwatched now call).map Reply.calm =
      (e.perform now call).map fun r => (r.withThreshold x).calm := by
  have comm : ∀ r : Reply α Answer, (r.withThreshold x).calm = r.calm.withThreshold x :=
    fun _ => rfl
  rw [performUnwatched_withThreshold, map_map_comm Reply.calm (Reply.withThreshold x) comm,
    ← perform_calm]
  cases e.perform now call <;> rfl

theorem admission?_withThreshold : (e.withThreshold x).admission? now m = e.admission? now m := by
  have asked : (e.withThreshold x).asked? m = e.asked? m := rfl
  unfold admission?
  rw [asked, arrive_withThreshold]
  cases e.asked? m with
  | none => rfl
  | some key =>
    cases e.arrive now m with
    | error => rfl
    | ok a => exact congrArg some (lookUp_withThreshold x now a)

end Engine

end GossipGate
