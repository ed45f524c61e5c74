import GossipGate.Proofs.Run

namespace GossipGate

variable {α : Type} [Scalar α]

/-- One change to one part of a gate while the clock reads `now`. Every call but a cleanup comes
down to a few. -/
inductive Engine.Moves (now : Nat) : Engine α → Engine α → Prop
  | noted (e : Engine α) (seen duplicates lastAdjust : Nat) (closed : Bool) :
      Moves now e { e with seen, duplicates, lastAdjust, closed }
  | met (e : Engine α) (peer : String) : Moves now e (e.meet peer now).1
  | judged (e : Engine α) (peer : String) (duplicate : Bool) :
      Moves now e (e.judge peer duplicate).1
  | measured (e : Engine α) {m : Message} {blocked : Bool} {measured : Traffic α × Option α} :
      e.measure now m blocked = .ok measured →
      Moves now e { e with traffic := e.traffic.insert m.messageType measured.1 }
  | repeated (e : Engine α) (messageType : String) :
      Moves now e { e with traffic := e.traffic.modify messageType Traffic.countDuplicate }
  | tracked (a : Arrival α) (m : Message) :
      (∀ record, a.scorer = some record → a.engine.peers.get? m.peer = some record) →
      Moves now a.engine (a.engine.withStore (Engine.lookUp now a m).store)
  | adjusted {e : Engine α} {result : Engine α × List (Event α)} :
      e.adjustTtl = .ok result → Moves now e result.1
  | retiered (e : Engine α) {tier : Tier} {shrunk : Store α × List (Entry α)} :
      e.shrunk now tier = shrunk → Moves now e { e with profile := .ofTier tier, store := shrunk.1 }

/-- A number of changes one after another. -/
inductive Engine.Goes (now : Nat) : Nat → Engine α → Engine α → Prop
  | here (e : Engine α) : Goes now 0 e e
  | next {count : Nat} {e between last : Engine α} : Goes now count e between →
      between.Moves now last → Goes now (count + 1) e last

namespace Engine

variable {e : Engine α} {now : Nat} {m : Message}

theorem perform_of_receive {reply : Reply α Bool} (answered : e.receive now m = .ok reply) :
    e.perform now (.message m) = .ok (reply.map .verdict) :=
  congrArg (Except.map (Reply.map Answer.verdict)) answered

theorem Moves.goes {last : Engine α} (moves : e.Moves now last) : e.Goes now 1 last :=
  .next (.here e) moves

theorem Goes.trans {first second : Nat} {between last : Engine α}
    (before : e.Goes now first between) (after : between.Goes now second last) :
    e.Goes now (first + second) last := by
  induction after with
  | here => exact before
  | next _ moves ih => exact .next (ih before) moves

theorem meet_scorer (peer : String) {record : Peer α} (met : (e.meet peer now).2 = some record) :
    (e.meet peer now).1.peers.get? peer = some record := by
  unfold meet at met ⊢
  by_cases tracked : (e.profile.peerTracking && !peer.isEmpty) = true
  · simp only [tracked, if_true] at met ⊢
    rw [Table.get?_insert, if_pos rfl]
    exact met
  · simp only [tracked] at met
    cases met

/-- The bookkeeping of a message, and where the record of its peer comes from. -/
theorem arrive_goes {a : Arrival α} (arrived : e.arrive now m = .ok a) :
    e.Goes now 3 a.engine ∧
      ∀ record, a.scorer = some record → a.engine.peers.get? m.peer = some record := by
  obtain ⟨measured, done, last⟩ := bind_eq_ok arrived
  cases last
  constructor
  · exact .next (.next (.next (.here e) (.noted e (e.seen + 1) e.duplicates e.lastAdjust e.closed))
      (.met _ m.peer)) (.measured _ done)
  · intro record scored
    by_cases scoring : e.profile.reputationScoring = true
    · simp only [scoring, if_true] at scored
      exact meet_scorer m.peer scored
    · simp only [scoring, Bool.false_eq_true, if_false] at scored
      cases scored

theorem judgeCaller_goes (a : Arrival α) (duplicate : Bool) :
    ∃ count ≤ 1, e.Goes now count (e.judgeCaller a m duplicate).1 := by
  unfold judgeCaller
  split
  · exact ⟨1, le_rfl, (Moves.judged e m.peer duplicate).goes⟩
  · exact ⟨0, by omega, .here e⟩

theorem adjustIfDue_goes {result : Engine α × List (Event α)}
    (done : e.adjustIfDue now = .ok result) : ∃ count ≤ 2, e.Goes now count result.1 := by
  unfold adjustIfDue at done
  split at done
  · cases done
    exact ⟨0, by omega, .here e⟩
  · exact ⟨2, le_rfl,
      .next (.next (.here e) (.noted e e.seen e.duplicates now e.closed)) (.adjusted done)⟩

theorem suppress_goes (a : Arrival α) :
    ∃ count ≤ 3, e.Goes now count (e.suppress a m).engine := by
  let noted : Engine α := { e with duplicates := e.duplicates + 1 }
  let counted : Engine α :=
    { noted with traffic := noted.traffic.modify m.messageType Traffic.countDuplicate }
  have two : e.Goes now 2 counted :=
    .next (.next (.here e) (.noted e e.seen (e.duplicates + 1) e.lastAdjust e.closed))
      (.repeated noted m.messageType)
  obtain ⟨count, few, judged⟩ : ∃ count ≤ 1,
      counted.Goes now count (counted.judgeCaller a m true).1 := judgeCaller_goes a true
  exact ⟨2 + count, by omega, two.trans judged⟩

theorem pass_goes {a : Arrival α} {outcome : Outcome} {reply : Reply α Bool}
    (passed : e.pass now a m outcome = .ok reply) :
    ∃ count ≤ 3, e.Goes now count reply.engine := by
  obtain ⟨adjusted, due, last⟩ := bind_eq_ok passed
  cases last
  obtain ⟨later, fewLater, adjusts⟩ := adjustIfDue_goes due
  by_cases stored : outcome = .inserted
  · simp only [stored, if_true] at adjusts
    obtain ⟨count, few, judged⟩ : ∃ count ≤ 1,
        e.Goes now count (e.judgeCaller a m false).1 := judgeCaller_goes a false
    exact ⟨count + later, by omega, judged.trans adjusts⟩
  · simp only [stored, if_false] at adjusts
    exact ⟨later, by omega, adjusts⟩

theorem Receives.goes {reply : Reply α Bool} (receives : e.Receives now m reply) :
    ∃ count ≤ 7, e.Goes now count reply.engine := by
  cases receives with
  | nameless => exact ⟨0, by omega, .here e⟩
  | @blocked arrival _ _ arrived =>
    have arrives := (arrive_goes arrived).1
    exact ⟨4, by omega, .next arrives (.noted arrival.engine arrival.engine.seen
      (arrival.engine.duplicates + 1) arrival.engine.lastAdjust arrival.engine.closed)⟩
  | @suppressed arrival _ _ arrived _ =>
    obtain ⟨arrives, known⟩ := arrive_goes arrived
    let admitted := arrival.engine.withStore (lookUp now arrival m).store
    obtain ⟨count, few, suppresses⟩ : ∃ count ≤ 3,
        admitted.Goes now count (admitted.suppress arrival m).engine := suppress_goes arrival
    exact ⟨4 + count, by omega, (arrives.next (.tracked arrival m known)).trans suppresses⟩
  | @passed arrival _ _ _ arrived _ passed =>
    obtain ⟨arrives, known⟩ := arrive_goes arrived
    obtain ⟨count, few, passes⟩ := pass_goes passed
    exact ⟨4 + count, by omega, (arrives.next (.tracked arrival m known)).trans passes⟩

/-- Every other call comes down to at most seven changes. -/
theorem perform_goes {call : Call} (other : call ≠ .cleanup) {reply : Reply α Answer}
    (performed : e.perform now call = .ok reply) :
    ∃ count ≤ 7, e.Goes now count reply.engine := by
  cases call with
  | message m =>
    obtain ⟨answer, answered, rfl⟩ := perform_message performed
    exact (receive_receives answered).goes
  | activity peer =>
    obtain rfl := Except.ok.inj performed
    exact ⟨1, by omega, (Moves.met e peer).goes⟩
  | cleanup => exact absurd rfl other
  | setTier requested =>
    have retiers := setTier_eq e now requested
    obtain rfl := Except.ok.inj performed
    refine ⟨1, by omega, ?_⟩
    show e.Goes now 1 (e.setTier now requested).engine
    rw [retiers]
    exact (Moves.retiered e rfl).goes
  | close =>
    obtain rfl := Except.ok.inj performed
    exact ⟨1, by omega, (Moves.noted e e.seen e.duplicates e.lastAdjust true).goes⟩

theorem Goes.keeps {P : Nat → Engine α → Prop} {count : Nat} {last : Engine α}
    (goes : e.Goes now count last)
    (moves : ∀ count e e', e.Moves now e' → P count e → P (count + 1) e') (start : Nat)
    (first : P start e) : P (start + count) last := by
  induction goes with
  | here => exact first
  | next _ step ih => exact moves _ _ _ step (ih first)

theorem Goes.keeps_always {P : Engine α → Prop} {count : Nat} {last : Engine α}
    (goes : e.Goes now count last) (moves : ∀ e last, e.Moves now last → P e → P last)
    (first : P e) : P last :=
  goes.keeps (P := fun _ => P) (fun _ => moves) 0 first

end Engine

/-- What holds of a new gate and is kept by every change and every cleanup holds along every run. It
may weaken with the number of changes. -/
theorem Run.keeps {c : Config α} {opened : Nat} {past : List (Step α)} {e : Engine α}
    (P : Nat → Engine α → Prop) (clock : Nat → Prop) (run : Run c opened past e)
    (clocks : ∀ step ∈ past, clock step.now)
    (first : ∀ reply, Engine.start c opened = .ok reply → P 0 reply.engine)
    (weakens : ∀ few many e, few ≤ many → P few e → P many e)
    (reorders : ∀ count e gate, e.Reordered gate → P count e → P count gate)
    (cleans : ∀ count now e, clock now → P count e → P count (e.cleanup now).engine)
    (moves : ∀ count now e last, clock now → e.Moves now last → P count e → P (count + 1) last) :
    P (7 * past.length) e := by
  induction run with
  | start started => exact first _ started
  | @call past e gate now call reply _ reordered performed ih =>
    obtain ⟨reading, readings⟩ := List.forall_mem_cons.1 clocks
    have kept := reorders _ _ _ reordered (ih readings)
    by_cases clean : call = .cleanup
    · subst clean
      obtain rfl := Except.ok.inj performed
      exact weakens _ _ _ (by rw [List.length_cons]; omega) (cleans _ _ _ reading kept)
    · obtain ⟨count, few, goes⟩ := Engine.perform_goes clean performed
      have reached := goes.keeps (fun count e last => moves count now e last reading) _ kept
      exact weakens _ _ _ (by rw [List.length_cons]; omega) reached

/-- What does not count the changes. -/
theorem Run.keeps_always {c : Config α} {opened : Nat} {past : List (Step α)} {e : Engine α}
    (P : Engine α → Prop) (run : Run c opened past e)
    (first : ∀ reply, Engine.start c opened = .ok reply → P reply.engine)
    (reorders : ∀ e gate, e.Reordered gate → P e → P gate)
    (cleans : ∀ now e, P e → P (e.cleanup now).engine)
    (moves : ∀ now e last, e.Moves now last → P e → P last) : P e :=
  run.keeps (fun _ => P) (fun _ => True) (fun _ _ => trivial) first (fun _ _ _ _ kept => kept)
    (fun _ => reorders) (fun _ now e _ => cleans now e) fun _ now e last _ => moves now e last

end GossipGate
