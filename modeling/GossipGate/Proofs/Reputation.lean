import GossipGate.Proofs.Clamping
import GossipGate.Proofs.PeerRecords
import GossipGate.Proofs.PeerScore
import GossipGate.Proofs.RepeatedCleanup

namespace GossipGate

section Records

variable {α : Type} [Scalar α] {e : Engine α} {now : Nat} {call : Call} {peer : String}

/-- How a call ended for a peer, where that is scored. -/
def Step.judgment? (step : Step α) (peer : String) : Option Bool :=
  step.before.judgment? step.now step.call peer

namespace Engine

/-- The notes of a call tell how it ends for the peer, and end with that. -/
theorem notes_cases (e : Engine α) (now : Nat) (call : Call) (peer : String) :
    (e.judgment? now call peer = none ∧
        (e.notes now call peer = [] ∨ e.notes now call peer = [.activity now])) ∨
      ∃ duplicate, e.judgment? now call peer = some duplicate ∧
        e.notes now call peer = [.activity now, .outcome duplicate] := by
  cases call with
  | cleanup | setTier | close => exact Or.inl ⟨rfl, Or.inl rfl⟩
  | activity other =>
    refine Or.inl ⟨rfl, ?_⟩
    unfold notes
    dsimp only
    split
    · exact Or.inr rfl
    · exact Or.inl rfl
  | message m =>
    by_cases own : m.peer = peer
    · subst own
      cases judged : e.judged? now m with
      | none =>
        refine Or.inl ⟨by simp [judgment?, judged], ?_⟩
        simp only [notes, judged, Option.toList_none, List.map_nil]
        split
        · exact Or.inr rfl
        · exact Or.inl rfl
      | some duplicate =>
        obtain ⟨tracked, _, named, _⟩ := judged?_eq_some_iff.1 judged
        exact Or.inr ⟨duplicate, by simp [judgment?, judged],
          by simp [notes, judged, tracked, named]⟩
    · left
      simp [judgment?, notes, own]

/-- A cleanup that finds a record idle removes it. -/
theorem forgets_of_kept {reply : Reply α Answer} (performed : e.perform now call = .ok reply)
    (kept : ¬Step.removes ⟨e, now, call, reply⟩ peer) : e.forgets now call peer = false := by
  rw [← Bool.not_eq_true]
  intro forgets
  have gone := (perform_records performed peer).1
  rw [if_pos forgets] at gone
  cases call with
  | cleanup =>
    obtain ⟨record, found, _⟩ := (Option.any_eq_true _ _).1 forgets
    exact kept ⟨rfl, by simp [found], gone⟩
  | message | activity | setTier | close => cases forgets

end Engine

end Records

variable {exp : Rat → Rat} {c : Config Rat} {opened : Nat} {past later : List (Step Rat)}
  {e gate last : Engine Rat} {peer : String}

/-- The scores of all peers lie in the unit interval, those of peers without a record included. -/
theorem Run.known_inside (run : @Run Rat (exactScalar exp) c opened past e) (peer : String) :
    0 ≤ (@Engine.known Rat (exactScalar exp) e peer).score ∧
      (@Engine.known Rat (exactScalar exp) e peer).score ≤ 1 := by
  let _ := exactScalar exp
  let _ := roundedScalar_exact exp
  have _ : ComparedScalar Rat := comparedScalar_exact exp
  have clamped := run.clamped
  unfold Engine.known
  cases found : e.peers.get? peer with
  | none =>
    show (0 : Rat) ≤ 1.0 ∧ (1.0 : Rat) ≤ 1
    norm_num
  | some record =>
    obtain ⟨notBelow, notAbove⟩ := clamped.peers peer record found
    rw [not_lt] at notBelow notAbove
    norm_num at notBelow notAbove
    exact ⟨notBelow, notAbove⟩

theorem Run.learns (run : @Run Rat (exactScalar exp) c opened past e) :
    0 < c.learningRate ∧ c.learningRate ≤ 1 := by
  let _ := exactScalar exp
  have fits := (Config.fits run.start_usable).learningRate
  norm_num at fits
  exact fits

/-- What a call does to the score of a peer, unless it removes the record. -/
theorem Run.perform_moves (run : @Run Rat (exactScalar exp) c opened past e)
    (reordered : e.Reordered gate) {now : Nat} {call : Call} {reply : Reply Rat Answer}
    (performed : @Engine.perform Rat (exactScalar exp) gate now call = .ok reply)
    (kept : ¬Step.removes ⟨gate, now, call, reply⟩ peer) :
    Peer.Moves exp c.learningRate (@Engine.known Rat (exactScalar exp) gate peer)
      (@Engine.known Rat (exactScalar exp) reply.engine peer)
      (@Engine.judgment? Rat (exactScalar exp) gate now call peer) := by
  let _ := exactScalar exp
  have inside : 0 ≤ (gate.known peer).score ∧ (gate.known peer).score ≤ 1 := by
    obtain ⟨store, _, rfl⟩ := reordered
    exact run.known_inside peer
  have last := run.known_after reordered performed peer
  rw [if_neg (Bool.not_eq_true _ ▸ Engine.forgets_of_kept performed kept)] at last
  rw [last]
  rcases gate.notes_cases now call peer with ⟨unjudged, notes | notes⟩ | ⟨duplicate, judged, notes⟩
  · rw [unjudged, notes]
    rfl
  · rw [unjudged, notes]
    rfl
  · rw [judged, notes]
    exact Peer.moves_judged inside.1 inside.2 run.learns.1.le now duplicate

/-- Without a duplicate no score falls. A peer without a record has the full score. -/
theorem Run.score_not_lowered (run : @Run Rat (exactScalar exp) c opened past e)
    (continues : @Engine.Continues Rat (exactScalar exp) e later last)
    (unrepeated : ∀ step ∈ later, @Step.judgment? Rat (exactScalar exp) step peer ≠ some true) :
    (@Engine.known Rat (exactScalar exp) e peer).score ≤
      (@Engine.known Rat (exactScalar exp) last peer).score := by
  let _ := exactScalar exp
  induction continues with
  | here => exact le_rfl
  | @call later between gate now call reply before reordered performed ih =>
    obtain ⟨own, others⟩ := List.forall_mem_cons.1 unrepeated
    have whole := run.continues before
    have inside := whole.known_inside peer
    have same : gate.known peer = between.known peer := by
      obtain ⟨store, _, rfl⟩ := reordered
      rfl
    refine (ih others).trans ?_
    by_cases removed : Step.removes ⟨gate, now, call, reply⟩ peer
    · have full : (reply.engine.known peer).score = 1.0 := by
        rw [Engine.known, removed.2.2]
        rfl
      rw [full]
      norm_num
      exact inside.2
    · rw [← same] at inside ⊢
      exact (whole.perform_moves reordered performed removed).not_lowered inside.2
        whole.learns.1.le own

/-- Without a new message no score rises, unless the record goes. -/
theorem Run.score_not_raised (run : @Run Rat (exactScalar exp) c opened past e)
    (continues : @Engine.Continues Rat (exactScalar exp) e later last)
    (stale : ∀ step ∈ later, @Step.judgment? Rat (exactScalar exp) step peer ≠ some false)
    (kept : ∀ step ∈ later, ¬step.removes peer) :
    (@Engine.known Rat (exactScalar exp) last peer).score ≤
      (@Engine.known Rat (exactScalar exp) e peer).score := by
  let _ := exactScalar exp
  induction continues with
  | here => exact le_rfl
  | @call later between gate now call reply before reordered performed ih =>
    obtain ⟨own, others⟩ := List.forall_mem_cons.1 stale
    obtain ⟨remains, remaining⟩ := List.forall_mem_cons.1 kept
    have whole := run.continues before
    have inside := whole.known_inside peer
    have same : gate.known peer = between.known peer := by
      obtain ⟨store, _, rfl⟩ := reordered
      rfl
    refine le_trans ?_ (ih others remaining)
    rw [← same] at inside ⊢
    exact (whole.perform_moves reordered performed remains).not_raised inside.1
      whole.learns.1.le own

/-- Reputation moves with behaviour. A new message of a scored peer raises its score by a fiftieth
of the learning rate, a duplicate lowers it by a tenth and up to twice that; both set the trust by
the score, and nothing else touches the score but a cleanup that removes the record. So a score
never falls without a duplicate, and never rises without a new message while the record is kept. -/
theorem Run.reputation_moves (run : @Run Rat (exactScalar exp) c opened past e) (peer : String) :
    (∀ gate, e.Reordered gate → ∀ now call reply,
      @Engine.perform Rat (exactScalar exp) gate now call = .ok reply →
        ¬Step.removes ⟨gate, now, call, reply⟩ peer →
          Peer.Moves exp c.learningRate (@Engine.known Rat (exactScalar exp) gate peer)
            (@Engine.known Rat (exactScalar exp) reply.engine peer)
            (@Engine.judgment? Rat (exactScalar exp) gate now call peer)) ∧
    ∀ later last, @Engine.Continues Rat (exactScalar exp) e later last →
      ((∀ step ∈ later, @Step.judgment? Rat (exactScalar exp) step peer ≠ some true) →
        (@Engine.known Rat (exactScalar exp) e peer).score ≤
          (@Engine.known Rat (exactScalar exp) last peer).score) ∧
      ((∀ step ∈ later, @Step.judgment? Rat (exactScalar exp) step peer ≠ some false) →
        (∀ step ∈ later, ¬step.removes peer) →
          (@Engine.known Rat (exactScalar exp) last peer).score ≤
            (@Engine.known Rat (exactScalar exp) e peer).score) ∧
      0 ≤ (@Engine.known Rat (exactScalar exp) last peer).score ∧
      (@Engine.known Rat (exactScalar exp) last peer).score ≤ 1 := by
  let _ := exactScalar exp
  constructor
  · intro gate reordered now call reply performed kept
    exact run.perform_moves reordered performed kept
  · intro later last continues
    exact ⟨run.score_not_lowered continues, run.score_not_raised continues,
      (run.continues continues).known_inside peer⟩

/-- The second message of a peer is a duplicate and costs it the more for that. -/
theorem reputation_moves_repeated : ∃ (past : List (Step Rat)) (e : Engine Rat)
    (reply : Reply Rat Answer),
    @Run Rat decayingScalar (@forgetfulConfig Rat decayingScalar) 0 past e ∧
      @Engine.perform Rat decayingScalar e 0 (.message floodMessage) = .ok reply ∧
      @Engine.judgment? Rat decayingScalar e 0 (.message floodMessage) "p" = some true ∧
      (@Engine.known Rat decayingScalar e "p").score = 1 ∧
      (@Engine.known Rat decayingScalar reply.engine "p").score = 0.85 ∧
      (@Engine.known Rat decayingScalar reply.engine "p").trust = .high := by
  let _ := decayingScalar
  have usable : (forgetfulConfig Rat).problem? = none := by decide +kernel
  have reaches : (Engine.assemble (forgetfulConfig Rat)
      (Config.minTtl_le_maxTtl_ofTier (α := Rat) .business) 0).engine.reaches
        [(0, .message floodMessage)] (fun e =>
        (e.perform 0 (.message floodMessage)).toOption.isSome &&
        decide (e.judgment? 0 (.message floodMessage) "p" = some true) &&
        decide ((e.known "p").score = 1 ∧ (e.known "p").messages = 1 ∧
          (e.known "p").duplicates = 0)) = true := by
    decide +kernel
  obtain ⟨past, e, run, _, _, facts⟩ := Run.of_reaches usable reaches
  simp only [Bool.and_eq_true, decide_eq_true_eq] at facts
  obtain ⟨⟨answered, judged⟩, score, messages, duplicates⟩ := facts
  cases performed : e.perform 0 (.message floodMessage) with
  | error => simp [performed, Except.toOption] at answered
  | ok reply =>
    have kept : ¬Step.removes ⟨e, 0, .message floodMessage, reply⟩ "p" := by
      rintro ⟨clean, _⟩
      cases clean
    have moves := (run.reputation_moves "p").1 e (.refl e) 0 (.message floodMessage) reply performed
      kept
    rw [judged] at moves
    obtain ⟨lowered, share, trust⟩ := moves
    have rate : (forgetfulConfig Rat).learningRate = 1 := by
      show (1.0 : Rat) = 1
      norm_num
    have less : (reply.engine.known "p").score = 0.85 := by
      rw [lowered, share, score, messages, duplicates, rate]
      norm_num
    refine ⟨past, e, reply, run, performed, judged, score, less, ?_⟩
    rw [trust, less]
    decide +kernel

/-- A cleanup forgets the repetitions of a peer. Its next duplicate leaves it a higher score than it
had before, although it sent nothing new. -/
theorem forgotten_score_rises : ∃ (past later : List (Step Rat)) (e last : Engine Rat),
    @Run Rat decayingScalar (@forgetfulConfig Rat decayingScalar) 0 past e ∧
      @Engine.Continues Rat decayingScalar e later last ∧
      (∀ step ∈ later, ∀ m, step.call = .message m →
        @Step.judgment? Rat decayingScalar step "p" = some true) ∧
      (e.peers.get? "p").isSome = true ∧ (last.peers.get? "p").isSome = true ∧
      (@Engine.known Rat decayingScalar e "p").score <
        (@Engine.known Rat decayingScalar last "p").score := by
  let _ := decayingScalar
  have usable : (forgetfulConfig Rat).problem? = none := by decide +kernel
  have reaches : (Engine.assemble (forgetfulConfig Rat)
      (Config.minTtl_le_maxTtl_ofTier (α := Rat) .business) 0).engine.reaches
        (List.replicate 3 (0, .message floodMessage)) (fun e => (e.peers.get? "p").isSome &&
          (e.perform 1000 .cleanup).toOption.any fun first =>
            decide (first.engine.judgment? 1000 (.message floodMessage) "p" = some true) &&
            (first.engine.perform 1000 (.message floodMessage)).toOption.any fun second =>
              (second.engine.peers.get? "p").isSome &&
                decide ((e.known "p").score < (second.engine.known "p").score)) = true := by
    decide +kernel
  obtain ⟨past, e, run, _, _, facts⟩ := Run.of_reaches usable reaches
  obtain ⟨present, later⟩ := Bool.and_eq_true_iff.1 facts
  cases cleaned : e.perform 1000 .cleanup with
  | error => simp [cleaned, Except.toOption] at later
  | ok first =>
  simp only [cleaned, Except.toOption, Option.any_some, Bool.and_eq_true, decide_eq_true_eq]
    at later
  obtain ⟨judged, sent⟩ := later
  cases repeated : first.engine.perform 1000 (.message floodMessage) with
  | error => simp [repeated] at sent
  | ok second =>
  simp only [repeated, Option.any_some, Bool.and_eq_true, decide_eq_true_eq] at sent
  have continues := (Engine.Continues.here.call (.refl e) cleaned).call (.refl _) repeated
  refine ⟨past, _, e, _, run, continues, ?_, present, sent.1, sent.2⟩
  intro step member m asked
  rcases List.mem_cons.1 member with rfl | earlier
  · exact judged
  · rw [List.mem_singleton.1 earlier] at asked
    cases asked

end GossipGate
