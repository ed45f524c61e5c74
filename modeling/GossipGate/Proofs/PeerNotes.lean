import GossipGate.Peer

namespace GossipGate

namespace Peer

/-- What the record of a peer is told: that a message of it came, or how one ended. -/
inductive Note where
  | activity (now : Nat)
  | outcome (duplicate : Bool)

/-- A note with the record after it, and whether it put the peer on the blacklist. -/
structure Turn (α : Type) where
  note : Note
  record : Peer α
  tripped : Bool

variable {α : Type} [Scalar α] {p : Peer α} {rate : α} {note : Note} {earlier notes : List Note}

/-- What one note makes of a record. -/
def turn (p : Peer α) (rate : α) (note : Note) : Turn α :=
  match note with
  | .activity now => ⟨note, p.recordActivity now, false⟩
  | .outcome duplicate => ⟨note, (p.settle duplicate rate).1, (p.settle duplicate rate).2⟩

/-- A record after some notes. -/
def after (p : Peer α) (rate : α) : List Note → Peer α
  | [] => p
  | note :: later => (p.turn rate note).record.after rate later

/-- What some notes make of a record, one after another. -/
def course (p : Peer α) (rate : α) : List Note → List (Turn α)
  | [] => []
  | note :: later => p.turn rate note :: (p.turn rate note).record.course rate later

theorem after_append (p : Peer α) (rate : α) (earlier later : List Note) :
    p.after rate (earlier ++ later) = (p.after rate earlier).after rate later := by
  induction earlier generalizing p with
  | nil => rfl
  | cons note rest ih => exact ih (p.turn rate note).record

/-- What every note keeps, any number of notes keeps. -/
theorem after_keeps {P : Peer α → Prop} (first : P p)
    (keeps : ∀ record note, P record → P (record.turn rate note).record) (notes : List Note) :
    P (p.after rate notes) := by
  induction notes generalizing p with
  | nil => exact first
  | cons note later ih => exact ih (keeps p note first)

/-! ### The blacklist -/

/-- Whether right after an outcome a record shows a low score, mostly duplicates and more than 50
messages. -/
def Turn.Due (turn : Turn α) : Prop :=
  (∃ duplicate, turn.note = .outcome duplicate) ∧ turn.record.score < 0.1 ∧
    0.8 < turn.record.duplicateRate ∧ 50 < turn.record.messages

theorem isFlooder_iff : p.isFlooder = true ↔
    p.score < 0.1 ∧ 0.8 < p.duplicateRate ∧ 50 < p.messages := by
  simp only [isFlooder, Bool.and_eq_true, decide_eq_true_eq, and_assoc]

/-- The two ends of an outcome: it trips the blacklist of a record that was not on it and is due, or
it leaves the blacklist as it was. -/
theorem settle_cases (p : Peer α) (duplicate : Bool) (rate : α) :
    p.blacklisted = false ∧ (p.scored duplicate rate).isFlooder = true ∧
        p.settle duplicate rate = ({ p.scored duplicate rate with
          blacklisted := true, blacklistReason := some blacklistText }, true) ∨
      (p.blacklisted = true ∨ (p.scored duplicate rate).isFlooder = false) ∧
        p.settle duplicate rate = (p.scored duplicate rate, false) := by
  have same : (p.scored duplicate rate).blacklisted = p.blacklisted := rfl
  unfold settle
  dsimp only
  rw [same]
  cases listed : p.blacklisted <;>
    cases flooder : (p.scored duplicate rate).isFlooder <;> simp

/-- But for the blacklist an outcome leaves what it scores. -/
theorem settle_fst (p : Peer α) (duplicate : Bool) (rate : α) : ∃ blacklisted blacklistReason,
    (p.settle duplicate rate).1 =
      { p.scored duplicate rate with blacklisted, blacklistReason } := by
  rcases p.settle_cases duplicate rate with ⟨_, _, same⟩ | ⟨_, same⟩
  · exact ⟨_, _, congrArg Prod.fst same⟩
  · exact ⟨_, _, congrArg Prod.fst same⟩

theorem turn_due_iff (duplicate : Bool) : (p.turn rate (.outcome duplicate)).Due ↔
    (p.scored duplicate rate).isFlooder = true := by
  rw [isFlooder_iff, turn, Turn.Due]
  rcases p.settle_cases duplicate rate with ⟨_, _, same⟩ | ⟨_, same⟩
  all_goals
    rw [same]
    simp

theorem turn_activity_not_due (now : Nat) : ¬(p.turn rate (.activity now)).Due := by
  rintro ⟨⟨_, other⟩, _⟩
  cases other

theorem turn_blacklisted : (p.turn rate note).record.blacklisted = true ↔
    p.blacklisted = true ∨ (p.turn rate note).Due := by
  cases note with
  | activity now => exact (or_iff_left (turn_activity_not_due now)).symm
  | outcome duplicate =>
    rw [turn_due_iff]
    show (p.settle duplicate rate).1.blacklisted = true ↔ _
    rcases p.settle_cases duplicate rate with ⟨_, due, same⟩ | ⟨listed, same⟩
    · simp [same, due]
    · rw [same]
      show p.blacklisted = true ↔ _
      rcases listed with listed | other
      · simp [listed]
      · simp [other]

theorem turn_tripped : (p.turn rate note).tripped = true ↔
    p.blacklisted = false ∧ (p.turn rate note).Due := by
  cases note with
  | activity now => exact iff_of_false Bool.false_ne_true fun due => turn_activity_not_due now due.2
  | outcome duplicate =>
    rw [turn_due_iff]
    show (p.settle duplicate rate).2 = true ↔ _
    rcases p.settle_cases duplicate rate with ⟨unlisted, due, same⟩ | ⟨listed, same⟩
    · simp [same, unlisted, due]
    · rw [same]
      refine iff_of_false Bool.false_ne_true fun ⟨unlisted, due⟩ => ?_
      rcases listed with listed | other
      · rw [unlisted] at listed
        cases listed
      · rw [due] at other
        cases other

/-- A peer is on the blacklist after some notes where it was before or one of them was due. -/
theorem after_blacklisted (notes : List Note) : (p.after rate notes).blacklisted = true ↔
    p.blacklisted = true ∨ ∃ turn ∈ p.course rate notes, turn.Due := by
  induction notes generalizing p with
  | nil => simp [after, course]
  | cons note later ih =>
    rw [after, ih, turn_blacklisted, course]
    simp only [List.mem_cons, exists_eq_or_imp, or_assoc]

theorem countP_tripped (notes : List Note) :
    (p.course rate notes).countP Turn.tripped + (if p.blacklisted then 1 else 0) =
      if (p.after rate notes).blacklisted then 1 else 0 := by
  induction notes generalizing p with
  | nil => exact Nat.zero_add _
  | cons note later ih =>
    rw [after, ← ih, course, List.countP_cons]
    have trips : (p.turn rate note).tripped = true ↔ _ := turn_tripped
    have lists : (p.turn rate note).record.blacklisted = true ↔ _ := turn_blacklisted
    cases listed : p.blacklisted <;> cases tripped : (p.turn rate note).tripped <;>
      simp_all

/-- The reason of a blacklisting is there exactly with it, and more than 50 messages are counted. -/
structure Marked (p : Peer α) : Prop where
  reason : p.blacklistReason = if p.blacklisted then some blacklistText else none
  history : p.blacklisted = true → 50 < p.messages

theorem Marked.turn (marked : p.Marked) : (p.turn rate note).record.Marked := by
  cases note with
  | activity now => exact ⟨marked.reason, fun listed => Nat.lt_succ_of_lt (marked.history listed)⟩
  | outcome duplicate =>
    show (p.settle duplicate rate).1.Marked
    rcases p.settle_cases duplicate rate with ⟨_, due, same⟩ | ⟨_, same⟩
    · rw [same]
      exact ⟨rfl, fun _ => (isFlooder_iff.1 due).2.2⟩
    · rw [same]
      exact ⟨marked.reason, marked.history⟩

/-- How the blacklist works for a record that is told some notes. -/
structure Latches (first : Peer α) (rate : α) (notes : List Note) : Prop where
  listed : (first.after rate notes).blacklisted = true ↔
    ∃ turn ∈ first.course rate notes, turn.Due
  trips : ∀ earlier note later, notes = earlier ++ note :: later →
    (((first.after rate earlier).turn rate note).tripped = true ↔
      ((first.after rate earlier).turn rate note).Due ∧
        ∀ turn ∈ first.course rate earlier, ¬turn.Due)
  once : (first.course rate notes).countP Turn.tripped =
    if (first.after rate notes).blacklisted then 1 else 0
  marked : (first.after rate notes).Marked

theorem latches (unlisted : p.blacklisted = false) (unmarked : p.blacklistReason = none)
    (rate : α) (notes : List Note) : p.Latches rate notes where
  listed := by
    rw [after_blacklisted, unlisted]
    simp
  trips earlier note later _ := by
    rw [turn_tripped, ← Bool.not_eq_true, after_blacklisted, unlisted, and_comm]
    simp
  once := by
    have count : (p.course rate notes).countP Turn.tripped + _ = _ := countP_tripped notes
    rw [unlisted] at count
    exact count
  marked := by
    refine after_keeps ⟨?_, fun listed => ?_⟩ (fun _ _ marked => marked.turn) notes
    · rw [unlisted, unmarked]
      rfl
    · rw [unlisted] at listed
      cases listed

end Peer

end GossipGate
