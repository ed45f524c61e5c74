import GossipGate.Proofs.Moves

namespace GossipGate

variable {α : Type} [Scalar α]

/-- Every result of a traversal comes from a member. -/
theorem mapM_eq_ok_mem {ε β γ : Type} {f : β → Except ε γ} {members : List β} {results : List γ}
    (done : members.mapM f = .ok results) :
    ∀ result ∈ results, ∃ x ∈ members, f x = .ok result := by
  induction members generalizing results with
  | nil =>
    cases done
    simp
  | cons first rest ih =>
    rw [List.mapM_cons] at done
    obtain ⟨value, own, others⟩ := bind_eq_ok done
    obtain ⟨values, later, last⟩ := bind_eq_ok others
    cases last
    intro result member
    rcases List.mem_cons.1 member with rfl | inRest
    · exact ⟨first, List.mem_cons_self, own⟩
    · obtain ⟨x, among, result_eq⟩ := ih later result inRest
      exact ⟨x, List.mem_cons_of_mem _ among, result_eq⟩

/-- What is made of every result may be made of all results at the end. -/
theorem mapM_map_ok {ε β γ δ : Type} {f : β → Except ε γ} {g : β → Except ε δ} {h : γ → δ}
    (each : ∀ x, g x = (f x).map h) (members : List β) :
    members.mapM g = (members.mapM f).map (List.map h) := by
  induction members with
  | nil => rfl
  | cons first rest ih =>
    rw [List.mapM_cons, List.mapM_cons, each, ih]
    cases f first with
    | error => rfl
    | ok value => cases rest.mapM f <;> rfl

namespace TtlBounds

variable {b : TtlBounds} {ttl : Duration}

theorem contains_iff :
    b.contains ttl = true ↔ b.min.nanos ≤ ttl.nanos ∧ ttl.nanos ≤ b.max.nanos := by
  simp [contains, Duration.le_def]

theorem contains_min (ordered : b.min ≤ b.max) : b.contains b.min = true :=
  contains_iff.2 ⟨le_rfl, ordered⟩

theorem contains_max (ordered : b.min ≤ b.max) : b.contains b.max = true :=
  contains_iff.2 ⟨ordered, le_rfl⟩

theorem contains_clamp {cut : Duration} (clamped : b.clamp ttl = .ok cut) :
    b.contains cut = true := by
  unfold clamp at clamped
  simp only [Duration.lt_def] at clamped
  split at clamped
  · cases clamped
  rename_i ordered
  have ordered : b.min.nanos ≤ b.max.nanos := by omega
  split at clamped
  · cases clamped
    exact contains_min ordered
  split at clamped
  · cases clamped
    exact contains_max ordered
  · cases clamped
    exact contains_iff.2 ⟨by omega, by omega⟩

theorem contains_clampSeconds (ordered : b.min ≤ b.max) {seconds : α} {cut : Duration}
    (clamped : b.clampSeconds seconds = .ok cut) : b.contains cut = true := by
  unfold clampSeconds at clamped
  split at clamped
  · split at clamped
    · obtain ⟨wanted, _, own⟩ := bind_eq_ok clamped
      exact contains_clamp own
    · cases clamped
      exact contains_max ordered
  · cases clamped
    exact contains_min ordered

/-- Cutting a duration to whole milliseconds, as the global TTL is kept, does not leave bounds that
start at a whole millisecond and end within the word. -/
theorem contains_ofMillis_millisWord (whole : b.min.nanos % 1000000 = 0)
    (short : b.max.millis < UInt64.size) (inside : b.contains ttl = true) :
    b.contains (.ofMillis ttl.millisWord) = true := by
  obtain ⟨above, below⟩ := contains_iff.1 inside
  have fits : ttl.millis < UInt64.size := lt_of_le_of_lt (Nat.div_le_div_right below) short
  have word : ttl.millisWord = ttl.millis := Nat.mod_eq_of_lt fits
  have nanos : (Duration.ofMillis ttl.millisWord).nanos = ttl.nanos / 1000000 * 1000000 := by
    rw [word]
    refine Duration.nanos_ofNanos ?_
    have limited := ttl.nanos_lt
    unfold Duration.millis Duration.limit
    omega
  rw [contains_iff, nanos]
  omega

end TtlBounds

theorem TtlWindow.contains_nearest (w : TtlWindow) (ttl : Duration) :
    w.contains (w.nearest ttl) = true :=
  TtlBounds.contains_clamp (w.clamp_eq ttl)

theorem TtlWindow.nearest_of_contains {w : TtlWindow} {ttl : Duration}
    (inside : w.contains ttl = true) : w.nearest ttl = ttl := by
  obtain ⟨above, below⟩ := TtlBounds.contains_iff.1 inside
  have notBelow : ¬ttl < w.min := Nat.not_lt.2 above
  have notAbove : ¬w.max < ttl := Nat.not_lt.2 below
  unfold nearest
  rw [if_neg notBelow, if_neg notAbove]

namespace TtlChange

variable {b : TtlBounds} {ttl : Duration} {rate learningRate : α} {change : TtlChange}

theorem contains_step (done : step ttl rate b = .ok change) : b.contains change.ttl = true := by
  obtain ⟨proposed, _, cuts⟩ := bind_eq_ok done
  obtain ⟨cut, clamped, last⟩ := bind_eq_ok cuts
  cases last
  exact TtlBounds.contains_clamp clamped

theorem contains_scale (ordered : b.min ≤ b.max)
    (done : scale ttl rate learningRate b = .ok change) : b.contains change.ttl = true := by
  obtain ⟨cut, clamped, last⟩ := bind_eq_ok done
  cases last
  exact TtlBounds.contains_clampSeconds ordered clamped

end TtlChange

theorem Traffic.contains_learnedTtl {b : TtlBounds} (ordered : b.min ≤ b.max) {t : Traffic α}
    {global ttl : Duration} {messageType : String} {rate : α}
    (learned : t.learnedTtl global messageType rate b = .ok (some ttl)) :
    b.contains ttl = true := by
  unfold learnedTtl at learned
  split at learned
  · cases learned
  · obtain ⟨cut, clamped, same⟩ := map_eq_ok learned
    cases same
    exact TtlBounds.contains_clampSeconds ordered clamped

namespace Engine

variable {e : Engine α} {now : Nat} {m : Message}

/-- The TTL that a type of message learns from a new global one. -/
def learnedFor (e : Engine α) (global : Duration) (messageType : String) (t : Traffic α) :
    Except Fault (Option Duration) :=
  t.learnedTtl global messageType e.tuning.learningRate e.tuning.window.toTtlBounds

/-- The record of a type of messages with the TTL that it learns, if any. -/
def taught? (e : Engine α) (global : Duration) (item : String × Traffic α) :
    Except Fault (Option (String × Traffic α)) :=
  (e.learnedFor global item.1 item.2).map
    (Option.map fun ttl => (item.1, { item.2 with ttl, adapted := true }))

theorem learn_eq (global : Duration) : e.learn global =
    if e.profile.adaptiveLearning then
      (e.traffic.entries.mapM (e.taught? global)).map (List.filterMap id)
    else .ok [] := by
  have each : e.taught? global = fun item => do
      let ttl? ← item.2.learnedTtl global item.1 e.tuning.learningRate e.tuning.window.toTtlBounds
      return ttl?.map fun ttl => (item.1, { item.2 with ttl, adapted := true }) := by
    funext item
    unfold taught? learnedFor
    cases item.2.learnedTtl global item.1 e.tuning.learningRate e.tuning.window.toTtlBounds <;> rfl
  unfold learn
  rw [each]
  split
  · cases List.mapM (m := Except Fault) _ e.traffic.entries <;> rfl
  · rfl

theorem learn_mem {global : Duration} {learned : List (String × Traffic α)}
    (done : e.learn global = .ok learned) {messageType : String} {own : Traffic α}
    (member : (messageType, own) ∈ learned) :
    ∃ t ttl, e.traffic.get? messageType = some t ∧
      e.learnedFor global messageType t = .ok (some ttl) ∧
      own = { t with ttl, adapted := true } := by
  unfold learn at done
  split at done
  · obtain ⟨results, traversed, last⟩ := bind_eq_ok done
    cases last
    obtain ⟨result, among, same⟩ := List.mem_filterMap.1 member
    obtain ⟨⟨name, t⟩, stored, learns⟩ := mapM_eq_ok_mem traversed result among
    obtain ⟨ttl?, found, mapped⟩ := bind_eq_ok learns
    cases mapped
    obtain ⟨ttl, rfl, renewed⟩ := Option.map_eq_some_iff.1 same
    cases renewed
    exact ⟨t, ttl, Table.mem_entries_iff.1 stored, found, rfl⟩
  · cases done
    cases member

/-- Without adaptive learning no type learns anything. -/
theorem learn_unadaptive (unadaptive : e.profile.adaptiveLearning = false) (global : Duration) :
    e.learn global = .ok [] := by
  unfold learn
  rw [unadaptive]
  rfl

/-- After an adjustment a type has the TTL that it learned, the global one, or, where it learned one
before, still that. Nothing else about it changes. -/
theorem learn_follow {global : Duration} {learned : List (String × Traffic α)}
    (done : e.learn global = .ok learned) {messageType : String} {t : Traffic α}
    (stored : e.traffic.get? messageType = some t) : ∃ ttl adapted,
      follow learned global messageType t = { t with ttl, adapted } ∧
      (ttl = t.ttl ∨ ttl = global ∨ e.learnedFor global messageType t = .ok (some ttl)) := by
  unfold follow
  cases found : learned.lookup messageType with
  | some own =>
    obtain ⟨before, after, split, _⟩ := List.lookup_eq_some_iff.1 found
    have member : (messageType, own) ∈ learned := by simp [split]
    obtain ⟨same, ttl, again, learns, rfl⟩ := learn_mem done member
    cases Option.some.inj (stored.symm.trans again)
    exact ⟨ttl, true, rfl, Or.inr (Or.inr learns)⟩
  | none =>
    dsimp only
    split
    · exact ⟨t.ttl, t.adapted, rfl, Or.inl rfl⟩
    · exact ⟨global, t.adapted, rfl, Or.inr (Or.inl rfl)⟩

/-- What an adjustment with enough messages does. -/
structure Adjusts (e : Engine α) (change : TtlChange) (learned : List (String × Traffic α))
    (last : Engine α) : Prop where
  changed : (e.profile.adaptiveLearning = true ∧
      TtlChange.scale e.globalTtl (Scalar.ratio e.duplicates e.seen : α) e.tuning.learningRate
        e.tuning.window.toTtlBounds = .ok change) ∨
    TtlChange.step e.globalTtl (Scalar.ratio e.duplicates e.seen : α)
      e.tuning.window.toTtlBounds = .ok change
  learns : e.learn change.ttl = .ok learned
  last_eq : last =
    { e with
      ttlMillis := change.ttl.millisWord
      traffic := e.traffic.mapValues (follow learned change.ttl)
      seen := e.seen / 2
      duplicates := e.duplicates / 2 }

theorem adjustTtl_reports {result : Engine α × List (Event α)} (done : e.adjustTtl = .ok result) :
    result = (e, []) ∧ e.seen < 100 ∨ ∃ change learned, 100 ≤ e.seen ∧
      e.Adjusts change learned result.1 ∧ result.2 = e.reports change learned := by
  rw [adjustTtl_eq] at done
  by_cases few : e.seen < 100
  · rw [if_pos few] at done
    cases done
    exact Or.inl ⟨rfl, few⟩
  rw [if_neg few] at done
  obtain ⟨change, changed, rest⟩ := bind_eq_ok done
  obtain ⟨learned, learns, rfl⟩ := map_eq_ok rest
  refine Or.inr ⟨change, learned, by omega, ⟨?_, learns, rfl⟩, rfl⟩
  unfold control at changed
  split at changed
  · rename_i adaptive
    exact Or.inl ⟨adaptive, changed⟩
  · exact Or.inr changed

theorem adjustTtl_adjusts {result : Engine α × List (Event α)} (done : e.adjustTtl = .ok result) :
    result.1 = e ∨ ∃ change learned, e.Adjusts change learned result.1 := by
  rcases adjustTtl_reports done with ⟨same, _⟩ | ⟨change, learned, _, adjusts, _⟩
  · exact Or.inl (congrArg Prod.fst same)
  · exact Or.inr ⟨change, learned, adjusts⟩

/-- An adjustment leaves the rest of the gate alone. -/
theorem adjustTtl_fst {result : Engine α × List (Event α)} (done : e.adjustTtl = .ok result) :
    ∃ ttlMillis traffic seen duplicates,
      result.1 = { e with ttlMillis, traffic, seen, duplicates } := by
  rcases adjustTtl_adjusts done with same | ⟨change, learned, adjusts⟩
  · exact ⟨_, _, _, _, same⟩
  · exact ⟨_, _, _, _, adjusts.last_eq⟩

/-- An adjustment where it is due, or nothing. -/
theorem adjustIfDue_cases {result : Engine α × List (Event α)}
    (done : e.adjustIfDue now = .ok result) :
    now - e.lastAdjust < e.tuning.adjustEvery ∧ result = (e, []) ∨
      e.tuning.adjustEvery ≤ now - e.lastAdjust ∧
        ({ e with lastAdjust := now } : Engine α).adjustTtl = .ok result := by
  unfold adjustIfDue at done
  split at done
  · rename_i early
    cases done
    exact Or.inl ⟨early, rfl⟩
  · rename_i due
    exact Or.inr ⟨Nat.not_lt.1 due, done⟩

theorem adjustIfDue_fst {result : Engine α × List (Event α)}
    (done : e.adjustIfDue now = .ok result) : ∃ ttlMillis traffic seen duplicates lastAdjust,
      result.1 = { e with ttlMillis, traffic, seen, duplicates, lastAdjust } := by
  rcases adjustIfDue_cases done with ⟨_, rfl⟩ | ⟨_, adjusted⟩
  · exact ⟨_, _, _, _, _, rfl⟩
  · obtain ⟨_, _, _, _, same⟩ := adjustTtl_fst adjusted
    exact ⟨_, _, _, _, _, same⟩

theorem adjustIfDue_profile {result : Engine α × List (Event α)}
    (done : e.adjustIfDue now = .ok result) : result.1.profile = e.profile := by
  obtain ⟨_, _, _, _, _, same⟩ := adjustIfDue_fst done
  rw [same]

theorem Adjusts.contains {change : TtlChange} {learned : List (String × Traffic α)}
    {last : Engine α} (adjusts : e.Adjusts change learned last) :
    e.tuning.window.contains change.ttl = true := by
  rcases adjusts.changed with ⟨_, scaled⟩ | stepped
  · exact TtlChange.contains_scale e.tuning.window.min_le_max scaled
  · exact TtlChange.contains_step stepped

end Engine

end GossipGate
