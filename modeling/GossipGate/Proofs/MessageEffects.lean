import GossipGate.Proofs.Tallies

namespace GossipGate

variable {α : Type} [Scalar α] {e : Engine α} {now : Nat} {m : Message}

/-- Every member of a traversed list has its result. -/
theorem mapM_eq_ok_result {ε β γ : Type} {f : β → Except ε γ} {members : List β} {results : List γ}
    (done : members.mapM f = .ok results) : ∀ x ∈ members, ∃ result ∈ results, f x = .ok result := by
  induction members generalizing results with
  | nil => simp
  | cons first rest ih =>
    rw [List.mapM_cons] at done
    obtain ⟨value, own, others⟩ := bind_eq_ok done
    obtain ⟨values, later, last⟩ := bind_eq_ok others
    cases last
    intro x member
    rcases List.mem_cons.1 member with rfl | inRest
    · exact ⟨value, List.mem_cons_self, own⟩
    · obtain ⟨result, among, result_eq⟩ := ih later x inRest
      exact ⟨result, List.mem_cons_of_mem _ among, result_eq⟩

/-- What an adjustment makes of the record of a type: under adaptive learning more than 20 messages
teach it a TTL of its own; else one that has its own keeps it, and any other takes the global one. -/
inductive Traffic.Adapts (adaptive : Bool) (global : Duration) (t : Traffic α) : Traffic α → Prop
  | taught (ttl : Duration) : adaptive = true → 20 < t.seen →
      Adapts adaptive global t { t with ttl, adapted := true }
  | keeps : ¬(adaptive = true ∧ 20 < t.seen) → t.adapted = true → Adapts adaptive global t t
  | follows : ¬(adaptive = true ∧ 20 < t.seen) → t.adapted = false →
      Adapts adaptive global t { t with ttl := global }

omit [Scalar α] in
/-- Nothing else about the record changes. -/
theorem Traffic.Adapts.exists_eq {adaptive : Bool} {global : Duration} {t after : Traffic α}
    (adapts : t.Adapts adaptive global after) : ∃ ttl adapted, after = { t with ttl, adapted } := by
  cases adapts <;> exact ⟨_, _, rfl⟩

/-- The record of a type after one more message of it, which counts as a duplicate or not. -/
structure Traffic.CountsOne (t old : Traffic α) (repeated : Nat) : Prop where
  seen : t.seen = old.seen + 1
  duplicates : t.duplicates = old.duplicates + repeated
  ttl : t.ttl = old.ttl
  adapted : t.adapted = old.adapted

/-- A TTL is learned for a type exactly from more than 20 messages of it. -/
theorem Traffic.isSome_learnedTtl_iff {b : TtlBounds} {t : Traffic α} {global : Duration}
    {messageType : String} {rate : α} {ttl? : Option Duration}
    (learned : t.learnedTtl global messageType rate b = .ok ttl?) :
    ttl?.isSome = true ↔ 20 < t.seen := by
  unfold learnedTtl at learned
  split at learned
  · rename_i few
    cases learned
    simp [Nat.not_lt.2 few]
  · rename_i many
    obtain ⟨ttl, _, rfl⟩ := map_eq_ok learned
    simp [Nat.not_le.1 many]

namespace Engine

/-- Adaptive learning teaches every type of which it has seen more than 20 messages. -/
theorem learn_taught {global : Duration} {learned : List (String × Traffic α)}
    (done : e.learn global = .ok learned) (adaptive : e.profile.adaptiveLearning = true)
    {messageType : String} {t : Traffic α} (stored : e.traffic.get? messageType = some t)
    (many : 20 < t.seen) : ∃ own, (messageType, own) ∈ learned := by
  unfold learn at done
  rw [if_pos adaptive] at done
  obtain ⟨results, traversed, last⟩ := bind_eq_ok done
  cases last
  obtain ⟨result, among, learns⟩ :=
    mapM_eq_ok_result traversed _ (Table.mem_entries_iff.2 stored)
  obtain ⟨ttl?, found, mapped⟩ := bind_eq_ok learns
  cases mapped
  obtain ⟨ttl, rfl⟩ := Option.isSome_iff_exists.1 ((Traffic.isSome_learnedTtl_iff found).2 many)
  exact ⟨_, List.mem_filterMap.2 ⟨_, among, rfl⟩⟩

/-- A type learns a TTL exactly where adaptive learning has seen more than 20 messages of it. -/
theorem learn_lookup {global : Duration} {learned : List (String × Traffic α)}
    (done : e.learn global = .ok learned) {messageType : String} {t : Traffic α}
    (stored : e.traffic.get? messageType = some t) :
    (learned.lookup messageType = none ∧ ¬(e.profile.adaptiveLearning = true ∧ 20 < t.seen)) ∨
      ∃ ttl, learned.lookup messageType = some { t with ttl, adapted := true } ∧
        e.profile.adaptiveLearning = true ∧ 20 < t.seen := by
  cases found : learned.lookup messageType with
  | none =>
    refine Or.inl ⟨rfl, fun ⟨adaptive, many⟩ => ?_⟩
    obtain ⟨own, member⟩ := learn_taught done adaptive stored many
    simpa using List.lookup_eq_none_iff.1 found _ member
  | some own =>
    obtain ⟨before, after, split, _⟩ := List.lookup_eq_some_iff.1 found
    have member : (messageType, own) ∈ learned := by simp [split]
    obtain ⟨same, ttl, again, learns, rfl⟩ := learn_mem done member
    cases Option.some.inj (stored.symm.trans again)
    refine Or.inr ⟨ttl, rfl, ?_, (Traffic.isSome_learnedTtl_iff learns).1 rfl⟩
    by_contra unadaptive
    have nothing := learn_unadaptive (Bool.eq_false_iff.2 unadaptive) global
    rw [done] at nothing
    cases nothing
    cases member

section Adjusts

variable {change : TtlChange} {learned : List (String × Traffic α)} {last : Engine α}
  {messageType : String}

theorem Adjusts.get?_eq (adjusts : e.Adjusts change learned last) (messageType : String) :
    last.traffic.get? messageType =
      (e.traffic.get? messageType).map (follow learned change.ttl messageType) := by
  rw [adjusts.last_eq]
  exact Table.get?_mapValues _ _ _

theorem Adjusts.adapts_follow (adjusts : e.Adjusts change learned last) {t : Traffic α}
    (stored : e.traffic.get? messageType = some t) :
    t.Adapts e.profile.adaptiveLearning change.ttl (follow learned change.ttl messageType t) := by
  unfold follow
  rcases learn_lookup adjusts.learns stored with ⟨absent, untaught⟩ | ⟨ttl, own, adaptive, many⟩
  · rw [absent]
    dsimp only
    split
    · rename_i adapted
      exact .keeps untaught adapted
    · rename_i other
      exact .follows untaught (Bool.eq_false_iff.2 other)
  · rw [own]
    exact .taught ttl adaptive many

theorem Adjusts.adapts (adjusts : e.Adjusts change learned last) {t : Traffic α}
    (stored : e.traffic.get? messageType = some t) :
    ∃ after, last.traffic.get? messageType = some after ∧
      t.Adapts e.profile.adaptiveLearning change.ttl after :=
  ⟨_, by rw [adjusts.get?_eq, stored, Option.map_some], adjusts.adapts_follow stored⟩

/-- The types after an adjustment are those before it. -/
theorem Adjusts.origin (adjusts : e.Adjusts change learned last) {after : Traffic α}
    (stored : last.traffic.get? messageType = some after) :
    ∃ t, e.traffic.get? messageType = some t ∧
      t.Adapts e.profile.adaptiveLearning change.ttl after := by
  rw [adjusts.get?_eq] at stored
  obtain ⟨t, found, rfl⟩ := Option.map_eq_some_iff.1 stored
  exact ⟨t, found, adjusts.adapts_follow found⟩

end Adjusts

/-- What a message changes of the counts and of the types before any adjustment. -/
structure Hears (e : Engine α) (m : Message) (repeated : Nat) (last : Engine α) : Prop where
  profile : last.profile = e.profile
  tuning : last.tuning = e.tuning
  ttlMillis : last.ttlMillis = e.ttlMillis
  seen : last.seen = e.seen + 1
  others : ∀ messageType, messageType ≠ m.messageType →
    last.traffic.get? messageType = e.traffic.get? messageType
  own : ∃ t, last.traffic.get? m.messageType = some t ∧
    t.CountsOne (e.trafficRecord m.messageType) repeated

/-- Other parts of the gate may change on the way. -/
theorem Hears.congr {repeated : Nat} {heard last : Engine α}
    (hears : e.Hears m repeated heard) (profile : last.profile = heard.profile)
    (tuning : last.tuning = heard.tuning) (ttlMillis : last.ttlMillis = heard.ttlMillis)
    (seen : last.seen = heard.seen) (traffic : last.traffic = heard.traffic) :
    e.Hears m repeated last where
  profile := profile.trans hears.profile
  tuning := tuning.trans hears.tuning
  ttlMillis := ttlMillis.trans hears.ttlMillis
  seen := seen.trans hears.seen
  others := traffic ▸ hears.others
  own := traffic ▸ hears.own

/-- A known type keeps its TTL. -/
theorem Hears.known {repeated : Nat} {heard : Engine α} (hears : e.Hears m repeated heard)
    {messageType : String} {t : Traffic α} (stored : e.traffic.get? messageType = some t) :
    ∃ after, heard.traffic.get? messageType = some after ∧ after.ttl = t.ttl ∧
      after.adapted = t.adapted := by
  by_cases own : messageType = m.messageType
  · subst own
    obtain ⟨after, found, counts⟩ := hears.own
    have record : e.trafficRecord m.messageType = t := by
      rw [trafficRecord, stored, Option.getD_some]
    rw [record] at counts
    exact ⟨after, found, counts.ttl, counts.adapted⟩
  · exact ⟨t, (hears.others messageType own).trans stored, rfl, rfl⟩

/-- A new type is that of the message, and has learned nothing. -/
theorem Hears.fresh {repeated : Nat} {heard : Engine α} (hears : e.Hears m repeated heard)
    {messageType : String} {after : Traffic α} (absent : e.traffic.get? messageType = none)
    (stored : heard.traffic.get? messageType = some after) :
    after.seen = 1 ∧ after.adapted = false := by
  by_cases own : messageType = m.messageType
  · subst own
    obtain ⟨t, found, counts⟩ := hears.own
    cases Option.some.inj (found.symm.trans stored)
    have record : e.trafficRecord m.messageType = .fresh e.globalTtl := by
      rw [trafficRecord, absent, Option.getD_none]
    rw [record] at counts
    exact ⟨counts.seen, counts.adapted⟩
  · rw [hears.others messageType own, absent] at stored
    cases stored

/-- The bookkeeping of a message. -/
theorem arrive_hears {a : Arrival α} (arrived : e.arrive now m = .ok a) :
    e.Hears m (if e.blocks m then 1 else 0) a.engine ∧ a.engine.duplicates = e.duplicates ∧
      a.engine.lastAdjust = e.lastAdjust := by
  obtain ⟨peers, measured, done, _, engine⟩ := arrive_engine arrived
  obtain ⟨_, _, _, _, _, counted⟩ := measure_fst done
  rw [engine]
  refine ⟨⟨rfl, rfl, rfl, rfl, fun messageType other => ?_, measured.1, ?_, ?_⟩, rfl, rfl⟩
  · show (e.traffic.insert m.messageType measured.1).get? messageType = _
    rw [Table.get?_insert, if_neg other]
  · show (e.traffic.insert m.messageType measured.1).get? m.messageType = _
    rw [Table.get?_insert, if_pos rfl]
  · rw [counted]
    exact ⟨rfl, rfl, rfl, rfl⟩

/-- A live duplicate counts for its type. -/
theorem Hears.suppress {heard : Engine α} (hears : e.Hears m 0 heard) (a : Arrival α) :
    e.Hears m 1 (heard.suppress a m).engine := by
  obtain ⟨peers, engine⟩ := suppress_engine (e := heard) (m := m) a
  obtain ⟨t, stored, counts⟩ := hears.own
  rw [engine]
  refine ⟨hears.profile, hears.tuning, hears.ttlMillis, hears.seen, fun messageType other => ?_,
    t.countDuplicate, ?_, counts.seen, ?_, counts.ttl, counts.adapted⟩
  · show (heard.traffic.modify m.messageType Traffic.countDuplicate).get? messageType = _
    rw [Table.get?_modify, if_neg other]
    exact hears.others messageType other
  · show (heard.traffic.modify m.messageType Traffic.countDuplicate).get? m.messageType = _
    rw [Table.get?_modify, if_pos rfl, stored, Option.map_some]
  · exact congrArg (· + 1) counts.duplicates

/-- The ways in which a message ends, by what becomes of the counts and the TTLs: it is suppressed,
or it passes, early in the interval between adjustments or after it. An adjustment that is due takes
100 messages; below that a new interval starts without one. -/
inductive Concludes (e : Engine α) (now : Nat) (m : Message) (reply : Reply α Bool) : Prop
  | nameless : m.hash.isEmpty = true → reply = ⟨e, false, []⟩ → Concludes e now m reply
  | suppressed : m.hash.isEmpty = false → reply.value = true → e.Hears m 1 reply.engine →
      reply.engine.duplicates = e.duplicates + 1 → reply.engine.lastAdjust = e.lastAdjust →
      adjustments reply.events = [] → Concludes e now m reply
  | early : m.hash.isEmpty = false → reply.value = false →
      now - e.lastAdjust < e.tuning.adjustEvery → e.Hears m 0 reply.engine →
      reply.engine.duplicates = e.duplicates → reply.engine.lastAdjust = e.lastAdjust →
      adjustments reply.events = [] → Concludes e now m reply
  | sparse : m.hash.isEmpty = false → reply.value = false →
      e.tuning.adjustEvery ≤ now - e.lastAdjust → e.seen + 1 < 100 → e.Hears m 0 reply.engine →
      reply.engine.duplicates = e.duplicates → reply.engine.lastAdjust = now →
      adjustments reply.events = [] → Concludes e now m reply
  | adjusted {heard change learned} : m.hash.isEmpty = false → reply.value = false →
      e.tuning.adjustEvery ≤ now - e.lastAdjust → 100 ≤ e.seen + 1 → e.Hears m 0 heard →
      heard.duplicates = e.duplicates → heard.lastAdjust = now →
      heard.Adjusts change learned reply.engine →
      adjustments reply.events = [(Scalar.ratio e.duplicates (e.seen + 1), change)] →
      Concludes e now m reply

/-- A message that passes. -/
theorem Hears.pass {heard : Engine α} (hears : e.Hears m 0 heard)
    (duplicates : heard.duplicates = e.duplicates) (lastAdjust : heard.lastAdjust = e.lastAdjust)
    (named : m.hash.isEmpty = false) {a : Arrival α} {outcome : Outcome} {reply : Reply α Bool}
    (passed : heard.pass now a m outcome = .ok reply) {before : List (Event α)}
    (quiet : adjustments before = []) : e.Concludes now m (reply.after before) := by
  have value : (reply.after before).value = false := (pass_value passed : reply.value = false)
  obtain ⟨peers, result, due, engine, _, told⟩ := pass_adjusts passed
  have told : adjustments (reply.after before).events = adjustments result.2 := by
    rw [Reply.after, adjustments_append, quiet, told, List.nil_append]
  have engine : (reply.after before).engine = result.1 := engine
  rcases adjustIfDue_cases due with ⟨early, rfl⟩ | ⟨elapsed, adjusted⟩
  · rw [lastAdjust, hears.tuning] at early
    refine .early named value early ?_ ?_ ?_ told
    all_goals rw [engine]
    · exact hears.congr rfl rfl rfl rfl rfl
    · exact duplicates
    · exact lastAdjust
  rw [lastAdjust, hears.tuning] at elapsed
  rcases adjustTtl_reports adjusted with ⟨rfl, few⟩ | ⟨change, learned, many, adjusts, reports⟩
  · refine .sparse named value elapsed (hears.seen ▸ few) ?_ ?_ ?_ told
    all_goals rw [engine]
    · exact hears.congr rfl rfl rfl rfl rfl
    · exact duplicates
  · let opened : Engine α := { heard with peers, lastAdjust := now }
    have kept : e.Hears m 0 opened := hears.congr rfl rfl rfl rfl rfl
    rw [← engine] at adjusts
    refine .adjusted named value elapsed (hears.seen ▸ many) kept duplicates rfl adjusts ?_
    rw [told, reports, (suppressions_reports change learned).2, ← duplicates, ← hears.seen]

theorem Receives.concludes {reply : Reply α Bool} (receives : e.Receives now m reply) :
    e.Concludes now m reply := by
  cases receives with
  | nameless named => exact .nameless named rfl
  | @blocked arrival named blocked arrived =>
    obtain ⟨hears, duplicates, lastAdjust⟩ := arrive_hears arrived
    have told := (arrive_reports arrived ⟨e.store, .dropped, []⟩).2
    rw [evictions, List.map_nil, List.append_nil] at told
    rw [blocked] at hears
    refine .suppressed named rfl (hears.congr rfl rfl rfl rfl rfl) (congrArg (· + 1) duplicates)
      lastAdjust ?_
    rw [block, adjustments_append, told]
    rfl
  | @suppressed arrival named unblocked arrived duplicate =>
    obtain ⟨hears, duplicates, lastAdjust⟩ := arrive_hears arrived
    rw [unblocked] at hears
    let admitted := arrival.engine.withStore (lookUp now arrival m).store
    have kept : e.Hears m 0 admitted := hears.congr rfl rfl rfl rfl rfl
    obtain ⟨peers, engine⟩ := suppress_engine (e := admitted) (m := m) arrival
    refine .suppressed named rfl (kept.suppress arrival) ?_ ?_ ?_
    · show (admitted.suppress arrival m).engine.duplicates = _
      rw [engine]
      exact congrArg (· + 1) duplicates
    · show (admitted.suppress arrival m).engine.lastAdjust = _
      rw [engine]
      exact lastAdjust
    · rw [Reply.after, adjustments_append, (arrive_reports arrived _).2, (suppress_reports _).2,
        List.append_nil]
  | @passed arrival reply named unblocked arrived other passed =>
    obtain ⟨hears, duplicates, lastAdjust⟩ := arrive_hears arrived
    rw [unblocked] at hears
    have kept : e.Hears m 0 (arrival.engine.withStore (lookUp now arrival m).store) :=
      hears.congr rfl rfl rfl rfl rfl
    exact kept.pass duplicates lastAdjust named passed (arrive_reports arrived _).2

/-- Calls that bring no message leave the interval between adjustments alone. -/
theorem perform_lastAdjust {call : Call} (other : ∀ m, call ≠ .message m) {reply : Reply α Answer}
    (performed : e.perform now call = .ok reply) : reply.engine.lastAdjust = e.lastAdjust := by
  cases call with
  | message m => exact absurd rfl (other m)
  | activity peer =>
    obtain rfl := Except.ok.inj performed
    have same : (e.meet peer now).1 = { e with peers := (e.meet peer now).1.peers } :=
      e.meet_fst peer
    unfold trackPeer
    rw [same]
  | setTier requested =>
    obtain rfl := Except.ok.inj performed
    rw [setTier_eq]
    dsimp only [Reply.map, retiered]
  | cleanup | close =>
    obtain rfl := Except.ok.inj performed
    rfl

/-- A call other than a message changes neither the counts nor the TTLs. -/
structure Upkeeps (e : Engine α) (call : Call) (reply : Reply α Answer) : Prop where
  other : ∀ m, call ≠ .message m
  traffic : reply.engine.traffic = e.traffic
  seen : reply.engine.seen = e.seen
  duplicates : reply.engine.duplicates = e.duplicates
  ttlMillis : reply.engine.ttlMillis = e.ttlMillis
  lastAdjust : reply.engine.lastAdjust = e.lastAdjust
  unsuppressed : reply.value ≠ .verdict true
  unadjusted : adjustments reply.events = []

/-- Every call brings a message, which ends in one of the ways above, or changes no TTL. -/
theorem perform_concludes {call : Call} {reply : Reply α Answer}
    (performed : e.perform now call = .ok reply) :
    (∃ m answer, call = .message m ∧ reply = answer.map .verdict ∧ e.Concludes now m answer) ∨
      e.Upkeeps call reply := by
  by_cases brought : ∃ m, call = .message m
  · obtain ⟨m, rfl⟩ := brought
    obtain ⟨answer, answered, rfl⟩ := perform_message performed
    exact Or.inl ⟨m, answer, rfl, rfl, (receive_receives answered).concludes⟩
  · have other : ∀ m, call ≠ .message m := fun m same => brought ⟨m, same⟩
    obtain ⟨traffic, seen, duplicates, ttlMillis, value, quiet⟩ := perform_upkeep other performed
    exact Or.inr ⟨other, traffic, seen, duplicates, ttlMillis, perform_lastAdjust other performed,
      value, (reports_of_quiet quiet).2⟩

end Engine

end GossipGate
