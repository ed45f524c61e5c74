import GossipGate.Proofs.Averages
import GossipGate.Proofs.Blacklist
import GossipGate.Proofs.Reports

namespace GossipGate

namespace Table

variable {κ ν : Type}

/-- The sum of a count over all values of a table. -/
def total (t : Table κ ν) (count : ν → Nat) : Nat := (t.values.map count).sum

theorem total_mapValues {t : Table κ ν} {f : κ → ν → ν} {count : ν → Nat}
    (same : ∀ key value, (key, value) ∈ t.entries → count (f key value) = count value) :
    (t.mapValues f).total count = t.total count := by
  unfold total values mapValues
  simp only [List.map_map]
  exact congrArg List.sum (List.map_congr_left fun pair member => same pair.1 pair.2 member)

variable [DecidableEq κ]

/-- What a change of the value of one key adds to a total. -/
theorem total_modify (t : Table κ ν) (key : κ) (f : ν → ν) (count : ν → Nat) :
    (t.modify key f).total count + ((t.get? key).map count).getD 0 =
      t.total count + ((t.get? key).map fun value => count (f value)).getD 0 := by
  obtain ⟨entries, nodup⟩ := t
  unfold total values modify mapValues get?
  simp only [List.map_map]
  induction entries with
  | nil => rfl
  | cons pair rest ih =>
    obtain ⟨k, v⟩ := pair
    obtain ⟨new, others⟩ := List.nodup_cons.1 nodup
    have later := ih others
    by_cases own : key = k
    · subst own
      -- No other pair has this key.
      have rest_eq : rest.map (count ∘ Prod.snd ∘ fun p : κ × ν =>
          (p.1, if p.1 = key then f p.2 else p.2)) = rest.map (count ∘ Prod.snd) := by
        refine List.map_congr_left fun pair member => ?_
        have other : pair.1 ≠ key := fun same => new (List.mem_map.2 ⟨pair, member, same⟩)
        simp only [Function.comp_apply, other, if_false]
      simp only [List.map_cons, List.sum_cons, rest_eq, lookup_cons, if_true, Option.map_some,
        Option.getD_some, Function.comp_apply]
      omega
    · have apart : ¬k = key := fun same => own same.symm
      simp only [List.map_cons, List.sum_cons, lookup_cons, own, if_false, Function.comp_apply,
        apart] at later ⊢
      omega

/-- What a value adds to a total, in the place of the old one where there was one. -/
theorem total_insert (t : Table κ ν) (key : κ) (value : ν) (count : ν → Nat) :
    (t.insert key value).total count + ((t.get? key).map count).getD 0 =
      t.total count + count value := by
  unfold insert
  split
  · rename_i absent
    rw [absent]
    simp [total, values]
  · rename_i present
    obtain ⟨old, stored⟩ := Option.ne_none_iff_exists'.1 present
    rw [total_modify, stored, Option.map_some, Option.getD_some]

end Table

variable {α : Type} [Scalar α] {e : Engine α} {now : Nat} {m : Message}

namespace Engine

theorem measure_counts {blocked : Bool} {measured : Traffic α × Option α}
    (counted : e.measure now m blocked = .ok measured) :
    measured.1.seen = (e.trafficRecord m.messageType).seen + 1 ∧
      measured.1.duplicates =
        (e.trafficRecord m.messageType).duplicates + if blocked then 1 else 0 := by
  obtain ⟨_, _, _, _, _, same⟩ := measure_fst counted
  rw [same]
  exact ⟨rfl, rfl⟩

/-- The bookkeeping of a message changes the record of its peer and that of its type, and counts
it. -/
theorem arrive_engine {a : Arrival α} (arrived : e.arrive now m = .ok a) :
    ∃ peers measured, e.measure now m (e.blocks m) = .ok measured ∧ a.traffic = measured.1 ∧
      a.engine =
        { e with
          seen := e.seen + 1
          peers
          traffic := e.traffic.insert m.messageType measured.1 } := by
  have blocked := (arrive_follows arrived).blocked
  have fst := @meet_fst α _ { e with seen := e.seen + 1 } now m.peer
  unfold arrive at arrived
  generalize ({ e with seen := e.seen + 1 } : Engine α).meet m.peer now = met at *
  obtain ⟨counted, record⟩ := met
  obtain ⟨measured, done, last⟩ := bind_eq_ok arrived
  cases last
  simp only at fst done
  rw [fst] at done
  refine ⟨counted.peers, measured, ?_, rfl, ?_⟩
  · rw [← blocked]
    exact done
  · show ({ counted with traffic := _ } : Engine α) = _
    rw [fst]

end Engine

/-- What the bookkeeping of a message adds to the counters. -/
structure Arrival.Counted (a : Arrival α) (e : Engine α) (m : Message) : Prop where
  seen : a.engine.traffic.total Traffic.seen = e.traffic.total Traffic.seen + 1
  duplicates : a.engine.traffic.total Traffic.duplicates =
    e.traffic.total Traffic.duplicates + if e.blocks m then 1 else 0
  types : ∀ messageType, a.engine.traffic.contains messageType = true ↔
    messageType = m.messageType ∨ e.traffic.contains messageType = true
  all : a.engine.seen = e.seen + 1
  repeated : a.engine.duplicates = e.duplicates
  global : a.engine.ttlMillis = e.ttlMillis

omit [Scalar α] in
theorem Arrival.Counted.known {a : Arrival α} (counted : a.Counted e m) {messageType : String}
    (known : e.traffic.contains messageType = true ∨
      m.hash.isEmpty = false ∧ m.messageType = messageType) :
    a.engine.traffic.contains messageType = true :=
  (counted.types messageType).2 (known.symm.imp_left fun own => own.2.symm)

namespace Engine

theorem arrive_counted {a : Arrival α} (arrived : e.arrive now m = .ok a) : a.Counted e m := by
  obtain ⟨peers, measured, done, _, engine⟩ := arrive_engine arrived
  have counts := measure_counts done
  have old : (e.trafficRecord m.messageType).seen =
        ((e.traffic.get? m.messageType).map Traffic.seen).getD 0 ∧
      (e.trafficRecord m.messageType).duplicates =
        ((e.traffic.get? m.messageType).map Traffic.duplicates).getD 0 := by
    unfold trafficRecord
    cases e.traffic.get? m.messageType <;> exact ⟨rfl, rfl⟩
  have seen := e.traffic.total_insert m.messageType measured.1 Traffic.seen
  have duplicates := e.traffic.total_insert m.messageType measured.1 Traffic.duplicates
  have traffic : a.engine.traffic = e.traffic.insert m.messageType measured.1 := by rw [engine]
  refine ⟨?_, ?_, fun messageType => ?_, by rw [engine], by rw [engine], by rw [engine]⟩
  · rw [traffic]
    omega
  · rw [traffic]
    omega
  · rw [traffic]
    unfold Table.contains
    rw [Table.get?_insert]
    by_cases own : messageType = m.messageType <;> simp [own]

/-- An adjustment counts nothing. It may halve the counts that it is made by. -/
structure Recounts (e last : Engine α) : Prop where
  seen : last.traffic.total Traffic.seen = e.traffic.total Traffic.seen
  duplicates : last.traffic.total Traffic.duplicates = e.traffic.total Traffic.duplicates
  types : ∀ messageType, last.traffic.contains messageType = e.traffic.contains messageType
  all : last.seen = e.seen ∧ last.duplicates = e.duplicates ∨
    last.seen = e.seen / 2 ∧ last.duplicates = e.duplicates / 2

theorem adjustTtl_recounts {result : Engine α × List (Event α)} (done : e.adjustTtl = .ok result) :
    e.Recounts result.1 := by
  rcases adjustTtl_adjusts done with same | ⟨change, learned, adjusts⟩
  · rw [same]
    exact ⟨rfl, rfl, fun _ => rfl, Or.inl ⟨rfl, rfl⟩⟩
  · have follows : ∀ messageType t, (messageType, t) ∈ e.traffic.entries → ∃ ttl adapted,
        follow learned change.ttl messageType t = { t with ttl, adapted } := by
      intro messageType t member
      obtain ⟨ttl, adapted, same, _⟩ :=
        learn_follow adjusts.learns (Table.mem_entries_iff.1 member)
      exact ⟨ttl, adapted, same⟩
    rw [adjusts.last_eq]
    refine ⟨?_, ?_, fun messageType => ?_, Or.inr ⟨rfl, rfl⟩⟩
    · refine Table.total_mapValues fun messageType t member => ?_
      obtain ⟨_, _, same⟩ := follows messageType t member
      rw [same]
    · refine Table.total_mapValues fun messageType t member => ?_
      obtain ⟨_, _, same⟩ := follows messageType t member
      rw [same]
    · simp [Table.contains, Table.get?_mapValues]

theorem adjustIfDue_recounts {result : Engine α × List (Event α)}
    (done : e.adjustIfDue now = .ok result) : e.Recounts result.1 := by
  rcases adjustIfDue_cases done with ⟨_, rfl⟩ | ⟨_, adjusted⟩
  · exact ⟨rfl, rfl, fun _ => rfl, Or.inl ⟨rfl, rfl⟩⟩
  · have recounts := adjustTtl_recounts adjusted
    exact ⟨recounts.seen, recounts.duplicates, recounts.types, recounts.all⟩

/-- What the answer to a message adds to the counters. -/
structure Tallies (e : Engine α) (m : Message) (reply : Reply α Bool) : Prop where
  seen : reply.engine.traffic.total Traffic.seen =
    e.traffic.total Traffic.seen + if m.hash.isEmpty then 0 else 1
  duplicates : reply.engine.traffic.total Traffic.duplicates =
    e.traffic.total Traffic.duplicates + if reply.value then 1 else 0
  types : ∀ messageType, e.traffic.contains messageType = true ∨
    m.hash.isEmpty = false ∧ m.messageType = messageType →
      reply.engine.traffic.contains messageType = true
  ordered : e.duplicates ≤ e.seen → reply.engine.duplicates ≤ reply.engine.seen
  few : reply.engine.seen ≤ e.seen + if m.hash.isEmpty then 0 else 1
  retimes : ({ e with seen := e.seen + if m.hash.isEmpty then 0 else 1 } : Engine α).Retimes
    reply.engine (adjustments reply.events)

/-- What the decision on a message does to the counters after the bookkeeping. -/
structure Decides (e last : Engine α) (repeated : Nat) (told : List (α × TtlChange)) : Prop where
  seen : last.traffic.total Traffic.seen = e.traffic.total Traffic.seen
  duplicates : last.traffic.total Traffic.duplicates =
    e.traffic.total Traffic.duplicates + repeated
  types : ∀ messageType, e.traffic.contains messageType = true →
    last.traffic.contains messageType = true
  ordered : e.duplicates < e.seen → last.duplicates ≤ last.seen
  few : last.seen ≤ e.seen
  retimes : e.Retimes last told

theorem suppress_engine (a : Arrival α) : ∃ peers, (e.suppress a m).engine =
    { e with
      duplicates := e.duplicates + 1
      traffic := e.traffic.modify m.messageType Traffic.countDuplicate
      peers } := by
  obtain ⟨peers, _, judged, _⟩ :=
    judgeCaller_eq (e := { e with
      duplicates := e.duplicates + 1
      traffic := e.traffic.modify m.messageType Traffic.countDuplicate }) (m := m) a true
  exact ⟨peers, congrArg Prod.fst judged⟩

/-- A suppression counts one duplicate for the type of the message. -/
theorem suppress_decides (known : e.traffic.contains m.messageType = true) (a : Arrival α) :
    e.Decides (e.suppress a m).engine 1 [] := by
  obtain ⟨peers, engine⟩ := suppress_engine (e := e) (m := m) a
  obtain ⟨t, stored⟩ := Option.isSome_iff_exists.1 known
  have seen := e.traffic.total_modify m.messageType Traffic.countDuplicate Traffic.seen
  have repeated := e.traffic.total_modify m.messageType Traffic.countDuplicate Traffic.duplicates
  rw [stored] at seen repeated
  simp only [Option.map_some, Option.getD_some, Traffic.countDuplicate] at seen repeated
  rw [engine]
  refine ⟨?_, ?_, fun messageType kept => ?_, fun fewer => fewer, le_rfl, Or.inl ⟨rfl, rfl⟩⟩
  · show (e.traffic.modify m.messageType Traffic.countDuplicate).total Traffic.seen = _
    omega
  · show (e.traffic.modify m.messageType Traffic.countDuplicate).total Traffic.duplicates = _
    omega
  · simp only [Table.contains, Table.get?_modify]
    split
    · rw [Option.isSome_map]
      exact kept
    · exact kept

/-- Letting a message through counts nothing. An adjustment may halve the global counts. -/
theorem pass_decides {a : Arrival α} {outcome : Outcome} {reply : Reply α Bool}
    (passed : e.pass now a m outcome = .ok reply) :
    e.Decides reply.engine 0 (adjustments reply.events) := by
  obtain ⟨peers, result, adjusted, engine, _, told⟩ := pass_adjusts passed
  have recounts := adjustIfDue_recounts adjusted
  rw [engine, told]
  refine ⟨recounts.seen, recounts.duplicates, fun messageType kept => ?_, fun fewer => ?_, ?_,
    (adjustIfDue_retimes adjusted).congr rfl rfl rfl⟩
  · rw [recounts.types]
    exact kept
  · rcases recounts.all with ⟨all, repeated⟩ | ⟨all, repeated⟩
    · rw [all, repeated]
      exact fewer.le
    · rw [all, repeated]
      exact Nat.div_le_div_right fewer.le
  · rcases recounts.all with ⟨all, _⟩ | ⟨all, _⟩
    · rw [all]
    · rw [all]
      exact Nat.div_le_self _ _

end Engine

/-- A message with a hash is counted by its bookkeeping and by the decision on it. -/
theorem Arrival.Counted.tallies {a : Arrival α} (counted : a.Counted e m)
    (named : m.hash.isEmpty = false) {store : Store α} {reply : Reply α Bool} {repeated : Nat}
    (decides : (a.engine.withStore store).Decides reply.engine repeated (adjustments reply.events))
    (verdict : (if e.blocks m then 1 else 0) + repeated = if reply.value then 1 else 0) :
    e.Tallies m reply := by
  refine ⟨?_, ?_, fun messageType present => ?_, fun ordered => ?_, ?_, ?_⟩
  · rw [named]
    exact decides.seen.trans counted.seen
  · rw [← verdict, ← Nat.add_assoc, ← counted.duplicates]
    exact decides.duplicates
  · exact decides.types messageType (counted.known present)
  · refine decides.ordered ?_
    rw [Engine.withStore_duplicates, Engine.withStore_seen, counted.all, counted.repeated]
    exact Nat.lt_succ_of_le ordered
  · rw [named]
    exact decides.few.trans counted.all.le
  · rw [named]
    exact decides.retimes.congr counted.global counted.all counted.repeated

namespace Engine

theorem Receives.tallies {reply : Reply α Bool} (receives : e.Receives now m reply) :
    e.Tallies m reply := by
  cases receives with
  | nameless named =>
    refine ⟨by simp [named], by simp, fun _ present => ?_, id, Nat.le_add_right _ _,
      Or.inl ⟨rfl, rfl⟩⟩
    exact present.resolve_right (by simp [named])
  | @blocked arrival named blocked arrived =>
    have told := (arrive_reports arrived ⟨e.store, .dropped, []⟩).2
    rw [evictions, List.map_nil, List.append_nil] at told
    have unadjusted : adjustments (block arrival m).events = [] := by
      simp only [block, adjustments_append, told]
      rfl
    have decides : (arrival.engine.withStore arrival.engine.store).Decides
        (block arrival m).engine 0 (adjustments (block arrival m).events) :=
      ⟨rfl, rfl, fun _ => id, id, le_rfl, Or.inl ⟨unadjusted, rfl⟩⟩
    refine (arrive_counted arrived).tallies named decides ?_
    rw [blocked]
    rfl
  | @suppressed arrival named unblocked arrived duplicate =>
    have counted := arrive_counted arrived
    have known := (counted.types m.messageType).2 (Or.inl rfl)
    have decides := suppress_decides (m := m)
      (e := arrival.engine.withStore (lookUp now arrival m).store) known arrival
    have unadjusted : adjustments (((arrival.engine.withStore (lookUp now arrival m).store).suppress
        arrival m).after (arrival.events ++ arrival.engine.evictions (lookUp now arrival m))).events =
          [] := by
      simp only [Reply.after, adjustments_append, arrive_reports arrived, suppress_reports,
        List.append_nil]
    rw [← unadjusted] at decides
    refine counted.tallies named decides ?_
    rw [unblocked]
    rfl
  | @passed arrival reply named unblocked arrived other passed =>
    have decides := pass_decides passed
    have told : adjustments (reply.after (arrival.events ++
        arrival.engine.evictions (lookUp now arrival m))).events = adjustments reply.events := by
      simp only [Reply.after, adjustments_append, arrive_reports arrived, List.nil_append]
    rw [← told] at decides
    refine (arrive_counted arrived).tallies named decides ?_
    rw [unblocked, Reply.after, pass_value passed]
    rfl

/-- Calls that bring no message leave the counters and the global TTL alone. -/
theorem perform_upkeep {call : Call} (other : ∀ m, call ≠ .message m) {reply : Reply α Answer}
    (performed : e.perform now call = .ok reply) :
    reply.engine.traffic = e.traffic ∧ reply.engine.seen = e.seen ∧
      reply.engine.duplicates = e.duplicates ∧ reply.engine.ttlMillis = e.ttlMillis ∧
      reply.value ≠ .verdict true ∧
      ∀ event ∈ reply.events, event.Quiet := by
  cases call with
  | message m => exact absurd rfl (other m)
  | activity peer =>
    obtain rfl := Except.ok.inj performed
    have same : (e.meet peer now).1 = { e with peers := (e.meet peer now).1.peers } :=
      e.meet_fst peer
    unfold trackPeer
    rw [same]
    exact ⟨rfl, rfl, rfl, rfl, by simp, by simp⟩
  | cleanup =>
    obtain rfl := Except.ok.inj performed
    refine ⟨rfl, rfl, rfl, rfl, by simp [Reply.map], fun event member => ?_⟩
    simp only [Reply.map, cleanup] at member
    split at member
    · cases member
    · rw [List.mem_singleton.1 member]
      exact ⟨rfl, rfl⟩
  | setTier requested =>
    obtain rfl := Except.ok.inj performed
    rw [setTier_eq]
    dsimp only [Reply.map, retiered]
    refine ⟨rfl, rfl, rfl, rfl, by simp, fun event member => ?_⟩
    simp only [List.mem_append, List.mem_map, List.mem_singleton] at member
    rcases member with (unknown | ⟨_, _, rfl⟩) | rfl
    · unfold Event.ofTierRequest at unknown
      split at unknown
      · rw [List.mem_singleton.1 unknown]
        exact ⟨rfl, rfl⟩
      · cases unknown
    · exact ⟨rfl, rfl⟩
    · exact ⟨rfl, rfl⟩
  | close =>
    obtain rfl := Except.ok.inj performed
    refine ⟨rfl, rfl, rfl, rfl, by simp [Reply.map], fun event member => ?_⟩
    simp only [Reply.map, close] at member
    split at member
    · cases member
    · rw [List.mem_singleton.1 member]
      exact ⟨rfl, rfl⟩

end Engine

end GossipGate
