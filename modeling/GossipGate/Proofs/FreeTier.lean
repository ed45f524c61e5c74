import GossipGate.Proofs.BareGate
import GossipGate.Proofs.ShardCount

namespace GossipGate

variable {α : Type} [Scalar α] {e : Engine α} {now : Nat} {m : Message}

namespace Engine

/-- A gate of the FREE tier that knows no peers. -/
structure Anonymous (e : Engine α) : Prop where
  free : e.profile = .ofTier .free
  nobody : e.peers = .empty

omit [Scalar α] in
theorem Anonymous.withStore (anonymous : e.Anonymous) (store : Store α) :
    (e.withStore store).Anonymous := ⟨anonymous.free, anonymous.nobody⟩

theorem Anonymous.arrive (anonymous : e.Anonymous) {a : Arrival α}
    (arrived : e.arrive now m = .ok a) : a.engine.Anonymous ∧ a.scorer = none := by
  rw [arrive_free anonymous.free] at arrived
  obtain ⟨_, _, rfl⟩ := map_eq_ok arrived
  exact ⟨⟨anonymous.free, anonymous.nobody⟩, rfl⟩

theorem Anonymous.adjustIfDue (anonymous : e.Anonymous) {result : Engine α × List (Event α)}
    (done : e.adjustIfDue now = .ok result) : result.1.Anonymous := by
  obtain ⟨_, _, _, _, _, same⟩ := adjustIfDue_fst done
  rw [same]
  exact ⟨anonymous.free, anonymous.nobody⟩

theorem Anonymous.receive (anonymous : e.Anonymous) {reply : Reply α Bool}
    (receives : e.Receives now m reply) : reply.engine.Anonymous := by
  cases receives with
  | nameless => exact anonymous
  | blocked _ _ arrived =>
    obtain ⟨known, _⟩ := anonymous.arrive arrived
    exact ⟨known.free, known.nobody⟩
  | @suppressed arrival _ _ arrived _ =>
    obtain ⟨known, unscored⟩ := anonymous.arrive arrived
    simp only [Reply.after, suppress, judgeCaller, unscored, Option.isSome_none,
      Bool.false_eq_true, if_false]
    exact ⟨known.free, known.nobody⟩
  | @passed arrival _ _ _ arrived _ passed =>
    obtain ⟨known, unscored⟩ := anonymous.arrive arrived
    rw [pass_free (known.withStore _).free unscored] at passed
    obtain ⟨result, adjusted, rfl⟩ := map_eq_ok passed
    exact (known.withStore _).adjustIfDue adjusted

/-- No call that leaves a gate in the FREE tier lets it know a peer. -/
theorem Anonymous.perform (anonymous : e.Anonymous) {call : Call} (stays : call.Stays .free)
    {reply : Reply α Answer} (performed : e.perform now call = .ok reply) :
    reply.engine.Anonymous := by
  cases call with
  | message m =>
    obtain ⟨answer, answered, rfl⟩ := perform_message performed
    exact anonymous.receive (receive_receives answered)
  | activity peer =>
    obtain rfl := Except.ok.inj performed
    have met := meet_free anonymous.free now peer
    unfold trackPeer
    rw [met]
    exact anonymous
  | cleanup =>
    obtain rfl := Except.ok.inj performed
    rw [cleanup_nobody anonymous.nobody]
    exact ⟨anonymous.free, anonymous.nobody⟩
  | setTier requested =>
    have served : Tier.serving requested = .free := stays
    obtain rfl := Except.ok.inj performed
    rw [setTier_eq]
    dsimp only [Reply.map, retiered]
    exact ⟨by rw [served], anonymous.nobody⟩
  | close =>
    obtain rfl := Except.ok.inj performed
    exact ⟨anonymous.free, anonymous.nobody⟩

omit [Scalar α] in
theorem Reordered.trans {gate last : Engine α} (first : e.Reordered gate)
    (second : gate.Reordered last) : e.Reordered last := by
  obtain ⟨store, same, rfl⟩ := first
  obtain ⟨other, again, rfl⟩ := second
  exact ⟨other, same.trans again, rfl⟩

theorem Reordered.bare {gate : Engine α} (reordered : e.Reordered gate) :
    e.bare.Reordered gate.bare := by
  obtain ⟨store, same, rfl⟩ := reordered
  exact ⟨store.bare, same.bare, rfl⟩

omit [Scalar α] in
theorem Reordered.anonymous {gate : Engine α} (reordered : e.Reordered gate)
    (anonymous : e.Anonymous) : gate.Anonymous := by
  obtain ⟨store, _, rfl⟩ := reordered
  exact anonymous.withStore store

end Engine

/-- What calls ask of a gate that does not look at senders. Activity of a peer asks nothing. -/
def bareRequests (requests : List (Nat × Call)) : List (Nat × Call) :=
  (requests.filter fun request => !request.2.isActivity).map fun request =>
    (request.1, request.2.bare)

variable {c : Config α} {opened : Nat} {past : List (Step α)}

theorem Run.anonymous (run : Run c opened past e) (free : c.tier = .free)
    (stays : ∀ step ∈ past, step.call.Stays .free) : e.Anonymous := by
  induction run with
  | start started =>
    obtain ⟨ordered, rfl⟩ := Engine.start_assemble started
    exact ⟨congrArg Profile.ofTier free, rfl⟩
  | call _ reordered performed ih =>
    obtain ⟨own, others⟩ := List.forall_mem_cons.1 stays
    exact (reordered.anonymous (ih others)).perform own performed

/-- Without the activity of peers the calls are still a run that ends in the same gate. -/
theorem Run.withoutActivity (run : Run c opened past e) (free : c.tier = .free)
    (stays : ∀ step ∈ past, step.call.Stays .free) :
    ∃ f, Run c opened (past.filter fun step => !step.call.isActivity) f ∧ f.Reordered e := by
  induction run with
  | start started => exact ⟨_, .start started, Engine.Reordered.refl _⟩
  | @call past e gate now call reply before reordered performed ih =>
    obtain ⟨_, others⟩ := List.forall_mem_cons.1 stays
    obtain ⟨f, stripped, same⟩ := ih others
    have again := same.trans reordered
    cases call with
    | activity peer =>
      obtain rfl := Except.ok.inj performed
      have anonymous := reordered.anonymous (before.anonymous free others)
      have met := Engine.meet_free anonymous.free now peer
      refine ⟨f, stripped, ?_⟩
      show f.Reordered (gate.meet peer now).1
      rw [met]
      exact again
    | message | cleanup | setTier | close =>
      exact ⟨reply.engine, stripped.call again performed, Engine.Reordered.refl _⟩

omit [Scalar α] in
theorem SameReply.value {β : Type} {a b : Except Fault (Reply α β)} (same : SameReply a b) :
    b.map Reply.value = a.map Reply.value := by
  cases same <;> rfl

omit [Scalar α] in
theorem SameReply.ok {β : Type} {r s : Reply α β} (same : SameReply (.ok r) (.ok s)) :
    s.value = r.value ∧ r.engine.Alike s.engine := by
  cases same with
  | reply alike => exact ⟨rfl, _, alike, rfl⟩

namespace Engine

/-- In the FREE tier no score decides whom to evict. -/
theorem comparable_free (free : e.profile = .ofTier .free) (now : Nat) {call : Call}
    (stays : call.Stays .free) : e.Comparable now call := by
  have first : EvictionPolicy.ofProfile (.ofTier .free) ≠ .priority := by decide
  cases call with
  | message m =>
    intro a arrived byScore
    rw [(arrive_follows arrived).profile, free] at byScore
    exact absurd byScore first
  | setTier requested =>
    have served : Tier.serving requested = .free := stays
    intro byScore
    rw [served] at byScore
    exact absurd byScore first
  | activity | cleanup | close => trivial

variable [OrderedScalar α]

/-- Gates of the FREE tier that are alike but for what they know of senders answer alike. -/
theorem perform_bare_same {f : Engine α} (alike : e.bare.Alike f.bare) (first : e.Anonymous)
    (second : f.Anonymous) (now : Nat) {call other : Call} (stays : call.Stays .free)
    (same : other.bare = call.bare) : SameReply ((e.perform now call).map Reply.bare)
      ((f.perform now other).map Reply.bare) := by
  have bareStays : call.bare.Stays .free := Call.stays_bare.2 stays
  have alsoStays : other.Stays .free := Call.stays_bare.1 (same ▸ bareStays)
  obtain ⟨store, stores, apart⟩ := alike
  rw [← perform_bare first.free first.nobody now stays,
    ← perform_bare second.free second.nobody now alsoStays, apart, same]
  exact perform_same stores (comparable_free (e := e.bare) first.free now bareStays)

end Engine

/-- Two runs in the FREE tier whose calls differ in nothing but what they say of senders stay alike
but for that. -/
theorem Run.bare_alike [OrderedScalar α] (free : c.tier = .free) (run : Run c opened past e)
    (stays : ∀ step ∈ past, step.call.Stays .free) :
    ∀ {others : List (Step α)} {f : Engine α}, Run c opened others f →
      (∀ step ∈ others, step.call.Stays .free) →
      others.map (fun step => (step.now, step.call.bare)) =
        past.map (fun step => (step.now, step.call.bare)) →
      others.map (fun step => step.reply.value) = past.map (fun step => step.reply.value) ∧
        e.bare.Alike f.bare := by
  induction run with
  | start started =>
    intro others f other _ asked
    cases other with
    | start alsoStarted =>
      cases started.symm.trans alsoStarted
      obtain ⟨ordered, rfl⟩ := Engine.start_assemble started
      have empty := Store.bare_empty (α := α) c.effectiveShards c.effectiveCapacity Key.fingerprint
      refine ⟨rfl, _, ?_, rfl⟩
      show (Store.empty _ _ _).bare.Alike (Store.empty _ _ _).bare
      rw [empty]
      exact Store.alike_empty _ _ _ _
    | call => simp at asked
  | @call past e gate now call reply before reordered performed ih =>
    intro others f other alsoStay asked
    cases other with
    | start => simp at asked
    | @call others f second at_ same answer first alsoReordered alsoPerformed =>
      simp only [List.map_cons, List.cons.injEq, Prod.mk.injEq] at asked
      obtain ⟨⟨rfl, own⟩, asked⟩ := asked
      obtain ⟨stay, stays⟩ := List.forall_mem_cons.1 stays
      obtain ⟨_, alsoStay⟩ := List.forall_mem_cons.1 alsoStay
      obtain ⟨answers, alike⟩ := ih stays first alsoStay asked
      have replies := Engine.perform_bare_same
        (alike.reordered reordered.bare alsoReordered.bare)
        (reordered.anonymous (before.anonymous free stays))
        (alsoReordered.anonymous (first.anonymous free alsoStay)) at_ stay own
      rw [performed, alsoPerformed] at replies
      obtain ⟨value, left⟩ := SameReply.ok replies
      refine ⟨?_, left⟩
      rw [List.map_cons, List.map_cons, answers]
      exact congrArg (· :: _) value

/-- The answers to calls other than the activity of peers. -/
def answers (past : List (Step α)) : List Answer :=
  (past.filter fun step => !step.call.isActivity).map fun step => step.reply.value

/-- Two gates that know no peers and differ in nothing but what entries tell of senders and in the
average sizes of messages. -/
structure Engine.SameButSenders (e f : Engine α) : Prop where
  capacity : f.store.capacity = e.store.capacity
  size : f.store.size = e.store.size
  entries : ∀ key, (f.store.get? key).map Entry.bare = (e.store.get? key).map Entry.bare
  global : f.globalTtl = e.globalTtl
  traffic : f.traffic.mapValues (fun _ => Traffic.bare) =
    e.traffic.mapValues fun _ => Traffic.bare
  nobody : e.peers = .empty ∧ f.peers = .empty

/-- Who sends a message cannot be observed in the FREE tier: where the calls of two gates differ in
the peers, the requested priorities, the sizes and the properties only, and in activity of peers,
they give the same answers and hold the same entries with the same TTLs and counts, and know no
peer. So they do with every further call. -/
theorem Run.senders_unobservable [OrderedScalar α] {others : List (Step α)} {f : Engine α}
    (run : Run c opened past e) (other : Run c opened others f) (free : c.tier = .free)
    (stays : ∀ step ∈ past ++ others, step.call.Stays .free)
    (asked : bareRequests (others.map Step.request) = bareRequests (past.map Step.request)) :
    answers others = answers past ∧ e.SameButSenders f ∧
      ∀ first second, e.Reordered first → f.Reordered second →
        ∀ now call other, call.Stays .free → other.bare = call.bare →
          (second.perform now other).map Reply.value =
            (first.perform now call).map Reply.value := by
  have stay : ∀ step ∈ past, step.call.Stays .free := fun step member =>
    stays step (List.mem_append_left others member)
  have alsoStay : ∀ step ∈ others, step.call.Stays .free := fun step member =>
    stays step (List.mem_append_right past member)
  have anonymous := run.anonymous free stay
  have alsoAnonymous := other.anonymous free alsoStay
  obtain ⟨e', stripped, same⟩ := run.withoutActivity free stay
  obtain ⟨f', alsoStripped, alsoSame⟩ := other.withoutActivity free alsoStay
  unfold bareRequests at asked
  simp only [List.filter_map, List.map_map] at asked
  obtain ⟨equal, alike⟩ := stripped.bare_alike free
    (fun step member => stay step (List.mem_of_mem_filter member)) alsoStripped
    (fun step member => alsoStay step (List.mem_of_mem_filter member)) asked
  have alike := alike.reordered same.bare alsoSame.bare
  refine ⟨equal, ?_, ?_⟩
  · obtain ⟨store, stores, apart⟩ := alike
    have own : f.bare.store = store := congrArg Engine.store apart
    refine ⟨?_, ?_, ?_, ?_, congrArg Engine.traffic apart, anonymous.nobody, alsoAnonymous.nobody⟩
    · have capacity := stores.capacity_eq
      rw [← own] at capacity
      exact capacity
    · have size := stores.size_eq
      rw [← own] at size
      exact size
    · intro key
      have found := stores.get?_eq key
      rw [← own] at found
      rw [← Store.get?_bare, ← Store.get?_bare]
      exact found
    · have global : f.bare.globalTtl = (e.bare.withStore store).globalTtl :=
        congrArg Engine.globalTtl apart
      exact global
  · intro first second left right now call other stays same
    have replies := Engine.perform_bare_same (alike.reordered left.bare right.bare)
      (left.anonymous anonymous) (right.anonymous alsoAnonymous) now stays same
    have value := replies.value
    cases performed : first.perform now call <;> cases alsoPerformed : second.perform now other <;>
      rw [performed, alsoPerformed] at value <;> exact value

/-- Settings of the FREE tier with room for a single entry. -/
def tightConfig : Config Float := { Config.default with capacity := some 1 }

/-- Messages of two peers, with sizes and priorities and activity between them. -/
def sentCalls : List (Nat × Call) :=
  [(0, .message ⟨"a", "t", "p", { Metadata.empty with size := some 100, priority := some 9 }⟩),
    (1, .activity "q"),
    (2, .message ⟨"a", "t", "q", { Metadata.empty with source := some "unknown" }⟩),
    (3, .message ⟨"b", "t", "q", { Metadata.empty with size := some 7 }⟩), (4, .cleanup)]

/-- The same messages without senders. -/
def unsentCalls : List (Nat × Call) :=
  [(0, .message ⟨"a", "t", "", .empty⟩), (2, .message ⟨"a", "t", "", .empty⟩),
    (3, .message ⟨"b", "t", "", .empty⟩), (4, .cleanup)]

theorem senders_unobservable_tight : ∃ (past others : List (Step Float)) (e f : Engine Float),
    Run tightConfig 0 past e ∧ Run tightConfig 0 others f ∧ tightConfig.tier = .free ∧
      past.map Step.request = sentCalls.reverse ∧ others.map Step.request = unsentCalls.reverse ∧
      (∀ step ∈ past ++ others, step.call.Stays .free) ∧
      bareRequests (others.map Step.request) = bareRequests (past.map Step.request) ∧
      answers others = answers past ∧ e.SameButSenders f := by
  have usable : tightConfig.problem? = none := by decide +kernel
  have reaches : (Engine.assemble tightConfig (by decide) 0).engine.reaches sentCalls
      (fun _ => true) = true := by
    decide +kernel
  have alsoReaches : (Engine.assemble tightConfig (by decide) 0).engine.reaches unsentCalls
      (fun _ => true) = true := by
    decide +kernel
  obtain ⟨past, e, run, requests, _⟩ := Run.of_requests usable reaches
  obtain ⟨others, f, other, alsoRequests, _⟩ := Run.of_requests usable alsoReaches
  have stays : ∀ step ∈ past ++ others, step.call.Stays .free := by
    intro step member
    have asked : step.request ∈ sentCalls.reverse ++ unsentCalls.reverse := by
      rw [← requests, ← alsoRequests, ← List.map_append]
      exact List.mem_map_of_mem member
    have all : ∀ request ∈ sentCalls.reverse ++ unsentCalls.reverse, request.2.Stays .free := by
      simp [sentCalls, unsentCalls, Call.Stays]
    exact all _ asked
  have asked : bareRequests (others.map Step.request) = bareRequests (past.map Step.request) := by
    rw [requests, alsoRequests]
    rfl
  obtain ⟨same, shown, _⟩ := run.senders_unobservable other rfl stays asked
  exact ⟨past, others, e, f, run, other, rfl, requests, alsoRequests, stays, asked, same, shown⟩

end GossipGate
