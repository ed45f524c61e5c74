import GossipGate.Proofs.RecordForms

namespace GossipGate

open Json

/-- A null inside so many arrays. -/
def nested : Nat → Json
  | 0 => null
  | levels + 1 => array [nested levels]

theorem depth_nested (levels : Nat) : (nested levels).depth = levels := by
  induction levels with
  | zero => rfl
  | succ levels ih => simp [nested, depth, depthItems, ih]

theorem proper_nested {holds : Float → Prop} (levels : Nat) : (nested levels).Proper holds := by
  induction levels with
  | zero => exact .null
  | succ levels ih => exact .array (List.forall_mem_singleton.2 ih)

/-- A message about which only one nested property is known. -/
def nestedProperty (levels : Nat) : Metadata := Metadata.empty.withProperty "d" (nested levels)

theorem entries_nestedProperty (levels : Nat) :
    (nestedProperty levels).properties.entries = [("d", nested levels)] := rfl

theorem proper_nestedProperty (holds : Float → Prop) (levels : Nat) :
    (Json.object (nestedProperty levels).properties.entries).Proper holds :=
  .object (by simp [entries_nestedProperty])
    (entries_nestedProperty levels ▸ List.forall_mem_singleton.2 (proper_nested levels))

theorem depth_nestedProperty (levels : Nat) :
    (Json.object (nestedProperty levels).properties.entries).depth = levels + 1 := by
  simp [entries_nestedProperty, depth, depthMembers, depth_nested]

/-- Up to 125 levels of a property come back from the text; with more of them it is refused. -/
theorem decode_nestedProperty (levels : Nat) :
    decode Metadata.ofJson (nestedProperty levels).toJson.toText =
      if levels ≤ 125 then .ok (nestedProperty levels) else .error .form := by
  have written := (nestedProperty levels).proper_toJson (proper_nestedProperty ReadsBack levels)
  rw [written.decode_toText, Metadata.ofJson_toJson _ (proper_nestedProperty ReadsBack levels),
    depth_nestedProperty]
  exact if_congr (by rw [maxDepth]; omega) rfl rfl

/-- One level more, and the metadata of a message does not come back. -/
theorem nestedProperty_refused :
    decode Metadata.ofJson (nestedProperty 126).toJson.toText ≠ .ok (nestedProperty 126) := by
  rw [decode_nestedProperty]
  exact nofun

/-- What is written is read back, and no sum on the way is too long: durations from their written
form, records from their JSON form if their doubles are finite, and from the text of that form if
besides each of these doubles is read back from its own text. Counts and clock readings are 64-bit
words. A peer comes back without the activity before its latest one; the metadata of a message come
back unless the properties lie too deep, and are refused then. -/
theorem forms_read_back :
    (∀ d : Duration, Duration.ofWritten d.written = .ok d) ∧
    (∀ c : Config Float, c.learningRate.isFinite = true → c.confidenceThreshold.isFinite = true →
      c.anomalyThreshold.isFinite = true →
        Config.ofJson c.toJson = .ok c ∧
        (ReadsBack c.learningRate → ReadsBack c.confidenceThreshold →
          ReadsBack c.anomalyThreshold → decode Config.ofJson c.toJson.toText = .ok c)) ∧
    (∀ n : Network, Network.ofJson n.toJson = .ok n ∧
      decode Network.ofJson n.toJson.toText = .ok n) ∧
    (∀ p : Profile, Profile.ofJson p.toJson = .ok p ∧
      decode Profile.ofJson p.toJson.toText = .ok p) ∧
    (∀ t : Traffic Float, t.seen < UInt64.size → t.duplicates < UInt64.size →
      (∀ now ∈ t.lastSeen, now < UInt64.size) → t.duplicateRate.isFinite = true →
      t.velocity.isFinite = true → t.averageSize.isFinite = true →
        Traffic.ofJson t.toJson = .ok t ∧
        (ReadsBack t.duplicateRate → ReadsBack t.velocity → ReadsBack t.averageSize →
          decode Traffic.ofJson t.toJson.toText = .ok t)) ∧
    (∀ p : Peer Float, p.messages < UInt64.size → p.duplicates < UInt64.size →
      p.lastActivity < UInt64.size → p.duplicateRate.isFinite = true → p.score.isFinite = true →
        Peer.ofJson p.toJson = .ok { p with previousActivity := none } ∧
        (ReadsBack p.duplicateRate → ReadsBack p.score →
          decode Peer.ofJson p.toJson.toText = .ok { p with previousActivity := none })) ∧
    (∀ m : Metadata, (Json.object m.properties.entries).Proper (fun x => x.isFinite = true) →
      (Metadata.ofJson m.toJson =
        if (Json.object m.properties.entries).depth < maxDepth then .ok m else .error .form) ∧
      ((Json.object m.properties.entries).Proper ReadsBack →
        decode Metadata.ofJson m.toJson.toText =
          if (Json.object m.properties.entries).depth < maxDepth then .ok m
          else .error .form)) := by
  refine ⟨Duration.ofWritten_written, ?config, ?network, ?profile, ?traffic, ?peer, ?metadata⟩
  case config =>
    intro c rate confidence anomaly
    have form := c.ofJson_toJson rate confidence anomaly
    refine ⟨form, fun rate confidence anomaly => ?_⟩
    rw [(c.proper_toJson rate confidence anomaly).decode_toText, form]
  case network =>
    intro n
    refine ⟨n.ofJson_toJson, ?_⟩
    rw [n.proper_toJson.decode_toText, n.ofJson_toJson]
  case profile =>
    intro p
    refine ⟨p.ofJson_toJson, ?_⟩
    rw [p.proper_toJson.decode_toText, p.ofJson_toJson]
  case traffic =>
    intro t seen duplicates last rate velocity size
    have form := t.ofJson_toJson seen duplicates last rate velocity size
    refine ⟨form, fun rate velocity size => ?_⟩
    rw [(t.proper_toJson seen duplicates last rate velocity size).decode_toText, form]
  case peer =>
    intro p messages duplicates last rate score
    have form := p.ofJson_toJson messages duplicates last rate score
    refine ⟨form, fun rate score => ?_⟩
    rw [(p.proper_toJson messages duplicates last rate score).decode_toText, form]
  case metadata =>
    intro m proper
    have form := m.ofJson_toJson proper
    refine ⟨form, fun faithful => ?_⟩
    rw [(m.proper_toJson faithful).decode_toText, form]

/-- A type of message that was seen three times. -/
def seenType : Traffic Float :=
  { Traffic.fresh (.ofMillis 90061001) with seen := 3, duplicates := 1, lastSeen := some 7 }

/-- A peer with two messages. -/
def seenPeer : Peer Float :=
  { Peer.fresh "p" 5 with messages := 2, lastActivity := 9, previousActivity := some 5 }

/-- A span with a part in every unit. -/
def mixedSpan : Duration := .ofNanos 37091538007008009

/-- Settings of which none is the default, from no time at all to the longest span. -/
def mixedConfig : Config Float :=
  { tier := .enterprise, capacity := some 5000, baseTtl := some mixedSpan, minTtl := .zero
    maxTtl := .ofNanos (Duration.limit - 1), adjustEvery := .ofMillis 90061001
    learningRate := 1.5e-7, confidenceThreshold := 0.25, anomalyThreshold := 1e16
    reputationDecay := .ofNanos 1, shards := some 7
    networks := [.solana, ⟨"no\n \"name\"", mixedSpan, 0, ["block", ""], ["p", "q"]⟩] }

theorem forms_read_back_samples :
    mixedSpan.written = "1year 2months 3days 4h 5m 6s 7ms 8us 9ns" ∧
    Duration.ofWritten mixedSpan.written = .ok mixedSpan ∧
    decode Config.ofJson mixedConfig.toJson.toText = .ok mixedConfig ∧
    decode Traffic.ofJson seenType.toJson.toText = .ok seenType ∧
    decode Peer.ofJson seenPeer.toJson.toText = .ok { seenPeer with previousActivity := none } ∧
    decode Metadata.ofJson (nestedProperty 125).toJson.toText = .ok (nestedProperty 125) := by
  obtain ⟨span, config, -, -, traffic, peer, metadata⟩ := forms_read_back
  have rate : ReadsBack 1.5e-7 :=
    readsBack_of_text (s := "1.5e-7") (by decide +kernel) (by decide +kernel) rfl
  have confidence : ReadsBack 0.25 :=
    readsBack_of_text (s := "0.25") (by decide +kernel) (by decide +kernel) rfl
  have anomaly : ReadsBack 1e16 :=
    readsBack_of_text (s := "1e16") (by decide +kernel) (by decide +kernel) rfl
  have zero : ReadsBack 0.0 :=
    readsBack_of_text (s := "0.0") (by decide +kernel) (by decide +kernel) rfl
  have one : ReadsBack 1.0 :=
    readsBack_of_text (s := "1.0") (by decide +kernel) (by decide +kernel) rfl
  refine ⟨by decide +kernel, span mixedSpan, ?_, ?_, ?_, ?_⟩
  · exact (config mixedConfig rate.finite confidence.finite anomaly.finite).2 rate confidence
      anomaly
  · exact (traffic seenType (by decide) (by decide) (by decide) zero.finite zero.finite
      zero.finite).2 zero zero zero
  · exact (peer seenPeer (by decide) (by decide) (by decide) zero.finite one.finite).2 zero one
  · rw [(metadata (nestedProperty 125) (proper_nestedProperty _ 125)).2
      (proper_nestedProperty ReadsBack 125), depth_nestedProperty]
    rfl

end GossipGate
