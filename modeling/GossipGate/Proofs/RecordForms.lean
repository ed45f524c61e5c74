import GossipGate.Config.Form
import GossipGate.Metadata
import GossipGate.Peer
import GossipGate.Proofs.JsonText
import GossipGate.Proofs.WrittenDuration
import GossipGate.Traffic

namespace GossipGate

namespace RecordReader

variable {β γ : Type}

/-- Such members read as a value, in any record that has them: the reader has a check for each of
them in turn, which passes, and what it builds is the value. -/
structure Reads (reader : RecordReader β) (members : List (String × Json)) (value : β) : Prop where
  names : reader.checks.map Prod.fst = members.map Prod.fst
  checks : ∀ member ∈ members, ∃ check, (member.1, check) ∈ reader.checks ∧
    check member.2 = .ok ()
  build : ∀ record : JsonRecord,
    (∀ member ∈ members, record.fields.lookup member.1 = some member.2) →
      reader.build record = .ok value

theorem reads_field {read : JsonReader β} {json : Json} {value : β} (name : String)
    (absent : Bool → Except ReadError β) (found : read json = .ok value) :
    (field name read absent).Reads [(name, json)] value where
  names := rfl
  checks member only := by
    obtain rfl := List.mem_singleton.1 only
    refine ⟨_, List.mem_singleton.2 rfl, ?_⟩
    rw [found]
    rfl
  build record has := by
    have own : record.fields.lookup name = some json := has (name, json) List.mem_cons_self
    simp only [field, own, found]

theorem reads_pure (value : β) : (pure value : RecordReader β).Reads [] value where
  names := rfl
  checks _ member := by cases member
  build _ _ := rfl

theorem Reads.seq {f : RecordReader (β → γ)} {x : RecordReader β}
    {front back : List (String × Json)} {apply : β → γ} {value : β}
    (first : f.Reads front apply) (second : x.Reads back value) :
    (f <*> x).Reads (front ++ back) (apply value) where
  names := by
    rw [List.map_append, ← first.names, ← second.names]
    exact List.map_append
  checks member inside := by
    rcases List.mem_append.1 inside with earlier | later
    · obtain ⟨check, known, passes⟩ := first.checks member earlier
      exact ⟨check, List.mem_append_left _ known, passes⟩
    · obtain ⟨check, known, passes⟩ := second.checks member later
      exact ⟨check, List.mem_append_right _ known, passes⟩
  build record has := by
    have own := first.build record fun member earlier => has member (List.mem_append_left _ earlier)
    have other := second.build record fun member later => has member (List.mem_append_right _ later)
    show (f.build record >>= fun apply => x.build record >>= fun value => pure (apply value)) = _
    rw [own, other]
    rfl

theorem Reads.map {x : RecordReader β} {members : List (String × Json)} {value : β} (f : β → γ)
    (reads : x.Reads members value) : (f <$> x).Reads members (f value) :=
  (reads_pure f).seq reads

theorem checkMembers_eq_ok {checks : List (String × JsonReader Unit)} {seen : List String}
    {members : List (String × Json)} (named : (members.map Prod.fst).Nodup)
    (apart : ∀ member ∈ members, member.1 ∉ seen)
    (passes : ∀ member ∈ members, ∃ check, checks.lookup member.1 = some check ∧
      check member.2 = .ok ()) :
    checkMembers checks seen members = .ok () := by
  induction members generalizing seen with
  | nil => rfl
  | cons member rest ih =>
    obtain ⟨name, json⟩ := member
    obtain ⟨check, known, pass⟩ := passes (name, json) List.mem_cons_self
    have new : seen.contains name = false := by simpa using apart (name, json) List.mem_cons_self
    rw [List.map_cons, List.nodup_cons] at named
    have later : checkMembers checks (name :: seen) rest = .ok () := by
      refine ih named.2 (fun other member => ?_)
        (fun other member => passes other (List.mem_cons_of_mem _ member))
      rw [List.mem_cons, not_or]
      refine ⟨fun same => named.1 (List.mem_map.2 ⟨other, member, same⟩), ?_⟩
      exact apart other (List.mem_cons_of_mem _ member)
    simp only [checkMembers, known, new, pass, later]
    rfl

/-- An object of just these members reads as the value, if no name is there twice. -/
theorem Reads.read {reader : RecordReader β} {members : List (String × Json)} {value : β}
    (reads : reader.Reads members value) (named : (members.map Prod.fst).Nodup) :
    reader.read (.object members) = .ok value := by
  have checked : checkMembers reader.checks [] members = .ok () := by
    refine checkMembers_eq_ok named (fun _ _ => List.not_mem_nil) fun member inside => ?_
    obtain ⟨check, known, passes⟩ := reads.checks member inside
    let checks : Table String (JsonReader Unit) := ⟨reader.checks, reads.names ▸ named⟩
    exact ⟨check, Table.mem_entries_iff (t := checks).1 known, passes⟩
  have built : reader.build ⟨false, members⟩ = .ok value := by
    refine reads.build ⟨false, members⟩ fun member inside => ?_
    let all : Table String Json := ⟨members, named⟩
    exact Table.mem_entries_iff (t := all).1 inside
  rw [RecordReader.read, checked]
  exact built

end RecordReader

namespace JsonReader

variable {β : Type}

theorem nat?_nat {n bound : Nat} (small : n < bound) :
    plain (Json.nat? bound) (.nat n) = .ok n := by
  simp [plain, Json.nat?, Json.nat, small, ReadError.present]

theorem word?_nat (n : UInt64) : plain Json.word? (.nat n.toNat) = .ok n := by
  have small : n.toNat < UInt64.size := n.toNat_lt
  simp [plain, Json.word?, Json.nat?, Json.nat, small, ReadError.present]

theorem byte?_nat (n : UInt8) : plain Json.byte? (.nat n.toNat) = .ok n := by
  have small : n.toNat < UInt8.size := n.toNat_lt
  simp [plain, Json.byte?, Json.nat?, Json.nat, small, ReadError.present]

theorem float?_float {x : Float} (finite : x.isFinite = true) :
    plain Json.float? (.float x) = .ok x := by
  rw [Json.float, if_pos finite]
  rfl

theorem orNull_optional {read : JsonReader β} {write : β → Json} (value : Option β)
    (returns : ∀ some ∈ value, write some ≠ .null ∧ read (write some) = .ok some) :
    read.orNull (.optional write value) = .ok value := by
  cases value with
  | none => rfl
  | some value =>
    obtain ⟨present, found⟩ := returns value rfl
    rw [Json.optional, orNull, found]
    · rfl
    · exact present

theorem list_map {read : JsonReader β} {write : β → Json} (values : List β)
    (returns : ∀ value ∈ values, read (write value) = .ok value) :
    read.list (.array (values.map write)) = .ok values := by
  show (values.map write).mapM read = .ok values
  induction values with
  | nil => rfl
  | cons value rest ih =>
    obtain ⟨own, others⟩ := List.forall_mem_cons.1 returns
    rw [List.map_cons, List.mapM_cons, own, ih others]
    rfl

end JsonReader

namespace Json

variable {holds : Float → Prop}

theorem proper_nat {n : Nat} (word : n < UInt64.size) : (nat n).Proper holds :=
  .int (by omega) (Int.ofNat_lt.2 word)

theorem proper_word (n : UInt64) : (nat n.toNat).Proper holds := proper_nat n.toNat_lt

theorem proper_float {x : Float} (true_of : holds x) : (float x).Proper holds := by
  unfold float
  split
  · exact .float true_of
  · exact .null

theorem proper_optional {β : Type} {write : β → Json} {value : Option β}
    (present : ∀ some ∈ value, (write some).Proper holds) :
    (optional write value).Proper holds := by
  cases value with
  | none => exact .null
  | some value => exact present value rfl

theorem proper_array_map {β : Type} {write : β → Json} {values : List β}
    (each : ∀ value ∈ values, (write value).Proper holds) :
    (array (values.map write)).Proper holds :=
  .array (List.forall_mem_map.2 each)

end Json

theorem Tier.ofJson_toJson (tier : Tier) : ofJson tier.toJson = .ok tier := by
  cases tier <;> rfl

theorem Trust.ofJson_toJson (level : Trust) : ofJson level.toJson = .ok level := by
  cases level <;> rfl

namespace JsonReader

theorem optionalWord (value : Option UInt64) :
    (plain Json.word?).orNull (.optional (fun n : UInt64 => .nat n.toNat) value) = .ok value :=
  orNull_optional value fun n _ => ⟨nofun, word?_nat n⟩

theorem optionalByte (value : Option UInt8) :
    (plain Json.byte?).orNull (.optional (fun n : UInt8 => .nat n.toNat) value) = .ok value :=
  orNull_optional value fun n _ => ⟨nofun, byte?_nat n⟩

theorem optionalNat {bound : Nat} (value : Option Nat) (small : ∀ n ∈ value, n < bound) :
    (plain (Json.nat? bound)).orNull (.optional .nat value) = .ok value :=
  orNull_optional value fun n member => ⟨nofun, nat?_nat (small n member)⟩

theorem optionalText (value : Option String) :
    (plain Json.text?).orNull (.optional .text value) = .ok value :=
  orNull_optional value fun _ _ => ⟨nofun, rfl⟩

theorem optionalDuration (value : Option Duration) :
    JsonReader.orNull Duration.ofJson (.optional Duration.toJson value) = .ok value :=
  orNull_optional value fun d _ => ⟨nofun, d.ofJson_toJson⟩

theorem text_list (values : List String) :
    (plain Json.text?).list (.array (values.map .text)) = .ok values :=
  list_map values fun _ _ => rfl

end JsonReader

open RecordReader JsonReader Json

variable {holds : Float → Prop}

theorem Network.ofJson_toJson (n : Network) : ofJson n.toJson = .ok n :=
  Reads.read (reads_pure Network.mk
    |>.seq (reads_field _ _ rfl)
    |>.seq (reads_field _ _ n.baseTtl.ofJson_toJson)
    |>.seq (reads_field _ _ (word?_nat n.maxMessageSize))
    |>.seq (reads_field _ _ (text_list n.priorityMessages))
    |>.seq (reads_field _ _ (text_list n.trustedPeers))) (by simp)

theorem Network.proper_toJson (n : Network) : n.toJson.Proper holds := by
  refine .object (by simp) ?_
  simp only [List.forall_mem_cons]
  exact ⟨.text _, .text _, proper_word _, proper_array_map fun _ _ => .text _,
    proper_array_map fun _ _ => .text _, nofun⟩

theorem Profile.ofJson_toJson (p : Profile) : ofJson p.toJson = .ok p :=
  Reads.read (reads_pure Profile.mk
    |>.seq (reads_field _ _ p.tier.ofJson_toJson)
    |>.seq (reads_field _ _ rfl)
    |>.seq (reads_field _ _ rfl)
    |>.seq (reads_field _ _ rfl)
    |>.seq (reads_field _ _ rfl)
    |>.seq (reads_field _ _ rfl)
    |>.seq (reads_field _ _ rfl)
    |>.seq (reads_field _ _ rfl)) (by simp)

theorem Profile.proper_toJson (p : Profile) : p.toJson.Proper holds := by
  refine .object (by simp) ?_
  simp only [List.forall_mem_cons]
  exact ⟨.text _, .bool _, .bool _, .bool _, .bool _, .bool _, .bool _, .bool _, nofun⟩

theorem Config.ofJson_toJson (c : Config Float) (rate : c.learningRate.isFinite = true)
    (confidence : c.confidenceThreshold.isFinite = true)
    (anomaly : c.anomalyThreshold.isFinite = true) : ofJson c.toJson = .ok c :=
  Reads.read (reads_pure Config.mk
    |>.seq (reads_field _ _ c.tier.ofJson_toJson)
    |>.seq (reads_field _ _ (optionalWord c.capacity))
    |>.seq (reads_field _ _ (optionalDuration c.baseTtl))
    |>.seq (reads_field _ _ c.minTtl.ofJson_toJson)
    |>.seq (reads_field _ _ c.maxTtl.ofJson_toJson)
    |>.seq (reads_field _ _ c.adjustEvery.ofJson_toJson)
    |>.seq (reads_field _ _ (float?_float rate))
    |>.seq (reads_field _ _ (float?_float confidence))
    |>.seq (reads_field _ _ (float?_float anomaly))
    |>.seq (reads_field _ _ c.reputationDecay.ofJson_toJson)
    |>.seq (reads_field _ _ (optionalWord c.shards))
    |>.seq (reads_field _ _ (list_map c.networks fun n _ => n.ofJson_toJson))) (by simp)

theorem Config.proper_toJson (c : Config Float) (rate : holds c.learningRate)
    (confidence : holds c.confidenceThreshold) (anomaly : holds c.anomalyThreshold) :
    c.toJson.Proper holds := by
  refine .object (by simp) ?_
  simp only [List.forall_mem_cons]
  exact ⟨.text _, proper_optional fun _ _ => proper_word _, proper_optional fun _ _ => .text _,
    .text _, .text _, .text _, proper_float rate, proper_float confidence, proper_float anomaly,
    .text _, proper_optional fun _ _ => proper_word _,
    proper_array_map fun n _ => Network.proper_toJson n, nofun⟩

/-- A type's record reads as itself; its counts and its clock reading are 64-bit words. -/
theorem Traffic.ofJson_toJson (t : Traffic Float) (seen : t.seen < UInt64.size)
    (duplicates : t.duplicates < UInt64.size) (last : ∀ now ∈ t.lastSeen, now < UInt64.size)
    (rate : t.duplicateRate.isFinite = true) (velocity : t.velocity.isFinite = true)
    (size : t.averageSize.isFinite = true) : ofJson t.toJson = .ok t :=
  Reads.read (reads_pure Traffic.mk
    |>.seq (reads_field _ _ (nat?_nat seen))
    |>.seq (reads_field _ _ (nat?_nat duplicates))
    |>.seq (reads_field _ _ (float?_float rate))
    |>.seq (reads_field _ _ t.ttl.ofJson_toJson)
    |>.seq (reads_field _ _ rfl)
    |>.seq (reads_field _ _ t.averageGap.ofJson_toJson)
    |>.seq (reads_field _ _ (optionalNat t.lastSeen last))
    |>.seq (reads_field _ _ (float?_float velocity))
    |>.seq (reads_field _ _ (float?_float size))) (by simp)

theorem Traffic.proper_toJson (t : Traffic Float) (seen : t.seen < UInt64.size)
    (duplicates : t.duplicates < UInt64.size) (last : ∀ now ∈ t.lastSeen, now < UInt64.size)
    (rate : holds t.duplicateRate) (velocity : holds t.velocity) (size : holds t.averageSize) :
    t.toJson.Proper holds := by
  refine .object (by simp) ?_
  simp only [List.forall_mem_cons]
  exact ⟨proper_nat seen, proper_nat duplicates, proper_float rate, .text _, .bool _, .text _,
    proper_optional fun now member => proper_nat (last now member), proper_float velocity,
    proper_float size, nofun⟩

/-- A peer's record reads as itself but for the activity before the latest, which is not written. -/
theorem Peer.ofJson_toJson (p : Peer Float) (messages : p.messages < UInt64.size)
    (duplicates : p.duplicates < UInt64.size) (last : p.lastActivity < UInt64.size)
    (rate : p.duplicateRate.isFinite = true) (score : p.score.isFinite = true) :
    ofJson p.toJson = .ok { p with previousActivity := none } :=
  Reads.read (reads_pure Peer.mk
    |>.seq (reads_field _ _ rfl)
    |>.seq (reads_field _ _ (nat?_nat messages))
    |>.seq (reads_field _ _ (nat?_nat duplicates))
    |>.seq (reads_field _ _ (float?_float rate))
    |>.seq (reads_field _ _ (float?_float score))
    |>.seq (reads_field _ _ p.trust.ofJson_toJson)
    |>.seq (reads_field _ _ rfl)
    |>.seq (reads_field _ _ (optionalText p.blacklistReason))
    |>.seq (reads_field _ _ (nat?_nat last))
    |>.seq (reads_pure none)) (by simp)

theorem Peer.proper_toJson (p : Peer Float) (messages : p.messages < UInt64.size)
    (duplicates : p.duplicates < UInt64.size) (last : p.lastActivity < UInt64.size)
    (rate : holds p.duplicateRate) (score : holds p.score) : p.toJson.Proper holds := by
  refine .object (by simp) ?_
  simp only [List.forall_mem_cons]
  exact ⟨.text _, proper_nat messages, proper_nat duplicates, proper_float rate,
    proper_float score, .text _, .bool _, proper_optional fun _ _ => .text _, proper_nat last, nofun⟩

section Kept

theorem Table.insert_new {κ ν : Type} [DecidableEq κ] {t : Table κ ν} {key : κ} (value : ν)
    (new : key ∉ t.keys) : (t.insert key value).entries = t.entries ++ [(key, value)] := by
  unfold Table.insert
  rw [dif_pos (Table.get?_eq_none_iff.2 new)]

theorem Table.ofList_entries {κ ν : Type} [DecidableEq κ] (t : Table κ ν) :
    Table.ofList t.entries = t := by
  have folded : ∀ (pairs : List (κ × ν)) (begun : Table κ ν),
      ((begun.entries ++ pairs).map Prod.fst).Nodup →
        (pairs.foldl (fun t p => t.insert p.1 p.2) begun).entries = begun.entries ++ pairs := by
    intro pairs
    induction pairs with
    | nil => intro begun _; simp
    | cons pair rest ih =>
      intro begun named
      have new : pair.1 ∉ begun.keys := by
        rw [List.map_append, List.nodup_append] at named
        exact fun old => named.2.2 _ old _ List.mem_cons_self rfl
      have next := Table.insert_new pair.2 new
      rw [List.foldl_cons, ih (begun.insert pair.1 pair.2), next]
      · simp
      · rw [next]
        simpa using named
  exact Table.ext (folded t.entries Table.empty t.nodup)

namespace Json

theorem allowsItems_eq_true {allowed : Flaw → Bool} {items : List Json}
    (all : ∀ item ∈ items, item.allows allowed = true) : allowsItems allowed items = true := by
  induction items with
  | nil => rfl
  | cons item items ih =>
    obtain ⟨own, others⟩ := List.forall_mem_cons.1 all
    rw [allowsItems, own, ih others]
    rfl

theorem allowsMembers_eq_true {allowed : Flaw → Bool} {members : List (String × Json)}
    (all : ∀ member ∈ members, member.2.allows allowed = true) :
    allowsMembers allowed members = true := by
  induction members with
  | nil => rfl
  | cons member members ih =>
    obtain ⟨own, others⟩ := List.forall_mem_cons.1 all
    rw [allowsMembers, own, ih others]
    rfl

theorem Proper.isSound {json : Json} (proper : json.Proper holds) : json.isSound = true := by
  unfold Json.isSound
  induction proper with
  | array _ ih => exact allowsItems_eq_true ih
  | object _ _ ih => exact allowsMembers_eq_true ih
  | _ => rfl

theorem settledItems_eq_self {items : List Json} (all : ∀ item ∈ items, item.settled = item) :
    settledItems items = items := by
  induction items with
  | nil => rfl
  | cons item items ih =>
    obtain ⟨own, others⟩ := List.forall_mem_cons.1 all
    rw [settledItems, own, ih others]

theorem settledMembers_eq_self {members : List (String × Json)}
    (all : ∀ member ∈ members, member.2.settled = member.2) :
    settledMembers members = members := by
  induction members with
  | nil => rfl
  | cons member members ih =>
    obtain ⟨own, others⟩ := List.forall_mem_cons.1 all
    rw [settledMembers, own, ih others]

theorem Proper.settled {json : Json} (proper : json.Proper holds) : json.settled = json := by
  induction proper with
  | array _ ih => rw [Json.settled, settledItems_eq_self ih]
  | @object members named _ ih =>
    rw [Json.settled, settledMembers_eq_self ih, Table.ofList_entries ⟨members, named⟩]
  | _ => rfl

/-- Proper values are kept as they are, unless they are too deep. -/
theorem Proper.kept?_eq {t : Table String Json}
    (proper : (Json.object t.entries).Proper holds) :
    kept? (.object t.entries) =
      if (Json.object t.entries).depth < maxDepth then some t else none := by
  have settled : settledMembers t.entries = t.entries := by
    cases proper with
    | object _ all => exact settledMembers_eq_self fun member inside => (all member inside).settled
  simp only [kept?, proper.isSound, Bool.true_and, decide_eq_true_eq, settled,
    Table.ofList_entries]

end Json

end Kept

namespace Metadata

theorem proper_toJson (m : Metadata) (proper : (Json.object m.properties.entries).Proper holds) :
    m.toJson.Proper holds := by
  refine .object (by simp) ?_
  simp only [List.forall_mem_cons]
  exact ⟨proper_optional fun _ _ => .text _, proper_optional fun p _ => proper_nat
      (Nat.lt_trans p.toNat_lt (by decide)), proper_optional fun _ _ => proper_word _, proper, nofun⟩

theorem ofJson_toJson_shallow (m : Metadata) (proper : (Json.object m.properties.entries).Proper holds)
    (shallow : (Json.object m.properties.entries).depth < Json.maxDepth) :
    ofJson m.toJson = .ok m := by
  have kept : plain Json.kept? (.object m.properties.entries) = .ok m.properties := by
    rw [plain, proper.kept?_eq, if_pos shallow]
    rfl
  exact Reads.read (reads_pure Metadata.mk
    |>.seq (reads_field _ _ (optionalText m.source))
    |>.seq (reads_field _ _ (optionalByte m.priority))
    |>.seq (reads_field _ _ (optionalWord m.size))
    |>.seq (reads_field _ _ kept)) (by simp)

theorem ofJson_toJson_deep (m : Metadata) (proper : (Json.object m.properties.entries).Proper holds)
    (deep : Json.maxDepth ≤ (Json.object m.properties.entries).depth) :
    ofJson m.toJson = .error .form := by
  have dropped : plain Json.kept? (.object m.properties.entries) = .error .form := by
    rw [plain, proper.kept?_eq, if_neg (Nat.not_lt.2 deep)]
    rfl
  have source := optionalText m.source
  have priority := optionalByte m.priority
  have size := optionalWord m.size
  have checks : reader.checks =
      [("source", fun json => ((plain Json.text?).orNull json).map fun _ => ()),
        ("priority", fun json => ((plain Json.byte?).orNull json).map fun _ => ()),
        ("size", fun json => ((plain Json.word?).orNull json).map fun _ => ()),
        ("properties", fun json => (plain Json.kept? json).map fun _ => ())] := rfl
  rw [ofJson, toJson, RecordReader.read, checks]
  simp only [checkMembers, Table.lookup_cons, if_true, List.contains_eq_mem, List.not_mem_nil,
    decide_false, Bool.false_eq_true, if_false, source, List.mem_cons, String.reduceEq, or_self,
    priority, size, dropped, bind_assoc]
  rfl

/-- Metadata is read as it was, unless its properties are too deep. -/
theorem ofJson_toJson (m : Metadata)
    (proper : (Json.object m.properties.entries).Proper holds) :
    ofJson m.toJson =
      if (Json.object m.properties.entries).depth < Json.maxDepth then .ok m
      else .error .form := by
  split
  next shallow => exact m.ofJson_toJson_shallow proper shallow
  next deep => exact m.ofJson_toJson_deep proper (Nat.le_of_not_lt deep)

end Metadata

end GossipGate
