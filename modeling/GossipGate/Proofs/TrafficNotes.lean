import GossipGate.Proofs.GlobalTtl
import GossipGate.Proofs.TrafficRecords

namespace GossipGate

namespace Traffic

/-- What the averages of a type are told: that a message of it came, or how large one was. -/
inductive Note where
  | arrival (now : Nat)
  | size (bytes : Nat)
  deriving DecidableEq

variable {α : Type}

/-- Records that agree in all that arrivals and sizes are averaged in. -/
structure SameAverages (a b : Traffic α) : Prop where
  gap : a.averageGap = b.averageGap
  lastSeen : a.lastSeen = b.lastSeen
  velocity : a.velocity = b.velocity
  size : a.averageSize = b.averageSize

theorem SameAverages.refl (a : Traffic α) : a.SameAverages a := ⟨rfl, rfl, rfl, rfl⟩

theorem SameAverages.symm {a b : Traffic α} (same : a.SameAverages b) : b.SameAverages a :=
  ⟨same.gap.symm, same.lastSeen.symm, same.velocity.symm, same.size.symm⟩

theorem SameAverages.trans {a b c : Traffic α} (first : a.SameAverages b)
    (second : b.SameAverages c) : a.SameAverages c :=
  ⟨first.gap.trans second.gap, first.lastSeen.trans second.lastSeen,
    first.velocity.trans second.velocity, first.size.trans second.size⟩

theorem Retimed.sameAverages {t after : Traffic α} (retimed : t.Retimed after) :
    after.SameAverages t := by
  obtain ⟨ttl, adapted, rfl⟩ := retimed
  exact ⟨rfl, rfl, rfl, rfl⟩

variable [Scalar α] {a b last : Traffic α} {rate : α}

theorem sameAverages_fresh (ttl other : Duration) :
    (fresh ttl : Traffic α).SameAverages (fresh other) := ⟨rfl, rfl, rfl, rfl⟩

/-- A record after one note. -/
def told (t : Traffic α) (rate : α) : Note → Except Fault (Traffic α)
  | .arrival now => (t.arrive now rate).map Prod.fst
  | .size bytes => .ok (t.recordSize bytes rate)

/-- A record after some notes, the latest first. -/
def after (t : Traffic α) (rate : α) : List Note → Except Fault (Traffic α)
  | [] => .ok t
  | note :: earlier => do
    let before ← t.after rate earlier
    before.told rate note

theorem after_cons {t before : Traffic α} {earlier : List Note}
    (done : t.after rate earlier = .ok before) (note : Note) :
    t.after rate (note :: earlier) = before.told rate note := by
  rw [after, done]
  rfl

/-- What a note makes of the averages depends on the averages alone. -/
theorem SameAverages.told (same : a.SameAverages b) {note : Note}
    (done : a.told rate note = .ok last) :
    ∃ other, b.told rate note = .ok other ∧ last.SameAverages other := by
  obtain ⟨gap, lastSeen, velocity, size⟩ := same
  cases note with
  | size bytes =>
    obtain rfl := Except.ok.inj done
    refine ⟨_, rfl, ?_⟩
    unfold recordSize
    split
    · exact ⟨gap, lastSeen, velocity, size⟩
    · exact ⟨gap, lastSeen, velocity, by simp only [size]⟩
  | arrival now =>
    obtain ⟨arrived, arrives, rfl⟩ := map_eq_ok done
    unfold arrive at arrives
    unfold Traffic.told arrive
    rw [← lastSeen]
    cases seen : a.lastSeen with
    | none =>
      rw [seen] at arrives
      cases arrives
      exact ⟨_, rfl, gap, rfl, velocity, size⟩
    | some previous =>
      rw [seen] at arrives
      obtain ⟨averageGap, next, arrives⟩ := bind_eq_ok arrives
      cases arrives
      have also : b.nextGap (.ofMillis (now - previous)) rate = .ok averageGap := by
        unfold nextGap at next ⊢
        rw [← gap]
        exact next
      simp only [also, ← velocity]
      exact ⟨_, rfl, rfl, rfl, rfl, size⟩

/-- Nor does anything else have a part in what many notes make of them. -/
theorem SameAverages.after (same : a.SameAverages b) {notes : List Note}
    (done : a.after rate notes = .ok last) :
    ∃ other, b.after rate notes = .ok other ∧ last.SameAverages other := by
  induction notes generalizing last with
  | nil =>
    cases done
    exact ⟨b, rfl, same⟩
  | cons note earlier ih =>
    obtain ⟨before, earlierDone, told⟩ := bind_eq_ok done
    obtain ⟨otherBefore, otherDone, alike⟩ := ih earlierDone
    obtain ⟨other, otherTold, sameLast⟩ := alike.told told
    exact ⟨other, (after_cons otherDone note).trans otherTold, sameLast⟩

end Traffic

variable {α : Type} [Scalar α]

/-- What a call tells the averages of a type, the latest first. The arrival of a blocked message is
not measured, only its size. -/
def Step.hears (step : Step α) (messageType : String) : List Traffic.Note :=
  match step.call with
  | .message m =>
    if m.messageType = messageType && !m.hash.isEmpty then
      (if step.before.blocks m then [] else [.arrival step.now]) ++ [.size m.metadata.bytes]
    else []
  | _ => []

omit [Scalar α] in
theorem Step.hears_message {gate : Engine α} {now : Nat} {m : Message} {reply : Reply α Answer}
    (named : m.hash.isEmpty = false) :
    Step.hears ⟨gate, now, .message m, reply⟩ m.messageType =
      (if gate.blocks m then [] else [.arrival now]) ++ [.size m.metadata.bytes] := by
  simp [hears, named]

omit [Scalar α] in
theorem Step.hears_eq_nil {step : Step α} {messageType : String} (other : ∀ m,
    step.call = .message m → m.hash.isEmpty = false → m.messageType ≠ messageType) :
    step.hears messageType = [] := by
  unfold hears
  split
  · rename_i m asked
    have unlike := other m asked
    split
    · rename_i own
      simp only [Bool.and_eq_true, decide_eq_true_eq, Bool.not_eq_true'] at own
      exact absurd own.1 (unlike own.2)
    · rfl
  · rfl

/-- What some calls told the averages of a type, the latest first. -/
def heard (messageType : String) (past : List (Step α)) : List Traffic.Note :=
  past.flatMap fun step => step.hears messageType

namespace Engine

variable {e : Engine α} {now : Nat} {m : Message} {known t : Traffic α}

/-- A message is averaged by its size and, unless it is blocked, by its arrival. -/
theorem Measured.averages (measured : e.Measured now m t)
    (same : (e.trafficRecord m.messageType).SameAverages known) {earlier : List Traffic.Note}
    {first : Traffic α} (before : first.after e.tuning.learningRate earlier = .ok known) :
    ∃ last, first.after e.tuning.learningRate ((if e.blocks m then [] else [.arrival now]) ++
      [.size m.metadata.bytes] ++ earlier) = .ok last ∧ t.SameAverages last := by
  obtain ⟨measured, done, counted⟩ := measured
  have recounted : t.SameAverages measured.1 := by
    rcases counted with rfl | ⟨_, rfl⟩
    · exact .refl _
    · exact ⟨rfl, rfl, rfl, rfl⟩
  have seen : (e.trafficRecord m.messageType).countSeen.SameAverages known :=
    ⟨same.gap, same.lastSeen, same.velocity, same.size⟩
  have sizes : (e.trafficRecord m.messageType).countSeen.told e.tuning.learningRate
      (.size m.metadata.bytes) = .ok ((e.trafficRecord m.messageType).countSeen.recordSize
        m.metadata.bytes e.tuning.learningRate) := rfl
  obtain ⟨sized, grows, sameSized⟩ := seen.told sizes
  have grown : first.after e.tuning.learningRate (.size m.metadata.bytes :: earlier) =
      .ok sized := (Traffic.after_cons before _).trans grows
  unfold measure at done
  cases blocked : e.blocks m with
  | true =>
    rw [blocked] at done
    simp only [if_true] at done
    cases done
    exact ⟨sized, grown, recounted.trans
      ⟨sameSized.gap, sameSized.lastSeen, sameSized.velocity, sameSized.size⟩⟩
  | false =>
    rw [blocked] at done
    simp only [Bool.false_eq_true, if_false] at done
    have arrives : ((e.trafficRecord m.messageType).countSeen.recordSize m.metadata.bytes
        e.tuning.learningRate).told e.tuning.learningRate (.arrival now) = .ok measured.1 :=
      congrArg (Except.map Prod.fst) done
    obtain ⟨last, arrived, sameLast⟩ := sameSized.told arrives
    exact ⟨last, (Traffic.after_cons grown _).trans arrived, recounted.trans sameLast⟩

end Engine

variable {c : Config α} {opened : Nat} {past : List (Step α)} {e : Engine α}

/-- The averages of a type are those of a new record that was told what the calls were. -/
theorem Run.hears (run : Run c opened past e) (messageType : String) :
    ∃ t, (Traffic.fresh .zero).after c.learningRate (heard messageType past) = .ok t ∧
      (e.trafficRecord messageType).SameAverages t := by
  induction run with
  | start started =>
    obtain ⟨ordered, rfl⟩ := Engine.start_assemble started
    exact ⟨_, rfl, Traffic.sameAverages_fresh _ _⟩
  | @call past e gate now call reply before reordered performed ih =>
    obtain ⟨known, told, same⟩ := ih
    obtain ⟨store, _, rfl⟩ := reordered
    have rate : (e.withStore store).tuning.learningRate = c.learningRate := before.tuning.2.1
    rcases Engine.perform_traffic performed messageType with
      ⟨m, t, after, rfl, named, rfl, measured, retimed, stored⟩ | ⟨other, kept⟩
    · have record : reply.engine.trafficRecord m.messageType = after := by
        rw [Engine.trafficRecord, stored, Option.getD_some]
      rw [← rate] at told ⊢
      obtain ⟨last, heard, sameLast⟩ := measured.averages same told
      refine ⟨last, ?_, record ▸ retimed.sameAverages.trans sameLast⟩
      rw [GossipGate.heard, List.flatMap_cons, Step.hears_message named]
      exact heard
    · have silent : Step.hears ⟨e.withStore store, now, call, reply⟩ messageType = [] :=
        Step.hears_eq_nil other
      refine ⟨known, ?_, Traffic.SameAverages.trans ?_ same⟩
      · rw [heard, List.flatMap_cons, silent, List.nil_append]
        exact told
      · unfold Engine.trafficRecord
        rw [Engine.withStore_traffic] at kept
        generalize e.traffic.get? messageType = before? at kept ⊢
        generalize reply.engine.traffic.get? messageType = after? at kept ⊢
        cases kept with
        | none => exact Traffic.sameAverages_fresh _ _
        | some retimed => exact retimed.sameAverages

end GossipGate
