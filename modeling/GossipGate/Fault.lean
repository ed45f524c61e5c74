namespace GossipGate

/-- Why a computation has no answer: bounds with the lower above the upper, a time span that
cannot be held, or label values that do not match the labels of a metric. -/
inductive Fault where
  | invertedBounds
  | durationRange
  | labelCount
  deriving DecidableEq, Repr

/-- Why something written cannot be read: it does not have the form, or reading it faults. -/
inductive ReadError where
  | form
  | fault (fault : Fault)
  deriving DecidableEq, Repr

/-- What is absent does not have the form. -/
def ReadError.present {β : Type} : Option β → Except ReadError β
  | some value => .ok value
  | none => .error .form

/-- Steps that end with a value have each had one. -/
theorem bind_eq_ok {ε β γ : Type} {first : Except ε β} {next : β → Except ε γ} {last : γ}
    (done : first >>= next = .ok last) : ∃ value, first = .ok value ∧ next value = .ok last := by
  cases first with
  | error => cases done
  | ok value => exact ⟨value, rfl, done⟩

theorem map_eq_ok {ε β γ : Type} {first : Except ε β} {f : β → γ} {last : γ}
    (done : first.map f = .ok last) : ∃ value, first = .ok value ∧ f value = last := by
  cases first with
  | error => cases done
  | ok value => exact ⟨value, rfl, Except.ok.inj done⟩

end GossipGate
