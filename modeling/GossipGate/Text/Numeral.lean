namespace GossipGate

/-- The value of a decimal digit of the ASCII range. -/
def digit? (c : Char) : Option Nat :=
  if '0' ≤ c ∧ c ≤ '9' then some (c.toNat - '0'.toNat) else none

def isDigit (c : Char) : Bool := (digit? c).isSome

/-- The number written by a list of digits; other characters count as zero. -/
def decimalValue (digits : List Char) : Nat :=
  digits.foldl (fun value c => value * 10 + (digit? c).getD 0) 0

/-- Reads a number below a bound: digits only, at least one, a plus sign allowed before them. -/
def readNatural? (bound : Nat) (s : String) : Option Nat :=
  let digits :=
    match s.toList with
    | '+' :: rest => rest
    | all => all
  if digits.isEmpty || !digits.all isDigit then none
  else
    let value := decimalValue digits
    if value < bound then some value else none

theorem readNatural?_lt {bound value : Nat} {s : String}
    (read : readNatural? bound s = some value) : value < bound := by
  unfold readNatural? at read
  split at read <;> simp_all <;> grind

theorem isDigit_eq (c : Char) : isDigit c = c.isDigit := by
  unfold isDigit digit? Char.isDigit
  split
  · rename_i digit
    have inside : c.val ≥ 48 ∧ c.val ≤ 57 := digit
    simp [inside]
  · rename_i other
    have outside : ¬(c.val ≥ 48 ∧ c.val ≤ 57) := other
    grind

theorem digit?_of_isDigit {c : Char} (digit : isDigit c) :
    digit? c = some (c.toNat - '0'.toNat) := by
  unfold isDigit digit? at *
  grind

theorem decimalValue_eq_ofDigitChars {digits : List Char} (all : ∀ c ∈ digits, isDigit c) :
    decimalValue digits = Nat.ofDigitChars 10 digits 0 := by
  suffices ∀ value, digits.foldl (fun value c => value * 10 + (digit? c).getD 0) value =
      Nat.ofDigitChars 10 digits value from this 0
  induction digits with
  | nil => intro value; simp
  | cons first rest ih =>
    intro value
    have firstDigit := digit?_of_isDigit (all first List.mem_cons_self)
    rw [List.foldl_cons, Nat.ofDigitChars_cons, firstDigit, Option.getD_some, Nat.mul_comm value]
    exact ih (fun c member => all c (List.mem_cons_of_mem first member)) _

theorem isDigit_of_mem_toDigits {n : Nat} {c : Char} (member : c ∈ Nat.toDigits 10 n) :
    isDigit c := by
  rw [isDigit_eq]
  exact Nat.isDigit_of_mem_toDigits (by decide) (by decide) member

/-- A written number reads as itself. -/
theorem decimalValue_toDigits (n : Nat) : decimalValue (Nat.toDigits 10 n) = n := by
  rw [decimalValue_eq_ofDigitChars fun c member => isDigit_of_mem_toDigits member]
  exact Nat.ofDigitChars_ten_toDigits

/-- Only zero is written with a zero in front. -/
theorem head?_toDigits {n : Nat} (positive : 0 < n) : (Nat.toDigits 10 n).head? ≠ some '0' := by
  induction n using Nat.strongRecOn with
  | ind n ih =>
    by_cases small : n < 10
    · rw [Nat.toDigits_of_lt_base small]
      simpa using Nat.ne_of_gt positive
    · rw [Nat.toDigits_of_base_le (by decide) (by omega), List.head?_append,
        List.head?_eq_some_head Nat.toDigits_ne_nil, Option.some_or,
        ← List.head?_eq_some_head Nat.toDigits_ne_nil]
      exact ih (n / 10) (by omega) (by omega)

end GossipGate
