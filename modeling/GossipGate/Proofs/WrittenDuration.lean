import GossipGate.Duration.Form
import Mathlib.Data.List.Basic

namespace GossipGate

namespace DurationUnit

theorem nanos_pos (unit : DurationUnit) : 0 < unit.nanos := by
  cases unit <;> decide

/-- The nanoseconds of some parts together. -/
def total : List (Nat × DurationUnit) → Nat
  | [] => 0
  | part :: parts => part.1 * part.2.nanos + total parts

theorem total_filter_ne_zero (parts : List (Nat × DurationUnit)) :
    total (parts.filter fun part => part.1 ≠ 0) = total parts := by
  induction parts with
  | nil => rfl
  | cons part rest ih =>
    by_cases absent : part.1 = 0
    · simpa [total, absent] using ih
    · simpa [total, absent] using ih

/-- No nanosecond is lost where nanoseconds are the last unit. -/
theorem total_split_nano (units : List DurationUnit) (n : Nat) :
    total (split (units ++ [nano]) n) = n := by
  induction units generalizing n with
  | nil => simp [split, total, nanos]
  | cons unit shorter ih =>
    rw [List.cons_append, split, total, ih]
    exact Nat.div_add_mod' n unit.nanos

theorem split_append (longer shorter : List DurationUnit) (n : Nat) :
    split (longer ++ shorter) n =
      split longer n ++ split shorter (longer.foldl (fun left unit => left % unit.nanos) n) := by
  induction longer generalizing n with
  | nil => rfl
  | cons unit rest ih => simp [split, ih]

variable {units : List DurationUnit} {n : Nat} {part : Nat × DurationUnit}

theorem unit_mem_of_mem_split (member : part ∈ split units n) : part.2 ∈ units := by
  induction units generalizing n with
  | nil => cases member
  | cons unit shorter ih =>
    rcases List.mem_cons.1 member with rfl | later
    · exact List.mem_cons_self
    · exact List.mem_cons_of_mem _ (ih later)

theorem le_of_mem_split (member : part ∈ split units n) : part.1 * part.2.nanos ≤ n := by
  induction units generalizing n with
  | nil => cases member
  | cons unit shorter ih =>
    rcases List.mem_cons.1 member with rfl | later
    · exact Nat.div_mul_le_self n unit.nanos
    · exact Nat.le_trans (ih later) (Nat.mod_le n unit.nanos)

/-- A part in a unit below the second is less than a second; what is more went to longer units. -/
def Carried (part : Nat × DurationUnit) : Prop :=
  part.2.isSubsecond = true → part.1 * part.2.nanos < 1000000000

theorem carried_of_mem_split (member : part ∈ split written n) : Carried part := by
  intro short
  have cut : written = [year, month, day, hour, minute, second] ++ [milli, micro, nano] := rfl
  rw [cut, split_append, List.mem_append] at member
  rcases member with above | below
  · have unit := unit_mem_of_mem_split above
    simp only [List.mem_cons, List.not_mem_nil, or_false] at unit
    rcases unit with unit | unit | unit | unit | unit | unit <;> simp [unit, isSubsecond] at short
  · exact Nat.lt_of_le_of_lt (le_of_mem_split below) (Nat.mod_lt _ (nanos_pos second))

/-- The other units are whole seconds. -/
theorem whole_seconds {unit : DurationUnit} (long : ¬unit.isSubsecond = true) :
    unit.nanos / 1000000000 * 1000000000 = unit.nanos := by
  cases unit <;> simp_all [isSubsecond, nanos]

theorem ofName?_label (unit : DurationUnit) (count : Nat) :
    ofName? (unit.label count) = some unit := by
  cases unit <;> simp only [label] <;> (try split) <;> decide

/-- A label is a word of unit letters. -/
theorem label_spelling (unit : DurationUnit) (count : Nat) :
    ∃ first rest, (unit.label count).toList = first :: rest ∧ Duration.isNumeral first = false ∧
      first ≠ '.' ∧ (first :: rest).all Duration.isUnitLetter = true := by
  cases unit <;> simp only [label] <;> (try split) <;> exact ⟨_, _, rfl, rfl, by decide, rfl⟩

end DurationUnit

namespace Duration

open DurationUnit (total Carried)

theorem total_parts (d : Duration) : total d.parts = d.nanos := by
  rw [parts, DurationUnit.total_filter_ne_zero]
  exact DurationUnit.total_split_nano [.year, .month, .day, .hour, .minute, .second, .milli, .micro]
    d.nanos

section Amounts

variable {part : Nat × DurationUnit} {rest : List Char}

theorem isNumeral_of_isDigit {c : Char} (digit : isDigit c) : isNumeral c := by
  simp [isNumeral, digit]

/-- What may follow an amount: nothing, or a space. -/
def Spaced (rest : List Char) : Prop := rest = [] ∨ ∃ more, rest = ' ' :: more

theorem Spaced.endsUnit (spaced : Spaced rest) : endsUnit rest = true := by
  rcases spaced with rfl | ⟨more, rfl⟩
  · rfl
  · rfl

theorem Spaced.takeWhile_letters (spaced : Spaced rest) : rest.takeWhile isUnitLetter = [] := by
  rcases spaced with rfl | ⟨more, rfl⟩
  · rfl
  · rfl

theorem Spaced.dropWhile_letters (spaced : Spaced rest) : rest.dropWhile isUnitLetter = rest := by
  rcases spaced with rfl | ⟨more, rfl⟩
  · rfl
  · rfl

theorem readDigits_toDigits (n : Nat) {first : Char} (stops : isNumeral first = false) :
    readDigits (Nat.toDigits 10 n ++ first :: rest) = (Nat.toDigits 10 n, first :: rest) := by
  have digits : ∀ c ∈ Nat.toDigits 10 n, isDigit c := fun c member => isDigit_of_mem_toDigits member
  have numerals : ∀ c ∈ Nat.toDigits 10 n, isNumeral c :=
    fun c member => isNumeral_of_isDigit (digits c member)
  rw [readDigits, List.takeWhile_append_of_pos numerals, List.dropWhile_append_of_pos numerals]
  simpa [stops] using digits

/-- A written part reads as its count and its unit. -/
theorem readAmount?_partText (word : part.1 < UInt64.size) (spaced : Spaced rest) :
    readAmount? (partText part ++ rest) = some (⟨Nat.toDigits 10 part.1, none, part.2⟩, rest) := by
  obtain ⟨first, letters, label, stops, noPoint, spelled⟩ := part.2.label_spelling part.1
  have name : String.ofList (first :: letters) = part.2.label part.1 := by
    rw [← label, String.ofList_toList]
  have text : partText part ++ rest = Nat.toDigits 10 part.1 ++ first :: (letters ++ rest) := by
    simp [partText, label]
  rw [List.all_eq_true] at spelled
  have taken : (first :: (letters ++ rest)).takeWhile isUnitLetter = first :: letters := by
    rw [← List.cons_append, List.takeWhile_append_of_pos spelled, spaced.takeWhile_letters,
      List.append_nil]
  have dropped : (first :: (letters ++ rest)).dropWhile isUnitLetter = rest := by
    rw [← List.cons_append, List.dropWhile_append_of_pos spelled, spaced.dropWhile_letters]
  rw [text, readAmount?, readDigits_toDigits part.1 stops]
  simp [noPoint, taken, dropped, name, DurationUnit.ofName?_label, WrittenAmount.fits,
    decimalValue_toDigits, word, spaced.endsUnit]

theorem isBlank_eq_false_of_isDigit {c : Char} (digit : isDigit c) : isBlank c = false := by
  have low : '0'.val.toNat = 48 := rfl
  have high : '9'.val.toNat = 57 := rfl
  simp only [isDigit_eq, Char.isDigit, Bool.and_eq_true, decide_eq_true_eq, ge_iff_le,
    UInt32.le_iff_toNat_le] at digit
  simp only [isBlank, Bool.or_eq_false_iff, Bool.and_eq_false_iff, decide_eq_false_iff_not,
    beq_eq_false_iff_ne, UInt32.le_iff_toNat_le, ← UInt32.toNat_inj, ne_eq, UInt32.reduceToNat]
  omega

theorem exists_digit_partText (part : Nat × DurationUnit) (rest : List Char) :
    ∃ first more, partText part ++ rest = first :: more ∧ isDigit first := by
  obtain ⟨first, more, digits⟩ :=
    List.exists_cons_of_ne_nil (Nat.toDigits_ne_nil (n := part.1) (b := 10))
  refine ⟨first, more ++ ((part.2.label part.1).toList ++ rest), ?_, ?_⟩
  · simp [partText, digits]
  · exact isDigit_of_mem_toDigits (n := part.1) (by simp [digits])

theorem dropWhile_isBlank_partText (part : Nat × DurationUnit) (rest : List Char) :
    (partText part ++ rest).dropWhile isBlank = partText part ++ rest := by
  obtain ⟨first, more, text, digit⟩ := exists_digit_partText part rest
  rw [text, List.dropWhile_cons_of_neg (by simp [isBlank_eq_false_of_isDigit digit])]

/-- A whole number of units adds its nanoseconds, as long as the total stays a duration. -/
theorem addWhole_eq_ok {unit : DurationUnit} {count : Nat} (carried : Carried (count, unit))
    (sum : Nat) (fits : sum + count * unit.nanos < limit) :
    addWhole unit count sum = .ok (sum + count * unit.nanos) := by
  unfold limit at fits
  unfold addWhole
  split
  next short =>
    have below : count * unit.nanos < 1000000000 := carried short
    have word : count * unit.nanos < UInt64.size := Nat.lt_trans below (by decide)
    have rest : ¬UInt64.size ≤ sum % 1000000000 + count * unit.nanos := by
      simp only [UInt64.size]
      omega
    simp only [word, if_true, addNanos, rest, if_false, limit, fits]
  next long =>
    have seconds : count * (unit.nanos / 1000000000) * 1000000000 = count * unit.nanos := by
      rw [Nat.mul_assoc, DurationUnit.whole_seconds long]
    have word : count * (unit.nanos / 1000000000) < UInt64.size := by
      simp only [UInt64.size]
      omega
    simp only [word, if_true, addSeconds, seconds, limit, fits]

/-- The count of such a part fits a word. -/
theorem count_lt_of_fits {unit : DurationUnit} {count : Nat} (carried : Carried (count, unit))
    (fits : count * unit.nanos < limit) : count < UInt64.size := by
  by_cases short : unit.isSubsecond = true
  · calc count ≤ count * unit.nanos := Nat.le_mul_of_pos_right count unit.nanos_pos
      _ < 1000000000 := carried short
      _ < UInt64.size := by decide
  · have second : 1000000000 ≤ unit.nanos := by
      have whole := DurationUnit.whole_seconds short
      have positive := unit.nanos_pos
      omega
    have seconds := Nat.mul_le_mul_left count second
    unfold limit at fits
    simp only [UInt64.size]
    omega

/-- A written part is added as soon as it is read. -/
theorem readAmounts_partText {s : List Char} (text : s.dropWhile isBlank = partText part ++ rest)
    (word : part.1 < UInt64.size) (spaced : Spaced rest) (steps sum : Nat) :
    readAmounts (steps + 1) sum s =
      addWhole part.2 part.1 sum >>= fun next => readAmounts steps next rest := by
  obtain ⟨first, more, start, digit⟩ := exists_digit_partText part rest
  rw [readAmounts, text, start]
  simp only [digit, if_true]
  rw [← start, readAmount?_partText word spaced]
  show (addWhole part.2 (decimalValue (Nat.toDigits 10 part.1)) sum >>= pure) >>=
    (fun next => readAmounts steps next rest) = _
  rw [decimalValue_toDigits, bind_pure]

end Amounts

/-- The text of some parts, a space before each. -/
def spacedParts : List (Nat × DurationUnit) → List Char
  | [] => []
  | part :: parts => ' ' :: (partText part ++ spacedParts parts)

theorem spaced_spacedParts (parts : List (Nat × DurationUnit)) : Spaced (spacedParts parts) := by
  cases parts with
  | nil => exact .inl rfl
  | cons part parts => exact .inr ⟨_, rfl⟩

theorem length_le_spacedParts (parts : List (Nat × DurationUnit)) :
    parts.length ≤ (spacedParts parts).length := by
  induction parts with
  | nil => exact Nat.le_refl 0
  | cons part parts ih =>
    simp only [spacedParts, List.length_cons, List.length_append]
    omega

theorem intercalate_partText (part : Nat × DurationUnit) (parts : List (Nat × DurationUnit)) :
    List.intercalate [' '] ((part :: parts).map partText) = partText part ++ spacedParts parts := by
  induction parts generalizing part with
  | nil => simp [spacedParts, List.intercalate]
  | cons next parts ih =>
    rw [List.map_cons, List.map_cons, List.intercalate_cons_cons, ← List.map_cons, ih]
    simp [spacedParts]

/-- Written parts are added up, if all of them together are a duration. -/
theorem readAmounts_spacedParts {parts : List (Nat × DurationUnit)} {s : List Char}
    {steps sum : Nat} (text : s.dropWhile isBlank = (spacedParts parts).dropWhile isBlank)
    (carried : ∀ part ∈ parts, Carried part) (fits : sum + total parts < limit)
    (enough : parts.length < steps) : readAmounts steps sum s = .ok (sum + total parts) := by
  induction parts generalizing s steps sum with
  | nil =>
    obtain ⟨steps, rfl⟩ := Nat.exists_eq_succ_of_ne_zero (Nat.ne_of_gt enough)
    rw [readAmounts, text]
    rfl
  | cons part parts ih =>
    obtain ⟨steps, rfl⟩ := Nat.exists_eq_succ_of_ne_zero (Nat.ne_of_gt (Nat.zero_lt_of_lt enough))
    rw [DurationUnit.total] at fits ⊢
    have start : s.dropWhile isBlank = partText part ++ spacedParts parts := by
      rw [text]
      exact dropWhile_isBlank_partText part (spacedParts parts)
    have own := carried part List.mem_cons_self
    have added := addWhole_eq_ok own sum (by omega)
    have word := count_lt_of_fits own (by omega)
    rw [readAmounts_partText start word (spaced_spacedParts parts), added, ← Nat.add_assoc]
    exact ih rfl (fun other member => carried other (List.mem_cons_of_mem part member))
      (by omega) (Nat.lt_of_succ_lt_succ enough)

/-- A written duration is a list of parts that add up to it; zero is no seconds. -/
theorem written_eq_parts (d : Duration) :
    ∃ part parts, d.written.toList = partText part ++ spacedParts parts ∧
      total (part :: parts) = d.nanos ∧ ∀ each ∈ part :: parts, Carried each := by
  by_cases zero : d.nanos = 0
  · refine ⟨(0, .second), [], ?_, zero.symm, ?_⟩
    · rw [written, if_pos zero]
      rfl
    · intro part member short
      obtain rfl := List.mem_singleton.1 member
      cases short
  · have sum := total_parts d
    cases parts : d.parts with
    | nil =>
      rw [parts] at sum
      exact absurd sum.symm zero
    | cons part rest =>
      refine ⟨part, rest, ?_, parts ▸ sum, ?_⟩
      · rw [written, if_neg zero, parts, intercalate_partText, String.toList_ofList]
      · rw [← parts]
        exact fun each member =>
          DurationUnit.carried_of_mem_split (List.mem_filter.1 member).1

/-- The written form of a duration reads as that duration. -/
theorem ofWritten_written (d : Duration) : ofWritten d.written = .ok d := by
  obtain ⟨part, parts, text, sum, carried⟩ := written_eq_parts d
  obtain ⟨first, more, start, digit⟩ := exists_digit_partText part (spacedParts parts)
  have named : d.written.toList ≠ ['0'] := by
    obtain ⟨letter, letters, label, -⟩ := part.2.label_spelling part.1
    have long := congrArg List.length text
    have count := Nat.length_toDigits_pos (b := 10) (n := part.1)
    simp only [partText, label, List.length_append, List.length_cons] at long
    intro lone
    rw [lone, List.length_singleton] at long
    omega
  have shown : d.written.toList.all isBlank = false := by
    simp [text, start, isBlank_eq_false_of_isDigit digit]
  have fits : 0 + total (part :: parts) < limit := by
    rw [Nat.zero_add, sum]
    exact d.nanos_lt
  have enough : (part :: parts).length < d.written.toList.length + 1 := by
    have longer := length_le_spacedParts parts
    have count := Nat.length_toDigits_pos (b := 10) (n := part.1)
    simp only [text, partText, List.length_append, List.length_cons]
    omega
  have blanks : d.written.toList.dropWhile isBlank =
      (spacedParts (part :: parts)).dropWhile isBlank := by
    rw [text]
    rfl
  have read := readAmounts_spacedParts blanks carried fits enough
  rw [ofWritten, if_neg named, shown, read, Nat.zero_add, sum]
  show ReadError.present (ofNanos? d.nanos) = .ok d
  rw [ofNanos?_nanos]
  rfl

example : written (.ofMillis 90061001) = "1day 1h 1m 1s 1ms" := by rfl

/-- The JSON form of a duration reads as that duration. -/
theorem ofJson_toJson (d : Duration) : ofJson d.toJson = .ok d := ofWritten_written d

end Duration

end GossipGate
