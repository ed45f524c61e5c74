import GossipGate.Json.Reader
import GossipGate.Json.Writer
import Mathlib.Data.List.TakeWhile

namespace GossipGate

namespace Json

section Texts

/-- The characters between the quotes of a text. -/
def escapedChars (chars : List Char) : List Char :=
  chars.flatMap fun c => (escapedText c).toList

theorem toList_quoted (s : String) :
    (quoted s).toList = '\x22' :: (escapedChars s.toList ++ ['\x22']) := by
  have folded : ∀ (chars : List Char) (written : String),
      (chars.foldl (fun written c => written ++ escapedText c) written).toList =
        written.toList ++ escapedChars chars := by
    intro chars
    induction chars with
    | nil => intro written; simp [escapedChars]
    | cons c rest ih => intro written; simp [ih, escapedChars]
  rw [quoted, String.toList_append, folded]
  rfl

theorem hexValue?_digitChar {n : Nat} (small : n < 16) : hexValue? (Nat.digitChar n) = some n := by
  decide +revert

/-- A character is written in one of three ways: by a letter, by the digits of its number, or as
it is. -/
theorem escapedText_cases (c : Char) :
    (∃ letter, (escapedText c).toList = ['\x5c', letter] ∧ escaped? letter = some c) ∨
      (c.val < 0x20 ∧ (escapedText c).toList =
        ['\x5c', 'u', '0', '0', Nat.digitChar (c.toNat / 16), Nat.digitChar (c.toNat % 16)]) ∨
      (¬c.val < 0x20 ∧ c ≠ '\x22' ∧ c ≠ '\x5c' ∧ (escapedText c).toList = [c]) := by
  by_cases quote : c = '\x22'
  · subst quote; exact .inl ⟨_, rfl, rfl⟩
  by_cases backslash : c = '\x5c'
  · subst backslash; exact .inl ⟨_, rfl, rfl⟩
  by_cases backspace : c = '\x08'
  · subst backspace; exact .inl ⟨_, rfl, rfl⟩
  by_cases formFeed : c = '\x0c'
  · subst formFeed; exact .inl ⟨_, rfl, rfl⟩
  by_cases lineFeed : c = '\n'
  · subst lineFeed; exact .inl ⟨_, rfl, rfl⟩
  by_cases carriageReturn : c = '\r'
  · subst carriageReturn; exact .inl ⟨_, rfl, rfl⟩
  by_cases tab : c = '\t'
  · subst tab; exact .inl ⟨_, rfl, rfl⟩
  simp only [escapedText, quote, backslash, backspace, formFeed, lineFeed, carriageReturn, tab,
    if_false]
  split
  next control => exact .inr (.inl ⟨control, by simp [hexPair]⟩)
  next visible => exact .inr (.inr ⟨visible, quote, backslash, by simp⟩)

theorem readPieces?_letter {letter c : Char} (escape : escaped? letter = some c)
    (read : List TextPiece) (rest : List Char) :
    readPieces? read ('\x5c' :: letter :: rest) = readPieces? (.char c :: read) rest := by
  rw [readPieces?, escape]
  · rfl
  · rintro - - - - - rfl
    cases escape

theorem readPieces?_control {n : Nat} (control : n < 0x20) (read : List TextPiece)
    (rest : List Char) :
    readPieces? read
      ('\x5c' :: 'u' :: '0' :: '0' :: Nat.digitChar (n / 16) :: Nat.digitChar (n % 16) :: rest) =
      readPieces? (.unit n :: read) rest := by
  have zero : hexValue? '0' = some 0 := rfl
  have split : (0 * 16 + 0) * 256 + (n / 16 * 16 + n % 16) = n := by omega
  rw [readPieces?, zero, hexValue?_digitChar (by omega), hexValue?_digitChar (by omega)]
  simp [Nat.div_add_mod']

theorem readPieces?_plain {c : Char} (visible : ¬c.val < 0x20) (quote : c ≠ '\x22')
    (backslash : c ≠ '\x5c') (read : List TextPiece) (rest : List Char) :
    readPieces? read (c :: rest) = readPieces? (.char c :: read) rest := by
  rw [readPieces?, if_neg visible]
  · exact quote
  · exact fun _ _ _ _ _ slash => absurd slash backslash
  · exact fun _ _ slash => absurd slash backslash

/-- A unit that is no surrogate is a character. -/
theorem joinPieces?_unit {n : Nat} (low : n < 0xD800) (joined : List Char)
    (rest : List TextPiece) :
    joinPieces? joined (.unit n :: rest) = joinPieces? (Char.ofNat n :: joined) rest := by
  have apart : ¬(0xD800 ≤ n ∧ n < 0xDC00) ∧ ¬(0xDC00 ≤ n ∧ n < 0xE000) ∧
      ¬(0xD800 ≤ n ∧ n < 0xE000) := by omega
  match rest with
  | [] => rw [joinPieces?.eq_4 joined n [] (by simp), if_neg apart.2.2]
  | .char c :: rest => rw [joinPieces?.eq_4 joined n (.char c :: rest) (by simp), if_neg apart.2.2]
  | .unit next :: rest => rw [joinPieces?, if_neg apart.1, if_neg apart.2.1]

/-- A written character is read as one piece, which joins as the character. -/
theorem exists_piece (c : Char) :
    ∃ piece, (∀ read rest, readPieces? read ((escapedText c).toList ++ rest) =
        readPieces? (piece :: read) rest) ∧
      ∀ joined rest, joinPieces? joined (piece :: rest) = joinPieces? (c :: joined) rest := by
  rcases escapedText_cases c with ⟨letter, text, escape⟩ | ⟨control, text⟩ |
    ⟨visible, quote, backslash, text⟩
  · refine ⟨.char c, fun read rest => ?_, fun joined rest => rfl⟩
    rw [text]
    exact readPieces?_letter escape read rest
  · have small : c.toNat < 0x20 := control
    refine ⟨.unit c.toNat, fun read rest => ?_, fun joined rest => ?_⟩
    · rw [text]
      exact readPieces?_control small read rest
    · rw [joinPieces?_unit (by omega), Char.ofNat_toNat]
  · refine ⟨.char c, fun read rest => ?_, fun joined rest => rfl⟩
    rw [text]
    exact readPieces?_plain visible quote backslash read rest

/-- Written characters are read up to the closing quote, and their pieces join again. -/
theorem exists_pieces (chars : List Char) :
    ∃ pieces, (∀ read rest, readPieces? read (escapedChars chars ++ '\x22' :: rest) =
        some (read.reverse ++ pieces, rest)) ∧
      ∀ joined, joinPieces? joined pieces = some (joined.reverse ++ chars) := by
  induction chars with
  | nil =>
    exact ⟨[], fun read rest => by simp [escapedChars, readPieces?],
      fun joined => by simp [joinPieces?]⟩
  | cons c rest ih =>
    obtain ⟨pieces, reads, joins⟩ := ih
    obtain ⟨piece, readsFirst, joinsFirst⟩ := exists_piece c
    refine ⟨piece :: pieces, fun read behind => ?_, fun joined => ?_⟩
    · rw [escapedChars, List.flatMap_cons, List.append_assoc, readsFirst, ← escapedChars, reads]
      simp
    · rw [joinsFirst, joins]
      simp

/-- A quoted text is read as that text. -/
theorem readPieces?_quoted (s : String) (rest : List Char) :
    ∃ pieces, readPieces? [] (escapedChars s.toList ++ '\x22' :: rest) = some (pieces, rest) ∧
      joinPieces? [] pieces = some s.toList := by
  obtain ⟨pieces, reads, joins⟩ := exists_pieces s.toList
  exact ⟨pieces, reads [] rest, joins []⟩

end Texts

/-- What may stand behind a value: nothing, or what goes on to the next value or closes the
container. -/
def Ends (rest : List Char) : Prop := ∀ c ∈ rest.head?, c = ',' ∨ c = ']' ∨ c = '\x7d'

section Numbers

variable {s left rest : List Char}

theorem Ends.takeWhile_append (ends : Ends rest) (s : List Char) :
    (s ++ rest).takeWhile isDigit = s.takeWhile isDigit := by
  induction s with
  | nil =>
    cases rest with
    | nil => rfl
    | cons c more =>
      rcases ends c rfl with rfl | rfl | rfl <;> rfl
  | cons c s ih => simp [List.takeWhile_cons, ih]

theorem Ends.dropWhile_append (ends : Ends rest) (s : List Char) :
    (s ++ rest).dropWhile isDigit = s.dropWhile isDigit ++ rest := by
  induction s with
  | nil =>
    cases rest with
    | nil => rfl
    | cons c more =>
      rcases ends c rfl with rfl | rfl | rfl <;> rfl
  | cons c s ih => by_cases digit : isDigit c <;> simp [digit, ih]

/-- A reader of part of a number does not look behind the number. -/
def StopsAtEnd {β : Type} (read : List Char → Option (β × List Char)) : Prop :=
  ∀ {s rest value left}, Ends rest → read s = some (value, left) →
    read (s ++ rest) = some (value, left ++ rest)

theorem stopsAtEnd_readDigits? : StopsAtEnd readDigits? := by
  intro s rest digits left ends read
  unfold readDigits? at read ⊢
  simp only [ends.takeWhile_append, ends.dropWhile_append] at read ⊢
  split at read
  next => cases read
  next some =>
    cases read
    rw [if_neg some]

theorem readWhole?_cons {c : Char} (positive : c ≠ '0') (s : List Char) :
    readWhole? (c :: s) = readDigits? (c :: s) := by
  rw [readWhole?]
  simpa using positive

theorem stopsAtEnd_readWhole? : StopsAtEnd readWhole? := by
  intro s rest digits left ends read
  match s with
  | [] => cases read
  | c :: s =>
    by_cases zero : c = '0'
    · subst zero
      cases s with
      | nil =>
        cases read
        cases rest with
        | nil => rfl
        | cons c more => rcases ends c rfl with rfl | rfl | rfl <;> rfl
      | cons next s =>
        simp only [readWhole?] at read
        split at read
        next => cases read
        next other =>
          cases read
          simp [readWhole?, other]
    · rw [readWhole?_cons zero] at read
      rw [List.cons_append, readWhole?_cons zero]
      exact stopsAtEnd_readDigits? ends read

theorem Ends.readFraction? (ends : Ends rest) : readFraction? rest = some ([], rest) := by
  cases rest with
  | nil => rfl
  | cons c more => rcases ends c rfl with rfl | rfl | rfl <;> rfl

theorem stopsAtEnd_readFraction? : StopsAtEnd readFraction? := by
  intro s rest digits left ends read
  match s with
  | [] =>
    cases read
    exact ends.readFraction?
  | c :: s =>
    by_cases point : c = '.'
    · subst point
      exact stopsAtEnd_readDigits? ends read
    · have none (s) : Json.readFraction? (c :: s) = some ([], c :: s) := by
        rw [Json.readFraction?]
        simpa using point
      rw [none] at read
      cases read
      exact none (s ++ rest)

theorem stopsAtEnd_map {β γ : Type} {read : List Char → Option (β × List Char)}
    (f : β → γ) (stops : StopsAtEnd read) :
    StopsAtEnd fun s => (read s).map fun p => (f p.1, p.2) := by
  intro s rest value left ends done
  obtain ⟨⟨part, behind⟩, found, same⟩ := Option.map_eq_some_iff.1 done
  cases same
  dsimp only
  rw [stops ends found]
  rfl

theorem stopsAtEnd_signed (sign : Nat → Int) :
    StopsAtEnd fun s => (readDigits? s).map fun p => (sign (decimalValue p.1), p.2) :=
  stopsAtEnd_map (fun digits => sign (decimalValue digits)) stopsAtEnd_readDigits?

theorem stopsAtEnd_readSignedExponent? : StopsAtEnd readSignedExponent? := by
  intro s rest exponent left ends read
  match s with
  | [] => cases read
  | c :: s =>
    by_cases minus : c = '-'
    · subst minus
      exact stopsAtEnd_signed (fun n => -(n : Int)) ends read
    by_cases plus : c = '+'
    · subst plus
      exact stopsAtEnd_signed (fun n => (n : Int)) ends read
    have unsigned (s) : readSignedExponent? (c :: s) =
        (readDigits? (c :: s)).map fun p => ((decimalValue p.1 : Int), p.2) := by
      rw [readSignedExponent?]
      · simpa using minus
      · simpa using plus
    rw [unsigned] at read
    rw [List.cons_append, unsigned]
    exact stopsAtEnd_signed (fun n => (n : Int)) ends read

theorem Ends.readExponent? (ends : Ends rest) : readExponent? rest = some (none, rest) := by
  cases rest with
  | nil => rfl
  | cons c more => rcases ends c rfl with rfl | rfl | rfl <;> rfl

theorem stopsAtEnd_readExponent? : StopsAtEnd readExponent? := by
  intro s rest exponent left ends read
  match s with
  | [] =>
    cases read
    exact ends.readExponent?
  | c :: s =>
    by_cases small : c = 'e'
    · subst small
      exact stopsAtEnd_map some stopsAtEnd_readSignedExponent? ends read
    by_cases capital : c = 'E'
    · subst capital
      exact stopsAtEnd_map some stopsAtEnd_readSignedExponent? ends read
    have absent (s) : Json.readExponent? (c :: s) = some (none, c :: s) := by
      rw [Json.readExponent?]
      · simpa using small
      · simpa using capital
    rw [absent] at read
    cases read
    exact absent (s ++ rest)

theorem stopsAtEnd_readUnsigned? (negative : Bool) : StopsAtEnd (readUnsigned? negative) := by
  intro s rest value left ends read
  obtain ⟨⟨whole, behindWhole⟩, wholeRead, read⟩ := Option.bind_eq_some_iff.1 read
  obtain ⟨⟨fraction, behindFraction⟩, fractionRead, read⟩ := Option.bind_eq_some_iff.1 read
  obtain ⟨⟨exponent, behindExponent⟩, exponentRead, read⟩ := Option.bind_eq_some_iff.1 read
  cases read
  simp only [readUnsigned?, stopsAtEnd_readWhole? ends wholeRead,
    stopsAtEnd_readFraction? ends fractionRead, stopsAtEnd_readExponent? ends exponentRead,
    Option.bind_eq_bind, Option.bind_some]

theorem readNumber?_cons {c : Char} (unsigned : c ≠ '-') (s : List Char) :
    readNumber? (c :: s) = readUnsigned? false (c :: s) := by
  rw [readNumber?]
  simpa using unsigned

/-- A number is read as that number also where it ends before something else. -/
theorem stopsAtEnd_readNumber? : StopsAtEnd readNumber? := by
  intro s rest value left ends read
  match s with
  | [] => cases read
  | c :: s =>
    by_cases minus : c = '-'
    · subst minus
      exact stopsAtEnd_readUnsigned? true ends read
    · rw [readNumber?_cons minus] at read
      rw [List.cons_append, readNumber?_cons minus]
      exact stopsAtEnd_readUnsigned? false ends read

/-- A number starts with a digit or a minus sign. -/
theorem exists_cons_of_readNumber? {value : Json} (read : readNumber? s = some (value, left)) :
    ∃ c more, s = c :: more ∧ (c = '-' ∨ isDigit c) := by
  match s with
  | [] => cases read
  | c :: s =>
    refine ⟨c, s, rfl, ?_⟩
    by_cases minus : c = '-'
    · exact .inl minus
    rw [readNumber?_cons minus] at read
    obtain ⟨⟨whole, behind⟩, wholeRead, -⟩ := Option.bind_eq_some_iff.1 read
    by_cases zero : c = '0'
    · exact .inr (zero ▸ rfl)
    rw [readWhole?_cons zero, readDigits?] at wholeRead
    right
    by_contra other
    simp [other] at wholeRead

theorem readDigits?_of_forall (nonempty : s ≠ []) (digits : ∀ c ∈ s, isDigit c) :
    readDigits? s = some (s, []) := by
  have all : s.takeWhile isDigit = s := List.takeWhile_eq_self_iff.2 digits
  have none : s.dropWhile isDigit = [] := List.dropWhile_eq_nil_iff.2 digits
  simp [readDigits?, all, none, nonempty]

theorem readWhole?_toDigits (n : Nat) :
    readWhole? (Nat.toDigits 10 n) = some (Nat.toDigits 10 n, []) := by
  rcases Nat.eq_zero_or_pos n with rfl | positive
  · rfl
  · have head := head?_toDigits positive
    have digits := readDigits?_of_forall (Nat.toDigits_ne_nil (n := n) (b := 10))
      fun c member => isDigit_of_mem_toDigits member
    match text : Nat.toDigits 10 n with
    | [] => exact absurd text Nat.toDigits_ne_nil
    | c :: more =>
      rw [text] at head digits
      rw [readWhole?_cons (by simpa using head)]
      exact digits

theorem readUnsigned?_toDigits (negative : Bool) (n : Nat) :
    readUnsigned? negative (Nat.toDigits 10 n) =
      some (numberOfParts negative (Nat.toDigits 10 n) [] none, []) := by
  rw [readUnsigned?, readWhole?_toDigits]
  rfl

theorem readNumber?_toDigits (n : Nat) :
    readNumber? (Nat.toDigits 10 n) = readUnsigned? false (Nat.toDigits 10 n) := by
  match text : Nat.toDigits 10 n with
  | [] => exact absurd text Nat.toDigits_ne_nil
  | c :: more =>
    have digit : isDigit c := isDigit_of_mem_toDigits (n := n) (text ▸ List.mem_cons_self)
    refine readNumber?_cons ?_ more
    rintro rfl
    cases digit

/-- A whole number of the signed or unsigned 64-bit range is read as it was written. -/
theorem readNumber?_int {value : Int} (low : -9223372036854775808 ≤ value)
    (high : value < 18446744073709551616) :
    readNumber? (toString value).toList = some (number (.int value), []) := by
  cases value with
  | ofNat n =>
    have text : (toString (Int.ofNat n)).toList = Nat.toDigits 10 n := Nat.toList_repr
    have word : n < UInt64.size := Int.ofNat_lt.1 high
    rw [text, readNumber?_toDigits, readUnsigned?_toDigits]
    simp [numberOfParts, decimalValue_toDigits, word]
  | negSucc n =>
    have text : (toString (Int.negSucc n)).toList = '-' :: Nat.toDigits 10 (n + 1) := by
      show ("-" ++ Nat.repr (n + 1)).toList = _
      rw [String.toList_append, Nat.toList_repr]
      rfl
    have small : n + 1 ≤ 9223372036854775808 := by omega
    have parts : numberOfParts true (Nat.toDigits 10 (n + 1)) [] none =
        number (.int (-((n + 1 : Nat) : Int))) := by
      simp [numberOfParts, decimalValue_toDigits, small]
    rw [text]
    show readUnsigned? true (Nat.toDigits 10 (n + 1)) = _
    rw [readUnsigned?_toDigits, parts]
    rfl

/-- A double that is read back from its text. It need not be: digits and power of ten are joined
by one division or multiplication of doubles, which can miss by a unit in the last place. -/
structure ReadsBack (x : Float) : Prop where
  finite : x.isFinite = true
  read : readNumber? (floatText x).toList = some (number (.float x), [])

theorem readsBack_of_text {x : Float} {s : String} (finite : x.isFinite = true)
    (text : floatText x = s) (read : readNumber? s.toList = some (number (.float x), [])) :
    ReadsBack x :=
  ⟨finite, text ▸ read⟩

/-- Not every finite double is read back. -/
theorem exists_not_readsBack : ∃ x : Float, x.isFinite = true ∧ ¬ReadsBack x := by
  refine ⟨90.28571428571429, by decide +kernel, fun back => ?_⟩
  have text : floatText 90.28571428571429 = "90.28571428571429" := by decide +kernel
  have found : readNumber? "90.28571428571429".toList =
      some (number (.float (Float.ofNat 9028571428571429 / tenTo 14)), []) := rfl
  have read := back.read
  rw [text, found] at read
  simp only [Option.some.injEq, Prod.mk.injEq, Json.number.injEq, JsonNumber.float.injEq,
    and_true] at read
  exact absurd (congrArg Float.toBits read) (by decide +kernel)

end Numbers

end Json

end GossipGate
