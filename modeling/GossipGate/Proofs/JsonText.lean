import GossipGate.Proofs.JsonTokens

namespace GossipGate

namespace Json

/-- A value as programs build them: whole numbers of the signed or unsigned 64-bit range, no name
twice in an object, and no flaws. All its doubles have some property. -/
inductive Proper (holds : Float → Prop) : Json → Prop
  | null : Proper holds null
  | bool (value : Bool) : Proper holds (bool value)
  | int {value : Int} : -9223372036854775808 ≤ value → value < 18446744073709551616 →
      Proper holds (number (.int value))
  | float {value : Float} : holds value → Proper holds (number (.float value))
  | text (value : String) : Proper holds (text value)
  | array {items : List Json} : (∀ item ∈ items, Proper holds item) → Proper holds (array items)
  | object {members : List (String × Json)} : (members.map Prod.fst).Nodup →
      (∀ member ∈ members, Proper holds member.2) → Proper holds (object members)

mutual

/-- The characters of the compact text of a value. -/
def chars : Json → List Char
  | null => "null".toList
  | bool value => (if value then "true" else "false").toList
  | number value => (numberText value).toList
  | text value => (quoted value).toList
  | array items => '[' :: (charsOfItems items ++ [']'])
  | object members => '\x7b' :: (charsOfMembers members ++ ['\x7d'])
  | flawed _ => "null".toList

def charsOfItems : List Json → List Char
  | [] => []
  | [item] => chars item
  | item :: rest => chars item ++ ',' :: charsOfItems rest

def charsOfMembers : List (String × Json) → List Char
  | [] => []
  | [(name, value)] => (quoted name).toList ++ ':' :: chars value
  | (name, value) :: rest =>
    (quoted name).toList ++ ':' :: (chars value ++ ',' :: charsOfMembers rest)

end

mutual

theorem toList_write (written : String) (json : Json) :
    (write written json).toList = written.toList ++ chars json := by
  cases json with
  | null | bool | number | text | flawed => simp [write, chars]
  | array items => simp [write, chars, toList_writeItems _ items]
  | object members => simp [write, chars, toList_writeMembers _ members]

theorem toList_writeItems (written : String) (items : List Json) :
    (writeItems written items).toList = written.toList ++ charsOfItems items := by
  match items with
  | [] => simp [writeItems, charsOfItems]
  | [item] => rw [writeItems, charsOfItems, toList_write]
  | item :: next :: rest =>
    rw [writeItems, charsOfItems, toList_writeItems, String.toList_append, toList_write] <;> simp

theorem toList_writeMembers (written : String) (members : List (String × Json)) :
    (writeMembers written members).toList = written.toList ++ charsOfMembers members := by
  match members with
  | [] => simp [writeMembers, charsOfMembers]
  | [(name, value)] => simp [writeMembers, charsOfMembers, toList_write]
  | (name, value) :: next :: rest =>
    rw [writeMembers, charsOfMembers, toList_writeMembers, String.toList_append, toList_write] <;>
      simp

end

/-- The compact text of a value. -/
theorem toList_toText (json : Json) : json.toText.toList = chars json := by
  rw [toText, toList_write]
  rfl

theorem skipSpace_cons {c : Char} (shown : isSpace c = false) (rest : List Char) :
    skipSpace (c :: rest) = c :: rest :=
  List.dropWhile_cons_of_neg (by simp [shown])

theorem isSpace_eq_false_of_number {c : Char} (start : c = '-' ∨ isDigit c) :
    isSpace c = false := by
  by_contra space
  simp only [isSpace, Bool.or_eq_true, beq_iff_eq, Bool.not_eq_false] at space
  rcases space with ((rfl | rfl) | rfl) | rfl <;> exact absurd start (by decide)

/-- What starts like a number is read as a number. -/
theorem readValue_number {c : Char} (start : c = '-' ∨ isDigit c) (steps : Nat)
    (rest : List Char) :
    readValue (steps + 1) (c :: rest) = orEnding (readNumber? (c :: rest)) := by
  rw [readValue, skipSpace_cons (isSpace_eq_false_of_number start)]
  split
  case h_7 => rfl
  -- In the other cases the text starts with a character that starts no number.
  all_goals
    rename_i same
    cases same
    exact absurd start (by decide)

theorem readValue_text (steps : Nat) (rest : List Char) :
    readValue (steps + 1) ('\x22' :: rest) =
      orEnding ((readPieces? [] rest).map fun p => (textOfPieces p.1, p.2)) := by
  rw [readValue]
  rfl

theorem readValue_items {c : Char} (shown : isSpace c = false) (opened : c ≠ ']') (steps : Nat)
    (rest : List Char) :
    readValue (steps + 1) ('[' :: c :: rest) = readItems steps [] (c :: rest) := by
  have skip := skipSpace_cons (c := '[') rfl (c :: rest)
  rw [readValue, skip]
  split
  case h_5 same =>
    cases same
    rw [skipSpace_cons shown]
    split
    next same =>
      cases same
      exact absurd rfl opened
    next => rfl
  case h_7 items _ => exact absurd rfl (items _)
  -- The text starts with the bracket of an array.
  all_goals
    rename_i same
    cases same

theorem readValue_members (steps : Nat) (rest : List Char) :
    readValue (steps + 1) ('\x7b' :: '\x22' :: rest) = readMembers steps [] ('\x22' :: rest) := by
  rw [readValue]
  rfl

/-- The text of a value starts a value, and is read as it from there. -/
structure IsRead (json : Json) : Prop where
  start : ∃ c more, chars json = c :: more ∧ isSpace c = false ∧ c ≠ ']'
  read : ∀ {steps rest}, Ends rest → (chars json).length ≤ steps →
    readValue steps (chars json ++ rest) = (json, some rest)

/-- Every value takes a step to read. -/
theorem isRead_of_succ {json : Json} {c : Char} {more : List Char} (text : chars json = c :: more)
    (shown : isSpace c = false) (opened : c ≠ ']')
    (read : ∀ {steps rest}, Ends rest → (chars json).length ≤ steps + 1 →
      readValue (steps + 1) (chars json ++ rest) = (json, some rest)) : IsRead json := by
  refine ⟨⟨c, more, text, shown, opened⟩, ?_⟩
  intro steps rest ends enough
  cases steps with
  | zero =>
    rw [text] at enough
    cases enough
  | succ steps => exact read ends enough

/-- A number token that reads as a value is the text of it. -/
theorem isRead_number {value : JsonNumber}
    (read : readNumber? (numberText value).toList = some (number value, [])) :
    IsRead (number value) := by
  obtain ⟨c, more, text, start⟩ := exists_cons_of_readNumber? read
  have opened : c ≠ ']' := by
    rintro rfl
    exact absurd start (by decide)
  refine isRead_of_succ text (isSpace_eq_false_of_number start) opened fun {steps rest} ends _ => ?_
  have whole := stopsAtEnd_readNumber? ends read
  rw [text] at whole
  rw [chars, text, List.cons_append, readValue_number start, ← List.cons_append, whole]
  rfl

theorem isRead_text (value : String) : IsRead (text value) := by
  refine isRead_of_succ (toList_quoted value) rfl (by decide) fun {steps rest} _ _ => ?_
  obtain ⟨pieces, read, joined⟩ := readPieces?_quoted value rest
  rw [chars, toList_quoted, List.cons_append, readValue_text, List.append_assoc,
    List.singleton_append, read]
  simp [orEnding, textOfPieces, joined]

section Steps

variable {steps : Nat} {s rest : List Char}

theorem readItems_last {item : Json} (read : List Json)
    (done : readValue steps s = (item, some (']' :: rest))) :
    readItems (steps + 1) read s = (array (item :: read).reverse, some rest) := by
  rw [readItems, done]
  rfl

theorem readItems_more {item : Json} (read : List Json)
    (done : readValue steps s = (item, some (',' :: rest))) :
    readItems (steps + 1) read s = readItems steps (item :: read) rest := by
  rw [readItems, done]
  rfl

theorem readMembers_last {name : String} {value : Json} (read : List (String × Json))
    {behind : List Char} (named : readName? s = some (some name, behind))
    (done : readValue steps behind = (value, some ('\x7d' :: rest))) :
    readMembers (steps + 1) read s = (object ((name, value) :: read).reverse, some rest) := by
  simp only [readMembers, named, done]
  rfl

theorem readMembers_more {name : String} {value : Json} (read : List (String × Json))
    {behind : List Char} (named : readName? s = some (some name, behind))
    (done : readValue steps behind = (value, some (',' :: rest))) :
    readMembers (steps + 1) read s = readMembers steps ((name, value) :: read) rest := by
  simp only [readMembers, named, done]
  rfl

theorem readName?_quoted (name : String) (rest : List Char) :
    readName? ((quoted name).toList ++ ':' :: rest) = some (some name, rest) := by
  obtain ⟨pieces, read, joined⟩ := readPieces?_quoted name (':' :: rest)
  rw [toList_quoted, List.cons_append, List.append_assoc, List.singleton_append, readName?,
    skipSpace_cons rfl]
  simp only [read, Option.bind_eq_bind, Option.bind_some, skipSpace_cons (c := ':') rfl, joined,
    Option.map_some, String.ofList_toList]

end Steps

theorem charsOfItems_cons_cons (item next : Json) (rest : List Json) :
    charsOfItems (item :: next :: rest) = chars item ++ ',' :: charsOfItems (next :: rest) := by
  rw [charsOfItems]
  exact List.cons_ne_nil next rest

theorem charsOfMembers_cons_cons (member next : String × Json) (rest : List (String × Json)) :
    charsOfMembers (member :: next :: rest) = (quoted member.1).toList ++
      ':' :: (chars member.2 ++ ',' :: charsOfMembers (next :: rest)) := by
  rw [charsOfMembers]
  exact List.cons_ne_nil next rest

/-- Written items are read up to the bracket behind them. -/
theorem readItems_chars {items : List Json} (nonempty : items ≠ [])
    (all : ∀ item ∈ items, IsRead item) {steps : Nat} (read : List Json) (rest : List Char)
    (enough : (charsOfItems items).length < steps) :
    readItems steps read (charsOfItems items ++ ']' :: rest) =
      (array (read.reverse ++ items), some rest) := by
  induction items generalizing steps read with
  | nil => exact absurd rfl nonempty
  | cons item items ih =>
    obtain ⟨steps, rfl⟩ := Nat.exists_eq_succ_of_ne_zero (Nat.ne_of_gt (Nat.zero_lt_of_lt enough))
    have first := all item List.mem_cons_self
    cases items with
    | nil =>
      have ends : Ends (']' :: rest) := by simp [Ends]
      rw [charsOfItems] at enough ⊢
      rw [readItems_last read (first.read ends (Nat.le_of_lt_succ enough)), List.reverse_cons]
    | cons next items =>
      have ends : Ends (',' :: (charsOfItems (next :: items) ++ ']' :: rest)) := by simp [Ends]
      rw [charsOfItems_cons_cons] at enough ⊢
      rw [List.length_append, List.length_cons] at enough
      rw [List.append_assoc, List.cons_append,
        readItems_more read (first.read ends (by omega)),
        ih (List.cons_ne_nil next items)
          (fun other member => all other (List.mem_cons_of_mem item member)) (item :: read)
          (by omega)]
      simp

/-- Written members are read up to the bracket behind them. -/
theorem readMembers_chars {members : List (String × Json)} (nonempty : members ≠ [])
    (all : ∀ member ∈ members, IsRead member.2) {steps : Nat} (read : List (String × Json))
    (rest : List Char) (enough : (charsOfMembers members).length < steps) :
    readMembers steps read (charsOfMembers members ++ '\x7d' :: rest) =
      (object (read.reverse ++ members), some rest) := by
  induction members generalizing steps read with
  | nil => exact absurd rfl nonempty
  | cons first members ih =>
    obtain ⟨name, value⟩ := first
    obtain ⟨steps, rfl⟩ := Nat.exists_eq_succ_of_ne_zero (Nat.ne_of_gt (Nat.zero_lt_of_lt enough))
    have first : IsRead value := all (name, value) List.mem_cons_self
    cases members with
    | nil =>
      have ends : Ends ('\x7d' :: rest) := by simp [Ends]
      rw [charsOfMembers] at enough ⊢
      rw [List.length_append, List.length_cons] at enough
      rw [List.append_assoc, List.cons_append,
        readMembers_last read (readName?_quoted name _) (first.read ends (by omega)),
        List.reverse_cons]
    | cons next members =>
      have ends : Ends (',' :: (charsOfMembers (next :: members) ++ '\x7d' :: rest)) := by
        simp [Ends]
      rw [charsOfMembers_cons_cons] at enough ⊢
      simp only [List.length_append, List.length_cons] at enough
      rw [List.append_assoc, List.cons_append, List.append_assoc, List.cons_append,
        readMembers_more read (readName?_quoted name _) (first.read ends (by omega)),
        ih (List.cons_ne_nil next members)
          (fun other member => all other (List.mem_cons_of_mem _ member)) ((name, value) :: read)
          (by omega)]
      simp

theorem isRead_null : IsRead null :=
  isRead_of_succ rfl rfl (by decide) fun _ _ => by
    rw [readValue]
    rfl

theorem isRead_bool (value : Bool) : IsRead (bool value) := by
  cases value with
  | false =>
    refine isRead_of_succ rfl rfl (by decide) fun _ _ => ?_
    rw [readValue]
    rfl
  | true =>
    refine isRead_of_succ rfl rfl (by decide) fun _ _ => ?_
    rw [readValue]
    rfl

theorem isRead_array {items : List Json} (all : ∀ item ∈ items, IsRead item) :
    IsRead (array items) := by
  refine isRead_of_succ rfl rfl (by decide) fun {steps rest} _ enough => ?_
  rw [chars] at enough ⊢
  simp only [List.length_cons, List.length_append, List.length_nil] at enough
  rw [List.cons_append, List.append_assoc, List.singleton_append]
  cases items with
  | nil =>
    rw [charsOfItems, List.nil_append, readValue]
    rfl
  | cons item items =>
    have start : ∃ c more, charsOfItems (item :: items) ++ ']' :: rest = c :: more ∧
        isSpace c = false ∧ c ≠ ']' := by
      obtain ⟨c, more, text, shown, opened⟩ := (all item List.mem_cons_self).start
      cases items with
      | nil => exact ⟨c, _, by rw [charsOfItems, text]; rfl, shown, opened⟩
      | cons next items => exact ⟨c, _, by rw [charsOfItems_cons_cons, text]; rfl, shown, opened⟩
    obtain ⟨c, more, text, shown, opened⟩ := start
    rw [text, readValue_items shown opened, ← text,
      readItems_chars (List.cons_ne_nil item items) all [] rest (by omega)]
    rfl

theorem isRead_object {members : List (String × Json)} (all : ∀ member ∈ members, IsRead member.2) :
    IsRead (object members) := by
  refine isRead_of_succ rfl rfl (by decide) fun {steps rest} _ enough => ?_
  rw [chars] at enough ⊢
  simp only [List.length_cons, List.length_append, List.length_nil] at enough
  rw [List.cons_append, List.append_assoc, List.singleton_append]
  cases members with
  | nil =>
    rw [charsOfMembers, List.nil_append, readValue]
    rfl
  | cons member members =>
    have start : ∃ more, charsOfMembers (member :: members) ++ '\x7d' :: rest = '\x22' :: more := by
      cases members with
      | nil => exact ⟨_, by rw [charsOfMembers, toList_quoted]; rfl⟩
      | cons next members => exact ⟨_, by rw [charsOfMembers_cons_cons, toList_quoted]; rfl⟩
    obtain ⟨more, text⟩ := start
    rw [text, readValue_members, ← text,
      readMembers_chars (List.cons_ne_nil member members) all [] rest (by omega)]
    rfl

/-- A proper value is read from its text, if the doubles in it are read from theirs. -/
theorem Proper.isRead {json : Json} (proper : json.Proper ReadsBack) : IsRead json := by
  induction proper with
  | null => exact isRead_null
  | bool value => exact isRead_bool value
  | int low high => exact isRead_number (readNumber?_int low high)
  | float faithful =>
    refine isRead_number ?_
    rw [numberText, if_pos faithful.finite]
    exact faithful.read
  | text value => exact isRead_text value
  | array _ ih => exact isRead_array ih
  | object _ _ ih => exact isRead_object ih

/-- Reading the text of a proper value is reading the value. -/
theorem Proper.decode_toText {β : Type} {json : Json} (proper : json.Proper ReadsBack)
    (read : Json → Except ReadError β) : decode read json.toText = read json := by
  have whole : readValue (2 * (chars json).length + 2) (chars json ++ []) = (json, some []) :=
    proper.isRead.read (by simp [Ends]) (by omega)
  rw [List.append_nil] at whole
  rw [decode]
  simp only [toList_toText, whole]
  cases read json with
  | error error => rfl
  | ok found => rfl

end Json

end GossipGate
