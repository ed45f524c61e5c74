namespace GossipGate

/-- A finite map as a list of pairs in the order in which their keys were first inserted. No key
occurs twice. -/
structure Table (κ ν : Type) where
  entries : List (κ × ν)
  nodup : (entries.map Prod.fst).Nodup

namespace Table

variable {κ ν : Type}

@[ext] theorem ext {a b : Table κ ν} (same : a.entries = b.entries) : a = b := by
  cases a; cases b; simp_all

def empty : Table κ ν := ⟨[], .nil⟩

instance : Inhabited (Table κ ν) := ⟨empty⟩

def size (t : Table κ ν) : Nat := t.entries.length
def keys (t : Table κ ν) : List κ := t.entries.map Prod.fst
def values (t : Table κ ν) : List ν := t.entries.map Prod.snd

/-- Keeps the pairs that pass a test. -/
def filter (t : Table κ ν) (keep : κ → ν → Bool) : Table κ ν :=
  ⟨t.entries.filter fun p => keep p.1 p.2, t.nodup.sublist (List.filter_sublist.map _)⟩

/-- Replaces every value by a function of its key and itself. -/
def mapValues (t : Table κ ν) (f : κ → ν → ν) : Table κ ν :=
  ⟨t.entries.map fun p => (p.1, f p.1 p.2), by simpa [Function.comp_def] using t.nodup⟩

variable [DecidableEq κ]

def get? (t : Table κ ν) (key : κ) : Option ν := t.entries.lookup key

def contains (t : Table κ ν) (key : κ) : Bool := (t.get? key).isSome

/-- Replaces the value of one key, if the key is there. -/
def modify (t : Table κ ν) (key : κ) (f : ν → ν) : Table κ ν :=
  t.mapValues fun k v => if k = key then f v else v

/-- Removes one key. -/
def erase (t : Table κ ν) (key : κ) : Table κ ν := t.filter fun k _ => k ≠ key

theorem lookup_cons (key k : κ) (v : ν) (rest : List (κ × ν)) :
    List.lookup key ((k, v) :: rest) = if key = k then some v else List.lookup key rest := by
  by_cases h : key = k
  · subst h; simp
  · have apart : (key == k) = false := by simp [h]
    simp only [List.lookup_cons, apart, h, if_false]

theorem get?_eq_none_iff {t : Table κ ν} {key : κ} : t.get? key = none ↔ key ∉ t.keys := by
  unfold get? keys
  induction t.entries with
  | nil => simp
  | cons pair rest ih =>
    obtain ⟨k, v⟩ := pair
    by_cases h : key = k <;> simp_all [lookup_cons]

/-- Gives a key its value: in place if the key is there, else after all others. -/
def insert (t : Table κ ν) (key : κ) (value : ν) : Table κ ν :=
  if absent : t.get? key = none then
    ⟨t.entries ++ [(key, value)], by
      have new := get?_eq_none_iff.1 absent
      simp only [List.map_append, List.map_cons, List.map_nil, List.nodup_append, t.nodup, true_and]
      unfold keys at new
      grind⟩
  else t.modify key fun _ => value

/-- The table of a list of pairs, the last pair of a key deciding its value. -/
def ofList (pairs : List (κ × ν)) : Table κ ν :=
  pairs.foldl (fun t p => t.insert p.1 p.2) empty

/-- Adds all pairs of another table, which decides the values of common keys. -/
def union (t other : Table κ ν) : Table κ ν :=
  other.entries.foldl (fun t p => t.insert p.1 p.2) t

theorem mem_entries_iff {t : Table κ ν} {key : κ} {value : ν} :
    (key, value) ∈ t.entries ↔ t.get? key = some value := by
  obtain ⟨entries, nodup⟩ := t
  unfold get?
  dsimp only
  induction entries with
  | nil => simp
  | cons pair rest ih =>
    obtain ⟨k, v⟩ := pair
    simp only [List.map_cons, List.nodup_cons] at nodup
    have inRest := ih nodup.2
    by_cases h : key = k
    · subst h
      have absent : (key, value) ∉ rest := fun member =>
        nodup.1 (List.mem_map.2 ⟨_, member, rfl⟩)
      simp [absent, eq_comm]
    · simp [lookup_cons, h, inRest]

theorem get?_empty (key : κ) : (empty : Table κ ν).get? key = none := rfl

theorem get?_mapValues (t : Table κ ν) (f : κ → ν → ν) (key : κ) :
    (t.mapValues f).get? key = (t.get? key).map (f key) := by
  unfold get? mapValues
  dsimp only
  induction t.entries with
  | nil => rfl
  | cons pair rest ih =>
    obtain ⟨k, v⟩ := pair
    by_cases h : key = k
    · subst h; simp
    · simp [lookup_cons, h, ih]

theorem get?_modify (t : Table κ ν) (key other : κ) (f : ν → ν) :
    (t.modify key f).get? other = if other = key then (t.get? other).map f else t.get? other := by
  unfold modify
  rw [get?_mapValues]
  split
  · rfl
  · cases t.get? other <;> rfl

theorem get?_insert (t : Table κ ν) (key other : κ) (value : ν) :
    (t.insert key value).get? other = if other = key then some value else t.get? other := by
  unfold insert
  split
  · rename_i absent
    unfold get? at absent ⊢
    dsimp only
    rw [List.lookup_append]
    by_cases h : other = key
    · subst h; simp [absent]
    · simp [lookup_cons, h]
  · rename_i present
    rw [get?_modify]
    by_cases h : other = key
    · subst h
      cases found : t.get? other with
      | none => exact absurd found present
      | some old => simp
    · simp [h]

theorem get?_filter (t : Table κ ν) (keep : κ → ν → Bool) (key : κ) :
    (t.filter keep).get? key = (t.get? key).filter (keep key) := by
  apply Option.ext
  intro value
  rw [Option.filter_eq_some_iff, ← mem_entries_iff, ← mem_entries_iff]
  simp [filter]

theorem get?_erase (t : Table κ ν) (key other : κ) :
    (t.erase key).get? other = if other = key then none else t.get? other := by
  unfold erase
  rw [get?_filter]
  by_cases h : other = key
  · subst h; cases t.get? other <;> simp
  · cases t.get? other <;> simp [h]

end Table

end GossipGate
