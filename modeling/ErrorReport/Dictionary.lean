/-!
# Maps with sorted keys

A `Dictionary` keeps its entries in strictly ascending order of their keys, which for texts is both
the order of code points and the order of UTF-8 bytes.  So a dictionary has one form for each finite
map, and whatever is written from it has its members sorted and pairwise distinct.

`get?_insert` describes insertion by what a look-up sees.
-/

set_option autoImplicit false

namespace ErrorReport

/-- A finite map from texts, its entries in strictly ascending order of the keys. -/
structure Dictionary (α : Type) where
  /-- The entries. -/
  entries : List (String × α)
  /-- Each key comes before all later ones. -/
  ascending : entries.Pairwise (fun a b => a.1 < b.1)

namespace Dictionary

variable {α β : Type}

/-- No entries. -/
def empty : Dictionary α := ⟨[], .nil⟩

instance : Inhabited (Dictionary α) := ⟨empty⟩
instance : EmptyCollection (Dictionary α) := ⟨empty⟩

instance [DecidableEq α] : DecidableEq (Dictionary α) := fun a b =>
  if h : a.entries = b.entries then
    isTrue (by cases a; cases b; simp_all)
  else isFalse (fun e => h (e ▸ rfl))

/-- Puts an entry where its key belongs, in place of an entry of the same key. -/
def insertSorted (key : String) (value : α) : List (String × α) → List (String × α)
  | [] => [(key, value)]
  | (k, v) :: rest =>
    if key < k then (key, value) :: (k, v) :: rest
    else if k = key then (key, value) :: rest
    else (k, v) :: insertSorted key value rest

theorem mem_insertSorted {key : String} {value : α} {s : List (String × α)} {e : String × α}
    (h : e ∈ insertSorted key value s) : e.1 = key ∨ e ∈ s := by
  induction s with
  | nil => simp_all [insertSorted]
  | cons p rest ih =>
    obtain ⟨k, v⟩ := p
    unfold insertSorted at h
    split at h
    · simp_all; grind
    · split at h
      · simp_all; grind
      · simp_all; grind

theorem insertSorted_ascending (key : String) (value : α) {s : List (String × α)}
    (h : s.Pairwise (fun a b => a.1 < b.1)) :
    (insertSorted key value s).Pairwise (fun a b => a.1 < b.1) := by
  induction s with
  | nil => simp [insertSorted]
  | cons p rest ih =>
    obtain ⟨k, v⟩ := p
    rw [List.pairwise_cons] at h
    unfold insertSorted
    split
    · rename_i hlt
      refine List.pairwise_cons.2 ⟨?_, List.pairwise_cons.2 h⟩
      intro e he
      rcases List.mem_cons.1 he with rfl | he
      · exact hlt
      · exact Std.lt_trans hlt (h.1 e he)
    · split
      · rename_i heq
        subst heq
        exact List.pairwise_cons.2 h
      · rename_i hnlt hne
        refine List.pairwise_cons.2 ⟨?_, ih h.2⟩
        intro e he
        rcases mem_insertSorted he with heq | he
        · have : k < key := Std.lt_of_le_of_ne (Std.not_lt.1 hnlt) hne
          simpa [heq] using this
        · exact h.1 e he

/-- The dictionary with `key` holding `value`. -/
def insert (d : Dictionary α) (key : String) (value : α) : Dictionary α :=
  ⟨insertSorted key value d.entries, insertSorted_ascending key value d.ascending⟩

/-- The value under a key. -/
def get? (d : Dictionary α) (key : String) : Option α := d.entries.lookup key

/-- Whether a key has a value. -/
def contains (d : Dictionary α) (key : String) : Bool := (d.get? key).isSome

/-- The keys in ascending order. -/
def keys (d : Dictionary α) : List String := d.entries.map (·.1)

/-- The dictionary without a key. -/
def erase (d : Dictionary α) (key : String) : Dictionary α :=
  ⟨d.entries.filter fun e => e.1 != key, d.ascending.filter _⟩

/-- Enters the pairs one after the other; the last value of a key stays. -/
def ofList (pairs : List (String × α)) : Dictionary α :=
  pairs.foldl (fun d p => d.insert p.1 p.2) empty

/-- Puts `f old` under the key, where `old` is what was there. -/
def modify (d : Dictionary α) (key : String) (f : Option α → α) : Dictionary α :=
  d.insert key (f (d.get? key))

/-- The same keys with other values. -/
def mapValues (f : α → β) (d : Dictionary α) : Dictionary β :=
  ⟨d.entries.map fun e => (e.1, f e.2), by
    rw [List.pairwise_map]
    exact d.ascending⟩

/-- How many entries there are. -/
def size (d : Dictionary α) : Nat := d.entries.length

@[simp] theorem get?_empty (key : String) : (empty : Dictionary α).get? key = none := rfl

theorem lookup_insertSorted (key other : String) (value : α) (s : List (String × α))
    (h : s.Pairwise (fun a b => a.1 < b.1)) :
    (insertSorted key value s).lookup other = if other = key then some value else s.lookup other := by
  induction s with
  | nil =>
    rw [insertSorted, List.lookup_cons, List.lookup_nil]
    by_cases ho : other = key
    · simp [ho]
    · simp [ho, beq_eq_false_iff_ne.2 ho]
  | cons p rest ih =>
    obtain ⟨k, v⟩ := p
    rw [List.pairwise_cons] at h
    unfold insertSorted
    split
    · simp only [List.lookup_cons]
      by_cases ho : other = key
      · simp [ho]
      · simp [ho, beq_eq_false_iff_ne.2 ho]
    · split
      · rename_i heq
        subst heq
        simp only [List.lookup_cons]
        by_cases ho : other = k
        · simp [ho]
        · simp [ho, beq_eq_false_iff_ne.2 ho]
      · rename_i hne
        simp only [List.lookup_cons, ih h.2]
        by_cases ho : other = key
        · subst ho
          have : (other == k) = false := by simpa using fun e => hne e.symm
          simp [this]
        · simp [ho]

/-- A look-up after an insertion sees the new value under its key and the old ones elsewhere. -/
theorem get?_insert (d : Dictionary α) (key other : String) (value : α) :
    (d.insert key value).get? other = if other = key then some value else d.get? other :=
  lookup_insertSorted key other value d.entries d.ascending

theorem keys_ascending (d : Dictionary α) : d.keys.Pairwise (· < ·) := by
  simpa [keys, List.pairwise_map] using d.ascending

theorem keys_nodup (d : Dictionary α) : d.keys.Nodup :=
  (keys_ascending d).imp fun {a b} (h : a < b) (e : a = b) => Std.lt_irrefl (e ▸ h : b < b)

end Dictionary

end ErrorReport
