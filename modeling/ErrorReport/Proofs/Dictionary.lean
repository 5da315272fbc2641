import ErrorReport.TextSet
import Mathlib.Data.List.Basic

/-!
# What a dictionary is determined by

A dictionary is its entries, and its entries are what a look-up sees (`get?_eq_some_iff`), so two
dictionaries are the same if no look-up tells them apart (`ext_get?`).  After entering pairs one
after the other a look-up sees the last one of its key (`get?_ofList`); hence the entries of a
dictionary, entered anew, give the dictionary again.
-/

set_option autoImplicit false

namespace ErrorReport

namespace Dictionary

variable {α : Type}

theorem ext_entries {a b : Dictionary α} (h : a.entries = b.entries) : a = b := by
  cases a
  cases b
  simp_all

theorem lookup_of_mem {s : List (String × α)} (hs : s.Pairwise (fun a b => a.1 < b.1))
    {key : String} {value : α} (h : (key, value) ∈ s) : s.lookup key = some value := by
  induction s with
  | nil => exact absurd h (by simp)
  | cons e s ih =>
    obtain ⟨hfirst, hrest⟩ := List.pairwise_cons.1 hs
    rcases List.mem_cons.1 h with rfl | h
    · rw [List.lookup_cons, beq_self_eq_true]
    · have hne : key ≠ e.1 := fun heq => Std.lt_irrefl (heq ▸ hfirst _ h : e.1 < e.1)
      rw [List.lookup_cons, beq_eq_false_iff_ne.2 hne]
      exact ih hrest h

theorem mem_of_lookup {s : List (String × α)} {key : String} {value : α}
    (h : s.lookup key = some value) : (key, value) ∈ s := by
  induction s with
  | nil => exact absurd h (by simp)
  | cons e s ih =>
    obtain ⟨k, v⟩ := e
    rw [List.lookup_cons] at h
    by_cases hk : key = k
    · rw [hk, beq_self_eq_true] at h
      rw [hk, Option.some.inj h]
      exact List.mem_cons_self
    · rw [beq_eq_false_iff_ne.2 hk] at h
      exact List.mem_cons_of_mem _ (ih h)

/-- A look-up finds the entries and nothing else. -/
theorem get?_eq_some_iff {d : Dictionary α} {key : String} {value : α} :
    d.get? key = some value ↔ (key, value) ∈ d.entries :=
  ⟨mem_of_lookup, lookup_of_mem d.ascending⟩

/-! ## Equality -/

theorem eq_of_mem_iff {s t : List (String × α)} (hs : s.Pairwise (fun a b => a.1 < b.1))
    (ht : t.Pairwise (fun a b => a.1 < b.1)) (h : ∀ e, e ∈ s ↔ e ∈ t) : s = t := by
  induction s generalizing t with
  | nil =>
    cases t with
    | nil => rfl
    | cons f t => exact absurd ((h f).2 List.mem_cons_self) (by simp)
  | cons e s ih =>
    cases t with
    | nil => exact absurd ((h e).1 List.mem_cons_self) (by simp)
    | cons f t =>
      obtain ⟨hes, hs'⟩ := List.pairwise_cons.1 hs
      obtain ⟨hft, ht'⟩ := List.pairwise_cons.1 ht
      -- the least entry of either list is an entry of the other
      have hef : e = f := by
        rcases List.mem_cons.1 ((h e).1 List.mem_cons_self) with heq | he
        · exact heq
        · rcases List.mem_cons.1 ((h f).2 List.mem_cons_self) with heq | hf
          · exact heq.symm
          · exact absurd (Std.lt_trans (hft e he) (hes f hf)) (Std.lt_irrefl)
      subst hef
      have hrest : ∀ g, g ∈ s ↔ g ∈ t := by
        intro g
        constructor
        · intro hg
          rcases List.mem_cons.1 ((h g).1 (List.mem_cons_of_mem _ hg)) with rfl | hg'
          · exact absurd (hes g hg) Std.lt_irrefl
          · exact hg'
        · intro hg
          rcases List.mem_cons.1 ((h g).2 (List.mem_cons_of_mem _ hg)) with rfl | hg'
          · exact absurd (hft g hg) Std.lt_irrefl
          · exact hg'
      rw [ih hs' ht' hrest]

/-- **A dictionary is what a look-up sees of it.** -/
theorem ext_get? {a b : Dictionary α} (h : ∀ key, a.get? key = b.get? key) : a = b := by
  refine ext_entries (eq_of_mem_iff a.ascending b.ascending fun e => ?_)
  rw [← get?_eq_some_iff, ← get?_eq_some_iff, h]

/-- A look-up among other values finds what has become of the one under its key. -/
theorem get?_mapValues {β : Type} (f : α → β) (d : Dictionary α) (key : String) :
    (d.mapValues f).get? key = (d.get? key).map f := by
  refine Option.ext fun value => ?_
  rw [get?_eq_some_iff, mapValues, List.mem_map, Option.map_eq_some_iff]
  constructor
  · rintro ⟨⟨k, v⟩, hmem, heq⟩
    obtain ⟨rfl, rfl⟩ := Prod.mk.inj heq
    exact ⟨v, get?_eq_some_iff.2 hmem, rfl⟩
  · rintro ⟨v, hget, rfl⟩
    exact ⟨(key, v), get?_eq_some_iff.1 hget, rfl⟩

/-! ## Entering pairs -/

theorem ofList_concat (pairs : List (String × α)) (pair : String × α) :
    ofList (pairs ++ [pair]) = (ofList pairs).insert pair.1 pair.2 := by
  rw [ofList, List.foldl_append]
  rfl

/-- An entry that is put into a dictionary stands over what was there. -/
theorem get?_insert_or (d : Dictionary α) (key other : String) (value : α) :
    (d.insert key value).get? other =
      (((∅ : Dictionary α).insert key value).get? other).or (d.get? other) := by
  rw [get?_insert, get?_insert]
  split <;> rfl

theorem get?_foldl_insert (pairs : List (String × α)) (d : Dictionary α) (key : String) :
    (pairs.foldl (fun d p => d.insert p.1 p.2) d).get? key =
      (pairs.reverse.lookup key).or (d.get? key) := by
  induction pairs generalizing d with
  | nil => rfl
  | cons pair pairs ih =>
    rw [List.foldl_cons, ih, get?_insert, List.reverse_cons, List.lookup_append]
    cases pairs.reverse.lookup key with
    | some value => rfl
    | none =>
      by_cases hkey : key = pair.1
      · rw [if_pos hkey, hkey, List.lookup_cons, beq_self_eq_true]
        rfl
      · rw [if_neg hkey, List.lookup_cons, beq_eq_false_iff_ne.2 hkey]
        rfl

/-- **The last value of a key stays.** -/
theorem get?_ofList (pairs : List (String × α)) (key : String) :
    (ofList pairs).get? key = pairs.reverse.lookup key := by
  rw [ofList, get?_foldl_insert]
  exact Option.or_none

/-- The entries of a dictionary, entered anew, are the dictionary. -/
theorem ofList_entries (d : Dictionary α) : ofList d.entries = d := by
  refine ext_get? fun key => ?_
  rw [get?_ofList]
  cases hget : d.get? key with
  | some value =>
    have hmem : (key, value) ∈ d.entries := get?_eq_some_iff.1 hget
    have hlookup : ∃ v, d.entries.reverse.lookup key = some v := by
      by_contra hnone
      simp only [not_exists, ← Option.eq_none_iff_forall_ne_some] at hnone
      rw [List.lookup_eq_none_iff] at hnone
      have := hnone _ (List.mem_reverse.2 hmem)
      simp at this
    obtain ⟨v, hv⟩ := hlookup
    have hin := List.mem_reverse.1 (mem_of_lookup hv)
    rw [hv, ← get?_eq_some_iff.2 hin, hget]
  | none =>
    cases hlookup : d.entries.reverse.lookup key with
    | none => rfl
    | some v =>
      have hin := List.mem_reverse.1 (mem_of_lookup hlookup)
      rw [get?_eq_some_iff.2 hin] at hget
      exact absurd hget (by simp)

end Dictionary

namespace TextSet

theorem get?_foldl_add (texts : List String) (s : TextSet) (text : String) :
    (texts.foldl add s).get? text = if text ∈ texts then some () else s.get? text := by
  induction texts generalizing s with
  | nil => simp
  | cons first texts ih =>
    rw [List.foldl_cons, ih, add, Dictionary.get?_insert]
    by_cases hmem : text ∈ texts
    · rw [if_pos hmem, if_pos (List.mem_cons_of_mem _ hmem)]
    · by_cases hfirst : text = first
      · rw [if_neg hmem, if_pos hfirst, if_pos (hfirst ▸ List.mem_cons_self)]
      · rw [if_neg hmem, if_neg hfirst, if_neg]
        rw [List.mem_cons, not_or]
        exact ⟨hfirst, hmem⟩

theorem get?_ofList (texts : List String) (text : String) :
    (ofList texts).get? text = if text ∈ texts then some () else none :=
  get?_foldl_add texts Dictionary.empty text

/-- A set is its members. -/
theorem mem_toList {s : TextSet} {text : String} : text ∈ s.toList ↔ s.get? text = some () := by
  rw [Dictionary.get?_eq_some_iff, toList, Dictionary.keys, List.mem_map]
  constructor
  · rintro ⟨⟨key, _⟩, hmem, rfl⟩
    exact hmem
  · intro hmem
    exact ⟨(text, ()), hmem, rfl⟩

theorem mem_toList_ofList {texts : List String} {text : String} :
    text ∈ (ofList texts).toList ↔ text ∈ texts := by
  rw [mem_toList, get?_ofList]
  by_cases h : text ∈ texts
  · rw [if_pos h]; exact ⟨fun _ => h, fun _ => rfl⟩
  · rw [if_neg h]; exact ⟨fun h' => absurd h' (by simp), fun h' => absurd h' h⟩

/-- **The order and the repetitions of a list do not matter to its set.** -/
theorem ofList_eq {s : TextSet} {texts : List String} (h : ∀ text, text ∈ texts ↔ text ∈ s.toList) :
    ofList texts = s := by
  refine Dictionary.ext_get? fun text => ?_
  rw [get?_ofList]
  by_cases hmem : text ∈ texts
  · rw [if_pos hmem, mem_toList.1 ((h text).1 hmem)]
  · rw [if_neg hmem]
    cases hget : s.get? text with
    | none => rfl
    | some u => exact absurd ((h text).2 (mem_toList.2 hget)) hmem

end TextSet

end ErrorReport
