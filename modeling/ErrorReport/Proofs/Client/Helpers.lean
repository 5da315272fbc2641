import ErrorReport.Client.Helpers
import Mathlib.Data.List.Nodup

/-!
# Helpers as a list

What is done to a set of helpers can be told from a plain list of them and from copies of that list:
registering puts a helper at the end, removing takes it out, a snapshot is a copy, and a run goes
through the list as it is at the start.  `PlainHelpers` does just that, and a `HelperState` cannot be
told from it, even by helpers that change the set, look at snapshots or have helpers called while they
are called themselves.

* `HelperSet.ids_add`, `HelperSet.remove_eq` — what becomes of the list.
* `HelperState.Tracks` — what acts leave behind, compared with what they leave of a plain list;
  `tracks_perform` is by induction on the acts.
* `HelperState.acts_as_list` — the comparison, and what it means for registering, removing, running and
  looking at snapshots.
-/

set_option autoImplicit false

namespace ErrorReport

namespace HelperSet

variable {s t : HelperSet} {id : String}

theorem ids_nodup (s : HelperSet) : s.ids.Nodup := s.read_nodup _

@[simp] theorem ids_replace (s : HelperSet) (list : List String) (h : list.Nodup) :
    (s.replace list h).ids = list := by
  simp [ids, read, replace]

/-- A helper that is registered is not registered again. -/
theorem add_of_mem (h : id ∈ s.ids) : s.add id = s := dif_pos h

/-- A new helper comes last. -/
theorem ids_add_of_notMem (h : id ∉ s.ids) : (s.add id).ids = s.ids ++ [id] := by
  simp [add, h]

theorem ids_add (s : HelperSet) (id : String) :
    (s.add id).ids = if id ∈ s.ids then s.ids else s.ids ++ [id] := by
  split
  · rw [add_of_mem ‹_›]
  · exact ids_add_of_notMem ‹_›

/-- Removing tells whether a helper was registered, and leaves the others in their order. -/
theorem remove_eq (s : HelperSet) (id : String) :
    (s.remove id).1 = decide (id ∈ s.ids) ∧ (s.remove id).2.ids = s.ids.filter (· != id) := by
  have hrest := List.erase_eq_eraseIdx s.ids id
  rw [s.ids_nodup.erase_eq_filter] at hrest
  have hmem : (s.ids.findIdx? (· == id)).isSome = true ↔ id ∈ s.ids := List.isSome_idxOf?
  rw [hrest, List.idxOf?, remove]
  cases hplace : s.ids.findIdx? (· == id) with
  | some place => exact ⟨(decide_eq_true (hmem.1 (by rw [hplace]; rfl))).symm, by simp⟩
  | none =>
    have hnot : id ∉ s.ids := fun h => by simpa [hplace] using hmem.2 h
    exact ⟨(decide_eq_false hnot).symm, rfl⟩

/-- A snapshot stays what it was when more lists are added. -/
theorem read_of_prefix (h : s.lists <+: t.lists) {snapshot : Nat} (hlt : snapshot < s.lists.length) :
    t.read snapshot = s.read snapshot := by
  obtain ⟨more, hmore⟩ := h
  rw [read, read, ← hmore, List.getElem?_append_left hlt]

end HelperSet

/-- Helpers in the order they were registered, copies of that list, and a builder. -/
structure PlainHelpers where
  ids : List String
  copies : List (List String)
  builder : EventBuilder

namespace PlainHelpers

mutual

/-- One act. -/
def perform (p : PlainHelpers) : HelperAct → HelperNote × PlainHelpers
  | .edit change => (.edited, { p with builder := change p.builder })
  | .add id => (.added, { p with ids := if id ∈ p.ids then p.ids else p.ids ++ [id] })
  | .remove id => (.removed (decide (id ∈ p.ids)), { p with ids := p.ids.filter (· != id) })
  | .keep => (.found (some p.ids), { p with copies := p.copies ++ [p.ids] })
  | .recall place => (.found p.copies[place]?, p)
  | .run conducts =>
    let (calls, last) := p.callEach p.ids conducts
    (.ran calls, last)

/-- Acts one after the other. -/
def performAll (p : PlainHelpers) : List HelperAct → List HelperNote × PlainHelpers
  | [] => ([], p)
  | act :: rest =>
    let (note, next) := p.perform act
    let (notes, last) := next.performAll rest
    (note :: notes, last)

/-- Calls some helpers one after the other, whatever becomes of the list. -/
def callEach (p : PlainHelpers) (ids : List String) :
    List (List HelperAct) → List (String × List HelperNote) × PlainHelpers
  | [] => (ids.map (·, []), p)
  | conduct :: rest =>
    match ids with
    | [] => ([], p)
    | id :: others =>
      let (notes, next) := p.performAll conduct
      let (calls, last) := next.callEach others rest
      ((id, notes) :: calls, last)

end

/-- Each helper is called once, in the order of the list. -/
theorem callEach_fst (p : PlainHelpers) (ids : List String) (conducts : List (List HelperAct)) :
    (p.callEach ids conducts).1.map Prod.fst = ids := by
  induction conducts generalizing p ids with
  | nil => simp [callEach, Function.comp_def]
  | cons conduct rest ih =>
    cases ids with
    | nil => simp [callEach]
    | cons id others => simp [callEach, ih]

end PlainHelpers

namespace HelperState

/-- The list of helpers, and copies of it instead of snapshots. -/
def plain (s : HelperState) : PlainHelpers where
  ids := s.set.ids
  copies := s.kept.map s.set.read
  builder := s.builder

/-- What comes of acts, and what they leave behind, is what comes of them with a plain list; and only
new lists were added to the set. -/
structure Tracks {α : Type} (s : HelperState) (result : α × HelperState)
    (expected : α × PlainHelpers) : Prop where
  notes : result.1 = expected.1
  plain : result.2.plain = expected.2
  grows : s.set.lists <+: result.2.set.lists

/-- Snapshots that were kept stay what they were when the set is changed. -/
theorem plain_withSet (s : HelperState) (set : HelperSet) (h : s.set.lists <+: set.lists) :
    (s.withSet set h).plain = { s.plain with ids := set.ids } := by
  have hkept : s.kept.map set.read = s.kept.map s.set.read :=
    List.map_congr_left fun snapshot hsnapshot =>
      HelperSet.read_of_prefix h (s.kept_lt snapshot hsnapshot)
  simp [plain, withSet, hkept]

theorem plain_keep (s : HelperState) :
    s.keep.plain = { s.plain with copies := s.plain.copies ++ [s.set.ids] } := by
  simp [plain, keep, HelperSet.ids]

mutual

theorem tracks_perform (s : HelperState) (act : HelperAct) :
    Tracks s (s.perform act) (s.plain.perform act) := by
  match act with
  | .edit change =>
    simp only [perform, PlainHelpers.perform]
    exact ⟨rfl, rfl, List.prefix_refl _⟩
  | .add id =>
    simp only [perform, PlainHelpers.perform]
    refine ⟨rfl, ?_, s.set.lists_prefix_add id⟩
    rw [plain_withSet, HelperSet.ids_add]
    rfl
  | .remove id =>
    simp only [perform, PlainHelpers.perform]
    obtain ⟨hanswer, hids⟩ := s.set.remove_eq id
    refine ⟨by rw [hanswer]; rfl, ?_, s.set.lists_prefix_remove id⟩
    rw [plain_withSet, hids]
    rfl
  | .keep =>
    simp only [perform, PlainHelpers.perform]
    exact ⟨rfl, s.plain_keep, List.prefix_refl _⟩
  | .recall place =>
    simp only [perform, PlainHelpers.perform]
    exact ⟨by simp [plain], rfl, List.prefix_refl _⟩
  | .run conducts =>
    have hcalls := tracks_callFrom s s.set.current_lt 0 conducts
    simp only [perform, PlainHelpers.perform]
    exact ⟨congrArg HelperNote.ran hcalls.notes, hcalls.plain, hcalls.grows⟩

theorem tracks_performAll (s : HelperState) (acts : List HelperAct) :
    Tracks s (s.performAll acts) (s.plain.performAll acts) := by
  match acts with
  | [] =>
    simp only [performAll, PlainHelpers.performAll]
    exact ⟨rfl, rfl, List.prefix_refl _⟩
  | act :: rest =>
    have hfirst := tracks_perform s act
    have hrest := tracks_performAll (s.perform act).2 rest
    rw [hfirst.plain] at hrest
    simp only [performAll, PlainHelpers.performAll]
    exact ⟨by rw [hfirst.notes, hrest.notes], hrest.plain, hfirst.grows.trans hrest.grows⟩

theorem tracks_callFrom (s : HelperState) {snapshot : Nat} (hlt : snapshot < s.set.lists.length)
    (place : Nat) (conducts : List (List HelperAct)) :
    Tracks s (s.callFrom snapshot place conducts)
      (s.plain.callEach ((s.set.read snapshot).drop place) conducts) := by
  match conducts with
  | [] =>
    simp only [callFrom, PlainHelpers.callEach]
    exact ⟨rfl, rfl, List.prefix_refl _⟩
  | conduct :: rest =>
    simp only [callFrom]
    cases hplace : (s.set.read snapshot)[place]? with
    | none =>
      rw [List.drop_eq_nil_of_le (List.getElem?_eq_none_iff.1 hplace)]
      simp only [PlainHelpers.callEach]
      exact ⟨rfl, rfl, List.prefix_refl _⟩
    | some id =>
      obtain ⟨hin, hid⟩ := List.getElem?_eq_some_iff.1 hplace
      have hfirst := tracks_performAll s conduct
      -- what the helper did may have put a new list in place, but not in the place of the snapshot
      have hrest := tracks_callFrom (s.performAll conduct).2
        (Nat.lt_of_lt_of_le hlt hfirst.grows.length_le) (place + 1) rest
      rw [hfirst.plain, HelperSet.read_of_prefix hfirst.grows hlt] at hrest
      rw [List.drop_eq_getElem_cons hin, hid]
      simp only [PlainHelpers.callEach]
      exact ⟨by rw [hfirst.notes, hrest.notes], hrest.plain, hfirst.grows.trans hrest.grows⟩

end

/-- What it means for a set of helpers to be a list without repetitions. -/
structure ActsAsList (s : HelperState) : Prop where
  /-- What comes of acts is what comes of them with a plain list, whatever helpers do in them. -/
  tracks (acts : List HelperAct) : Tracks s (s.performAll acts) (s.plain.performAll acts)
  nodup : s.set.ids.Nodup
  add_present (id : String) : id ∈ s.set.ids → s.set.add id = s.set
  add_absent (id : String) : id ∉ s.set.ids → (s.set.add id).ids = s.set.ids ++ [id]
  remove_answer (id : String) : (s.set.remove id).1 = true ↔ id ∈ s.set.ids
  remove_rest (id : String) : (s.set.remove id).2.ids = s.set.ids.filter (· != id)
  /-- A run calls the helpers that are registered at its start. -/
  run (conducts : List (List HelperAct)) :
    ∃ calls, (s.perform (.run conducts)).1 = .ran calls ∧ calls.map Prod.fst = s.set.ids
  /-- A snapshot that was taken earlier never changes. -/
  snapshot (taken : Nat) : taken < s.set.lists.length → ∀ acts : List HelperAct,
    (s.performAll acts).2.set.read taken = s.set.read taken

theorem exists_ran (s : HelperState) (conducts : List (List HelperAct)) :
    ∃ calls, (s.perform (.run conducts)).1 = .ran calls ∧ calls.map Prod.fst = s.set.ids := by
  refine ⟨(s.plain.callEach s.set.ids conducts).1, ?_, PlainHelpers.callEach_fst ..⟩
  rw [(s.tracks_perform (.run conducts)).notes, PlainHelpers.perform]
  rfl

/-- **Helpers behave as a list without repetitions.**  This is said of every state, so also of those
that a helper finds while it is called. -/
theorem acts_as_list (s : HelperState) : ActsAsList s where
  tracks := s.tracks_performAll
  nodup := s.set.ids_nodup
  add_present _ := HelperSet.add_of_mem
  add_absent _ := HelperSet.ids_add_of_notMem
  remove_answer id := by rw [(s.set.remove_eq id).1, decide_eq_true_iff]
  remove_rest id := (s.set.remove_eq id).2
  run := s.exists_ran
  snapshot _ hlt acts := HelperSet.read_of_prefix (s.tracks_performAll acts).grows hlt

/-- A helper that removes another one and registers a third changes who is called in the next run. -/
example (b : EventBuilder) :
    (HelperState.performAll { builder := b }
      [.add "a", .add "b", .add "a", .run [[.remove "b", .add "c"]], .run []]).1
      = [.added, .added, .added, .ran [("a", [.removed true, .added]), ("b", [])],
          .ran [("a", []), ("c", [])]] := by cbv

end HelperState
end ErrorReport
