import ErrorReport.Event.Builder

/-!
# Helpers

A helper has a say in every event before it is built.  A `HelperSet` lists helpers in the order they
were registered, each one once.  Registering or removing a helper puts a new list in the place of the
old one, and whoever looked the old one up keeps it: such a snapshot is the number of a list.

Helpers may do to the set what anybody may do, and have helpers called in their turn.
`HelperState.perform` is one such act.  A run of helpers goes through a snapshot, and calls the helpers
it finds there, whatever becomes of the set meanwhile.
-/

set_option autoImplicit false

namespace ErrorReport

/-- Registered helpers in the order they were registered. -/
structure HelperSet where
  /-- The identities of the helpers, as they are registered now and as they were before each change. -/
  lists : List (List String) := [[]]
  /-- Which list says what is registered now. -/
  current : Nat := 0
  current_lt : current < lists.length := by decide
  nodup : ∀ ids ∈ lists, ids.Nodup := by decide
  deriving DecidableEq

namespace HelperSet

/-- The helpers of a snapshot. -/
def read (s : HelperSet) (snapshot : Nat) : List String := (s.lists[snapshot]?).getD []

theorem read_nodup (s : HelperSet) (snapshot : Nat) : (s.read snapshot).Nodup := by
  unfold read
  cases h : s.lists[snapshot]? with
  | none => exact .nil
  | some ids => exact s.nodup ids (List.mem_of_getElem? h)

/-- The helpers that are registered now. -/
def ids (s : HelperSet) : List String := s.read s.current

/-- Puts a new list in the place of the current one. -/
def replace (s : HelperSet) (ids : List String) (h : ids.Nodup) : HelperSet where
  lists := s.lists ++ [ids]
  current := s.lists.length
  current_lt := by simp
  nodup := by
    intro list hlist
    rcases List.mem_append.1 hlist with hold | hnew
    · exact s.nodup list hold
    · exact List.mem_singleton.1 hnew ▸ h

/-- Registers a helper, unless it is registered. -/
def add (s : HelperSet) (id : String) : HelperSet :=
  if h : id ∈ s.ids then s
  else s.replace (s.ids ++ [id])
    (List.nodup_append.2 ⟨s.read_nodup _, by simp, fun _ hother _ hid heq =>
      h (List.mem_singleton.1 hid ▸ heq ▸ hother)⟩)

/-- Removes a helper; the answer is whether it was registered. -/
def remove (s : HelperSet) (id : String) : Bool × HelperSet :=
  match s.ids.findIdx? (· == id) with
  | some place =>
    (true, s.replace (s.ids.eraseIdx place) ((s.read_nodup _).sublist (List.eraseIdx_sublist _ _)))
  | none => (false, s)

/-- Lists are only ever added, so a snapshot stays what it was. -/
theorem lists_prefix_add (s : HelperSet) (id : String) : s.lists <+: (s.add id).lists := by
  unfold add
  split
  · exact List.prefix_refl _
  · exact List.prefix_append _ _

theorem lists_prefix_remove (s : HelperSet) (id : String) : s.lists <+: (s.remove id).2.lists := by
  unfold remove
  split
  · exact List.prefix_append _ _
  · exact List.prefix_refl _

end HelperSet

/-- One thing that is done to a set of helpers and to the builder that they work on. -/
inductive HelperAct where
  /-- The builder is changed. -/
  | edit (change : EventBuilder → EventBuilder)
  | add (id : String)
  | remove (id : String)
  /-- A snapshot of the registered helpers is kept. -/
  | keep
  /-- One of the snapshots that were kept is looked at. -/
  | recall (place : Nat)
  /-- All registered helpers are called; the list says what each of them does, one after the other. -/
  | run (conducts : List (List HelperAct))

/-- What came of an act. -/
inductive HelperNote where
  | edited
  | added
  | removed (wasRegistered : Bool)
  /-- The helpers of a snapshot; there may be no such snapshot. -/
  | found (snapshot : Option (List String))
  /-- The helpers that were called, and what came of what each of them did. -/
  | ran (calls : List (String × List HelperNote))

/-- A set of helpers, the snapshots of it that were kept, and the builder that the helpers work on. -/
structure HelperState where
  set : HelperSet := {}
  builder : EventBuilder
  kept : List Nat := []
  kept_lt : ∀ snapshot ∈ kept, snapshot < set.lists.length := by simp

namespace HelperState

/-- The set of helpers is changed. -/
def withSet (s : HelperState) (set : HelperSet) (h : s.set.lists <+: set.lists) : HelperState where
  set := set
  builder := s.builder
  kept := s.kept
  kept_lt snapshot hkept := Nat.lt_of_lt_of_le (s.kept_lt snapshot hkept) h.length_le

/-- A snapshot is kept. -/
def keep (s : HelperState) : HelperState where
  set := s.set
  builder := s.builder
  kept := s.kept ++ [s.set.current]
  kept_lt := by
    intro snapshot hkept
    rcases List.mem_append.1 hkept with hold | hnew
    · exact s.kept_lt snapshot hold
    · exact List.mem_singleton.1 hnew ▸ s.set.current_lt

mutual

/-- One act. -/
def perform (s : HelperState) : HelperAct → HelperNote × HelperState
  | .edit change => (.edited, { s with builder := change s.builder })
  | .add id => (.added, s.withSet (s.set.add id) (s.set.lists_prefix_add id))
  | .remove id =>
    (.removed (s.set.remove id).1, s.withSet (s.set.remove id).2 (s.set.lists_prefix_remove id))
  | .keep => (.found (some s.set.ids), s.keep)
  | .recall place => (.found ((s.kept[place]?).map s.set.read), s)
  | .run conducts =>
    let (calls, last) := s.callFrom s.set.current 0 conducts
    (.ran calls, last)

/-- Acts one after the other. -/
def performAll (s : HelperState) : List HelperAct → List HelperNote × HelperState
  | [] => ([], s)
  | act :: rest =>
    let (note, next) := s.perform act
    let (notes, last) := next.performAll rest
    (note :: notes, last)

/-- Calls the helpers of a snapshot from a place on.  A helper of which nothing is said does nothing. -/
def callFrom (s : HelperState) (snapshot place : Nat) :
    List (List HelperAct) → List (String × List HelperNote) × HelperState
  | [] => (((s.set.read snapshot).drop place).map (·, []), s)
  | conduct :: rest =>
    match (s.set.read snapshot)[place]? with
    | none => ([], s)
    | some id =>
      let (notes, next) := s.performAll conduct
      let (calls, last) := next.callFrom snapshot (place + 1) rest
      ((id, notes) :: calls, last)

end

end HelperState

/-- A helper that does the same in each call. -/
structure Helper where
  /-- What it does to the builder. -/
  steps : List BuilderStep
  /-- The helper that it registers then. -/
  adds : Option String := none
  /-- The helper that it removes after that. -/
  removes : Option String := none

namespace Helper

/-- What a helper does when it is called. -/
def acts (h : Helper) : List HelperAct :=
  .edit (·.run h.steps) :: (h.adds.toList.map .add ++ h.removes.toList.map .remove)

end Helper

/-- The helpers that there are, by their identities. -/
abbrev HelperDirectory := String → Option Helper

/-- What some helpers do when they are called one after the other. -/
def conductsOf (directory : HelperDirectory) (ids : List String) : List (List HelperAct) :=
  ids.map fun id => ((directory id).map Helper.acts).getD []

end ErrorReport
