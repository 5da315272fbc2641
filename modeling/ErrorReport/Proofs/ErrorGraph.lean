import ErrorReport.ErrorGraph
import Mathlib.Data.List.Nodup
import Mathlib.Data.Nat.Find
import Mathlib.Order.Bounds.Basic

/-!
# How far a walk along sources goes

`ErrorGraph.chain` walks with a list of the references it has met and a budget.  Here it is compared
with `ErrorGraph.visit?`, the walk without either, which never stops on a circle.

`ErrorGraph.Stops` names the three reasons for which nothing is listed for a step of the unbounded
walk: enough objects are listed, the sources have ended, or the walk is back where it was.  When the
walk is back depends on what is told apart: the walk of a chain tells references apart, and two
references to one object are not the same if their tables differ.

* `ErrorGraph.chain_walk`: a chain lists the objects before the first step at which it stops, every
  one of them, and no reference comes twice.  If no object is referred to through two tables, it
  stops where the walk is back at an object, and no object comes twice either.
* `ErrorGraph.chain_walk_twice`: an object that is its own source through another table is listed
  twice.
-/

set_option autoImplicit false

namespace ErrorReport

/-- Two references lead to one object. -/
def ErrorRef.SameObject (p q : ErrorRef) : Prop := p.object = q.object

namespace ErrorGraph

variable {g : ErrorGraph} {start : ErrorRef}

/-- The object itself at which the unbounded walk is after a number of steps. -/
def object? (g : ErrorGraph) (start : ErrorRef) (steps : Nat) : Option ErrorObject :=
  (g.visit? start steps).bind (g.objects[·.object]?)

/-- After a number of steps the walk is back at a reference that is the same as one that it met
before, as far as `same` tells references apart. -/
def Revisits (same : ErrorRef → ErrorRef → Prop) (g : ErrorGraph) (start : ErrorRef) (steps : Nat) :
    Prop :=
  ∃ earlier < steps, ∃ p q,
    g.visit? start earlier = some p ∧ g.visit? start steps = some q ∧ same p q

/-- Why nothing is listed for a step of the walk. -/
inductive Stops (same : ErrorRef → ErrorRef → Prop) (g : ErrorGraph) (start : ErrorRef)
    (steps : Nat) : Prop
  /-- As many objects are listed as a chain may have. -/
  | full (h : steps = maxDepth)
  /-- The sources have ended: the walk has no more than so many objects. -/
  | ended (h : g.visit? start steps = none)
  /-- The walk is back where it was. -/
  | back (h : Revisits same g start steps)

/-- Whatever object the walk meets, it meets through one table. -/
def HasOneTable (g : ErrorGraph) (start : ErrorRef) : Prop :=
  ∀ i j p q, g.visit? start i = some p → g.visit? start j = some q → p.SameObject q → p = q

/-! ## The unbounded walk -/

theorem visit?_lt {steps : Nat} {ref : ErrorRef} (h : g.visit? start steps = some ref) :
    ref.object < g.objects.length := by
  cases steps with
  | zero =>
    rw [visit?] at h
    split at h
    · rwa [← Option.some.inj h]
    · exact absurd h (by simp)
  | succ steps =>
    obtain ⟨before, -, hnext⟩ := Option.bind_eq_some_iff.1 h
    simpa using (Option.filter_eq_some_iff.1 hnext).2

theorem object?_of_visit? {steps : Nat} {ref : ErrorRef} (h : g.visit? start steps = some ref) :
    ∃ o, g.objects[ref.object]? = some o ∧ g.object? start steps = some o := by
  have ho := List.getElem?_eq_getElem (visit?_lt h)
  exact ⟨_, ho, by rw [object?, h]; exact ho⟩

theorem visit?_succ {steps : Nat} {ref : ErrorRef} {o : ErrorObject}
    (h : g.visit? start steps = some ref) (ho : g.objects[ref.object]? = some o) :
    g.visit? start (steps + 1) = o.source.filter (·.object < g.objects.length) := by
  rw [visit?, h]
  simp [next?, ho]

/-! ## The walk of a chain -/

@[simp] theorem walk_zero (seen : List ErrorRef) (source : Option ErrorRef) :
    g.walk 0 seen source = [] := by
  cases source <;> rfl

@[simp] theorem walk_none (budget : Nat) (seen : List ErrorRef) : g.walk budget seen none = [] := by
  cases budget <;> rfl

/-- A source that is no object is as good as none. -/
theorem walk_filter (budget : Nat) (seen : List ErrorRef) (source : Option ErrorRef) :
    g.walk budget seen (source.filter (·.object < g.objects.length)) =
      g.walk budget seen source := by
  cases source with
  | none => rfl
  | some ref =>
    by_cases hobject : ref.object < g.objects.length
    · rw [Option.filter_some_pos (by simpa using hobject)]
    · rw [Option.filter_some_neg (by simpa using hobject)]
      cases budget with
      | zero => simp
      | succ budget =>
        rw [walk_none, walk, List.getElem?_eq_none (Nat.le_of_not_lt hobject), ite_self]

/-- The references that were met are those of the steps so far. -/
def IsSeen (g : ErrorGraph) (start : ErrorRef) (steps : Nat) (seen : List ErrorRef) : Prop :=
  ∀ ref, ref ∈ seen ↔ ∃ earlier < steps, g.visit? start earlier = some ref

theorem IsSeen.succ {steps : Nat} {ref : ErrorRef} {seen : List ErrorRef}
    (h : g.IsSeen start steps seen) (hvisit : g.visit? start steps = some ref) :
    g.IsSeen start (steps + 1) (ref :: seen) := by
  intro other
  rw [List.mem_cons, h other]
  constructor
  · rintro (rfl | ⟨earlier, hlt, hearlier⟩)
    · exact ⟨steps, Nat.lt_succ_self _, hvisit⟩
    · exact ⟨earlier, Nat.lt_succ_of_lt hlt, hearlier⟩
  · rintro ⟨earlier, hlt, hearlier⟩
    rcases Nat.lt_succ_iff_lt_or_eq.1 hlt with hlt | rfl
    · exact .inr ⟨earlier, hlt, hearlier⟩
    · exact .inl (Option.some.inj (hearlier.symm.trans hvisit))

/-- Where there is a reason to stop, nothing more is listed. -/
theorem walk_of_stops {steps : Nat} {seen : List ErrorRef} (hseen : g.IsSeen start steps seen)
    (h : Stops Eq g start steps) :
    g.walk (maxDepth - steps) seen (g.visit? start steps) = [] := by
  cases h with
  | full h => rw [h, Nat.sub_self, walk_zero]
  | ended h => rw [h, walk_none]
  | back h =>
    obtain ⟨earlier, hlt, ref, _, hearlier, hvisit, rfl⟩ := h
    have hmem : ref ∈ seen := (hseen ref).2 ⟨earlier, hlt, hearlier⟩
    rw [hvisit]
    cases maxDepth - steps with
    | zero => exact walk_zero seen _
    | succ budget => rw [walk, if_pos (by simpa using hmem)]

/-- Where there is no reason to stop, an object is listed and the walk goes on. -/
theorem walk_of_not_stops {steps : Nat} {seen : List ErrorRef} (hseen : g.IsSeen start steps seen)
    (hlt : steps < maxDepth) (h : ¬Stops Eq g start steps) :
    ∃ ref o, g.visit? start steps = some ref ∧ g.object? start steps = some o ∧
      g.walk (maxDepth - steps) seen (g.visit? start steps) =
        o :: g.walk (maxDepth - (steps + 1)) (ref :: seen) (g.visit? start (steps + 1)) := by
  obtain ⟨ref, hvisit⟩ := Option.ne_none_iff_exists'.1 fun hnone => h (.ended hnone)
  obtain ⟨o, ho, hobject⟩ := object?_of_visit? hvisit
  have hfresh : ref ∉ seen := by
    intro hmem
    obtain ⟨earlier, hearlier, hsame⟩ := (hseen ref).1 hmem
    exact h (.back ⟨earlier, hearlier, ref, ref, hsame, hvisit, rfl⟩)
  have hbudget : maxDepth - steps = maxDepth - (steps + 1) + 1 := by omega
  refine ⟨ref, o, hvisit, hobject, ?_⟩
  rw [visit?_succ hvisit ho, walk_filter, hvisit, hbudget, walk, if_neg (by simpa using hfresh), ho]

/-- From any step before the first reason to stop, the objects up to it are listed.  The induction
is on how many steps are left. -/
theorem walk_eq {last : Nat} (hlast : IsLeast {steps | Stops Eq g start steps} last) :
    ∀ left steps seen, steps + left = last → g.IsSeen start steps seen →
      (g.walk (maxDepth - steps) seen (g.visit? start steps)).map some =
        (List.range' steps left).map (g.object? start)
  | 0, steps, seen, hleft, hseen => by
    rw [Nat.add_zero] at hleft
    rw [walk_of_stops hseen (hleft ▸ hlast.1)]
    rfl
  | left + 1, steps, seen, hleft, hseen => by
    have hnot : ¬Stops Eq g start steps := fun h => by
      have := hlast.2 h
      omega
    have hdepth : last ≤ maxDepth := hlast.2 (.full rfl)
    obtain ⟨ref, o, hvisit, hobject, hwalk⟩ := walk_of_not_stops hseen (by omega) hnot
    rw [hwalk, List.map_cons, walk_eq hlast left (steps + 1) _ (by omega) (hseen.succ hvisit),
      List.range'_succ, List.map_cons, hobject]

/-! ## The first reason to stop -/

variable {same : ErrorRef → ErrorRef → Prop} {last : Nat}

/-- A chain is at an end after its greatest depth, so there is a first reason to stop. -/
theorem exists_isLeast_stops (same : ErrorRef → ErrorRef → Prop) (g : ErrorGraph)
    (start : ErrorRef) :
    ∃ last, IsLeast {steps | Stops same g start steps} last := by
  classical
  have hex : ∃ steps, Stops same g start steps := ⟨maxDepth, .full rfl⟩
  exact ⟨Nat.find hex, Nat.find_spec hex, fun _ h => Nat.find_min' hex h⟩

/-- Before the first reason to stop, no two references are the same. -/
theorem pairwise_visits (hlast : IsLeast {steps | Stops same g start steps} last) :
    ((List.range last).map (g.visit? start)).Pairwise fun p? q? =>
      ∃ p q, p? = some p ∧ q? = some q ∧ ¬same p q := by
  have hnot : ∀ steps < last, ¬Stops same g start steps :=
    fun _ hsteps h => absurd (hlast.2 h) (Nat.not_le.2 hsteps)
  have hvisit : ∀ steps < last, ∃ p, g.visit? start steps = some p :=
    fun steps hsteps => Option.ne_none_iff_exists'.1 fun hnone => hnot steps hsteps (.ended hnone)
  refine List.pairwise_map.2 (List.pairwise_lt_range.imp_of_mem fun hearlier hsteps hlt => ?_)
  obtain ⟨p, hp⟩ := hvisit _ (List.mem_range.1 hearlier)
  obtain ⟨q, hq⟩ := hvisit _ (List.mem_range.1 hsteps)
  exact ⟨p, q, hp, hq, fun hsame =>
    hnot _ (List.mem_range.1 hsteps) (.back ⟨_, hlt, p, q, hp, hq, hsame⟩)⟩

/-- Where each object has one table, objects and references are told apart alike. -/
theorem stops_sameObject_iff (h : g.HasOneTable start) {steps : Nat} :
    Stops ErrorRef.SameObject g start steps ↔ Stops Eq g start steps := by
  constructor
  · rintro (hfull | hended | ⟨earlier, hlt, p, q, hp, hq, hsame⟩)
    · exact .full hfull
    · exact .ended hended
    · exact .back ⟨earlier, hlt, p, q, hp, hq, h _ _ p q hp hq hsame⟩
  · rintro (hfull | hended | ⟨earlier, hlt, p, q, hp, hq, rfl⟩)
    · exact .full hfull
    · exact .ended hended
    · exact .back ⟨earlier, hlt, p, p, hp, hq, rfl⟩

/-- **A chain lists the objects of the walk up to the first reason to stop**, each with its
description, in the order of the walk; no reference comes twice and none is left out.  Where each
object has one table, no object comes twice.  If the type of the first object is known, only the
name and the module of the first entry differ. -/
theorem chain_walk (g : ErrorGraph) (start : ErrorRef) (typeName : String) :
    ∃ last, IsLeast {steps | Stops Eq g start steps} last ∧
      (((List.range last).map (g.visit? start)).Pairwise fun p? q? =>
        ∃ p q, p? = some p ∧ q? = some q ∧ p ≠ q) ∧
      (g.HasOneTable start → IsLeast {steps | Stops ErrorRef.SameObject g start steps} last ∧
        ((List.range last).map (g.visit? start)).Pairwise fun p? q? =>
          ∃ p q, p? = some p ∧ q? = some q ∧ ¬p.SameObject q) ∧
      (g.chain start).exceptions.map some =
        (List.range last).map (fun steps => (g.object? start steps).map describe) ∧
      (g.typedChain start typeName).exceptions =
        (g.chain start).exceptions.modifyHead fun first =>
          { first with
            typeName := (splitTypeName typeName).2
            modulePath := (splitTypeName typeName).1 } := by
  obtain ⟨last, hlast⟩ := exists_isLeast_stops Eq g start
  refine ⟨last, hlast, pairwise_visits hlast, fun htable => ?_, ?_, ?_⟩
  · simp only [← stops_sameObject_iff htable] at hlast
    exact ⟨hlast, pairwise_visits hlast⟩
  · have hstart : g.walk maxDepth [] (some start) = g.walk maxDepth [] (g.visit? start 0) := by
      rw [← walk_filter]
      simp [visit?, Option.filter]
    have hwalk := walk_eq hlast last 0 [] (Nat.zero_add last) (fun ref => by simp)
    calc (g.chain start).exceptions.map some
        = ((g.walk maxDepth [] (some start)).map some).map (Option.map describe) := by
          rw [chain, List.map_map, List.map_map]
          rfl
      _ = ((List.range last).map (g.object? start)).map (Option.map describe) := by
          rw [hstart, List.range_eq_range', ← hwalk]
          rfl
      _ = (List.range last).map fun steps => (g.object? start steps).map describe :=
          List.map_map
  · rw [typedChain, Chain.withOuterType]
    cases h : (g.chain start).exceptions with
    | nil => exact h
    | cons first causes => rfl

/-- An object that is its own source, through another table than the one it is given with. -/
def sampleLoop : ErrorGraph := ⟨[⟨"SelfReferential(0)", "loops on itself", some ⟨0, 1⟩⟩]⟩

/-- The walk is back at its one object after one step, and yet a chain lists the object twice. -/
theorem chain_walk_twice :
    IsLeast {steps | Stops ErrorRef.SameObject sampleLoop ⟨0, 0⟩ steps} 1 ∧
      (sampleLoop.chain ⟨0, 0⟩).exceptions = List.replicate 2
        ⟨"SelfReferential", none, "loops on itself", []⟩ := by
  refine ⟨⟨.back ⟨0, by decide, ⟨0, 0⟩, ⟨0, 1⟩, rfl, rfl, rfl⟩, fun steps hstops => ?_⟩, by decide⟩
  by_contra hlt
  obtain rfl : steps = 0 := by omega
  rcases hstops with hfull | hended | ⟨earlier, hearlier, -⟩
  · exact absurd hfull (by decide)
  · exact absurd hended (by decide)
  · exact absurd hearlier (Nat.not_lt_zero earlier)

end ErrorGraph

end ErrorReport
