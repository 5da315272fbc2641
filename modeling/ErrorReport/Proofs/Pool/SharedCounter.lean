import ErrorReport.Pool.DropCounter
import ErrorReport.Proofs.Lists
import Mathlib.Data.List.Chain
import Mathlib.Data.List.Perm.Subperm
import Mathlib.Data.Nat.Dist

/-!
# Warnings when threads share a counter

A thread that finds a warning due has to replace the time of the last warning before it may warn,
and that succeeds only if nobody else did so in between: a `Win`.  A thread that saw that somebody
warned before wins only when the interval has passed since the win before, so wins are as far apart
as they should be, except for those of threads that saw no warning: such a thread wins at once,
whoever won since it looked.

* `CounterSystem.Raced` — what holds of the threads, the cells and the wins so far.
* `CounterSystem.warnings_apart` — the statement about all runs: each thread wins early at most
  once, and if only one of all threads does then the warnings are apart.
* `CounterSystem.warnings_together` — two threads that both win early warn at the same time.
-/

set_option autoImplicit false

namespace ErrorReport

/-- A thread has replaced the time of the last warning. -/
structure Win where
  thread : Nat
  /-- The time that the thread read before, and put there. -/
  time : Nat
  /-- Whether the thread saw that nobody had warned. -/
  isEarly : Bool
  deriving DecidableEq, Repr

namespace CounterThread

/-- The time of the warning that a thread is about to give. -/
def reporting? : CounterThread → Option Nat
  | won now | marked now => some now
  | idle | raisedPending | raisedTotal | knowsTime _ | knowsFirst _ _ | isDue _ _ _ => none

/-- Whether a thread cannot find any more that nobody has warned: the flag is up and the thread has
not read it as down, or the thread is about to raise it. -/
def isInformed (hasWarned : Bool) : CounterThread → Bool
  | won _ => true
  | knowsFirst _ isFirst | isDue _ _ isFirst => hasWarned && !isFirst
  | idle | raisedPending | raisedTotal | knowsTime _ | marked _ => hasWarned

theorem isInformed_mono {old new : Bool} (h : old = true → new = true) {t : CounterThread}
    (ht : t.isInformed old = true) : t.isInformed new = true := by
  cases old with
  | true => rwa [h rfl]
  | false => cases t <;> first | rfl | cases ht

/-- What a thread relies on: that there was a win if it saw a warning or won itself, and that the
interval has passed if it saw a warning and finds another one due. -/
def Relies (interval : Nat) (wins : List Win) : CounterThread → Prop
  | knowsFirst _ false | won _ => wins ≠ []
  | isDue now last false => wins ≠ [] ∧ interval ≤ now - last
  | _ => True

theorem Relies.append {interval : Nat} {wins : List Win} {t : CounterThread}
    (h : t.Relies interval wins) (more : List Win) : t.Relies interval (more ++ wins) := by
  have hne (hwins : wins ≠ []) : more ++ wins ≠ [] := List.append_ne_nil_of_right_ne_nil _ hwins
  cases t with
  | knowsFirst now isFirst =>
    cases isFirst with
    | true => trivial
    | false => exact hne h
  | isDue now last isFirst =>
    cases isFirst with
    | true => trivial
    | false => exact ⟨hne h.1, h.2⟩
  | won now => exact hne h
  | _ => trivial

end CounterThread

namespace CounterSystem

/-! ## Outcomes of a step -/

/-- The system after a thread has moved on. -/
def moved (s : CounterSystem) (cells : DropCounter) (thread : Nat) (next : CounterThread) :
    CounterSystem :=
  { s with cells := cells, threads := s.threads.set thread next }

/-- The win in an action. -/
def win? (s : CounterSystem) : CounterAction → Option Win
  | .tick _ => none
  | .advance thread =>
    match s.threads[thread]? with
    | some (.isDue now last isFirst) =>
      if s.cells.lastWarning = last then some ⟨thread, now, isFirst⟩ else none
    | _ => none

/-- `Step s action t win`: the action is possible in `s` and leads to `t`, with a win or none. -/
inductive Step (s : CounterSystem) : CounterAction → CounterSystem → Option Win → Prop
  | tick {time : Nat} (hlater : s.clock ≤ time) : Step s (.tick time) { s with clock := time } none
  | raisePending {thread : Nat} (hthread : s.threads[thread]? = some .idle) :
      Step s (.advance thread)
        (s.moved { s.cells with pending := s.cells.pending + 1 } thread .raisedPending) none
  | raiseTotal {thread : Nat} (hthread : s.threads[thread]? = some .raisedPending) :
      Step s (.advance thread)
        (s.moved { s.cells with total := s.cells.total + 1 } thread .raisedTotal) none
  | readTime {thread : Nat} (hthread : s.threads[thread]? = some .raisedTotal) :
      Step s (.advance thread) (s.moved s.cells thread (.knowsTime s.clock)) none
  | readFlag {thread now : Nat} (hthread : s.threads[thread]? = some (.knowsTime now)) :
      Step s (.advance thread) (s.moved s.cells thread (.knowsFirst now !s.cells.hasWarned)) none
  | findDue {thread now : Nat} {isFirst : Bool}
      (hthread : s.threads[thread]? = some (.knowsFirst now isFirst))
      (hdue : isFirst = true ∨ s.cells.interval ≤ now - s.cells.lastWarning) :
      Step s (.advance thread)
        (s.moved s.cells thread (.isDue now s.cells.lastWarning isFirst)) none
  | findNotDue {thread now : Nat} {isFirst : Bool}
      (hthread : s.threads[thread]? = some (.knowsFirst now isFirst)) :
      Step s (.advance thread) (s.moved s.cells thread .idle) none
  | win {thread now : Nat} {isFirst : Bool}
      (hthread : s.threads[thread]? = some (.isDue now s.cells.lastWarning isFirst)) :
      Step s (.advance thread) (s.moved { s.cells with lastWarning := now } thread (.won now))
        (some ⟨thread, now, isFirst⟩)
  | lose {thread now last : Nat} {isFirst : Bool}
      (hthread : s.threads[thread]? = some (.isDue now last isFirst)) :
      Step s (.advance thread) (s.moved s.cells thread .idle) none
  | mark {thread now : Nat} (hthread : s.threads[thread]? = some (.won now)) :
      Step s (.advance thread)
        (s.moved { s.cells with hasWarned := true } thread (.marked now)) none
  | report {thread now : Nat} (hthread : s.threads[thread]? = some (.marked now)) :
      Step s (.advance thread)
        { s.moved { s.cells with pending := 0 } thread .idle with
          warnings := (s.cells.count?.map (now, ·)).toList ++ s.warnings } none

/-- **Every step is one of the listed ones.** -/
theorem step_of_step? {s t : CounterSystem} {action : CounterAction}
    (h : s.step? action = some t) : Step s action t (s.win? action) := by
  cases action with
  | tick time =>
    simp only [step?] at h
    split at h <;> cases h
    exact .tick ‹_›
  | advance thread =>
    simp only [step?, Option.map_eq_some_iff] at h
    obtain ⟨place, hthread, rfl⟩ := h
    simp only [win?, hthread]
    cases place with
    | idle => exact .raisePending hthread
    | raisedPending => exact .raiseTotal hthread
    | raisedTotal => exact .readTime hthread
    | knowsTime now => exact .readFlag hthread
    | knowsFirst now isFirst =>
      rw [access]
      split
      · rename_i hdue
        exact .findDue hthread (by simpa using hdue)
      · exact .findNotDue hthread
    | isDue now last isFirst =>
      by_cases hlast : s.cells.lastWarning = last
      · subst last
        simp only [access, ↓reduceIte]
        exact .win hthread
      · simp only [access, if_neg hlast]
        exact .lose hthread
    | won now => exact .mark hthread
    | marked now => exact .report hthread

/-! ## Wins -/

/-- The wins after some actions, the newest first. -/
def winsFrom (s : CounterSystem) (wins : List Win) : List CounterAction → List Win
  | [] => wins
  | action :: rest =>
    match s.step? action with
    | none => wins
    | some t => t.winsFrom ((s.win? action).toList ++ wins) rest

/-- The wins of a run, the newest first. -/
def wins (s : CounterSystem) (actions : List CounterAction) : List Win := s.winsFrom [] actions

/-- The threads, the cells and the wins so far agree. -/
structure Raced (interval : Nat) (s : CounterSystem) (wins : List Win) : Prop where
  interval_eq : s.cells.interval = interval
  last : s.cells.lastWarning = (wins.head?.map Win.time).getD 0
  /-- Only an early win comes too soon after the one before. -/
  apart : wins.IsChain fun newer older =>
    newer.isEarly = true ∨ interval ≤ newer.time - older.time
  oldest : ∀ w ∈ wins.getLast?, w.isEarly = true
  flag : s.cells.hasWarned = true → wins ≠ []
  relies : ∀ t ∈ s.threads, t.Relies interval wins
  /-- A thread that won early will not do so again. -/
  informed : ∀ w ∈ wins, w.isEarly = true → ∀ {t : CounterThread}, s.threads[w.thread]? = some t →
    t.isInformed s.cells.hasWarned = true
  distinct : ((wins.filter Win.isEarly).map Win.thread).Nodup
  /-- Each warning, given or about to be given, is of a win of its own. -/
  reported : ∀ time, (s.warnings.map Prod.fst).count time
      + (s.threads.filterMap CounterThread.reporting?).count time ≤ (wins.map Win.time).count time

theorem raced_new (threads interval : Nat) : Raced interval (new threads interval) [] where
  interval_eq := rfl
  last := rfl
  apart := .nil
  oldest := nofun
  flag := nofun
  relies := fun t ht => by
    rw [List.eq_of_mem_replicate ht]
    trivial
  informed := nofun
  distinct := List.nodup_nil
  reported := fun time => by
    simp [new, List.filterMap_replicate, CounterThread.reporting?]

/-! ## What a step keeps -/

variable {interval : Nat} {s : CounterSystem} {wins : List Win}

theorem reporting_set {thread : Nat} {old new : CounterThread}
    (hthread : s.threads[thread]? = some old) (hnew : new.reporting? = old.reporting?)
    (time : Nat) :
    ((s.threads.set thread new).filterMap CounterThread.reporting?).count time
      = (s.threads.filterMap CounterThread.reporting?).count time := by
  have hset := count_filterMap_set CounterThread.reporting? time hthread new
  rw [hnew] at hset
  exact Nat.add_right_cancel hset

/-- What the threads rely on stays when one of them moves on. -/
theorem relies_set (hs : Raced interval s wins) (more : List Win) (thread : Nat) {new : CounterThread}
    (hnew : new.Relies interval (more ++ wins)) :
    ∀ t ∈ s.threads.set thread new, t.Relies interval (more ++ wins) := by
  intro t ht
  rcases List.mem_or_eq_of_mem_set ht with hold | rfl
  · exact (hs.relies t hold).append more
  · exact hnew

/-- A thread that won early stays informed when one of them moves on. -/
theorem informed_set (hs : Raced interval s wins) {thread : Nat} {old new : CounterThread}
    (hthread : s.threads[thread]? = some old) {flag : Bool}
    (hflag : s.cells.hasWarned = true → flag = true)
    (hnew : old.isInformed s.cells.hasWarned = true → new.isInformed flag = true) {w : Win}
    (hw : w ∈ wins) (hearly : w.isEarly = true) {t : CounterThread}
    (ht : (s.threads.set thread new)[w.thread]? = some t) : t.isInformed flag = true := by
  rw [List.getElem?_set] at ht
  split at ht
  · rename_i heq
    split at ht <;> cases ht
    exact hnew (hs.informed w hw hearly (heq ▸ hthread))
  · exact CounterThread.isInformed_mono hflag (hs.informed w hw hearly ht)

/-- A thread that takes no part in a win or a warning moves on. -/
theorem Raced.moved (hs : Raced interval s wins) {thread : Nat} {old new : CounterThread}
    (hthread : s.threads[thread]? = some old) {cells : DropCounter}
    (hlast : cells.lastWarning = s.cells.lastWarning)
    (hinterval : cells.interval = s.cells.interval)
    (hflag : s.cells.hasWarned = true → cells.hasWarned = true)
    (hwon : cells.hasWarned = true → wins ≠ [])
    (hrelies : new.Relies interval wins)
    (hinformed : old.isInformed s.cells.hasWarned = true → new.isInformed cells.hasWarned = true)
    (hreporting : new.reporting? = old.reporting?) :
    Raced interval (s.moved cells thread new) wins where
  interval_eq := hinterval.trans hs.interval_eq
  last := hlast.trans hs.last
  apart := hs.apart
  oldest := hs.oldest
  flag := hwon
  relies := relies_set hs [] thread hrelies
  informed := fun _ hw hearly _ ht => informed_set hs hthread hflag hinformed hw hearly ht
  distinct := hs.distinct
  reported := fun time => by
    rw [CounterSystem.moved, reporting_set hthread hreporting]
    exact hs.reported time

/-- **A win**: the thread has not won early before if it does so now, and if it does not then the
interval has passed since the win before. -/
theorem Raced.win (hs : Raced interval s wins) {thread now : Nat} {isFirst : Bool}
    (hthread : s.threads[thread]? = some (.isDue now s.cells.lastWarning isFirst)) :
    Raced interval (s.moved { s.cells with lastWarning := now } thread (.won now))
      (⟨thread, now, isFirst⟩ :: wins) where
  interval_eq := hs.interval_eq
  last := rfl
  apart := by
    have hrelies := hs.relies _ (List.mem_of_getElem? hthread)
    rcases hwins : wins with - | ⟨older, rest⟩
    · exact .singleton _
    · refine .cons_cons ?_ (hwins ▸ hs.apart)
      cases isFirst with
      | true => exact .inl rfl
      | false =>
        have hlast : s.cells.lastWarning = older.time := by rw [hs.last, hwins]; rfl
        exact .inr (hlast ▸ hrelies.2)
  oldest := by
    have hrelies := hs.relies _ (List.mem_of_getElem? hthread)
    rcases hwins : wins with - | ⟨older, rest⟩
    · cases isFirst with
      | true => simp
      | false => exact absurd hwins hrelies.1
    · have holdest := hs.oldest
      rw [hwins] at holdest
      simpa [List.getLast?_cons_cons] using holdest
  flag := fun _ => List.cons_ne_nil _ _
  relies := relies_set hs [_] thread (List.cons_ne_nil _ _)
  informed := fun w hw hearly t ht => by
    rcases List.mem_cons.1 hw with rfl | hold
    · rw [CounterSystem.moved, getElem?_set_new hthread] at ht
      cases ht
      rfl
    · exact informed_set hs hthread id (fun _ => rfl) hold hearly ht
  distinct := by
    cases isFirst with
    | false => exact hs.distinct
    | true =>
      -- a thread that won early is informed, and this one is not
      rw [List.filter_cons_of_pos rfl, List.map_cons, List.nodup_cons]
      refine ⟨fun hmem => ?_, hs.distinct⟩
      obtain ⟨w, hw, hsame⟩ := List.mem_map.1 hmem
      obtain ⟨hold, hearly⟩ := List.mem_filter.1 hw
      have hown : s.threads[w.thread]? = some (.isDue now s.cells.lastWarning true) := by
        rw [hsame]
        exact hthread
      simpa [CounterThread.isInformed] using hs.informed w hold hearly hown
  reported := fun time => by
    have hold := hs.reported time
    have hset := count_filterMap_set CounterThread.reporting? time hthread (.won now)
    simp only [CounterThread.reporting?, Option.toList_none, Option.toList_some, List.count_nil,
      Nat.add_zero] at hset
    rw [List.map_cons, ← List.singleton_append, List.count_append]
    simp only [CounterSystem.moved]
    omega

/-- A warning is given, or there is nothing to warn of. -/
theorem Raced.report (hs : Raced interval s wins) {thread now : Nat}
    (hthread : s.threads[thread]? = some (.marked now)) :
    Raced interval { s.moved { s.cells with pending := 0 } thread .idle with
      warnings := (s.cells.count?.map (now, ·)).toList ++ s.warnings } wins where
  interval_eq := hs.interval_eq
  last := hs.last
  apart := hs.apart
  oldest := hs.oldest
  flag := hs.flag
  relies := relies_set hs [] thread trivial
  informed := fun _ hw hearly _ ht =>
    have hkept {flag : Bool} (h : (CounterThread.marked now).isInformed flag = true) :
        CounterThread.idle.isInformed flag = true := h
    informed_set hs hthread id hkept hw hearly ht
  distinct := hs.distinct
  reported := fun time => by
    have hold := hs.reported time
    have hset := count_filterMap_set CounterThread.reporting? time hthread .idle
    have hgiven : ((s.cells.count?.map (now, ·)).toList.map Prod.fst).count time
        ≤ [now].count time := by
      cases s.cells.count? <;> simp
    simp only [CounterThread.reporting?, Option.toList_none, Option.toList_some, List.count_nil,
      Nat.add_zero] at hset
    simp only [CounterSystem.moved, List.map_append, List.count_append]
    omega

/-- **Every step keeps wins, threads and cells in agreement.** -/
theorem Raced.step {interval : Nat} {s t : CounterSystem} {wins : List Win}
    {action : CounterAction} {win : Option Win} (hs : Raced interval s wins)
    (h : Step s action t win) : Raced interval t (win.toList ++ wins) := by
  cases h with
  | tick => exact { hs with }
  | raisePending hthread => exact hs.moved hthread rfl rfl id hs.flag trivial id rfl
  | raiseTotal hthread => exact hs.moved hthread rfl rfl id hs.flag trivial id rfl
  | readTime hthread => exact hs.moved hthread rfl rfl id hs.flag trivial id rfl
  | readFlag hthread =>
    refine hs.moved hthread rfl rfl id hs.flag ?_ (fun h => ?_) rfl
    · cases hflag : s.cells.hasWarned with
      | false => trivial
      | true => exact hs.flag hflag
    · rw [CounterThread.isInformed] at h
      simp [CounterThread.isInformed, h]
  | @findDue _ now isFirst hthread hdue =>
    refine hs.moved hthread rfl rfl id hs.flag ?_ id rfl
    have hrelies := hs.relies _ (List.mem_of_getElem? hthread)
    cases isFirst with
    | true => trivial
    | false => exact ⟨hrelies, hs.interval_eq ▸ hdue.resolve_left nofun⟩
  | @findNotDue _ now isFirst hthread =>
    refine hs.moved hthread rfl rfl id hs.flag trivial (fun h => ?_) rfl
    exact (Bool.and_eq_true_iff.1 h).1
  | win hthread => exact hs.win hthread
  | lose hthread =>
    refine hs.moved hthread rfl rfl id hs.flag trivial (fun h => ?_) rfl
    exact (Bool.and_eq_true_iff.1 h).1
  | mark hthread =>
    have hwon : wins ≠ [] := hs.relies _ (List.mem_of_getElem? hthread)
    exact hs.moved hthread rfl rfl (fun _ => rfl) (fun _ => hwon) trivial (fun _ => rfl) rfl
  | report hthread => exact hs.report hthread

/-- What the wins of a run are. -/
theorem Raced.run {interval : Nat} : ∀ {actions : List CounterAction} {s t : CounterSystem}
    {wins : List Win}, Raced interval s wins → s.run? actions = some t →
    Raced interval t (s.winsFrom wins actions)
  | [], s, t, wins, hs, h => by
    cases h
    exact hs
  | action :: rest, s, t, wins, hs, h => by
    rw [run?, List.foldlM_cons] at h
    obtain ⟨next, hfirst, hrest⟩ := Option.bind_eq_some_iff.1 h
    rw [winsFrom, hfirst]
    exact (hs.step (step_of_step? hfirst)).run hrest

/-! ## Warnings that are apart -/

/-- If no win but the oldest is early, then all wins are apart. -/
theorem wins_apart {interval : Nat} : ∀ {wins : List Win},
    (wins.IsChain fun newer older => newer.isEarly = true ∨ interval ≤ newer.time - older.time) →
    (∀ w ∈ wins.getLast?, w.isEarly = true) → wins.countP Win.isEarly ≤ 1 →
    wins.IsChain fun newer older => interval ≤ newer.time - older.time
  | [], _, _, _ => .nil
  | [w], _, _, _ => .singleton w
  | newer :: older :: rest, hchain, holdest, hone => by
    rw [List.isChain_cons_cons] at hchain
    rw [List.getLast?_cons_cons] at holdest
    -- the oldest is among the others, so that the newest cannot be early
    have hothers : 0 < (older :: rest).countP Win.isEarly := by
      obtain ⟨w, hw⟩ := Option.isSome_iff_exists.1
        (List.getLast?_isSome.2 (List.cons_ne_nil older rest))
      exact List.countP_pos_iff.2 ⟨w, List.mem_of_getLast? hw, holdest w hw⟩
    rw [List.countP_cons] at hone
    have hlate : ¬newer.isEarly = true := fun h => by
      rw [if_pos h] at hone
      omega
    rw [if_neg hlate] at hone
    exact .cons_cons (hchain.1.resolve_left hlate) (wins_apart hchain.2 holdest hone)

/-- Times in order, each one apart from the one before, are all apart. -/
theorem pairwise_of_apart {interval : Nat} {wins : List Win}
    (h : wins.IsChain fun newer older => interval ≤ newer.time - older.time) :
    (wins.map Win.time).Pairwise fun a b => interval ≤ a.dist b := by
  have htrans : IsTrans Win fun newer older => interval ≤ newer.time - older.time :=
    ⟨fun a b c hab hbc => by omega⟩
  rw [List.pairwise_map]
  exact (List.isChain_iff_pairwise.1 h).imp fun hab => hab.trans (Nat.le_add_right _ _)

/-- **Warnings are apart if at most one win is early.**  However the accesses of any number of
threads mix, and as long as the clock does not go back, after any run:

* a win comes after the interval has passed since the win before, unless it is early;
* each thread wins early at most once;
* each warning is of a win of its own, and bears its time;
* so if at most one win is early, any two warnings bear times that are the interval apart. -/
theorem warnings_apart {threads interval : Nat} {actions : List CounterAction} {s : CounterSystem}
    (h : (new threads interval).run? actions = some s) :
    (((new threads interval).wins actions).IsChain fun newer older =>
        newer.isEarly = true ∨ interval ≤ newer.time - older.time)
      ∧ ((((new threads interval).wins actions).filter Win.isEarly).map Win.thread).Nodup
      ∧ (s.warnings.map Prod.fst).Subperm (((new threads interval).wins actions).map Win.time)
      ∧ (((new threads interval).wins actions).countP Win.isEarly ≤ 1 →
          (s.warnings.map Prod.fst).Pairwise fun a b => interval ≤ a.dist b) := by
  have hs := (raced_new threads interval).run h
  have hsub :
      (s.warnings.map Prod.fst).Subperm (((new threads interval).wins actions).map Win.time) :=
    List.subperm_iff_count.2 fun time => (Nat.le_add_right _ _).trans (hs.reported time)
  refine ⟨hs.apart, hs.distinct, hsub, fun hone => ?_⟩
  obtain ⟨times, hperm, hsublist⟩ := hsub
  have hapart := (pairwise_of_apart (wins_apart hs.apart hs.oldest hone)).sublist hsublist
  exact (hperm.pairwise_iff fun {a b} hab => by rwa [Nat.dist_comm]).1 hapart

/-- One thread counts, wins and warns at 3, and another one at 5003. -/
def turnActions : List CounterAction :=
  .tick 3 :: List.replicate 8 (.advance 0) ++ .tick 5003 :: List.replicate 8 (.advance 1)

/-- The counter after these steps. -/
def turnEnd : CounterSystem where
  cells := { interval := 5000, lastWarning := 5003, hasWarned := true, total := 2 }
  threads := [.idle, .idle]
  warnings := [(5003, 1), (3, 1)]
  clock := 5003

theorem warnings_apart_turn :
    (new 2 5000).run? turnActions = some turnEnd
      ∧ (new 2 5000).wins turnActions = [⟨1, 5003, false⟩, ⟨0, 3, true⟩]
      ∧ (turnEnd.warnings.map Prod.fst).Pairwise fun a b => 5000 ≤ a.dist b := by
  have hrun : (new 2 5000).run? turnActions = some turnEnd := by decide
  have hwins : (new 2 5000).wins turnActions = [⟨1, 5003, false⟩, ⟨0, 3, true⟩] := by decide
  obtain ⟨-, -, -, hapart⟩ := warnings_apart hrun
  exact ⟨hrun, hwins, hapart (by rw [hwins]; decide)⟩

/-- Both threads see that nobody has warned.  One wins and warns and counts another dropped event,
and then the other one wins, too. -/
def togetherActions : List CounterAction :=
  List.replicate 4 (.advance 0) ++ List.replicate 4 (.advance 1)
    ++ List.replicate 6 (.advance 0) ++ List.replicate 4 (.advance 1)

/-- The counter after these steps. -/
def togetherEnd : CounterSystem where
  cells := { interval := 5000, hasWarned := true, total := 3 }
  threads := [.raisedTotal, .idle]
  warnings := [(0, 1), (0, 2)]

/-- **Two warnings may come together**: the clock stands still, and the interval is not zero. -/
theorem warnings_together :
    (new 2 5000).run? togetherActions = some togetherEnd
      ∧ ¬(togetherEnd.warnings.map Prod.fst).Pairwise fun a b => 5000 ≤ a.dist b := by
  decide

end CounterSystem
end ErrorReport
