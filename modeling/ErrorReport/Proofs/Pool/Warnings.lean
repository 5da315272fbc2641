import ErrorReport.Proofs.Pool.Refusals
import Mathlib.Algebra.GroupWithZero.Nat

/-!
# Which warnings of refused calls a pool gives

A refused call is counted and warned of if a warning is due; closing warns of what is left.  What
happened is written down as a list of `DropNote`s, the newest first, and `DropNote.Follows` says
from the notes alone, with no look at the counter, which warning a note must come with.

* `DropCounter.Tallied` — the counter is what the notes say, after every refused call
  (`Tallied.refuse`) and every flush (`Tallied.flush`).
* `Pool.dropNotes` — the notes of a run.
* `Pool.drops_accounted` — the statement about all runs in which the clock does not go back.
-/

set_option autoImplicit false

namespace ErrorReport

/-- A call was refused, or closing looked for refused calls that nobody was warned of. -/
structure DropNote where
  time : Nat
  /-- Whether a call was refused. -/
  isRefusal : Bool
  /-- The count in the warning, if there was one. -/
  warned : Option Nat
  deriving DecidableEq, Repr

namespace DropNote

/-- How many calls were refused. -/
def refusals (notes : List DropNote) : Nat := notes.countP isRefusal

/-- How many calls were refused since the last warning. -/
def unreported (notes : List DropNote) : Nat := refusals (notes.takeWhile (·.warned.isNone))

/-- The sum of all counts in warnings. -/
def reported (notes : List DropNote) : Nat := (notes.filterMap warned).sum

/-- When the last warning was. -/
def lastWarning? (notes : List DropNote) : Option Nat := (notes.find? (·.warned.isSome)).map time

/-- What a note must be after those before it. -/
structure Follows (interval : Nat) (past : List DropNote) (note : DropNote) : Prop where
  /-- A refused call warns if it is the first one, or if the interval has passed since the last
  warning. -/
  due : note.isRefusal = true → (note.warned.isSome = true ↔
    refusals past = 0 ∨ ∃ last, lastWarning? past = some last ∧ last + interval ≤ note.time)
  /-- Closing warns if there is something to warn of. -/
  atEnd : note.isRefusal = false → (note.warned.isSome = true ↔ 0 < unreported past)
  /-- A warning counts the calls refused since the warning before, and the one that gives it. -/
  count : ∀ {count : Nat}, note.warned = some count →
    count = unreported past + if note.isRefusal then 1 else 0

@[simp] theorem refusals_cons (note : DropNote) (past : List DropNote) :
    refusals (note :: past) = refusals past + if note.isRefusal then 1 else 0 :=
  List.countP_cons

theorem unreported_cons_of_none {note : DropNote} (h : note.warned = none) (past : List DropNote) :
    unreported (note :: past) = unreported past + if note.isRefusal then 1 else 0 := by
  rw [unreported, List.takeWhile_cons_of_pos (by simp [h]), refusals_cons]
  rfl

theorem unreported_cons_of_some {note : DropNote} {count : Nat} (h : note.warned = some count)
    (past : List DropNote) : unreported (note :: past) = 0 := by
  rw [unreported, List.takeWhile_cons_of_neg (by simp [h])]
  rfl

theorem lastWarning?_cons_of_none {note : DropNote} (h : note.warned = none)
    (past : List DropNote) : lastWarning? (note :: past) = lastWarning? past := by
  rw [lastWarning?, List.find?_cons_of_neg (by simp [h])]
  rfl

theorem lastWarning?_cons_of_some {note : DropNote} {count : Nat} (h : note.warned = some count)
    (past : List DropNote) : lastWarning? (note :: past) = some note.time := by
  rw [lastWarning?, List.find?_cons_of_pos (by simp [h])]
  rfl

/-- The last warning is not later than the notes are. -/
theorem le_of_lastWarning? {notes : List DropNote} {last now : Nat}
    (h : lastWarning? notes = some last) (hclock : ∀ note ∈ notes, note.time ≤ now) :
    last ≤ now := by
  obtain ⟨note, hfind, rfl⟩ := Option.map_eq_some_iff.1 h
  exact hclock note (List.mem_of_find?_eq_some hfind)

end DropNote

open DropNote

namespace DropCounter

/-! ## The counter and its notes -/

@[simp] theorem warnIfDue_interval (c : DropCounter) (now : Nat) :
    (c.warnIfDue now).2.interval = c.interval := by
  rw [warnIfDue]
  split <;> rfl

@[simp] theorem flush_interval (c : DropCounter) (now : Nat) :
    (c.flush now).2.interval = c.interval := by
  rw [flush]
  split <;> rfl

@[simp] theorem isDue_recordDrop (c : DropCounter) (now : Nat) :
    c.recordDrop.isDue now = c.isDue now := rfl

/-- The counter is what the notes say. -/
structure Tallied (c : DropCounter) (notes : List DropNote) : Prop where
  total : c.total = refusals notes
  pending : c.pending = unreported notes
  conserved : reported notes + unreported notes = refusals notes
  /-- The first refused call warns. -/
  fresh : c.hasWarned = false → refusals notes = 0
  warned : c.hasWarned = true → 0 < refusals notes ∧ lastWarning? notes = some c.lastWarning

theorem tallied_nil (interval : Nat) : Tallied { interval := interval } [] where
  total := rfl
  pending := rfl
  conserved := rfl
  fresh := fun _ => rfl
  warned := nofun

variable {c d : DropCounter} {notes : List DropNote} {note : DropNote}

/-- Without a warning, nothing but the counts changes. -/
theorem Tallied.of_silent (hc : Tallied c notes) (hnone : note.warned = none)
    (htotal : d.total = c.total + if note.isRefusal then 1 else 0)
    (hpending : d.pending = c.pending + if note.isRefusal then 1 else 0)
    (hhas : d.hasWarned = c.hasWarned) (hlast : d.lastWarning = c.lastWarning)
    (hfirst : note.isRefusal = true → c.hasWarned = true) : Tallied d (note :: notes) where
  total := by rw [htotal, hc.total, refusals_cons]
  pending := by rw [hpending, hc.pending, unreported_cons_of_none hnone]
  conserved := by
    have hreported : reported (note :: notes) = reported notes := by
      rw [reported, List.filterMap_cons_none hnone]
      rfl
    rw [hreported, unreported_cons_of_none hnone, refusals_cons, ← hc.conserved, Nat.add_assoc]
  fresh := fun hnot => by
    rw [hhas] at hnot
    have hflush : ¬note.isRefusal = true := fun h => by simp [hfirst h] at hnot
    rw [refusals_cons, hc.fresh hnot, if_neg hflush]
  warned := fun hwarned => by
    obtain ⟨hsome, hold⟩ := hc.warned (hhas ▸ hwarned)
    rw [refusals_cons, lastWarning?_cons_of_none hnone, hlast]
    exact ⟨Nat.lt_of_lt_of_le hsome (Nat.le_add_right _ _), hold⟩

/-- A warning is of all that nobody was warned of. -/
theorem Tallied.of_warning (hc : Tallied c notes)
    (hcount : note.warned = some (unreported notes + if note.isRefusal then 1 else 0))
    (hsome : 0 < unreported notes + if note.isRefusal then 1 else 0)
    (htotal : d.total = c.total + if note.isRefusal then 1 else 0) (hpending : d.pending = 0)
    (hhas : d.hasWarned = true) (hlast : d.lastWarning = note.time) :
    Tallied d (note :: notes) where
  total := by rw [htotal, hc.total, refusals_cons]
  pending := by rw [hpending, unreported_cons_of_some hcount]
  conserved := by
    have hconserved := hc.conserved
    rw [unreported_cons_of_some hcount, refusals_cons, reported, List.filterMap_cons_some hcount,
      List.sum_cons]
    rw [reported] at hconserved
    omega
  fresh := fun hnot => by simp [hhas] at hnot
  warned := fun _ => by
    have hconserved := hc.conserved
    rw [refusals_cons, lastWarning?_cons_of_some hcount, hlast]
    exact ⟨by omega, rfl⟩

/-- A warning is due for the first refused call, and then when the interval has passed. -/
theorem Tallied.isDue_iff (hc : Tallied c notes) {now : Nat}
    (hclock : ∀ note ∈ notes, note.time ≤ now) :
    c.isDue now = true ↔ refusals notes = 0
      ∨ ∃ last, lastWarning? notes = some last ∧ last + c.interval ≤ now := by
  cases hhas : c.hasWarned with
  | false => simp [isDue, hhas, hc.fresh hhas]
  | true =>
    obtain ⟨hsome, hlast⟩ := hc.warned hhas
    have hle := le_of_lastWarning? hlast hclock
    simp only [isDue, hhas, hlast, Bool.not_true, Bool.false_or, decide_eq_true_eq,
      Option.some.injEq, exists_eq_left', Nat.ne_of_gt hsome, false_or]
    omega

/-- **A refused call is counted, and warns if that is due.** -/
theorem Tallied.refuse (hc : Tallied c notes) {now : Nat}
    (hclock : ∀ note ∈ notes, note.time ≤ now) :
    Follows c.interval notes ⟨now, true, (c.recordDrop.warnIfDue now).1⟩
      ∧ Tallied (c.recordDrop.warnIfDue now).2
          (⟨now, true, (c.recordDrop.warnIfDue now).1⟩ :: notes) := by
  have hiff := hc.isDue_iff hclock
  cases hdue : c.isDue now with
  | true =>
    have hwarn : c.recordDrop.warnIfDue now
        = (some (unreported notes + 1), c.recordDrop.warned now) := by
      rw [warnIfDue, isDue_recordDrop, if_pos hdue, ← hc.pending]
      rfl
    rw [hwarn]
    exact ⟨{
      due := fun _ => ⟨fun _ => hiff.1 hdue, fun _ => rfl⟩
      atEnd := fun h => by cases h
      count := fun h => (Option.some.inj h).symm },
      hc.of_warning rfl (Nat.succ_pos _) rfl rfl rfl rfl⟩
  | false =>
    have hsilent : c.recordDrop.warnIfDue now = (none, c.recordDrop) := if_neg (by simp [hdue])
    have hhas : c.hasWarned = true := by
      by_contra hnot
      simp [isDue, hnot] at hdue
    have hnot : ¬(refusals notes = 0
        ∨ ∃ last, lastWarning? notes = some last ∧ last + c.interval ≤ now) := by
      rw [← hiff, hdue]
      exact Bool.false_ne_true
    rw [hsilent]
    exact ⟨{
      due := fun _ => ⟨fun h => absurd h Bool.false_ne_true, fun h => absurd h hnot⟩
      atEnd := fun h => by cases h
      count := fun h => by cases h },
      hc.of_silent rfl rfl rfl rfl rfl fun _ => hhas⟩

/-- **A flush warns of what nobody was warned of.** -/
theorem Tallied.flush (hc : Tallied c notes) (now : Nat) :
    Follows c.interval notes ⟨now, false, (c.flush now).1⟩
      ∧ Tallied (c.flush now).2 (⟨now, false, (c.flush now).1⟩ :: notes) := by
  by_cases hsome : 0 < c.pending
  · have hwarn : c.flush now = (some (unreported notes), c.warned now) := by
      rw [DropCounter.flush, if_pos hsome, count?, if_pos hsome, hc.pending]
    have hunreported : 0 < unreported notes := hc.pending ▸ hsome
    rw [hwarn]
    exact ⟨{
      due := fun h => by cases h
      atEnd := fun _ => ⟨fun _ => hunreported, fun _ => rfl⟩
      count := fun h => (Option.some.inj h).symm },
      hc.of_warning rfl hunreported rfl rfl rfl rfl⟩
  · have hsilent : c.flush now = (none, c) := if_neg hsome
    rw [hsilent]
    exact ⟨{
      due := fun h => by cases h
      atEnd := fun _ =>
        ⟨fun h => absurd h Bool.false_ne_true, fun h => absurd (hc.pending ▸ h) hsome⟩
      count := fun h => by cases h },
      hc.of_silent rfl rfl rfl rfl rfl fun h => by cases h⟩

end DropCounter

/-! ## The notes of a run -/

/-- The count in a warning of refused calls. -/
def PoolEffect.warnedCount? {α : Type} : PoolEffect α → Option Nat
  | warnedOfDrops _ count | warnedAtEnd count => some count
  | accepted _ | handed _ | delivered _ _ | discarded _ | warnedOfBusy _ | closedWrapped => none

namespace Pool

variable {α : Type}

/-- The note of a step, from what others see of it and how the call that made it stands after it. -/
def note? (q : Pool α) (seen : List (PoolEffect α)) : PoolAction α → Option DropNote
  | .takeHandle call now | .enqueue call now =>
    if (q.sends[call]?).any SendCall.isRefused then
      some ⟨now, true, (seen.filterMap PoolEffect.warnedCount?).head?⟩
    else none
  | .flush _ now => some ⟨now, false, (seen.filterMap PoolEffect.warnedCount?).head?⟩
  | .beginSend _ | .receive _ | .dispatch _ | .hand _ | .deliver _ _ | .crash _ | .report _
  | .beginClose | .claim _ | .dropHandle _ | .takeReport _ | .giveUp _ | .abandon _ | .propagate _
  | .finish _ _ => none

/-- The notes after some actions, the newest first. -/
def notesFrom (p : Pool α) (notes : List DropNote) : List (PoolAction α) → List DropNote
  | [] => notes
  | action :: rest =>
    match p.step? action with
    | none => notes
    | some (q, seen) => q.notesFrom ((q.note? seen action).toList ++ notes) rest

/-- The notes of a run, the newest first. -/
def dropNotes (p : Pool α) (actions : List (PoolAction α)) : List DropNote := p.notesFrom [] actions

theorem suffix_notesFrom (p : Pool α) (notes : List DropNote) (actions : List (PoolAction α)) :
    notes <:+ p.notesFrom notes actions := by
  induction actions generalizing p notes with
  | nil => exact List.suffix_rfl
  | cons action rest ih =>
    rw [notesFrom]
    split
    · exact List.suffix_rfl
    · exact (List.suffix_append _ notes).trans (ih _ _)

theorem filterMap_warnedCount? (warning : Nat → PoolEffect α)
    (hwarning : ∀ count, (warning count).warnedCount? = some count) (count : Option Nat) :
    (count.toList.map warning).filterMap PoolEffect.warnedCount? = count.toList := by
  cases count with
  | none => rfl
  | some n => exact List.filterMap_cons_some (hwarning n)

/-- The counter and the warnings of a run are what its notes say, and each note follows from those
before it. -/
structure Accounted (interval : Nat) (p : Pool α) (past : List (PoolEffect α))
    (notes : List DropNote) : Prop where
  interval_eq : p.drops.interval = interval
  tallied : p.drops.Tallied notes
  follows : ∀ {note : DropNote} {before : List DropNote}, note :: before <:+ notes →
    Follows interval before note
  seen : past.filterMap PoolEffect.warnedCount? = notes.reverse.filterMap DropNote.warned

theorem accounted_new (config : PoolConfig) :
    Accounted config.warnInterval (new config : Pool α) [] [] where
  interval_eq := rfl
  tallied := DropCounter.tallied_nil config.warnInterval
  follows := fun h => by simp at h
  seen := rfl

variable {interval : Nat} {p q : Pool α} {past seen : List (PoolEffect α)} {notes : List DropNote}

/-- A step that has nothing to do with refused calls. -/
theorem Accounted.unmoved (hp : Accounted interval p past notes) (hdrops : q.drops = p.drops)
    (hseen : seen.filterMap PoolEffect.warnedCount? = []) :
    Accounted interval q (past ++ seen) notes where
  interval_eq := hdrops ▸ hp.interval_eq
  tallied := hdrops ▸ hp.tallied
  follows := hp.follows
  seen := by rw [List.filterMap_append, hseen, List.append_nil, hp.seen]

/-- A step that leaves a note. -/
theorem Accounted.noted {note : DropNote} (hp : Accounted interval p past notes)
    (hinterval : q.drops.interval = p.drops.interval)
    (hnote : Follows p.drops.interval notes note ∧ q.drops.Tallied (note :: notes))
    (hseen : seen.filterMap PoolEffect.warnedCount? = note.warned.toList) :
    Accounted interval q (past ++ seen) (note :: notes) where
  interval_eq := hinterval.trans hp.interval_eq
  tallied := hnote.2
  follows := fun h => by
    rcases List.suffix_cons_iff.1 h with heq | hbefore
    · cases heq
      exact hp.interval_eq ▸ hnote.1
    · exact hp.follows hbefore
  seen := by
    rw [List.filterMap_append, hseen, hp.seen, List.reverse_cons, List.filterMap_append]
    cases hwarned : note.warned <;> simp [hwarned]

/-- The note of a refused call. -/
def refusalNote (p : Pool α) (now : Nat) : DropNote :=
  ⟨now, true, (p.drops.recordDrop.warnIfDue now).1⟩

theorem filterMap_refuse_warned (p : Pool α) (call now : Nat) (event : α) (reason : Refusal) :
    (p.refuse call now event reason).2.filterMap PoolEffect.warnedCount?
      = (p.refusalNote now).warned.toList :=
  filterMap_warnedCount? (.warnedOfDrops reason) (fun _ => rfl) _

theorem note?_refuse {call : Nat} {old : SendCall α} (hcall : p.sends[call]? = some old)
    (now : Nat) (event : α) (reason : Refusal) :
    (p.refuse call now event reason).1.note? (p.refuse call now event reason).2
      (.takeHandle call now) = some (p.refusalNote now) := by
  have hrefused : (p.refuse call now event reason).1.sends[call]?
      = some (.refused event reason.error) :=
    getElem?_set_new hcall _
  rw [note?, hrefused, filterMap_refuse_warned, Option.head?_toList]
  rfl

/-- A call of sending is refused. -/
theorem Accounted.refuse (hp : Accounted interval p past notes) {now : Nat}
    (hclock : ∀ note ∈ notes, note.time ≤ now) (call : Nat) (event : α) (reason : Refusal) :
    Accounted interval (p.refuse call now event reason).1
      (past ++ (p.refuse call now event reason).2) (p.refusalNote now :: notes) :=
  hp.noted (DropCounter.warnIfDue_interval p.drops.recordDrop now) (hp.tallied.refuse hclock)
    (filterMap_refuse_warned ..)

/-- **Every step keeps the account**, if the clock does not go back. -/
theorem Accounted.step {action : PoolAction α} (hp : Accounted interval p past notes)
    (h : Step p action q seen)
    (hclock : ∀ note ∈ q.note? seen action, ∀ old ∈ notes, old.time ≤ note.time) :
    Accounted interval q (past ++ seen) ((q.note? seen action).toList ++ notes) := by
  -- a refused call of sending, wherever it was refused
  have refused {call now : Nat} {old : SendCall α} (hcall : p.sends[call]? = some old) (event : α)
      (reason : Refusal) {note : Option DropNote}
      (hnote : note = (p.refuse call now event reason).1.note?
        (p.refuse call now event reason).2 (.takeHandle call now))
      (hnew : ∀ n ∈ note, ∀ old ∈ notes, old.time ≤ n.time) :
      Accounted interval (p.refuse call now event reason).1
        (past ++ (p.refuse call now event reason).2) (note.toList ++ notes) := by
    rw [note?_refuse hcall] at hnote
    subst hnote
    exact hp.refuse (hnew _ rfl) call event reason
  cases h with
  | refuseClosed hcall => exact refused hcall _ .closed rfl hclock
  | refuseGone hcall => exact refused hcall _ .workersGone rfl hclock
  | refuseFull hcall => exact refused hcall _ .full rfl hclock
  | takeHandle hcall | accept hcall =>
    -- the call is not refused, so that there is no note
    rw [note?, setSend, getElem?_set_new hcall]
    exact hp.unmoved rfl rfl
  | @flush call now =>
    have hseen := filterMap_warnedCount? (α := α) .warnedAtEnd (fun _ => rfl) (p.drops.flush now).1
    rw [note?, hseen, Option.head?_toList]
    exact hp.noted (p.drops.flush_interval now) (hp.tallied.flush now) hseen
  | _ => exact hp.unmoved rfl rfl

/-- What the counter and the warnings are after a run. -/
theorem Accounted.run : ∀ {actions : List (PoolAction α)} {p q : Pool α}
    {past seen : List (PoolEffect α)} {notes : List DropNote}, Accounted interval p past notes →
    p.run? actions = some (q, seen) →
    ((p.notesFrom notes actions).Pairwise fun newer older => older.time ≤ newer.time) →
    Accounted interval q (past ++ seen) (p.notesFrom notes actions)
  | [], p, q, past, seen, notes, hp, h, _ => by
    cases h
    simpa [notesFrom] using hp
  | action :: rest, p, q, past, seen, notes, hp, h, hclock => by
    simp only [run?, Option.bind_eq_some_iff, Option.map_eq_some_iff, Prod.exists,
      Prod.mk.injEq] at h
    obtain ⟨next, first, hfirst, last, later, hrest, rfl, rfl⟩ := h
    rw [notesFrom, hfirst] at hclock ⊢
    rw [← List.append_assoc]
    -- the notes so far are the end of all notes, so that their times are in order, too
    have hsofar := hclock.sublist (next.suffix_notesFrom _ rest).sublist
    refine Accounted.run (hp.step (step_of_step? hfirst) fun note hnote old hold => ?_) hrest hclock
    exact (List.pairwise_append.1 hsofar).2.2 note (Option.mem_toList.2 hnote) old hold

/-- **Refused calls are accounted for.**  After any run in which the clock does not go back between
refused calls and closing:

* the drop counter counts the calls that were refused, and each of them left a note;
* each note follows from those before it, which says which refused call warns, whether closing does,
  and of how many calls;
* what was warned of and what is left add up to the drop counter;
* the warnings seen are those of the notes. -/
theorem drops_accounted {config : PoolConfig} {actions : List (PoolAction α)} {p : Pool α}
    {seen : List (PoolEffect α)} (h : (new config).run? actions = some (p, seen))
    (hclock : ((new config : Pool α).dropNotes actions).Pairwise
      fun newer older => older.time ≤ newer.time) :
    p.drops.total = p.sends.countP SendCall.isRefused
      ∧ refusals ((new config : Pool α).dropNotes actions) = p.drops.total
      ∧ (∀ {note : DropNote} {past : List DropNote},
          note :: past <:+ (new config : Pool α).dropNotes actions →
          Follows config.warnInterval past note)
      ∧ reported ((new config : Pool α).dropNotes actions)
          + unreported ((new config : Pool α).dropNotes actions) = p.drops.total
      ∧ seen.filterMap PoolEffect.warnedCount?
          = ((new config : Pool α).dropNotes actions).reverse.filterMap DropNote.warned := by
  have hend := (accounted_new config).run h hclock
  refine ⟨refusals_run h, hend.tallied.total.symm, hend.follows, ?_, hend.seen⟩
  exact hend.tallied.conserved.trans hend.tallied.total.symm

/-- A worker that never looks at the queue, and room for one event.  After the first call of sending
the queue is full; four calls are refused at 3, 7, 13 and 15, closing warns at 20, and two calls
come after it at 25 and 30. -/
def refusedActions : List (PoolAction Nat) := [
  .beginSend 1, .takeHandle 0 0, .enqueue 0 0,
  .beginSend 2, .takeHandle 1 3, .enqueue 1 3,
  .beginSend 3, .takeHandle 2 7, .enqueue 2 7,
  .beginSend 4, .takeHandle 3 13, .enqueue 3 13,
  .beginSend 5, .takeHandle 4 15, .enqueue 4 15,
  .beginClose, .claim 0, .dropHandle 0, .giveUp 0, .abandon 0, .flush 0 20,
  .beginSend 6, .takeHandle 5 25, .beginSend 7, .takeHandle 6 30]

/-- The notes of it, when a warning may come every ten milliseconds. -/
def refusedNotes : List DropNote := [
  ⟨30, true, some 2⟩, ⟨25, true, none⟩, ⟨20, false, some 1⟩, ⟨15, true, none⟩, ⟨13, true, some 2⟩,
  ⟨7, true, none⟩, ⟨3, true, some 1⟩]

/-- The pool after it. -/
def refusedEnd : Pool Nat where
  config := { threads := 1, queueCapacity := 1, warnInterval := 10, propagateClose := false }
  hasHandle := false
  isClosed := true
  isAbandoned := true
  queue := [1]
  workers := [.waiting]
  sends := [.accepted 1, .refused 2 .queueFull, .refused 3 .queueFull, .refused 4 .queueFull,
    .refused 5 .queueFull, .refused 6 .closed, .refused 7 .closed]
  closes := [.returned .done]
  drops := { interval := 10, lastWarning := 30, hasWarned := true, total := 6 }

/-- What was seen of it. -/
def refusedSeen : List (PoolEffect Nat) := [
  .accepted 1, .warnedOfDrops .full 1, .warnedOfDrops .full 2, .warnedOfBusy 1, .warnedAtEnd 1,
  .warnedOfDrops .closed 2]

theorem drops_accounted_refused :
    (new refusedEnd.config).run? refusedActions = some (refusedEnd, refusedSeen)
      ∧ (new refusedEnd.config : Pool Nat).dropNotes refusedActions = refusedNotes
      ∧ (refusedNotes.Pairwise fun newer older => older.time ≤ newer.time)
      ∧ refusals refusedNotes = 6 ∧ reported refusedNotes + unreported refusedNotes = 6
      ∧ refusedSeen.filterMap PoolEffect.warnedCount? = [1, 2, 1, 2] := by
  have hrun : (new refusedEnd.config).run? refusedActions = some (refusedEnd, refusedSeen) := by
    decide
  have hnotes : (new refusedEnd.config : Pool Nat).dropNotes refusedActions = refusedNotes := by
    decide
  have hclock : refusedNotes.Pairwise fun newer older => older.time ≤ newer.time := by decide
  obtain ⟨-, hcount, -, hconserved, hseen⟩ := drops_accounted hrun (hnotes ▸ hclock)
  rw [hnotes] at hcount hconserved hseen
  exact ⟨hrun, hnotes, hclock, hcount, hconserved, hseen⟩

end Pool
end ErrorReport
