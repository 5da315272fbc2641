import ErrorReport.Marshaller.Binding
import ErrorReport.Proofs.Dictionary
import ErrorReport.Proofs.Frame

/-!
# What a chain of errors is written as

A chain is written as one object for each error, outermost first, and a stack as one object for each
frame, outermost call first, which is the other way round than frames are listed.
`Value.HasMembers` says what an object has and that it has nothing else.

The one thing that is not copied is the flag `in_app`.  A frame loses it in two ways: the filter
excludes the frame, or the frame is hidden.  `TraceBinding.Hides` says of a chain which frames those
are: the ones that an error shares with the error that caused it, if shared frames are to be hidden.
`write_chain` puts it all together.

A stack may also be written on its own.  The stack of a chain is then written like the one of its
outermost error, and like a stack that is counted against the cause's by hand (`stacks_agree`).
-/

set_option autoImplicit false

namespace ErrorReport

open Json (Value)

/-! ## Objects -/

/-- The value is an object whose members are the fields that have a value, in ascending order of
their names. -/
def Json.Value.HasMembers (v : Value) (fields : List (String × Option Value)) : Prop :=
  ∃ members, v = .object members ∧ (members.map (·.1)).Pairwise (· < ·) ∧
    ∀ name value, (name, value) ∈ members ↔ (name, some value) ∈ fields

section HasMembers

variable {v : Value} {fields : List (String × Option Value)} {name : String}

theorem Json.Value.HasMembers.member?_eq_some_iff (h : v.HasMembers fields) {value : Value} :
    v.member? name = some value ↔ (name, some value) ∈ fields := by
  obtain ⟨members, rfl, hascending, hmembers⟩ := h
  rw [← hmembers]
  exact ⟨Dictionary.mem_of_lookup, Dictionary.lookup_of_mem (List.pairwise_map.1 hascending)⟩

/-- The member of a name is the field of that name, where there is one such field. -/
theorem Json.Value.HasMembers.member?_eq (h : v.HasMembers fields) {field : Option Value}
    (hfield : ∀ other, (name, other) ∈ fields ↔ other = field) : v.member? name = field := by
  refine Option.ext fun value => ?_
  rw [h.member?_eq_some_iff, hfield]
  exact eq_comm

end HasMembers

/-- The fields of a frame and the flag that goes with it. -/
def Frame.fields (f : Frame) (isInApp : Bool) : List (String × Option Value) :=
  [("module", some (.string f.modulePath)), ("function", some (.string f.function)),
    ("filename", f.file.map .string), ("lineno", f.line.map .nat), ("in_app", some (.bool isInApp))]

/-- The fields of an error and the frames that go with it. -/
def Exception.fields (e : Exception) (frames : List Value) : List (String × Option Value) :=
  [("type", some (.string e.typeName)), ("value", some (.string e.message)),
    ("module", e.modulePath.map .string),
    ("stacktrace", some (.object [("frames", .array frames)]))]

section OptionalMember

variable {α : Type} (name : String) (value : α → Value) (a : Option α)

theorem mem_optionalMember {other : String} {v : Value} :
    (other, v) ∈ optionalMember name value a ↔ other = name ∧ some v = a.map value := by
  cases a <;> simp [optionalMember]

theorem optionalMember_sublist : ((optionalMember name value a).map (·.1)).Sublist [name] := by
  cases a <;> simp [optionalMember]

end OptionalMember

/-- The stack of an error with a cause is counted against the stack of the cause. -/
theorem StackTrace.ofChain_eq_within (outer cause : Exception) (causes : List Exception) :
    ofChain ⟨outer :: cause :: causes⟩ = within outer.frames cause.frames := rfl

namespace TraceBinding

variable {b : TraceBinding}

theorem hasMembers_frameValue (f : Frame) (isInApp : Bool) :
    (frameValue f isInApp).HasMembers (f.fields isInApp) := by
  refine ⟨_, rfl, ?_, fun name value => ?_⟩
  · have hall : ["filename", "function", "in_app", "lineno", "module"].Pairwise (· < ·) := by decide
    refine hall.sublist ?_
    simp only [List.map_append]
    exact (((optionalMember_sublist _ _ _).append (.refl ["function", "in_app"])).append
      (optionalMember_sublist _ _ _)).append (.refl ["module"])
  · simp only [List.mem_append, mem_optionalMember, Frame.fields, List.mem_cons, Prod.mk.injEq,
      Option.some.injEq, List.not_mem_nil, or_false]
    tauto

theorem hasMembers_exceptionValue (e : Exception) (shared : Nat) :
    (b.exceptionValue e shared).HasMembers (e.fields (b.frameValues e.frames shared)) := by
  refine ⟨_, rfl, ?_, fun name value => ?_⟩
  · have hall : ["module", "stacktrace", "type", "value"].Pairwise (· < ·) := by decide
    refine hall.sublist ?_
    simp only [List.map_append]
    exact (optionalMember_sublist _ _ _).append (.refl ["stacktrace", "type", "value"])
  · simp only [List.mem_append, mem_optionalMember, Exception.fields, List.mem_cons, Prod.mk.injEq,
      Option.some.injEq, List.not_mem_nil, or_false, traceValue]
    tauto

/-! ## The flag -/

/-- The filter puts a frame outside the application. -/
def Excludes (b : TraceBinding) (f : Frame) : Prop :=
  ∃ stem ∈ b.filter.outside, FrameFilter.excludes stem f = true

/-- A frame loses the flag if it is excluded or among the last ones that are hidden. -/
theorem isInApp_eq_false_iff {count shared index : Nat} {f : Frame} :
    b.isInApp count shared index f = false ↔
      b.Excludes f ∨ (b.hidesShared = true ∧ count - shared ≤ index) := by
  rw [isInApp, Bool.and_eq_false_iff, FrameFilter.isInApp, Bool.not_eq_false', Bool.not_eq_false',
    Bool.and_eq_true, decide_eq_true_eq, List.any_eq_true, or_comm]
  rfl

/-! ## Frames -/

/-- The frames of a stack as they are written, outermost call first: each has its own fields, and
the flag unless it is excluded or hidden. -/
def Writes (b : TraceBinding) (hidden : Nat → Prop) (frames : List Frame) (written : List Value) :
    Prop :=
  written.length = frames.length ∧
    ∀ index f, frames[index]? = some f → ∃ value isInApp,
      written.reverse[index]? = some value ∧ value.HasMembers (f.fields isInApp) ∧
        (isInApp = false ↔ b.Excludes f ∨ hidden index)

theorem writes_frameValues (b : TraceBinding) (frames : List Frame) (shared : Nat) :
    b.Writes (fun index => b.hidesShared = true ∧ frames.length - shared ≤ index) frames
      (b.frameValues frames shared) := by
  refine ⟨by simp [frameValues], fun index f hf => ?_⟩
  refine ⟨_, b.isInApp frames.length shared index f, ?_, hasMembers_frameValue f _,
    isInApp_eq_false_iff⟩
  rw [frameValues, List.reverse_reverse, List.getElem?_mapIdx, hf]
  rfl

theorem Writes.congr {hidden hidden' : Nat → Prop} {frames : List Frame} {written : List Value}
    (h : b.Writes hidden frames written)
    (hsame : ∀ index < frames.length, hidden index ↔ hidden' index) :
    b.Writes hidden' frames written := by
  refine ⟨h.1, fun index f hf => ?_⟩
  obtain ⟨value, isInApp, hvalue, hfields, hflag⟩ := h.2 index f hf
  have hindex : index < frames.length := (List.getElem?_eq_some_iff.1 hf).1
  exact ⟨value, isInApp, hvalue, hfields, by rw [hflag, hsame index hindex]⟩

/-! ## Chains -/

/-- The frame at an index of the error at a place is hidden: shared frames are, and the error that
comes next, its cause, has the frame in common with it. -/
def Hides (b : TraceBinding) (c : Chain) (place index : Nat) : Prop :=
  b.hidesShared = true ∧ ∃ e cause, c.exceptions[place]? = some e ∧
    c.exceptions[place + 1]? = some cause ∧ IsShared e.frames cause.frames index

theorem hides_iff {c : Chain} {place index : Nat} {e : Exception}
    (he : c.exceptions[place]? = some e) (hindex : index < e.frames.length) :
    b.Hides c place index ↔
      b.hidesShared = true ∧ e.frames.length - c.sharedWithCause place ≤ index := by
  rw [Hides, Chain.sharedWithCause, he]
  refine and_congr_right fun _ => ?_
  cases hcause : c.exceptions[place + 1]? with
  | none => simpa using hindex
  | some cause => simp [isShared_iff]

/-- **An error of a chain is written with its own fields and its frames the other way round, and the
cause alone decides which frames are hidden.**  The innermost error has no hidden frames, and where
shared frames are not hidden, no other error matters. -/
theorem write_chain (b : TraceBinding) (c : Chain) :
    ∃ entries, (Binding.exception b).write (.exception c) = .ok (.array entries) ∧
      entries.length = c.exceptions.length ∧
      ∀ place e, c.exceptions[place]? = some e → ∃ entry frames,
        entries[place]? = some entry ∧ entry.HasMembers (e.fields frames) ∧
        b.Writes (b.Hides c place) e.frames frames ∧
        (place + 1 = c.exceptions.length ∨ b.hidesShared = false →
          b.Writes (fun _ => False) e.frames frames) := by
  refine ⟨_, rfl, by simp, fun place e he => ?_⟩
  have hwrites : b.Writes (b.Hides c place) e.frames
      (b.frameValues e.frames (c.sharedWithCause place)) :=
    (writes_frameValues b e.frames _).congr fun index hindex => (hides_iff he hindex).symm
  refine ⟨_, _, ?_, hasMembers_exceptionValue e (c.sharedWithCause place), hwrites, fun hnone => ?_⟩
  · rw [List.getElem?_mapIdx, he]
    rfl
  · refine hwrites.congr fun index _ => iff_false_intro ?_
    rintro ⟨hhides, -, cause, -, hcause, -⟩
    rcases hnone with hlast | hoff
    · have := (List.getElem?_eq_some_iff.1 hcause).1
      omega
    · exact absurd hhides (by simp [hoff])

/-! ## A stack on its own -/

/-- The first entry for a chain is that of its outermost error. -/
theorem chainValue_cons (b : TraceBinding) (outer : Exception) (causes : List Exception) :
    ∃ entries, b.chainValue ⟨outer :: causes⟩ =
      .array (b.exceptionValue outer (Chain.sharedWithCause ⟨outer :: causes⟩ 0) :: entries) :=
  ⟨_, by rw [chainValue, List.mapIdx_cons]⟩

/-- An entry has the stack of its error in one place. -/
theorem mem_stacktrace_exceptionValue (b : TraceBinding) (e : Exception) (shared : Nat) :
    ∃ members, b.exceptionValue e shared = .object members ∧
      ∀ value, ("stacktrace", value) ∈ members ↔ value = b.traceValue e.frames shared := by
  obtain ⟨members, hentry, -, hmembers⟩ := hasMembers_exceptionValue (b := b) e shared
  refine ⟨members, hentry, fun value => (hmembers _ value).trans ?_⟩
  simp [Exception.fields, traceValue]

/-- **The stack of a chain is written alike on its own and within the chain**: the value for it is
the one stack in the first entry for the chain.  If the outermost error has a cause, that is also what
is written for its frames within those of the cause. -/
theorem stacks_agree (b : TraceBinding) (outer : Exception) (causes : List Exception) :
    ∃ value members entries,
      (Binding.stackTrace b).write (.stackTrace (.ofChain ⟨outer :: causes⟩)) = .ok value ∧
      (Binding.exception b).write (.exception ⟨outer :: causes⟩) =
        .ok (.array (.object members :: entries)) ∧
      (∀ other, ("stacktrace", other) ∈ members ↔ other = value) ∧
      ∀ cause ∈ causes.head?,
        (Binding.stackTrace b).write (.stackTrace (.within outer.frames cause.frames)) =
          .ok value := by
  obtain ⟨entries, hchain⟩ := chainValue_cons b outer causes
  obtain ⟨members, hentry, hmembers⟩ :=
    mem_stacktrace_exceptionValue b outer (Chain.sharedWithCause ⟨outer :: causes⟩ 0)
  refine ⟨_, members, entries, rfl, ?_, hmembers, fun cause hcause => ?_⟩
  · rw [Binding.write, hchain, hentry]
  · cases causes with
    | nil => exact absurd hcause (by simp)
    | cons first causes =>
      obtain rfl := Option.mem_some_iff.1 hcause
      rw [← StackTrace.ofChain_eq_within outer first causes]
      rfl

end TraceBinding

end ErrorReport
