import ErrorReport.Proofs.Marshaller.Document

/-!
# Payloads under the wrong name

Bindings are found by the name of a payload, but what a binding can write is up to the kind of the
payload, and any payload may go by any name.  So a payload is written, or skipped because its name
has no binding, or it clashes with the binding of its name (`Marshaller.Clashes`).

Payloads are gone through in ascending order of their names.  Those that do not clash leave members
and warnings behind and nothing else (`payloadMembers_append`), so it is the first clash that decides
(`writeInto_mismatch`).
-/

set_option autoImplicit false

namespace ErrorReport

open Json (Value)

/-! ## Kinds -/

/-- The kinds of payloads that have a binding of their own. -/
inductive Payload.Kind where
  | message
  | exception
  | stackTrace
  | http
  deriving DecidableEq, Repr

/-- The name that payloads of a kind go by. -/
def Payload.Kind.name : Payload.Kind → String
  | message => messageName
  | exception => exceptionName
  | stackTrace => stackTraceName
  | http => httpName

/-- The kind of a payload, unless it is of an application's own. -/
def Payload.kind? : Payload → Option Payload.Kind
  | message _ => some .message
  | exception _ => some .exception
  | stackTrace _ => some .stackTrace
  | http _ => some .http
  | custom _ _ => none

/-- The kind of payloads that a binding is for, unless it is an application's own. -/
def Binding.kind? : Binding → Option Payload.Kind
  | message => some .message
  | exception _ => some .exception
  | stackTrace _ => some .stackTrace
  | http => some .http
  | custom _ => none

/-- A binding writes the payloads of its kind. -/
theorem Binding.exists_write_eq_ok {b : Binding} {k : Payload.Kind} {p : Payload}
    (hb : b.kind? = some k) (hp : p.kind? = some k) : ∃ value, b.write p = .ok value := by
  cases b with
  | custom => exact absurd hb (by simp [kind?])
  | _ =>
    obtain rfl := Option.some.inj hb
    cases p with
    | custom => exact absurd hp (by simp [Payload.kind?])
    | _ => first | exact ⟨_, rfl⟩ | exact absurd hp (by simp [Payload.kind?])

/-- A binding refuses all others, and says what it is for. -/
theorem Binding.write_eq_error {b : Binding} {k : Payload.Kind} {p : Payload}
    (hb : b.kind? = some k) (hp : p.kind? ≠ some k) :
    b.write p = .error (.unexpectedPayload k.name) := by
  cases b with
  | custom => exact absurd hb (by simp [kind?])
  | _ =>
    obtain rfl := Option.some.inj hb
    cases p with
    | custom => rfl
    | _ => first | rfl | exact absurd rfl hp

namespace Marshaller

variable {m : Marshaller} {e : Event} {w : Writer}

/-! ## One payload after the other -/

/-- If the payload has a binding, it is written without error. -/
def IsAccepted (m : Marshaller) (entry : String × Payload) : Prop :=
  ∀ binding, m.bindings.get? entry.1 = some binding → ∃ value, binding.write entry.2 = .ok value

/-- The warnings for those of some payloads that have no binding. -/
def warnings (m : Marshaller) (entries : List (String × Payload)) : List LogRecord :=
  ((entries.map (·.1)).filter fun name => !m.hasBinding name).map skipWarning

/-- **Accepted payloads leave members and warnings behind, whatever follows them.** -/
theorem payloadMembers_append {before : List (String × Payload)}
    (h : ∀ entry ∈ before, m.IsAccepted entry) (rest : List (String × Payload)) :
    ∃ members, m.payloadMembers (before ++ rest) =
      ((m.payloadMembers rest).1.map (members ++ ·),
        m.warnings before ++ (m.payloadMembers rest).2) := by
  induction before with
  | nil =>
    refine ⟨[], ?_⟩
    show m.payloadMembers rest = ((m.payloadMembers rest).1.map id, (m.payloadMembers rest).2)
    rw [Except.map_id]
    rfl
  | cons entry before ih =>
    obtain ⟨name, payload⟩ := entry
    obtain ⟨members, hmembers⟩ := ih fun other hother => h other (List.mem_cons_of_mem _ hother)
    rw [List.cons_append, payloadMembers]
    cases hget : m.bindings.get? name with
    | none =>
      have hno : m.hasBinding name = false := by rw [hasBinding, Dictionary.contains, hget]; rfl
      refine ⟨members, ?_⟩
      simp [hmembers, warnings, hno]
    | some binding =>
      have hhas : m.hasBinding name = true := by rw [hasBinding, Dictionary.contains, hget]; rfl
      obtain ⟨value, hwrite⟩ := h (name, payload) List.mem_cons_self binding hget
      refine ⟨(name, value) :: members, ?_⟩
      simp only [hwrite, hmembers]
      refine Prod.ext ?_ ?_
      · cases (m.payloadMembers rest).1 <;> rfl
      · simp [warnings, hhas]

/-- Accepted payloads have all their members, and a warning for each that has no binding. -/
theorem exists_members {entries : List (String × Payload)}
    (h : ∀ entry ∈ entries, m.IsAccepted entry) :
    ∃ members, m.payloadMembers entries = (.ok members, m.warnings entries) := by
  obtain ⟨members, hmembers⟩ := payloadMembers_append h []
  rw [List.append_nil] at hmembers
  exact ⟨members, by simpa [payloadMembers, Except.map] using hmembers⟩

/-- An event whose payloads are accepted has a document. -/
theorem exists_document (h : ∀ entry ∈ e.payloads.entries, m.IsAccepted entry) :
    ∃ document, m.document? e = .ok document ∧ m.log e = m.warnings e.payloads.entries := by
  obtain ⟨members, hmembers⟩ := exists_members h
  exact ⟨_, by rw [document?, hmembers]; rfl, by rw [log, hmembers]⟩

theorem exists_bytes (h : ∀ entry ∈ e.payloads.entries, m.IsAccepted entry) :
    ∃ bytes, m.bytes? e = .ok bytes := by
  obtain ⟨document, hdocument, -⟩ := exists_document h
  exact ⟨m.packed document, by rw [bytes?, hdocument]; rfl⟩

/-! ## The first clash -/

/-- The binding of the payload's name is for payloads of a kind, and the payload is of another. -/
def Clashes (m : Marshaller) (entry : String × Payload) (expected : Payload.Kind) : Prop :=
  ∃ binding, m.bindings.get? entry.1 = some binding ∧ binding.kind? = some expected ∧
    entry.2.kind? ≠ some expected

/-- All bindings of the marshaller are for one of the kinds. -/
def HasKinds (m : Marshaller) : Prop :=
  ∀ name binding, m.bindings.get? name = some binding → ∃ kind, binding.kind? = some kind

/-- What does not clash is accepted. -/
theorem HasKinds.isAccepted (hm : m.HasKinds) {entry : String × Payload}
    (h : ∀ kind, ¬m.Clashes entry kind) : m.IsAccepted entry := by
  intro binding hget
  obtain ⟨kind, hkind⟩ := hm entry.1 binding hget
  refine Binding.exists_write_eq_ok hkind ?_
  by_contra hother
  exact h kind ⟨binding, hget, hkind, hother⟩

/-- Writing ends with a payload that clashes, and what was to follow it leaves no warnings. -/
theorem payloadMembers_of_clashes {before after : List (String × Payload)}
    {entry : String × Payload} {expected : Payload.Kind}
    (hbefore : ∀ earlier ∈ before, m.IsAccepted earlier) (hclash : m.Clashes entry expected) :
    m.payloadMembers (before ++ entry :: after) =
      (.error (.unexpectedPayload expected.name), m.warnings before) := by
  obtain ⟨name, payload⟩ := entry
  obtain ⟨binding, hget, hkind, hother⟩ := hclash
  have hfirst : m.payloadMembers ((name, payload) :: after) =
      (.error (.unexpectedPayload expected.name), []) := by
    simp only at hget hother
    simp only [payloadMembers, hget, Binding.write_eq_error hkind hother]
  obtain ⟨members, hmembers⟩ := payloadMembers_append hbefore ((name, payload) :: after)
  rw [hmembers, hfirst, List.append_nil]
  rfl

theorem writeInto_of_clashes (hm : m.HasKinds) {before after : List (String × Payload)}
    {entry : String × Payload} {expected : Payload.Kind}
    (hentries : e.payloads.entries = before ++ entry :: after)
    (hbefore : ∀ earlier ∈ before, ∀ kind, ¬m.Clashes earlier kind)
    (hclash : m.Clashes entry expected) (w : Writer) :
    (m.writeInto w e).error = some (.unexpectedPayload expected.name) ∧
      (m.compression = false → (m.writeInto w e).taken = []) ∧ m.log e = m.warnings before := by
  have hmembers : m.payloadMembers (before ++ entry :: after) =
      (.error (.unexpectedPayload expected.name), m.warnings before) :=
    payloadMembers_of_clashes (fun earlier hearlier => hm.isAccepted (hbefore earlier hearlier))
      hclash
  have hdocument : m.document? e = .error (.unexpectedPayload expected.name) := by
    rw [document?, hentries, hmembers]
    rfl
  obtain ⟨herror, htaken⟩ := writeInto_of_error hdocument w
  exact ⟨herror, htaken, by rw [log, hentries, hmembers]⟩

/-- Where payloads clash, one of them is the first. -/
theorem exists_first_clash {entries : List (String × Payload)} {entry : String × Payload}
    (hentry : entry ∈ entries) (hclash : ∃ kind, m.Clashes entry kind) :
    ∃ before first after kind, entries = before ++ first :: after ∧
      (∀ earlier ∈ before, ∀ kind, ¬m.Clashes earlier kind) ∧ m.Clashes first kind := by
  classical
  have hsome : (entries.find? fun entry => decide (∃ kind, m.Clashes entry kind)).isSome = true :=
    List.find?_isSome.2 ⟨entry, hentry, decide_eq_true hclash⟩
  obtain ⟨first, hfirst⟩ := Option.isSome_iff_exists.1 hsome
  obtain ⟨hclash, before, after, hentries, hbefore⟩ := List.find?_eq_some_iff_append.1 hfirst
  obtain ⟨kind, hclash⟩ := of_decide_eq_true hclash
  refine ⟨before, first, after, kind, hentries, fun earlier hearlier kind hother => ?_, hclash⟩
  have hnot := hbefore earlier hearlier
  rw [decide_eq_true ⟨kind, hother⟩] at hnot
  exact absurd hnot (by simp)

/-- **The first clash decides.** -/
theorem writeInto_mismatch (hm : m.HasKinds) (e : Event) (hw : w.IsEndless) :
    e.payloads.entries.Pairwise (fun a b => Text.bytesOf a.1 < Text.bytesOf b.1) ∧
    ((∃ name, (m.writeInto w e).error = some (.unexpectedPayload name)) ↔
      ∃ entry ∈ e.payloads.entries, ∃ kind, m.Clashes entry kind) ∧
    (∀ before entry after expected, e.payloads.entries = before ++ entry :: after →
      (∀ earlier ∈ before, ∀ kind, ¬m.Clashes earlier kind) → m.Clashes entry expected →
      (m.writeInto w e).error = some (.unexpectedPayload expected.name) ∧
        (m.compression = false → (m.writeInto w e).taken = []) ∧ m.log e = m.warnings before) ∧
    ((∀ entry ∈ e.payloads.entries, ∀ kind, ¬m.Clashes entry kind) →
      (m.writeInto w e).error = none ∧ m.log e = m.warnings e.payloads.entries) := by
  have hclean : (∀ entry ∈ e.payloads.entries, ∀ kind, ¬m.Clashes entry kind) →
      (m.writeInto w e).error = none ∧ m.log e = m.warnings e.payloads.entries := by
    intro h
    obtain ⟨document, hdocument, hlog⟩ := exists_document fun entry hentry =>
      hm.isAccepted (h entry hentry)
    exact ⟨by rw [writeInto_endless hw hdocument], hlog⟩
  refine ⟨?_, ⟨?_, ?_⟩, ?_, hclean⟩
  · exact e.payloads.ascending.imp fun hlt => Text.bytesOf_lt hlt
  · rintro ⟨name, hname⟩
    by_contra hnone
    have hdone := (hclean fun entry hentry kind hclash => hnone ⟨entry, hentry, kind, hclash⟩).1
    exact absurd (hdone.symm.trans hname) (by simp)
  · rintro ⟨entry, hentry, hclash⟩
    obtain ⟨before, first, after, kind, hentries, hbefore, hfirst⟩ :=
      exists_first_clash hentry hclash
    exact ⟨_, (writeInto_of_clashes hm hentries hbefore hfirst w).1⟩
  · intro before entry after expected hentries hbefore hclash
    exact writeInto_of_clashes hm hentries hbefore hclash w

/-- A marshaller with bindings under names of all sorts. -/
def mixedMarshaller : Marshaller where
  bindings := ⟨[("a", .message), ("c", .http), ("d", .exception {})], by decide⟩
  compression := false

/-- An event whose payloads are written, skipped, and refused, in this order and once more. -/
def mixedEvent : Event :=
  { sampleEvent with
    payloads := ⟨[("a", .message ⟨"gap", []⟩), ("b", .stackTrace ⟨[], 0⟩),
      ("c", .message ⟨"gap", []⟩), ("d", .stackTrace ⟨[], 0⟩), ("e", .custom "e" .null)], by decide⟩ }

theorem hasKinds_mixedMarshaller : mixedMarshaller.HasKinds := by
  intro name binding hget
  have hentry := Dictionary.get?_eq_some_iff.1 hget
  simp only [mixedMarshaller, List.mem_cons, Prod.mk.injEq, List.not_mem_nil, or_false] at hentry
  rcases hentry with ⟨-, rfl⟩ | ⟨-, rfl⟩ | ⟨-, rfl⟩
  all_goals exact ⟨_, rfl⟩

theorem writeInto_mismatch_mixed :
    mixedMarshaller.HasKinds ∧ Writer.growing.IsEndless ∧
      (mixedMarshaller.writeInto .growing mixedEvent).error =
        some (.unexpectedPayload Payload.httpName) ∧
      (mixedMarshaller.writeInto .growing mixedEvent).taken = [] ∧
      mixedMarshaller.log mixedEvent = [skipWarning "b"] := by
  obtain ⟨-, -, hfirst, -⟩ :=
    writeInto_mismatch hasKinds_mixedMarshaller mixedEvent Writer.isEndless_growing
  have hclash : mixedMarshaller.Clashes ("c", .message ⟨"gap", []⟩) .http :=
    ⟨.http, by rfl, rfl, by decide⟩
  have hclean : ∀ entry ∈ [("a", Payload.message ⟨"gap", []⟩), ("b", .stackTrace ⟨[], 0⟩)],
      ∀ kind, ¬mixedMarshaller.Clashes entry kind := by
    rw [List.forall_mem_cons, List.forall_mem_singleton]
    refine ⟨?_, ?_⟩
    · rintro kind ⟨binding, hget, hkind, hother⟩
      have hown : mixedMarshaller.bindings.get? "a" = some .message := by rfl
      obtain rfl := Option.some.inj (hown.symm.trans hget)
      exact hother hkind
    · rintro kind ⟨binding, hget, -⟩
      have hnone : mixedMarshaller.bindings.get? "b" = none := by rfl
      exact absurd (hnone.symm.trans hget) (by simp)
  obtain ⟨herror, htaken, hlog⟩ := hfirst _ _ _ _ rfl hclean hclash
  exact ⟨hasKinds_mixedMarshaller, Writer.isEndless_growing, herror, htaken rfl, hlog.trans (by rfl)⟩

end Marshaller

end ErrorReport
