import ErrorReport.Proofs.Event.Builder
import ErrorReport.Proofs.Marshaller.Mismatch
import ErrorReport.Proofs.Text.Trim
import ErrorReport.Proofs.Uuid

/-!
# From the text of an identifier to the document

A builder may be given its identifier as a text.  Blanks around it do not matter; nothing but blanks
and nothing but zeros is refused as empty, and what is not read as an identifier is shown in the
refusal.  Otherwise the digits of the text come first in every document of the event, in lower case,
and are taken for the same identifier again (`identified_by_text`).
-/

set_option autoImplicit false

namespace ErrorReport

open Json (Value)

/-- An identifier has no blanks around it. -/
theorem Uuid.trim_simple (id : Uuid) : Text.trim id.simple = id.simple := by
  have hkept : ∀ c ∈ id.simple.toList, Text.isBlank c = false := by
    have hall : ∀ c ∈ Text.Hex.digits, Text.isBlank c = false :=
      List.forall_iff_forall_mem.1 (by decide)
    exact fun c hc => hall c ((denotes_simple id).isDigits.mem c hc)
  rw [Text.trim, Text.trimBy_eq,
    Text.dropWhile_eq_self fun c hc => hkept c (List.mem_of_mem_head? hc),
    Text.rdropWhile_eq_self fun c hc => hkept c (List.mem_of_getLast? hc), String.ofList_toList]

namespace EventBuilder

variable {text : String} {id : Uuid} {b : EventBuilder}

/-! ## The builder -/

theorem withIdText?_of_blank (h : Text.trim text = "") : withIdText? text = .error .emptyId := by
  rw [withIdText?, h]
  rfl

theorem withIdText?_of_read? (h : Uuid.read? (Text.trim text).toList = some id) :
    withIdText? text = withId? id := by
  have hne : ¬(Text.trim text).isEmpty = true := by
    intro hempty
    have hnone : Uuid.read? "".toList = none := by decide
    rw [String.isEmpty_iff.1 hempty, hnone] at h
    exact absurd h (by simp)
  rw [withIdText?, if_neg hne, h]

theorem withIdText?_of_unread (hne : Text.trim text ≠ "")
    (h : Uuid.read? (Text.trim text).toList = none) :
    withIdText? text = .error (.invalidId (Text.trim text)) := by
  rw [withIdText?, if_neg (by simpa using hne), h]

theorem withId?_of_not_isNil (h : id.isNil = false) :
    withId? id = .ok { draft := { id := some id } } :=
  if_neg (by simp [h])

theorem withId?_eq_error_iff {reason : BuilderError} :
    withId? id = .error reason ↔ reason = .emptyId ∧ id.isNil = true := by
  cases hnil : id.isNil with
  | true =>
    rw [withId?, if_pos hnil, Except.error.injEq, eq_comm]
    exact (and_iff_left rfl).symm
  | false => simp [withId?_of_not_isNil hnil]

/-- A text is refused as empty if it is blank or an identifier of zeros. -/
theorem withIdText?_eq_emptyId_iff : withIdText? text = .error .emptyId ↔
    Text.trim text = "" ∨ ∃ id, Uuid.read? (Text.trim text).toList = some id ∧ id.isNil = true := by
  by_cases hblank : Text.trim text = ""
  · exact iff_of_true (withIdText?_of_blank hblank) (.inl hblank)
  · cases hread : Uuid.read? (Text.trim text).toList with
    | some id => simp [withIdText?_of_read? hread, withId?_eq_error_iff, hblank]
    | none => simp [withIdText?_of_unread hblank hread, hblank]

/-- A text is shown in the refusal if it is no identifier at all. -/
theorem withIdText?_eq_invalidId_iff {shown : String} :
    withIdText? text = .error (.invalidId shown) ↔
      shown = Text.trim text ∧ Text.trim text ≠ "" ∧ Uuid.read? (Text.trim text).toList = none := by
  by_cases hblank : Text.trim text = ""
  · simp [withIdText?_of_blank hblank, hblank]
  · cases hread : Uuid.read? (Text.trim text).toList with
    | some id => simp [withIdText?_of_read? hread, withId?_eq_error_iff]
    | none => simp [withIdText?_of_unread hblank hread, hblank, eq_comm]

/-! ## The document -/

/-- A document has the identifier of its event first. -/
theorem head_of_document? {m : Marshaller} {e : Event} {document : Value}
    (h : m.document? e = .ok document) :
    ∃ members, document = .object (("event_id", .string e.id.simple) :: members) := by
  obtain ⟨members, -, rfl⟩ := Marshaller.exists_members_of_document? h
  exact ⟨_, rfl⟩

/-- Steps that attach nothing leave an event without payloads. -/
theorem IsOf.payloads_eq {e : Event} {id? : Option Uuid} {steps : List BuilderStep}
    {s : Surroundings} (h : IsOf e id? steps s) (hnone : ∀ payload, .attach payload ∉ steps) :
    e.payloads = ∅ := by
  refine Dictionary.ext_get? fun name => ?_
  refine (h.payloads name).trans (List.findSome?_eq_none_iff.2 fun step hstep => ?_)
  cases step with
  | attach payload => exact absurd (List.mem_reverse.1 hstep) (hnone payload)
  | _ => rfl

/-- The event of a builder that has but an identifier. -/
theorem exists_build {steps : List BuilderStep} (hsteps : ∀ step ∈ steps, step.isBuild = false)
    (s : Surroundings) (id? : Option Uuid) :
    ∃ e, ((EventBuilder.run { draft := { id := id? } } steps).build s).1 = .ok e ∧
      IsOf e id? steps s := by
  refine ⟨_, ?_, isOf_finish id? hsteps s⟩
  rw [run_of_not_build hsteps, build, if_neg (by simp)]

/-- **From the text of an identifier to the document and back.**  A text is refused as empty if it
is blank or spells an identifier of zeros, and as invalid, as it stands between its blanks, if it is
something else than an identifier.  In every other case there is a builder, whatever is set next its
event has the digits of the text in lower case in front of each document, and they are taken for the
same identifier. -/
theorem identified_by_text (text : String) :
    (withIdText? text = .error .emptyId ↔ Text.trim text = "" ∨
      ∃ digits, Uuid.Spells Uuid.IsNamespace (Text.trim text).toList digits ∧
        ∀ c ∈ digits, c = '0') ∧
    (∀ shown, withIdText? text = .error (.invalidId shown) ↔
      shown = Text.trim text ∧ Text.trim text ≠ "" ∧
        ¬∃ digits, Uuid.Spells Uuid.IsNamespace (Text.trim text).toList digits) ∧
    ∀ digits, Uuid.Spells Uuid.IsNamespace (Text.trim text).toList digits → (∃ c ∈ digits, c ≠ '0') →
      ∃ b, withIdText? text = .ok b ∧ withIdText? (String.ofList (digits.map Char.toLower)) = .ok b ∧
        ∀ steps, (∀ step ∈ steps, step.isBuild = false) → ∀ s,
          ∃ e, ((b.run steps).build s).1 = .ok e ∧ ∀ m : Marshaller,
            (∀ document, m.document? e = .ok document → ∃ members, document =
              .object (("event_id", .string (String.ofList (digits.map Char.toLower))) :: members)) ∧
            ((∀ payload, .attach payload ∉ steps) → ∃ document, m.document? e = .ok document) := by
  refine ⟨?_, fun shown => ?_, fun digits hspells hdigit => ?_⟩
  · rw [withIdText?_eq_emptyId_iff, Uuid.exists_isNil_iff]
  · rw [withIdText?_eq_invalidId_iff, Uuid.read?_eq_none_iff]
  obtain ⟨id, hread, hdigits⟩ := hspells.exists_read?
  have hnil : id.isNil = false := by
    rw [Bool.eq_false_iff, Ne, hdigits.isNil_iff]
    obtain ⟨c, hc, hne⟩ := hdigit
    exact fun hzeros => hne (hzeros c hc)
  refine ⟨{ draft := { id := some id } }, ?_, ?_, fun steps hsteps s => ?_⟩
  · rw [withIdText?_of_read? hread, withId?_of_not_isNil hnil]
  · have hown : Uuid.read? (Text.trim id.simple).toList = some id := by
      rw [id.trim_simple, id.read?_simple]
    rw [← hdigits.simple_eq, withIdText?_of_read? hown, withId?_of_not_isNil hnil]
  obtain ⟨e, hbuild, he⟩ := exists_build hsteps s (some id)
  refine ⟨e, hbuild, fun m => ⟨fun document hdocument => ?_, fun hnone => ?_⟩⟩
  · have hid : e.id = id := he.id
    rw [← hdigits.simple_eq, ← hid]
    exact head_of_document? hdocument
  · -- A document is missing only for a payload that its binding does not take.
    have haccepted : ∀ entry ∈ e.payloads.entries, m.IsAccepted entry := by
      rw [he.payloads_eq hnone]
      exact fun entry hentry => absurd hentry List.not_mem_nil
    obtain ⟨document, hdocument, -⟩ := Marshaller.exists_document haccepted
    exact ⟨document, hdocument⟩

/-- Digits in either case. -/
def sampleGroups : Uuid.Groups :=
  ⟨"6E65f60d".toList, "9F22".toList, "495a".toList, "9556".toList, "7A61eeeA2a14".toList, rfl, rfl,
    rfl, rfl, rfl⟩

/-- The digits between blanks and behind the namespace. -/
def sampleText : String := " \tUrn:Uuid:6E65f60d-9F22-495a-9556-7A61eeeA2a14\n"

theorem identified_by_text_sample :
    Uuid.Spells Uuid.IsNamespace (Text.trim sampleText).toList sampleGroups.flat ∧
    (∃ c ∈ sampleGroups.flat, c ≠ '0') ∧
    ∃ b e members, withIdText? sampleText = .ok b ∧
      withIdText? "6e65f60d9f22495a95567a61eeea2a14" = .ok b ∧
      ((b.run [.setMessage "boom"]).build sampleSurroundings).1 = .ok e ∧
      Marshaller.new.document? e =
        .ok (.object (("event_id", .string "6e65f60d9f22495a95567a61eeea2a14") :: members)) := by
  have hspells : Uuid.Spells Uuid.IsNamespace (Text.trim sampleText).toList sampleGroups.flat := by
    have htrim : (Text.trim sampleText).toList = "Urn:Uuid:".toList ++ sampleGroups.text := by
      decide +kernel
    have hdigits : Uuid.IsDigits sampleGroups.flat :=
      ⟨by decide, List.forall_iff_forall_mem.1 (by decide)⟩
    rw [htrim]
    exact ⟨hdigits, .behind _ sampleGroups (by rw [Uuid.IsNamespace]; decide)⟩
  have hdigit : ∃ c ∈ sampleGroups.flat, c ≠ '0' := ⟨'6', by decide, by decide⟩
  have hlower : String.ofList (sampleGroups.flat.map Char.toLower) =
      "6e65f60d9f22495a95567a61eeea2a14" := by decide
  obtain ⟨b, hb, hagain, hsteps⟩ := (identified_by_text sampleText).2.2 _ hspells hdigit
  obtain ⟨e, hbuild, hdocuments⟩ := hsteps [.setMessage "boom"] (by decide) sampleSurroundings
  obtain ⟨hfirst, hexists⟩ := hdocuments Marshaller.new
  obtain ⟨document, hdocument⟩ := hexists (by simp)
  obtain ⟨members, rfl⟩ := hfirst document hdocument
  rw [hlower] at hagain hdocument
  exact ⟨hspells, hdigit, b, e, members, hb, hagain, hbuild, hdocument⟩

/-- An identifier behind the namespace in capitals. -/
def capitalText : String := "URN:UUID:6e65f60d-9f22-495a-9556-7a61eeea2a14"

/-- The texts that are not refused as invalid are more than those with the namespace as it is. -/
theorem identified_by_capitals :
    ¬(withIdText? capitalText = .error (.invalidId (Text.trim capitalText)) ↔
      Text.trim capitalText ≠ "" ∧
        ¬∃ digits, Uuid.Spells (· = Uuid.namespaceText) (Text.trim capitalText).toList digits) := by
  have htrim : Text.trim capitalText = capitalText := by decide +kernel
  have hread : Uuid.read? capitalText.toList ≠ none := by decide +kernel
  have hlength : capitalText.toList.length = 45 := by decide
  have hhead : capitalText.toList.head? = some 'U' := by decide
  intro hclaim
  have hinvalid : withIdText? capitalText = .error (.invalidId (Text.trim capitalText)) := by
    refine hclaim.2 ⟨by rw [htrim]; decide, ?_⟩
    rw [htrim]
    rintro ⟨digits, hdigits, hwritten⟩
    -- Only a text behind the namespace is that long, and the namespace starts with a small letter.
    generalize capitalText.toList = s at hwritten hlength hhead
    cases hwritten with
    | row => exact absurd (hdigits.length_eq.symm.trans hlength) (by decide)
    | grouped g => exact absurd (g.length_text.symm.trans hlength) (by decide)
    | braced g => simp [g.length_text] at hlength
    | behind lead g h =>
      rw [h, List.head?_append_of_ne_nil _ (by decide)] at hhead
      exact absurd hhead (by decide)
  rw [withIdText?_eq_invalidId_iff, htrim] at hinvalid
  exact hread hinvalid.2.2

end EventBuilder

end ErrorReport
