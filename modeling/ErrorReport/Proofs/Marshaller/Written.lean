import ErrorReport.Marshaller
import ErrorReport.Proofs.Json.Output

/-!
# What a writer gets of an event

An event without a document fails before anything is written of it (`writeInto_of_error`).  One with
a document is written to its end, or to the place where the writer refused more: `writeInto_endless`
and `writeInto_limited` say what that comes to for writers that leave nothing open, and
`exists_document_of_writeInto` that, whatever the writer, a finished document is the whole one.
-/

set_option autoImplicit false

namespace ErrorReport

open Json (Value)

variable {m : Marshaller} {e : Event} {w : Writer} {document : Value}

section Outcome

variable {ε : Type} {error : String → ε} {p : Writing ε Unit} {bytes : List UInt8}

/-- Writing that was not stopped has written everything. -/
theorem Written.taken_of_delivers (hp : w.Delivers error p bytes) {f : ε → MarshalError}
    (hdone : (Written.ofOutcome f (p.outcome [])).error = none) :
    (Written.ofOutcome f (p.outcome [])).taken = bytes := by
  have hended := hp []
  generalize p.outcome [] = ended at hended hdone ⊢
  cases hended with
  | whole => rfl
  | part => exact absurd hdone (by simp [Written.ofOutcome])

end Outcome

namespace Marshaller

/-- What becomes of the reason why a writer failed. -/
def failure (m : Marshaller) (reason : String) : MarshalError :=
  if m.compression then .io reason else .json reason

/-- A document has the fields of its event first. -/
theorem exists_members_of_document? (h : m.document? e = .ok document) :
    ∃ members, (m.payloadMembers e.payloads.entries).1 = .ok members ∧
      document = .object (fieldMembers e ++ members) := by
  rw [document?] at h
  cases hmembers : (m.payloadMembers e.payloads.entries).1 with
  | error reason =>
    rw [hmembers] at h
    exact absurd h (by simp [Except.map])
  | ok members =>
    rw [hmembers] at h
    exact ⟨members, rfl, (Except.ok.inj h).symm⟩

theorem writeInto_of_error {error : MarshalError} (h : m.document? e = .error error) (w : Writer) :
    (m.writeInto w e).error = some error ∧
      (m.compression = false → (m.writeInto w e).taken = []) := by
  rw [writeInto, h]
  exact ⟨rfl, fun hplain => by simp [hplain]⟩

/-- A document is one piece of writing in an envelope and many without one. -/
theorem exists_delivers (h : m.document? e = .ok document) (w : Writer) :
    ∃ (ε : Type) (error : String → ε) (f : ε → MarshalError) (p : Writing ε Unit),
      w.Delivers error p (m.packed document) ∧ (∀ reason, f (error reason) = m.failure reason) ∧
        m.writeInto w e = .ofOutcome f (p.outcome []) := by
  rw [writeInto, h]
  cases hcompression : m.compression with
  | true =>
    refine ⟨_, id, .io, w.put (m.packed document), w.delivers_put _, fun reason => ?_, rfl⟩
    rw [failure, hcompression]
    rfl
  | false =>
    refine ⟨_, .io, _, document.write w, ?_, fun reason => ?_, rfl⟩
    · have hpacked : m.packed document = Text.utf8 document.text := by
        rw [packed, hcompression]
        rfl
      rw [hpacked]
      exact document.delivers_write w
    · rw [failure, hcompression]
      rfl

/-- What was written to its end is the whole document. -/
theorem exists_document_of_writeInto (hdone : (m.writeInto w e).error = none) :
    ∃ document, m.document? e = .ok document ∧ (m.writeInto w e).taken = m.packed document := by
  cases h : m.document? e with
  | error error => exact absurd ((writeInto_of_error h w).1.symm.trans hdone) (by simp)
  | ok document =>
    obtain ⟨ε, error, f, p, hp, -, heq⟩ := exists_delivers h w
    rw [heq] at hdone ⊢
    exact ⟨document, rfl, Written.taken_of_delivers hp hdone⟩

/-- A writer that takes everything gets the whole document. -/
theorem writeInto_endless (hw : w.IsEndless) (h : m.document? e = .ok document) :
    m.writeInto w e = ⟨m.packed document, none⟩ := by
  obtain ⟨ε, error, f, p, hp, -, heq⟩ := exists_delivers h w
  rw [heq, hw.outcome hp]
  rfl

/-- A writer with room for so many bytes gets so many of the document. -/
theorem writeInto_limited {room : Nat} {reason : String} (hw : w.IsLimited room reason)
    (h : m.document? e = .ok document) :
    m.writeInto w e =
      if (m.packed document).length ≤ room then ⟨m.packed document, none⟩
      else ⟨(m.packed document).take room, some (m.failure reason)⟩ := by
  obtain ⟨ε, error, f, p, hp, hfailure, heq⟩ := exists_delivers h w
  rw [heq, hw.outcome hp, ← hfailure]
  split <;> rfl

end Marshaller

end ErrorReport
