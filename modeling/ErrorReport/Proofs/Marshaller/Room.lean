import ErrorReport.Proofs.Marshaller.Mismatch

/-!
# Writers that are full before the end

A writer with room for so many bytes gets so many of the document, whatever it has to say to the
rest, and however few bytes it takes at a time (`writeInto_cut`).  Without an envelope the failure
happens while JSON is written, and is reported as a failure of that: also of a writer that is full
before the document has begun (`writeTo_full`).
-/

set_option autoImplicit false

namespace ErrorReport.Marshaller

variable {m : Marshaller} {e : Event}

/-- **A writer that fails early has the beginning of the document.**  Writing succeeds exactly if
all of the document fits; what does not fit fails as JSON, with the words of the writer. -/
theorem writeInto_cut (hplain : m.compression = false)
    (hpayloads : ∀ entry ∈ e.payloads.entries, m.IsAccepted entry) :
    ∃ bytes, m.bytes? e = .ok bytes ∧
      (∀ w : Writer, w.IsEndless → m.writeInto w e = ⟨bytes, none⟩) ∧
      ∀ (w : Writer) (room : Nat) (reason : String), w.IsLimited room reason →
        ((m.writeInto w e).error = none ↔ bytes.length ≤ room) ∧
        (m.writeInto w e).taken = bytes.take (min room bytes.length) ∧
        (room < bytes.length → (m.writeInto w e).error = some (.json reason)) := by
  obtain ⟨document, hdocument, -⟩ := exists_document hpayloads
  refine ⟨m.packed document, by rw [bytes?, hdocument]; rfl, fun w hw =>
    writeInto_endless hw hdocument, fun w room reason hw => ?_⟩
  have hfailure : m.failure reason = .json reason := by
    rw [failure, hplain]
    rfl
  rw [writeInto_limited hw hdocument, hfailure]
  by_cases hfits : (m.packed document).length ≤ room
  · rw [if_pos hfits, min_eq_right hfits, List.take_length]
    exact ⟨by simp [hfits], rfl, fun hlt => absurd hfits (by omega)⟩
  · rw [if_neg hfits, min_eq_left (by omega)]
    exact ⟨by simp [hfits], rfl, fun _ => rfl⟩

theorem isAccepted_sample :
    ∀ entry ∈ sampleEvent.payloads.entries, sampleMarshaller.IsAccepted entry := by
  have hentries : sampleEvent.payloads.entries =
      [("custom", .custom "custom" .null),
        (Payload.messageName, .message ⟨"gap", [some "x", none]⟩)] := by rfl
  rw [hentries, List.forall_mem_cons, List.forall_mem_singleton]
  refine ⟨fun binding hget => ?_, fun binding hget => ?_⟩
  · have hnone : sampleMarshaller.bindings.get? "custom" = none := by rfl
    exact absurd (hnone.symm.trans hget) (by simp)
  · have hown : sampleMarshaller.bindings.get? Payload.messageName = some .message := by rfl
    obtain rfl := Option.some.inj (hown.symm.trans hget)
    exact ⟨_, rfl⟩

theorem writeInto_cut_sample :
    sampleMarshaller.compression = false ∧
      (∀ entry ∈ sampleEvent.payloads.entries, sampleMarshaller.IsAccepted entry) ∧
      Writer.growing.IsEndless ∧ (Writer.withRoom 12).IsLimited 12 Writer.fullText ∧
      ∃ bytes, sampleMarshaller.bytes? sampleEvent = .ok bytes ∧
        sampleMarshaller.writeInto .growing sampleEvent = ⟨bytes, none⟩ ∧
        (sampleMarshaller.writeTo 12 sampleEvent).taken = bytes.take (min 12 bytes.length) := by
  obtain ⟨bytes, hbytes, hendless, hlimited⟩ := writeInto_cut rfl isAccepted_sample
  have htaken := (hlimited _ 12 _ (Writer.isLimited_withRoom 12)).2.1
  exact ⟨rfl, isAccepted_sample, Writer.isEndless_growing, Writer.isLimited_withRoom 12, bytes,
    hbytes, hendless _ Writer.isEndless_growing, htaken⟩

/-- A writer that takes nothing fails as JSON does, and not as a writer. -/
theorem writeTo_full :
    sampleMarshaller.compression = false ∧
      (∀ entry ∈ sampleEvent.payloads.entries, sampleMarshaller.IsAccepted entry) ∧
      (sampleMarshaller.writeTo 0 sampleEvent).error = some (.json Writer.fullText) ∧
      ∀ reason, (sampleMarshaller.writeTo 0 sampleEvent).error ≠ some (.io reason) := by
  have herror : (sampleMarshaller.writeTo 0 sampleEvent).error = some (.json Writer.fullText) := by
    decide +kernel
  exact ⟨rfl, isAccepted_sample, herror, fun reason hio => absurd (herror.symm.trans hio) (by simp)⟩

end ErrorReport.Marshaller
