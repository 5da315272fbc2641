import ErrorReport.Writer
import Mathlib.Data.List.Basic

/-!
# What a writer gets of what is written

`Writer.Delivers` says of a piece of writing that it is writing some bytes: whatever the writer
does, it has taken all of them in the end, or the first ones, up to the place where it refused more.
In how many pieces they are handed over does not show in it, and that is why it can be proved of long
writing piece by piece (`Delivers.seq`).

Two sorts of writers never leave the outcome open.  One that takes whatever it is offered gets all
bytes (`IsEndless.outcome`), and one that takes a number of bytes and then fails gets as many
(`IsLimited.outcome`).
-/

set_option autoImplicit false

namespace ErrorReport.Writer

variable {w : Writer} {ε : Type}

/-! ## The answers of a writer -/

/-- From the bytes taken at one time to those taken later, by answers of the writer. -/
inductive Reaches (w : Writer) : List UInt8 → List UInt8 → Prop
  | refl (taken : List UInt8) : w.Reaches taken taken
  | step {taken offered last : List UInt8} {count : Fin (offered.length + 1)} :
      w.answer taken offered = .ok count → w.Reaches (taken ++ offered.take count) last →
      w.Reaches taken last

theorem Reaches.trans {first middle last : List UInt8} (h : w.Reaches first middle)
    (h' : w.Reaches middle last) : w.Reaches first last := by
  induction h with
  | refl => exact h'
  | step hanswer _ ih => exact .step hanswer (ih h')

/-- After the bytes it has, the writer takes none of some others: it fails, or has no reason. -/
def Refuses (w : Writer) (taken : List UInt8) (reason : String) : Prop :=
  ∃ offered ≠ [], w.answer taken offered = .error reason ∨
    w.answer taken offered = .ok 0 ∧ reason = idleText

/-! ## Writing bytes -/

/-- How it may end to write some bytes: all are taken, or the first ones are and then the writer
refuses. -/
inductive Delivery (w : Writer) (error : String → ε) (bytes taken : List UInt8) :
    Except ε Unit × List UInt8 → Prop
  | whole : w.Reaches taken (taken ++ bytes) → w.Delivery error bytes taken (.ok (), taken ++ bytes)
  | part {front back : List UInt8} {reason : String} : bytes = front ++ back → back ≠ [] →
      w.Reaches taken (taken ++ front) → w.Refuses (taken ++ front) reason →
      w.Delivery error bytes taken (.error (error reason), taken ++ front)

theorem Delivery.nil (error : String → ε) (taken : List UInt8) :
    w.Delivery error [] taken (.ok (), taken) := by
  have h : w.Delivery error [] taken (.ok (), taken ++ []) :=
    .whole (by rw [List.append_nil]; exact .refl taken)
  rwa [List.append_nil] at h

/-- A refusal at once leaves the writer what it had. -/
theorem Delivery.refused (error : String → ε) {bytes taken : List UInt8} {reason : String}
    (hne : bytes ≠ []) (h : w.Refuses taken reason) :
    w.Delivery error bytes taken (.error (error reason), taken) := by
  have hpart : w.Delivery error bytes taken (.error (error reason), taken ++ []) := by
    refine .part rfl hne ?_ ?_
    · rw [List.append_nil]
      exact .refl taken
    · rwa [List.append_nil]
  rwa [List.append_nil] at hpart

/-- What is written after some bytes were taken is written after them. -/
theorem Delivery.after {error : String → ε} {a b taken : List UInt8}
    {ended : Except ε Unit × List UInt8} (hreach : w.Reaches taken (taken ++ a))
    (h : w.Delivery error b (taken ++ a) ended) : w.Delivery error (a ++ b) taken ended := by
  cases h with
  | whole hmore =>
    rw [List.append_assoc] at hmore ⊢
    exact .whole (hreach.trans hmore)
  | part hb hback hmore hrefuse =>
    rw [List.append_assoc] at hmore hrefuse ⊢
    exact .part (by rw [hb, List.append_assoc]) hback (hreach.trans hmore) hrefuse

/-- The writing is that of some bytes, whatever the writer has taken before. -/
def Delivers (w : Writer) (error : String → ε) (p : Writing ε Unit) (bytes : List UInt8) : Prop :=
  ∀ taken, w.Delivery error bytes taken (p.outcome taken)

theorem delivers_pure (error : String → ε) : w.Delivers error (pure ()) [] := .nil error

/-- **Writing one piece after the other is writing the bytes of both.** -/
theorem Delivers.seq {error : String → ε} {p q : Writing ε Unit} {a b : List UInt8}
    (hp : w.Delivers error p a) (hq : w.Delivers error q b) :
    w.Delivers error (do p; q) (a ++ b) := by
  intro taken
  have hfirst := hp taken
  rw [Writing.outcome_seq]
  generalize p.outcome taken = ended at hfirst ⊢
  cases hfirst with
  | whole hreach => exact .after hreach (hq (taken ++ a))
  | part ha hback hreach hrefuse =>
    exact .part (by rw [ha, List.append_assoc]) (by simp [hback]) hreach hrefuse

/-- A failure by another name is a failure at the same place. -/
theorem Delivers.adapt {δ : Type} {error : String → ε} {p : Writing ε Unit} {bytes : List UInt8}
    (h : w.Delivers error p bytes) (f : ε → δ) :
    w.Delivers (fun reason => f (error reason)) (p.adapt f) bytes := by
  intro taken
  have hended := h taken
  rw [Writing.outcome_adapt]
  generalize p.outcome taken = ended at hended ⊢
  cases hended with
  | whole hreach => exact .whole hreach
  | part hbytes hback hreach hrefuse => exact .part hbytes hback hreach hrefuse

/-- Offering the rest again and again is writing all of it. -/
theorem delivers_put (w : Writer) (bytes : List UInt8) : w.Delivers id (w.put bytes) bytes := by
  intro taken
  show w.Delivery id bytes taken (w.offer bytes taken)
  fun_induction w.offer bytes taken with
  | case1 taken => exact .nil id taken
  | case2 taken first rest reason hanswer =>
    exact .refused id (by simp) ⟨first :: rest, by simp, .inl hanswer⟩
  | case3 taken first rest hlt hanswer =>
    exact .refused id (by simp) ⟨first :: rest, by simp, .inr ⟨hanswer, rfl⟩⟩
  | case4 taken first rest count hlt hanswer ih =>
    have hreach : w.Reaches taken (taken ++ first :: rest.take count) :=
      .step hanswer (.refl _)
    have hcut : first :: rest = (first :: rest.take count) ++ rest.drop count := by simp
    rw [hcut]
    exact .after hreach ih

/-! ## Writers that leave nothing open -/

/-- The writer takes some of whatever it is offered, always. -/
def IsEndless (w : Writer) : Prop :=
  ∀ taken offered, offered ≠ [] → ∃ count, w.answer taken offered = .ok count ∧ count ≠ 0

theorem IsEndless.not_refuses (h : w.IsEndless) (taken : List UInt8) (reason : String) :
    ¬w.Refuses taken reason := by
  rintro ⟨offered, hne, hanswer⟩
  obtain ⟨count, hcount, hzero⟩ := h taken offered hne
  rcases hanswer with hanswer | ⟨hanswer, -⟩
  · exact absurd (hcount.symm.trans hanswer) (by simp)
  · exact hzero (Except.ok.inj (hcount.symm.trans hanswer))

/-- A writer that takes everything gets everything. -/
theorem IsEndless.outcome (h : w.IsEndless) {error : String → ε} {p : Writing ε Unit}
    {bytes : List UInt8} (hp : w.Delivers error p bytes) : p.outcome [] = (.ok (), bytes) := by
  have hended := hp []
  generalize p.outcome [] = ended at hended ⊢
  cases hended with
  | whole => rfl
  | part _ _ _ hrefuse => exact absurd hrefuse (h.not_refuses _ _)

/-- A writer that keeps whatever it is offered. -/
def growing : Writer where
  answer _ offered := .ok (Fin.last offered.length)

theorem isEndless_growing : growing.IsEndless := fun _ _ hne =>
  ⟨Fin.last _, rfl, fun hzero => hne (List.eq_nil_of_length_eq_zero (congrArg Fin.val hzero))⟩

/-- The writer takes bytes, at least one at a time, until it has so many, and then it fails. -/
structure IsLimited (w : Writer) (room : Nat) (reason : String) : Prop where
  takes : ∀ taken offered, offered ≠ [] → taken.length < room →
    ∃ count, w.answer taken offered = .ok count ∧ count ≠ 0 ∧ taken.length + count ≤ room
  fails : ∀ taken offered, offered ≠ [] → room ≤ taken.length →
    w.answer taken offered = .error reason

namespace IsLimited

variable {room : Nat} {reason : String}

/-- What one answer leaves of the room, and hence what all of them do. -/
theorem length_le_of_reaches (h : w.IsLimited room reason) {first last : List UInt8}
    (hreach : w.Reaches first last) (hle : first.length ≤ room) : last.length ≤ room := by
  induction hreach with
  | refl => exact hle
  | @step taken offered last count hanswer _ ih =>
    refine ih ?_
    rw [List.length_append, List.length_take]
    by_cases hne : offered = []
    · simpa [hne] using hle
    · by_cases hroom : taken.length < room
      · obtain ⟨fits, hfits, -, hbound⟩ := h.takes taken offered hne hroom
        obtain rfl := Except.ok.inj (hanswer.symm.trans hfits)
        omega
      · exact absurd (hanswer.symm.trans (h.fails taken offered hne (by omega))) (by simp)

theorem of_refuses (h : w.IsLimited room reason) {taken : List UInt8} {other : String}
    (hrefuse : w.Refuses taken other) : room ≤ taken.length ∧ other = reason := by
  obtain ⟨offered, hne, hanswer⟩ := hrefuse
  by_cases hroom : taken.length < room
  · obtain ⟨count, hcount, hzero, -⟩ := h.takes taken offered hne hroom
    rcases hanswer with hanswer | ⟨hanswer, -⟩
    · exact absurd (hcount.symm.trans hanswer) (by simp)
    · exact absurd (Except.ok.inj (hcount.symm.trans hanswer)) hzero
  · have hfails := h.fails taken offered hne (by omega)
    rcases hanswer with hanswer | ⟨hanswer, -⟩
    · exact ⟨by omega, Except.error.inj (hanswer.symm.trans hfails)⟩
    · exact absurd (hanswer.symm.trans hfails) (by simp)

/-- **A writer with room for so many bytes gets so many of the first ones, and fails if there are
more.** -/
theorem outcome (h : w.IsLimited room reason) {error : String → ε} {p : Writing ε Unit}
    {bytes : List UInt8} (hp : w.Delivers error p bytes) :
    p.outcome [] =
      if bytes.length ≤ room then (.ok (), bytes) else (.error (error reason), bytes.take room) := by
  have hended := hp []
  generalize p.outcome [] = ended at hended ⊢
  cases hended with
  | whole hreach =>
    rw [List.nil_append] at hreach ⊢
    rw [if_pos (h.length_le_of_reaches hreach (Nat.zero_le _))]
  | @part front back other hbytes hback hreach hrefuse =>
    obtain ⟨hge, rfl⟩ := h.of_refuses hrefuse
    have hle : front.length ≤ room := h.length_le_of_reaches hreach (Nat.zero_le _)
    have hlength : front.length = room := by
      rw [List.nil_append] at hge
      omega
    have hpos : 0 < back.length := List.length_pos_of_ne_nil hback
    rw [hbytes, if_neg (by rw [List.length_append]; omega), ← hlength, List.take_left]
    rfl

end IsLimited

theorem isLimited_withRoom (room : Nat) : (withRoom room).IsLimited room fullText where
  takes taken offered hne hroom := by
    have hpos : 0 < offered.length := List.length_pos_of_ne_nil hne
    refine ⟨⟨min (room - taken.length) offered.length, by omega⟩, if_pos hroom, ?_, ?_⟩
    · rw [Ne, Fin.ext_iff]
      simp only [Fin.val_zero]
      omega
    · simp only
      omega
  fails taken offered _ hroom := if_neg (by omega)

end ErrorReport.Writer
