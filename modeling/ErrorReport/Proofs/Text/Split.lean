import ErrorReport.Text.Blank
import ErrorReport.Text.Split
import Mathlib.Data.List.Basic
import Mathlib.Data.List.Forall2
import Mathlib.Data.List.Infix

/-!
# Cutting and joining

What a cut finds in a text that was put together: `splitOnce?_append_of_not_mem` and
`splitLast?_append_of_not_mem` where no character could begin a separator earlier or end one later,
`splitOnce?_marker` for `://`, `pieces_joinWith` for many pieces.  The other way, joining all pieces
gives a text with its separators (`joinWith_pieces`), so pieces never hold more characters than the
text.
-/

set_option autoImplicit false

namespace ErrorReport.Text

/-! ## One cut -/

theorem splitOnce?_none {c : Char} {s : List Char} (h : c ∉ s) : splitOnce? [c] s = none := by
  induction s with
  | nil => rfl
  | cons d s ih =>
    rw [List.mem_cons, not_or] at h
    have hne : (c == d) = false := by simpa using h.1
    rw [splitOnce?, List.isPrefixOf?, hne]
    simp only [Bool.false_eq_true, if_false]
    rw [ih h.2]
    rfl

theorem isPrefixOf?_append {α : Type} [BEq α] [LawfulBEq α] (sep rest : List α) :
    sep.isPrefixOf? (sep ++ rest) = some rest := by
  induction sep with
  | nil => rfl
  | cons c sep ih => rw [List.cons_append, isPrefixOf?_cons_cons, beq_self_eq_true, if_pos rfl, ih]

theorem splitOnce?_prefix {sep s t : List Char} (h : sep.isPrefixOf? s = some t) :
    splitOnce? sep s = some ([], t) := by
  cases s with
  | nil =>
    cases sep with
    | nil => simpa [splitOnce?, List.isPrefixOf?] using h
    | cons c sep => exact absurd h (by simp [List.isPrefixOf?])
  | cons c s => rw [splitOnce?, h]

/-- The first cut is where the separator first stands; before it there is nothing that starts like
it. -/
theorem splitOnce?_append_of_not_mem {c : Char} {sep a : List Char} (b : List Char) (h : c ∉ a) :
    splitOnce? (c :: sep) (a ++ c :: sep ++ b) = some (a, b) := by
  induction a with
  | nil => exact splitOnce?_prefix (isPrefixOf?_append (c :: sep) b)
  | cons d a ih =>
    rw [List.mem_cons, not_or] at h
    have hne : (c == d) = false := by simpa using h.1
    rw [List.cons_append, List.cons_append, splitOnce?, List.isPrefixOf?, hne]
    simp only [Bool.false_eq_true, if_false]
    rw [ih h.2]
    rfl

theorem splitOnce?_append_cons {c : Char} {a : List Char} (b : List Char) (h : c ∉ a) :
    splitOnce? [c] (a ++ c :: b) = some (a, b) := by
  rw [← splitOnce?_append_of_not_mem b h, List.append_assoc, List.singleton_append]

/-- The last cut is where the separator last stands; behind it there is nothing that ends like it. -/
theorem splitLast?_append_of_not_mem {c : Char} {b : List Char} (a sep : List Char) (h : c ∉ b) :
    splitLast? (sep ++ [c]) (a ++ (sep ++ [c]) ++ b) = some (a, b) := by
  have hreverse : (a ++ (sep ++ [c]) ++ b).reverse = b.reverse ++ c :: sep.reverse ++ a.reverse := by
    simp
  have hsep : (sep ++ [c]).reverse = c :: sep.reverse := by simp
  rw [splitLast?, hreverse, hsep, splitOnce?_append_of_not_mem _ (by simpa using h)]
  simp only [Option.map_some, List.reverse_reverse]

theorem splitLast?_append_cons {c : Char} (a : List Char) {b : List Char} (h : c ∉ b) :
    splitLast? [c] (a ++ c :: b) = some (a, b) := by
  have hcut : splitLast? [c] (a ++ [c] ++ b) = some (a, b) := splitLast?_append_of_not_mem a [] h
  rwa [List.append_assoc, List.singleton_append] at hcut

theorem splitLast?_none {c : Char} {s : List Char} (h : c ∉ s) : splitLast? [c] s = none := by
  rw [splitLast?, List.reverse_singleton, splitOnce?_none (by simpa using h)]
  rfl

/-- A text is cut unless the separator is nowhere in it. -/
theorem splitOnce?_eq_none_iff {sep s : List Char} : splitOnce? sep s = none ↔ ¬sep <:+: s := by
  constructor
  · intro h
    induction s with
    | nil =>
      cases sep with
      | nil => exact absurd h (by simp [splitOnce?])
      | cons c sep => simp
    | cons c s ih =>
      rw [splitOnce?] at h
      split at h
      · exact absurd h (by simp)
      · rename_i hprefix
        rw [List.infix_cons_iff, not_or]
        refine ⟨?_, ih (Option.map_eq_none_iff.1 h)⟩
        rintro ⟨rest, hrest⟩
        rw [← hrest, isPrefixOf?_append] at hprefix
        exact absurd hprefix (by simp)
  · intro h
    by_contra hsome
    obtain ⟨⟨before, after⟩, hcut⟩ := Option.ne_none_iff_exists'.1 hsome
    exact h ⟨before, after, (splitOnce?_append hcut).symm⟩

/-- What ends the scheme of a URL with a host. -/
def marker : List Char := [':', '/', '/']

/-- The marker does not begin within a text without it, not even at the end where more of it
follows. -/
theorem splitOnce?_marker {w : List Char} (rest : List Char) (h : ¬marker <:+: w) :
    splitOnce? marker (w ++ marker ++ rest) = some (w, rest) := by
  induction w with
  | nil => exact splitOnce?_prefix (isPrefixOf?_append marker rest)
  | cons c w ih =>
    have hw : ¬marker <:+: w := fun hin => h (hin.trans (List.infix_cons (List.infix_refl w)))
    have hno : marker.isPrefixOf? (c :: (w ++ marker ++ rest)) = none := by
      by_contra hsome
      obtain ⟨t, ht⟩ := Option.ne_none_iff_exists'.1 hsome
      have heq := isPrefixOf?_eq_some ht
      match w with
      | [] => simp [marker] at heq
      | [d] => simp [marker] at heq
      | d :: e :: w =>
        simp only [marker, List.cons_append, List.cons.injEq] at heq
        obtain ⟨rfl, rfl, rfl, -⟩ := heq
        exact h ⟨[], w, rfl⟩
    rw [List.cons_append, List.cons_append, splitOnce?, hno]
    simp only
    rw [ih hw]
    rfl

/-- What stands before the first separator holds none. -/
theorem not_infix_of_splitOnce? {sep s before after : List Char} (hsep : sep ≠ [])
    (h : splitOnce? sep s = some (before, after)) : ¬sep <:+: before := by
  induction s generalizing before with
  | nil =>
    have hnone : splitOnce? sep [] = none := by rw [splitOnce?, if_neg (by simpa using hsep)]
    rw [hnone] at h
    exact absurd h (by simp)
  | cons c s ih =>
    rw [splitOnce?] at h
    split at h
    · obtain ⟨rfl, -⟩ := Prod.mk.inj (Option.some.inj h)
      rwa [List.infix_nil]
    · rename_i hno
      obtain ⟨⟨b, a⟩, hba, heq⟩ := Option.map_eq_some_iff.1 h
      obtain ⟨rfl, rfl⟩ := Prod.mk.inj heq
      rw [List.infix_cons_iff, not_or]
      refine ⟨?_, ih hba⟩
      rintro ⟨t, ht⟩
      have hcons : c :: s = sep ++ (t ++ (sep ++ a)) := by
        rw [splitOnce?_append hba, ← List.append_assoc sep t, ht]
        simp
      rw [hcons, isPrefixOf?_append] at hno
      exact absurd hno (by simp)

theorem splitLast?_eq_none_iff {sep s : List Char} : splitLast? sep s = none ↔ ¬sep <:+: s := by
  rw [splitLast?, Option.map_eq_none_iff, splitOnce?_eq_none_iff, List.reverse_infix]

/-- What stands after the last separator holds none. -/
theorem not_infix_of_splitLast? {sep s before after : List Char} (hsep : sep ≠ [])
    (h : splitLast? sep s = some (before, after)) : ¬sep <:+: after := by
  obtain ⟨⟨front, back⟩, hcut, heq⟩ := Option.map_eq_some_iff.1 h
  obtain ⟨-, rfl⟩ := Prod.mk.inj heq
  have hfront := not_infix_of_splitOnce? (by simpa using hsep) hcut
  rwa [← List.reverse_infix, List.reverse_reverse]

/-- No occurrence of the separator starts before the first cut. -/
theorem length_le_of_splitOnce? {sep s before after : List Char}
    (h : splitOnce? sep s = some (before, after)) {a b : List Char} (hs : s = a ++ sep ++ b) :
    before.length ≤ a.length := by
  induction s generalizing before a with
  | nil =>
    obtain ⟨hbefore, -⟩ := List.append_eq_nil_iff.1 (splitOnce?_append h).symm
    rw [(List.append_eq_nil_iff.1 hbefore).1]
    exact Nat.zero_le _
  | cons c s ih =>
    rw [splitOnce?] at h
    split at h
    · obtain ⟨rfl, -⟩ := Prod.mk.inj (Option.some.inj h)
      exact Nat.zero_le _
    · rename_i hno
      obtain ⟨⟨front, back⟩, hcut, heq⟩ := Option.map_eq_some_iff.1 h
      obtain ⟨rfl, rfl⟩ := Prod.mk.inj heq
      cases a with
      | nil =>
        rw [hs, List.nil_append, isPrefixOf?_append] at hno
        exact absurd hno (by simp)
      | cons d a => exact Nat.succ_le_succ (ih hcut (List.cons.inj hs).2)

/-- No occurrence of the separator starts behind the last cut. -/
theorem length_le_of_splitLast? {sep s before after : List Char}
    (h : splitLast? sep s = some (before, after)) {a b : List Char} (hs : s = a ++ sep ++ b) :
    a.length ≤ before.length := by
  have hsplit := congrArg List.length (splitLast?_append h)
  obtain ⟨⟨back, front⟩, hcut, heq⟩ := Option.map_eq_some_iff.1 h
  obtain ⟨rfl, rfl⟩ := Prod.mk.inj heq
  have hle := length_le_of_splitOnce? hcut (a := b.reverse) (b := a.reverse) (by rw [hs]; simp)
  have hlength := congrArg List.length hs
  simp only [List.length_append, List.length_reverse] at hsplit hlength hle ⊢
  omega

/-! ## Many cuts -/

variable {isSep : Char → Bool}

theorem pieces_of_free {a : List Char} (h : ∀ c ∈ a, isSep c = false) : pieces isSep a = [a] := by
  induction a with
  | nil => rfl
  | cons c a ih =>
    rw [pieces, h c List.mem_cons_self]
    simp only [Bool.false_eq_true, if_false]
    rw [ih fun d hd => h d (List.mem_cons_of_mem _ hd)]

/-- A separator cuts, whatever stands on its sides. -/
theorem pieces_append_sep (a : List Char) {sep : Char} (b : List Char) (hsep : isSep sep = true) :
    pieces isSep (a ++ sep :: b) = pieces isSep a ++ pieces isSep b := by
  induction a with
  | nil =>
    show pieces isSep (sep :: b) = [] :: pieces isSep b
    rw [pieces, if_pos hsep]
  | cons c a ih =>
    rw [List.cons_append, pieces, pieces, ih]
    split
    · rfl
    · cases hpieces : pieces isSep a with
      | nil => exact absurd hpieces (pieces_ne_nil isSep a)
      | cons first others => rfl

theorem pieces_append_cons {a : List Char} {sep : Char} (b : List Char)
    (h : ∀ c ∈ a, isSep c = false)
    (hsep : isSep sep = true) : pieces isSep (a ++ sep :: b) = a :: pieces isSep b := by
  rw [pieces_append_sep a b hsep, pieces_of_free h]
  rfl

/-- **Parts free of separators are the pieces of what they are joined to.** -/
theorem pieces_joinWith {sep : Char} {parts : List (List Char)} (hne : parts ≠ [])
    (h : ∀ part ∈ parts, ∀ c ∈ part, isSep c = false) (hsep : isSep sep = true) :
    pieces isSep (joinWith [sep] parts) = parts := by
  induction parts with
  | nil => exact absurd rfl hne
  | cons part parts ih =>
    cases parts with
    | nil => exact pieces_of_free (h part List.mem_cons_self)
    | cons next more =>
      rw [joinWith, List.append_assoc, List.singleton_append,
        pieces_append_cons _ (h part List.mem_cons_self) hsep,
        ih (by simp) fun p hp => h p (List.mem_cons_of_mem _ hp)]

/-- The pieces of what parts are joined to are the pieces of all parts. -/
theorem pieces_joinWith_flatMap {sep : Char} {parts : List (List Char)} (hne : parts ≠ [])
    (hsep : isSep sep = true) : pieces isSep (joinWith [sep] parts) =
      parts.flatMap (pieces isSep) := by
  induction parts with
  | nil => exact absurd rfl hne
  | cons part parts ih =>
    cases parts with
    | nil => simp [joinWith]
    | cons next more =>
      rw [joinWith, List.append_assoc, List.singleton_append, pieces_append_sep _ _ hsep,
        ih (by simp)]
      rfl

theorem pieces_congr {isSep' : Char → Bool} {s : List Char} (h : ∀ c ∈ s, isSep c = isSep' c) :
    pieces isSep s = pieces isSep' s := by
  induction s with
  | nil => rfl
  | cons c s ih =>
    rw [pieces, pieces, h c List.mem_cons_self, ih fun d hd => h d (List.mem_cons_of_mem _ hd)]

theorem pieces_free (s : List Char) : ∀ piece ∈ pieces isSep s, ∀ c ∈ piece, isSep c = false := by
  induction s with
  | nil => simp [pieces]
  | cons d s ih =>
    rw [pieces]
    split
    · intro piece hpiece
      rcases List.mem_cons.1 hpiece with rfl | hpiece
      · simp
      · exact ih piece hpiece
    · rename_i hd
      split
      · rename_i hnil
        exact absurd hnil (pieces_ne_nil isSep s)
      · rename_i first others heq
        rw [heq] at ih
        intro piece hpiece c hc
        rcases List.mem_cons.1 hpiece with rfl | hpiece
        · rcases List.mem_cons.1 hc with rfl | hc
          · simpa using hd
          · exact ih first List.mem_cons_self c hc
        · exact ih piece (List.mem_cons_of_mem _ hpiece) c hc

/-- There is one piece more than there are separators. -/
theorem length_pieces (s : List Char) : (pieces isSep s).length = s.countP isSep + 1 := by
  induction s with
  | nil => rfl
  | cons c s ih =>
    rw [pieces, List.countP_cons]
    split
    · rw [List.length_cons, ih]
    · split
      · rename_i hnil
        exact absurd hnil (pieces_ne_nil isSep s)
      · rename_i first others heq
        rw [← ih, heq]
        rfl

theorem joinWith_cons {sep : List Char} {part : List Char} {parts : List (List Char)}
    (h : parts ≠ []) :
    joinWith sep (part :: parts) = part ++ sep ++ joinWith sep parts := by
  cases parts with
  | nil => exact absurd rfl h
  | cons next more => rfl

theorem joinWith_eq_intercalate (sep : List Char) (parts : List (List Char)) :
    joinWith sep parts = sep.intercalate parts := by
  induction parts with
  | nil => rfl
  | cons part parts ih =>
    cases parts with
    | nil => rw [joinWith, List.intercalate_singleton]
    | cons next more => rw [joinWith, ih, List.intercalate_cons_cons]

/-- **The pieces joined again are the text, with one separator for all.** -/
theorem joinWith_pieces (sep : Char) (s : List Char) :
    joinWith [sep] (pieces isSep s) = s.map fun c => if isSep c then sep else c := by
  induction s with
  | nil => rfl
  | cons c s ih =>
    rw [pieces, List.map_cons]
    split
    · rw [joinWith_cons (pieces_ne_nil isSep s), ih]
      rfl
    · split
      · rename_i hnil
        exact absurd hnil (pieces_ne_nil isSep s)
      · rename_i first others heq
        rw [heq] at ih
        rw [← ih]
        cases others <;> rfl

theorem mem_joinWith {sep : List Char} {parts : List (List Char)} {c : Char}
    (h : c ∈ joinWith sep parts) :
    c ∈ sep ∨ ∃ part ∈ parts, c ∈ part := by
  induction parts with
  | nil => exact absurd h (by simp [joinWith])
  | cons part parts ih =>
    cases parts with
    | nil => exact .inr ⟨part, List.mem_cons_self, h⟩
    | cons next more =>
      rw [joinWith, List.mem_append, List.mem_append] at h
      rcases h with (h | h) | h
      · exact .inr ⟨part, List.mem_cons_self, h⟩
      · exact .inl h
      · rcases ih h with h | ⟨p, hp, hc⟩
        · exact .inl h
        · exact .inr ⟨p, List.mem_cons_of_mem _ hp, hc⟩

theorem infix_joinWith {sep part : List Char} {parts : List (List Char)} (h : part ∈ parts) :
    part <:+: joinWith sep parts := by
  induction parts with
  | nil => exact absurd h List.not_mem_nil
  | cons first parts ih =>
    cases parts with
    | nil =>
      obtain rfl := List.mem_singleton.1 h
      exact List.infix_refl _
    | cons next more =>
      rw [joinWith, List.append_assoc]
      rcases List.mem_cons.1 h with rfl | h
      · exact List.infix_append_left
      · exact List.infix_append_of_infix_right (List.infix_append_of_infix_right (ih h))

theorem prefix_of_pieces {s first : List Char} {others : List (List Char)}
    (h : pieces isSep s = first :: others) :
    first <+: s := by
  induction s generalizing first others with
  | nil =>
    obtain ⟨rfl, -⟩ := List.cons.inj h
    exact List.nil_prefix
  | cons c s ih =>
    rw [pieces] at h
    split at h
    · obtain ⟨rfl, -⟩ := List.cons.inj h
      exact List.nil_prefix
    · split at h
      · rename_i hnil
        exact absurd hnil (pieces_ne_nil isSep s)
      · rename_i heq
        obtain ⟨rfl, -⟩ := List.cons.inj h
        exact List.cons_prefix_cons.2 ⟨rfl, ih heq⟩

/-- A piece is found in the text as a whole. -/
theorem infix_of_mem_pieces {s piece : List Char} (h : piece ∈ pieces isSep s) : piece <:+: s := by
  induction s generalizing piece with
  | nil =>
    obtain rfl := List.mem_singleton.1 h
    exact List.infix_refl []
  | cons c s ih =>
    rw [pieces] at h
    split at h
    · rcases List.mem_cons.1 h with rfl | h
      · exact List.nil_infix
      · exact List.infix_cons (ih h)
    · split at h
      · rename_i hnil
        exact absurd hnil (pieces_ne_nil isSep s)
      · rename_i first others heq
        rcases List.mem_cons.1 h with rfl | h
        · exact (List.cons_prefix_cons.2 ⟨rfl, prefix_of_pieces heq⟩).isInfix
        · exact List.infix_cons (ih (heq ▸ List.mem_cons_of_mem _ h))

theorem mem_of_mem_pieces {s piece : List Char} (h : piece ∈ pieces isSep s) : ∀ c ∈ piece, c ∈ s :=
  fun _ hc => (infix_of_mem_pieces h).subset hc

/-- A word that is cut nowhere lies on one side of any cut. -/
theorem infix_append_cons {w a b : List Char} {m : Char} (hm : m ∉ w) (h : w <:+: a ++ m :: b) :
    w <:+: a ∨ w <:+: b := by
  obtain ⟨x, y, hxy⟩ := h
  rcases List.append_eq_append_iff.1 hxy with ⟨z, rfl, -⟩ | ⟨z, hxw, hz⟩
  · exact .inl ⟨x, z, rfl⟩
  · cases z with
    | nil =>
      rw [List.append_nil] at hxw
      exact .inl ⟨x, [], by rw [hxw, List.append_nil]⟩
    | cons d z =>
      obtain ⟨rfl, rfl⟩ := List.cons.inj hz
      rcases List.append_eq_append_iff.1 hxw with ⟨u, -, hu⟩ | ⟨u, rfl, hu⟩
      · exact absurd (hu ▸ List.mem_append_right u List.mem_cons_self) hm
      · cases u with
        | nil => exact absurd (by rw [← show m :: z = w from hu]; exact List.mem_cons_self) hm
        | cons e u =>
          obtain ⟨-, rfl⟩ := List.cons.inj hu
          exact .inr ⟨u, y, rfl⟩

/-- Joining parts makes no new word without the separator. -/
theorem not_infix_joinWith {w : List Char} {sep : Char} {parts : List (List Char)} (hsep : sep ∉ w)
    (hne : w ≠ []) (h : ∀ part ∈ parts, ¬w <:+: part) : ¬w <:+: joinWith [sep] parts := by
  induction parts with
  | nil =>
    rw [joinWith, List.infix_nil]
    exact hne
  | cons part parts ih =>
    cases parts with
    | nil => exact h part List.mem_cons_self
    | cons next more =>
      rw [joinWith, List.append_assoc, List.singleton_append]
      intro hfound
      rcases infix_append_cons hsep hfound with hfound | hfound
      · exact h part List.mem_cons_self hfound
      · exact ih (fun p hp => h p (List.mem_cons_of_mem _ hp)) hfound

/-- Reading all parts comes to reading each one. -/
theorem mapM_eq_some_iff {α β : Type} {read? : α → Option β} {parts : List α} {values : List β} :
    parts.mapM read? = some values ↔
      List.Forall₂ (fun part v => read? part = some v) parts values := by
  induction parts generalizing values with
  | nil => simp [eq_comm]
  | cons part parts ih =>
    simp only [List.mapM_cons, Option.pure_def, Option.bind_eq_bind, Option.bind_eq_some_iff, ih,
      List.forall₂_cons_left_iff, Option.some.injEq]
    constructor
    · rintro ⟨v, hv, others, hothers, rfl⟩
      exact ⟨v, others, hv, hothers, rfl⟩
    · rintro ⟨v, others, hv, hothers, rfl⟩
      exact ⟨v, hv, others, hothers, rfl⟩

/-- Reading all of what was written. -/
theorem mapM_map_eq_some {α β : Type} {read? : α → Option β} {write : β → α} {values : List β}
    (h : ∀ v ∈ values, read? (write v) = some v) : (values.map write).mapM read? = some values := by
  induction values with
  | nil => rfl
  | cons v values ih =>
    rw [List.map_cons, List.mapM_cons, h v List.mem_cons_self,
      ih fun w hw => h w (List.mem_cons_of_mem _ hw)]
    rfl

/-- Whatever comes of reading all pieces comes of reading one. -/
theorem exists_of_mem_mapM {α β : Type} {read? : α → Option β} {parts : List α} {values : List β}
    (h : parts.mapM read? = some values) {v : β} (hv : v ∈ values) :
    ∃ part ∈ parts, read? part = some v := by
  induction parts generalizing values with
  | nil =>
    obtain rfl := Option.some.inj h
    exact absurd hv (by simp)
  | cons part parts ih =>
    simp only [List.mapM_cons, Option.pure_def, Option.bind_eq_bind, Option.bind_eq_some_iff] at h
    obtain ⟨first, hfirst, others, hothers, h⟩ := h
    rw [← Option.some.inj h] at hv
    rcases List.mem_cons.1 hv with rfl | hv
    · exact ⟨part, List.mem_cons_self, hfirst⟩
    · obtain ⟨p, hp, heq⟩ := ih hothers hv
      exact ⟨p, List.mem_cons_of_mem _ hp, heq⟩

end ErrorReport.Text
