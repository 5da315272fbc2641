import ErrorReport.Url
import ErrorReport.Proofs.Text.Percent
import ErrorReport.Proofs.Text.Split
import ErrorReport.Proofs.Text.Trim

/-!
# Paths, there and back

Segments with a slash before each of them are found again in a URL (`segments_slashed`), unless one
of them is a dot or two, which a URL follows.  A segment that counts as dots stands for dots
(`Path.decodeText_of_isHere`, `Path.decodeText_of_isBack`), so escaping any other text makes no dots
of it.  Following a path makes it no larger, and smaller where there are dots to follow, whatever
a slash counts for (`Path.size`, `size_segments`).
-/

set_option autoImplicit false

namespace ErrorReport.Url

namespace Path

/-! ## Dots -/

/-- A dot, escaped or not, stands for a dot. -/
theorem decode_of_dot? {s r : List Char} (h : dot? s = some r) :
    Text.Percent.decode s = Text.utf8 ['.'] ++ Text.Percent.decode r := by
  unfold dot? at h
  split at h
  · obtain rfl := Option.some.inj h
    rw [Text.Percent.decode_cons _ (by decide)]
    rfl
  · obtain rfl := Option.some.inj h
    rfl
  · obtain rfl := Option.some.inj h
    rfl
  · exact absurd h (by simp)

theorem decodeText_of_isHere {s : List Char} (h : isHere s = true) :
    Text.Percent.decodeText s = ['.'] := by
  rw [isHere, beq_iff_eq] at h
  rw [Text.Percent.decodeText, decode_of_dot? h, Text.decodeLossy_utf8_append,
    ← Text.Percent.decodeText, Text.Percent.decodeText_nil]
  rfl

theorem decodeText_of_isBack {s : List Char} (h : isBack s = true) :
    Text.Percent.decodeText s = ['.', '.'] := by
  rw [isBack, beq_iff_eq] at h
  obtain ⟨r, hs, hr⟩ := Option.bind_eq_some_iff.1 h
  rw [Text.Percent.decodeText, decode_of_dot? hs, decode_of_dot? hr, Text.decodeLossy_utf8_append,
    Text.decodeLossy_utf8_append, ← Text.Percent.decodeText, Text.Percent.decodeText_nil]
  rfl

/-! ## Following -/

/-- A segment that is not dots is followed. -/
theorem followFrom_cons {s : List Char} (hback : isBack s = false) (hhere : isHere s = false)
    (done segments : List (List Char)) :
    followFrom done (s :: segments) = followFrom (s :: done) segments := by
  rw [followFrom, hback, hhere]
  simp only [Bool.false_eq_true, if_false, Bool.or_self, Bool.and_false]

/-- A path without dots leads along all its segments. -/
theorem followFrom_plain {segments : List (List Char)}
    (h : ∀ s ∈ segments, isBack s = false ∧ isHere s = false) (done : List (List Char)) :
    followFrom done segments = done.reverse ++ segments := by
  induction segments generalizing done with
  | nil => rw [followFrom, List.append_nil]
  | cons s segments ih =>
    obtain ⟨hback, hhere⟩ := h s List.mem_cons_self
    have hrest := ih (fun t ht => h t (List.mem_cons_of_mem _ ht)) (s :: done)
    rw [followFrom_cons hback hhere, hrest, List.reverse_cons, List.append_assoc,
      List.singleton_append]

theorem follow_plain {segments : List (List Char)}
    (h : ∀ s ∈ segments, isBack s = false ∧ isHere s = false) : follow segments = segments :=
  followFrom_plain h []

/-- Segments as they are written, each behind a slash. -/
def slashed (segments : List (List Char)) : List Char := segments.flatMap ('/' :: ·)

theorem slashed_cons (s : List Char) (segments : List (List Char)) :
    slashed (s :: segments) = '/' :: Text.joinWith ['/'] (s :: segments) := by
  induction segments generalizing s with
  | nil => simp [slashed, Text.joinWith]
  | cons t segments ih =>
    rw [slashed, List.flatMap_cons, ← slashed, ih, Text.joinWith]
    simp

theorem mem_slashed {segments : List (List Char)} {c : Char} (h : c ∈ slashed segments) :
    c = '/' ∨ ∃ s ∈ segments, c ∈ s := by
  obtain ⟨s, hs, hc⟩ := List.mem_flatMap.1 h
  exact (List.mem_cons.1 hc).imp_right fun hc => ⟨s, hs, hc⟩

/-! ## Sizes -/

/-- The number of characters in some segments, and so many more for each segment. -/
def size (k : Nat) : List (List Char) → Nat
  | [] => 0
  | s :: segments => s.length + k + size k segments

variable (k : Nat)

@[simp] theorem size_nil : size k [] = 0 := rfl

@[simp] theorem size_cons (s : List Char) (segments : List (List Char)) :
    size k (s :: segments) = s.length + k + size k segments := rfl

@[simp] theorem size_append (a b : List (List Char)) : size k (a ++ b) = size k a + size k b := by
  induction a with
  | nil => exact (Nat.zero_add _).symm
  | cons s a ih =>
    rw [List.cons_append, size_cons, size_cons, ih]
    exact (Nat.add_assoc _ _ _).symm

theorem size_reverse (segments : List (List Char)) :
    size k segments.reverse = size k segments := by
  induction segments with
  | nil => rfl
  | cons s segments ih =>
    rw [List.reverse_cons, size_append, ih, size_cons, size_cons, size_nil, Nat.add_zero,
      Nat.add_comm]

/-- Empty segments hold nothing. -/
theorem size_zero_filter (segments : List (List Char)) :
    size 0 (segments.filter fun s => !s.isEmpty) = size 0 segments := by
  induction segments with
  | nil => rfl
  | cons s segments ih =>
    rw [List.filter_cons]
    split
    · rw [size_cons, size_cons, ih]
    · rename_i hempty
      obtain rfl : s = [] := by simpa using hempty
      rw [size_cons, ih]
      exact (Nat.zero_add _).symm

/-- Each segment takes a slash. -/
theorem length_slashed (segments : List (List Char)) :
    (slashed segments).length = size 1 segments := by
  induction segments with
  | nil => rfl
  | cons s segments ih =>
    rw [slashed, List.flatMap_cons, List.length_append, ← slashed, ih, size_cons, List.length_cons]

theorem size_back_le (done : List (List Char)) : size k (back done) ≤ size k done := by
  cases done with
  | nil => exact Nat.le_refl _
  | cons s done =>
    rw [back]
    split
    · exact Nat.le_refl _
    · rw [size_cons]
      omega

/-- A segment of dots holds a character. -/
theorem length_of_dots {s : List Char} (h : (isBack s || isHere s) = true) : 1 ≤ s.length := by
  cases s with
  | nil => exact absurd h (by decide)
  | cons c s => exact Nat.le_add_left 1 s.length

/-- Dots lead on from a path that is no larger; at the end an empty segment takes their place. -/
theorem followFrom_dots (done : List (List Char)) {s : List Char} (segments : List (List Char))
    (hdots : (isBack s || isHere s) = true) :
    ∃ next, size k next ≤ size k done ∧
      followFrom done (s :: segments) =
        if segments.isEmpty then ([] :: next).reverse else followFrom next segments := by
  rw [followFrom]
  simp only [hdots, Bool.and_true]
  refine ⟨_, ?_, rfl⟩
  split
  · exact size_back_le k done
  · rename_i hback
    rw [Bool.eq_false_iff.2 hback, Bool.false_or] at hdots
    rw [if_pos hdots]

/-- Where a path leads is never larger than the path, and smaller if it has dots. -/
theorem size_followFrom (done segments : List (List Char)) :
    size k (followFrom done segments) ≤ size k done + size k segments ∧
      (size k (followFrom done segments) = size k done + size k segments →
        ∀ s ∈ segments, isBack s = false ∧ isHere s = false) := by
  induction segments generalizing done with
  | nil =>
    rw [followFrom, size_reverse]
    exact ⟨Nat.le_add_right _ _, fun _ s hs => absurd hs (by simp)⟩
  | cons s segments ih =>
    rw [size_cons]
    by_cases hdots : (isBack s || isHere s) = true
    · have hlength := length_of_dots hdots
      obtain ⟨next, hnext, hfollow⟩ := followFrom_dots k done segments hdots
      have hlt : size k (followFrom done (s :: segments)) <
          size k done + (s.length + k + size k segments) := by
        rw [hfollow]
        split
        · rw [size_reverse, size_cons, List.length_nil]
          omega
        · have := (ih next).1
          omega
      exact ⟨Nat.le_of_lt hlt, fun heq => absurd heq (Nat.ne_of_lt hlt)⟩
    · rw [Bool.not_eq_true, Bool.or_eq_false_iff] at hdots
      obtain ⟨hle, heq⟩ := ih (s :: done)
      rw [size_cons] at hle heq
      rw [followFrom_cons hdots.1 hdots.2]
      refine ⟨by omega, fun h => ?_⟩
      intro t ht
      rcases List.mem_cons.1 ht with rfl | ht
      · exact hdots
      · exact heq (by omega) t ht

end Path

/-! ## What follows the host -/

variable {kind : SchemeKind}

/-- **Segments without slashes and dots are found again.** -/
theorem segments_slashed {segments : List (List Char)} (hne : segments ≠ [])
    (hslash : ∀ s ∈ segments, ∀ c ∈ s, kind.isSlash c = false)
    (hdots : ∀ s ∈ segments, Path.isBack s = false ∧ Path.isHere s = false) :
    Url.segments kind (Path.slashed segments) = segments := by
  obtain ⟨s, segments, rfl⟩ := List.exists_cons_of_ne_nil hne
  have hsep : kind.isSlash '/' = true := rfl
  rw [Path.slashed_cons, Url.segments, hsep, if_pos rfl, Text.pieces_joinWith hne hslash hsep,
    Path.follow_plain hdots]

/-- The pieces of a text hold all that is no separator. -/
theorem size_zero_pieces (isSep : Char → Bool) (s : List Char) :
    Path.size 0 (Text.pieces isSep s) = (s.filter fun c => !isSep c).length := by
  induction s with
  | nil => rfl
  | cons c s ih =>
    rw [Text.pieces]
    split
    · rename_i hc
      rw [List.filter_cons_of_neg (by simp [hc]), Path.size_cons, ih]
      exact Nat.zero_add _
    · rename_i hc
      obtain ⟨first, others, heq⟩ := List.exists_cons_of_ne_nil (Text.pieces_ne_nil isSep s)
      rw [List.filter_cons_of_pos (by simp [hc]), List.length_cons, ← ih, heq]
      simp only [Path.size_cons, List.length_cons]
      omega

/-- With a slash for each piece that is the length of the text, and one more. -/
theorem size_one_pieces (isSep : Char → Bool) (s : List Char) :
    Path.size 1 (Text.pieces isSep s) = s.length + 1 := by
  obtain ⟨first, others, heq⟩ := List.exists_cons_of_ne_nil (Text.pieces_ne_nil isSep s)
  rw [← Path.length_slashed, heq, Path.slashed_cons, List.length_cons, ← heq, Text.joinWith_pieces,
    List.length_map]

/-- A path is never larger than the pieces of its text, and as large only if there are no dots. -/
theorem size_segments (k : Nat) (kind : SchemeKind) (s : List Char) :
    Path.size k (Url.segments kind ('/' :: s)) ≤ Path.size k (Text.pieces kind.isSlash s) ∧
      (Path.size k (Url.segments kind ('/' :: s)) = Path.size k (Text.pieces kind.isSlash s) →
        ∀ piece ∈ Text.pieces kind.isSlash s, Path.isBack piece = false ∧
        Path.isHere piece = false) := by
  have hsegments : Url.segments kind ('/' :: s) = Path.follow (Text.pieces kind.isSlash s) := rfl
  have h := Path.size_followFrom k [] (Text.pieces kind.isSlash s)
  rw [Path.size_nil, Nat.zero_add] at h
  rw [hsegments, Path.follow]
  exact h

/-- What stands before the first character that ends the path. -/
theorem withRest_append (url : Url) {path : List Char} (hpath : ∀ c ∈ path, endsPath c = false)
    {tail : List Char} (htail : ∀ c ∈ tail.head?, endsPath c = true) :
    withRest url kind (path ++ tail) =
      { url with
        path := Url.segments kind path
        query := (splitQuery tail).1
        fragment := (splitQuery tail).2 } := by
  have hpos : ∀ c ∈ path, (!endsPath c) = true := fun c hc => by rw [hpath c hc]; rfl
  have hneg : ∀ c ∈ tail.head?, (!endsPath c) = false := fun c hc => by rw [htail c hc]; rfl
  rw [withRest, Text.takeWhile_append_of_all hpos hneg, Text.dropWhile_append_of_all hpos hneg]

/-- Where nothing ends the path, all of it is path. -/
theorem withRest_of_free (url : Url) {text : List Char} (h : ∀ c ∈ text, endsPath c = false) :
    withRest url kind text =
      { url with path := Url.segments kind text, query := none, fragment := none } := by
  have hrest := @withRest_append kind url text h [] (by simp)
  rwa [List.append_nil] at hrest

/-- What ends a path leaves a query or a fragment. -/
theorem not_endsPath_of_withRest {url : Url} {text : List Char}
    (hquery : (withRest url kind text).query = none)
    (hfragment : (withRest url kind text).fragment = none) :
    ∀ c ∈ text, endsPath c = false := by
  have hhead := List.head?_dropWhile_not (fun c => !endsPath c) text
  rw [withRest] at hquery hfragment
  cases hdrop : text.dropWhile fun c => !endsPath c with
  | nil =>
    intro c hc
    simpa using List.dropWhile_eq_nil_iff.1 hdrop c hc
  | cons c rest =>
    rw [hdrop] at hhead hquery hfragment
    have hends : endsPath c = true := by simpa using hhead
    rw [endsPath, Bool.or_eq_true, beq_iff_eq, beq_iff_eq] at hends
    rcases hends with rfl | rfl
    · simp only [splitQuery] at hquery
      split at hquery <;> exact absurd hquery (by simp)
    · exact absurd hfragment (by simp [splitQuery])

theorem splitQuery_query {query : List Char} (h : '#' ∉ query) :
    splitQuery ('?' :: query) = (some query, none) := by
  rw [splitQuery, Text.splitOnce?_none h]

end ErrorReport.Url
