import ErrorReport.Dsn
import ErrorReport.Proofs.Dictionary
import ErrorReport.Proofs.Dsn.Settings
import ErrorReport.Proofs.Text.Form
import ErrorReport.Proofs.Url.Reading

/-!
# Behind the host

The path, the project and the options of a descriptor are written without escapes in the path, so
the text behind the host may be read as something else.  No step of reading makes a path longer:
dropping blanks, cutting at `?` and `#`, following dots, leaving out empty segments, reading
escapes, and taking settings off the end.  A path that comes back whole therefore went through all
of them untouched, and that is what `Dsn.KeepsPath` spells out (`Dsn.keepsPath_of_hasTail`,
`Dsn.hasTail_of_keepsPath`).
-/

set_option autoImplicit false

namespace ErrorReport

open Url

/-! ## Sizes -/

namespace Dsn

theorem plainSegments_cons (s : List Char) (path : List (List Char)) :
    plainSegments (s :: path) =
      if s.isEmpty then plainSegments path else Text.Percent.decodeText s ::
        plainSegments path := by
  rw [plainSegments]
  cases s <;> rfl

/-- Reading escapes makes no path larger, and keeps its size only if there is nothing to read and no
empty segment that counts. -/
theorem size_plainSegments (k : Nat) (path : List (List Char)) :
    Path.size k (plainSegments path) ≤ Path.size k path ∧
      (Path.size k (plainSegments path) = Path.size k path →
        ∀ s ∈ path, (s = [] → k = 0) ∧ Text.Percent.decodeText s = s) := by
  induction path with
  | nil => exact ⟨Nat.le_refl _, fun _ s hs => absurd hs (by simp)⟩
  | cons s path ih =>
    obtain ⟨hle, heq⟩ := ih
    rw [plainSegments_cons, Path.size_cons]
    split
    · rename_i hempty
      obtain rfl := List.isEmpty_iff.1 hempty
      refine ⟨by omega, fun h => ?_⟩
      rw [List.length_nil] at h
      intro t ht
      rcases List.mem_cons.1 ht with rfl | ht
      · exact ⟨fun _ => by omega, Text.Percent.decodeText_nil⟩
      · exact heq (by omega) t ht
    · rename_i hne
      have hlength := Text.Percent.length_decodeText_le s
      rw [Path.size_cons]
      refine ⟨by omega, fun h => ?_⟩
      intro t ht
      rcases List.mem_cons.1 ht with rfl | ht
      · exact ⟨fun hnil => absurd (hnil ▸ rfl) hne, Text.Percent.decodeText_eq_self (by omega)⟩
      · exact heq (by omega) t ht

/-- Without escapes, segments are left as they are, but for empty ones. -/
theorem plainSegments_eq_filter {path : List (List Char)}
    (h : ∀ s ∈ path, Text.Percent.decodeText s = s) :
    plainSegments path = path.filter fun s => !s.isEmpty :=
  (List.map_congr_left fun s hs => h s (List.mem_of_mem_filter hs)).trans (List.map_id _)

theorem plainSegments_eq_self {path : List (List Char)}
    (h : ∀ s ∈ path, s ≠ [] ∧ Text.Percent.decodeText s = s) : plainSegments path = path := by
  rw [plainSegments_eq_filter fun s hs => (h s hs).2]
  exact List.filter_eq_self.2 fun s hs => by simpa using (h s hs).1

/-- Taking settings off the end makes a path smaller, or there are none. -/
theorem size_withoutSettings (segments : List (List Char)) :
    Path.size 1 (withoutSettings segments) ≤ Path.size 1 segments ∧
      (Path.size 1 (withoutSettings segments) = Path.size 1 segments →
        withoutSettings segments = segments) := by
  rw [withoutSettings_eq]
  obtain ⟨settings, hsettings⟩ := List.rdropWhile_prefix isSetting segments
  have hsize := congrArg (Path.size 1) hsettings
  rw [Path.size_append] at hsize
  refine ⟨by omega, fun heq => ?_⟩
  cases settings with
  | nil => rw [List.append_nil] at hsettings; exact hsettings
  | cons s settings =>
    rw [Path.size_cons] at hsize
    omega

/-! ## The path as text -/

/-- The path and the project, one after the other. -/
def location (d : Dsn) : List Char := d.path.toList ++ d.projectId.toList

theorem toList_pathText (segments : List (List Char)) :
    (pathText segments).toList = Path.slashed segments ++ ['/'] := by
  rw [pathText, String.toList_ofList]
  induction segments with
  | nil => rfl
  | cons s segments ih =>
    rw [List.flatMap_cons, Path.slashed, List.flatMap_cons, ← Path.slashed,
      List.append_assoc ('/' :: s), ← ih]
    simp

theorem slashed_concat (segments : List (List Char)) (last : List Char) :
    Path.slashed (segments ++ [last]) = Path.slashed segments ++ '/' :: last := by
  simp [Path.slashed]

/-- A path and a project that were taken from segments. -/
theorem slashed_of_getLast? {segments : List (List Char)} {project : List Char}
    (h : segments.getLast? = some project) :
    Path.slashed segments = (pathText segments.dropLast).toList ++ project := by
  obtain ⟨front, rfl⟩ := List.getLast?_eq_some_iff.1 h
  rw [List.dropLast_concat, toList_pathText, slashed_concat]
  simp

/-! ## The end of the text -/

/-- What is left of the end of a descriptor when the blanks and all that a URL drops are gone. -/
def finished (s : List Char) : List Char := cleanedEnd (s.rdropWhile Text.isBlank)

theorem length_cleanedEnd_le (s : List Char) :
    (cleanedEnd s).length ≤ (s.rdropWhile isEdge).length :=
  List.filter_sublist.length_le

theorem finished_sublist (s : List Char) : (finished s).Sublist s :=
  List.filter_sublist.trans
    ((List.rdropWhile_prefix _ _).sublist.trans (List.rdropWhile_prefix _ _).sublist)

theorem finished_slash (s : List Char) : finished ('/' :: s) = '/' :: finished s := by
  have hblank : ('/' :: s).rdropWhile Text.isBlank = '/' :: s.rdropWhile Text.isBlank :=
    Text.rdropWhile_append_cons [] s (by decide)
  have hedge : ('/' :: s.rdropWhile Text.isBlank).rdropWhile isEdge =
      '/' :: (s.rdropWhile Text.isBlank).rdropWhile isEdge :=
    Text.rdropWhile_append_cons [] _ (by decide)
  rw [finished, cleanedEnd, hblank, hedge, List.filter_cons_of_pos (by decide)]
  rfl

/-- A slash keeps the end of a text apart from what stands before it. -/
theorem finished_append_slash (a s : List Char) :
    finished (a ++ '/' :: s) = a.filter isRetained ++ finished ('/' :: s) := by
  rw [finished, cleanedEnd, Text.rdropWhile_append_cons a s (by decide),
    Text.rdropWhile_append_cons a _ (by decide), List.filter_append,
    List.filter_cons_of_pos (by decide), finished_slash]
  rfl

/-- Only a text without blanks at its end and without line breaks and tabulators stays as it is. -/
theorem finished_eq_self_iff (s : List Char) : finished s = s ↔
    (∀ c ∈ s, isRetained c = true) ∧ ∀ c ∈ s.getLast?, Text.isBlank c = false ∧
    isEdge c = false := by
  constructor
  · intro h
    have hblank : s.rdropWhile Text.isBlank = s := by
      refine (List.rdropWhile_prefix _ _).eq_of_length_le ?_
      have h1 := length_cleanedEnd_le (s.rdropWhile Text.isBlank)
      have h2 := (List.rdropWhile_prefix isEdge (s.rdropWhile Text.isBlank)).length_le
      rw [← finished, h] at h1
      omega
    have hedge : s.rdropWhile isEdge = s := by
      refine (List.rdropWhile_prefix _ _).eq_of_length_le ?_
      have h1 := length_cleanedEnd_le (s.rdropWhile Text.isBlank)
      rw [← finished, h, hblank] at h1
      exact h1
    rw [finished, cleanedEnd, hblank, hedge, List.filter_eq_self] at h
    exact ⟨h,
      fun c hc => ⟨Text.rdropWhile_eq_self_iff.1 hblank c hc,
      Text.rdropWhile_eq_self_iff.1 hedge c hc⟩⟩
  · rintro ⟨hretained, hlast⟩
    rw [finished, cleanedEnd, Text.rdropWhile_eq_self fun c hc => (hlast c hc).1,
      Text.rdropWhile_eq_self fun c hc => (hlast c hc).2]
    exact List.filter_eq_self.2 hretained

/-- Printable characters at the end keep what stands before them from being trimmed. -/
theorem finished_append {s q : List Char} (hne : q ≠ [])
    (hq : ∀ c ∈ q, 0x20 < c.toNat ∧ c.toNat < 0x7F) :
    finished (s ++ q) = s.filter isRetained ++ q := by
  have hedge : ∀ c ∈ q, isEdge c = false := by
    intro c hc
    have := (hq c hc).1
    rw [isEdge, decide_eq_false_iff_not]
    omega
  have hlast : ∀ c ∈ (s ++ q).getLast?, c ∈ q := by
    intro c hc
    rw [List.getLast?_append_of_ne_nil _ hne] at hc
    exact List.mem_of_mem_getLast? hc
  have hblank : (s ++ q).rdropWhile Text.isBlank = s ++ q := by
    refine Text.rdropWhile_eq_self fun c hc => ?_
    exact Text.not_isBlank_of_printable (hq c (hlast c hc)).1 (hq c (hlast c hc)).2
  rw [finished, cleanedEnd, hblank, Text.rdropWhile_eq_self fun c hc => hedge c (hlast c hc),
    List.filter_append, List.filter_eq_self.2 fun c hc => isRetained_of_not_isEdge (hedge c hc)]

/-! ## Path and options, there and back -/

/-- What is written behind the path. -/
def query (d : Dsn) : List Char :=
  if d.options.entries.isEmpty then [] else '?' :: Text.Form.write d.options.entries

/-- The path, the project and the options of a URL are those of a descriptor. -/
structure HasTail (d : Dsn) (url : Url) : Prop where
  path : pathText (withoutSettings (plainSegments url.path)).dropLast = d.path
  project : (withoutSettings (plainSegments url.path)).getLast? = some d.projectId.toList
  settings : ∀ setting ∈ trailingSettings (plainSegments url.path), setting ∈ d.settings.toList
  options : Dictionary.ofList url.options = d.options

/-- Path and project, written without escapes, are a path again that leads nowhere else. -/
structure KeepsPath (kind : SchemeKind) (d : Dsn) : Prop where
  /-- No character is dropped, ends the path, or is a second sort of slash. -/
  chars : ∀ c ∈ d.location, isRetained c = true ∧ endsPath c = false ∧
    (kind.isSlash c = true → c = '/')
  /-- No segment is empty, is dots, or has an escape in it. -/
  segments : ∀ s ∈ Text.pieces (· == '/') d.location.tail,
    s ≠ [] ∧ Path.isBack s = false ∧ Path.isHere s = false ∧ Text.Percent.decodeText s = s
  /-- The project is one segment. -/
  project : '/' ∉ d.projectId.toList
  /-- If the project is the end of the text, no blank or control character is the end of the
  project. -/
  last : d.options.entries = [] → ∀ c ∈ d.location.getLast?, Text.isBlank c = false ∧
    isEdge c = false

theorem printable_query (d : Dsn) : ∀ c ∈ d.query, 0x20 < c.toNat ∧ c.toNat < 0x7F := by
  intro c hc
  rw [query] at hc
  split at hc
  · exact absurd hc (by simp)
  · rcases List.mem_cons.1 hc with rfl | hc
    · decide
    · exact Text.Form.printable_write hc

theorem query_head (d : Dsn) : ∀ c ∈ d.query.head?, endsPath c = true := by
  intro c hc
  rw [query] at hc
  split at hc
  · exact absurd hc (by simp)
  · rw [← Option.some.inj hc]
    rfl

theorem query_eq_nil_iff (d : Dsn) : d.query = [] ↔ d.options.entries = [] := by
  rw [query, ← List.isEmpty_iff (l := d.options.entries)]
  split
  · rename_i h
    exact ⟨fun _ => h, fun _ => rfl⟩
  · rename_i h
    exact ⟨fun hnil => absurd hnil (by simp), fun hempty => absurd hempty h⟩

/-- Options are read from their own text. -/
theorem options_query (d : Dsn) :
    Dictionary.ofList (Text.Form.read ((splitQuery d.query).1.getD [])) = d.options := by
  have hread : Text.Form.read ((splitQuery d.query).1.getD []) = d.options.entries := by
    rw [query]
    split
    · rename_i hempty
      rw [List.isEmpty_iff.1 hempty]
      rfl
    · rw [splitQuery_query fun hmem => ?_]
      · exact Text.Form.read_write d.options.entries
      · rcases Text.Form.mem_write hmem with h | h | h | h | h
        all_goals exact absurd h (by decide)
  rw [hread, Dictionary.ofList_entries]

/-- What is left of the path when the end of the text is finished. -/
theorem finished_location (d : Dsn) {s : List Char} (hlocation : d.location = '/' :: s) :
    ∃ s', s'.Sublist s ∧ finished (d.location ++ d.query) = '/' :: s' ++ d.query ∧
      (s' = s ↔ (∀ c ∈ d.location, isRetained c = true) ∧
        (d.options.entries = [] → ∀ c ∈ d.location.getLast?, Text.isBlank c = false ∧
        isEdge c = false)) := by
  by_cases hquery : d.query = []
  · refine ⟨finished s, finished_sublist s, ?_, ?_⟩
    · rw [hquery, List.append_nil, List.append_nil, hlocation, finished_slash]
    · have hself := finished_eq_self_iff d.location
      rw [hlocation, finished_slash, List.cons.injEq, and_iff_right rfl, ← hlocation] at hself
      rw [hself]
      exact and_congr_right fun _ => ⟨fun h _ => h, fun h => h ((query_eq_nil_iff d).1 hquery)⟩
  · refine ⟨s.filter isRetained, List.filter_sublist, ?_, ?_⟩
    · rw [finished_append hquery d.printable_query, hlocation, List.filter_cons_of_pos (by decide)]
    · rw [List.filter_eq_self, hlocation]
      constructor
      · intro h
        refine ⟨fun c hc => ?_, fun hnil => absurd ((query_eq_nil_iff d).2 hnil) hquery⟩
        rcases List.mem_cons.1 hc with rfl | hc
        · decide
        · exact h c hc
      · exact fun h c hc => h.1 c (List.mem_cons_of_mem _ hc)

theorem location_eq_cons {d : Dsn} {segments : List (List Char)} (h : pathText segments = d.path) :
    ∃ s, d.location = '/' :: s := by
  rw [location, ← h, pathText, String.toList_ofList]
  exact ⟨_, List.cons_append⟩

theorem location_of_hasTail {d : Dsn} {url : Url} (h : d.HasTail url) :
    Path.slashed (withoutSettings (plainSegments url.path)) = d.location := by
  rw [slashed_of_getLast? h.project, h.path, location]

/-- The path that is left of a text without query. -/
theorem takeWhile_query (d : Dsn) (s : List Char) :
    (s ++ d.query).takeWhile (fun c => !endsPath c) = s.takeWhile fun c => !endsPath c :=
  Text.takeWhile_append_of_head s fun c hc => by rw [d.query_head c hc]; rfl

/-! ## Slashes of either sort -/

section Slashes
variable {kind : SchemeKind} {s : List Char}

theorem pieces_isSlash (h : ∀ c ∈ s, kind.isSlash c = true → c = '/') :
    Text.pieces kind.isSlash s = Text.pieces (· == '/') s := by
  refine Text.pieces_congr fun c hc => ?_
  rw [Bool.eq_iff_iff, beq_iff_eq]
  refine ⟨h c hc, fun heq => ?_⟩
  rw [heq]
  rfl

/-- The pieces of a path are written as the path was if there are slashes of one sort only. -/
theorem slashed_pieces_eq_iff : Path.slashed (Text.pieces kind.isSlash s) = '/' :: s ↔
    ∀ c ∈ s, kind.isSlash c = true → c = '/' := by
  obtain ⟨first, others, heq⟩ := List.exists_cons_of_ne_nil (Text.pieces_ne_nil kind.isSlash s)
  rw [heq, Path.slashed_cons, ← heq, Text.joinWith_pieces, List.cons.injEq, and_iff_right rfl]
  constructor
  · intro h c hc hkind
    have hmap := List.map_inj_left.1 (h.trans (List.map_id s).symm) c hc
    rw [if_pos hkind] at hmap
    exact hmap.symm
  · intro h
    refine (List.map_congr_left fun c hc => ?_).trans (List.map_id s)
    split
    · rename_i hkind
      exact (h c hc hkind).symm
    · rfl

/-- The last piece of a path is what stands behind its last slash. -/
theorem pieces_slashed_concat (segments : List (List Char)) {last : List Char} (h : '/' ∉ last) :
    ∃ front, Text.pieces (· == '/') (Path.slashed (segments ++ [last])).tail = front ++ [last] := by
  have hlast : Text.pieces (· == '/') last = [last] := by
    refine Text.pieces_of_free fun c hc => ?_
    rw [beq_eq_false_iff_ne]
    rintro rfl
    exact h hc
  obtain ⟨first, others, heq⟩ := List.exists_cons_of_ne_nil (show segments ++ [last] ≠ [] by simp)
  rw [heq, Path.slashed_cons, ← heq, List.tail_cons,
    Text.pieces_joinWith_flatMap (by simp) (by decide), List.flatMap_append, List.flatMap_singleton,
    hlast]
  exact ⟨_, rfl⟩

/-- Each step of reading a path keeps its length or drops something, so a path that comes back whole
came through every one of them untouched. -/
theorem steps_eq_of_slashed {s' : List Char} (hsub : s'.Sublist s)
    (hback : Path.slashed (withoutSettings (plainSegments
      (Url.segments kind ('/' :: s'.takeWhile fun c => !endsPath c)))) = '/' :: s) :
    s' = s ∧ s.takeWhile (fun c => !endsPath c) = s ∧
      Url.segments kind ('/' :: s) = Text.pieces kind.isSlash s ∧
      plainSegments (Text.pieces kind.isSlash s) = Text.pieces kind.isSlash s ∧
      withoutSettings (Text.pieces kind.isSlash s) = Text.pieces kind.isSlash s ∧
      ∀ piece ∈ Text.pieces kind.isSlash s,
        piece ≠ [] ∧ Path.isBack piece = false ∧ Path.isHere piece = false ∧
        Text.Percent.decodeText piece = piece := by
  have hlengths := congrArg List.length hback
  rw [Path.length_slashed, List.length_cons] at hlengths
  have h1 := hsub.length_le
  have h2 := (List.takeWhile_prefix (l := s') fun c => !endsPath c).length_le
  obtain ⟨h3, hdots⟩ := size_segments 1 kind (s'.takeWhile fun c => !endsPath c)
  rw [size_one_pieces] at h3 hdots
  obtain ⟨h4, hplain⟩ :=
    size_plainSegments 1 (Url.segments kind ('/' :: s'.takeWhile fun c => !endsPath c))
  obtain ⟨h5, hwithout⟩ := size_withoutSettings
    (plainSegments (Url.segments kind ('/' :: s'.takeWhile fun c => !endsPath c)))
  have hs' : s' = s := hsub.eq_of_length (by omega)
  have htake : s'.takeWhile (fun c => !endsPath c) = s' :=
    (List.takeWhile_prefix _).eq_of_length (by omega)
  replace hdots := hdots (by omega)
  replace hplain := hplain (by omega)
  replace hwithout := hwithout (by omega)
  rw [htake, hs'] at hdots hplain hwithout
  have hfollow : Url.segments kind ('/' :: s) = Text.pieces kind.isSlash s :=
    Path.follow_plain hdots
  rw [hfollow] at hplain hwithout
  have hfilled : ∀ piece ∈ Text.pieces kind.isSlash s,
      piece ≠ [] ∧ Text.Percent.decodeText piece = piece := fun piece hpiece =>
    ⟨fun hnil => absurd ((hplain piece hpiece).1 hnil) (by decide), (hplain piece hpiece).2⟩
  have hself := plainSegments_eq_self hfilled
  rw [hself] at hwithout
  refine ⟨hs', hs' ▸ htake, hfollow, hself, hwithout, fun piece hpiece => ?_⟩
  exact ⟨(hfilled piece hpiece).1, (hdots piece hpiece).1, (hdots piece hpiece).2,
    (hfilled piece hpiece).2⟩

end Slashes

/-! ## When path and options come back -/

theorem keepsPath_of_hasTail {d : Dsn} {base : Url} {kind : SchemeKind}
    (h : d.HasTail (withRest base kind (finished (d.location ++ d.query)))) : d.KeepsPath kind := by
  obtain ⟨s, hlocation⟩ := location_eq_cons h.path
  obtain ⟨s', hsub, hfinished, hself⟩ := finished_location d hlocation
  have hpath : (withRest base kind (finished (d.location ++ d.query))).path =
      Url.segments kind ('/' :: s'.takeWhile fun c => !endsPath c) := by
    rw [hfinished]
    show Url.segments kind (('/' :: s' ++ d.query).takeWhile fun c => !endsPath c) = _
    rw [takeWhile_query, List.takeWhile_cons_of_pos (by decide)]
  have hback := location_of_hasTail h
  rw [hpath, hlocation] at hback
  obtain ⟨hs', htake, hfollow, hplain, hwithout, hpieces⟩ := steps_eq_of_slashed hsub hback
  rw [hs', htake] at hpath hback
  rw [hfollow, hplain, hwithout] at hback
  have hslash := slashed_pieces_eq_iff.1 hback
  refine ⟨fun c hc => ?_, fun piece hpiece => ?_, fun hmem => ?_, (hself.1 hs').2⟩
  · refine ⟨(hself.1 hs').1 c hc, ?_⟩
    rw [hlocation] at hc
    rcases List.mem_cons.1 hc with rfl | hc
    · exact ⟨by decide, fun _ => rfl⟩
    · have hends := List.takeWhile_eq_self_iff.1 htake c hc
      exact ⟨by simpa using hends, hslash c hc⟩
  · rw [hlocation, List.tail_cons, ← pieces_isSlash hslash] at hpiece
    exact hpieces piece hpiece
  · have hproject := h.project
    rw [hpath, hfollow, hplain, hwithout] at hproject
    have hfree := Text.pieces_free s _ (List.mem_of_getLast? hproject) '/' hmem
    exact absurd (show true = false from hfree) (by decide)

/-- The path and the options that are read behind a path that is kept. -/
theorem withRest_of_keepsPath {d : Dsn} (base : Url) {kind : SchemeKind} {s : List Char}
    (hlocation : d.location = '/' :: s) (h : d.KeepsPath kind) :
    plainSegments (withRest base kind (finished (d.location ++ d.query))).path =
      Text.pieces (· == '/') s ∧
      (withRest base kind (finished (d.location ++ d.query))).query = (splitQuery d.query).1 := by
  obtain ⟨s', -, hfinished, hself⟩ := finished_location d hlocation
  obtain rfl := hself.2 ⟨fun c hc => (h.chars c hc).1, h.last⟩
  have hends : ∀ c ∈ d.location, endsPath c = false := fun c hc => (h.chars c hc).2.1
  have hslash : ∀ c ∈ s', kind.isSlash c = true → c = '/' := fun c hc =>
    (h.chars c (hlocation ▸ List.mem_cons_of_mem _ hc)).2.2
  have hkept : ∀ piece ∈ Text.pieces kind.isSlash s', piece ≠ [] ∧ Path.isBack piece = false ∧
      Path.isHere piece = false ∧ Text.Percent.decodeText piece = piece := by
    intro piece hpiece
    refine h.segments piece ?_
    rwa [hlocation, List.tail_cons, ← pieces_isSlash hslash]
  have hfollow : Url.segments kind ('/' :: s') = Text.pieces kind.isSlash s' :=
    Path.follow_plain fun piece hpiece => ⟨(hkept piece hpiece).2.1, (hkept piece hpiece).2.2.1⟩
  rw [hfinished, ← hlocation, withRest_append base hends d.query_head]
  refine ⟨?_, rfl⟩
  rw [hlocation, hfollow, ← pieces_isSlash hslash]
  exact plainSegments_eq_self fun piece hpiece =>
    ⟨(hkept piece hpiece).1, (hkept piece hpiece).2.2.2⟩

/-- A path that is kept comes back, with the options behind it. -/
theorem hasTail_of_keepsPath {d : Dsn} (base : Url) {kind : SchemeKind}
    {segments : List (List Char)}
    (hsegments : pathText segments = d.path) (hproject : isSetting d.projectId.toList = false)
    (h : d.KeepsPath kind) : d.HasTail (withRest base kind (finished (d.location ++ d.query))) := by
  obtain ⟨s, hlocation⟩ := location_eq_cons hsegments
  obtain ⟨hpath, hoptions⟩ := withRest_of_keepsPath base hlocation h
  have htext : d.location = Path.slashed (segments ++ [d.projectId.toList]) := by
    rw [location, ← hsegments, toList_pathText, slashed_concat]
    simp
  obtain ⟨front, hfront⟩ := pieces_slashed_concat segments h.project
  rw [← htext, hlocation, List.tail_cons] at hfront
  rw [hfront] at hpath
  have hwithout : withoutSettings (front ++ [d.projectId.toList]) = front ++
      [d.projectId.toList] := by
    rw [withoutSettings_eq, List.rdropWhile_concat_neg _ _ _ (by rw [hproject]; decide)]
  have hslash : ∀ c ∈ s, kind.isSlash c = true → c = '/' := fun c hc =>
    (h.chars c (hlocation ▸ List.mem_cons_of_mem _ hc)).2.2
  have hslashed : Path.slashed (front ++ [d.projectId.toList]) = d.location := by
    rw [← hfront, ← pieces_isSlash hslash, hlocation]
    exact slashed_pieces_eq_iff.2 hslash
  refine ⟨?_, ?_, ?_, ?_⟩
  · rw [hpath, hwithout, List.dropLast_concat, ← String.toList_inj]
    rw [slashed_of_getLast? (List.getLast?_concat), List.dropLast_concat, location] at hslashed
    exact List.append_cancel_right hslashed
  · rw [hpath, hwithout, List.getLast?_concat]
  · rw [hpath, trailingSettings, List.reverse_append, List.reverse_singleton, List.singleton_append,
      List.takeWhile_cons_of_neg (by rw [hproject]; decide)]
    simp
  · rw [Url.options, hoptions]
    exact options_query d

end Dsn

end ErrorReport
