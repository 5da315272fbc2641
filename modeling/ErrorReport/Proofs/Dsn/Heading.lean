import ErrorReport.Dsn
import ErrorReport.Proofs.Text.Ascii
import ErrorReport.Proofs.Text.Split
import ErrorReport.Proofs.Text.Trim

/-!
# Settings and scheme

A text with a marker `://` is cut at the first one, and at every plus sign in front of it
(`Dsn.IsCut`); what `splitHeading?` returns is read off such a cut.  Settings and a scheme that were
joined by `+` are therefore found again (`splitHeading?_heading`).  Blanks at the ends of a
descriptor concern the text in front of the marker and the text behind it, and never the marker
(`trimBy_marker`).
-/

set_option autoImplicit false

namespace ErrorReport

namespace Text

/-- Trimming leaves a marker alone, with what is between it and the ends. -/
theorem trimBy_marker (a b : List Char) :
    trimBy isBlank (a ++ marker ++ b) = a.dropWhile isBlank ++ marker ++ b.rdropWhile isBlank := by
  have hcut : a ++ marker ++ b = (a ++ ':' :: ['/']) ++ '/' :: b := by simp [marker]
  rw [hcut, trimBy_append_cons _ _ (by decide), dropWhile_append_cons _ _ (by decide)]
  simp [marker]

end Text

namespace Dsn

/-- Settings and a scheme as they stand in front of the marker. -/
def heading (tokens : List (List Char)) (scheme : List Char) : List Char :=
  Text.joinWith ['+'] (tokens ++ [scheme])

/-- The settings that tokens stand for. -/
def settingsOf (tokens : List (List Char)) : List String :=
  ((tokens.map (·.map Char.toLower)).filter fun t => !t.isEmpty).map String.ofList

theorem mem_settingsOf {tokens : List (List Char)} {setting : String} :
    setting ∈ settingsOf tokens ↔ ∃ t ∈ tokens, t ≠ [] ∧ t.map Char.toLower = setting.toList := by
  simp only [settingsOf, List.mem_map, List.mem_filter]
  constructor
  · rintro ⟨u, ⟨⟨t, ht, rfl⟩, hne⟩, rfl⟩
    exact ⟨t, ht, by simpa using hne, String.toList_ofList.symm⟩
  · rintro ⟨t, ht, hne, hsetting⟩
    exact ⟨t.map Char.toLower, ⟨⟨t, ht, rfl⟩, by simpa using hne⟩, by
      rw [hsetting, String.ofList_toList]⟩

/-! ## Cuts -/

/-- A text consists of tokens and a scheme with plus signs between them, of the first marker, and of
a rest. -/
structure IsCut (text : List Char) (tokens : List (List Char)) (scheme rest : List Char) :
    Prop where
  eq : text = heading tokens scheme ++ Text.marker ++ rest
  free : ∀ t ∈ tokens ++ [scheme], '+' ∉ t
  first : ¬Text.marker <:+: heading tokens scheme

section Cut

variable {text : List Char} {tokens : List (List Char)} {scheme rest : List Char}

theorem IsCut.pieces (h : IsCut text tokens scheme rest) :
    Text.pieces (· == '+') (heading tokens scheme) = tokens ++ [scheme] := by
  refine Text.pieces_joinWith (by simp) (fun t ht c hc => ?_) (by decide)
  rw [beq_eq_false_iff_ne]
  rintro rfl
  exact h.free t ht hc

theorem IsCut.plain (h : IsCut text tokens scheme rest) :
    ∀ t ∈ tokens ++ [scheme], '+' ∉ t ∧ ¬Text.marker <:+: t :=
  fun t ht => ⟨h.free t ht, fun hmarker =>
    h.first (hmarker.trans (Text.infix_of_mem_pieces (h.pieces ▸ ht)))⟩

theorem isCut_heading (h : ∀ t ∈ tokens ++ [scheme], '+' ∉ t ∧ ¬Text.marker <:+: t)
    (rest : List Char) : IsCut (heading tokens scheme ++ Text.marker ++ rest) tokens scheme rest :=
  ⟨rfl, fun t ht => (h t ht).1,
    Text.not_infix_joinWith (by decide) (by decide) fun t ht => (h t ht).2⟩

/-- A text with a marker can be cut. -/
theorem exists_isCut (h : Text.marker <:+: text) :
    ∃ tokens scheme rest, IsCut text tokens scheme rest := by
  obtain ⟨⟨before, rest⟩, hcut⟩ :=
    Option.ne_none_iff_exists'.1 fun hnone => Text.splitOnce?_eq_none_iff.1 hnone h
  obtain ⟨tokens, scheme, hpieces⟩ :=
    List.eq_nil_or_concat (Text.pieces (· == '+') before) |>.resolve_left
      (Text.pieces_ne_nil _ before)
  rw [List.concat_eq_append] at hpieces
  have hheading : heading tokens scheme = before := by
    rw [heading, ← hpieces, Text.joinWith_pieces]
    refine (List.map_congr_left fun c _ => ?_).trans (List.map_id before)
    by_cases hc : c = '+'
    · simp [hc]
    · simp [hc]
  refine ⟨tokens, scheme, rest, ?_, fun t ht hplus => ?_,
    hheading ▸ Text.not_infix_of_splitOnce? (by decide) hcut⟩
  · rw [hheading]
    exact Text.splitOnce?_append hcut
  · exact absurd (Text.pieces_free before t (hpieces ▸ ht) '+' hplus) (by decide)

theorem splitHeading?_of_isCut (h : IsCut text tokens scheme rest) (hne : scheme ≠ []) :
    splitHeading? text = some ⟨settingsOf tokens, scheme.map Char.toLower, rest⟩ := by
  rw [splitHeading?, show [':', '/', '/'] = Text.marker from rfl, h.eq,
    Text.splitOnce?_marker rest h.first]
  simp only [h.pieces, List.map_append, List.map_cons, List.map_nil, List.getLast?_concat,
    List.dropLast_concat]
  obtain ⟨c, scheme, rfl⟩ := List.exists_cons_of_ne_nil hne
  rfl

theorem splitHeading?_of_isCut_nil (h : IsCut text tokens [] rest) : splitHeading? text = none := by
  rw [splitHeading?, show [':', '/', '/'] = Text.marker from rfl, h.eq,
    Text.splitOnce?_marker rest h.first]
  simp only [h.pieces, List.map_append, List.map_cons, List.map_nil, List.getLast?_concat]

theorem splitHeading?_of_unmarked (h : ¬Text.marker <:+: text) : splitHeading? text = none := by
  rw [splitHeading?, show [':', '/', '/'] = Text.marker from rfl, Text.splitOnce?_eq_none_iff.2 h]

/-- **Settings and scheme are found in front of the first marker.** -/
theorem splitHeading?_heading (hne : scheme ≠ [])
    (h : ∀ t ∈ tokens ++ [scheme], '+' ∉ t ∧ ¬Text.marker <:+: t) (rest : List Char) :
    splitHeading? (heading tokens scheme ++ Text.marker ++ rest) =
      some ⟨settingsOf tokens, scheme.map Char.toLower, rest⟩ :=
  splitHeading?_of_isCut (isCut_heading h rest) hne

/-- Whatever stands in front of the first marker is settings and a scheme. -/
theorem splitHeading?_inv {found : Heading} (h : splitHeading? text = some found) :
    ∃ tokens scheme, scheme ≠ [] ∧ (∀ t ∈ tokens ++ [scheme], '+' ∉ t ∧ ¬Text.marker <:+: t) ∧
      found = ⟨settingsOf tokens, scheme.map Char.toLower, found.rest⟩ := by
  by_cases hmarker : Text.marker <:+: text
  · obtain ⟨tokens, scheme, rest, hcut⟩ := exists_isCut hmarker
    by_cases hne : scheme = []
    · subst hne
      rw [splitHeading?_of_isCut_nil hcut] at h
      exact absurd h (by simp)
    · rw [splitHeading?_of_isCut hcut hne] at h
      obtain rfl := Option.some.inj h
      exact ⟨tokens, scheme, hne, hcut.plain, rfl⟩
  · rw [splitHeading?_of_unmarked hmarker] at h
    exact absurd h (by simp)

end Cut

/-! ## Descriptors -/

/-- Behind its first blanks, a descriptor is read from its settings, its scheme and the URL behind
them. -/
theorem read?_heading {h : List Char} {tokens : List (List Char)} {scheme : List Char}
    (hdrop : h.dropWhile Text.isBlank = heading tokens scheme) (hne : scheme ≠ [])
    (hplain : ∀ t ∈ tokens ++ [scheme], '+' ∉ t ∧ ¬Text.marker <:+: t) (rest : List Char) :
    read? (String.ofList (h ++ Text.marker ++ rest)) =
      match Url.read? (scheme.map Char.toLower ++ Text.marker ++ rest.rdropWhile Text.isBlank) with
      | .error reason => .error (.malformed reason)
      | .ok url => ofUrl? (settingsOf tokens) (scheme.map Char.toLower) url := by
  rw [read?, String.toList_ofList, Text.trimBy_marker, hdrop, splitHeading?_heading hne hplain]
  rfl

/-- Nothing but a marker is no heading. -/
theorem read?_marker {h : List Char} (hdrop : h.dropWhile Text.isBlank = []) (rest : List Char) :
    read? (String.ofList (h ++ Text.marker ++ rest)) = .error .noScheme := by
  have hsplit : splitHeading? (Text.marker ++ rest.rdropWhile Text.isBlank) = none := by
    rw [splitHeading?, show [':', '/', '/'] = Text.marker from rfl,
      Text.splitOnce?_prefix (Text.isPrefixOf?_append Text.marker (rest.rdropWhile Text.isBlank))]
    rfl
  rw [read?, String.toList_ofList, Text.trimBy_marker, hdrop, List.nil_append, hsplit]

/-! ## Lower case -/

/-- Lower case comes upon no mark of punctuation that was not there. -/
theorem mem_of_mem_lower {t : List Char} {c : Char} (hc : c.isAlphanum = false)
    (h : c ∈ t.map Char.toLower) :
    c ∈ t := by
  obtain ⟨d, hd, hlower⟩ := List.mem_map.1 h
  rcases Text.toLower_cases d with heq | ⟨-, halnum⟩
  · rwa [← hlower, heq]
  · rw [hlower, hc] at halnum
    exact absurd halnum (by decide)

theorem marker_of_lower {m : List Char} (h : m.map Char.toLower = Text.marker) :
    m = Text.marker := by
  have hfix : ∀ c ∈ m, c.toLower = c := by
    intro c hc
    rcases Text.toLower_cases c with heq | ⟨-, halnum⟩
    · exact heq
    · have hmem : c.toLower ∈ Text.marker := h ▸ List.mem_map_of_mem hc
      simp only [Text.marker, List.mem_cons, List.not_mem_nil, or_false] at hmem
      rcases hmem with heq | heq | heq
      all_goals
        rw [heq] at halnum
        exact absurd halnum (by decide)
  rw [← h]
  exact ((List.map_congr_left hfix).trans (List.map_id m)).symm

theorem plain_lower {t : List Char} (h : '+' ∉ t ∧ ¬Text.marker <:+: t) :
    '+' ∉ t.map Char.toLower ∧ ¬Text.marker <:+: t.map Char.toLower := by
  refine ⟨fun hmem => h.1 (mem_of_mem_lower (by decide) hmem), ?_⟩
  rintro ⟨x, y, hxy⟩
  obtain ⟨xm, y', rfl, hxm, -⟩ := List.append_eq_map_iff.1 hxy
  obtain ⟨x', m, rfl, -, hm⟩ := List.append_eq_map_iff.1 hxm.symm
  exact h.2 ⟨x', y', by rw [marker_of_lower hm]⟩

end Dsn

end ErrorReport
