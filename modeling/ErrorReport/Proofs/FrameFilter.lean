import ErrorReport.FrameFilter
import ErrorReport.Proofs.Text.Split

/-!
# What a filter puts outside the application

A filter grows by one prefix at a time.  What it lists after some additions is what it listed before,
and then the new prefixes in the order they first came (`IsAdded`, kept by each addition in
`IsAdded.skip` and `IsAdded.push`).  A frame is classified by the set of these prefixes alone
(`isInApp_addAll_iff`), so neither order nor repetitions matter (`additions_as_set`).

A frame is split off a path at its last `::`, and `excludes` treats frames with and without a module
apart.  For most prefixes this comes to the same as comparing with the path (`path_starts_with`).
-/

set_option autoImplicit false

namespace ErrorReport

/-! ## Frames of paths -/

/-- A path is split at its last `::`; without one it is all function. -/
theorem Frame.ofPath_cases (path : String) :
    (¬[':', ':'] <:+: path.toList ∧ ofPath path = ⟨"", path, none, none⟩) ∨
      ∃ modulePath function, path.toList = modulePath ++ [':', ':'] ++ function ∧
        ¬[':', ':'] <:+: function ∧
        ofPath path = ⟨String.ofList modulePath, String.ofList function, none, none⟩ := by
  rw [ofPath]
  cases hcut : Text.splitLast? [':', ':'] path.toList with
  | none => exact .inl ⟨Text.splitLast?_eq_none_iff.1 hcut, rfl⟩
  | some parts =>
    exact .inr ⟨parts.1, parts.2, Text.splitLast?_append hcut,
      Text.not_infix_of_splitLast? (by decide) hcut, rfl⟩

namespace FrameFilter

variable {filter : FrameFilter} {stem : String} {frame : Frame}

/-! ## What is listed -/

/-- The filter after some additions. -/
def addAll (filter : FrameFilter) (stems : List String) : FrameFilter := stems.foldl add filter

theorem addAll_append (filter : FrameFilter) (stems more : List String) :
    filter.addAll (stems ++ more) = (filter.addAll stems).addAll more :=
  List.foldl_append

theorem addAll_concat (filter : FrameFilter) (stems : List String) (stem : String) :
    filter.addAll (stems ++ [stem]) = (filter.addAll stems).add stem := by
  rw [addAll, List.foldl_concat, ← addAll]

theorem outside_add_of_listed (h : stem = "" ∨ stem ∈ filter.outside) :
    (filter.add stem).outside = filter.outside := by
  rw [add, if_pos]
  simpa using h

theorem outside_add_of_new (h : ¬(stem = "" ∨ stem ∈ filter.outside)) :
    (filter.add stem).outside = filter.outside ++ [stem] := by
  rw [add, if_neg]
  simpa using h

/-- `added` has those of some prefixes that are neither empty nor listed already, in the order in
which each of them first comes. -/
structure IsAdded (listed stems added : List String) : Prop where
  mem_iff (stem : String) : stem ∈ added ↔ stem ∈ stems ∧ stem ≠ "" ∧ stem ∉ listed
  inOrder : added.Pairwise fun s t => stems.idxOf s < stems.idxOf t

namespace IsAdded

variable {listed stems added : List String}

theorem mem_append_iff (h : IsAdded listed stems added) :
    stem ∈ listed ++ added ↔ stem ∈ listed ∨ stem ∈ stems ∧ stem ≠ "" := by
  rw [List.mem_append, h.mem_iff]
  tauto

theorem inOrder_concat (h : IsAdded listed stems added) (stem : String) :
    added.Pairwise fun s t => (stems ++ [stem]).idxOf s < (stems ++ [stem]).idxOf t := by
  refine h.inOrder.imp_of_mem fun hs ht hlt => ?_
  rwa [List.idxOf_append_of_mem ((h.mem_iff _).1 hs).1,
    List.idxOf_append_of_mem ((h.mem_iff _).1 ht).1]

theorem skip (h : IsAdded listed stems added) (hskip : stem = "" ∨ stem ∈ listed ++ added) :
    IsAdded listed (stems ++ [stem]) added where
  mem_iff other := by
    rw [h.mem_iff, List.mem_append, List.mem_singleton]
    rw [h.mem_append_iff] at hskip
    constructor
    · exact fun ⟨hmem, hnew⟩ => ⟨.inl hmem, hnew⟩
    · rintro ⟨hmem | rfl, hne, hnew⟩
      · exact ⟨hmem, hne, hnew⟩
      · exact ⟨((hskip.resolve_left hne).resolve_left hnew).1, hne, hnew⟩
  inOrder := h.inOrder_concat stem

theorem push (h : IsAdded listed stems added) (hnew : ¬(stem = "" ∨ stem ∈ listed ++ added)) :
    IsAdded listed (stems ++ [stem]) (added ++ [stem]) where
  mem_iff other := by
    rw [h.mem_append_iff] at hnew
    simp only [List.mem_append, List.mem_singleton, h.mem_iff]
    constructor
    · rintro (⟨hmem, hother⟩ | rfl)
      · exact ⟨.inl hmem, hother⟩
      · exact ⟨.inr rfl, by tauto⟩
    · rintro ⟨hmem | rfl, hother⟩
      · exact .inl ⟨hmem, hother⟩
      · exact .inr rfl
  inOrder := by
    rw [h.mem_append_iff] at hnew
    have hnotMem : stem ∉ stems := by tauto
    refine List.pairwise_append.2 ⟨h.inOrder_concat stem, List.pairwise_singleton _ _, ?_⟩
    intro s hs t ht
    obtain rfl := List.mem_singleton.1 ht
    have hsmem := ((h.mem_iff s).1 hs).1
    rw [List.idxOf_append_of_mem hsmem, List.idxOf_append_of_notMem hnotMem, List.idxOf_cons_self]
    exact List.idxOf_lt_length_of_mem hsmem

theorem nodup (h : IsAdded listed stems added) (hlisted : listed.Nodup) :
    (listed ++ added).Nodup := by
  refine List.nodup_append.2 ⟨hlisted, h.inOrder.imp fun hlt => ?_, fun s hs t ht => ?_⟩
  · rintro rfl
    exact Nat.lt_irrefl _ hlt
  · rintro rfl
    exact ((h.mem_iff s).1 ht).2.2 hs

end IsAdded

/-- **A filter keeps what it listed, and lists what is new behind it.** -/
theorem exists_isAdded (filter : FrameFilter) (stems : List String) :
    ∃ added, (filter.addAll stems).outside = filter.outside ++ added ∧
      IsAdded filter.outside stems added := by
  -- The last addition is compared with everything listed until then, so the induction is from the end.
  induction stems using List.reverseRecOn with
  | nil => exact ⟨[], (List.append_nil _).symm, by simp, List.Pairwise.nil⟩
  | append_singleton stems stem ih =>
    obtain ⟨added, houtside, hadded⟩ := ih
    rw [addAll_concat]
    by_cases hlisted : stem = "" ∨ stem ∈ (filter.addAll stems).outside
    · exact ⟨added, (outside_add_of_listed hlisted).trans houtside,
        hadded.skip (houtside ▸ hlisted)⟩
    · refine ⟨added ++ [stem], ?_, hadded.push (houtside ▸ hlisted)⟩
      rw [outside_add_of_new hlisted, houtside, List.append_assoc]

theorem mem_outside_addAll_iff {stems : List String} :
    stem ∈ (filter.addAll stems).outside ↔ stem ∈ filter.outside ∨ stem ∈ stems ∧ stem ≠ "" := by
  obtain ⟨added, houtside, hadded⟩ := exists_isAdded filter stems
  rw [houtside, hadded.mem_append_iff]

/-! ## How frames are classified -/

theorem isInApp_iff : filter.isInApp frame = true ↔
    ∀ stem ∈ filter.outside, excludes stem frame = false := by
  simp [isInApp]

/-- A frame stays in the application if no prefix that is added excludes it. -/
theorem isInApp_addAll_iff {stems : List String} :
    (filter.addAll stems).isInApp frame = true ↔
      filter.isInApp frame = true ∧ ∀ stem ∈ stems, stem ≠ "" → excludes stem frame = false := by
  simp only [isInApp_iff, mem_outside_addAll_iff]
  constructor
  · exact fun h => ⟨fun stem hstem => h stem (.inl hstem),
      fun stem hstem hne => h stem (.inr ⟨hstem, hne⟩)⟩
  · rintro ⟨hlisted, hadded⟩ stem (hstem | ⟨hstem, hne⟩)
    · exact hlisted stem hstem
    · exact hadded stem hstem hne

theorem isInApp_congr {other : FrameFilter}
    (h : ∀ stem, stem ∈ filter.outside ↔ stem ∈ other.outside) (frame : Frame) :
    filter.isInApp frame = other.isInApp frame := by
  rw [Bool.eq_iff_iff, isInApp_iff, isInApp_iff]
  exact forall_congr' fun stem => imp_congr_left (h stem)

/-- **A filter is a set of prefixes.**  It starts out empty or with the standard ones, and lists these
first, then what was added, in the order of first addition, nothing twice and nothing empty.
Additions that bring the same new prefixes classify every frame the same, and no addition brings a
frame back into the application. -/
theorem additions_as_set {start : FrameFilter} (hstart : start = empty ∨ start = standard)
    (stems : List String) :
    (∃ added, (start.addAll stems).outside = start.outside ++ added ∧
      IsAdded start.outside stems added) ∧
    (start.addAll stems).outside.Nodup ∧ "" ∉ (start.addAll stems).outside ∧
    (∀ others, (∀ stem, stem ≠ "" → stem ∉ start.outside → (stem ∈ stems ↔ stem ∈ others)) →
      ∀ frame, (start.addAll stems).isInApp frame = (start.addAll others).isInApp frame) ∧
    ∀ more frame, (start.addAll (stems ++ more)).isInApp frame = true →
      (start.addAll stems).isInApp frame = true := by
  have hnodup : start.outside.Nodup := by rcases hstart with rfl | rfl <;> decide
  have hempty : "" ∉ start.outside := by rcases hstart with rfl | rfl <;> decide
  obtain ⟨added, houtside, hadded⟩ := exists_isAdded start stems
  refine ⟨⟨added, houtside, hadded⟩, houtside ▸ hadded.nodup hnodup, ?_, ?_, ?_⟩
  · rw [mem_outside_addAll_iff]
    tauto
  · intro others hsame
    refine isInApp_congr fun stem => ?_
    rw [mem_outside_addAll_iff, mem_outside_addAll_iff]
    have := hsame stem
    tauto
  · intro more frame hin
    rw [addAll_append] at hin
    exact (isInApp_addAll_iff.1 hin).1

/-- An empty prefix, one of the standard ones and two new ones, of which one comes twice. -/
def sampleStems : List String := ["hyper", "", "std::", "tokio::", "hyper"]

theorem additions_as_set_sample :
    (standard.addAll sampleStems).outside = defaultOutside ++ ["hyper", "tokio::"] ∧
      IsAdded defaultOutside sampleStems ["hyper", "tokio::"] ∧
      (∀ frame, (standard.addAll sampleStems).isInApp frame =
        (standard.addAll ["tokio::", "hyper"]).isInApp frame) ∧
      (standard.addAll (sampleStems ++ ["log"])).isInApp ⟨"app::log", "log", none, none⟩ = true ∧
      (standard.addAll sampleStems).isInApp ⟨"app::log", "log", none, none⟩ = true ∧
      (standard.addAll sampleStems).isInApp ⟨"hyper::proto", "dispatch", none, none⟩ = false := by
  have houtside : (standard.addAll sampleStems).outside = defaultOutside ++ ["hyper", "tokio::"] := by
    decide
  have hin : (standard.addAll (sampleStems ++ ["log"])).isInApp ⟨"app::log", "log", none, none⟩ =
      true := by decide
  have hsame : ∀ stem, stem ≠ "" → stem ∉ standard.outside →
      (stem ∈ sampleStems ↔ stem ∈ ["tokio::", "hyper"]) := by
    intro stem hne hnew
    have hstd : stem ≠ "std::" := by
      rintro rfl
      exact hnew (by decide)
    simp [sampleStems, hne, hstd, or_comm]
  obtain ⟨⟨added, hadded, hisAdded⟩, -, -, hclassify, hstays⟩ :=
    additions_as_set (.inr rfl) sampleStems
  obtain rfl : added = ["hyper", "tokio::"] :=
    List.append_cancel_left (hadded.symm.trans houtside)
  exact ⟨houtside, hisAdded, hclassify _ hsame, hin, hstays _ _ hin, by decide⟩

/-! ## Prefixes of paths -/

theorem isPath_iff {text : List Char} : isPath text = true ↔ [':', ':'] <:+: text := by
  rw [isPath, Option.isSome_iff_ne_none, Ne, Text.splitOnce?_eq_none_iff, not_not]

theorem isInApp_add_empty_iff (hstem : stem ≠ "") :
    (empty.add stem).isInApp frame = false ↔ excludes stem frame = true := by
  have houtside : (empty.add stem).outside = [stem] :=
    outside_add_of_new (by simpa [empty] using hstem)
  rw [← Bool.not_eq_true, isInApp_iff, houtside]
  simp

/-- A frame without a module is compared by its function. -/
theorem excludes_iff_of_symbol (h : frame.modulePath = "") :
    excludes stem frame = true ↔ stem.toList <+: frame.function.toList := by
  rw [excludes, h, if_pos (by decide), List.isPrefixOf_iff_prefix]

/-- A prefix with `::` in it is compared with the path that a frame was split off.  Where the path
begins with `::` and the rest is all function, neither of both begins with the prefix. -/
theorem excludes_ofPath_iff {path : String} (hstem : [':', ':'] <:+: stem.toList)
    (hlead : ¬[':', ':'] <+: stem.toList) :
    excludes stem (Frame.ofPath path) = true ↔ stem.toList <+: path.toList := by
  obtain ⟨-, hframe⟩ | ⟨modulePath, function, hpath, hfunction, hframe⟩ := Frame.ofPath_cases path
  · rw [hframe, excludes_iff_of_symbol rfl]
  · rw [hframe]
    by_cases hmodule : modulePath = []
    · subst hmodule
      -- The path is `::` and a function that holds no other one: there is no room for the prefix.
      rw [excludes_iff_of_symbol String.ofList_nil, String.toList_ofList]
      refine iff_of_false (fun hprefix => hfunction (hstem.trans hprefix.isInfix)) fun hprefix => ?_
      refine hlead (List.prefix_of_prefix_length_le ⟨function, ?_⟩ hprefix hstem.length_le)
      exact hpath.symm
    · rw [excludes, if_neg (by simpa using hmodule), if_pos (isPath_iff.2 hstem),
        List.isPrefixOf_iff_prefix, String.toList_ofList, String.toList_ofList, ← hpath]

/-- **A prefix alone in a filter is one of paths.**  The paths put outside the application are those
that begin with the prefix: among all paths if the prefix has `::` in it behind its start, and among
those that are bare symbols if it has none. -/
theorem path_starts_with (stem path : String) :
    ([':', ':'] <:+: stem.toList → ¬[':', ':'] <+: stem.toList →
      ((empty.add stem).isInApp (Frame.ofPath path) = false ↔ stem.toList <+: path.toList)) ∧
    (stem ≠ "" → ¬[':', ':'] <:+: stem.toList → ¬[':', ':'] <:+: path.toList →
      ((empty.add stem).isInApp (Frame.ofPath path) = false ↔ stem.toList <+: path.toList)) := by
  constructor
  · intro hstem hlead
    have hne : stem ≠ "" := by
      rintro rfl
      exact absurd hstem (by simp)
    rw [isInApp_add_empty_iff hne, excludes_ofPath_iff hstem hlead]
  · intro hne _ hpath
    have hframe : Frame.ofPath path = ⟨"", path, none, none⟩ :=
      (Frame.ofPath_cases path).elim And.right fun ⟨modulePath, function, hcut, _⟩ =>
        absurd ⟨modulePath, function, hcut.symm⟩ hpath
    rw [isInApp_add_empty_iff hne, hframe, excludes_iff_of_symbol rfl]

/-- A run of colons that is split near its end, the symbol of a method of a trait, one that lies in
the application, and a symbol without a module. -/
theorem path_starts_with_sample :
    (empty.add "a:::").isInApp (Frame.ofPath "a:::::f") = false ∧
      (empty.add "<std::x").isInApp (Frame.ofPath "<std::x as T>::f") = false ∧
      (empty.add "std::").isInApp (Frame.ofPath "<std::x as T>::f") = true ∧
      (empty.add "rust_").isInApp (Frame.ofPath "rust_panic") = false := by
  have hcolons := (path_starts_with "a:::" "a:::::f").1 (by decide) (by decide)
  have hmethod := (path_starts_with "<std::x" "<std::x as T>::f").1 (by decide) (by decide)
  have hother := (path_starts_with "std::" "<std::x as T>::f").1 (by decide) (by decide)
  have hsymbol := (path_starts_with "rust_" "rust_panic").2 (by decide) (by decide) (by decide)
  exact ⟨hcolons.2 (by decide), hmethod.2 (by decide),
    (Bool.not_eq_false _).mp (hother.not.2 (by decide)), hsymbol.2 (by decide)⟩

end FrameFilter

end ErrorReport
