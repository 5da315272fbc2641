import ErrorReport.Dsn
import ErrorReport.Proofs.Dictionary
import ErrorReport.Proofs.Text.Trim

/-!
# Settings behind the project

The last segments of a path may be settings.  `Dsn.IsKnown` says that a segment is one, in whatever
case, and `Dsn.IsLaidOut` cuts segments at the project: some stand in front of it, and all behind it
are settings.  Segments with a project can be cut so (`Dsn.exists_isLaidOut`), and are read as the cut
says (`Dsn.IsLaidOut.withoutSettings`, `Dsn.IsLaidOut.trailingSettings`).
-/

set_option autoImplicit false

namespace ErrorReport.Dsn

/-! ## Segments that are settings -/

/-- A segment is a setting, in whatever case. -/
def IsKnown (segment : List Char) : Prop :=
  ∃ known ∈ knownSettings, known.toList.map Char.toLower = segment.map Char.toLower

instance (segment : List Char) : Decidable (IsKnown segment) :=
  inferInstanceAs (Decidable (∃ known ∈ knownSettings, _))

theorem isSetting_iff {segment : List Char} : isSetting segment = true ↔ IsKnown segment := by
  simp only [isSetting, List.any_eq_true, Text.sameIgnoringCase, beq_iff_eq, Text.lower,
    String.ofList_inj, String.toList_ofList, IsKnown]

theorem isSetting_eq_false_iff {segment : List Char} :
    isSetting segment = false ↔ ¬IsKnown segment := by
  rw [← isSetting_iff, Bool.not_eq_true]

theorem hasSetting_iff {d : Dsn} {setting : String} :
    d.hasSetting setting = true ↔ setting ∈ d.settings.toList := by
  rw [hasSetting, Dictionary.contains, TextSet.mem_toList]
  cases d.settings.get? setting with
  | none => simp
  | some u => simp

/-! ## The end of a path -/

theorem withoutSettings_eq (segments : List (List Char)) :
    withoutSettings segments = segments.rdropWhile isSetting :=
  rfl

/-- The last segment in front of the settings is none. -/
theorem isSetting_of_getLast? {segments : List (List Char)} {project : List Char}
    (h : (withoutSettings segments).getLast? = some project) : isSetting project = false := by
  have hne : segments.rdropWhile isSetting ≠ [] := by
    rintro hnil
    rw [withoutSettings_eq, hnil] at h
    exact absurd h (by simp)
  have hlast := List.rdropWhile_last_not isSetting segments hne
  rw [withoutSettings_eq, List.getLast?_eq_some_getLast hne] at h
  rw [Bool.eq_false_iff, ← Option.some.inj h]
  exact hlast

/-- Segments are those in front of a project, the project, which is no setting, and settings to the
end. -/
structure IsLaidOut (segments front : List (List Char)) (project : List Char)
    (trailing : List (List Char)) : Prop where
  eq : segments = front ++ project :: trailing
  project : ¬IsKnown project
  trailing : ∀ s ∈ trailing, IsKnown s

section Layout

variable {segments front trailing : List (List Char)} {project : List Char}

/-- Read from the end, the settings are up to the project. -/
theorem IsLaidOut.reverse (h : IsLaidOut segments front project trailing) :
    segments.reverse = trailing.reverse ++ project :: front.reverse := by
  rw [h.eq]
  simp

theorem IsLaidOut.isSetting_trailing (h : IsLaidOut segments front project trailing) :
    ∀ s ∈ trailing.reverse, isSetting s = true :=
  fun s hs => isSetting_iff.2 (h.trailing s (List.mem_reverse.1 hs))

theorem IsLaidOut.isSetting_project (h : IsLaidOut segments front project trailing) :
    ∀ s ∈ (project :: front.reverse).head?, isSetting s = false :=
  fun _ hs => Option.some.inj hs ▸ isSetting_eq_false_iff.2 h.project

theorem IsLaidOut.withoutSettings (h : IsLaidOut segments front project trailing) :
    withoutSettings segments = front ++ [project] := by
  rw [Dsn.withoutSettings, h.reverse,
    Text.dropWhile_append_of_all h.isSetting_trailing h.isSetting_project]
  simp

theorem IsLaidOut.trailingSettings (h : IsLaidOut segments front project trailing) :
    trailingSettings segments =
      trailing.reverse.map fun s => Text.lower (String.ofList s) := by
  rw [Dsn.trailingSettings, h.reverse,
    Text.takeWhile_append_of_all h.isSetting_trailing h.isSetting_project]

theorem IsLaidOut.mem_trailingSettings (h : IsLaidOut segments front project trailing)
    {setting : String} :
    setting ∈ Dsn.trailingSettings segments ↔
      ∃ s ∈ trailing, s.map Char.toLower = setting.toList := by
  simp only [h.trailingSettings, List.mem_map, List.mem_reverse, Text.lower, String.toList_ofList]
  constructor
  · rintro ⟨s, hs, rfl⟩
    exact ⟨s, hs, String.toList_ofList.symm⟩
  · rintro ⟨s, hs, hsetting⟩
    exact ⟨s, hs, by rw [hsetting, String.ofList_toList]⟩

/-- The last segment in front of the settings is the project. -/
theorem exists_isLaidOut (h : (Dsn.withoutSettings segments).getLast? = some project) :
    ∃ front trailing, IsLaidOut segments front project trailing := by
  obtain ⟨front, hfront⟩ := List.getLast?_eq_some_iff.1 h
  have hparts : segments =
      Dsn.withoutSettings segments ++ (segments.reverse.takeWhile isSetting).reverse := by
    rw [Dsn.withoutSettings, ← List.reverse_append, List.takeWhile_append_dropWhile,
      List.reverse_reverse]
  refine ⟨front, (segments.reverse.takeWhile isSetting).reverse, ?_, ?_, fun s hs => ?_⟩
  · rw [hfront, List.append_assoc] at hparts
    exact hparts
  · exact isSetting_eq_false_iff.1 (isSetting_of_getLast? h)
  · exact isSetting_iff.1 (List.mem_takeWhile_imp (List.mem_reverse.1 hs))

theorem getLast?_withoutSettings_eq_none_iff :
    (Dsn.withoutSettings segments).getLast? = none ↔ ∀ s ∈ segments, IsKnown s := by
  rw [List.getLast?_eq_none_iff, withoutSettings_eq, List.rdropWhile_eq_nil_iff]
  exact forall₂_congr fun s _ => isSetting_iff

end Layout

end ErrorReport.Dsn
