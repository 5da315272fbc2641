import ErrorReport.Exception
import ErrorReport.Proofs.Text.Split
import ErrorReport.Proofs.Text.Trim

/-!
# What errors are called

A type name is cut at the last `::` in front of its generic arguments, unless that starts the name.
`splitTypeName_cases` says so, and `splitTypeName_lossless` that nothing gets lost on the way: module,
`::` and short name are the name again, and the short name is what stands in it from some position on.

An error of unknown type is named by the characters that its diagnostic text starts with
(`ofDiagnostic_cases`).  Colons are among these, so that paths are kept whole, and only `::` is taken
out again.  `named_by_diagnostic` says when a name without colons is left.
-/

set_option autoImplicit false

namespace ErrorReport

/-! ## Qualified names -/

theorem not_mem_typePath (s : List Char) : '<' ∉ typePath s := fun h => by
  simpa using List.mem_takeWhile_imp h

theorem typePath_eq_self {s : List Char} (h : '<' ∉ s) : typePath s = s :=
  List.takeWhile_eq_self_iff.2 fun _ hc => bne_iff_ne.2 fun heq => h (heq ▸ hc)

/-- A path is the path of what it makes together with any generic arguments. -/
theorem typePath_append {path : List Char} (h : '<' ∉ path) (s : List Char) :
    typePath (path ++ s.dropWhile (· != '<')) = path := by
  refine Text.takeWhile_append_of_all (fun c hc => bne_iff_ne.2 fun heq => h (heq ▸ hc)) ?_
  intro c hc
  have hhead := List.head?_dropWhile_not (· != '<') s
  rwa [Option.mem_def.1 hc] at hhead

/-- A type name is split at the last `::` of its path, unless every `::` starts the name. -/
theorem splitTypeName_cases (name : String) :
    (∃ modulePath last, typePath name.toList = modulePath ++ [':', ':'] ++ last ∧ modulePath ≠ [] ∧
      ¬[':', ':'] <:+: last ∧ splitTypeName name = (some (String.ofList modulePath),
        String.ofList (last ++ name.toList.dropWhile (· != '<')))) ∨
    ((∀ before after, typePath name.toList = before ++ [':', ':'] ++ after → before = []) ∧
      splitTypeName name = (none, name)) := by
  rw [splitTypeName]
  cases hcut : Text.splitLast? [':', ':'] (typePath name.toList) with
  | none =>
    refine .inr ⟨fun before after h => ?_, rfl⟩
    exact absurd ⟨before, after, h.symm⟩ (Text.splitLast?_eq_none_iff.1 hcut)
  | some cut =>
    obtain ⟨modulePath, last⟩ := cut
    have hpath := Text.splitLast?_append hcut
    cases modulePath with
    | nil =>
      refine .inr ⟨fun before after h => ?_, rfl⟩
      exact List.eq_nil_of_length_eq_zero (Nat.le_zero.1 (Text.length_le_of_splitLast? hcut h))
    | cons c modulePath =>
      refine .inl ⟨c :: modulePath, last, hpath, List.cons_ne_nil _ _,
        Text.not_infix_of_splitLast? (by decide) hcut, ?_⟩
      have hname : name.toList = (c :: modulePath ++ [':', ':']) ++
          (last ++ name.toList.dropWhile (· != '<')) := by
        rw [← List.append_assoc, ← hpath]
        exact List.takeWhile_append_dropWhile.symm
      have hlength : (c :: modulePath ++ [':', ':']).length = modulePath.length + 3 := by simp
      simp only
      rw [hname, List.drop_left' hlength, ← hname]

/-- **Splitting a type name loses nothing.**  With a module, the short name is the rest of the name
from a position behind the module and `::`; there is such a position, and so it lies within the name
and between two characters. -/
theorem splitTypeName_lossless (name : String) :
    (∃ modulePath typeName, splitTypeName name = (some modulePath, typeName) ∧
      (∃ p : name.Pos, p.offset.byteIdx = modulePath.utf8ByteSize + 2 ∧
        (name.sliceFrom p).copy = typeName) ∧
      modulePath ≠ "" ∧ '<' ∉ modulePath.toList ∧ modulePath ++ "::" ++ typeName = name ∧
      ¬[':', ':'] <:+: typePath typeName.toList) ∨
    (splitTypeName name = (none, name) ∧
      ∀ before after, typePath name.toList = before ++ [':', ':'] ++ after → before = []) := by
  rcases splitTypeName_cases name with ⟨modulePath, last, hpath, hmodule, hlast, hsplit⟩ |
    ⟨hstart, hsplit⟩
  · have hnot := not_mem_typePath name.toList
    rw [hpath, List.append_assoc, List.mem_append, List.mem_append, not_or, not_or] at hnot
    have hname : name = String.ofList modulePath ++ "::" ++
        String.ofList (last ++ name.toList.dropWhile (· != '<')) := by
      rw [← String.toList_inj]
      simp only [String.toList_append, String.toList_ofList, ← List.append_assoc]
      exact (List.takeWhile_append_dropWhile.symm.trans (congrArg (· ++ _) hpath))
    have hposition := String.Pos.splits_ofEqAppend hname
    refine .inl ⟨_, _, hsplit, ⟨_, ?_, hposition.copy_sliceFrom_eq⟩, ?_, ?_, hname.symm, ?_⟩
    · rw [hposition.offset_eq_rawEndPos, String.byteIdx_rawEndPos, String.utf8ByteSize_append]
      rfl
    · rw [Ne, ← String.toList_inj, String.toList_ofList]
      exact hmodule
    · rw [String.toList_ofList]
      exact hnot.1
    · rwa [String.toList_ofList, typePath_append hnot.2.2]
  · exact .inr ⟨hsplit, hstart⟩

example : splitTypeName "app::Wrapper<std::io::Error>" =
    (some "app", "Wrapper<std::io::Error>") := by
  decide

/-- A name that is no path: it has characters, and no colon is among them. -/
def IsSimple (name : List Char) : Prop := name ≠ [] ∧ ':' ∉ name

variable {path : List Char}

/-- Without generic arguments the cut is the last `::` of all. -/
theorem splitTypeName_ofList_cases (h : '<' ∉ path) :
    (∃ modulePath last, path = modulePath ++ [':', ':'] ++ last ∧ modulePath ≠ [] ∧
      splitTypeName (String.ofList path) = (some (String.ofList modulePath), String.ofList last)) ∨
    splitTypeName (String.ofList path) = (none, String.ofList path) := by
  have hrest : path.dropWhile (· != '<') = [] :=
    List.dropWhile_eq_nil_iff.2 fun _ hc => bne_iff_ne.2 fun heq => h (heq ▸ hc)
  have hcases := splitTypeName_cases (String.ofList path)
  rw [String.toList_ofList, typePath_eq_self h, hrest] at hcases
  rcases hcases with ⟨modulePath, last, hpath, hmodule, -, hsplit⟩ | ⟨-, hsplit⟩
  · rw [List.append_nil] at hsplit
    exact .inl ⟨modulePath, last, hpath, hmodule, hsplit⟩
  · exact .inr hsplit

/-- A simple name behind a module is split off, -/
theorem splitTypeName_append {modulePath last : List Char}
    (hpath : '<' ∉ modulePath ++ [':', ':'] ++ last) (hmodule : modulePath ≠ [])
    (hlast : ':' ∉ last) :
    splitTypeName (String.ofList (modulePath ++ [':', ':'] ++ last)) =
      (some (String.ofList modulePath), String.ofList last) := by
  have hcut : Text.splitLast? [':', ':'] (modulePath ++ [':', ':'] ++ last) =
      some (modulePath, last) := Text.splitLast?_append_of_not_mem modulePath [':'] hlast
  obtain ⟨c, modulePath, rfl⟩ := List.exists_cons_of_ne_nil hmodule
  rw [splitTypeName, String.toList_ofList, typePath_eq_self hpath, hcut]
  simp

/-- and otherwise what remains is simple only if it is all there was. -/
theorem isSimple_splitTypeName_iff (h : '<' ∉ path) :
    IsSimple (splitTypeName (String.ofList path)).2.toList ↔
      ∃ name, IsSimple name ∧
        (path = name ∨ ∃ modulePath ≠ [], path = modulePath ++ [':', ':'] ++ name) := by
  constructor
  · intro hsimple
    rcases splitTypeName_ofList_cases h with ⟨modulePath, last, hpath, hmodule, hsplit⟩ | hsplit
    · rw [hsplit, String.toList_ofList] at hsimple
      exact ⟨last, hsimple, .inr ⟨modulePath, hmodule, hpath⟩⟩
    · rw [hsplit, String.toList_ofList] at hsimple
      exact ⟨path, hsimple, .inl rfl⟩
  · rintro ⟨name, hsimple, rfl | ⟨modulePath, hmodule, rfl⟩⟩
    · rcases splitTypeName_ofList_cases h with ⟨modulePath, last, hpath, -, -⟩ | hsplit
      · exact absurd (hpath ▸ by simp) hsimple.2
      · rwa [hsplit, String.toList_ofList]
    · rwa [splitTypeName_append h hmodule hsimple.2, String.toList_ofList]

namespace Exception

/-! ## Names from diagnostic texts -/

/-- The characters at the start of a text that may stand in a type name. -/
def leadingName (diagnostic : String) : List Char := diagnostic.toList.takeWhile isNameChar

/-- Without such characters, the name is `Error`. -/
theorem ofDiagnostic_cases (diagnostic message : String) :
    (leadingName diagnostic = [] ∧ ofDiagnostic diagnostic message = ofTypeName "Error" message) ∨
      (leadingName diagnostic ≠ [] ∧ ofDiagnostic diagnostic message =
        ofTypeName (String.ofList (leadingName diagnostic)) message) := by
  unfold leadingName ofDiagnostic
  cases diagnostic.toList.takeWhile isNameChar with
  | nil => exact .inl ⟨rfl, rfl⟩
  | cons c rest => exact .inr ⟨List.cons_ne_nil _ _, rfl⟩

theorem not_mem_leadingName (diagnostic : String) : '<' ∉ leadingName diagnostic := fun h =>
  absurd (List.mem_takeWhile_imp h) (by decide +kernel)

/-- **What a diagnostic text says about the name of an error.**  Module, `::` and type name start the
text, or the type name alone does, or it is `Error` since the text starts with no name.  The type name
is simple just if the leading name is, or is behind a module and `::`. -/
theorem named_by_diagnostic (diagnostic message : String) :
    ∃ typeName module?, ofDiagnostic diagnostic message = ⟨typeName, module?, message, []⟩ ∧
      (∀ modulePath, module? = some modulePath → modulePath ≠ "" ∧
        (modulePath ++ "::" ++ typeName).toList <+: diagnostic.toList) ∧
      (module? = none → typeName.toList <+: diagnostic.toList ∨
        leadingName diagnostic = [] ∧ typeName = "Error") ∧
      (IsSimple typeName.toList ↔ leadingName diagnostic = [] ∨
        ∃ name, IsSimple name ∧ (leadingName diagnostic = name ∨
          ∃ modulePath ≠ [], leadingName diagnostic = modulePath ++ [':', ':'] ++ name)) := by
  have hprefix : leadingName diagnostic <+: diagnostic.toList := List.takeWhile_prefix _
  have hnot := not_mem_leadingName diagnostic
  rcases ofDiagnostic_cases diagnostic message with ⟨hnil, heq⟩ | ⟨hne, heq⟩
  · have herror : splitTypeName "Error" = (none, "Error") := by decide
    refine ⟨"Error", none, ?_, by simp, fun _ => .inr ⟨hnil, rfl⟩, iff_of_true ?_ (.inl hnil)⟩
    · rw [heq, ofTypeName, herror]
    · exact ⟨by decide, by decide⟩
  · have hsimple := (isSimple_splitTypeName_iff hnot).trans (or_iff_right hne).symm
    rcases splitTypeName_ofList_cases hnot with ⟨path, last, hpath, hmodule, hsplit⟩ | hsplit
    · rw [hsplit] at hsimple
      refine ⟨_, some (String.ofList path), by rw [heq, ofTypeName, hsplit], ?_, by simp, hsimple⟩
      intro modulePath heq'
      obtain rfl := Option.some.inj heq'
      exact ⟨by simpa using hmodule, by simpa [hpath] using hprefix⟩
    · rw [hsplit] at hsimple
      refine ⟨_, none, by rw [heq, ofTypeName, hsplit], by simp, fun _ => .inl ?_, hsimple⟩
      rwa [String.toList_ofList]

/-- A name that ends in `::` has nothing behind its module, and a single colon stays with its name. -/
theorem named_by_diagnostic_colons :
    (ofDiagnostic "Trail::" "lost" = ⟨"", some "Trail", "lost", []⟩ ∧ ¬IsSimple "".toList) ∧
      ofDiagnostic "Timeout: no answer" "no answer" = ⟨"Timeout:", none, "no answer", []⟩ ∧
        ¬IsSimple "Timeout:".toList :=
  ⟨⟨by decide +kernel, fun h => h.1 rfl⟩, by decide +kernel, fun h => h.2 (by decide)⟩

end Exception

end ErrorReport
