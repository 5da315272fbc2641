import ErrorReport.ErrorGraph
import ErrorReport.Proofs.Event.Builder

/-!
# What events are grouped by

A signature is written by two nested loops, over the errors of a chain and over the frames of each,
that append to one text.  What they leave is what one loop over all the frames leaves
(`Grouping.chainSignature_eq`).  So of a chain a signature shows the frames of all its errors in a
row, if it has a cause, and nothing otherwise: this is `Grouping.evidence?`.

* `Grouping.missing_or_empty`: there is no signature if there is neither a cause nor a call site.  A
  chain with a cause is evidence even if it has no frames, and then the signature is empty.  Errors of
  a running program have no frames until some are attached, so those with a cause are all grouped
  together (`Grouping.unrelated_together`).
* `EventBuilder.grouped_by_frames`: builders that take a checksum are told apart by no more than the
  evidence, and where there is none by the call site and by the checksum they had before.
-/

set_option autoImplicit false

namespace ErrorReport

/-! ## Frames of chains -/

namespace Chain

/-- The frames of all errors of a chain, outermost error first. -/
def frames (c : Chain) : List Frame := c.exceptions.flatMap (·.frames)

theorem frames_eq_nil_iff {c : Chain} : c.frames = [] ↔ ∀ e ∈ c.exceptions, e.frames = [] :=
  List.flatMap_eq_nil_iff

/-- Another name for the outermost error leaves all frames. -/
theorem frames_withOuterType (c : Chain) (name : String) :
    (c.withOuterType name).frames = c.frames := by
  obtain ⟨exceptions⟩ := c
  cases exceptions <;> rfl

theorem hasCause_withOuterFrames (c : Chain) (fs : List Frame) :
    (c.withOuterFrames fs).hasCause = c.hasCause := by
  obtain ⟨exceptions⟩ := c
  cases exceptions <;> rfl

/-- Frames that are attached to a chain with a cause are among its frames. -/
theorem prefix_frames_withOuterFrames {c : Chain} (h : c.hasCause = true) (fs : List Frame) :
    fs <+: (c.withOuterFrames fs).frames := by
  obtain ⟨exceptions⟩ := c
  cases exceptions with
  | nil => exact absurd h (by simp [hasCause])
  | cons outer causes => exact List.prefix_append fs _

end Chain

theorem Exception.frames_ofDiagnostic (diagnostic message : String) :
    (ofDiagnostic diagnostic message).frames = [] := by
  rw [ofDiagnostic]
  split <;> rfl

/-- No frames are known of the errors of a running program. -/
theorem ErrorGraph.frames_chain (g : ErrorGraph) (start : ErrorRef) :
    (g.chain start).frames = [] := by
  refine Chain.frames_eq_nil_iff.2 fun e he => ?_
  obtain ⟨o, -, rfl⟩ := List.mem_map.1 he
  exact Exception.frames_ofDiagnostic o.diagnostic o.message

namespace Grouping

variable {chain : Option Chain} {callSite : Option Frame}

/-! ## The text of a signature -/

theorem appendLines_append (text : String) (frames more : List Frame) :
    appendLines text (frames ++ more) = appendLines (appendLines text frames) more :=
  List.foldl_append

/-- The two loops go over the frames of all errors in a row. -/
theorem foldl_appendLines (exceptions : List Exception) (text : String) :
    exceptions.foldl (fun text e => appendLines text e.frames) text =
      appendLines text (exceptions.flatMap (·.frames)) := by
  induction exceptions generalizing text with
  | nil => rfl
  | cons e exceptions ih => rw [List.foldl_cons, ih, List.flatMap_cons, appendLines_append]

/-- How frames are divided among errors does not show. -/
theorem chainSignature_eq (c : Chain) : chainSignature c = appendLines "" c.frames :=
  foldl_appendLines c.exceptions ""

theorem frameLine_ne_empty (f : Frame) : frameLine f ≠ "" := by
  simp [frameLine]

theorem appendLines_eq_empty_iff {text : String} {frames : List Frame} :
    appendLines text frames = "" ↔ text = "" ∧ frames = [] := by
  induction frames generalizing text with
  | nil => simp [appendLines]
  | cons f frames ih =>
    have hcons : appendLines text (f :: frames) = appendLines (text ++ frameLine f) frames := rfl
    rw [hcons, ih, String.append_eq_empty_iff]
    simp [frameLine_ne_empty]

theorem location_ne_empty (f : Frame) : f.location ≠ "" := by
  unfold Frame.location
  split <;> simp

/-! ## What a signature shows -/

/-- What of a chain decides on the signature: the frames, if there is a cause. -/
def evidence? (chain : Option Chain) : Option (List Frame) :=
  (chain.filter (·.hasCause)).map Chain.frames

theorem evidence?_eq_some_iff {frames : List Frame} :
    evidence? chain = some frames ↔ ∃ c ∈ chain, c.hasCause = true ∧ c.frames = frames := by
  simp only [evidence?, Option.map_eq_some_iff, Option.filter_eq_some_iff, and_assoc]
  rfl

theorem evidence?_of_length_le (h : ∀ c ∈ chain, c.length ≤ 1) : evidence? chain = none := by
  refine Option.map_eq_none_iff.2 (Option.filter_eq_none_iff.2 fun c hc => ?_)
  have := h c hc
  simpa [Chain.hasCause, Chain.length] using this

/-- A signature is of the evidence, or else of the call site. -/
theorem signature?_eq (chain : Option Chain) (callSite : Option Frame) :
    signature? chain callSite =
      ((evidence? chain).map (appendLines "")).or (callSite.map Frame.location) := by
  unfold signature? evidence?
  cases chain.filter (·.hasCause) with
  | some c => simp [chainSignature_eq]
  | none => cases callSite <;> rfl

/-! ## Missing and empty signatures -/

/-- An empty signature is one of a chain, never of a call site. -/
theorem signature?_eq_empty_iff :
    signature? chain callSite = some "" ↔
      ∃ c ∈ chain, c.hasCause = true ∧ ∀ e ∈ c.exceptions, e.frames = [] := by
  simp only [← Chain.frames_eq_nil_iff, ← evidence?_eq_some_iff]
  rw [signature?_eq]
  cases evidence? chain with
  | some frames => simp [appendLines_eq_empty_iff]
  | none => simp [location_ne_empty]

/-- Frames that are attached to a chain keep its signature from being empty. -/
theorem signature?_withOuterFrames_ne (c : Chain) {fs : List Frame} (h : fs ≠ []) :
    signature? (some (c.withOuterFrames fs)) callSite ≠ some "" := by
  intro hempty
  obtain ⟨d, hd, hcause, hframes⟩ := signature?_eq_empty_iff.1 hempty
  obtain rfl := Option.mem_some_iff.1 hd
  rw [Chain.hasCause_withOuterFrames] at hcause
  have hprefix := Chain.prefix_frames_withOuterFrames hcause fs
  rw [Chain.frames_eq_nil_iff.2 hframes] at hprefix
  exact h (List.prefix_nil.1 hprefix)

/-- **When a signature is missing, and when it is empty.**  It is missing if there is neither a call
site nor an error with a cause, and empty if there is an error with a cause but not one frame.  Errors
of a running program have no frames, so all of them that have a cause have the empty signature, unless
frames are attached. -/
theorem missing_or_empty (chain : Option Chain) (callSite : Option Frame) :
    (signature? chain callSite = none ↔
      callSite = none ∧ ∀ c ∈ chain, c.exceptions.length ≤ 1) ∧
    (signature? chain callSite = some "" ↔
      ∃ c ∈ chain, c.hasCause = true ∧ ∀ e ∈ c.exceptions, e.frames = []) ∧
    (∀ (g : ErrorGraph) (start : ErrorRef) (typeName : String),
      ∀ c ∈ [g.chain start, g.typedChain start typeName], c.hasCause = true →
        signature? (some c) callSite = some "") ∧
    ∀ (c : Chain) (fs : List Frame), fs ≠ [] →
      signature? (some (c.withOuterFrames fs)) callSite ≠ some "" := by
  refine ⟨signature?_eq_none_iff.trans and_comm, signature?_eq_empty_iff, ?_,
    fun c fs hfs => signature?_withOuterFrames_ne c hfs⟩
  intro g start typeName c hc hcause
  refine signature?_eq_empty_iff.2 ⟨c, rfl, hcause, Chain.frames_eq_nil_iff.1 ?_⟩
  rcases List.mem_pair.1 hc with rfl | rfl
  · exact g.frames_chain start
  · rw [ErrorGraph.typedChain, Chain.frames_withOuterType, g.frames_chain start]

/-- A file that cannot be read and a peer that cannot be reached, and what caused either. -/
def sampleFailures : ErrorGraph := ⟨[
  ⟨"ConfigError", "cannot load settings", some ⟨1, 1⟩⟩, ⟨"NotFound", "no such file", none⟩,
  ⟨"SyncError", "cannot reach peer", some ⟨3, 1⟩⟩, ⟨"TimedOut", "no answer", none⟩]⟩

/-- Two errors that have nothing in common have the empty signature, in spite of a call site. -/
theorem unrelated_together :
    sampleFailures.chain ⟨0, 0⟩ ≠ sampleFailures.chain ⟨2, 0⟩ ∧
      (∀ start ∈ [⟨0, 0⟩, ⟨2, 0⟩], (sampleFailures.chain start).hasCause = true ∧
        signature? (some (sampleFailures.chain start)) (some ⟨"app", "log", some "app.rs", some 9⟩) =
          some "") ∧
      checksum "" = "00000000" := by
  decide

end Grouping

namespace EventBuilder

open Grouping (evidence? signature?)

/-! ## Two builders -/

theorem checksum_generateGroupingChecksum (b : EventBuilder) (chain : Option Chain)
    (callSite : Option Frame) :
    (b.apply (.generateGroupingChecksum chain callSite)).draft.checksum =
      ((signature? chain callSite).map Grouping.checksum).or b.draft.checksum := by
  have hstep : (BuilderStep.generateGroupingChecksum chain callSite).isBuild = false := rfl
  rw [apply_of_not_build hstep]
  exact (b.draft.apply_over hstep).checksum

/-- Where the evidence is the same, and also the rest if there is none, the checksum is the same. -/
theorem checksum_eq_of_evidence {b b' : EventBuilder} {chain chain' : Option Chain}
    {callSite callSite' : Option Frame} (hsame : evidence? chain = evidence? chain')
    (hrest : evidence? chain = none → callSite = callSite' ∧ b.draft.checksum = b'.draft.checksum) :
    (b.apply (.generateGroupingChecksum chain callSite)).draft.checksum =
      (b'.apply (.generateGroupingChecksum chain' callSite')).draft.checksum := by
  rw [checksum_generateGroupingChecksum, checksum_generateGroupingChecksum, Grouping.signature?_eq,
    Grouping.signature?_eq, ← hsame]
  cases hevidence : evidence? chain with
  | some frames => rfl
  | none =>
    obtain ⟨rfl, hchecksum⟩ := hrest hevidence
    rw [hchecksum]

/-- **The frames of a chain with a cause decide on the checksum, and nothing else does**: neither what
its errors are, nor which of them has which frames, nor the call site, nor the builder.  Without a
cause the call site and the checksum before decide, and the chain does not matter. -/
theorem grouped_by_frames (b b' : EventBuilder) :
    (∀ (c c' : Chain) (callSite callSite' : Option Frame),
      c.hasCause = true → c'.hasCause = true →
      c.exceptions.flatMap (·.frames) = c'.exceptions.flatMap (·.frames) →
        (b.apply (.generateGroupingChecksum (some c) callSite)).draft.checksum =
          (b'.apply (.generateGroupingChecksum (some c') callSite')).draft.checksum) ∧
    ∀ (chain chain' : Option Chain) (callSite : Option Frame),
      (∀ c ∈ chain, c.length ≤ 1) → (∀ c ∈ chain', c.length ≤ 1) →
      b.draft.checksum = b'.draft.checksum →
        (b.apply (.generateGroupingChecksum chain callSite)).draft.checksum =
          (b'.apply (.generateGroupingChecksum chain' callSite)).draft.checksum := by
  constructor
  · intro c c' callSite callSite' hc hc' hframes
    have hevidence : evidence? (some c) = some c.frames :=
      Grouping.evidence?_eq_some_iff.2 ⟨c, rfl, hc, rfl⟩
    have hevidence' : evidence? (some c') = some c.frames :=
      Grouping.evidence?_eq_some_iff.2 ⟨c', rfl, hc', hframes.symm⟩
    refine checksum_eq_of_evidence (hevidence.trans hevidence'.symm) fun hnone => ?_
    exact absurd (hevidence.symm.trans hnone) (by simp)
  · intro chain chain' callSite hchain hchain' hchecksum
    have hnone : evidence? chain = none := Grouping.evidence?_of_length_le hchain
    have hnone' : evidence? chain' = none := Grouping.evidence?_of_length_le hchain'
    exact checksum_eq_of_evidence (hnone.trans hnone'.symm) fun _ => ⟨rfl, hchecksum⟩

/-- An error of a name and its cause, with their frames. -/
def sampleCaused (name : String) (outer inner : List Frame) : Chain :=
  (Chain.start ⟨name, none, "", outer⟩).causedBy ⟨"Cause", some name, name, inner⟩

/-- A builder that has a checksum, and one that has it too and has built before. -/
def sampleBuilders : EventBuilder × EventBuilder :=
  (new.run [.setChecksum "C0FFEE"], new.run [.setLogger "app", .build, .setChecksum "C0FFEE"])

/-- Three frames that are divided in two ways, with and without a call site; and an error without a
cause, compared with no error at all. -/
theorem grouped_by_frames_divided :
    ∃ (c c' : Chain) (f : Frame), c ≠ c' ∧ c.hasCause = true ∧ c'.hasCause = true ∧
      c.exceptions.flatMap (·.frames) = c'.exceptions.flatMap (·.frames) ∧
      (sampleBuilders.1.apply (.generateGroupingChecksum (some c) none)).draft.checksum =
        (sampleBuilders.2.apply (.generateGroupingChecksum (some c') (some f))).draft.checksum ∧
      (∀ single ∈ some (Chain.start ⟨"Single", none, "", [f]⟩), single.length ≤ 1) ∧
      sampleBuilders.1.draft.checksum = sampleBuilders.2.draft.checksum ∧
      (sampleBuilders.1.apply (.generateGroupingChecksum
          (some (.start ⟨"Single", none, "", [f]⟩)) (some f))).draft.checksum =
        (sampleBuilders.2.apply (.generateGroupingChecksum none (some f))).draft.checksum := by
  let read : Frame := ⟨"lib", "read", some "lib.rs", none⟩
  let load : Frame := ⟨"app", "load", none, none⟩
  let main : Frame := ⟨"app", "main", some "main.rs", some 3⟩
  obtain ⟨hcaused, huncaused⟩ := grouped_by_frames sampleBuilders.1 sampleBuilders.2
  have hsingle : ∀ single ∈ some (Chain.start ⟨"Single", none, "", [main]⟩), single.length ≤ 1 := by
    decide
  exact ⟨sampleCaused "A" [load, main] [read], sampleCaused "B" [load] [main, read], main, by decide,
    rfl, rfl, rfl, hcaused _ _ none (some main) rfl rfl rfl, hsingle, rfl,
    huncaused _ none (some main) hsingle (by simp) rfl⟩

end EventBuilder

end ErrorReport
