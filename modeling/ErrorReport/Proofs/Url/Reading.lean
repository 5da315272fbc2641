import ErrorReport.Proofs.Text.Trim
import ErrorReport.Proofs.Url.Host
import ErrorReport.Proofs.Url.Path

/-!
# From the scheme to the host

The two slashes behind a scheme keep apart what is cleaned in front of them and behind them
(`cleaned_append_cons`), and behind a scheme whose hosts have no files the rest of a URL is read
from its authority on (`read?_marker`).  `read?_parts` is the whole way: a URL put together from
credentials, a host and a port has them again, whatever its path.

The other way, a URL with a name in front of its host was read by its authority (`read?_ok`); if the
scheme goes on behind a colon, the authority lies within it, and what follows the slashes does not
matter to it (`read?_within`).
-/

set_option autoImplicit false

namespace ErrorReport.Url

/-! ## Cleaning -/

/-- A blank or control character, which is dropped at the ends. -/
def isEdge (c : Char) : Bool := decide (c.toNat ≤ 0x20)

/-- Whether a character is neither a line break nor a tabulator. -/
def isRetained (c : Char) : Bool := c != '\t' && c != '\n' && c != '\r'

theorem cleaned_eq (text : List Char) :
    cleaned text = (Text.trimBy isEdge text).filter isRetained := rfl

theorem isRetained_of_not_isEdge {c : Char} (h : isEdge c = false) : isRetained c = true := by
  simp only [isRetained, Bool.and_eq_true, bne_iff_ne]
  refine ⟨⟨?_, ?_⟩, ?_⟩
  all_goals
    rintro rfl
    exact absurd h (by decide)

/-- A character that stays keeps the two ends of a text apart. -/
theorem cleaned_append_cons (a : List Char) {m : Char} (b : List Char) (hm : isEdge m = false) :
    cleaned (a ++ m :: b) = (a.dropWhile isEdge).filter isRetained ++
      m :: (b.rdropWhile isEdge).filter isRetained := by
  rw [cleaned_eq, Text.trimBy_append_cons a b hm, List.filter_append,
    List.filter_cons_of_pos (isRetained_of_not_isEdge hm)]

/-- What is left of the start of a URL. -/
def cleanedStart (s : List Char) : List Char := (s.dropWhile isEdge).filter isRetained

/-- What is left of the end of a URL. -/
def cleanedEnd (s : List Char) : List Char := (s.rdropWhile isEdge).filter isRetained

theorem cleaned_marker (a b : List Char) :
    cleaned (a ++ Text.marker ++ b) = cleanedStart a ++ ':' :: '/' :: '/' :: cleanedEnd b := by
  have hcut : a ++ Text.marker ++ b = (a ++ ':' :: ['/']) ++ '/' :: b := by simp [Text.marker]
  rw [hcut, cleaned_append_cons _ _ (by decide), Text.dropWhile_append_cons _ _ (by decide),
    List.filter_append, List.filter_cons_of_pos (by decide), List.filter_cons_of_pos (by decide),
    cleanedStart, cleanedEnd]
  simp

theorem cleanedStart_sublist (s : List Char) : (cleanedStart s).Sublist s :=
  List.filter_sublist.trans (List.dropWhile_suffix _).sublist

theorem mem_cleanedStart {s : List Char} {c : Char} (hc : isEdge c = false) (h : c ∈ s) :
    c ∈ cleanedStart s := by
  obtain ⟨a, b, rfl⟩ := List.append_of_mem h
  rw [cleanedStart, Text.dropWhile_append_cons a b hc, List.filter_append,
    List.filter_cons_of_pos (isRetained_of_not_isEdge hc)]
  exact List.mem_append_right _ List.mem_cons_self

theorem cleaned_eq_self {text : List Char} (h : ∀ c ∈ text, isEdge c = false) :
    cleaned text = text := by
  rw [cleaned_eq, Text.trimBy_eq, Text.dropWhile_eq_self fun c hc => h c (List.mem_of_mem_head? hc),
    Text.rdropWhile_eq_self fun c hc => h c (List.mem_of_mem_getLast? hc),
    List.filter_eq_self.2 fun c hc => isRetained_of_not_isEdge (h c hc)]

/-! ## The scheme -/

/-- Whether a text is a scheme. -/
def IsScheme (s : List Char) : Prop :=
  (∀ c ∈ s.head?, c.isAlpha = true) ∧ s ≠ [] ∧ ∀ c ∈ s, isSchemeChar c = true

theorem splitScheme?_append {s : List Char} (hs : IsScheme s) (rest : List Char) :
    splitScheme? (s ++ ':' :: rest) = some (s.map Char.toLower, rest) := by
  obtain ⟨hfirst, hne, hchars⟩ := hs
  have hcolon : ∀ c ∈ (':' :: rest).head?, isSchemeChar c = false := by
    intro c hc
    rw [← Option.some.inj hc]
    decide
  have htake : (s ++ ':' :: rest).takeWhile isSchemeChar = s :=
    Text.takeWhile_append_of_all hchars hcolon
  have hdrop : (s ++ ':' :: rest).dropWhile isSchemeChar = ':' :: rest :=
    Text.dropWhile_append_of_all hchars hcolon
  obtain ⟨c, s, rfl⟩ := List.exists_cons_of_ne_nil hne
  unfold splitScheme?
  rw [hdrop, htake, List.cons_append]
  simp only [hfirst c rfl, if_true]

/-- What stands before the first colon of a URL is a scheme. -/
theorem isScheme_of_splitScheme? {s rest : List Char} {p : List Char × List Char} (hcolon : ':' ∉ s)
    (h : splitScheme? (s ++ ':' :: rest) = some p) : IsScheme s := by
  unfold splitScheme? at h
  split at h
  · rename_i first others after heq hdrop
    split at h
    · rename_i halpha
      have hsplit : (s ++ ':' :: rest).takeWhile isSchemeChar ++ ':' :: after = s ++
          ':' :: rest := by
        rw [← hdrop, List.takeWhile_append_dropWhile]
      have hcolon' : ':' ∉ (s ++ ':' :: rest).takeWhile isSchemeChar := fun hmem => by
        have := List.mem_takeWhile_imp hmem
        exact absurd this (by decide)
      have hs : (s ++ ':' :: rest).takeWhile isSchemeChar = s := by
        have h1 := Text.splitOnce?_append_cons after hcolon'
        rw [hsplit, Text.splitOnce?_append_cons rest hcolon] at h1
        exact (Prod.mk.inj (Option.some.inj h1)).1.symm
      have hchars : ∀ c ∈ s, isSchemeChar c = true := fun c hc => by
        rw [← hs] at hc
        exact List.mem_takeWhile_imp hc
      cases s with
      | nil =>
        rw [List.nil_append] at heq
        rw [← (List.cons.inj heq).1] at halpha
        exact absurd halpha (by decide)
      | cons c s =>
        refine ⟨fun d hd => ?_, by simp, hchars⟩
        rw [List.cons_append] at heq
        rw [← Option.some.inj hd, (List.cons.inj heq).1]
        exact halpha
    · exact absurd h (by simp)
  · exact absurd h (by simp)

/-! ## The rest -/

/-- What the authority is read from: further slashes in front of it do not count where hosts are
looked up. -/
def afterSlashes (kind : SchemeKind) (rest : List Char) : List Char :=
  if kind.isSpecial then rest.dropWhile kind.isSlash else rest

theorem afterSlashes_eq_self {kind : SchemeKind} {rest : List Char}
    (h : ∀ c ∈ rest.head?, kind.isSlash c = false) :
    afterSlashes kind rest = rest := by
  rw [afterSlashes]
  split
  · exact Text.dropWhile_eq_self h
  · rfl

theorem afterSlashes_append_cons {kind : SchemeKind} (a : List Char) {m : Char} (b : List Char)
    (hm : kind.isSlash m = false) :
    afterSlashes kind (a ++ m :: b) = afterSlashes kind a ++ m :: b := by
  rw [afterSlashes, afterSlashes]
  split
  · exact Text.dropWhile_append_cons a b hm
  · rfl

theorem afterSlashes_suffix (kind : SchemeKind) (s : List Char) : afterSlashes kind s <:+ s := by
  rw [afterSlashes]
  split
  · exact List.dropWhile_suffix _
  · exact List.suffix_refl s

/-- Slashes that do not count would be missed in the text that escapes stand for. -/
theorem afterSlashes_eq_self_of_decodeText {kind : SchemeKind} {s : List Char}
    (h : Text.Percent.decodeText (afterSlashes kind s) = Text.Percent.decodeText s) :
    afterSlashes kind s = s := by
  rw [afterSlashes] at h ⊢
  split
  · rename_i hspecial
    rw [if_pos hspecial] at h
    have hsplit := List.takeWhile_append_dropWhile (p := kind.isSlash) (l := s)
    have hpercent : '%' ∉ s.takeWhile kind.isSlash := fun hmem => by
      have hslash := List.mem_takeWhile_imp hmem
      rw [SchemeKind.isSlash, hspecial] at hslash
      exact absurd hslash (by decide)
    have hdecode := Text.Percent.decodeText_append hpercent (s.dropWhile kind.isSlash)
    rw [hsplit, ← h] at hdecode
    have hnil := List.self_eq_append_left.1 hdecode
    rw [hnil] at hsplit
    exact hsplit
  · rfl

/-- **Behind a scheme and two slashes a URL is read from its authority on.** -/
theorem read?_marker {text scheme rest : List Char} {kind : SchemeKind}
    (htext : cleaned text = scheme ++ ':' :: '/' :: '/' :: rest) (hscheme : IsScheme scheme)
    (hlower : scheme.map Char.toLower = scheme) (hkind : SchemeKind.ofScheme scheme = kind)
    (hfile : kind ≠ .file) :
    read? text = ofAuthority? scheme kind (afterSlashes kind rest) := by
  rw [read?]
  rw [htext, splitScheme?_append hscheme, hlower]
  cases kind with
  | file => exact absurd rfl hfile
  | network port =>
    simp only [hkind]
    have hslash : (SchemeKind.network port).isSlash '/' = true := rfl
    rw [List.dropWhile_cons_of_pos hslash, List.dropWhile_cons_of_pos hslash]
    rfl
  | other =>
    simp only [hkind]
    rfl

theorem not_isSlash_of_not_endsAuthority {kind : SchemeKind} {c : Char}
    (h : kind.endsAuthority c = false) :
    kind.isSlash c = false := by
  rw [SchemeKind.endsAuthority, Bool.or_eq_false_iff, Bool.or_eq_false_iff] at h
  exact h.1.1

/-- A host and a port in front of any path make an authority, and the host decides about it. -/
theorem ofAuthority?_host (scheme : List Char) {host rest : List Char} {kind : SchemeKind}
    {port : Option Nat} (hne : host ≠ []) (hhost : Stands kind host)
    (hport : ∀ n ∈ port, n ≤ 65535) :
    ofAuthority? scheme kind (host ++ portText port ++ '/' :: rest) =
      (host? kind host).map fun h =>
        withRest ⟨scheme, [], none, h, explicitPort kind port, [], none, none⟩ kind
          ('/' :: rest) := by
  have hat : '@' ∉ host := fun hmem => (hhost.chars _ hmem).2.1 rfl
  have ha : ∀ c ∈ host ++ portText port, kind.endsAuthority c = false := by
    intro c hc
    rcases List.mem_append.1 hc with hc | hc
    · exact (hhost.chars c hc).1
    · exact not_endsAuthority_portText kind port c hc
  rw [ofAuthority?_append scheme ha (endsAuthority_slash kind),
    authority?_host scheme hne hat hhost.scans hport]
  cases host? kind host <;> rfl

/-- Credentials, a host and a port in front of any path make an authority, and the host decides
about it. -/
theorem ofAuthority?_parts (scheme : List Char) {user password host rest : List Char}
    {kind : SchemeKind} {port : Option Nat} (hcolon : ':' ∉ user) (hpassword : password ≠ [])
    (hkeys : ∀ c ∈ user ++ password, kind.endsAuthority c = false) (hhost : Stands kind host)
    (hport : ∀ n ∈ port, n ≤ 65535) :
    ofAuthority? scheme kind
      (user ++ ':' :: password ++ '@' :: (host ++ portText port) ++ '/' :: rest) =
      (host? kind host).bind fun
        | some h =>
          .ok (withRest ⟨scheme, user, some password, some h, explicitPort kind port, [], none,
            none⟩
            kind ('/' :: rest))
        | none => .error .emptyHost := by
  have hat : '@' ∉ host := fun hmem => (hhost.chars _ hmem).2.1 rfl
  have hcolonEnds : kind.endsAuthority ':' = false := by
    rw [Bool.eq_false_iff, Ne, endsAuthority_iff]
    simp
  have hatEnds : kind.endsAuthority '@' = false := by
    rw [Bool.eq_false_iff, Ne, endsAuthority_iff]
    simp
  have ha : ∀ c ∈ user ++ ':' :: password ++ '@' :: (host ++ portText port), kind.endsAuthority
      c = false := by
    intro c hc
    simp only [List.mem_append, List.mem_cons] at hc
    rcases hc with (hc | rfl | hc) | rfl | hc | hc
    · exact hkeys c (List.mem_append_left _ hc)
    · exact hcolonEnds
    · exact hkeys c (List.mem_append_right _ hc)
    · exact hatEnds
    · exact (hhost.chars c hc).1
    · exact not_endsAuthority_portText kind port c hc
  rw [ofAuthority?_append scheme ha (endsAuthority_slash kind),
    authority?_parts scheme hcolon hpassword hat hhost.scans hport]
  cases host? kind host with
  | error reason => rfl
  | ok h => cases h <;> rfl

/-- **Credentials, a host and a port in front of any path are read back.** -/
theorem read?_parts {text scheme user password rest : List Char} {kind : SchemeKind} {h : Host}
    {port : Option Nat}
    (htext : cleaned text = scheme ++ Text.marker ++
      (user ++ ':' :: password ++ '@' :: (h.text ++ portText port) ++ '/' :: rest))
    (hscheme : IsScheme scheme) (hlower : scheme.map Char.toLower = scheme)
    (hkind : SchemeKind.ofScheme scheme = kind) (hfile : kind ≠ .file) (huser : user ≠ [])
    (hcolon : ':' ∉ user)
    (hpassword : password ≠ []) (hkeys : ∀ c ∈ user ++ password, kind.endsAuthority c = false)
    (hhost : h.Rereads kind) (hport : ∀ n ∈ port, n ≤ 65535) :
    read? text = .ok
      (withRest ⟨scheme, user, some password, some h, explicitPort kind port, [], none, none⟩ kind
      ('/' :: rest)) := by
  have hhead :
      ∀ c ∈ (user ++ ':' :: password ++ '@' :: (h.text ++ portText port) ++ '/' :: rest).head?,
      kind.isSlash c = false := by
    obtain ⟨d, user, rfl⟩ := List.exists_cons_of_ne_nil huser
    intro c hc
    rw [← Option.some.inj hc]
    exact not_isSlash_of_not_endsAuthority (hkeys d (by simp))
  have hmarker : cleaned text = scheme ++ ':' :: '/' :: '/' ::
      (user ++ ':' :: password ++ '@' :: (h.text ++ portText port) ++ '/' :: rest) := by
    rw [htext]
    simp [Text.marker]
  rw [read?_marker hmarker hscheme hlower hkind hfile, afterSlashes_eq_self hhead,
    ofAuthority?_parts scheme hcolon hpassword hkeys hhost.toStands hport, hhost.reads]
  rfl

/-! ## What a URL was read from -/

theorem user_ofFile? {scheme text : List Char} {url : Url} (h : ofFile? scheme text = .ok url) :
    url.user = [] := by
  rw [ofFile?] at h
  simp only [bind, Except.bind] at h
  split at h
  · rw [← Except.ok.inj h]
    rfl
  · split at h
    · exact absurd h (by simp)
    · split at h
      · rw [← Except.ok.inj h]
        rfl
      · rw [← Except.ok.inj h]
        rfl

/-- A URL with a name in front of its host was read from its authority on. -/
theorem read?_cases {text scheme rest : List Char} {url : Url}
    (htext : cleaned text = scheme ++ ':' :: rest)
    (hcolon : ':' ∉ scheme) (h : read? text = .ok url) (huser : url.user ≠ []) :
    IsScheme scheme ∧
      ((∃ port, SchemeKind.ofScheme (scheme.map Char.toLower) = .network port) ∨
        SchemeKind.ofScheme (scheme.map Char.toLower) = .other ∧
        ∃ after, rest = '/' :: '/' :: after) := by
  rw [read?] at h
  rw [htext] at h
  split at h
  · exact absurd h (by simp)
  · rename_i found after hsplit
    have hscheme := isScheme_of_splitScheme? hcolon hsplit
    rw [splitScheme?_append hscheme] at hsplit
    obtain ⟨rfl, rfl⟩ := Prod.mk.inj (Option.some.inj hsplit)
    refine ⟨hscheme, ?_⟩
    split at h
    · rename_i port hkind
      exact .inl ⟨port, hkind⟩
    · split at h
      · exact absurd (user_ofFile? h) huser
      · rw [← Except.ok.inj h] at huser
        exact absurd rfl huser
    · rename_i hkind
      exact .inr ⟨hkind, _, rfl⟩
    · rw [← Except.ok.inj h] at huser
      exact absurd rfl huser

theorem read?_ok {text scheme rest : List Char} {url : Url}
    (htext : cleaned text = scheme ++ ':' :: '/' :: '/' :: rest) (hcolon : ':' ∉ scheme)
    (hlower : scheme.map Char.toLower = scheme) (h : read? text = .ok url) (huser : url.user ≠ []) :
    IsScheme scheme ∧ SchemeKind.ofScheme scheme ≠ .file ∧
      ofAuthority? scheme (SchemeKind.ofScheme scheme)
        (afterSlashes (SchemeKind.ofScheme scheme) rest) = .ok url := by
  obtain ⟨hscheme, hkind⟩ := read?_cases htext hcolon h huser
  rw [hlower] at hkind
  have hfile : SchemeKind.ofScheme scheme ≠ .file := by
    rcases hkind with ⟨port, hkind⟩ | ⟨hkind, -⟩
    all_goals
      rw [hkind]
      simp
  exact ⟨hscheme, hfile, by rw [← h, read?_marker htext hscheme hlower rfl hfile]⟩

/-- A text that goes on with a colon and slashes has the end of an authority no later than there. -/
theorem exists_authority (kind : SchemeKind) (w : List Char) :
    ∃ a e r, (∀ c ∈ a, kind.endsAuthority c = false) ∧ kind.endsAuthority e = true ∧
      ∀ rest, w ++ ':' :: '/' :: '/' :: rest = a ++ e :: (r ++ '/' :: rest) := by
  have hsplit :=
    List.takeWhile_append_dropWhile (p := fun c => !kind.endsAuthority c) (l := w ++ [':'])
  have hfree : ∀ c ∈ (w ++ [':']).takeWhile (fun c => !kind.endsAuthority c), kind.endsAuthority
      c = false := by
    intro c hc
    simpa using List.mem_takeWhile_imp hc
  cases hdrop : (w ++ [':']).dropWhile (fun c => !kind.endsAuthority c) with
  | nil =>
    rw [hdrop, List.append_nil] at hsplit
    rw [hsplit] at hfree
    exact ⟨w ++ [':'], '/', [], hfree, rfl, fun rest => by simp⟩
  | cons e r =>
    rw [hdrop] at hsplit
    refine ⟨_, e, r ++ ['/'], hfree, ?_, fun rest => ?_⟩
    · have hhead := List.head?_dropWhile_not (fun c => !kind.endsAuthority c) (w ++ [':'])
      rw [hdrop] at hhead
      simpa using hhead
    · calc w ++ ':' :: '/' :: '/' :: rest = (w ++ [':']) ++ '/' :: '/' :: rest := by simp
        _ = _ ++ e :: r ++ '/' :: '/' :: rest := by rw [hsplit]
        _ = _ := by simp

/-- Behind the first colon of a URL with a name, what its authority is looked for in. -/
theorem exists_ofAuthority? {text scheme w rest : List Char} {url : Url}
    (htext : cleaned text = scheme ++ ':' :: (w ++ ':' :: '/' :: '/' :: rest))
    (hcolon : ':' ∉ scheme) (h : read? text = .ok url) (huser : url.user ≠ []) :
    ∃ kind u, ∀ {text' rest' : List Char}, cleaned text' = scheme ++
      ':' :: (w ++ ':' :: '/' :: '/' :: rest') →
      read? text' = ofAuthority? (scheme.map Char.toLower) kind
        (u ++ ':' :: '/' :: '/' :: rest') := by
  obtain ⟨hscheme, ⟨port, hkind⟩ | ⟨hkind, after, hafter⟩⟩ := read?_cases htext hcolon h huser
  · refine ⟨.network port, w.dropWhile (SchemeKind.network port).isSlash,
      fun {text' rest'} htext' => ?_⟩
    rw [read?]
    rw [htext', splitScheme?_append hscheme]
    simp only [hkind]
    rw [Text.dropWhile_append_cons w _ rfl]
  · -- The slashes that such a scheme needs are written in front of the colon.
    obtain ⟨u, rfl⟩ : ∃ u, w = '/' :: '/' :: u := by
      match w with
      | [] => exact absurd (List.cons.inj hafter).1 (by decide)
      | [c] => exact absurd (List.cons.inj (List.cons.inj hafter).2).1 (by decide)
      | c :: d :: u =>
        simp only [List.cons_append, List.cons.injEq] at hafter
        obtain ⟨rfl, rfl, -⟩ := hafter
        exact ⟨u, rfl⟩
    refine ⟨.other, u, fun {text' rest'} htext' => ?_⟩
    rw [read?]
    rw [htext', splitScheme?_append hscheme]
    simp only [hkind, List.cons_append]

/-- **If a scheme goes on behind a colon, the name, the host and the port stand within it**,
whatever follows the slashes. -/
theorem read?_within {text text' scheme w rest rest' : List Char} {url : Url}
    (htext : cleaned text = scheme ++ ':' :: (w ++ ':' :: '/' :: '/' :: rest))
    (hcolon : ':' ∉ scheme) (h : read? text = .ok url) (huser : url.user ≠ [])
    (htext' : cleaned text' = scheme ++ ':' :: (w ++ ':' :: '/' :: '/' :: rest')) :
    ∃ url', read? text' = .ok url' ∧ url'.user = url.user ∧ url'.password = url.password ∧
      url'.host = url.host ∧ url'.port = url.port := by
  obtain ⟨kind, u, hread⟩ := exists_ofAuthority? htext hcolon h huser
  obtain ⟨a, e, r, ha, he, hsplit⟩ := exists_authority kind u
  have hurl := hread htext
  rw [h, hsplit, ofAuthority?_append _ ha he] at hurl
  rw [hread htext', hsplit, ofAuthority?_append _ ha he]
  cases hauthority : authority? (scheme.map Char.toLower) kind a with
  | error reason =>
    rw [hauthority] at hurl
    exact absurd hurl (by simp [Except.map])
  | ok p =>
    rw [hauthority] at hurl
    rw [Except.ok.inj hurl]
    exact ⟨_, rfl, rfl, rfl, rfl, rfl⟩

end ErrorReport.Url
