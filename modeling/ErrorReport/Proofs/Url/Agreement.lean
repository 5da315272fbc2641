import ErrorReport.Proofs.Url.Reading
import ErrorReport.Proofs.Url.Standard

/-!
# Where the reader and the standard agree

`Url.read?` cuts a text into pieces, and the machine of the standard goes over it character by
character.  Each state of the machine is left where the reader makes a cut: `port_eq`, `host_eq`,
`authority_at` and `authority_plain`, `fileHost_eq`, `schemeStart_eq`.  So the two can be compared one
piece after another, from the port back to the scheme, with `Agrees` as the relation: the reader
accepts what the standard accepts, and what is forgiven.

`refuses_iff` says so of whole texts.
-/

set_option autoImplicit false

namespace ErrorReport.Url

namespace Standard

/-! ## Agreement -/

/-- A reader accepts what the standard accepts or what is forgiven. -/
def Agrees {α : Type} (read : Except UrlError α) (outcome : Except Failure Unit) : Prop :=
  (∃ a, read = .ok a) ↔ ∀ failure, outcome = .error failure → failure.IsForgiven

section Agrees

variable {α β : Type} {read : Except UrlError α} {outcome : Except Failure Unit}

theorem agrees_ok (a : α) : Agrees (.ok a) (.ok ()) := by
  simp [Agrees]

theorem agrees_error (reason : UrlError) {failure : Failure} (h : ¬failure.IsForgiven) :
    Agrees (α := α) (.error reason) (.error failure) := by
  simp [Agrees, h]

theorem agrees_map {f : α → β} : Agrees (read.map f) outcome ↔ Agrees read outcome := by
  cases read <;> simp [Agrees, Except.map]

end Agrees

variable {kind : SchemeKind}

theorem ends_eq (kind : SchemeKind) (c : Char) : ends kind.isSpecial c = kind.endsAuthority c := by
  rw [Bool.eq_iff_iff, endsAuthority_iff]
  simp [ends, or_assoc]

/-! ## Ports -/

theorem port_eq (isSpecial : Bool) (buffer text : List Char) :
    port isSpecial buffer text =
      match text.dropWhile Char.isDigit with
      | [] => portEnd (buffer ++ text.takeWhile Char.isDigit)
      | c :: _ =>
        if ends isSpecial c then portEnd (buffer ++ text.takeWhile Char.isDigit)
        else .error (.portInvalid (buffer ++ text.takeWhile Char.isDigit) c) := by
  induction text generalizing buffer with
  | nil => simp [port]
  | cons c rest ih =>
    by_cases hc : c.isDigit = true
    · rw [port, if_pos hc, ih, List.dropWhile_cons_of_pos hc, List.takeWhile_cons_of_pos hc,
        List.append_assoc, List.singleton_append]
    · rw [port, if_neg hc, List.dropWhile_cons_of_neg hc, List.takeWhile_cons_of_neg hc,
        List.append_nil]

theorem exists_portNumber?_iff {digits : List Char} :
    (∃ n, portNumber? kind digits = .ok n) ↔ Nat.ofDigitChars 10 digits 0 ≤ 65535 := by
  rw [portNumber?]
  simp only [Text.decimal_foldl]
  split
  · rename_i hlarge
    simpa using hlarge
  · rename_i hsmall
    split <;> simpa using hsmall

theorem agrees_portNumber? (kind : SchemeKind) (digits : List Char) :
    Agrees (portNumber? kind digits) (portEnd digits) := by
  rw [Agrees, exists_portNumber?_iff, portEnd]
  split
  · rename_i hlarge
    simpa [Failure.IsForgiven] using hlarge
  · rename_i hsmall
    simpa using hsmall

theorem agrees_splitPort? (kind : SchemeKind) (rest : List Char) :
    Agrees (splitPort? kind (':' :: rest)) (port kind.isSpecial [] rest) := by
  rw [splitPort?, port_eq, List.nil_append]
  cases rest.dropWhile Char.isDigit with
  | nil => exact agrees_map.2 (agrees_portNumber? kind _)
  | cons c after =>
    by_cases hc : kind.endsAuthority c = true
    · have hends : (c == '/' || c == '\\' || c == '?' || c == '#') = true := by
        rcases (endsAuthority_iff kind c).1 hc with rfl | rfl | rfl | ⟨-, rfl⟩ <;> decide
      simp only [List.head?_cons, Option.all_some, hends, ends_eq, hc, if_true]
      exact agrees_map.2 (agrees_portNumber? kind _)
    · simp only [List.head?_cons, Option.all_some, ends_eq, hc, Bool.false_eq_true, if_false]
      by_cases hback : c = '\\'
      · -- the standard has this end a port behind a special scheme only
        subst hback
        simp only [beq_self_eq_true, Bool.or_true, Bool.true_or, if_true]
        rw [agrees_map, Agrees, exists_portNumber?_iff]
        simp [Failure.IsForgiven]
      · have hends : (c == '/' || c == '\\' || c == '?' || c == '#') = false := by
          rw [endsAuthority_iff] at hc
          rw [Bool.eq_false_iff, ne_eq]
          simp only [Bool.or_eq_true, beq_iff_eq]
          tauto
        simp only [hends, Bool.false_eq_true, if_false]
        exact agrees_error _ fun h => hback h.1

/-! ## Hosts -/

/-- What becomes of a host, by what stands behind it. -/
def hostCut (isSpecial : Bool) (buffer : List Char) : List Char → Except Failure Unit
  | ':' :: rest => hostColon isSpecial buffer rest
  | _ => hostEnd isSpecial buffer

theorem hostCut_of_no_colon (isSpecial : Bool) (buffer : List Char) {after : List Char}
    (h : ∀ rest, after ≠ ':' :: rest) : hostCut isSpecial buffer after = hostEnd isSpecial buffer := by
  unfold hostCut
  split
  · rename_i rest
    exact absurd rfl (h rest)
  · rfl

/-- The state for a host is left where a host is cut off. -/
theorem host_eq (kind : SchemeKind) (inBrackets : Bool) (buffer text : List Char) :
    host kind.isSpecial inBrackets buffer text =
      hostCut kind.isSpecial (buffer ++ (splitHost kind inBrackets text).1)
        (splitHost kind inBrackets text).2 := by
  induction text generalizing inBrackets buffer with
  | nil => simp [host, splitHost, hostCut]
  | cons c rest ih =>
    rw [host, splitHost, ends_eq]
    by_cases hcolon : c = ':' ∧ inBrackets = false
    · obtain ⟨rfl, rfl⟩ := hcolon
      simp [hostCut]
    · have hcolon' : (c == ':' && !inBrackets) = false := by
        rw [Bool.eq_false_iff]
        simpa using hcolon
      rw [if_neg hcolon, hcolon', Bool.or_false]
      by_cases hends : kind.endsAuthority c = true
      · have hc : c ≠ ':' := by
          rintro rfl
          simp [endsAuthority_iff] at hends
        rw [if_pos hends, if_pos hends, List.append_nil,
          hostCut_of_no_colon _ _ fun _ heq => hc (List.cons.inj heq).1]
      · have hbrackets : (if c = '[' then true else if c = ']' then false else inBrackets) =
            (c == '[' || (inBrackets && c != ']')) := by
          by_cases hopen : c = '['
          · simp [hopen]
          · have hopen' : (c == '[') = false := beq_eq_false_iff_ne.2 hopen
            by_cases hclose : c = ']'
            · simp [hclose]
            · have hclose' : (c != ']') = true := bne_iff_ne.2 hclose
              simp [hopen, hclose, hopen', hclose']
        rw [if_neg hends, if_neg hends, ih, hbrackets, List.append_assoc, List.singleton_append]

/-- The rest of reading an authority, once it is known where the host ends. -/
def readHost? (scheme : List Char) (kind : SchemeKind) (credentials : Credentials)
    (written after : List Char) : Except UrlError Url := do
  let host ← host? kind written
  if host.isNone && after.head? == some ':' then .error .emptyHost
  else
    let (port, rest) ← splitPort? kind after
    if host.isNone && !credentials.isEmpty then .error .emptyHost
    else
      .ok <| withRest
        { scheme := scheme, user := credentials.user, password := credentials.password,
          host := host, port := port } kind rest

/-- The rest of reading an authority, behind the user info. -/
def fromHost? (scheme : List Char) (kind : SchemeKind) (credentials : Credentials)
    (text : List Char) : Except UrlError Url :=
  readHost? scheme kind credentials (splitHost kind false text).1 (splitHost kind false text).2

theorem ofAuthority?_eq (scheme : List Char) (kind : SchemeKind) (text : List Char) :
    ofAuthority? scheme kind text =
      (splitCredentials? kind text).bind fun p => fromHost? scheme kind p.1 p.2 := rfl

section ReadHost

variable {written after rest : List Char} {credentials : Credentials}

/-- Where something is written for a host, reading and the host parser come to the same. -/
theorem host?_eq (kind : SchemeKind) (hne : written ≠ []) :
    (∃ h, host? kind written = .ok (some h) ∧ hostParser kind.isSpecial written = .ok ()) ∨
      ∃ reason, host? kind written = .error reason ∧
        hostParser kind.isSpecial written = .error (.hostInvalid reason) := by
  rw [host?, hostParser, List.isEmpty_eq_false_iff.2 hne]
  cases kind.isSpecial with
  | true =>
    simp only [if_true, Bool.false_eq_true, if_false]
    cases Host.ofDomain? written <;> simp [Except.map]
  | false =>
    simp only [Bool.false_eq_true, if_false]
    cases Host.ofOpaque? written <;> simp [Except.map]

theorem agrees_hostColon (scheme : List Char) (kind : SchemeKind) (credentials : Credentials)
    (written rest : List Char) :
    Agrees (readHost? scheme kind credentials written (':' :: rest))
      (hostColon kind.isSpecial written rest) := by
  rw [readHost?, hostColon]
  simp only [bind, Except.bind]
  by_cases hne : written = []
  · subst hne
    rw [host?]
    cases kind.isSpecial <;> exact agrees_error _ id
  · rw [List.isEmpty_eq_false_iff.2 hne]
    rcases host?_eq kind hne with ⟨found, hhost, hparser⟩ | ⟨reason, hhost, hparser⟩
    · have hport := agrees_splitPort? kind rest
      rw [hhost, hparser]
      cases hread : splitPort? kind (':' :: rest) with
      | error reason =>
        rw [hread] at hport
        simpa [Agrees] using hport
      | ok p =>
        rw [hread] at hport
        simpa [Agrees] using hport
    · rw [hhost, hparser]
      exact agrees_error _ id

theorem splitPort?_of_no_colon (h : ∀ rest, after ≠ ':' :: rest) :
    splitPort? kind after = .ok (none, after) := by
  unfold splitPort?
  split
  · rename_i rest
    exact absurd rfl (h rest)
  · rfl

/-- Without a host, it depends on the scheme and on the user info whether one is missed. -/
theorem exists_readHost?_nil_iff {scheme : List Char} (hafter : ∀ rest, after ≠ ':' :: rest) :
    (∃ url, readHost? scheme kind credentials [] after = .ok url) ↔
      kind.isSpecial = false ∧ credentials.isEmpty = true := by
  have hhead : (after.head? == some ':') = false :=
    beq_eq_false_iff_ne.2 fun heq => (List.head?_eq_some_iff.1 heq).elim hafter
  rw [readHost?]
  simp only [bind, Except.bind, host?, splitPort?_of_no_colon hafter, hhead]
  cases kind.isSpecial <;> cases credentials.isEmpty <;> simp

theorem agrees_hostEnd (scheme : List Char) (hafter : ∀ rest, after ≠ ':' :: rest)
    (h : written ≠ [] ∨ credentials.isEmpty = true) :
    Agrees (readHost? scheme kind credentials written after)
      (hostEnd kind.isSpecial written) := by
  by_cases hne : written = []
  · subst hne
    have hempty : credentials.isEmpty = true := h.resolve_left fun hne => hne rfl
    have hparser : hostParser false [] = .ok () := rfl
    rw [Agrees, exists_readHost?_nil_iff hafter, hempty, hostEnd]
    cases kind.isSpecial <;> simp [hparser, Failure.IsForgiven]
  · rw [readHost?, hostEnd, List.isEmpty_eq_false_iff.2 hne, Bool.and_false]
    simp only [bind, Except.bind, splitPort?_of_no_colon hafter]
    rcases host?_eq kind hne with ⟨found, hhost, hparser⟩ | ⟨reason, hhost, hparser⟩
    · rw [hhost, hparser]
      exact agrees_ok _
    · rw [hhost, hparser]
      exact agrees_error _ id

/-- Where a host could start there is one, unless there is a colon. -/
theorem splitHost_of_not_endsAuthority {c : Char} (hc : kind.endsAuthority c = false)
    (h : (splitHost kind false (c :: rest)).1 = []) :
    (splitHost kind false (c :: rest)).2 = ':' :: rest := by
  rw [splitHost, hc] at h ⊢
  split at h
  · rename_i hcolon
    rw [if_pos hcolon]
    simpa using hcolon
  · exact absurd h (by simp)

theorem agrees_fromHost? (scheme : List Char) (kind : SchemeKind) {text : List Char}
    (h : credentials.isEmpty = true ∨ ∃ c rest, text = c :: rest ∧ kind.endsAuthority c = false) :
    Agrees (fromHost? scheme kind credentials text) (host kind.isSpecial false [] text) := by
  rw [host_eq, List.nil_append, fromHost?]
  by_cases hcolon : ∃ rest, (splitHost kind false text).2 = ':' :: rest
  · obtain ⟨rest, hrest⟩ := hcolon
    rw [hrest]
    exact agrees_hostColon scheme kind credentials _ rest
  · rw [hostCut_of_no_colon _ _ (not_exists.1 hcolon)]
    refine agrees_hostEnd scheme (not_exists.1 hcolon) ?_
    rcases h with h | ⟨c, rest, rfl, hc⟩
    · exact .inr h
    · exact .inl fun hnil => hcolon ⟨rest, splitHost_of_not_endsAuthority hc hnil⟩

end ReadHost

/-! ## Authorities -/

theorem joined_joined (user : Option (List Char)) (buffer more : List Char) :
    joined (some (joined user buffer)) more = joined user (buffer ++ '@' :: more) := by
  cases user <;> simp [joined]

/-- All marks but the last one belong to the user info. -/
theorem authority_at (kind : SchemeKind) (user : Option (List Char)) (buffer : List Char)
    {written : List Char} (hwritten : ∀ c ∈ written, kind.endsAuthority c = false)
    (rest : List Char) :
    authority kind.isSpecial user buffer (written ++ '@' :: rest) =
      authority kind.isSpecial (some (joined user (buffer ++ written))) [] rest := by
  induction written generalizing user buffer with
  | nil => rw [List.nil_append, authority, if_pos rfl, List.append_nil]
  | cons c written ih =>
    obtain ⟨hc, hwritten⟩ := List.forall_mem_cons.1 hwritten
    rw [List.cons_append, authority, ends_eq, hc]
    by_cases hat : c = '@'
    · rw [if_pos hat, ih _ _ hwritten, List.nil_append, joined_joined, hat]
    · rw [if_neg hat, if_neg Bool.false_ne_true, ih _ _ hwritten, List.append_assoc,
        List.singleton_append]

/-- What is left at the end of an authority is where the host starts. -/
theorem authority_plain (kind : SchemeKind) (user : Option (List Char)) (buffer : List Char)
    {plain rest : List Char} (hplain : ∀ c ∈ plain, kind.endsAuthority c = false)
    (hat : '@' ∉ plain) (hrest : ∀ c ∈ rest.head?, kind.endsAuthority c = true) :
    authority kind.isSpecial user buffer (plain ++ rest) =
      authorityEnd kind.isSpecial user (buffer ++ plain) rest := by
  induction plain generalizing buffer with
  | nil =>
    rw [List.nil_append, List.append_nil]
    cases rest with
    | nil => rw [authority]
    | cons c rest =>
      have hends : kind.endsAuthority c = true := hrest c rfl
      have hc : c ≠ '@' := by
        rintro rfl
        simp [endsAuthority_iff] at hends
      rw [authority, if_neg hc, ends_eq, if_pos hends]
  | cons c plain ih =>
    obtain ⟨hc, hplain⟩ := List.forall_mem_cons.1 hplain
    rw [List.mem_cons, not_or] at hat
    rw [List.cons_append, authority, if_neg (Ne.symm hat.1), ends_eq, hc,
      if_neg Bool.false_ne_true, ih _ hplain hat.2, List.append_assoc, List.singleton_append]

theorem isEmpty_read_iff {written : List Char} :
    (Credentials.read written).isEmpty = true ↔ written = [] ∨ written = [':'] := by
  rw [Credentials.read]
  split
  · rename_i user hsplit
    rw [Text.splitOnce?_append hsplit]
    simp [Credentials.isEmpty]
  · rename_i user password hne hsplit
    rw [Text.splitOnce?_append hsplit]
    obtain ⟨c, password, rfl⟩ := List.exists_cons_of_ne_nil hne
    cases user <;> simp [Credentials.isEmpty]
  · rename_i hnone
    have hcolon : written ≠ [':'] := by
      rintro rfl
      exact absurd hnone (by decide)
    simp [Credentials.isEmpty, hcolon]

/-- User info and a host that is missing behind it. -/
theorem agrees_behindUser (scheme : List Char) (kind : SchemeKind) (user : List Char)
    {rest : List Char} (hrest : ∀ c ∈ rest.head?, kind.endsAuthority c = true) (h : user ≠ [] ∨ rest = []) :
    Agrees (fromHost? scheme kind (.read user) rest)
      (.error (.hostMissingBehindUser kind.isSpecial user rest)) := by
  have hforgiven : user = [] ∨ user = [':'] ↔ user = [':'] ∨ user = [] ∧ rest = [] := by
    tauto
  have hsplit : splitHost kind false rest = ([], rest) := by
    cases rest with
    | nil => rfl
    | cons c rest => rw [splitHost, hrest c rfl, Bool.true_or, if_pos rfl]
  have hcolon : ∀ after, rest ≠ ':' :: after := by
    rintro after rfl
    exact absurd (hrest ':' rfl) (by simp [endsAuthority_iff])
  rw [fromHost?, hsplit, Agrees, exists_readHost?_nil_iff hcolon, isEmpty_read_iff, hforgiven]
  simp [Failure.IsForgiven]

/-- **From the authority on, a URL is read as the standard has it**, but for what is forgiven. -/
theorem agrees_ofAuthority? (scheme : List Char) (kind : SchemeKind) (text : List Char) :
    Agrees (ofAuthority? scheme kind text) (authority kind.isSpecial none [] text) := by
  have htext := List.takeWhile_append_dropWhile (p := fun c => !kind.endsAuthority c) (l := text)
  have hrest : ∀ c ∈ (text.dropWhile fun c => !kind.endsAuthority c).head?,
      kind.endsAuthority c = true := fun c hc => by
    have := List.head?_dropWhile_not (fun c => !kind.endsAuthority c) text
    rw [hc] at this
    simpa using this
  have hplain : ∀ c ∈ text.takeWhile fun c => !kind.endsAuthority c,
      kind.endsAuthority c = false := fun c hc => by simpa using List.mem_takeWhile_imp hc
  rw [ofAuthority?_eq, splitCredentials?]
  generalize text.dropWhile (fun c => !kind.endsAuthority c) = rest at htext hrest ⊢
  generalize text.takeWhile (fun c => !kind.endsAuthority c) = a at htext hplain ⊢
  subst htext
  cases hsplit : Text.splitLast? ['@'] a with
  | none =>
    have hat : '@' ∉ a := fun hmem =>
      Text.splitLast?_eq_none_iff.1 hsplit ((List.singleton_infix_iff _ _).2 hmem)
    rw [authority_plain kind _ _ hplain hat hrest]
    exact agrees_fromHost? scheme kind (.inl rfl)
  | some p =>
    obtain ⟨user, written⟩ := p
    have hat : '@' ∉ written := fun hmem =>
      Text.not_infix_of_splitLast? (by simp) hsplit ((List.singleton_infix_iff _ _).2 hmem)
    obtain rfl := Text.splitLast?_append hsplit
    obtain ⟨⟨huser, -⟩, hwritten⟩ := by
      simpa only [List.forall_mem_append] using hplain
    rw [List.append_assoc, List.append_assoc, List.singleton_append, authority_at kind _ _ huser,
      authority_plain kind _ _ hwritten hat hrest, List.nil_append, joined, List.nil_append,
      authorityEnd]
    cases written with
    | nil =>
      cases user with
      | nil =>
        cases rest with
        | nil => exact agrees_behindUser scheme kind [] hrest (.inr rfl)
        | cons c rest => exact agrees_error _ (by simp [Failure.IsForgiven])
      | cons c user => exact agrees_behindUser scheme kind (c :: user) hrest (.inl (by simp))
    | cons c written =>
      cases user <;> exact agrees_fromHost? scheme kind (.inr ⟨c, _, rfl, hwritten c (by simp)⟩)

/-! ## Files -/

theorem fileHost_eq (buffer text : List Char) :
    fileHost buffer text =
      fileHostEnd (buffer ++ text.takeWhile fun c => !SchemeKind.file.endsAuthority c) := by
  have hends (c : Char) : ends true c = SchemeKind.file.endsAuthority c := ends_eq .file c
  induction text generalizing buffer with
  | nil => simp [fileHost]
  | cons c rest ih =>
    rw [fileHost, hends, List.takeWhile_cons]
    cases SchemeKind.file.endsAuthority c <;> simp [ih]

theorem agrees_ofFile? (scheme text : List Char) :
    Agrees (ofFile? scheme text) (fileHost [] text) := by
  rw [fileHost_eq, List.nil_append, ofFile?, fileHostEnd]
  simp only [bind, Except.bind, hostParser, if_true]
  generalize text.takeWhile (fun c => !SchemeKind.file.endsAuthority c) = written
  by_cases hnone : (written.isEmpty || Path.isDrive written) = true
  · rw [if_pos hnone, if_pos (by rwa [Bool.or_comm])]
    exact agrees_ok _
  · rw [if_neg hnone, if_neg (by rwa [Bool.or_comm])]
    cases Host.ofDomain? written with
    | error reason => exact agrees_error _ id
    | ok host => 
      simp only
      split <;> exact agrees_ok _

/-! ## Schemes -/

theorem scheme_eq (buffer text : List Char) :
    scheme buffer text =
      match text.dropWhile isSchemeChar with
      | ':' :: rest =>
        schemeEnd (String.ofList (buffer ++ (text.takeWhile isSchemeChar).map Char.toLower)) rest
      | _ => .error .schemeMissing := by
  have hchar (c : Char) : (c.isAlphanum || ['+', '-', '.'].contains c) = isSchemeChar c := by
    rw [Bool.eq_iff_iff]
    simp [isSchemeChar, or_assoc]
  induction text generalizing buffer with
  | nil => rfl
  | cons c rest ih =>
    rw [scheme, hchar, List.dropWhile_cons, List.takeWhile_cons]
    cases isSchemeChar c with
    | true => simp [ih]
    | false =>
      by_cases hcolon : c = ':'
      · subst hcolon
        simp
      · simp [hcolon]

/-- The scheme is what stands in front of the first colon. -/
theorem schemeStart_eq (text : List Char) :
    schemeStart text =
      match splitScheme? text with
      | some (name, rest) => schemeEnd (String.ofList name) rest
      | none => .error .schemeMissing := by
  cases text with
  | nil => rfl
  | cons c rest =>
    rw [schemeStart]
    by_cases halpha : c.isAlpha = true
    · have hchar : isSchemeChar c = true := by simp [isSchemeChar, Char.isAlphanum, halpha]
      rw [if_pos halpha, scheme_eq, splitScheme?.eq_def, List.dropWhile_cons_of_pos hchar,
        List.takeWhile_cons_of_pos hchar]
      cases rest.dropWhile isSchemeChar with
      | nil => rfl
      | cons d after =>
        by_cases hcolon : d = ':'
        · subst hcolon
          simp [halpha]
        · simp [hcolon]
    · have hnone : splitScheme? (c :: rest) = none := by
        rw [splitScheme?.eq_def]
        split
        · rename_i heq _
          rw [if_neg ((List.cons.inj heq).1 ▸ halpha)]
        · rfl
      rw [if_neg halpha, hnone]

/-- The three sorts of schemes. -/
theorem ofScheme_cases (name : List Char) :
    (String.ofList name = "file" ∧ SchemeKind.ofScheme name = .file) ∨
      (String.ofList name ≠ "file" ∧ String.ofList name ∈ specialSchemes ∧
        ∃ port, SchemeKind.ofScheme name = .network port) ∨
      (String.ofList name ≠ "file" ∧ String.ofList name ∉ specialSchemes ∧
        SchemeKind.ofScheme name = .other) := by
  rw [SchemeKind.ofScheme]
  split <;> simp_all [specialSchemes]

theorem ignoreSlashes_eq (port : Nat) (text : List Char) :
    ignoreSlashes text =
      authority true none [] (text.dropWhile (SchemeKind.network port).isSlash) := by
  have hslash (c : Char) : (c = '/' ∨ c = '\\') ↔ (SchemeKind.network port).isSlash c = true := by
    simp [SchemeKind.isSlash, SchemeKind.isSpecial]
  induction text with
  | nil => rfl
  | cons c rest ih =>
    rw [ignoreSlashes, List.dropWhile_cons, ih]
    simp only [hslash]
    split <;> rfl

theorem specialAuthoritySlashes_eq (port : Nat) (text : List Char) :
    specialAuthoritySlashes text =
      authority true none [] (text.dropWhile (SchemeKind.network port).isSlash) := by
  unfold specialAuthoritySlashes
  split <;> exact ignoreSlashes_eq port _

/-- Without two slashes there is no authority behind a scheme that is not special. -/
theorem plainSchemeEnd_of_no_slashes {rest : List Char} (h : ∀ text, rest ≠ '/' :: '/' :: text) :
    plainSchemeEnd rest = .ok () := by
  unfold plainSchemeEnd
  split
  · unfold pathOrAuthority
    split
    · exact absurd rfl (h _)
    · rfl
  · rfl

theorem stripped_eq (text : List Char) : stripped text = cleaned text := by
  refine List.filter_congr fun c _ => ?_
  rw [Bool.eq_iff_iff]
  simp [and_assoc]

/-- **The reader and the standard agree on any text**, but for what is forgiven. -/
theorem agrees_read? (text : List Char) : Agrees (read? text) (parse text) := by
  have hslash (c : Char) : (c = '/' ∨ c = '\\') ↔ SchemeKind.file.isSlash c = true := by
    simp [SchemeKind.isSlash, SchemeKind.isSpecial]
  rw [parse, stripped_eq, schemeStart_eq, read?]
  cases splitScheme? (cleaned text) with
  | none => exact agrees_error _ id
  | some p =>
    obtain ⟨name, rest⟩ := p
    simp only [schemeEnd]
    rcases ofScheme_cases name with ⟨hname, hkind⟩ | ⟨hfile, hname, port, hkind⟩ |
      ⟨hfile, hname, hkind⟩
    · rw [if_pos hname, hkind]
      obtain _ | ⟨a, _ | ⟨b, rest⟩⟩ := rest
      · exact agrees_ok _
      · exact agrees_ok _
      · simp only [file, hslash, ← Bool.and_eq_true]
        split
        · exact agrees_ofFile? name rest
        · exact agrees_ok _
    · rw [if_neg hfile, if_pos hname, specialAuthoritySlashes_eq port, hkind]
      exact agrees_ofAuthority? name (.network port) _
    · rw [if_neg hfile, if_neg hname]
      split
      · rename_i hnetwork
        exact absurd (hkind.symm.trans hnetwork) (by simp)
      · rename_i hfiles
        exact absurd (hkind.symm.trans hfiles) (by simp)
      · exact agrees_ofAuthority? name .other _
      · rename_i hnone
        rw [plainSchemeEnd_of_no_slashes fun text => hnone text hkind]
        exact agrees_ok _

/-- No URL is read where the standard refuses the text, and one is read everywhere else. -/
theorem refuses_iff {text : List Char} : Refuses text ↔ ∃ reason, read? text = .error reason := by
  have hagrees := agrees_read? text
  rw [Agrees] at hagrees
  cases hread : read? text with
  | ok url =>
    have hforgiven := hagrees.1 ⟨url, hread⟩
    simp only [Refuses, reduceCtorEq, exists_false, iff_false, not_exists, not_and, not_not]
    exact hforgiven
  | error reason =>
    rw [hread] at hagrees
    simpa [Refuses] using hagrees

end Standard

end ErrorReport.Url
