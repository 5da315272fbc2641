import ErrorReport.Url
import ErrorReport.Proofs.Text.Decimal
import ErrorReport.Proofs.Text.Split
import ErrorReport.Proofs.Text.Trim

/-!
# Who is asked, and where

What stands between the slashes of a URL and its path is read by itself: `ofAuthority?_append` says
that the part up to the first character that ends it gives the credentials, the host and the port,
and that all the rest goes to the path, query and fragment.

`authority?_parts` puts credentials, a host and a port together and has them read back, and
`authority?_host` does so without credentials.
-/

set_option autoImplicit false

namespace ErrorReport.Url

open SchemeKind

variable {kind : SchemeKind}

theorem endsAuthority_slash (kind : SchemeKind) : kind.endsAuthority '/' = true := rfl

/-- The characters that end an authority in any URL, and the one that does in some. -/
theorem endsAuthority_iff (kind : SchemeKind) (c : Char) :
    kind.endsAuthority c = true ↔ c = '/' ∨ c = '?' ∨ c = '#' ∨ kind.isSpecial = true ∧
    c = '\\' := by
  simp only [endsAuthority, isSlash, Bool.or_eq_true, Bool.and_eq_true, beq_iff_eq]
  tauto

/-! ## Splitting off the authority -/

/-- The credentials of an authority and what follows them in it. -/
def credentials? (a : List Char) : Except UrlError (Credentials × List Char) :=
  match Text.splitLast? ['@'] a with
  | none => .ok (⟨[], none⟩, a)
  | some ([], []) => .error .emptyHost
  | some (written, host) => .ok (.read written, host)

theorem splitCredentials?_append {a : List Char} (ha : ∀ c ∈ a, kind.endsAuthority c = false)
    {e : Char} (he : kind.endsAuthority e = true) (r : List Char) :
    splitCredentials? kind (a ++ e :: r) = (credentials? a).map fun p => (p.1, p.2 ++ e :: r) := by
  have hpos : ∀ c ∈ a, (!kind.endsAuthority c) = true := fun c hc => by rw [ha c hc]; rfl
  have hneg : ∀ c ∈ (e :: r).head?, (!kind.endsAuthority c) = false := by simp [he]
  rw [splitCredentials?, credentials?]
  simp only [Text.takeWhile_append_of_all hpos hneg, Text.dropWhile_append_of_all hpos hneg]
  rcases Text.splitLast? ['@'] a with _ | ⟨_ | _, _ | _⟩ <;> rfl

theorem splitHost_append {h : List Char} (hh : ∀ c ∈ h, kind.endsAuthority c = false) {e : Char}
    (he : kind.endsAuthority e = true) (r : List Char) (inBrackets : Bool) :
    splitHost kind inBrackets (h ++ e :: r) =
      ((splitHost kind inBrackets h).1, (splitHost kind inBrackets h).2 ++ e :: r) := by
  induction h generalizing inBrackets with
  | nil =>
    show splitHost kind inBrackets (e :: r) = ([], e :: r)
    rw [splitHost, he]
    rfl
  | cons c h ih =>
    have hc := hh c List.mem_cons_self
    rw [List.cons_append, splitHost, splitHost, hc]
    split
    · rfl
    · rw [ih fun d hd => hh d (List.mem_cons_of_mem _ hd)]

/-- Whatever is left of a host is a part of it. -/
theorem mem_splitHost {inBrackets : Bool} {h : List Char} {c : Char}
    (hc : c ∈ (splitHost kind inBrackets h).2) : c ∈ h := by
  induction h generalizing inBrackets with
  | nil => exact hc
  | cons d h ih =>
    rw [splitHost] at hc
    split at hc
    · exact hc
    · exact List.mem_cons_of_mem _ (ih hc)

theorem splitPort?_append {p : List Char} (hp : ∀ c ∈ p, kind.endsAuthority c = false) {e : Char}
    (he : kind.endsAuthority e = true) (r : List Char) :
    splitPort? kind (p ++ e :: r) = (splitPort? kind p).map fun q => (q.1, q.2 ++ e :: r) := by
  have hcolon : e ≠ ':' := by
    rintro rfl
    simp [endsAuthority_iff] at he
  have hdigit : e.isDigit = false := by
    rcases (endsAuthority_iff kind e).1 he with rfl | rfl | rfl | ⟨-, rfl⟩ <;> decide
  have hend : (e == '/' || e == '\\' || e == '?' || e == '#') = true := by
    rcases (endsAuthority_iff kind e).1 he with rfl | rfl | rfl | ⟨-, rfl⟩ <;> decide
  match p with
  | [] =>
    rw [List.nil_append, splitPort?.eq_def]
    split
    · rename_i heq
      exact absurd (List.cons.inj heq).1 hcolon
    · rfl
  | c :: p =>
    by_cases hc : c = ':'
    · subst hc
      have hhead : ∀ c ∈ (e :: r).head?, c.isDigit = false := by simp [hdigit]
      rw [List.cons_append, splitPort?, splitPort?]
      simp only [Text.takeWhile_append_of_head p hhead, Text.dropWhile_append_of_head p hhead]
      cases hafter : p.dropWhile Char.isDigit with
      | nil =>
        rw [List.nil_append, List.head?_cons, Option.all_some, hend, List.head?_nil,
          Option.all_none]
        simp only [if_true]
        cases portNumber? kind (p.takeWhile Char.isDigit) <;> rfl
      | cons d after =>
        rw [List.cons_append, List.head?_cons, List.head?_cons]
        split
        · cases portNumber? kind (p.takeWhile Char.isDigit) <;> rfl
        · rfl
    · rw [List.cons_append, splitPort?.eq_def, splitPort?.eq_def]
      split
      · rename_i heq
        exact absurd (List.cons.inj heq).1 hc
      · split
        · rename_i heq
          exact absurd (List.cons.inj heq).1 hc
        · rfl

/-- What an authority says, and what it leaves for the path. -/
def authority? (scheme : List Char) (kind : SchemeKind) (a : List Char) :
    Except UrlError (Url × List Char) := do
  let (credentials, afterUser) ← credentials? a
  let (written, afterHost) := splitHost kind false afterUser
  let host ← host? kind written
  if host.isNone && afterHost.head? == some ':' then .error .emptyHost
  else
    let (port, rest) ← splitPort? kind afterHost
    if host.isNone && !credentials.isEmpty then .error .emptyHost
    else
      .ok ({ scheme := scheme, user := credentials.user, password := credentials.password,
             host := host, port := port }, rest)

theorem mem_credentials? {a after : List Char} {credentials : Credentials}
    (h : credentials? a = .ok (credentials, after)) : ∀ c ∈ after, c ∈ a := by
  rw [credentials?] at h
  split at h
  · obtain ⟨-, rfl⟩ := Prod.mk.inj (Except.ok.inj h)
    exact fun c hc => hc
  · exact absurd h (by simp)
  · rename_i written host _ heq
    obtain ⟨-, rfl⟩ := Prod.mk.inj (Except.ok.inj h)
    rw [Text.splitLast?_append heq]
    exact fun c hc => List.mem_append_right _ hc

/-- **The authority is read by itself, and the path takes all the rest.** -/
theorem ofAuthority?_append (scheme : List Char) {a : List Char}
    (ha : ∀ c ∈ a, kind.endsAuthority c = false)
    {e : Char} (he : kind.endsAuthority e = true) (r : List Char) :
    ofAuthority? scheme kind (a ++ e :: r) =
      (authority? scheme kind a).map fun p => withRest p.1 kind (p.2 ++ e :: r) := by
  have hcolon : e ≠ ':' := by
    rintro rfl
    simp [endsAuthority_iff] at he
  rw [ofAuthority?, authority?]
  rw [splitCredentials?_append ha he]
  cases hcredentials : credentials? a with
  | error error => rfl
  | ok p =>
    obtain ⟨credentials, afterUser⟩ := p
    have hafter : ∀ c ∈ afterUser, kind.endsAuthority c = false := fun c hc =>
      ha c (mem_credentials? hcredentials c hc)
    have hport : ∀ c ∈ (splitHost kind false afterUser).2, kind.endsAuthority c = false :=
      fun c hc =>
      hafter c (mem_splitHost hc)
    simp only [Except.map, bind, Except.bind, splitHost_append hafter he,
      splitPort?_append hport he]
    cases host? kind (splitHost kind false afterUser).1 with
    | error error => rfl
    | ok host =>
      simp only
      have hhead : ((splitHost kind false afterUser).2 ++ e :: r).head? == some ':' ↔
          (splitHost kind false afterUser).2.head? == some ':' := by
        cases (splitHost kind false afterUser).2 with
        | nil => simp [hcolon]
        | cons c s => simp
      cases host with
      | some host =>
        simp only [Option.isNone_some, Bool.false_and, Bool.false_eq_true, if_false]
        cases splitPort? kind (splitHost kind false afterUser).2 <;> rfl
      | none =>
        simp only [Option.isNone_none, Bool.true_and, hhead]
        split
        · rfl
        · cases splitPort? kind (splitHost kind false afterUser).2 with
          | error error => rfl
          | ok q =>
            simp only
            split <;> rfl

/-! ## Putting an authority together -/

/-- A port as it is written behind a host. -/
def portText : Option Nat → List Char
  | some n => ':' :: Nat.toDigits 10 n
  | none => []

theorem toList_port (n : Nat) : (":" ++ toString n).toList = portText (some n) := by
  rw [String.toList_append]
  exact congrArg ([':'] ++ ·) String.toList_ofList

/-- A port, unless the scheme implies it. -/
def explicitPort (kind : SchemeKind) (port : Option Nat) : Option Nat :=
  port.filter fun n => decide (kind ≠ .network n)

/-- Whether a host is scanned as a whole. -/
def Scans (kind : SchemeKind) (h : List Char) : Prop :=
  ∀ rest, (∀ c ∈ rest.head?, c = ':') → splitHost kind false (h ++ rest) = (h, rest)

theorem splitPort?_portText {port : Option Nat} (h : ∀ n ∈ port, n ≤ 65535) :
    splitPort? kind (portText port) = .ok (explicitPort kind port, []) := by
  cases port with
  | none => rfl
  | some n =>
    have hdigits : ∀ c ∈ Nat.toDigits 10 n, c.isDigit := fun c hc => Text.isDigit_of_mem_decimal hc
    have htake : (Nat.toDigits 10 n).takeWhile Char.isDigit = Nat.toDigits 10 n :=
      List.takeWhile_eq_self_iff.2 hdigits
    have hdrop : (Nat.toDigits 10 n).dropWhile Char.isDigit = [] :=
      List.dropWhile_eq_nil_iff.2 hdigits
    have hsmall : ¬65535 < n := Nat.not_lt.2 (h n rfl)
    have hne : (Nat.toDigits 10 n).isEmpty = false := by
      rw [List.isEmpty_eq_false_iff]
      exact Nat.toDigits_ne_nil
    rw [portText, splitPort?]
    simp only [htake, hdrop, List.head?_nil, Option.all_none, if_true]
    rw [portNumber?]
    simp only [Text.decimal_toDigits, hne, Bool.false_or, decide_eq_true_eq]
    rw [if_neg hsmall, explicitPort, Option.filter_some]
    split
    · rename_i heq
      simp only [heq, ne_eq, not_true_eq_false, decide_false, Bool.false_eq_true, if_false]
      rfl
    · rename_i hneq
      simp only [ne_eq, hneq, not_false_eq_true, decide_true, if_true]
      rfl

theorem not_mem_portText {c : Char} (hc : ¬c.isDigit) (hcolon : c ≠ ':') (port : Option Nat) :
    c ∉ portText port := by
  cases port with
  | none => simp [portText]
  | some n =>
    rw [portText, List.mem_cons, not_or]
    refine ⟨hcolon, fun hmem => ?_⟩
    exact hc (Text.isDigit_of_mem_decimal hmem)

theorem not_endsAuthority_portText (kind : SchemeKind) (port : Option Nat) :
    ∀ c ∈ portText port, kind.endsAuthority c = false := by
  intro c hc
  rw [Bool.eq_false_iff, Ne, endsAuthority_iff]
  rintro (rfl | rfl | rfl | ⟨-, rfl⟩)
  all_goals exact not_mem_portText (by decide) (by decide) port hc

theorem splitHost_portText {host : List Char} (hscans : Scans kind host) (port : Option Nat) :
    splitHost kind false (host ++ portText port) = (host, portText port) := by
  refine hscans _ fun c hc => ?_
  cases port with
  | none => exact absurd hc (by simp [portText])
  | some n => exact (Option.some.inj hc).symm

/-- Where a host is written there is one, or an error. -/
theorem host?_ne_none {host : List Char} (hne : host ≠ []) : host? kind host ≠ .ok none := by
  have hmap : ∀ e : Except UrlError Host, e.map some ≠ .ok none := by
    intro e
    cases e <;> simp [Except.map]
  rw [host?, List.isEmpty_eq_false_iff.2 hne]
  split <;> exact hmap _

/-- **A host and a port alone are read back, without credentials.** -/
theorem authority?_host (scheme : List Char) {host : List Char} {port : Option Nat}
    (hne : host ≠ []) (hat : '@' ∉ host) (hscans : Scans kind host)
    (hport : ∀ n ∈ port, n ≤ 65535) :
    authority? scheme kind (host ++ portText port) = (host? kind host).map fun h =>
      ({ scheme := scheme, host := h, port := explicitPort kind port }, []) := by
  have hcredentials : credentials? (host ++ portText port) =
      .ok (⟨[], none⟩, host ++ portText port) := by
    rw [credentials?, Text.splitLast?_none]
    rw [List.mem_append, not_or]
    exact ⟨hat, not_mem_portText (by decide) (by decide) port⟩
  rw [authority?]
  simp only [hcredentials, bind, Except.bind, splitHost_portText hscans]
  cases hhost : host? kind host with
  | error reason => rfl
  | ok h =>
    cases h with
    | none => exact absurd hhost (host?_ne_none hne)
    | some h =>
      simp only [splitPort?_portText hport]
      rfl

/-- **Credentials and a port that were put together are read back, and the host is read between
them.** -/
theorem authority?_parts (scheme : List Char) {user password host : List Char} {port : Option Nat}
    (huser : ':' ∉ user) (hpassword : password ≠ []) (hat : '@' ∉ host) (hscans : Scans kind host)
    (hport : ∀ n ∈ port, n ≤ 65535) :
    authority? scheme kind (user ++ ':' :: password ++ '@' :: (host ++ portText port)) =
      (host? kind host).bind fun
        | some h =>
          .ok ({ scheme := scheme, user := user, password := some password, host := some h,
                           port := explicitPort kind port }, [])
        | none => .error .emptyHost := by
  have hafter : '@' ∉ host ++ portText port := by
    rw [List.mem_append, not_or]
    exact ⟨hat, not_mem_portText (by decide) (by decide) port⟩
  have hread : Credentials.read (user ++ ':' :: password) = ⟨user, some password⟩ := by
    rw [Credentials.read, Text.splitOnce?_append_cons _ huser]
    obtain ⟨c, password, rfl⟩ := List.exists_cons_of_ne_nil hpassword
    rfl
  have hcredentials : credentials? (user ++ ':' :: password ++ '@' :: (host ++ portText port)) =
      .ok (⟨user, some password⟩, host ++ portText port) := by
    rw [credentials?, Text.splitLast?_append_cons _ hafter]
    split
    · rename_i heq
      exact absurd heq (by simp)
    · rename_i heq
      have := (Prod.mk.inj (Option.some.inj heq)).1
      exact absurd this (by simp)
    · rename_i heq
      obtain ⟨rfl, rfl⟩ := Prod.mk.inj (Option.some.inj heq)
      rw [hread]
  rw [authority?]
  simp only [hcredentials, bind, Except.bind, splitHost_portText hscans]
  cases host? kind host with
  | error reason => rfl
  | ok h =>
    cases h with
    | some h =>
      simp only [splitPort?_portText hport]
      rfl
    | none =>
      -- Credentials without a host are an error, whether or not a port follows.
      have hsome : (⟨user, some password⟩ : Credentials).isEmpty = false := Bool.and_false _
      simp only [splitPort?_portText hport, hsome]
      split <;> rfl

/-! ## Taking an authority apart -/

/-- Without an `@` there is no name in front of the host. -/
theorem user_of_not_mem {scheme a : List Char} {url : Url} {rest : List Char} (hat : '@' ∉ a)
    (h : authority? scheme kind a = .ok (url, rest)) : url.user = [] := by
  have hcredentials : credentials? a = .ok (⟨[], none⟩, a) := by
    rw [credentials?, Text.splitLast?_none hat]
  rw [authority?] at h
  simp only [hcredentials, bind, Except.bind] at h
  split at h
  · exact absurd h (by simp)
  · split at h
    · exact absurd h (by simp)
    · split at h
      · exact absurd h (by simp)
      · split at h
        · exact absurd h (by simp)
        · rw [← (Prod.mk.inj (Except.ok.inj h)).1]

/-- Where the authority ends before the first `@` there is no name in front of the host. -/
theorem user_of_ends {scheme a rest : List Char} {url : Url} (hat : '@' ∉ a) {c : Char}
    (hc : c ∈ a) (hends : kind.endsAuthority c = true)
    (h : ofAuthority? scheme kind (a ++ rest) = .ok url) : url.user = [] := by
  have hsplit := List.takeWhile_append_dropWhile (p := fun c => !kind.endsAuthority c) (l := a)
  have hhead := List.head?_dropWhile_not (fun c => !kind.endsAuthority c) a
  cases hdrop : a.dropWhile fun c => !kind.endsAuthority c with
  | nil =>
    have := List.dropWhile_eq_nil_iff.1 hdrop c hc
    rw [hends] at this
    exact absurd this (by decide)
  | cons e r =>
    rw [hdrop] at hhead hsplit
    have he : kind.endsAuthority e = true := by simpa using hhead
    have ha : ∀ c ∈ a.takeWhile (fun c => !kind.endsAuthority c), kind.endsAuthority c = false :=
      fun c hc => by simpa using List.mem_takeWhile_imp hc
    rw [← hsplit, List.append_assoc, List.cons_append, ofAuthority?_append _ ha he] at h
    cases hauthority : authority? scheme kind (a.takeWhile fun c => !kind.endsAuthority c) with
    | error reason =>
      rw [hauthority] at h
      exact absurd h (by simp [Except.map])
    | ok p =>
      obtain ⟨base, after⟩ := p
      have hbase : base.user = [] :=
        user_of_not_mem (fun hmem => hat ((List.takeWhile_prefix _).subset hmem)) hauthority
      rw [hauthority] at h
      rw [← Except.ok.inj h]
      exact hbase

theorem splitPort?_bounds {text rest : List Char} {port : Option Nat}
    (h : splitPort? kind text = .ok (port, rest)) :
    ∀ n ∈ port, n ≤ 65535 ∧ kind ≠ .network n := by
  have hnumber : ∀ {digits : List Char} {port : Option Nat}, portNumber? kind digits = .ok port →
      ∀ n ∈ port, n ≤ 65535 ∧ kind ≠ .network n := by
    intro digits port h n hn
    unfold portNumber? at h
    simp only at h
    split at h
    · exact absurd h (by simp)
    · rename_i hle
      split at h
      · rw [← Except.ok.inj h] at hn
        exact absurd hn (by simp)
      · rename_i himplied
        rw [← Except.ok.inj h] at hn
        obtain rfl := Option.some.inj hn
        rw [Bool.or_eq_true, not_or, decide_eq_true_eq] at himplied
        exact ⟨Nat.not_lt.1 hle, himplied.2⟩
  unfold splitPort? at h
  split at h
  · simp only at h
    split at h
    · cases hport : portNumber? kind _ with
      | error reason =>
        rw [hport] at h
        exact absurd h (by simp [Except.map])
      | ok number =>
        rw [hport] at h
        rw [← (Prod.mk.inj (Except.ok.inj h)).1]
        exact hnumber hport
    · exact absurd h (by simp)
  · rw [← (Prod.mk.inj (Except.ok.inj h)).1]
    exact fun n hn => absurd hn (by simp)

/-- Host and port of a URL were read as such. -/
theorem ofAuthority?_ok {scheme text : List Char} {url : Url}
    (h : ofAuthority? scheme kind text = .ok url) :
    (∀ host ∈ url.host, ∃ w, host? kind w = .ok (some host)) ∧
      ∀ n ∈ url.port, n ≤ 65535 ∧ kind ≠ .network n := by
  rw [ofAuthority?] at h
  simp only [bind, Except.bind] at h
  split at h
  · exact absurd h (by simp)
  · split at h
    · exact absurd h (by simp)
    · rename_i host hhost
      split at h
      · exact absurd h (by simp)
      · split at h
        · exact absurd h (by simp)
        · rename_i port hport
          split at h
          · exact absurd h (by simp)
          · rw [← Except.ok.inj h]
            exact ⟨fun g hg => ⟨_, hhost.trans (congrArg Except.ok hg)⟩, splitPort?_bounds hport⟩

end ErrorReport.Url
