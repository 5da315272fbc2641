import ErrorReport.Proofs.Text.Percent
import ErrorReport.Proofs.Url.Address
import ErrorReport.Proofs.Url.Authority
import ErrorReport.Proofs.Url.Domain

/-!
# Hosts, there and back

A host that came out of a URL is printed, and the printed text is put into another URL:
`Host.Rereads` says that the host is found in it again.

* Addresses reread whatever the scheme (`rereads_ipv6`, `rereads_ipv4`).
* So do names that are taken as they are (`rereads_other`).
* A name that is looked up rereads when the conversion to ASCII leaves it alone (`rereads_domain`),
  which is what any rereading comes down to (`isSettled_of_reread`).
-/

set_option autoImplicit false

namespace ErrorReport

open Url SchemeKind

/-- A text in front of a port or a path is taken for the host, as a whole. -/
structure Url.Stands (kind : SchemeKind) (t : List Char) : Prop where
  /-- The text is found whole. -/
  scans : Scans kind t
  /-- Nothing in the text ends the part before the path, or is dropped. -/
  chars : ∀ c ∈ t, kind.endsAuthority c = false ∧ c ≠ '@' ∧ 0x20 < c.toNat

/-- The host, printed and put in front of a port or a path, is read as the same host. -/
structure Host.Rereads (kind : SchemeKind) (h : Host) : Prop extends Url.Stands kind h.text where
  /-- The text alone is read as the host. -/
  reads : host? kind h.text = .ok (some h)

namespace Url

variable {kind : SchemeKind}

/-! ## Finding the end of a host -/

theorem splitHost_ends (rest : List Char) (hrest : ∀ c ∈ rest.head?, c = ':') :
    splitHost kind false rest = ([], rest) := by
  cases rest with
  | nil => rfl
  | cons c rest =>
    obtain rfl := hrest c rfl
    rw [splitHost]
    simp

/-- A name is found whole: no character of it ends a host or opens a bracket. -/
theorem scans_name {h : List Char} (hends : ∀ c ∈ h, kind.endsAuthority c = false)
    (hcolon : ':' ∉ h) (hbracket : '[' ∉ h) : Scans kind h := by
  intro rest hrest
  induction h with
  | nil => exact splitHost_ends rest hrest
  | cons c h ih =>
    have hc := hends c List.mem_cons_self
    have hne : (c == ':') = false := by
      rw [beq_eq_false_iff_ne]
      rintro rfl
      exact hcolon List.mem_cons_self
    have hopen : (c == '[') = false := by
      rw [beq_eq_false_iff_ne]
      rintro rfl
      exact hbracket List.mem_cons_self
    have hh := ih (fun d hd => hends d (List.mem_cons_of_mem _ hd))
      (fun hd => hcolon (List.mem_cons_of_mem _ hd))
      (fun hd => hbracket (List.mem_cons_of_mem _ hd))
    rw [List.cons_append, splitHost, hc, hne, hopen]
    simp only [Bool.not_false, Bool.and_true, Bool.or_false, Bool.false_eq_true, if_false,
      Bool.false_and]
    rw [hh]

theorem splitHost_inBrackets {t : List Char} (hends : ∀ c ∈ t, kind.endsAuthority c = false)
    (hclose : ']' ∉ t) (rest : List Char) (hrest : ∀ c ∈ rest.head?, c = ':') :
    splitHost kind true (t ++ ']' :: rest) = (t ++ [']'], rest) := by
  induction t with
  | nil =>
    have hbracket : kind.endsAuthority ']' = false := by
      rw [Bool.eq_false_iff, Ne, endsAuthority_iff]
      simp
    rw [List.nil_append, splitHost, hbracket]
    simp only [Bool.not_true, Bool.and_false, Bool.or_false, Bool.false_eq_true, if_false,
      bne_self_eq_false]
    rw [show (']' == '[') = false from rfl, splitHost_ends rest hrest]
    rfl
  | cons c t ih =>
    have hc := hends c List.mem_cons_self
    have hne : (c != ']') = true := by
      rw [bne_iff_ne]
      rintro rfl
      exact hclose List.mem_cons_self
    have ht := ih (fun d hd => hends d (List.mem_cons_of_mem _ hd))
      (fun hd => hclose (List.mem_cons_of_mem _ hd))
    rw [List.cons_append, splitHost, hc, hne]
    simp only [Bool.not_true, Bool.and_false, Bool.or_false, Bool.false_eq_true, if_false,
      Bool.and_self, Bool.or_true]
    rw [ht]
    rfl

/-- An address in brackets is found whole, its colons included. -/
theorem scans_bracketed {t : List Char} (hends : ∀ c ∈ t, kind.endsAuthority c = false)
    (hclose : ']' ∉ t) :
    Scans kind ('[' :: t ++ [']']) := by
  intro rest hrest
  have hbracket : kind.endsAuthority '[' = false := by
    rw [Bool.eq_false_iff, Ne, endsAuthority_iff]
    simp
  rw [List.append_assoc, List.singleton_append, List.cons_append, splitHost, hbracket]
  simp only [show ('[' == ':') = false from rfl, Bool.false_and, Bool.or_false, Bool.false_eq_true,
    if_false, beq_self_eq_true]
  rw [splitHost_inBrackets hends hclose rest hrest]
  rfl

/-! ## Addresses -/

theorem Ipv6.mem_text {groups : List Nat} {c : Char} (h : c ∈ Ipv6.text groups) :
    (Text.Hex.value? c).isSome ∨ c = ':' := by
  have hside : ∀ {part : List Nat}, c ∈ Ipv6.groupsText part → (Text.Hex.value? c).isSome ∨
      c = ':' := by
    intro part hc
    rcases Text.mem_joinWith hc with hc | ⟨digits, hdigits, hc⟩
    · exact .inr (List.mem_singleton.1 hc)
    · obtain ⟨g, -, rfl⟩ := List.mem_map.1 hdigits
      exact .inl (Ipv6.mem_minimal hc)
  rw [Ipv6.text] at h
  simp only at h
  split at h
  · exact hside h
  · rcases List.mem_append.1 h with h | h
    · rcases List.mem_append.1 h with h | h
      · exact hside h
      · exact .inr (by simpa using h)
    · exact hside h

/-- The characters of a hexadecimal number are nothing that a URL looks for. -/
theorem of_isSome_value? {c : Char} (h : (Text.Hex.value? c).isSome) :
    c ≠ '/' ∧ c ≠ '?' ∧ c ≠ '#' ∧ c ≠ '\\' ∧ c ≠ '@' ∧ c ≠ ']' ∧ c ≠ ':' ∧ c ≠ '[' ∧
    0x20 < c.toNat := by
  refine ⟨?_, ?_, ?_, ?_, ?_, ?_, ?_, ?_, ?_⟩
  on_goal 9 =>
    rw [Text.Hex.value?] at h
    by_contra hle
    rw [if_neg (by omega), if_neg (by omega), if_neg (by omega)] at h
    exact absurd h (by decide)
  all_goals
    rintro rfl
    exact absurd h (by decide)

end Url

namespace Host

variable {kind : SchemeKind}

/-- An address in brackets means the same for every sort of scheme. -/
theorem host?_bracketed (kind : SchemeKind) (rest : List Char) :
    host? kind ('[' :: rest) = (ofBracketed? rest).map some := by
  rw [host?]
  split <;> rfl

theorem ofBracketed?_groups {rest : List Char} {h : Host} (hread : ofBracketed? rest = .ok h) :
    ∃ groups, h = .ipv6 groups ∧ groups.length = 8 ∧ ∀ g ∈ groups, g < 65536 := by
  rw [ofBracketed?] at hread
  split at hread
  · split at hread
    · rename_i groups hgroups
      exact ⟨groups, (Except.ok.inj hread).symm, Url.Ipv6.read?_bounds hgroups⟩
    · exact absurd hread (by simp)
  · exact absurd hread (by simp)

theorem stands_ipv6 (kind : SchemeKind) (groups : List Nat) : Stands kind (ipv6 groups).text := by
  have hchars : ∀ c ∈ Url.Ipv6.text groups, c ≠ '/' ∧ c ≠ '?' ∧ c ≠ '#' ∧ c ≠ '\\' ∧ c ≠ '@' ∧
      c ≠ ']' ∧
      0x20 < c.toNat := by
    intro c hc
    rcases Url.Ipv6.mem_text hc with hc | rfl
    · obtain ⟨h1, h2, h3, h4, h5, h6, -, -, h7⟩ := of_isSome_value? hc
      exact ⟨h1, h2, h3, h4, h5, h6, h7⟩
    · decide
  have hends : ∀ c ∈ Url.Ipv6.text groups, kind.endsAuthority c = false := by
    intro c hc
    obtain ⟨h1, h2, h3, h4, -⟩ := hchars c hc
    rw [Bool.eq_false_iff, Ne, endsAuthority_iff]
    tauto
  refine ⟨?_, ?_⟩
  · exact scans_bracketed hends fun hmem => (hchars _ hmem).2.2.2.2.2.1 rfl
  · intro c hc
    rw [text, List.cons_append, List.mem_cons, List.mem_append, List.mem_singleton] at hc
    rcases hc with rfl | hc | rfl
    · exact ⟨by rw [Bool.eq_false_iff, Ne, endsAuthority_iff]; simp, by decide, by decide⟩
    · exact ⟨hends c hc, (hchars c hc).2.2.2.2.1, (hchars c hc).2.2.2.2.2.2⟩
    · exact ⟨by rw [Bool.eq_false_iff, Ne, endsAuthority_iff]; simp, by decide, by decide⟩

theorem rereads_ipv6 (kind : SchemeKind) {groups : List Nat} (hlength : groups.length = 8)
    (hbound : ∀ g ∈ groups, g < 65536) : (ipv6 groups).Rereads kind := by
  refine ⟨stands_ipv6 kind groups, ?_⟩
  rw [text, List.cons_append, host?_bracketed, ofBracketed?, List.reverse_append,
    List.reverse_singleton, List.singleton_append]
  simp only [List.reverse_reverse, Url.Ipv6.read?_text hlength hbound]
  rfl

/-! ## Names taken as they are -/

theorem isForbidden_iff (c : Char) : isForbidden c = true ↔
    c ∈ ['\x00', '\t', '\n', '\r', ' ', '#', '/', ':', '<', '>', '?', '@', '[', '\\', ']', '^',
    '|'] := by
  rw [isForbidden, List.contains_eq_mem, decide_eq_true_eq]

theorem not_isForbidden_of_isAlphanum {c : Char} (h : c.isAlphanum = true) :
    isForbidden c = false := by
  rw [Bool.eq_false_iff, Ne, isForbidden_iff]
  intro hmem
  simp only [List.mem_cons, List.not_mem_nil, or_false] at hmem
  rcases hmem with rfl | rfl | rfl | rfl | rfl | rfl | rfl | rfl | rfl | rfl | rfl | rfl | rfl |
    rfl | rfl | rfl | rfl <;> exact absurd h (by decide)

theorem ne_of_not_isForbidden {c d : Char} (hc : isForbidden c = false)
    (hd : isForbidden d = true) : c ≠ d := by
  rintro rfl
  exact absurd hd (by simp [hc])

theorem ofOpaque?_name {t : List Char} (h : ∀ c ∈ t, isForbidden c = false ∧
    Text.Percent.isUnprintable c = false) :
    ofOpaque? t = .ok (name t) := by
  have hany : t.any isForbidden = false := List.any_eq_false.2 fun c hc => by simp [(h c hc).1]
  have hself : Text.Percent.encode (fun _ => false) t = t :=
    Text.Percent.encode_eq_self fun c hc => ⟨(h c hc).2, rfl⟩
  unfold ofOpaque?
  split
  · exact absurd (h '[' List.mem_cons_self).1 (by decide)
  · rw [hany, hself]
    rfl

theorem stands_other {t : List Char}
    (h : ∀ c ∈ t, isForbidden c = false ∧ Text.Percent.isUnprintable c = false) :
    Stands .other t := by
  have hends : ∀ c ∈ t, SchemeKind.other.endsAuthority c = false := by
    intro c hc
    have hc' := (h c hc).1
    rw [Bool.eq_false_iff, Ne, endsAuthority_iff]
    rintro (rfl | rfl | rfl | ⟨habsurd, -⟩)
    · exact absurd hc' (by decide)
    · exact absurd hc' (by decide)
    · exact absurd hc' (by decide)
    · exact absurd habsurd (by decide)
  refine ⟨?_, ?_⟩
  · exact scans_name hends (fun hmem => absurd (h _ hmem).1 (by decide)) fun hmem =>
      absurd (h _ hmem).1 (by decide)
  · intro c hc
    obtain ⟨hforbidden, hprint⟩ := h c hc
    refine ⟨hends c hc, ne_of_not_isForbidden hforbidden (by decide), ?_⟩
    have hspace : c.toNat ≠ 0x20 := by
      intro heq
      exact ne_of_not_isForbidden hforbidden (show isForbidden ' ' = true by decide)
        (Char.toNat_inj.1 heq)
    simp only [Text.Percent.isUnprintable, Bool.or_eq_false_iff, decide_eq_false_iff_not] at hprint
    omega

theorem rereads_other {t : List Char} (hne : t ≠ [])
    (h : ∀ c ∈ t, isForbidden c = false ∧ Text.Percent.isUnprintable c = false) :
    (name t).Rereads .other := by
  have hempty : t.isEmpty = false := List.isEmpty_eq_false_iff.2 hne
  refine ⟨stands_other h, ?_⟩
  rw [text, host?, hempty, ofOpaque?_name h]
  rfl

/-- What is taken as it is: an address, or printable characters none of which is forbidden. -/
theorem ofOpaque?_cases {w : List Char} {h : Host} (hread : ofOpaque? w = .ok h) :
    (∃ groups, h = ipv6 groups ∧ groups.length = 8 ∧ ∀ g ∈ groups, g < 65536) ∨
      ∃ t, h = name t ∧ (w ≠ [] → t ≠ []) ∧
        ∀ c ∈ t, isForbidden c = false ∧ Text.Percent.isUnprintable c = false := by
  unfold ofOpaque? at hread
  split at hread
  · exact .inl (ofBracketed?_groups hread)
  · split at hread
    · exact absurd hread (by simp)
    · rename_i hany
      refine .inr ⟨_, (Except.ok.inj hread).symm, Text.Percent.encode_ne_nil, fun c hc => ?_⟩
      obtain ⟨hkind, hlow, hhigh⟩ := Text.Percent.mem_encode hc
      refine ⟨?_, ?_⟩
      · rcases hkind with rfl | halnum | ⟨hmem, -⟩
        · decide
        · exact not_isForbidden_of_isAlphanum halnum
        · exact List.any_eq_false.1 (Bool.eq_false_iff.2 hany) c hmem |> Bool.eq_false_iff.2
      · simp only [Text.Percent.isUnprintable, Bool.or_eq_false_iff, decide_eq_false_iff_not]
        omega

/-! ## Names that are looked up -/

/-- Without brackets and escapes, a host is converted just as it is written. -/
theorem ofDomain?_eq {t : List Char} (hchars : ∀ c ∈ t, Idna.isForbidden c = false) :
    ofDomain? t = match Idna.toAscii? t with
      | some ascii => ofAscii? ascii
      | none => .error .invalidInternationalName := by
  have hpercent : '%' ∉ t := fun hmem => absurd (hchars _ hmem) (by decide)
  have hdecode : Text.decode? (Text.Percent.decode t) = some t := by
    rw [Text.Percent.decode_of_not_mem hpercent, Text.decode?_utf8]
  unfold ofDomain?
  split
  · exact absurd (hchars _ List.mem_cons_self) (by decide)
  · have hbind : (Text.decode? (Text.Percent.decode t)).bind Idna.toAscii? = Idna.toAscii? t := by
      rw [hdecode, Option.bind_some]
    cases hascii : Idna.toAscii? t <;> simp only [hbind, hascii]

theorem host?_special (hspecial : kind.isSpecial = true) {t : List Char} (hne : t ≠ []) :
    host? kind t = (ofDomain? t).map some := by
  rw [host?, if_pos hspecial, if_neg]
  rw [List.isEmpty_iff]
  exact hne

theorem stands_ascii {t : List Char} (h : ∀ c ∈ t, Idna.isForbidden c = false) : Stands kind t := by
  have hne : ∀ d, Idna.isForbidden d = true → d ∉ t := fun d hd hmem => by
    rw [h d hmem] at hd
    exact absurd hd (by decide)
  have hends : ∀ c ∈ t, kind.endsAuthority c = false := by
    intro c hc
    rw [Bool.eq_false_iff, Ne, endsAuthority_iff]
    rintro (rfl | rfl | rfl | ⟨-, rfl⟩)
    all_goals exact hne _ (by decide) hc
  refine ⟨scans_name hends (hne _ (by decide)) (hne _ (by decide)),
    fun c hc => ⟨hends c hc, ?_, ?_⟩⟩
  · rintro rfl
    exact hne _ (by decide) hc
  · have := h c hc
    simp only [Idna.isForbidden, Bool.or_eq_false_iff, decide_eq_false_iff_not] at this
    omega

/-- The text of a host that is looked up stands in a URL as it is. -/
theorem rereads_ascii (hspecial : kind.isSpecial = true) {h : Host} (hne : h.text ≠ [])
    (hascii : Idna.toAscii? h.text = some h.text) (hread : ofAscii? h.text = .ok h) :
    h.Rereads kind := by
  have hchars := Idna.not_isForbidden hascii
  refine ⟨stands_ascii hchars, ?_⟩
  rw [host?_special hspecial hne, ofDomain?_eq hchars, hascii]
  simp only [hread]
  rfl

theorem rereads_domain (hspecial : kind.isSpecial = true) {t : List Char} (hne : t ≠ [])
    (hnumber : Ipv4.endsInNumber t = false) (hascii : Idna.toAscii? t = some t) :
    (name t).Rereads kind := by
  refine rereads_ascii hspecial hne hascii ?_
  rw [text, ofAscii?, hnumber, List.isEmpty_eq_false_iff.2 hne]
  rfl

theorem toAscii?_ipv4 (address : Nat) :
    Idna.toAscii? (Ipv4.text address) = some (Ipv4.text address) := by
  refine Idna.toAscii?_eq_self (Idna.isPlain_of_isAlphanum fun c hc => ?_) fun c hc => ?_
  · rcases Ipv4.mem_text hc with h | h
    · exact .inl (Text.isAlphanum_of_isDigit h)
    · exact .inr h
  · rcases Ipv4.mem_text hc with h | rfl
    · exact ⟨Idna.not_isForbidden_of_isAlphanum (Text.isAlphanum_of_isDigit h),
        Text.toLower_of_not_isUpper (Text.not_isUpper_of_isDigit h)⟩
    · decide

theorem rereads_ipv4 (hspecial : kind.isSpecial = true) {address : Nat}
    (hbound : address < 2 ^ 32) :
    (ipv4 address).Rereads kind := by
  have hne : Ipv4.text address ≠ [] := by
    intro hnil
    have := Ipv4.endsInNumber_text address
    rw [hnil] at this
    exact absurd this (by decide)
  refine rereads_ascii hspecial hne (toAscii?_ipv4 address) ?_
  rw [text, ofAscii?, Ipv4.endsInNumber_text, List.isEmpty_eq_false_iff.2 hne,
    Ipv4.read?_text hbound]
  rfl

/-- What is looked up is an address, or a name without forbidden characters that is not meant as
one. -/
theorem ofDomain?_cases {w : List Char} {h : Host} (hread : ofDomain? w = .ok h) :
    (∃ groups, h = ipv6 groups ∧ groups.length = 8 ∧ ∀ g ∈ groups, g < 65536) ∨
      (∃ address, h = ipv4 address ∧ address < 2 ^ 32) ∨
      ∃ t, h = name t ∧ t ≠ [] ∧ Ipv4.endsInNumber t = false ∧
        ∀ c ∈ t, Idna.isForbidden c = false := by
  unfold ofDomain? at hread
  split at hread
  · exact .inl (ofBracketed?_groups hread)
  · right
    split at hread
    · rename_i ascii heq
      obtain ⟨name, -, hascii⟩ := Option.bind_eq_some_iff.1 heq
      rw [ofAscii?] at hread
      split at hread
      · exact absurd hread (by simp)
      · rename_i hempty
        split at hread
        · split at hread
          · rename_i address haddress
            exact .inl ⟨address, (Except.ok.inj hread).symm, Ipv4.read?_lt haddress⟩
          · exact absurd hread (by simp)
        · rename_i hnumber
          refine .inr ⟨ascii, (Except.ok.inj hread).symm, ?_, by simpa using hnumber,
            Idna.not_isForbidden hascii⟩
          rintro rfl
          exact hempty rfl
    · exact absurd hread (by simp)

/-! ## Hosts that were read -/

/-- Whether the text of a host is looked up under itself. -/
def IsSettled (kind : SchemeKind) (written : List Char) : Prop :=
  kind.isSpecial = true → written.head? = some '[' ∨ Idna.toAscii? written = some written

instance (kind : SchemeKind) (written : List Char) : Decidable (IsSettled kind written) :=
  inferInstanceAs (Decidable (_ → _))

theorem host?_some {w : List Char} {h : Host} (hread : host? kind w = .ok (some h)) :
    w ≠ [] ∧ if kind.isSpecial then ofDomain? w = .ok h else ofOpaque? w = .ok h := by
  have hmap : ∀ {e : Except UrlError Host}, e.map some = .ok (some h) → e = .ok h := by
    intro e he
    cases e with
    | error _ => exact absurd he (by simp [Except.map])
    | ok g => simpa [Except.map] using he
  rw [host?] at hread
  split
  · rename_i hspecial
    rw [if_pos hspecial] at hread
    split at hread
    · exact absurd hread (by simp)
    · rename_i hempty
      exact ⟨fun hnil => hempty (hnil ▸ rfl), hmap hread⟩
  · rename_i hspecial
    rw [if_neg hspecial] at hread
    split at hread
    · exact absurd hread (by simp)
    · rename_i hempty
      exact ⟨fun hnil => hempty (hnil ▸ rfl), hmap hread⟩

theorem text_ne_nil {w : List Char} {h : Host} (hread : host? kind w = .ok (some h)) :
    h.text ≠ [] := by
  obtain ⟨hne, hread⟩ := host?_some hread
  split at hread
  · rcases ofDomain?_cases hread with ⟨groups, rfl, -⟩ | ⟨address, rfl, -⟩ | ⟨t, rfl, ht, -⟩
    · simp [text]
    · intro hnil
      have := Ipv4.endsInNumber_text address
      rw [text] at hnil
      rw [hnil] at this
      exact absurd this (by decide)
    · exact ht
  · rcases ofOpaque?_cases hread with ⟨groups, rfl, -⟩ | ⟨t, rfl, ht, -⟩
    · simp [text]
    · exact ht hne

/-- Whatever host was read, its text is taken for the host again. -/
theorem stands_of_read {w : List Char} {h : Host} (hread : host? kind w = .ok (some h))
    (hfile : kind ≠ .file) :
    Stands kind h.text := by
  obtain ⟨-, hcases⟩ := host?_some hread
  split at hcases
  · rcases ofDomain?_cases hcases with ⟨groups, rfl, -⟩ | ⟨address, rfl, -⟩ | ⟨t, rfl, -, -, hchars⟩
    · exact stands_ipv6 kind groups
    · exact stands_ascii (Idna.not_isForbidden (toAscii?_ipv4 address))
    · exact stands_ascii hchars
  · rename_i hspecial
    obtain rfl : kind = .other := by
      cases kind with
      | network port => exact absurd rfl hspecial
      | file => exact absurd rfl hfile
      | other => rfl
    rcases ofOpaque?_cases hcases with ⟨groups, rfl, -⟩ | ⟨t, rfl, -, hchars⟩
    · exact stands_ipv6 _ groups
    · exact stands_other hchars

/-- **A host that was read from a URL rereads, if it is settled.** -/
theorem rereads_of_read {w : List Char} {h : Host} (hread : host? kind w = .ok (some h))
    (hsettled : IsSettled kind h.text) (hfile : kind ≠ .file) : h.Rereads kind := by
  obtain ⟨hne, hcases⟩ := host?_some hread
  split at hcases
  · rename_i hspecial
    rcases ofDomain?_cases hcases with ⟨groups, rfl, hlength, hbound⟩ | ⟨address, rfl, hbound⟩ |
      ⟨t, rfl, ht, hnumber, hchars⟩
    · exact rereads_ipv6 kind hlength hbound
    · exact rereads_ipv4 hspecial hbound
    · refine rereads_domain hspecial ht hnumber ((hsettled hspecial).resolve_left fun hhead => ?_)
      have hmem : '[' ∈ t := List.mem_of_mem_head? hhead
      exact absurd (hchars _ hmem) (by decide)
  · rename_i hspecial
    obtain rfl : kind = .other := by
      cases kind with
      | network port => exact absurd rfl hspecial
      | file => exact absurd rfl hfile
      | other => rfl
    rcases ofOpaque?_cases hcases with ⟨groups, rfl, hlength, hbound⟩ | ⟨t, rfl, ht, hchars⟩
    · exact rereads_ipv6 _ hlength hbound
    · exact rereads_other (ht hne) hchars

/-- Only a settled host comes back with the same text. -/
theorem isSettled_of_reread {w : List Char} {h again : Host} (hread : host? kind w = .ok (some h))
    (hagain : host? kind h.text = .ok (some again)) (htext : again.text = h.text) :
    IsSettled kind h.text := by
  intro hspecial
  obtain ⟨-, hcases⟩ := host?_some hread
  obtain ⟨hne, hcases'⟩ := host?_some hagain
  rw [if_pos hspecial] at hcases hcases'
  rcases ofDomain?_cases hcases with ⟨groups, rfl, -⟩ | ⟨address, rfl, -⟩ | ⟨t, rfl, -, hnumber,
      hchars⟩
  · exact .inl rfl
  · exact .inr (toAscii?_ipv4 address)
  · right
    rw [text] at hcases' htext ⊢
    rw [ofDomain?_eq hchars] at hcases'
    split at hcases'
    · rename_i ascii hascii
      rw [hascii]
      rw [ofAscii?] at hcases'
      split at hcases'
      · exact absurd hcases' (by simp)
      · split at hcases'
        · split at hcases'
          · rename_i address _
            rw [← Except.ok.inj hcases', text] at htext
            rw [← htext, Ipv4.endsInNumber_text] at hnumber
            exact absurd hnumber (by decide)
          · exact absurd hcases' (by simp)
        · rw [← Except.ok.inj hcases'] at htext
          exact congrArg some htext
    · exact absurd hcases' (by simp)

/-! ## Names of letters -/

theorem part?_letters {label : List Char} (hne : label ≠ []) (h : ∀ c ∈ label, c.isLower = true) :
    Ipv4.part? label = none := by
  obtain ⟨c, label, rfl⟩ := List.exists_cons_of_ne_nil hne
  have hc := h c List.mem_cons_self
  have hzero : c ≠ '0' := by
    rintro rfl
    exact absurd hc (by decide)
  rw [Text.isLower_iff] at hc
  have hdigit :
      ((Text.Hex.value? c).bind fun d => if d < 10 then some (0 * 10 + d) else none) = none := by
    rw [Text.Hex.value?]
    rw [if_neg (by omega)]
    split
    · rw [Option.bind_some, if_neg (by omega)]
    · rw [if_neg (by omega)]
      rfl
  unfold Ipv4.part?
  split
  · rfl
  · rename_i heq
    exact absurd (List.cons.inj heq).1 hzero
  · rw [Ipv4.digitsValue?, List.foldlM_cons, hdigit]
    rfl

/-- A name of labels of small letters is not meant as an address. -/
theorem endsInNumber_letters {labels : List (List Char)} (hne : labels ≠ [])
    (h : ∀ label ∈ labels, label ≠ [] ∧ ∀ c ∈ label, c.isLower = true) :
    Ipv4.endsInNumber (Text.joinWith ['.'] labels) = false := by
  have hdot : ∀ label ∈ labels, ∀ c ∈ label, (c == '.') = false := by
    intro label hlabel c hc
    rw [beq_eq_false_iff_ne]
    rintro rfl
    exact absurd ((h label hlabel).2 _ hc) (by decide)
  have hlast := List.getLast?_eq_some_getLast hne
  obtain ⟨hlastne, hletters⟩ := h _ (List.getLast_mem hne)
  have hparts : Ipv4.parts (Text.joinWith ['.'] labels) = labels := by
    have hpieces : Text.pieces (· == '.') (Text.joinWith ['.'] labels) = labels :=
      Text.pieces_joinWith hne hdot (by decide)
    rw [Ipv4.parts]
    simp only [hpieces]
    rw [if_neg]
    rintro ⟨-, hnil⟩
    rw [hlast] at hnil
    exact hlastne (Option.some.inj hnil)
  have hall : (labels.getLast hne).all Char.isDigit = false := by
    obtain ⟨c, rest, heq⟩ := List.exists_cons_of_ne_nil hlastne
    rw [heq] at hletters ⊢
    rw [List.all_cons, Text.not_isDigit_of_isLower (hletters c List.mem_cons_self), Bool.false_and]
  rw [Ipv4.endsInNumber, hparts, hlast]
  simp only [hall, part?_letters hlastne hletters, Option.isSome_none, Bool.or_false,
    Bool.and_false]

/-- **Dots between labels of small letters make a name that rereads under any scheme.** -/
theorem rereads_letters (hfile : kind ≠ .file) {labels : List (List Char)} (hne : labels ≠ [])
    (h : ∀ label ∈ labels, label ≠ [] ∧ ∀ c ∈ label, c.isLower = true) :
    (name (Text.joinWith ['.'] labels)).Rereads kind := by
  have hchars : ∀ c ∈ Text.joinWith ['.'] labels, c.isLower = true ∨ c = '.' := by
    intro c hc
    rcases Text.mem_joinWith hc with hc | ⟨label, hlabel, hc⟩
    · exact .inr (List.mem_singleton.1 hc)
    · exact .inl ((h label hlabel).2 c hc)
  have hnil : Text.joinWith ['.'] labels ≠ [] := by
    intro hnil
    have hpieces : Text.pieces (· == '.') (Text.joinWith ['.'] labels) = labels := by
      refine Text.pieces_joinWith hne (fun label hlabel c hc => ?_) (by decide)
      rw [beq_eq_false_iff_ne]
      rintro rfl
      exact absurd ((h label hlabel).2 _ hc) (by decide)
    rw [hnil] at hpieces
    exact (h [] (hpieces ▸ List.mem_singleton_self _)).1 rfl
  cases kind with
  | file => exact absurd rfl hfile
  | network port =>
    refine rereads_domain rfl hnil (endsInNumber_letters hne h)
      (Idna.toAscii?_eq_self ?_ fun c hc => ?_)
    · exact Idna.isPlain_of_isAlphanum fun c hc => (hchars c hc).imp_left Text.isAlphanum_of_isLower
    · rcases hchars c hc with hlower | rfl
      · exact ⟨Idna.not_isForbidden_of_isAlphanum (Text.isAlphanum_of_isLower hlower),
          Text.toLower_of_not_isUpper (Text.not_isUpper_of_isLower hlower)⟩
      · decide
  | other =>
    refine rereads_other hnil fun c hc => ?_
    rcases hchars c hc with hlower | rfl
    · have halnum := Text.isAlphanum_of_isLower hlower
      have hbounds := Text.toNat_of_isAlphanum halnum
      refine ⟨not_isForbidden_of_isAlphanum halnum, ?_⟩
      simp only [Text.Percent.isUnprintable, Bool.or_eq_false_iff, decide_eq_false_iff_not]
      omega
    · decide

end Host

end ErrorReport
