import ErrorReport.Proofs.Dsn.Heading
import ErrorReport.Proofs.Dsn.Tail

/-!
# Accepted descriptors

What is known of a descriptor that was read: the shape of its settings and its scheme
(`Dsn.IsToken`), and where each of its other parts stands in the URL that it was taken from
(`Dsn.HasFront` for what stands up to the host, `Dsn.HasTail` for what follows).  A descriptor is
taken from a URL with its own settings in front if and only if the URL has both
(`Dsn.ofUrl?_self_iff`).
-/

set_option autoImplicit false

namespace ErrorReport

open Url

namespace Dsn

/-! ## From a URL -/

/-- The keys, the host and the port of a URL are those of a descriptor. -/
structure HasFront (d : Dsn) (url : Url) : Prop where
  host : url.host.map Host.text = some d.host.toList
  host_ne : d.host.toList ≠ []
  port : url.port = d.port
  publicKey : Text.Percent.decodeText url.user = d.publicKey.toList
  publicKey_ne : d.publicKey.toList ≠ []
  secretKey : Text.Percent.decodeText (url.password.getD []) = d.secretKey.toList
  secretKey_ne : d.secretKey.toList ≠ []

/-- The parts of a descriptor are all there is to reading it from a URL. -/
theorem ofUrl?_eq_ok_iff {settings : List String} {scheme : List Char} {url : Url} {d : Dsn} :
    ofUrl? settings scheme url = .ok d ↔
      d.scheme.toList = scheme ∧ d.HasFront url ∧
      pathText (withoutSettings (plainSegments url.path)).dropLast = d.path ∧
      (withoutSettings (plainSegments url.path)).getLast? = some d.projectId.toList ∧
      TextSet.ofList (settings ++ trailingSettings (plainSegments url.path)) = d.settings ∧
      Dictionary.ofList url.options = d.options := by
  constructor
  · intro h
    rw [ofUrl?] at h
    split at h
    · exact absurd h (by simp)
    · exact absurd h (by simp)
    · rename_i host hne hhost
      simp only at h
      split at h
      · exact absurd h (by simp)
      · rename_i hpublic
        split at h
        · exact absurd h (by simp)
        · rename_i hsecret
          split at h
          · exact absurd h (by simp)
          · rename_i project hproject
            rw [← Except.ok.inj h]
            refine ⟨String.toList_ofList, ⟨?_, ?_, rfl, ?_, ?_, ?_, ?_⟩, rfl, ?_, rfl, rfl⟩
            · rw [String.toList_ofList]
              exact hhost
            · rw [String.toList_ofList]
              exact hne
            · exact String.toList_ofList.symm
            · rw [String.toList_ofList]
              simpa using hpublic
            · exact String.toList_ofList.symm
            · rw [String.toList_ofList]
              simpa using hsecret
            · rw [String.toList_ofList]
              exact hproject
  · rintro ⟨hscheme, hfront, hpath, hproject, hsettings, hoptions⟩
    obtain ⟨c, host, hhost⟩ := List.exists_cons_of_ne_nil hfront.host_ne
    have hmap := hfront.host
    rw [hhost] at hmap
    have hpublic : d.publicKey.toList.isEmpty = false :=
      List.isEmpty_eq_false_iff.2 hfront.publicKey_ne
    have hsecret : d.secretKey.toList.isEmpty = false :=
      List.isEmpty_eq_false_iff.2 hfront.secretKey_ne
    rw [ofUrl?]
    simp only [hmap, hfront.publicKey, hfront.secretKey, hpublic, hsecret, hproject, hpath,
      hsettings, hoptions, hfront.port, Bool.false_eq_true, if_false, ← hscheme,
      String.ofList_toList]
    rw [← hhost, String.ofList_toList]

theorem ofUrl?_self_iff {url : Url} {d : Dsn} :
    ofUrl? d.settings.toList d.scheme.toList url = .ok d ↔ d.HasFront url ∧ d.HasTail url := by
  rw [ofUrl?_eq_ok_iff]
  constructor
  · rintro ⟨-, hfront, hpath, hproject, hsettings, hoptions⟩
    refine ⟨hfront, hpath, hproject, fun setting hsetting => ?_, hoptions⟩
    rw [← hsettings, TextSet.mem_toList_ofList]
    exact List.mem_append_right _ hsetting
  · rintro ⟨hfront, htail⟩
    refine ⟨rfl, hfront, htail.path, htail.project, TextSet.ofList_eq fun setting => ?_,
      htail.options⟩
    rw [List.mem_append]
    exact ⟨fun h => h.elim id (htail.settings setting), .inl⟩

/-! ## Settings and scheme -/

theorem mem_trailingSettings {segments : List (List Char)} {setting : String}
    (h : setting ∈ trailingSettings segments) : setting ∈ knownSettings.map Text.lower := by
  obtain ⟨s, hs, rfl⟩ := List.mem_map.1 h
  have hset := List.mem_takeWhile_imp hs
  obtain ⟨known, hknown, hsame⟩ := List.any_eq_true.1 hset
  rw [← eq_of_beq hsame]
  exact List.mem_map_of_mem hknown

/-- A text that may be a setting or a scheme. -/
structure IsToken (t : List Char) : Prop where
  ne_nil : t ≠ []
  lower : t.map Char.toLower = t
  plain : '+' ∉ t ∧ ¬Text.marker <:+: t

theorem isToken_lower {t : List Char} (hne : t ≠ []) (h : '+' ∉ t ∧ ¬Text.marker <:+: t) :
    IsToken (t.map Char.toLower) :=
  ⟨by simpa using hne, Text.map_toLower_toLower t, plain_lower h⟩

theorem isToken_known {setting : String} (h : setting ∈ knownSettings.map Text.lower) :
    IsToken setting.toList := by
  obtain rfl := List.mem_singleton.1 h
  refine ⟨by decide, by decide, by decide, fun hfound => ?_⟩
  exact absurd (hfound.subset (show ':' ∈ Text.marker by decide)) (by decide)

/-- What a descriptor that was read was taken from. -/
theorem read?_inv {s : String} {d : Dsn} (h : read? s = .ok d) :
    (∀ t ∈ d.settings.toList.map String.toList ++ [d.scheme.toList], IsToken t) ∧
      ∃ rest url, Url.read? (d.scheme.toList ++ Text.marker ++ rest) = .ok url ∧ d.HasFront url ∧
        (∃ segments, pathText segments = d.path) ∧ isSetting d.projectId.toList = false := by
  rw [read?] at h
  split at h
  · exact absurd h (by simp)
  · rename_i found hfound
    split at h
    · exact absurd h (by simp)
    · rename_i url hurl
      obtain ⟨tokens, scheme, hne, hplain, heq⟩ := splitHeading?_inv hfound
      rw [heq] at h hurl
      obtain ⟨hscheme, hfront, hpath, hproject, hsettings, -⟩ := ofUrl?_eq_ok_iff.1 h
      refine ⟨fun t ht => ?_, found.rest, url, ?_, hfront, ⟨_, hpath⟩, ?_⟩
      · rcases List.mem_append.1 ht with ht | ht
        · obtain ⟨setting, hsetting, rfl⟩ := List.mem_map.1 ht
          rw [← hsettings, TextSet.mem_toList_ofList, List.mem_append] at hsetting
          rcases hsetting with hsetting | hsetting
          · obtain ⟨u, hu, rfl⟩ := List.mem_map.1 hsetting
            obtain ⟨hu, hempty⟩ := List.mem_filter.1 hu
            obtain ⟨t', ht', rfl⟩ := List.mem_map.1 hu
            rw [String.toList_ofList]
            exact isToken_lower (by simpa using hempty) (hplain t' (List.mem_append_left _ ht'))
          · exact isToken_known (mem_trailingSettings hsetting)
        · rw [List.mem_singleton.1 ht, hscheme]
          exact isToken_lower hne (hplain scheme (List.mem_append_right _ List.mem_cons_self))
      · rw [hscheme]
        exact hurl
      · exact isSetting_of_getLast? hproject

end Dsn

end ErrorReport
