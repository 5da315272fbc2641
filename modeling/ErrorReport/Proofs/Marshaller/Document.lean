import ErrorReport.Proofs.Dictionary
import ErrorReport.Proofs.Json.RoundTrip
import ErrorReport.Proofs.Marshaller.Written
import ErrorReport.Proofs.Text.Utf8

/-!
# What a written event says

Without compression, what a marshaller writes is read back as an object that has the fields of the
event first, in a fixed order, and then one member for each payload with a binding
(`writeTo_reads_back`).  The bytes are those of a text, the text is that of a value, and the value
is the document, so all that is left to show here is what the document is made of.
-/

set_option autoImplicit false

namespace ErrorReport.Marshaller

open Json (Value)

variable {m : Marshaller} {e : Event}

/-! ## The members for payloads -/

/-- Where no binding refuses, the names are those with a binding, in the order of the payloads. -/
theorem names_of_payloadMembers {entries : List (String × Payload)}
    {members : List (String × Value)} (h : (m.payloadMembers entries).1 = .ok members) :
    members.map (·.1) = (entries.map (·.1)).filter m.hasBinding := by
  induction entries generalizing members with
  | nil =>
    obtain rfl := Except.ok.inj h
    rfl
  | cons entry entries ih =>
    obtain ⟨name, payload⟩ := entry
    rw [payloadMembers] at h
    rw [List.map_cons, List.filter_cons]
    cases hget : m.bindings.get? name with
    | none =>
      have hno : m.hasBinding name = false := by rw [hasBinding, Dictionary.contains, hget]; rfl
      rw [hget] at h
      rw [hno]
      exact ih h
    | some binding =>
      have hhas : m.hasBinding name = true := by rw [hasBinding, Dictionary.contains, hget]; rfl
      rw [hget] at h
      rw [hhas]
      cases hwrite : binding.write payload with
      | error error =>
        simp only [hwrite] at h
        exact absurd h (by simp)
      | ok value =>
        simp only [hwrite] at h
        cases hrest : (m.payloadMembers entries).1 with
        | error error => rw [hrest] at h; exact absurd h (by simp [Except.map])
        | ok rest =>
          rw [hrest] at h
          obtain rfl := Except.ok.inj h
          rw [List.map_cons, ih hrest]
          rfl

/-- Each member has the value that the binding of its name wrote for the payload of its name. -/
theorem value_of_payloadMembers {entries : List (String × Payload)}
    {members : List (String × Value)}
    (h : (m.payloadMembers entries).1 = .ok members) {name : String} {value : Value}
    (hmem : (name, value) ∈ members) :
    ∃ payload binding, (name, payload) ∈ entries ∧ m.bindings.get? name = some binding ∧
      binding.write payload = .ok value := by
  induction entries generalizing members with
  | nil =>
    obtain rfl := Except.ok.inj h
    exact absurd hmem (by simp)
  | cons entry entries ih =>
    obtain ⟨first, payload⟩ := entry
    rw [payloadMembers] at h
    cases hget : m.bindings.get? first with
    | none =>
      rw [hget] at h
      obtain ⟨p, b, hp, hb⟩ := ih h hmem
      exact ⟨p, b, List.mem_cons_of_mem _ hp, hb⟩
    | some binding =>
      rw [hget] at h
      cases hwrite : binding.write payload with
      | error error =>
        simp only [hwrite] at h
        exact absurd h (by simp)
      | ok written =>
        simp only [hwrite] at h
        cases hrest : (m.payloadMembers entries).1 with
        | error error => rw [hrest] at h; exact absurd h (by simp [Except.map])
        | ok rest =>
          rw [hrest] at h
          obtain rfl := Except.ok.inj h
          rcases List.mem_cons.1 hmem with heq | hmem
          · obtain ⟨rfl, rfl⟩ := Prod.mk.inj heq
            exact ⟨payload, binding, List.mem_cons_self, hget, hwrite⟩
          · obtain ⟨p, b, hp, hb⟩ := ih hrest hmem
            exact ⟨p, b, List.mem_cons_of_mem _ hp, hb⟩

/-! ## The document -/

theorem bounded_ofText? (s : Option String) : (Value.ofText? s).Bounded := by
  cases s with
  | none => exact .null
  | some s => exact .string s

/-- The fields of an event are values of a document. -/
theorem bounded_fieldMembers (hextra : ∀ entry ∈ e.extra.entries, entry.2.Bounded) :
    ∀ member ∈ fieldMembers e, member.2.Bounded := by
  have htags : (Value.ofDictionary (e.tags.mapValues .string)).Bounded := by
    refine .object fun member hmember => ?_
    obtain ⟨tag, -, rfl⟩ := List.mem_map.1 hmember
    exact .string tag.2
  have hmodules : (Value.object []).Bounded := .object (by simp)
  simp only [fieldMembers, List.forall_mem_cons, List.not_mem_nil, false_imp_iff, implies_true,
    and_true]
  exact ⟨.string _, bounded_ofText? _, .string _, bounded_ofText? _, bounded_ofText? _, .string _,
    bounded_ofText? _, htags, .string _, hmodules, .object hextra, bounded_ofText? _⟩

/-- What a marshaller has written, when it was not stopped. -/
theorem taken_eq_packed {room : Nat} (hdone : (m.writeTo room e).error = none) :
    ∃ members, (m.payloadMembers e.payloads.entries).1 = .ok members ∧
      (m.writeTo room e).taken = m.packed (.object (fieldMembers e ++ members)) := by
  obtain ⟨document, hdocument, htaken⟩ := exists_document_of_writeInto hdone
  obtain ⟨members, hmembers, rfl⟩ := exists_members_of_document? hdocument
  exact ⟨members, hmembers, htaken⟩

/-- Without compression that is the text of the document. -/
theorem taken_of_writeTo {room : Nat} (hplain : m.compression = false)
    (hdone : (m.writeTo room e).error = none) :
    ∃ members, (m.payloadMembers e.payloads.entries).1 = .ok members ∧
      (m.writeTo room e).taken = Text.utf8 (Value.object (fieldMembers e ++ members)).text := by
  obtain ⟨members, hmembers, htaken⟩ := taken_eq_packed hdone
  refine ⟨members, hmembers, ?_⟩
  rw [htaken, packed, hplain]
  rfl

/-- **The written document is read back as the event.**

The integers of the event's own values have 64 bits; whatever else they hold, doubles among it, is
read as it was written. -/
theorem writeTo_reads_back {room : Nat} (hplain : m.compression = false)
    (hdone : (m.writeTo room e).error = none) (hextra : ∀ entry ∈ e.extra.entries, entry.2.Bounded)
    (hbound : ∀ name payload binding value, e.payloads.get? name = some payload →
      m.bindings.get? name = some binding → binding.write payload = .ok value → value.Bounded) :
    ∃ text members, Text.decode? (m.writeTo room e).taken = some text ∧
      Value.read? text = some (.object ([
        ("event_id", .string (String.ofList (e.id.digits.map fun d => Text.Hex.digit d.val))),
        ("message", .ofText? e.message),
        ("timestamp", .string e.timestamp.text),
        ("level", .ofText? (e.level.map Level.name)),
        ("logger", .ofText? e.logger),
        ("platform", .string e.platform),
        ("culprit", .ofText? e.culprit),
        ("tags", .object (e.tags.entries.map fun tag => (tag.1, .string tag.2))),
        ("server_name", .string e.serverName),
        ("modules", .object []),
        ("extra", .object e.extra.entries),
        ("checksum", .ofText? e.checksum)] ++ members)) ∧
      members.map (·.1) = e.payloads.keys.filter m.hasBinding ∧
      members.Pairwise (fun a b => Text.bytesOf a.1 < Text.bytesOf b.1) ∧
      ∀ name value, (name, value) ∈ members →
      ∃ payload binding, e.payloads.get? name = some payload ∧
        m.bindings.get? name = some binding ∧ binding.write payload = .ok value := by
  obtain ⟨members, hmembers, htaken⟩ := taken_of_writeTo hplain hdone
  have hnames : members.map (·.1) = e.payloads.keys.filter m.hasBinding :=
    names_of_payloadMembers hmembers
  have hvalues : ∀ name value, (name, value) ∈ members → ∃ payload binding,
      e.payloads.get? name = some payload ∧ m.bindings.get? name = some binding ∧
        binding.write payload = .ok value := by
    intro name value hmem
    obtain ⟨payload, binding, hentry, hbinding⟩ := value_of_payloadMembers hmembers hmem
    exact ⟨payload, binding, Dictionary.get?_eq_some_iff.2 hentry, hbinding⟩
  have hascending : members.Pairwise (fun a b => Text.bytesOf a.1 < Text.bytesOf b.1) := by
    have hkeys : (members.map (·.1)).Pairwise (· < ·) := by
      rw [hnames]
      exact e.payloads.keys_ascending.filter _
    rw [List.pairwise_map] at hkeys
    exact hkeys.imp fun hlt => Text.bytesOf_lt hlt
  have hbounded : (Value.object (fieldMembers e ++ members)).Bounded := by
    refine .object fun member hmem => ?_
    rcases List.mem_append.1 hmem with hmem | hmem
    · exact bounded_fieldMembers hextra member hmem
    · obtain ⟨payload, binding, hpayload, hbinding, hwrite⟩ := hvalues member.1 member.2 hmem
      exact hbound _ _ _ _ hpayload hbinding hwrite
  refine ⟨(Value.object (fieldMembers e ++ members)).text, members, ?_, ?_, hnames, hascending,
    hvalues⟩
  · rw [htaken]
    exact Text.decode?_utf8 _
  · exact Value.read?_text hbounded

/-- An event with characters of all kinds in its texts, a value of its own and two payloads. -/
def sampleEvent : Event where
  id := ⟨List.replicate 32 (Fin.last 15), rfl⟩
  timestamp := ⟨1000000000, 0⟩
  message := some "a \"quoted\" line\n\x01 \\ é 😀"
  level := some .warning
  logger := none
  platform := "other"
  culprit := none
  serverName := "host"
  tags := Dictionary.empty.insert "k" "v"
  extra := Dictionary.empty.insert "n" (.array [.integer (-3), .object [("", .null)]])
  checksum := none
  payloads := (Dictionary.empty.insert "custom" (.custom "custom" .null)).insert Payload.messageName
    (.message ⟨"gap", [some "x", none]⟩)

/-- A marshaller that knows messages only. -/
def sampleMarshaller : Marshaller :=
  { new.bind Payload.messageName .message with compression := false }

theorem writeTo_reads_back_sample :
    (sampleMarshaller.writeTo 4096 sampleEvent).error = none ∧
      ∃ text value, Text.decode? (sampleMarshaller.writeTo 4096 sampleEvent).taken = some text ∧
        Value.read? text = some
          (.object (fieldMembers sampleEvent ++ [(Payload.messageName, value)])) := by
  have hdone : (sampleMarshaller.writeTo 4096 sampleEvent).error = none := by decide +kernel
  have hextra : ∀ entry ∈ sampleEvent.extra.entries, entry.2.Bounded := by
    intro entry hentry
    obtain rfl := List.mem_singleton.1 hentry
    refine .array fun item hitem => ?_
    rcases List.mem_cons.1 hitem with rfl | hitem
    · exact .integer (by decide) (by decide)
    · obtain rfl := List.mem_singleton.1 hitem
      refine .object fun member hmember => ?_
      obtain rfl := List.mem_singleton.1 hmember
      exact .null
  have hbound : ∀ name payload binding value, sampleEvent.payloads.get? name = some payload →
      sampleMarshaller.bindings.get? name = some binding → binding.write payload = .ok value →
      value.Bounded := by
    intro name payload binding value _ hbinding hwrite
    have hentry := Dictionary.get?_eq_some_iff.1 hbinding
    obtain ⟨-, rfl⟩ := Prod.mk.inj (List.mem_singleton.1 hentry)
    cases payload with
    | message content =>
      obtain rfl := Except.ok.inj hwrite
      refine .object fun member hmember => ?_
      rcases List.mem_cons.1 hmember with rfl | hmember
      · exact .string _
      · obtain rfl := List.mem_singleton.1 hmember
        refine .array fun item hitem => ?_
        obtain ⟨param, -, rfl⟩ := List.mem_map.1 hitem
        exact bounded_ofText? param
    | exception content => exact absurd hwrite (by simp [Binding.write])
    | stackTrace content => exact absurd hwrite (by simp [Binding.write])
    | http content => exact absurd hwrite (by simp [Binding.write])
    | custom name content => exact absurd hwrite (by simp [Binding.write])
  obtain ⟨text, members, htext, hread, hnames, -, -⟩ := writeTo_reads_back rfl hdone hextra hbound
  have hone : members.map (·.1) = [Payload.messageName] := hnames.trans (by decide +kernel)
  obtain ⟨⟨name, value⟩, rfl, rfl⟩ := List.map_eq_singleton_iff.1 hone
  exact ⟨hdone, text, value, htext, hread⟩

end ErrorReport.Marshaller
