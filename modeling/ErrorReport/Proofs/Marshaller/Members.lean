import ErrorReport.Proofs.Marshaller.Document

/-!
# The names in a document

A document has the fields of an event first and its payloads after them, and nothing compares the
names of the ones with those of the others.  A payload may be called what a field is called, and
with a binding for it the document has that name twice (`message_twice`).  This is the only way for
a name to be there twice (`names_nodup_iff`): fields are called what they are called, and no two
payloads of an event have one name.
-/

set_option autoImplicit false

namespace ErrorReport.Marshaller

open Json (Value)

variable {m : Marshaller} {e : Event}

/-- The names of the fields, in the order in which they are written. -/
def fieldNames : List String :=
  ["event_id", "message", "timestamp", "level", "logger", "platform", "culprit", "tags",
    "server_name", "modules", "extra", "checksum"]

theorem names_of_fieldMembers (e : Event) : (fieldMembers e).map (·.1) = fieldNames := rfl

theorem fieldNames_nodup : fieldNames.Nodup := by decide

/-- What is written is a document with the names of the fields and of the payloads with a binding,
in this order. -/
theorem names_of_writeTo {room : Nat} (hdone : (m.writeTo room e).error = none) :
    ∃ members, (m.writeTo room e).taken = m.packed (.object members) ∧
      members.map (·.1) = fieldNames ++ e.payloads.keys.filter m.hasBinding := by
  obtain ⟨members, hmembers, htaken⟩ := taken_eq_packed hdone
  refine ⟨fieldMembers e ++ members, htaken, ?_⟩
  rw [List.map_append, names_of_fieldMembers, names_of_payloadMembers hmembers]
  rfl

/-- **When a document has no name twice.**  The names of a document are those of the fields and,
after them, those of the payloads with a binding.  They are distinct exactly if no payload with a
binding is called what a field is called. -/
theorem names_nodup_iff {room : Nat} (hdone : (m.writeTo room e).error = none) :
    ∃ members, (m.writeTo room e).taken = m.packed (.object members) ∧
      ((∀ member ∈ members, member.2.Bounded) →
        Value.read? (Value.object members).text = some (.object members)) ∧
      members.map (·.1) = fieldNames ++ e.payloads.keys.filter m.hasBinding ∧
      ((members.map (·.1)).Nodup ↔
        ∀ name ∈ e.payloads.keys, m.hasBinding name = true → name ∉ fieldNames) := by
  obtain ⟨members, htaken, hnames⟩ := names_of_writeTo hdone
  refine ⟨members, htaken, fun hbounded => Value.read?_text (.object hbounded), hnames, ?_⟩
  have hpayloads : (e.payloads.keys.filter m.hasBinding).Nodup := e.payloads.keys_nodup.filter _
  rw [hnames, List.nodup_append']
  constructor
  · rintro ⟨-, -, hapart⟩ name hname hbinding hfield
    exact hapart hfield (List.mem_filter.2 ⟨hname, hbinding⟩)
  · refine fun h => ⟨fieldNames_nodup, hpayloads, fun name hfield hpayload => ?_⟩
    obtain ⟨hname, hbinding⟩ := List.mem_filter.1 hpayload
    exact h name hname hbinding hfield

/-- A binding for the payloads of an application's own, which writes what they hold. -/
def ownBinding (name : String) : Binding :=
  .custom fun
    | .custom _ content => .ok content
    | _ => .error (.unexpectedPayload name)

/-- A marshaller that knows the payloads of an application's own under a name. -/
def ownMarshaller (name : String) : Marshaller :=
  { new.bind name (ownBinding name) with compression := false }

/-- An event with a payload of an application's own. -/
def ownEvent (name : String) : Event :=
  { sampleEvent with
    extra := ∅
    payloads := Dictionary.empty.insert name (.custom name (.string "own")) }

theorem names_nodup_sample :
    ((ownMarshaller "gap").writeTo 4096 (ownEvent "gap")).error = none ∧
      ∃ members, ((ownMarshaller "gap").writeTo 4096 (ownEvent "gap")).taken =
          (ownMarshaller "gap").packed (.object members) ∧
        members.map (·.1) = fieldNames ++ ["gap"] ∧ (members.map (·.1)).Nodup := by
  have hdone : ((ownMarshaller "gap").writeTo 4096 (ownEvent "gap")).error = none := by
    decide +kernel
  obtain ⟨members, htaken, -, hnames, hnodup⟩ := names_nodup_iff hdone
  refine ⟨hdone, members, htaken, hnames.trans (by decide +kernel), hnodup.2 ?_⟩
  decide +kernel

/-- A payload that is called like the message of its event is written under that name too. -/
theorem message_twice : ∃ text members,
    Text.decode? ((ownMarshaller "message").writeTo 4096 (ownEvent "message")).taken = some text ∧
      Value.read? text = some (.object members) ∧
      ("message", .ofText? (ownEvent "message").message) ∈ members ∧
      ("message", .string "own") ∈ members ∧ ¬(members.map (·.1)).Nodup := by
  have hdone : ((ownMarshaller "message").writeTo 4096 (ownEvent "message")).error = none := by
    decide +kernel
  obtain ⟨members, hmembers, htaken⟩ := taken_of_writeTo rfl hdone
  obtain rfl : [("message", .string "own")] = members := Except.ok.inj hmembers
  refine ⟨_, _, by rw [htaken, Text.decode?_utf8], Value.read?_text (.object ?_), ?_, ?_, ?_⟩
  · intro member hmember
    rcases List.mem_append.1 hmember with hmember | hmember
    · exact bounded_fieldMembers (List.forall_mem_nil _) member hmember
    · obtain rfl := List.mem_singleton.1 hmember
      exact .string _
  · exact List.mem_append_left _ (.tail _ (.head _))
  · exact List.mem_append_right _ (.head _)
  · rw [List.map_append, names_of_fieldMembers]
    decide

end ErrorReport.Marshaller
