import ErrorReport.Proofs.Marshaller.Trace
import ErrorReport.Proofs.Text.Split

/-!
# What a receiver makes of payloads

A receiver has the value that a binding wrote, and takes the payload from it: `Chain.ofValue?`,
`MessagePayload.ofValue?` and `HttpRequest.ofValue?`.  Members are found by their names, in whatever
order they stand.  What is absent is told from what is empty: an absent field of an object has no
member, and an absent parameter of a message is null.

A reader is compared with a writer through the fields of an object (`Value.HasMembers`), so that it
does not matter how the writer comes to its members.  Every payload is read back from its value, and
so no two payloads are written alike (`Binding.write_eq_iff`).  Of the flag `in_app` a receiver makes
nothing here: it is no part of a chain.
-/

set_option autoImplicit false

namespace ErrorReport

open Json (Value)

/-! ## Values and their members -/

namespace Json.Value

section Reading

variable {α : Type} (read? : Value → Option α) (name : String)

/-- A text. -/
def string? : Value → Option String
  | string s => some s
  | _ => none

/-- A natural number. -/
def nat? : Value → Option Nat
  | integer n => n.toNat?
  | _ => none

/-- The items of an array. -/
def items? : Value → Option (List Value)
  | array items => some items
  | _ => none

/-- A value, or null for an absent one. -/
def nullable? : Value → Option (Option α)
  | null => some none
  | v => (read? v).map some

/-- A list of items. -/
def list? (v : Value) : Option (List α) := v.items?.bind (·.mapM read?)

/-- A member that has to be there. -/
def required? (v : Value) : Option α := (v.member? name).bind read?

/-- A member that may be absent. -/
def optional? (v : Value) : Option (Option α) :=
  match v.member? name with
  | some value => (read? value).map some
  | none => some none

/-- The members of an object, by their names. -/
def dictionary? : Value → Option (Dictionary α)
  | object members =>
    (members.mapM fun m => (read? m.2).map (m.1, ·)).map Dictionary.ofList
  | _ => none

end Reading

section Members

variable {α : Type} {read? : Value → Option α} {name : String} {v : Value}
  {fields : List (String × Option Value)}

theorem HasMembers.required?_eq (h : v.HasMembers fields) {a : α} {value : Value}
    (hfield : ∀ other, (name, other) ∈ fields ↔ other = some value) (hread : read? value = some a) :
    v.required? read? name = some a := by
  rw [required?, h.member?_eq hfield, Option.bind_some, hread]

theorem HasMembers.optional?_eq (h : v.HasMembers fields) {a : Option α} {write : α → Value}
    (hfield : ∀ other, (name, other) ∈ fields ↔ other = a.map write)
    (hread : ∀ a, read? (write a) = some a) :
    v.optional? read? name = some a := by
  rw [optional?, h.member?_eq hfield]
  cases a with
  | none => rfl
  | some a => simp [hread]

end Members

@[simp] theorem string?_string (s : String) : (string s).string? = some s := rfl

@[simp] theorem nullable?_ofText? (s : Option String) : (ofText? s).nullable? string? = some s := by
  cases s <;> rfl

@[simp] theorem nat?_nat (n : Nat) : (nat n).nat? = some n := rfl

@[simp] theorem items?_array (items : List Value) : (array items).items? = some items := rfl

section Nested

variable {α : Type} {read? : Value → Option α} {write : α → Value}

/-- A list is read back if its items are. -/
theorem list?_map (hread : ∀ a, read? (write a) = some a) (values : List α) :
    (array (values.map write)).list? read? = some values :=
  Text.mapM_map_eq_some fun a _ => hread a

/-- A dictionary is read back if its values are. -/
theorem dictionary?_ofDictionary (hread : ∀ a, read? (write a) = some a) (d : Dictionary α) :
    (ofDictionary (d.mapValues write)).dictionary? read? = some d := by
  have hmembers : (d.entries.map fun e => (e.1, write e.2)).mapM
      (fun m => (read? m.2).map (m.1, ·)) = some d.entries :=
    Text.mapM_map_eq_some fun e _ => by rw [hread, Option.map_some]
  rw [ofDictionary, dictionary?, Dictionary.mapValues, hmembers, Option.map_some,
    Dictionary.ofList_entries]

end Nested

end Json.Value

/-- Items that are written with regard to their places are read back if each of them is. -/
theorem mapM_mapIdx_eq_some {α β : Type} {read? : α → Option β} {write : Nat → β → α}
    (hread : ∀ i v, read? (write i v) = some v) (values : List β) :
    (values.mapIdx write).mapM read? = some values := by
  induction values generalizing write with
  | nil => rfl
  | cons v values ih =>
    rw [List.mapIdx_cons, List.mapM_cons, hread 0 v, ih fun i => hread (i + 1)]
    rfl

/-! ## Chains -/

/-- A frame. -/
def Frame.ofValue? (v : Value) : Option Frame := do
  let modulePath ← v.required? Value.string? "module"
  let function ← v.required? Value.string? "function"
  let file ← v.optional? Value.string? "filename"
  let line ← v.optional? Value.nat? "lineno"
  return ⟨modulePath, function, file, line⟩

/-- The frames of a stack, which stand the other way round. -/
def StackTrace.framesOfValue? (v : Value) : Option (List Frame) :=
  (v.required? Value.items? "frames").bind fun items => items.reverse.mapM Frame.ofValue?

/-- An error. -/
def Exception.ofValue? (v : Value) : Option Exception := do
  let typeName ← v.required? Value.string? "type"
  let modulePath ← v.optional? Value.string? "module"
  let message ← v.required? Value.string? "value"
  let frames ← v.required? StackTrace.framesOfValue? "stacktrace"
  return ⟨typeName, modulePath, message, frames⟩

/-- A chain of errors. -/
def Chain.ofValue? (v : Value) : Option Chain :=
  (v.list? Exception.ofValue?).map Chain.mk

theorem Frame.ofValue?_of_hasMembers {v : Value} {f : Frame} {isInApp : Bool}
    (h : v.HasMembers (f.fields isInApp)) : ofValue? v = some f := by
  have hmodule : v.required? Value.string? "module" = some f.modulePath :=
    h.required?_eq (by simp [fields]) (Value.string?_string _)
  have hfunction : v.required? Value.string? "function" = some f.function :=
    h.required?_eq (by simp [fields]) (Value.string?_string _)
  have hfile : v.optional? Value.string? "filename" = some f.file :=
    h.optional?_eq (by simp [fields]) Value.string?_string
  have hline : v.optional? Value.nat? "lineno" = some f.line :=
    h.optional?_eq (by simp [fields]) Value.nat?_nat
  rw [ofValue?, hmodule, hfunction, hfile, hline]
  rfl

namespace TraceBinding

variable (b : TraceBinding)

theorem framesOfValue?_traceValue (frames : List Frame) (shared : Nat) :
    StackTrace.framesOfValue? (b.traceValue frames shared) = some frames := by
  have hitems : (b.traceValue frames shared).required? Value.items? "frames" =
      some (b.frameValues frames shared) := rfl
  rw [StackTrace.framesOfValue?, hitems, Option.bind_some, frameValues, List.reverse_reverse]
  exact mapM_mapIdx_eq_some
    (fun _ f => Frame.ofValue?_of_hasMembers (hasMembers_frameValue f _)) frames

theorem ofValue?_exceptionValue (e : Exception) (shared : Nat) :
    Exception.ofValue? (b.exceptionValue e shared) = some e := by
  have h := hasMembers_exceptionValue (b := b) e shared
  have htype : (b.exceptionValue e shared).required? Value.string? "type" = some e.typeName :=
    h.required?_eq (by simp [Exception.fields]) (Value.string?_string _)
  have hmodule : (b.exceptionValue e shared).optional? Value.string? "module" = some e.modulePath :=
    h.optional?_eq (by simp [Exception.fields]) Value.string?_string
  have hmessage : (b.exceptionValue e shared).required? Value.string? "value" = some e.message :=
    h.required?_eq (by simp [Exception.fields]) (Value.string?_string _)
  have hframes : (b.exceptionValue e shared).required? StackTrace.framesOfValue? "stacktrace" =
      some e.frames :=
    h.required?_eq (by simp [Exception.fields, traceValue])
      (b.framesOfValue?_traceValue e.frames shared)
  rw [Exception.ofValue?, htype, hmodule, hmessage, hframes]
  rfl

/-- **A chain is read back from its value**, whatever the binding makes of the flags. -/
theorem ofValue?_chainValue (c : Chain) : Chain.ofValue? (b.chainValue c) = some c := by
  rw [Chain.ofValue?, chainValue, Value.list?, Value.items?_array, Option.bind_some,
    mapM_mapIdx_eq_some fun _ e => b.ofValue?_exceptionValue e _, Option.map_some]

end TraceBinding

/-! ## Messages -/

/-- A message with its parameters. -/
def MessagePayload.ofValue? (v : Value) : Option MessagePayload := do
  let message ← v.required? Value.string? "message"
  let params ← v.required? (Value.list? (Value.nullable? Value.string?)) "params"
  return ⟨message, params⟩

/-- The fields of a message. -/
def MessagePayload.fields (m : MessagePayload) : List (String × Option Value) :=
  [("message", some (.string m.message)), ("params", some (.array (m.params.map .ofText?)))]

theorem MessagePayload.hasMembers_value (m : MessagePayload) : m.value.HasMembers m.fields :=
  ⟨_, rfl, (by decide : ["message", "params"].Pairwise (· < ·)), by simp [fields]⟩

/-- **A message is read back from its value.** -/
theorem MessagePayload.ofValue?_value (m : MessagePayload) : ofValue? m.value = some m := by
  have hmessage : m.value.required? Value.string? "message" = some m.message :=
    m.hasMembers_value.required?_eq (by simp [fields]) (Value.string?_string _)
  have hparams : m.value.required? (Value.list? (Value.nullable? Value.string?)) "params" =
      some m.params :=
    m.hasMembers_value.required?_eq (by simp [fields]) (Value.list?_map Value.nullable?_ofText? _)
  rw [ofValue?, hmessage, hparams]
  rfl

/-! ## Requests -/

namespace HttpRequest

/-- Texts under their names. -/
def textsOfValue? : Value → Option (Dictionary String) := Value.dictionary? Value.string?

/-- Lists of texts under their names. -/
def listsOfValue? : Value → Option (Dictionary (List String)) :=
  Value.dictionary? (Value.list? Value.string?)

/-- A request. -/
def ofValue? (v : Value) : Option HttpRequest := do
  let url ← v.required? Value.string? "url"
  let method ← v.required? Value.string? "method"
  let query ← v.optional? Value.string? "query_string"
  let cookies ← v.required? textsOfValue? "cookies"
  let headers ← v.required? listsOfValue? "headers"
  let data ← v.required? listsOfValue? "data"
  let env ← v.required? textsOfValue? "env"
  return { url, method, query, cookies, headers, data, env }

/-- The fields of a request. -/
def fields (r : HttpRequest) : List (String × Option Value) :=
  [("cookies", some (textsValue r.cookies)), ("data", some (listsValue r.data)),
    ("env", some (textsValue r.env)), ("headers", some (listsValue r.headers)),
    ("method", some (.string r.method)), ("query_string", r.query.map .string),
    ("url", some (.string r.url))]

theorem hasMembers_value (r : HttpRequest) : r.value.HasMembers r.fields := by
  refine ⟨_, rfl, ?_, fun name value => ?_⟩
  · have hall : ["cookies", "data", "env", "headers", "method", "query_string", "url"].Pairwise
        (· < ·) := by decide
    refine hall.sublist ?_
    simp only [List.map_append]
    exact ((List.Sublist.refl ["cookies", "data", "env", "headers", "method"]).append
      (optionalMember_sublist _ _ _)).append (.refl ["url"])
  · simp only [List.mem_append, mem_optionalMember, fields, List.mem_cons, Prod.mk.injEq,
      Option.some.injEq, List.not_mem_nil, or_false, or_assoc]

theorem textsOfValue?_textsValue (d : Dictionary String) : textsOfValue? (textsValue d) = some d :=
  Value.dictionary?_ofDictionary Value.string?_string d

theorem listsOfValue?_listsValue (d : Dictionary (List String)) :
    listsOfValue? (listsValue d) = some d :=
  Value.dictionary?_ofDictionary (Value.list?_map Value.string?_string) d

/-- **A request is read back from its value.** -/
theorem ofValue?_value (r : HttpRequest) : ofValue? r.value = some r := by
  have h := r.hasMembers_value
  have hurl : r.value.required? Value.string? "url" = some r.url :=
    h.required?_eq (by simp [fields]) (Value.string?_string _)
  have hmethod : r.value.required? Value.string? "method" = some r.method :=
    h.required?_eq (by simp [fields]) (Value.string?_string _)
  have hquery : r.value.optional? Value.string? "query_string" = some r.query :=
    h.optional?_eq (by simp [fields]) Value.string?_string
  have hcookies : r.value.required? textsOfValue? "cookies" = some r.cookies :=
    h.required?_eq (by simp [fields]) (textsOfValue?_textsValue _)
  have hheaders : r.value.required? listsOfValue? "headers" = some r.headers :=
    h.required?_eq (by simp [fields]) (listsOfValue?_listsValue _)
  have hdata : r.value.required? listsOfValue? "data" = some r.data :=
    h.required?_eq (by simp [fields]) (listsOfValue?_listsValue _)
  have henv : r.value.required? textsOfValue? "env" = some r.env :=
    h.required?_eq (by simp [fields]) (textsOfValue?_textsValue _)
  rw [ofValue?, hurl, hmethod, hquery, hcookies, hheaders, hdata, henv]
  rfl

end HttpRequest

/-! ## Nothing is lost -/

/-- What is read back from what it is written as is written differently from everything else. -/
theorem ok_eq_ok_iff {α ε : Type} {read? : Value → Option α} {write : α → Value}
    (hread : ∀ a, read? (write a) = some a) {a a' : α} :
    (Except.ok (write a) : Except ε Value) = .ok (write a') ↔ a = a' := by
  refine ⟨fun h => ?_, fun h => h ▸ rfl⟩
  have hsame := congrArg read? (Except.ok.inj h)
  rw [hread, hread] at hsame
  exact Option.some.inj hsame

/-- **No two payloads are written alike**: neither chains that differ in a name, a module, a message
or in what is known of a frame, nor messages that differ in a parameter or its place, nor requests,
of which an empty query string is not the same as none. -/
theorem Binding.write_eq_iff :
    (∀ (b : TraceBinding) (c c' : Chain),
      (exception b).write (.exception c) = (exception b).write (.exception c') ↔ c = c') ∧
    (∀ m m' : MessagePayload, message.write (.message m) = message.write (.message m') ↔ m = m') ∧
    ∀ r r' : HttpRequest, http.write (.http r) = http.write (.http r') ↔ r = r' :=
  ⟨fun b _ _ => ok_eq_ok_iff b.ofValue?_chainValue,
    fun _ _ => ok_eq_ok_iff MessagePayload.ofValue?_value,
    fun _ _ => ok_eq_ok_iff HttpRequest.ofValue?_value⟩

end ErrorReport
