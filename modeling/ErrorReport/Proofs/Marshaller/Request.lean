import ErrorReport.Proofs.Marshaller.Receiver

/-!
# What a request collects

A request is filled by additions, each of a value under a name in one of four parts.  Two parts keep
all values of a name, the others the last one.  What an addition does is seen in its part only, so
after a run each part is what its own additions make of it (`addAll_eq`), and of these a look-up sees
those under its name (`get?_collected`, `get?_ofList_eq`).

So all that a request keeps of a run are the values that were `given` under each name in each part,
in their order.  Additions in different places may trade places without changing these (`Reordered`).
-/

set_option autoImplicit false

namespace ErrorReport

open Json (Value)

namespace HttpRequest

/-! ## Additions -/

/-- A part of a request that has values under names. -/
inductive Part where
  | headers
  | data
  | cookies
  | env
  deriving DecidableEq, Repr

/-- The member that a part is written as. -/
def Part.member : Part → String
  | headers => "headers"
  | data => "data"
  | cookies => "cookies"
  | env => "env"

/-- A value that is added under a name. -/
structure Addition where
  part : Part
  name : String
  value : String
  deriving DecidableEq, Repr

/-- Adds one value. -/
def add (r : HttpRequest) (a : Addition) : HttpRequest :=
  match a.part with
  | .headers => r.withHeader a.name a.value
  | .data => r.withData a.name a.value
  | .cookies => r.withCookie a.name a.value
  | .env => r.withEnv a.name a.value

/-- Adds one value after the other. -/
def addAll (r : HttpRequest) (additions : List Addition) : HttpRequest := additions.foldl add r

/-- The values that are given under a name in a part. -/
def given (additions : List Addition) (part : Part) (name : String) : List String :=
  (additions.filter fun a => a.part = part ∧ a.name = name).map (·.value)

/-- The names and values of a part. -/
def pairs (additions : List Addition) (part : Part) : List (String × String) :=
  (additions.filter (·.part = part)).map fun a => (a.name, a.value)

/-- The values that stand with a name. -/
def valuesOf (pairs : List (String × String)) (name : String) : List String :=
  (pairs.filter (·.1 = name)).map (·.2)

/-- A dictionary that keeps all values of each name. -/
def collected (pairs : List (String × String)) : Dictionary (List String) :=
  pairs.foldl (fun d p => append d p.1 p.2) ∅

variable {additions others : List Addition}

theorem valuesOf_pairs (additions : List Addition) (part : Part) (name : String) :
    valuesOf (pairs additions part) name = given additions part name := by
  rw [valuesOf, pairs, given, List.filter_map, List.filter_filter, List.map_map]
  refine congrArg _ (List.filter_congr fun a _ => ?_)
  simp [and_comm]

/-! ## One part -/

theorem pairs_concat (additions : List Addition) (a : Addition) (part : Part) :
    pairs (additions ++ [a]) part =
      pairs additions part ++ if a.part = part then [(a.name, a.value)] else [] := by
  rw [pairs, List.filter_append, List.map_append]
  by_cases h : a.part = part <;> simp [pairs, h]

theorem addAll_concat (r : HttpRequest) (additions : List Addition) (a : Addition) :
    addAll r (additions ++ [a]) = add (addAll r additions) a := by
  rw [addAll, List.foldl_append]
  rfl

theorem collected_concat (pairs : List (String × String)) (p : String × String) :
    collected (pairs ++ [p]) = append (collected pairs) p.1 p.2 := by
  rw [collected, List.foldl_append]
  rfl

/-- **Each part of a request is made by its own additions.** -/
theorem addAll_eq (url method : String) (query : Option String) (additions : List Addition) :
    addAll { url, method, query } additions = {
      url, method, query
      headers := collected (pairs additions .headers)
      data := collected (pairs additions .data)
      cookies := .ofList (pairs additions .cookies)
      env := .ofList (pairs additions .env) } := by
  induction additions using List.reverseRecOn with
  | nil => rfl
  | append_singleton additions a ih =>
    rw [addAll_concat, ih]
    obtain ⟨part, name, value⟩ := a
    cases part <;>
      simp [add, withHeader, withData, withCookie, withEnv, pairs_concat, collected_concat,
        Dictionary.ofList_concat]

theorem valuesOf_concat (pairs : List (String × String)) (p : String × String) (name : String) :
    valuesOf (pairs ++ [p]) name = valuesOf pairs name ++ if p.1 = name then [p.2] else [] := by
  rw [valuesOf, List.filter_append, List.map_append]
  by_cases h : p.1 = name <;> simp [valuesOf, h]

/-- All values of a name are kept in their order, -/
theorem get?_collected (pairs : List (String × String)) (name : String) :
    (collected pairs).get? name =
      if valuesOf pairs name = [] then none else some (valuesOf pairs name) := by
  induction pairs using List.reverseRecOn with
  | nil => rfl
  | append_singleton pairs p ih =>
    rw [collected_concat, append, Dictionary.modify, Dictionary.get?_insert, valuesOf_concat]
    by_cases hname : p.1 = name
    · rw [if_pos hname.symm, if_pos hname, hname, ih]
      by_cases hnil : valuesOf pairs name = [] <;> simp [hnil]
    · rw [if_neg (Ne.symm hname), if_neg hname, List.append_nil, ih]

/-- or the last one is. -/
theorem get?_ofList_eq (pairs : List (String × String)) (name : String) :
    (Dictionary.ofList pairs).get? name = (valuesOf pairs name).getLast? := by
  rw [Dictionary.get?_ofList]
  induction pairs using List.reverseRecOn with
  | nil => rfl
  | append_singleton pairs p ih =>
    rw [List.reverse_append, List.reverse_singleton, List.singleton_append, List.lookup_cons,
      valuesOf_concat]
    by_cases hname : p.1 = name
    · rw [if_pos hname, hname, beq_self_eq_true, List.getLast?_concat]
    · rw [if_neg hname, beq_eq_false_iff_ne.2 (Ne.symm hname), List.append_nil]
      exact ih

/-! ## All parts -/

/-- What is written of the values of a name, of which there is at least one. -/
def Part.written (part : Part) (values : List String) : Value :=
  match part with
  | headers | data => .array (values.map .string)
  | cookies | env => .string (values.getLastD "")

/-- What is written under the names of a part. -/
def written (r : HttpRequest) : Part → Dictionary Value
  | .headers => r.headers.mapValues fun texts => .array (texts.map .string)
  | .data => r.data.mapValues fun texts => .array (texts.map .string)
  | .cookies => r.cookies.mapValues .string
  | .env => r.env.mapValues .string

theorem member?_value (r : HttpRequest) (part : Part) :
    r.value.member? part.member = some (.ofDictionary (r.written part)) := by
  rw [r.hasMembers_value.member?_eq_some_iff]
  cases part <;> simp [fields, Part.member, written, listsValue, textsValue]

/-- **What is written under a name is made of the values that were given there.** -/
theorem get?_written (url method : String) (query : Option String) (additions : List Addition)
    (part : Part) (name : String) :
    ((addAll { url, method, query } additions).written part).get? name =
      if given additions part name = [] then none
      else some (part.written (given additions part name)) := by
  rw [addAll_eq, ← valuesOf_pairs]
  cases part with
  | headers | data =>
    simp only [written, Dictionary.get?_mapValues, get?_collected]
    split <;> rfl
  | cookies | env =>
    simp only [written, Dictionary.get?_mapValues, get?_ofList_eq]
    generalize valuesOf (pairs additions _) name = values
    cases values using List.reverseRecOn <;> simp [Part.written]

/-- A request keeps nothing else of a run. -/
theorem addAll_congr (url method : String) (query : Option String)
    (h : ∀ part name, given additions part name = given others part name) :
    addAll { url, method, query } additions = addAll { url, method, query } others := by
  have hcollected (part : Part) :
      collected (pairs additions part) = collected (pairs others part) :=
    Dictionary.ext_get? fun name => by
      rw [get?_collected, get?_collected, valuesOf_pairs, valuesOf_pairs, h]
  have hlast (part : Part) :
      Dictionary.ofList (pairs additions part) = .ofList (pairs others part) :=
    Dictionary.ext_get? fun name => by
      rw [get?_ofList_eq, get?_ofList_eq, valuesOf_pairs, valuesOf_pairs, h]
  rw [addAll_eq, addAll_eq, hcollected, hcollected, hlast, hlast]

/-! ## The order of additions -/

/-- The one list comes from the other by letting neighbours trade places, each time two additions in
different parts or under different names. -/
inductive Reordered : List Addition → List Addition → Prop
  | refl (additions : List Addition) : Reordered additions additions
  | swap (before after : List Addition) (a b : Addition) (h : a.part ≠ b.part ∨ a.name ≠ b.name) :
    Reordered (before ++ a :: b :: after) (before ++ b :: a :: after)
  | trans {first second third : List Addition} (h : Reordered first second)
    (h' : Reordered second third) : Reordered first third

/-- Such additions are never given in the same place. -/
theorem Reordered.given_eq (h : Reordered additions others) (part : Part) (name : String) :
    given additions part name = given others part name := by
  induction h with
  | refl additions => rfl
  | swap before after a b hne =>
    simp only [given, List.filter_append, List.filter_cons]
    by_cases ha : a.part = part ∧ a.name = name
    · have hb : ¬(b.part = part ∧ b.name = name) := by
        rintro ⟨rfl, rfl⟩
        exact hne.elim (absurd ha.1) (absurd ha.2)
      simp [ha, hb]
    · simp [ha]
  | trans _ _ ih ih' => exact ih.trans ih'

/-- **What is written of a request.**  Each part is an object that has just the names that were given
in it, in ascending order.  A header and a form field have all their values in the order in which they
were given, a cookie and a variable of the environment the last one.  Additions in different parts or
under different names may come in any order. -/
theorem additions_written (url method : String) (query : Option String)
    (additions : List Addition) :
    ∃ v, Binding.http.write (.http (addAll { url, method, query } additions)) = .ok v ∧
      (∀ part : Part, ∃ members, v.member? part.member = some (.object members) ∧
        (members.map (·.1)).Pairwise (· < ·) ∧
        ∀ name w, (name, w) ∈ members ↔ given additions part name ≠ [] ∧
          w = part.written (given additions part name)) ∧
      ∀ others, Reordered additions others →
        Binding.http.write (.http (addAll { url, method, query } others)) = .ok v := by
  refine ⟨_, rfl, fun part => ⟨_, member?_value _ part, Dictionary.keys_ascending _, ?_⟩, ?_⟩
  · intro name w
    rw [← Dictionary.get?_eq_some_iff, get?_written]
    by_cases hnil : given additions part name = []
    · simp [hnil]
    · simp [hnil, eq_comm]
  · intro others h
    rw [addAll_congr url method query h.given_eq]
    rfl

example : (addAll { url := "u", method := "GET" }
    [⟨.headers, "b", "1"⟩, ⟨.cookies, "c", "x"⟩, ⟨.headers, "a", "2"⟩, ⟨.headers, "b", "3"⟩,
      ⟨.cookies, "c", "y"⟩]).value =
    .object [("cookies", .object [("c", .string "y")]), ("data", .object []), ("env", .object []),
      ("headers", .object [("a", .array [.string "2"]), ("b", .array [.string "1", .string "3"])]),
      ("method", .string "GET"), ("url", .string "u")] := by
  rfl

end HttpRequest

end ErrorReport
