import ErrorReport.Exception

/-!
# Error objects and their sources

Errors of a running program form a graph: each object has a diagnostic text, a message and perhaps a
source, and sources may run in circles.  `ErrorGraph.chain` walks from an object along its sources.
The walk stops where the sources end, at the first reference it has already met, and after
`maxDepth` objects.

What the walk compares are references, and a reference is more than the object it leads to: the same
object may be referred to through several tables of methods, and is then met as often.

`ErrorGraph.visit?` is the unbounded walk: the reference reached after so many steps.
-/

set_option autoImplicit false

namespace ErrorReport

/-- A reference to an error of a running program. -/
structure ErrorRef where
  /-- The object. -/
  object : Nat
  /-- The table of methods through which the object is used. -/
  table : Nat
  deriving DecidableEq, Repr

/-- An error of a running program. -/
structure ErrorObject where
  /-- The diagnostic text. -/
  diagnostic : String
  /-- The message. -/
  message : String
  /-- The object that caused this one. -/
  source : Option ErrorRef
  deriving DecidableEq, Repr

/-- Error objects, named by their places. -/
structure ErrorGraph where
  /-- The objects. -/
  objects : List ErrorObject
  deriving DecidableEq, Repr

namespace ErrorGraph

/-- At most so many errors are listed in a chain. -/
def maxDepth : Nat := 64

/-- The next reference of a walk. -/
def next? (g : ErrorGraph) (ref : ErrorRef) : Option ErrorRef :=
  (g.objects[ref.object]?).bind (·.source)

/-- Walks from an object, at most `budget` steps, and stops at a reference already seen. -/
def walk (g : ErrorGraph) : Nat → List ErrorRef → Option ErrorRef → List ErrorObject
  | budget + 1, seen, some ref =>
    if seen.contains ref then []
    else
      match g.objects[ref.object]? with
      | some o => o :: g.walk budget (ref :: seen) o.source
      | none => []
  | _, _, _ => []

/-- The description of an object. -/
def describe (o : ErrorObject) : Exception := Exception.ofDiagnostic o.diagnostic o.message

/-- The chain of an object whose type is not known. -/
def chain (g : ErrorGraph) (start : ErrorRef) : Chain :=
  ⟨(g.walk maxDepth [] (some start)).map describe⟩

/-- The chain of an object whose type is known; only the outermost entry is named after it. -/
def typedChain (g : ErrorGraph) (start : ErrorRef) (typeName : String) : Chain :=
  (g.chain start).withOuterType typeName

/-- The reference reached after a number of steps along the sources, if there are that many. -/
def visit? (g : ErrorGraph) (start : ErrorRef) : Nat → Option ErrorRef
  | 0 => if start.object < g.objects.length then some start else none
  | steps + 1 => (g.visit? start steps).bind fun ref =>
      (g.next? ref).filter (·.object < g.objects.length)

end ErrorGraph

end ErrorReport
