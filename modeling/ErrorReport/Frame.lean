import ErrorReport.Text.Split

/-!
# Stack frames

A frame names a function by its module path and its own name and may know a file and a line.
Frames are listed innermost call first.  `Frame.location` is the identifier under which a call site
is reported, and `sharedFrames` counts how many frames two stacks have in common at their outer ends.
-/

set_option autoImplicit false

namespace ErrorReport

/-- One entry of a call stack. -/
structure Frame where
  /-- The path of the module that owns the function, empty for a bare symbol. -/
  modulePath : String
  /-- The name of the function. -/
  function : String
  /-- The source file, if it is known. -/
  file : Option String := none
  /-- The line in the source file, if it is known. -/
  line : Option Nat := none
  deriving DecidableEq, Repr

namespace Frame

/-- Splits a qualified path at its last `::`; a path without one is a function without a module. -/
def ofPath (path : String) : Frame :=
  match Text.splitLast? [':', ':'] path.toList with
  | some (modulePath, function) => ⟨String.ofList modulePath, String.ofList function, none, none⟩
  | none => ⟨"", path, none, none⟩

/-- The location identifier: module and function, then file and line in parentheses as far as they
are known.  A line without a file is not shown. -/
def location (f : Frame) : String :=
  let name := f.modulePath ++ "." ++ f.function
  match f.file, f.line with
  | some file, some line => name ++ "(" ++ file ++ ":" ++ toString line ++ ")"
  | some file, none => name ++ "(" ++ file ++ ")"
  | none, _ => name

end Frame

/-- How many elements two lists share at their fronts. -/
def sharedFront {α : Type} [DecidableEq α] : List α → List α → Nat
  | a :: as, b :: bs => if a = b then sharedFront as bs + 1 else 0
  | _, _ => 0

/-- How many frames two stacks share, counted from their outermost calls. -/
def sharedFrames (frames enclosing : List Frame) : Nat :=
  sharedFront frames.reverse enclosing.reverse

theorem sharedFront_le_left {α : Type} [DecidableEq α] (as bs : List α) :
    sharedFront as bs ≤ as.length := by
  fun_induction sharedFront as bs <;> simp_all

theorem sharedFrames_le (frames enclosing : List Frame) :
    sharedFrames frames enclosing ≤ frames.length := by
  simpa [sharedFrames] using sharedFront_le_left frames.reverse enclosing.reverse

end ErrorReport
