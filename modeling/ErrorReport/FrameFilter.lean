import ErrorReport.Frame

/-!
# Which frames belong to the application

A `FrameFilter` lists prefixes of code that lies outside the application.  A prefix with `::` in it
is one of a qualified path.  A bare prefix is one of a symbol without a module, and otherwise the name
of a whole library: it must equal the first part of the module path.
-/

set_option autoImplicit false

namespace ErrorReport

/-- The prefixes of what lies outside the application, without repetitions. -/
structure FrameFilter where
  /-- The prefixes in the order they were added. -/
  outside : List String
  deriving DecidableEq, Repr

namespace FrameFilter

/-- The runtime, the standard library and this client itself. -/
def defaultOutside : List String :=
  ["std::", "core::", "alloc::", "<std::", "<core::", "<alloc::", "backtrace::", "<backtrace::",
    "panic_unwind::", "rust_begin_unwind", "rust_panic", "__rust_", "_rust_", "log::", "<log::",
    "raven_rs::", "<raven_rs::"]

/-- A filter that takes every frame for one of the application. -/
def empty : FrameFilter := ⟨[]⟩

/-- The filter most clients start from. -/
def standard : FrameFilter := ⟨defaultOutside⟩

/-- Adds a prefix; an empty one and one that is listed already change nothing. -/
def add (filter : FrameFilter) (stem : String) : FrameFilter :=
  if stem.isEmpty || filter.outside.contains stem then filter else ⟨filter.outside ++ [stem]⟩

/-- Whether a text contains `::`. -/
def isPath (text : List Char) : Bool := (Text.splitOnce? [':', ':'] text).isSome

/-- The part of a path before its first `::`. -/
def firstPart (path : List Char) : List Char :=
  match Text.splitOnce? [':', ':'] path with
  | some (first, _) => first
  | none => path

/-- Whether a prefix puts a frame outside the application. -/
def excludes (stem : String) (frame : Frame) : Bool :=
  if frame.modulePath.isEmpty then stem.toList.isPrefixOf frame.function.toList
  else if isPath stem.toList then
    stem.toList.isPrefixOf (frame.modulePath.toList ++ [':', ':'] ++ frame.function.toList)
  else firstPart frame.modulePath.toList == stem.toList

/-- Whether a frame belongs to the application. -/
def isInApp (filter : FrameFilter) (frame : Frame) : Bool :=
  !filter.outside.any fun stem => excludes stem frame

end FrameFilter

end ErrorReport
