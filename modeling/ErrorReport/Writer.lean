/-!
# Writers

A `Writer` is offered bytes and takes some of them, or fails.  Nothing more is known of one: it may
take bytes one at a time, and it may fail whenever it likes.

`Writer.put` offers bytes until all of them are taken.  It is the smallest `Writing`; a longer one
puts one piece after the other, the first failure ends it, and what was taken before stays taken.
-/

set_option autoImplicit false

namespace ErrorReport

/-- Something that takes bytes. -/
structure Writer where
  /-- How many of the bytes on offer are taken after those that were taken before, or why none are. -/
  answer (taken offered : List UInt8) : Except String (Fin (offered.length + 1))

/-- Bytes being offered to a writer; the state is what the writer has taken. -/
abbrev Writing (ε : Type) := ExceptT ε (StateM (List UInt8))

/-- How writing ends after the writer has taken some bytes, and what it has taken then. -/
def Writing.outcome {ε : Type} (p : Writing ε Unit) (taken : List UInt8) :
    Except ε Unit × List UInt8 :=
  p.run.run taken

theorem Writing.outcome_seq {ε : Type} (p q : Writing ε Unit) (taken : List UInt8) :
    Writing.outcome (do p; q) taken =
      match p.outcome taken with
      | (.ok _, middle) => q.outcome middle
      | (.error failure, middle) => (.error failure, middle) := by
  unfold Writing.outcome
  rw [ExceptT.run_bind, StateT.run_bind]
  generalize p.run.run taken = ended
  obtain ⟨_ | _, middle⟩ := ended <;> rfl

theorem Writing.outcome_adapt {ε δ : Type} (f : ε → δ) (p : Writing ε Unit) (taken : List UInt8) :
    Writing.outcome (p.adapt f) taken = ((p.outcome taken).1.mapError f, (p.outcome taken).2) := by
  rfl

namespace Writer

/-- What is said of a writer that takes nothing and has no reason for it. -/
def idleText : String := "failed to write whole buffer"

/-- Offers bytes, and what is left of them, until nothing is left. -/
def offer (w : Writer) (bytes taken : List UInt8) : Except String Unit × List UInt8 :=
  match bytes with
  | [] => (.ok (), taken)
  | first :: rest =>
    match w.answer taken (first :: rest) with
    | .error reason => (.error reason, taken)
    | .ok ⟨0, _⟩ => (.error idleText, taken)
    | .ok ⟨count + 1, _⟩ => w.offer (rest.drop count) (taken ++ first :: rest.take count)
termination_by bytes.length
decreasing_by
  simp only [List.length_drop, List.length_cons]
  omega

/-- Writes all of some bytes. -/
def put (w : Writer) (bytes : List UInt8) : Writing String Unit :=
  ExceptT.mk fun taken => w.offer bytes taken

/-- What a full writer answers. -/
def fullText : String := "writer is full"

/-- A writer that takes what it is offered as long as it has room, and then fails. -/
def withRoom (room : Nat) : Writer where
  answer taken offered :=
    if taken.length < room then .ok ⟨min (room - taken.length) offered.length, by omega⟩
    else .error fullText

end Writer

end ErrorReport
