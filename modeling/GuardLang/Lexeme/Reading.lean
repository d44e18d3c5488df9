import GuardLang.Fault

/-!
# Reading from the front of a text

Reading a lexeme takes some characters off the front of a text and finds out
what they stand for.  It can stop half-way with a cause; the characters taken so
far stay taken.  All distances count from the place where reading began, so a
reading says nothing about where in an annotation it happened.
-/

namespace GuardLang

/-- Why reading stopped, and the range of the text this is about, counted from
where reading began. -/
structure Misread where
  cause : Cause
  start : Nat
  stop : Nat
  deriving DecidableEq, Repr

/-- How many characters were taken, and what they stand for or why reading
stopped. -/
structure Reading (α : Type) where
  taken : Nat
  outcome : Except Misread α

namespace Reading

/-- A reading that took `taken` characters and stopped there, with a cause that
is about the range from `start` to `stop`. -/
def failed {α : Type} (taken : Nat) (cause : Cause) (start stop : Nat) : Reading α :=
  ⟨taken, .error ⟨cause, start, stop⟩⟩

/-- Change what was read. -/
def map {α β : Type} (f : α → β) (reading : Reading α) : Reading β :=
  ⟨reading.taken, reading.outcome.map f⟩

@[simp] theorem map_taken {α β : Type} (f : α → β) (reading : Reading α) :
    (reading.map f).taken = reading.taken := rfl

end Reading

end GuardLang
