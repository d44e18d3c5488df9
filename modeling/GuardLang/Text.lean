/-!
# Texts

A text is a list of characters, so every count and every cut in this library is
made in whole characters.  Messages and keywords that only ever leave the
library are ordinary strings; everything that is scanned, sliced or compared
character by character is a `Text`.
-/

namespace GuardLang

/-- A piece of annotation source, character by character. -/
abbrev Text := List Char

namespace Text

/-- The characters of `source` from `start` up to but not including `stop`.  A
range that runs past the end is cut there, and one that ends before it starts is
empty. -/
def slice (source : Text) (start stop : Nat) : Text :=
  (source.take stop).drop start

/-- The number of characters before the first occurrence of `pattern`. -/
def indexOf? (pattern : Text) : Text → Option Nat
  | [] => if pattern.isEmpty then some 0 else none
  | c :: rest =>
    if pattern.isPrefixOf (c :: rest) then some 0
    else (indexOf? pattern rest).map (· + 1)

/-- The pattern stands where it is found. -/
theorem isPrefixOf_drop_of_indexOf? {pattern source : Text} {n : Nat}
    (h : indexOf? pattern source = some n) : pattern.isPrefixOf (source.drop n) = true := by
  induction source generalizing n with
  | nil =>
    unfold indexOf? at h
    split at h
    · rename_i empty
      rw [List.isEmpty_iff.1 empty]
      rfl
    · cases h
  | cons c rest ih =>
    unfold indexOf? at h
    split at h
    · rename_i here
      cases h
      exact here
    · obtain ⟨m, found, rfl⟩ := Option.map_eq_some_iff.1 h
      exact ih found

/-- The lines of a text.  Only the newline character ends a line, and a text
that ends in one has an empty last line. -/
def lines : Text → List Text
  | [] => [[]]
  | c :: rest =>
    if c = '\n' then [] :: lines rest
    else match lines rest with
      | [] => [[c]]
      | line :: more => (c :: line) :: more

/-- A text is never without lines. -/
theorem lines_ne_nil (source : Text) : lines source ≠ [] := by
  cases source with
  | nil => simp [lines]
  | cons c rest =>
    unfold lines
    split
    · simp
    · split <;> simp

end Text

end GuardLang
