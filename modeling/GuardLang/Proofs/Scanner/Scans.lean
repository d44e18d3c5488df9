import GuardLang.Proofs.Scanner.Lossless

/-!
# Scanning part of a text

`Scans place text after tokens` says that a part of a text, which begins at a place
and has more text behind it, is scanned into some tokens, whatever the rest is
scanned into.  Parts are put together by `Scans.append`.

A part that is scanned on its own is scanned the same way in front of every
separator (`Lexed.scans`), and into tokens of the same kinds at every other place
(`Lexed.exists_moved`).
-/

namespace GuardLang

open Lexeme Text

/-- A text with another one behind it is scanned into some tokens. -/
def Scans (place : Position) (text after : Text) (tokens : List Token) : Prop :=
  ∀ more, Lexed (place.walk text) after more → Lexed place (text ++ after) (tokens ++ more)

theorem Text.Blank.append {first second : Text} (left : first.Blank) (right : second.Blank) :
    Blank (first ++ second) := by
  intro c member
  rcases List.mem_append.1 member with member | member
  · exact left c member
  · exact right c member

/-- Blanks in front of a text that is scanned. -/
theorem Lexed.gap {place : Position} {gap text : Text} {tokens : List Token} (blank : gap.Blank)
    (lexed : Lexed (place.walk gap) text tokens) : Lexed place (gap ++ text) tokens := by
  generalize moved : place.walk gap = start at lexed
  cases lexed with
  | blank behind => exact .blank (blank.append behind)
  | @token _ inner written after lexeme tokens behind form rest =>
      subst moved
      rw [← Position.walk_append place gap inner] at rest ⊢
      rw [← List.append_assoc]
      exact .token (blank.append behind) form rest

/-! ## Parts of a text -/

namespace Scans

variable {place : Position} {after : Text}

theorem gap {text : Text} (blank : text.Blank) : Scans place text after [] :=
  fun _ lexed => lexed.gap blank

theorem space : Scans place [' '] after [] :=
  gap (blank_iff_all.2 rfl)

/-- Two parts, one behind the other. -/
theorem append {first second : Text} {tokens others : List Token}
    (left : Scans place first (second ++ after) tokens)
    (right : Scans (place.walk first) second after others) :
    Scans place (first ++ second) after (tokens ++ others) := by
  intro more lexed
  rw [Position.walk_append] at lexed
  rw [List.append_assoc, List.append_assoc]
  exact left _ (right _ lexed)

/-- Two parts of a source. -/
theorem append_walk {passed first second : Text} {tokens others : List Token}
    (left : Scans (Position.start.walk passed) first (second ++ after) tokens)
    (right : Scans (Position.start.walk (passed ++ first)) second after others) :
    Scans (Position.start.walk passed) (first ++ second) after (tokens ++ others) := by
  rw [Position.walk_append] at right
  exact left.append right

theorem of_form {written : Text} {lexeme : Lexeme} (form : Form written lexeme after) :
    Scans place written after [lexeme.tokenAt place written] :=
  fun _ lexed => @Lexed.token place [] written after lexeme _ (by simp [Blank]) form lexed

/-- A part with nothing behind it is a whole text. -/
theorem lexed {text : Text} {tokens : List Token} (scans : Scans place text [] tokens) :
    Lexed place text tokens := by
  have whole := scans [] (.blank (by simp [Blank]))
  rwa [List.append_nil, List.append_nil] at whole

end Scans

/-! ## Single tokens -/

namespace Text

/-- A text in front of which a word has to end, and is no beginning of a raw string. -/
def EndsWord (text : Text) : Prop :=
  ∀ c ∈ text.head?, continuesWord c = false ∧ c ≠ '#' ∧ c ≠ '"'

theorem endsWord_cons_iff {c : Char} {text : Text} :
    EndsWord (c :: text) ↔ continuesWord c = false ∧ c ≠ '#' ∧ c ≠ '"' := by
  simp [EndsWord]

theorem Bounds.endsWord {text : Text} (bounds : text.Bounds) : text.EndsWord := by
  intro c head
  have ends := bounds c head
  exact ⟨continuesWord_eq_false_of_separates ends, ne_of_separates ends (by decide),
    ne_of_separates ends (by decide)⟩

end Text

namespace Scans

variable {after : Text}

/-- A word in front of what ends it. -/
theorem exists_word (place : Position) {c : Char} {word : Text} (first : startsWord c = true)
    (passes : ∀ d ∈ word, continuesWord d = true) (ends : after.EndsWord) :
    ∃ token, Scans place (c :: word) after [token] ∧ token.kind = .identifier ∧
      token.value = c :: word := by
  have raw : ¬ (c = 'r' ∧ opensRaw (c :: (word ++ after)) = true) := by
    rintro ⟨_, opens⟩
    obtain ⟨hashes, body, split⟩ := opensRaw_cons_iff.1 opens
    -- What stands behind the letter is neither a hash nor a quote.
    have behind : ∀ d ∈ (word ++ after).head?, d ≠ '#' ∧ d ≠ '"' := by
      cases word with
      | nil => exact fun d head => (ends d head).2
      | cons e word =>
          rintro _ ⟨⟩
          have inner := passes e List.mem_cons_self
          constructor
          · rintro rfl
            exact absurd inner (by decide)
          · rintro rfl
            exact absurd inner (by decide)
    rw [split] at behind
    cases hashes with
    | zero => exact (behind '"' rfl).2 rfl
    | succ hashes => exact (behind '#' (by simp [List.replicate_succ])).1 rfl
  have stops : ∀ d ∈ after.head?, continuesWord d = false := fun d head => (ends d head).1
  exact ⟨_, of_form (.word first passes stops raw), rfl, rfl⟩

/-- A mark in front of what makes no operator with it. -/
theorem exists_mark (place : Position) {c : Char} {kind : TokenKind}
    (mark : markKind? c = some kind) (alone : ∀ d ∈ after.head?, pair? c d = none) :
    ∃ token, Scans place [c] after [token] ∧ token.kind = kind ∧ token.value = [c] := by
  have single : single? c = some ⟨kind, [c]⟩ := by rw [single?, mark]
  exact ⟨_, of_form (.single single alone), rfl, rfl⟩

end Scans

/-! ## Texts that are scanned on their own -/

/-- A text that is scanned on its own is scanned the same way in front of a
separator. -/
theorem Lexed.scans {place : Position} {text after : Text} {tokens : List Token}
    (lexed : Lexed place text tokens) (bounds : after.Bounds) :
    Scans place text after tokens := by
  induction lexed with
  | blank blank => exact Scans.gap blank
  | @token place gap written rest lexeme tokens blank form _ ih =>
      intro more behind
      have extended : Form written lexeme (rest ++ after) := by
        have cut := Clipped.of_append rest [] bounds
        rw [List.append_nil] at cut
        exact form.clipped cut
      rw [Position.walk_append, Position.walk_append] at behind
      rw [List.append_assoc, List.append_assoc]
      exact .token blank extended (ih more behind)

/-- A text is scanned into tokens of the same kinds wherever it stands. -/
theorem Lexed.exists_moved {place : Position} {text : Text} {tokens : List Token}
    (lexed : Lexed place text tokens) (other : Position) :
    ∃ moved, Lexed other text moved ∧ moved.map Token.kind = tokens.map Token.kind := by
  induction lexed generalizing other with
  | blank blank => exact ⟨[], .blank blank, rfl⟩
  | @token place gap written after lexeme tokens blank form _ ih =>
      obtain ⟨moved, behind, kinds⟩ := ih ((other.walk gap).walk written)
      exact ⟨_, .token blank form behind, congrArg (lexeme.kind :: ·) kinds⟩

/-- The tokens of a text without blanks around it cover all of it. -/
theorem Lexed.exists_cover {place : Position} {text : Text} {tokens : List Token}
    (lexed : Lexed place text tokens) (nonempty : tokens ≠ [])
    (head : ∀ c ∈ text.head?, isBlank c = false) (last : ∀ c ∈ text.getLast?, isBlank c = false) :
    ∃ span, cover? tokens = some span ∧ span.start = place.offset ∧
      span.stop = place.offset + text.length := by
  obtain ⟨front, rest, rfl⟩ := List.exists_cons_of_ne_nil nonempty
  obtain ⟨final, final_eq⟩ : ∃ final, (front :: rest).getLast? = some final :=
    ⟨_, List.getLast?_eq_some_getLast nonempty⟩
  have final_mem := List.mem_of_getLast? final_eq
  have text_pos : 0 < text.length := by
    have proper := lexed.ordered.proper front List.mem_cons_self
    have within := lexed.offset_le front List.mem_cons_self
    omega
  -- A character that is not blank is covered by some token.
  have covered : ∀ {n : Nat} {c : Char}, text[n]? = some c → isBlank c = false →
      ∃ token ∈ front :: rest, token.Covers (place.offset + n) := by
    intro n c stands visible
    by_contra free
    rw [lexed.isBlank_of_not_covers stands fun token member covers =>
      free ⟨token, member, covers⟩] at visible
    cases visible
  refine ⟨front.span.through final.span, cover?_eq_some_iff.2 ⟨front, final, rfl, final_eq, rfl⟩,
    ?_, ?_⟩
  · apply Nat.le_antisymm
    · obtain ⟨c, stands⟩ : ∃ c, text[0]? = some c := ⟨_, List.getElem?_eq_getElem text_pos⟩
      obtain ⟨token, member, covers⟩ := covered stands (head c (by rwa [List.head?_eq_getElem?]))
      rcases List.mem_cons.1 member with rfl | member
      · exact covers.1
      · have before := List.rel_of_pairwise_cons lexed.pairwise member
        exact Nat.le_trans (Nat.le_of_lt before.1) covers.1
    · exact (lexed.offset_le front List.mem_cons_self).1
  · apply Nat.le_antisymm
    · exact (lexed.offset_le final final_mem).2
    · have inside : text.length - 1 < text.length := by omega
      obtain ⟨c, stands⟩ : ∃ c, text[text.length - 1]? = some c :=
        ⟨_, List.getElem?_eq_getElem inside⟩
      obtain ⟨token, member, covers⟩ :=
        covered stands (last c (by rwa [List.getLast?_eq_getElem?]))
      have reaches := lexed.ordered.stop_le_getLast member final_eq
      have ends := covers.2
      change place.offset + text.length ≤ final.span.stop
      omega

end GuardLang
