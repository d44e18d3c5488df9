import GuardLang.Declaration

/-!
# The steps of a declaration

An annotation is scanned, read and checked.  Its outcome is put together from
those of the steps, and the logs play no part in it.
-/

namespace GuardLang

/-! ## The feed of an annotation -/

namespace Feed

variable (tokens : List Token) (mark : Token) (source : Text)

@[simp]
theorem ofTokens_ahead : (ofTokens (tokens ++ [mark]) source).ahead = tokens := by
  simp [ofTokens]

@[simp]
theorem ofTokens_last : (ofTokens (tokens ++ [mark]) source).last = mark := by
  simp [ofTokens]

end Feed

/-! ## Outcomes without logs -/

/-- Options that have been read give a declaration made from their draft. -/
theorem Family.readOptions_snd {S V D : Type} (grammar : Grammar S V D) (enabled : Capabilities)
    (feed : Feed) (guard : RawItems S V → RawGuard) (literal : D → Literal) :
    (readOptions grammar enabled feed guard literal).2 =
      ((grammar.options enabled feed).1.map fun _ => (grammar.options enabled feed).2.draft).map
        fun draft =>
          ⟨guard draft.items, draft.newUnchecked, draft.defaultValue.map (·.map literal)⟩ := by
  simp only [readOptions]
  cases (grammar.options enabled feed).1 <;> rfl

/-- An annotation is scanned, then read. -/
theorem RawDeclaration.parse_snd (source : Text) (family : Family) (enabled : Capabilities) :
    (parse source family enabled).2 =
      tokenize source >>= fun tokens => (family.readRaw enabled (.ofTokens tokens source)).2 := by
  unfold parse
  cases tokenize source <;> rfl

/-- An annotation is scanned and read, then checked. -/
theorem Declaration.parse_snd (source : Text) (family : Family) (enabled : Capabilities) :
    (parse source family enabled).2 =
      (RawDeclaration.parse source family enabled).2 >>= fun raw => raw.check.2 := by
  unfold parse
  rcases RawDeclaration.parse source family enabled with ⟨log, _ | raw⟩ <;> rfl

end GuardLang
