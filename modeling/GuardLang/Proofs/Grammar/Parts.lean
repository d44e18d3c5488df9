import GuardLang.Grammar.Item
import GuardLang.Proofs.Parser.Steps

/-!
# Parts of grammar rules

Rules that share a tail, or a shape, are cut into parts here, and each rule is
shown to be made of its parts.  Behind that stand equations for numbers, which
take tokens of any kind before they look at them.
-/

namespace GuardLang

/-! ## Paths -/

namespace Grammar

theorem isSeparator_iff {kind : TokenKind} :
    isSeparator kind = true ↔ kind = .dot ∨ kind = .pathSep := by
  simp [isSeparator]

theorem isPlain_of_isSeparator {kind : TokenKind} (separator : isSeparator kind = true) :
    kind.isPlain = true := by
  cases kind <;> first | rfl | cases separator

/-- The names and separators of a path are no brackets. -/
theorem isPlain_of_segments {read path : Spanned Text} {tokens : List Token} {taken : Nat}
    (ran : segments read tokens = (.ok path, taken)) :
    ∀ token ∈ tokens.take taken, token.kind.isPlain = true := by
  fun_induction segments read tokens generalizing taken with
  | case1 read separator name more isSep isName outcome n rec ih =>
      cases ran
      intro token member
      simp only [List.take_succ_cons, List.mem_cons] at member
      rcases member with rfl | rfl | member
      · exact isPlain_of_isSeparator isSep
      · rw [isName]
        rfl
      · exact ih rec token member
  | case2 => cases ran
  | case3 =>
      cases ran
      simp
  | case4 =>
      cases ran
      simp

end Grammar

/-! ## References and closures

Two rules look for a token and go on in the same way whether or not it is there.
What they go on with has a name here. -/

namespace Grammar

/-- The type that an ampersand and a lifetime, which may be empty, refer to. -/
def reference (ampersand : Token) (lifetime : Text) : Parser (Spanned Text) := do
  let referent ← path
  return ⟨'&' :: lifetime ++ referent.item, ampersand.span.join referent.span⟩

theorem type_eq :
    type = (do
      if ← Parser.isAt [.ampersand] then
        let ampersand ← Parser.advance
        if ← Parser.isAt [.lifetime] then
          let lifetime ← Parser.advance
          reference ampersand (lifetime.value ++ [' '])
        else reference ampersand []
      else path) :=
  rfl

/-- What follows the parameter of a closure and its type. -/
def closureEnd (opening param : Token) (paramType : Option Text) : Parser FunctionRef := do
  let closing ← Parser.expect .pipe
  let body ← closureBody
  let feed ← Parser.feed
  match body with
  | none => Parser.failAt closing.span .expectedClosureBody
  | some body =>
    return { form := .closure
             param := some param.value
             paramType
             body := some (body.text feed.source)
             span := opening.span.join body }

theorem closure_eq :
    closure = (do
      let opening ← Parser.expect .pipe
      let param ← Parser.expect .identifier
      if ← Parser.isAt [.colon] then
        let _ ← Parser.advance
        let annotated ← type
        closureEnd opening param (some annotated.item)
      else closureEnd opening param none) :=
  rfl

theorem function_eq :
    function = (do
      if ← Parser.isAt [.identifier] then
        let named ← path
        return { form := .path, path := some named.item, span := named.span }
      else if ← Parser.isAt [.pipe] then closure
      else
        let token ← Parser.current
        Parser.failAt token.span (.expectedFunction token.found)) :=
  rfl

end Grammar

/-! ## Numbers -/

namespace Grammar

variable {α : Type} {type : LiteralType α} {feed : Feed}

/-- The fault for a literal that is no number of a type. -/
def mismatch (type : LiteralType α) (source sign : Text) (literal : Token) (span : Span) : Fault :=
  .located (.numberMismatch type.name (sign ++ literal.span.text source)) span

/-- The number that a sign and a literal stand for. -/
def readLiteral (type : LiteralType α) (source sign : Text) (literal : Token) (span : Span) :
    Except Fault (Spanned α) :=
  if literal.kind = .number then
    match type.read (sign ++ Number.withoutUnderscores literal.value) with
    | .ok value => .ok ⟨value, span⟩
    | .error _ => .error (mismatch type source sign literal span)
  else .error (mismatch type source sign literal span)

/-- A number is what its sign and its literal stand for. -/
theorem run_number_of_signedLiteral {read : SignedLiteral} {rest : Feed}
    (taken : signedLiteral.run feed = (.ok read, rest)) :
    (number type).run feed =
      (readLiteral type rest.source read.sign read.literal read.span, rest) := by
  rw [number, Parser.run_bind, taken]
  simp only [Parser.run_bind, Parser.run_feed, readLiteral, mismatch]
  by_cases kind : read.literal.kind = .number
  · rw [if_neg (by simp [kind]), if_pos kind]
    cases type.read (read.sign ++ Number.withoutUnderscores read.literal.value) <;> rfl
  · rw [if_pos kind, if_neg kind]
    rfl

theorem run_number_of_failed {fault : Fault} {rest : Feed}
    (failed : signedLiteral.run feed = (.error fault, rest)) :
    (number type).run feed = (.error fault, rest) := by
  rw [number, Parser.run_bind, failed]

/-- Where no token is left there is no number. -/
theorem run_number_of_nil (ahead : feed.ahead = []) (last : feed.last.kind = .eof) :
    (number type).run feed = (.error (.located .expectedNumber feed.last.span), feed) := by
  have stays : feed.advance.2 = feed := by
    rw [Feed.advance_of_atEnd (Feed.atEnd_of_nil ahead last)]
  have failed : signedLiteral.run feed =
      (.error (.located .expectedNumber feed.last.span), feed) := by
    simp [signedLiteral, Feed.current_of_nil ahead, last, stays]
  exact run_number_of_failed failed

/-- A token other than a sign is taken for a literal. -/
theorem run_number_of_cons {token : Token} {rest : List Token} (ahead : feed.ahead = token :: rest)
    (eof : token.kind ≠ .eof) (minus : token.kind ≠ .minus) :
    (number type).run feed =
      (readLiteral type feed.source [] token token.span, feed.skip 1) := by
  have taken : signedLiteral.run feed = (.ok ⟨[], token, token.span⟩, feed.skip 1) := by
    simp [signedLiteral, Feed.current_of_cons ahead, Feed.advance_of_cons ahead eof, eof, minus]
  exact run_number_of_signedLiteral taken

/-- A sign alone is no number. -/
theorem run_number_of_minus {token : Token} (ahead : feed.ahead = [token])
    (minus : token.kind = .minus) (last : feed.last.kind = .eof) :
    (number type).run feed =
      (.error (.located .expectedNumberAfterMinus token.span), feed.skip 1) := by
  have eof : token.kind ≠ .eof := by simp [minus]
  have behind : (feed.skip 1).ahead = [] := by simp [ahead]
  have stays : (feed.skip 1).advance.2 = feed.skip 1 := by
    rw [Feed.advance_of_atEnd (Feed.atEnd_of_nil behind last)]
  have failed : signedLiteral.run feed =
      (.error (.located .expectedNumberAfterMinus token.span), feed.skip 1) := by
    simp [signedLiteral, Feed.current_of_cons ahead, Feed.advance_of_cons ahead eof, minus,
      Feed.current_of_nil behind, last, stays]
  exact run_number_of_failed failed

/-- A sign and the token behind it are taken for a number. -/
theorem run_number_of_minus_cons {sign token : Token} {rest : List Token}
    (ahead : feed.ahead = sign :: token :: rest) (minus : sign.kind = .minus)
    (eof : token.kind ≠ .eof) :
    (number type).run feed =
      (readLiteral type feed.source sign.value token (sign.span.join token.span),
        feed.skip 2) := by
  have mark : sign.kind ≠ .eof := by simp [minus]
  have behind : (feed.skip 1).ahead = token :: rest := by simp [ahead]
  have taken : signedLiteral.run feed =
      (.ok ⟨sign.value, token, sign.span.join token.span⟩, feed.skip 2) := by
    simp [signedLiteral, Feed.current_of_cons ahead, Feed.advance_of_cons ahead mark, minus,
      Feed.current_of_cons behind, Feed.advance_of_cons behind eof, eof, Feed.skip_skip]
  exact run_number_of_signedLiteral taken

/-- A number that is assigned stands behind the equals sign. -/
theorem run_assignedNumber_of_equals (equals : feed.current.kind = .equals) :
    (assignedNumber type).run feed = (number type).run feed.advance.2 := by
  simp [assignedNumber, equals]

end Grammar

/-! ## Items

An item is read by its keyword, but items of one shape are read alike. -/

namespace Grammar

variable {α β : Type}

/-- An item that is given a number. -/
def numberItem (type : LiteralType α) (keyword : Token) (item : α → β) : Parser (Spanned β) := do
  requireEquals keyword
  let number ← assignedNumber type
  return ⟨item number.item, keyword.span.join number.span⟩

/-- An item that is given a function. -/
def functionItem (inputType : Text) (keyword : Token) (item : BoundFunction → β) :
    Parser (Spanned β) := do
  let function ← customFunction keyword inputType
  return ⟨item function.item, function.span⟩

/-- An item that is given a pattern. -/
def patternItem (keyword : Token) (item : Pattern → β) : Parser (Spanned β) := do
  requireEquals keyword
  let _ ← Parser.advance
  let read ← pattern
  return ⟨item read.item, keyword.span.join read.span⟩

/-- The sanitizer of strings behind its keyword. -/
def stringSanitizerOf (keyword : Token) : Option StringSanitizerKind → Parser (Spanned StringSanitizer)
  | none => unknownItem .sanitizer keyword (Keyword.all : List StringSanitizerKind)
  | some .custom =>
    functionItem (Family.string.inputType .sanitizer) keyword fun function =>
      { kind := .custom, function := some function }
  | some kind => pure ⟨{ kind }, keyword.span⟩

theorem stringSanitizer_eq :
    stringSanitizer = (do
      let keyword ← itemName .sanitizer
      stringSanitizerOf keyword (Keyword.ofName? (String.ofList keyword.value))) := by
  unfold stringSanitizer
  congr 1
  funext keyword
  rcases (Keyword.ofName? (String.ofList keyword.value) : Option StringSanitizerKind) with
    _ | (_ | _ | _ | _) <;> rfl

/-- The sanitizer of numbers behind its keyword. -/
def numericSanitizerOf (inputType : Text) (keyword : Token) :
    Option NumericSanitizerKind → Parser (Spanned NumericSanitizer)
  | none => unknownItem .sanitizer keyword (Keyword.all : List NumericSanitizerKind)
  | some .custom =>
    functionItem inputType keyword fun function => { kind := .custom, function := some function }

theorem numericSanitizer_eq (inputType : Text) :
    numericSanitizer inputType = (do
      let keyword ← itemName .sanitizer
      numericSanitizerOf inputType keyword (Keyword.ofName? (String.ofList keyword.value))) := by
  unfold numericSanitizer
  congr 1
  funext keyword
  rcases (Keyword.ofName? (String.ofList keyword.value) : Option NumericSanitizerKind) with
    _ | _ <;> rfl

/-- The validator of strings behind its keyword. -/
def stringValidatorOf (enabled : Capabilities) (keyword : Token) :
    Option StringValidatorKind → Parser (Spanned StringValidator)
  | none => unknownItem .validator keyword (Keyword.all : List StringValidatorKind)
  | some .notEmpty => pure ⟨{ kind := .notEmpty }, keyword.span⟩
  | some .custom =>
    functionItem (Family.string.inputType .validator) keyword fun function =>
      { kind := .custom, function := some function }
  | some .regex => do
    requireCapability enabled .regex keyword.span
    patternItem keyword fun pattern => { kind := .regex, pattern := some pattern }
  | some kind =>
    numberItem IntegerType.usize.literals keyword fun length => { kind, length := some length }

theorem stringValidator_eq (enabled : Capabilities) :
    stringValidator enabled = (do
      let keyword ← itemName .validator
      stringValidatorOf enabled keyword (Keyword.ofName? (String.ofList keyword.value))) := by
  unfold stringValidator
  congr 1
  funext keyword
  rcases (Keyword.ofName? (String.ofList keyword.value) : Option StringValidatorKind) with
    _ | (_ | _ | _ | _ | _) <;> rfl

/-- The validator of numbers behind its keyword. -/
def numericValidatorOf (type : LiteralType α) (known : List NumericValidatorKind)
    (keyword : Token) : Option NumericValidatorKind → Parser (Spanned (NumericValidator α))
  | none => unknownItem .validator keyword known
  | some .finite => pure ⟨{ kind := .finite }, keyword.span⟩
  | some .custom =>
    functionItem type.name.toList keyword fun function =>
      { kind := .custom, function := some function }
  | some kind => numberItem type keyword fun value => { kind, value := some value }

theorem numericValidator_eq (type : LiteralType α) (known : List NumericValidatorKind) :
    numericValidator type known = (do
      let keyword ← itemName .validator
      numericValidatorOf type known keyword
        (Keyword.find? known (String.ofList keyword.value))) := by
  unfold numericValidator
  congr 1
  funext keyword
  rcases Keyword.find? known (String.ofList keyword.value) with
    _ | (_ | _ | _ | _ | _ | _) <;> rfl

end Grammar

end GuardLang
