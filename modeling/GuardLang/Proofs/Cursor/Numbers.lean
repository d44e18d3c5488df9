import GuardLang.Proofs.Cursor.Groups
import GuardLang.Proofs.Grammar.Parts
import GuardLang.Proofs.Number.Literal
import GuardLang.Scanner.Call

/-!
# Numbers of a scan

A cursor over the tokens of a scan may stand in front of a number literal, or of a minus
sign and a literal.  The literal has the form of a number, since the scanner has read it.
What the type of the number is given to read is the literal without its underscores, and
the sign in front of it.

Main statements: integers are read as their decimal value (`Cursor.Descends.number_integer`),
and numbers are scanned by longest match, so that a floating point type reads them all and
an integer type those without a fraction and an exponent (`numbers_longestMatch`).
-/

namespace GuardLang

open Lexeme

/-! ## Numbers at a cursor -/

namespace Cursor

/-- A literal stands at the cursor, or a minus sign and the literal behind it. -/
structure AtNumber (cursor : Cursor) (sign : Option Token) (literal : Token) : Prop where
  ahead : ∃ rest, cursor.tokens.drop cursor.index = sign.toList ++ literal :: rest
  minus : ∀ token ∈ sign, token.kind = .minus
  number : literal.kind = .number

/-- The text that the type of a number is given to read, if the literal is read with the
sign. -/
def handed (sign : Option Token) (literal : Token) : Text :=
  Number.signText sign.isSome ++ Number.withoutUnderscores literal.value

/-- The span of a literal and the sign in front of it. -/
def numberSpan (sign : Option Token) (literal : Token) : Span :=
  (sign.getD literal).span.through literal.span

namespace AtNumber

variable {α : Type} {source : Text} {found : List Token} {cursor : Cursor} {sign : Option Token}
  {literal : Token}

theorem stands (atNumber : cursor.AtNumber sign literal) (part : cursor.Part source found)
    (lexed : Lexed .start source found) :
    ∀ token ∈ sign.toList ++ [literal], token.Stands source := by
  rcases atNumber.ahead with ⟨rest, ahead⟩
  intro token member
  apply lexed.stands
  apply part.among.subset
  apply List.mem_of_mem_drop
  rw [ahead, List.append_cons]
  exact List.mem_append_left rest member

/-- A number is what its type reads the text as that it is given. -/
theorem run_number (atNumber : cursor.AtNumber sign literal) (part : cursor.Part source found)
    (lexed : Lexed .start source found) (type : LiteralType α) :
    (cursor.run (Grammar.number type)).1 =
      match type.read (handed sign literal) with
      | .ok value => .ok ⟨value, numberSpan sign literal⟩
      | .error _ => .error (Grammar.mismatch type source (Number.signText sign.isSome) literal
          (numberSpan sign literal)) := by
  have stands := atNumber.stands part lexed
  rcases atNumber.ahead with ⟨rest, ahead⟩
  have marks : literal.kind ≠ .eof := by simp [atNumber.number]
  have read : (cursor.run (Grammar.number type)).1 =
      Grammar.readLiteral type source (Number.signText sign.isSome) literal
        (numberSpan sign literal) := by
    cases sign with
    | none =>
        have feed : cursor.feed.ahead = literal :: rest := ahead
        rw [Cursor.run, Grammar.run_number_of_cons feed marks (by simp [atNumber.number]),
          ← part.source_eq]
        rfl
    | some minus =>
        have feed : cursor.feed.ahead = minus :: literal :: rest := ahead
        have isMinus := atNumber.minus minus rfl
        have value := (stands minus (by simp)).value_of_minus isMinus
        have ordered : Ordered (minus :: literal :: rest) := by
          rw [← feed]
          exact (lexed.ordered.sublist part.among.sublist).sublist (List.drop_sublist _ _)
        -- The sign stands in front of the literal, so the span of both starts with it.
        have joined : minus.span.join literal.span = minus.span.through literal.span :=
          @join_eq_through [] [] rest minus literal ordered
        rw [Cursor.run, Grammar.run_number_of_minus_cons feed isMinus marks, value, joined,
          ← part.source_eq]
        rfl
  rw [read, Grammar.readLiteral, if_pos atNumber.number]
  rfl

end AtNumber

/-! ## Integers -/

/-- Integer literals mean their decimal value.  Take any cursor that comes about from the
tokens of a scan, and let a number literal stand there, with a minus sign in front or without
one.  An integer type reads the number exactly if the literal has neither a fraction nor an
exponent and at most 4300 digits, and the type holds the value of the digits with its sign; it
is read as this value.  Otherwise it is refused with a message that quotes the sign and the
literal as they are written.  In both cases the span goes from the start of the sign, or of the
literal, to the end of the literal. -/
theorem Descends.number_integer {source : Text} {stream : List Token} {root cursor : Cursor}
    {sign : Option Token} {literal : Token} (tokenized : tokenize source = .ok stream)
    (rooted : ofTokens? stream source = some root) (descends : root.Descends cursor)
    (atNumber : cursor.AtNumber sign literal) (type : IntegerType) :
    (∀ number, (cursor.run (Grammar.number type.literals)).1 = .ok number ↔
      type.Denotes sign.isSome literal.value number.item ∧
        number.span = (sign.getD literal).span.through literal.span) ∧
    ((¬ ∃ value, type.Denotes sign.isSome literal.value value) →
      (cursor.run (Grammar.number type.literals)).1.mapError Fault.diagnostic =
        .error ⟨.typeMismatch,
          "Expected " ++ type.name ++ ", got " ++
            ("`" ++ String.ofList (Number.signText sign.isSome ++ literal.span.text source) ++ "`"),
          some ((sign.getD literal).span.through literal.span)⟩) := by
  rcases part_of_tokenize tokenized rooted with ⟨found, lexed, _, whole⟩
  have part := descends.part whole lexed.ordered
  have isNumber := (atNumber.stands part lexed literal (by simp)).isNumber atNumber.number
  have denotes : ∀ value, type.literals.read (handed sign literal) = .ok value ↔
      type.Denotes sign.isSome literal.value value :=
    fun _ => IntegerType.read_literal_iff isNumber
  rw [atNumber.run_number part lexed]
  cases read : type.literals.read (handed sign literal) with
  | ok value =>
      have denoted := (denotes value).1 read
      constructor
      · intro number
        constructor
        · rintro ⟨⟩
          exact ⟨denoted, rfl⟩
        · rintro ⟨other, span_eq⟩
          rcases number with ⟨item, span⟩
          have same : item = value := other.value_eq.trans denoted.value_eq.symm
          cases same
          cases span_eq
          rfl
      · intro none
        exact absurd ⟨value, denoted⟩ none
  | error fault =>
      constructor
      · intro number
        constructor
        · rintro ⟨⟩
        · rintro ⟨denoted, _⟩
          cases read.symm.trans ((denotes number.item).2 denoted)
      · intro _
        rfl

/-- A minus sign, a newline and a literal with an underscore: with the sign in front the
literal is the least number of its type, and without it is too large. -/
theorem Descends.number_integer_least :
    let root : Cursor :=
      { tokens := [⟨.minus, ['-'], ⟨0, 1, 1, 1⟩⟩, ⟨.number, "1_28".toList, ⟨2, 6, 2, 1⟩⟩]
        last := .endAt ⟨6, 6, 2, 5⟩
        source := "-\n1_28".toList }
    (root.run (Grammar.number IntegerType.i8.literals)).1 = .ok ⟨-128, ⟨0, 6, 1, 1⟩⟩ ∧
      (Cursor.run { root with index := 1 } (Grammar.number IntegerType.i8.literals)).1.mapError
          Fault.diagnostic =
        .error ⟨.typeMismatch, "Expected i8, got `1_28`", some ⟨2, 6, 2, 1⟩⟩ := by
  intro root
  have tokenized : tokenize root.source = .ok (root.tokens ++ [root.last]) := by decide +kernel
  constructor
  · have atNumber : root.AtNumber root.tokens.head? ⟨.number, "1_28".toList, ⟨2, 6, 2, 1⟩⟩ :=
      ⟨⟨[], rfl⟩, by decide, rfl⟩
    apply ((number_integer tokenized rfl .root atNumber .i8).1 _).2
    have run : Run "1_28".toList := run_iff.2 ⟨rfl, List.all_eq_true.1 rfl⟩
    exact ⟨⟨run, by decide, by decide, by decide, by decide⟩, rfl⟩
  · have atNumber : Cursor.AtNumber { root with index := 1 } none
        ⟨.number, "1_28".toList, ⟨2, 6, 2, 1⟩⟩ :=
      ⟨⟨[], rfl⟩, by decide, rfl⟩
    apply (number_integer tokenized rfl (.moved 1 .root) atNumber .i8).2
    rintro ⟨value, denotes⟩
    have value_eq : value = 128 := denotes.value_eq.trans (by decide)
    have greatest := denotes.greatest
    rw [value_eq] at greatest
    exact absurd greatest (by decide)

end Cursor

/-! ## Longest match -/

namespace Scanner

/-- Where a digit stands, the longest number is read and passed. -/
theorem call_readNumber {scanner : Scanner} (digit : startsDigit scanner.rest = true) :
    ∃ number rest, Longest IsNumber scanner.rest number ∧ scanner.rest = number ++ rest ∧
      scanner.call .readNumber = (.ok (.text number), scanner.past number rest) := by
  have longest := longest_numberOf digit
  rcases longest.begins with ⟨rest, ahead⟩
  refine ⟨numberOf scanner.rest, rest, longest, ahead.symm, ?_⟩
  rw [← skip_of_rest ahead.symm]
  rfl

end Scanner

/-- Numbers are scanned by longest match: a scanner in front of a digit reads and passes the
longest text of the form `run ['.' run] [('e' | 'E') ['+' | '-'] run]` there.  So wherever a
number stands at a cursor over the tokens of a scan, what its type is given to read consists
of a minus sign, if there is one, and a text of this form with digits only.  An integer type
refuses it for its form exactly if there is a fraction or an exponent, and otherwise only
for too many digits or for its limits.  A floating point type refuses it only as too large. -/
theorem numbers_longestMatch :
    (∀ scanner : Scanner, startsDigit scanner.rest = true →
      ∃ number rest, Longest IsNumber scanner.rest number ∧ scanner.rest = number ++ rest ∧
        scanner.call .readNumber =
          (.ok (.text number), { scanner with place := scanner.place.walk number, rest })) ∧
    ∀ {source : Text} {stream : List Token} {root cursor : Cursor} {sign : Option Token}
      {literal : Token}, tokenize source = .ok stream → Cursor.ofTokens? stream source = some root →
      root.Descends cursor → cursor.AtNumber sign literal →
      ∃ text whole fraction exponent,
        text = (if sign.isSome then ['-'] else []) ++ Number.withoutUnderscores literal.value ∧
        Numeral Text.Digits (Number.withoutUnderscores literal.value) whole fraction exponent ∧
        (∀ {α : Type} (type : LiteralType α),
          ((cursor.run (Grammar.number type)).1.map Spanned.item).toOption =
            (type.read text).toOption) ∧
        (∀ type : IntegerType, whole.length ≤ 4300 →
          ((∃ fault, type.read text = .error fault ∧ fault.IllFormed) ↔
            fraction ≠ [] ∨ exponent ≠ [])) ∧
        (∀ type : IntegerType, 4300 < whole.length →
          type.read text = .error (.tooManyDigits whole.length)) ∧
        ∀ (type : FloatType) (fault : NumberFault),
          type.read text = .error fault → fault = .overflow text := by
  constructor
  · intro scanner digit
    exact Scanner.call_readNumber digit
  · intro source stream root cursor sign literal tokenized rooted descends atNumber
    rcases Cursor.part_of_tokenize tokenized rooted with ⟨found, lexed, _, whole⟩
    have part := descends.part whole lexed.ordered
    have isNumber := (atNumber.stands part lexed literal (by simp)).isNumber atNumber.number
    rcases isNumber with ⟨whole, fraction, exponent, numeral⟩
    have bare := numeral.withoutUnderscores
    refine ⟨Cursor.handed sign literal, _, _, _, rfl, bare, ?_, ?_, ?_, ?_⟩
    · intro α type
      rw [atNumber.run_number part lexed]
      cases type.read (Cursor.handed sign literal) with
      | ok value => rfl
      | error fault => rfl
    · intro type few
      exact type.illFormed_iff bare sign.isSome few
    · intro type many
      exact type.read_of_many bare sign.isSome many
    · intro type fault refused
      exact type.read_literal bare sign.isSome refused

/-- An exponent without digits is left to the next token.  A sign, blanks and a literal with
an exponent are no integer, whatever the type. -/
theorem numbers_longestMatch_exponent :
    Longest IsNumber "1__0.2_5e+x".toList "1__0.2_5".toList ∧
      ∀ type : IntegerType, ∃ fault, type.read "-10e5".toList = .error fault ∧ fault.IllFormed := by
  constructor
  · rcases numbers_longestMatch.1 (.start "1__0.2_5e+x".toList) rfl with
      ⟨number, rest, longest, _, read⟩
    have number_eq : number = "1__0.2_5".toList := by
      have answer := congrArg Prod.fst read
      cases answer
      rfl
    exact number_eq ▸ longest
  · let literal : Token := ⟨.number, "1_0e5".toList, ⟨2, 7, 1, 3⟩⟩
    let root : Cursor :=
      { tokens := [⟨.minus, ['-'], ⟨0, 1, 1, 1⟩⟩, literal]
        last := .endAt ⟨7, 7, 1, 8⟩
        source := "- 1_0e5".toList }
    have tokenized : tokenize root.source = .ok (root.tokens ++ [root.last]) := by decide +kernel
    have atNumber : root.AtNumber root.tokens.head? literal := ⟨⟨[], rfl⟩, by decide, rfl⟩
    rcases numbers_longestMatch.2 tokenized rfl .root atNumber with
      ⟨_, whole, fraction, exponent, rfl, numeral, _, illFormed_iff, _⟩
    have few : whole.length ≤ 4300 := by
      have short : 4 = (whole ++ (fraction ++ exponent)).length :=
        congrArg List.length numeral.text_eq
      rw [List.length_append] at short
      omega
    intro type
    apply (illFormed_iff type few).2
    by_contra absent
    rw [not_or, not_not, not_not] at absent
    have whole_eq : "10e5".toList = whole := by
      have text_eq := numeral.text_eq
      rw [absent.1, absent.2, List.append_nil, List.append_nil] at text_eq
      exact text_eq
    have digits : ∀ c ∈ "10e5".toList, c.isDigit = true := whole_eq ▸ numeral.whole.2
    exact absurd (digits 'e' (by decide)) (by decide)

end GuardLang
