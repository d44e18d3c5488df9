import GuardLang.Cursor
import GuardLang.Grammar.Item

/-!
# Steps with cursors

The operations of a cursor and the rules of the grammar as values, so that
parsing can be driven step by step.  Cursors are kept on a stack: entering a
group puts a cursor over its tokens on top, and leaving it takes that one off
again.  A fault stops nothing; the cursor stays where it had got to.
-/

namespace GuardLang.Cursor

/-- A rule of the grammar.  Number types are given by name. -/
inductive Rule where
  | path
  | type
  | function
  | closure
  | typedFunction (expected : Text)
  | signedLiteral
  | number (type : String)
  | assignedNumber (type : String)
  | pattern
  deriving DecidableEq, Repr

/-- What a rule reads. -/
inductive Product where
  | text (read : Spanned Text)
  | function (read : FunctionRef)
  | bound (read : Spanned BoundFunction)
  | signed (read : Grammar.SignedLiteral)
  | number (read : Spanned Number)
  | pattern (read : Spanned Pattern)
  deriving DecidableEq, Repr

namespace Rule

/-- The number type with a given name. -/
def numberType (name : String) : Parser NumberType :=
  match NumberType.ofName? name with
  | some known => pure known
  | none => Parser.fail (.unlocated (.unknownNumberType name))

/-- The parser of a rule. -/
def parser : Rule → Parser Product
  | path => .text <$> Grammar.path
  | type => .text <$> Grammar.type
  | function => .function <$> Grammar.function
  | closure => .function <$> Grammar.closure
  | typedFunction expected => .bound <$> Grammar.typedFunction expected
  | signedLiteral => .signed <$> Grammar.signedLiteral
  | number name => do return .number (← Grammar.number (← numberType name).literals)
  | assignedNumber name => do
    return .number (← Grammar.assignedNumber (← numberType name).literals)
  | pattern => .pattern <$> Grammar.pattern

end Rule

/-- An operation on the topmost cursor. -/
inductive Step where
  | current
  | peek (offset : Int)
  | advance
  | expect (kind : TokenKind)
  | isAt (kinds : List TokenKind)
  | atEnd
  | mark
  | reset (index : Nat)
  | describe
  | enter
  | leave
  | parse (rule : Rule)
  | attempt (rule : Rule)
  | punctuated (rule : Rule)
  deriving DecidableEq, Repr

/-- What an operation answers. -/
inductive Reply where
  | nothing
  | token (token : Token)
  | flag (value : Bool)
  | index (value : Nat)
  | words (text : String)
  | span (span : Span)
  | product (product : Product)
  | products (products : List Product)
  deriving DecidableEq, Repr

/-- Cursors, the topmost apart. -/
structure Stack where
  top : Cursor
  below : List Cursor := []
  deriving DecidableEq, Repr

namespace Stack

/-- The number of cursors. -/
def depth (stack : Stack) : Nat := stack.below.length + 1

/-- Apply a parser from the topmost cursor's place on. -/
def run {α : Type} (stack : Stack) (parser : Parser α) (reply : α → Reply) :
    Except Fault Reply × Stack :=
  let (outcome, top) := stack.top.run parser
  (outcome.map reply, { stack with top })

/-- Carry out one operation. -/
def step (stack : Stack) : Step → Except Fault Reply × Stack
  | .current => stack.run Parser.current .token
  | .peek offset =>
    (.ok (.token (stack.top.get (stack.top.index + offset).toNat)), stack)
  | .advance => stack.run Parser.advance .token
  | .expect kind => stack.run (Parser.expect kind) .token
  | .isAt kinds => stack.run (Parser.isAt kinds) .flag
  | .atEnd => stack.run Parser.atEnd .flag
  | .mark => (.ok (.index stack.top.index), stack)
  | .reset index => (.ok .nothing, { stack with top := { stack.top with index } })
  | .describe => stack.run Parser.current fun token => .words token.found.describe
  | .enter =>
    match stack.top.run Parser.group with
    | (.ok group, top) =>
      (.ok (.span group.span), ⟨.ofFeed group.item, top :: stack.below⟩)
    | (.error fault, top) => (.error fault, { stack with top })
  | .leave =>
    match stack.below with
    | [] => (.ok .nothing, stack)
    | top :: below => (.ok .nothing, ⟨top, below⟩)
  | .parse rule => stack.run rule.parser .product
  | .attempt rule =>
    stack.run (Parser.attempt rule.parser) fun
      | some product => .product product
      | none => .nothing
  | .punctuated rule => stack.run (Parser.punctuated rule.parser) .products

/-- Carry out operations in turn, whatever they answer: each outcome with the
stack it leaves behind. -/
def steps (stack : Stack) : List Step → List (Except Fault Reply × Stack)
  | [] => []
  | step :: rest =>
    let answer := stack.step step
    answer :: answer.2.steps rest

end Stack

end GuardLang.Cursor
