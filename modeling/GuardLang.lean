import GuardLang.Text
import GuardLang.Text.Blank
import GuardLang.Text.Word
import GuardLang.Text.Digit
import GuardLang.Text.Quoted
import GuardLang.Fault
import GuardLang.Scanner.Call
import GuardLang.Declaration
import GuardLang.Cursor.Step
import GuardLang.Proofs.Lexeme.Number
import GuardLang.Proofs.Located
import GuardLang.Proofs.Lexeme.Literal
import GuardLang.Proofs.Lexeme.Form
import GuardLang.Proofs.Brackets
import GuardLang.Proofs.Scanner.Lexed
import GuardLang.Proofs.Scanner.Lossless
import GuardLang.Proofs.Parser.InStep
import GuardLang.Proofs.Guard.Alike
import GuardLang.Proofs.Grammar.InStep
import GuardLang.Proofs.Declaration.InStep
import GuardLang.Proofs.Declaration.Located
import GuardLang.Proofs.Scanner.Respaced
import GuardLang.Proofs.Declaration.Respaced
import GuardLang.Proofs.Declaration.Derivation
import GuardLang.Proofs.Declaration.Accepted
import GuardLang.Proofs.Guard.Consistent
import GuardLang.Proofs.Declaration.WellFormed
import GuardLang.Proofs.Brackets.Open
import GuardLang.Proofs.Scanner.Diagnosis
import GuardLang.Proofs.Cursor.Lists
import GuardLang.Proofs.Declaration.Satisfiable
import GuardLang.Proofs.Grammar.Gate
import GuardLang.Proofs.Declaration.Gate
import GuardLang.Proofs.Number.Decimal
import GuardLang.Proofs.Declaration.Printed
import GuardLang.Proofs.Grammar.Writes
import GuardLang.Proofs.Grammar.Reprinted
import GuardLang.Proofs.Declaration.RoundTrip
import GuardLang.Proofs.Guard.Verdict
import GuardLang.Proofs.Declaration.Commuting
import GuardLang.Proofs.Declaration.Faithful
import GuardLang.Proofs.Guard.Reordered
import GuardLang.Proofs.Scanner.Joined
import GuardLang.Proofs.Lexeme.Numeral
import GuardLang.Proofs.Cursor.Numbers
import GuardLang.Proofs.Scanner.Strings
import GuardLang.Proofs.Guard.Dense
import GuardLang.Proofs.Cursor.Patterns
import GuardLang.Proofs.Declaration.Rendered
import GuardLang.Proofs.Cursor.Types
import GuardLang.Proofs.Scanner.Calls
import GuardLang.Proofs.Cursor.Onward
import GuardLang.Proofs.Cursor.Closures
