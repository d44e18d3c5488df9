/-!
# Log records

What happens while an annotation is read, for those who want to follow it.
-/

namespace GuardLang

/-- How important a record is. -/
inductive Level where
  | debug
  | warning
  deriving DecidableEq, Repr

/-- One record. -/
structure Record where
  level : Level
  text : String
  deriving DecidableEq, Repr

/-- Records in the order in which they were made. -/
abbrev Log := List Record

namespace Log

/-- The texts of the warnings. -/
def warnings (log : Log) : List String :=
  (log.filter fun record => record.level == .warning).map (·.text)

end Log

end GuardLang
