namespace StaticSemantics

/-!
# Binary operators

Arithmetic needs two integers.  The other operators compare, and need two
operands that agree with each other.
-/

inductive Operator where
  | plus
  | minus
  | times
  | divide
  | equal
  | unequal
  | less
  | lessOrEqual
  | greater
  | greaterOrEqual
  deriving DecidableEq, Repr

namespace Operator

/-- Whether the operands have to be integers. -/
def isArithmetic : Operator → Bool
  | plus | minus | times | divide => true
  | _ => false

/-- How an operator is written in a program. -/
def symbol : Operator → String
  | plus => "+"
  | minus => "-"
  | times => "*"
  | divide => "/"
  | equal => "="
  | unequal => "<>"
  | less => "<"
  | lessOrEqual => "<="
  | greater => ">"
  | greaterOrEqual => ">="

/-- No two operators are written alike. -/
theorem symbol_injective {first second : Operator} (same : first.symbol = second.symbol) :
    first = second := by
  cases first <;> cases second <;> first | rfl | exact absurd same (by decide)

end Operator
end StaticSemantics
