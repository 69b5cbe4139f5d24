import ForeignCall.Source.Grammar.Item

/-!
# Reading expressions

An expression is read by the rules of the grammar and given back as it is printed, with every
operator spelled as one, while the arguments of macros stay as they are.

* `Rule.parse` reads by a rule; `Expression.front?` reads the expression in front of tokens,
  `Expression.parse?` tokens that are one expression.
-/

namespace ForeignCall

/-- Reads by a rule; `g` reads the parts. -/
def Grammar.step (g : Grammar) : Grammar
  | .expr structs => g.readExpr structs
  | .unary structs => g.readUnary structs
  | .operand structs level => g.readOperand structs level
  | .type plus => g.readType plus
  | .bound capturing constant => g.readBound capturing constant
  | .pattern => g.readPattern
  | .statements => g.readStatements
  | .arms => g.readArms
  | .item => g.readItem
  | .useTree root => g.readUseTree root

/-- Reads by a rule, with a bound on how deep rules may call each other. -/
def Rule.parse : Nat → Grammar
  | 0 => fun _ => failure
  | n + 1 => Grammar.step (Rule.parse n)

namespace Expression

/-- A depth that suffices for tokens: between two tokens fewer rules than this call each other. -/
def depth (ts : List Token) : Nat := 8 * (ts.length + 2)

/-- The expression in front of tokens, as it is printed, and what follows it. -/
def front? (ts : List Token) : Option (List Token × List Token) :=
  (Rule.parse (depth ts) (.expr true) ⟨ts, []⟩).map fun r => (r.2.printed.reverse, r.2.rest)

/-- The tokens as one expression, as it is printed. -/
def parse? (ts : List Token) : Option (List Token) :=
  match front? ts with
  | some (tokens, []) => some tokens
  | _ => none

end Expression
end ForeignCall
