import ForeignCall.Source.Grammar.Pattern

/-!
# Reading what follows an atom

Calls, fields, indexes and question marks, as many as there are.

* `Grammar.trailers` reads them.
-/

namespace ForeignCall
namespace Grammar

open TokenReader

variable (g : Grammar)

def arguments : TokenReader Unit := within .round (commaList atEnd g.value)

def namedMember : TokenReader Unit := do
  name
  if ← sees (atOperator "::") then
    op "::"
    let _ ← g.genericArguments
    g.arguments
  else whenAt (atOpening .round) g.arguments

/-- What follows the dot: a field, a method call or an await. A literal with a point in it stands
for two fields, or for a field and the dot of the next. -/
def member : TokenReader Unit := do
  match ← ahead with
  | .literal t :: _ =>
    let parts := Text.splitAll '.' t
    match (parts.filter (· ≠ [])).mapM fieldNumber? with
    | none => failure
    | some numbers =>
      skip 1
      emit ((numbers.map fun n => Token.literal (Text.ofNat n)).intersperse (.mark '.' false))
      if parts.getLast? = some [] then
        emit (Token.operator ".")
        if ← sees (atWord "await") then anyWord
        else if ← sees atFieldNumber then fieldNumber
        else g.namedMember
  | ts => if atWord "await" ts then anyWord else g.namedMember

/-- What follows an atom of some form; neither a field nor a question mark follows a range. -/
def trailers (form : Form) : TokenReader Form :=
  iterate (fun form => do
    let ts ← ahead
    if atOpening .round ts then g.arguments
    else if atDot ts && form ≠ .range then
      op "."
      g.member
    else if atOpening .square ts then within .square g.value
    else if atOperator "?" ts && form ≠ .range then op "?"
    else return none
    return some .plain) form

end Grammar
end ForeignCall
