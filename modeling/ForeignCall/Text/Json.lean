import ForeignCall.Text

/-!
# JSON

A JSON document, printed over several lines with two blanks for each level. Texts are kept as they
are except for quotes, backslashes and the control characters before the blank.
-/

namespace ForeignCall

inductive JsonDoc where
  | text (t : Text)
  | number (n : Nat)
  | array (items : List JsonDoc)
  | object (fields : List (Text × JsonDoc))

namespace JsonDoc

def escape (c : Char) : Text :=
  match c with
  | '"' => "\\\""
  | '\\' => "\\\\"
  | '\n' => "\\n"
  | '\r' => "\\r"
  | '\t' => "\\t"
  | '\x08' => "\\b"
  | '\x0c' => "\\f"
  | _ =>
    if c.toNat < 0x20 then
      let digits := Text.hex c.toNat
      "\\u".toList ++ List.replicate (4 - digits.length) '0' ++ digits
    else [c]

def quote (t : Text) : Text := '"' :: (t.flatMap escape ++ ['"'])

def indent (level : Nat) : Text := '\n' :: List.replicate (2 * level) ' '

/-- Lines between brackets; brackets without lines are closed at once. -/
def enclose (level : Nat) (left right : Char) (lines : List Text) : Text :=
  if lines = [] then [left, right]
  else
    left :: (indent (level + 1) ++ Text.join (',' :: indent (level + 1)) lines ++ indent level ++
      [right])

mutual
def render (level : Nat) : JsonDoc → Text
  | text t => quote t
  | number n => Text.ofNat n
  | array items => enclose level '[' ']' (renderItems (level + 1) items)
  | object fields => enclose level '\x7b' '\x7d' (renderFields (level + 1) fields)

def renderItems (level : Nat) : List JsonDoc → List Text
  | [] => []
  | item :: rest => render level item :: renderItems level rest

def renderFields (level : Nat) : List (Text × JsonDoc) → List Text
  | [] => []
  | (name, value) :: rest =>
    (quote name ++ ": " ++ render level value) :: renderFields level rest
end

end JsonDoc
end ForeignCall
