import ForeignCall.Text.Unprintable

/-!
# Quoted text

How a text is written between double quotes: a quote, a backslash and the unprintable characters are
escaped, everything else stands as it is.

* `encode` writes a text for a reader, `literal` for source code, where no digit may seem to belong
  to the escape of a zero character.
-/

namespace ForeignCall.Quoted

def escape (c : Char) : Text :=
  match c with
  | '\x00' => "\\0"
  | '\t' => "\\t"
  | '\r' => "\\r"
  | '\n' => "\\n"
  | '\\' => "\\\\"
  | '"' => "\\\""
  | _ =>
    if isUnprintable c then "\\u".toList ++ '\x7b' :: (Text.hex c.toNat ++ ['\x7d']) else [c]

def encode (t : Text) : Text := '"' :: (t.flatMap escape ++ ['"'])

/-- What stands between the quotes of a literal: a zero character in front of an octal digit has an
escape of its own. -/
def literalBody : Text → Text
  | [] => []
  | '\x00' :: c :: rest =>
    (if '0' ≤ c ∧ c ≤ '7' then "\\x00".toList else "\\0") ++ literalBody (c :: rest)
  | c :: rest => escape c ++ literalBody rest

def literal (t : Text) : Text := '"' :: (literalBody t ++ ['"'])

end ForeignCall.Quoted
