import ForeignCall.Text

/-!
# TOML numbers and dates

Where a number or a date ends. Whole numbers have 64 bits, and other numbers must not be beyond the
largest double; a date must be one of the calendar.

* `Toml.scalarEnd?` gives what follows the number or date in front of a text.
-/

namespace ForeignCall.Toml

/-! ## 1. Digits -/

def moreDigits (digit : Char → Bool) : Text → Option Text
  | '_' :: c :: rest => if digit c then moreDigits digit rest else none
  | c :: rest => if digit c then moreDigits digit rest else some (c :: rest)
  | [] => some []

def digits? (digit : Char → Bool) (s : Text) : Option Text :=
  match s with
  | c :: rest => if digit c then moreDigits digit rest else none
  | [] => none

/-- What follows the sign in front, if there is one. -/
def skipSign (s : Text) : Text :=
  match s with
  | '+' :: rest => rest
  | '-' :: rest => rest
  | s => s

/-- What follows a decimal whole number; it has no zeros in front. -/
def decimalEnd? (s : Text) : Option Text :=
  match skipSign s with
  | '0' :: rest => some rest
  | s => digits? Char.isDigit s

/-- The front of a text that ends where `rest` begins. -/
def front (s rest : Text) : Text := s.take (s.length - rest.length)

/-- The digits of a text as a number. -/
def value (base : Nat) (s : Text) : Nat :=
  (s.filterMap Text.hexDigit?).foldl (fun n d => n * base + d) 0

/-! ## 2. Numbers -/

def largestWhole : Nat := 0x7fffffffffffffff

/-- What follows a whole number. -/
def wholeEnd? (s : Text) : Option Text :=
  let based (base : Nat) (digit : Char → Bool) (digits : Text) : Option Text := do
    let rest ← digits? digit digits
    if value base (front digits rest) ≤ largestWhole then some rest else none
  match s with
  | '0' :: 'x' :: digits => based 16 (fun c => (Text.hexDigit? c).isSome) digits
  | '0' :: 'o' :: digits => based 8 (fun c => '0' ≤ c && c ≤ '7') digits
  | '0' :: 'b' :: digits => based 2 (fun c => c == '0' || c == '1') digits
  | _ => do
    let rest ← decimalEnd? s
    let bound := if s.head? = some '-' then largestWhole + 1 else largestWhole
    if value 10 (front s rest) ≤ bound then some rest else none

def exponentEnd? (s : Text) : Option Text :=
  match s with
  | 'e' :: rest => digits? Char.isDigit (skipSign rest)
  | 'E' :: rest => digits? Char.isDigit (skipSign rest)
  | _ => none

/-- The least number that is nearer to the power of two above the largest double than to that. -/
def doubleLimit : Nat := Nat.pow 2 1024 - Nat.pow 2 970

/-- The number `n * 10 ^ e` is no double. -/
def isTooLarge (n : Nat) (e : Int) : Bool :=
  let magnitude := ((Text.ofNat n).length : Int) + e
  if n = 0 ∨ magnitude < 309 then false
  else if 310 ≤ magnitude then true
  else if 0 ≤ e then decide (doubleLimit ≤ n * Nat.pow 10 e.toNat)
  else decide (doubleLimit * Nat.pow 10 (-e).toNat ≤ n)

/-- What follows a number with a point or an exponent. -/
def floatEnd? (s : Text) : Option Text := do
  let tail ← decimalEnd? s
  let afterPoint ← match tail with
    | '.' :: rest => digits? Char.isDigit rest
    | _ => some tail
  let rest := (exponentEnd? afterPoint).getD afterPoint
  let places := ((front tail afterPoint).filter Char.isDigit).length
  let exponent := (front afterPoint rest).drop 1
  let size := value 10 exponent
  let power : Int := if exponent.head? = some '-' then -size else size
  let tooLarge := s.head? ≠ some '-' ∧ isTooLarge (value 10 (front s afterPoint)) (power - places)
  if rest.length = tail.length ∨ tooLarge then none else some rest

def namedEnd? (s : Text) : Option Text :=
  let s := skipSign s
  (Text.stripPrefix? "inf" s).or (Text.stripPrefix? "nan" s)

/-! ## 3. Dates -/

/-- The number of exactly `count` digits in front, between two bounds, and what follows. -/
def number? (count low high : Nat) (s : Text) : Option (Nat × Text) :=
  let digits := s.take count
  let n := value 10 digits
  if digits.length = count ∧ digits.all Char.isDigit ∧ low ≤ n ∧ n ≤ high then
    some (n, s.drop count)
  else none

/-- The days of a month. -/
def daysIn (year month : Nat) : Nat :=
  let leap := year % 4 = 0 ∧ (year % 100 ≠ 0 ∨ year % 400 = 0)
  if month = 2 then (if leap then 29 else 28)
  else if month ∈ [4, 6, 9, 11] then 30
  else 31

def dayEnd? (s : Text) : Option Text := do
  let (year, s) ← number? 4 0 9999 s
  let (month, s) ← number? 2 1 12 (← Text.stripPrefix? "-" s)
  let (_, s) ← number? 2 1 (daysIn year month) (← Text.stripPrefix? "-" s)
  return s

def timeEnd? (s : Text) : Option Text := do
  let (_, s) ← number? 2 0 23 s
  let (_, s) ← number? 2 0 59 (← Text.stripPrefix? ":" s)
  let (_, s) ← number? 2 0 60 (← Text.stripPrefix? ":" s)
  match s with
  | '.' :: rest => if rest.head?.any Char.isDigit then some (rest.dropWhile Char.isDigit) else none
  | s => some s

/-- What follows the distance from universal time. -/
def offsetEnd? (s : Text) : Option Text :=
  match s with
  | 'Z' :: rest => some rest
  | 'z' :: rest => some rest
  | c :: rest =>
    if c = '+' ∨ c = '-' then do
      let (_, s) ← number? 2 0 23 rest
      let (_, s) ← number? 2 0 59 (← Text.stripPrefix? ":" s)
      return s
    else none
  | [] => none

/-- What follows a day with or without a time. -/
def dateEnd? (s : Text) : Option Text := do
  let day ← dayEnd? s
  match day with
  | [] => return day
  | c :: rest =>
    match (if c = 'T' ∨ c = 't' ∨ c = ' ' then timeEnd? rest else none) with
    | some time => return (offsetEnd? time).getD time
    | none => return day

/-- What follows the number or date in front. -/
def scalarEnd? (s : Text) : Option Text :=
  [dateEnd?, timeEnd?, floatEnd?, namedEnd?, wholeEnd?].findSome? fun ending => ending s

end ForeignCall.Toml
