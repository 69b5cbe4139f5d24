import ForeignCall.Binding.Entry
import ForeignCall.Dynamic
import ForeignCall.Source.Lexer

/-!
# Resolvers of library specifications

A resolver that is written for a library specification is a call of the registry for the whole
process, with the specification as its argument. Its tokens tell the specification again, by the
rules of text literals.

* `LibrarySpec.ofResolver?` reads the specification off the tokens, `EntryModule.resolve?` is what
  evaluating them does to a registry.
-/

namespace ForeignCall

/-- What follows the tokens `start`, if they stand in front. -/
def Token.strip? : List Token → List Token → Option (List Token)
  | [], ts => some ts
  | _ :: _, [] => none
  | a :: start, t :: ts => if a = t then strip? start ts else none

theorem Token.strip?_append (start ts : List Token) : strip? start (start ++ ts) = some ts := by
  induction start with
  | nil => cases ts <;> rfl
  | cons t start ih => rw [List.cons_append, strip?, if_pos rfl, ih]

/-- The text that a token is a literal of. -/
def Token.textValue? : Token → Option Text
  | .literal t =>
    match Literal.text? t with
    | some (value, []) => some value
    | _ => none
  | _ => none

/-- The texts of literals up to a closing square bracket, with commas between them, and what follows
the bracket. -/
def Token.textList? : List Token → Option (List Text × List Token)
  | .closing .square :: rest => some ([], rest)
  | t :: .closing .square :: rest => t.textValue?.map fun value => ([value], rest)
  | t :: .mark ',' _ :: rest => do
    let value ← t.textValue?
    let (values, rest) ← textList? rest
    return (value :: values, rest)
  | _ => none

/-- The tokens in front of the specification in a resolver. -/
def resolverStart : List Token :=
  code ":: natbind_runtime :: resolve ( & :: natbind_runtime :: LibrarySpec ::"

/-- The specification in the tokens of a resolver. -/
def LibrarySpec.ofResolver? (ts : List Token) : Option LibrarySpec := do
  match ← Token.strip? resolverStart ts with
  | [.word name, .closing .round] =>
    if name = "CurrentProcess".toList then some .currentProcess else none
  | .word name :: .opening .round :: .opening .square :: rest =>
    match ← Token.textList? rest with
    | (names, [.closing .round, .closing .round]) =>
      if name = "candidates".toList then some (.candidates names) else none
    | _ => none
  | _ => none

/-- What the resolver of a module does, if it was written for a library specification. -/
def EntryModule.resolve? (m : EntryModule) (loader : Loader Library) :
    Option (Registry Library → Except BindError SymbolLookup × Registry Library) :=
  (LibrarySpec.ofResolver? m.resolver).map fun spec r =>
    let (library, r) := r.resolve loader spec
    (library.map Library.lookup, r)

end ForeignCall
