import ForeignCall.Binding.Generate
import ForeignCall.Binding.ShapeList
import ForeignCall.Proofs.Plan.Meaning
import ForeignCall.Proofs.Table.Changing

/-!
# What is made from a description

Source files, shape lists and tables are made from the plan of a description and from nothing else
of it, so the same comes out for every description with the same meaning.

* `Description.SameMeaning.build_eq`: a table is built alike, with the same questions to the lookup.
* `Description.SameMeaning.outputs_eq`: everything that is made from the two descriptions is equal.
-/

namespace ForeignCall

namespace Description.SameMeaning

variable {d d' : Description} {p : Plan}

theorem build_eq (h : d.SameMeaning d') (hp : Plan.analyze d = .ok p) (lookup : SymbolLookup) :
    BindingTable.build d' lookup = BindingTable.build d lookup := by
  rw [BindingTable.build, BindingTable.build, h.analyzeWith_eq hp]

theorem buildChanging_eq (h : d.SameMeaning d') (hp : Plan.analyze d = .ok p)
    (l : ChangingLookup) :
    BindingTable.buildChanging d' l = BindingTable.buildChanging d l := by
  rw [BindingTable.buildChanging, BindingTable.buildChanging, h.analyzeWith_eq hp]

/-- If a description has a plan, every description with the same meaning has this plan; the two give
the same source files and shape lists or the same errors, and the same tables or errors over every
lookup, with the same questions to it, also if its answers change. -/
theorem outputs_eq (h : d.SameMeaning d') (hp : Plan.analyze d = .ok p) :
    Plan.analyze d' = .ok p ∧
    generate d' = generate d ∧
    (∀ resolver, generateEntry d' resolver = generateEntry d resolver) ∧
    (∀ resolver, generateBoth d' resolver = generateBoth d resolver) ∧
    shapesText d' = shapesText d ∧
    (∀ lookup, BindingTable.build d' lookup = BindingTable.build d lookup) ∧
    ∀ l : ChangingLookup, BindingTable.buildChanging d' l = BindingTable.buildChanging d l := by
  have hp' : Plan.analyze d' = .ok p := h.analyze_eq hp
  have hplan : planFor d' = planFor d := by rw [planFor, planFor, hp, hp']
  refine ⟨hp', ?_, fun resolver => ?_, fun resolver => ?_, ?_, h.build_eq hp,
    h.buildChanging_eq hp⟩
  · rw [generate, generate, hplan]
  · rw [generateEntry, generateEntry, hplan]
  · rw [generateBoth, generateBoth, hplan]
  · rw [shapesText, shapesText, hp, hp']

end Description.SameMeaning

/-- An interface built in code, with its methods in order. -/
def smallBuilt : Description where
  name := "Small"
  signatures := [
    ⟨"f", [.known .int32, .known .string], .known .int64⟩,
    ⟨"g", [.known .string], .known .handle⟩]

/-- The same interface as a file may have it. -/
def smallWritten : Description where
  name := "Small"
  signatures := [
    ⟨"g", [.named " STR\t"], .named "Pointer"⟩,
    ⟨"f", [.named "int", .known .string], .named "LONG"⟩]

theorem smallBuilt_sameMeaning : smallBuilt.SameMeaning smallWritten where
  name := rfl
  signatures := by
    have spelled : ∀ (type : SemanticType) (name : Text),
        Text.lower (Text.trim name) ∈ type.names →
          TypeSpec.SameMeaning (.known type) (.named name) := fun type name h =>
      TypeSpec.sameMeaning_named_iff.2 ⟨Text.trim name, Text.padded_trim name, h⟩
    refine ⟨[⟨"g", [.known .string], .known .handle⟩,
      ⟨"f", [.known .int32, .known .string], .known .int64⟩], List.Perm.swap _ _ _, .cons ?_
      (.cons ?_ .nil)⟩
    · exact ⟨rfl, .cons (spelled _ _ (by decide)) .nil, spelled _ _ (by decide)⟩
    · exact ⟨rfl, .cons (spelled _ _ (by decide)) (.cons rfl .nil), spelled _ _ (by decide)⟩

theorem outputs_eq_small :
    ∃ p, smallBuilt.SameMeaning smallWritten ∧ Plan.analyze smallBuilt = .ok p ∧
    Plan.analyze smallWritten = .ok p ∧
    generate smallWritten = generate smallBuilt ∧
    (∀ resolver, generateEntry smallWritten resolver = generateEntry smallBuilt resolver) ∧
    (∀ resolver, generateBoth smallWritten resolver = generateBoth smallBuilt resolver) ∧
    shapesText smallWritten = shapesText smallBuilt ∧
    (∀ lookup, BindingTable.build smallWritten lookup = BindingTable.build smallBuilt lookup) ∧
    ∀ l : ChangingLookup,
      BindingTable.buildChanging smallWritten l = BindingTable.buildChanging smallBuilt l := by
  have hsorted : smallBuilt.sorted = smallBuilt.signatures :=
    List.mergeSort_of_pairwise (by decide)
  have hp : Plan.analyze smallBuilt = .ok ⟨"Small", (planned none 0 smallBuilt.signatures).1⟩ := by
    rw [Plan.analyze_eq_ok_iff, hsorted]
    decide
  exact ⟨_, smallBuilt_sameMeaning, hp, smallBuilt_sameMeaning.outputs_eq hp⟩

end ForeignCall
