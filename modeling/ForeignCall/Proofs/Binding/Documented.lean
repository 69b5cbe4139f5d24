import ForeignCall.Proofs.Binding.Entry
import ForeignCall.Proofs.Binding.Words
import ForeignCall.Proofs.Plan.Meaning
import ForeignCall.Proofs.Plan.Walk
import ForeignCall.Proofs.Signature.Printed

/-!
# Documented signatures

Generated code has a line in backquotes above each of its functions, the signature of the method
with every type by its own name. These lines are a signature file of the interface, and planning it
gives the plan from which the code was made.

* `MethodPlan.printable_written`: a symbol name has no character that a signature file would take
  for something else.
* `Plan.analyze_written`: the signatures of the lines mean what the description meant.
* `Plan.analyze_documented`: reading the lines and planning gives the plan again.
-/

namespace ForeignCall

/-- The signature of a method as a file gives it: every type is only named, by its own name. -/
def MethodPlan.written (m : MethodPlan) : Signature :=
  ⟨m.symbol, m.params.map fun type => .named type.name, .named m.ret.name⟩

/-- The signatures of the methods, one on a line. -/
def Plan.signatureLines (p : Plan) : List Text := p.methods.map fun m => m.signature.text

/-- The tokens begin with a comment, and what it says is the line in backquotes. -/
def Documents (line : Text) (tokens : List Token) : Prop :=
  docTokens (" ".toList ++ backquoted line) <+: tokens

/-- The lines document the functions in the code of the plan, and as the signature file of an
interface of this name they give the plan. -/
structure Plan.Documented (interface : Text) (p : Plan) : Prop where
  stubs : ∀ b, typedBinding p = .ok b →
    List.Forall₂ Documents p.signatureLines (b.stubs.map Stub.tokens)
  functions : ∀ resolver m, entryModule p resolver = .ok m →
    List.Forall₂ Documents p.signatureLines (m.functions.map EntryModule.functionItem)
  /-- However the lines are ended. -/
  read : ∀ text, Text.lines text = p.signatureLines →
    ∃ d, Description.parse interface text = .ok d ∧ Plan.analyze d = .ok p
  /-- They are the lines of what is written with a line feed between any two of them. -/
  joined : Text.lines (Text.join ['\n'] p.signatureLines) = p.signatureLines
  /-- They are the lines of what is written with a line feed after each. -/
  ended : Text.lines (p.signatureLines.flatMap (· ++ ['\n'])) = p.signatureLines

/-! ## 1. Symbol names in files -/

theorem isBlank_of_isSymbolPart {c : Char} (h : isSymbolPart c = true) : isBlank c = false := by
  rw [Bool.eq_false_iff]
  intro hblank
  simp only [isBlank, Bool.or_eq_true, Bool.and_eq_true, decide_eq_true_eq, beq_iff_eq] at hblank
  simp only [isSymbolPart, Char.isAlphanum, Char.isAlpha, Char.isUpper, Char.isLower, Char.isDigit,
    Bool.or_eq_true, Bool.and_eq_true, decide_eq_true_eq, beq_iff_eq, ge_iff_le,
    UInt32.le_iff_toNat_le, Char.reduceVal, UInt32.reduceToNat] at h
  have hc : c.val.toNat = c.toNat := rfl
  rcases h with h | rfl
  · simp only [hc] at h
    omega
  · revert hblank
    decide

section Names

variable {t : Text} {barred : List Char}

/-- A symbol name neither begins nor ends with a blank, and of characters that are no part of symbol
names it has none. -/
theorem plain_of_isSymbolName (h : isSymbolName t = true)
    (hbarred : barred.any isSymbolPart = false) : Plain barred t := by
  obtain ⟨⟨first, hfirst, _⟩, hparts⟩ := isSymbolName_iff_head?.1 h
  refine ⟨⟨?_, fun c hc => ?_, fun c hc => ?_⟩, fun c hc hmem => ?_⟩
  · rintro rfl
    cases hfirst
  · exact isBlank_of_isSymbolPart (hparts c (List.mem_of_mem_head? hc))
  · exact isBlank_of_isSymbolPart (hparts c (List.mem_of_getLast? hc))
  · rw [List.any_eq_false] at hbarred
    exact hbarred c hc (hparts c hmem)

theorem SemanticType.isSymbolName_name (type : SemanticType) : isSymbolName type.name = true := by
  cases type <;> decide

theorem plainType_name (type : SemanticType) (hbarred : barred.any isSymbolPart = false) :
    PlainType barred (.named type.name) :=
  .named (plain_of_isSymbolName type.isSymbolName_name hbarred)

end Names

namespace MethodPlan

variable {m : MethodPlan}

theorem text_written (m : MethodPlan) : m.written.text = m.signature.text := by
  simp only [Signature.text, written, signature, List.map_map]
  rfl

/-- The line of a method whose symbol can name something is read as it was meant. -/
theorem printable_written (h : isSymbolName m.symbol = true) : Printable m.written where
  name := plain_of_isSymbolName h (by decide)
  start hhead := by
    obtain ⟨⟨first, hfirst, hletter⟩, _⟩ := isSymbolName_iff_head?.1 h
    obtain rfl : first = '#' := Option.some.inj (hfirst.symm.trans hhead)
    revert hletter
    decide
  params := List.forall_mem_map.2 fun type _ => plainType_name type (by decide)
  ret := plainType_name m.ret (by decide)

end MethodPlan

/-! ## 2. What the lines mean -/

/-- The types of a method that was planned are those of its signature, by their own names. -/
theorem Settles.sameMeaning_written {previous : Option Text} {index : Nat} {s : Signature}
    {m : MethodPlan} (h : Settles previous index s m) : s.SameMeaning m.written where
  name := h.symbol.symm
  params := by
    have hresolve : List.Forall₂ (fun spec type => TypeSpec.resolve spec = some type)
        s.params m.params := by
      have heq : List.Forall₂ Eq (s.params.map TypeSpec.resolve) (m.params.map some) := by
        rw [h.params]
        exact List.forall₂_refl _
      rwa [List.forall₂_map_left_iff, List.forall₂_map_right_iff] at heq
    rw [MethodPlan.written, List.forall₂_map_right_iff]
    exact hresolve.imp fun spec type hspec => hspec.trans type.ofName?_name.symm
  ret := h.ret.trans m.ret.ofName?_name.symm

theorem AllSettle.sameMeaning_written {previous : Option Text} {index : Nat}
    {signatures : List Signature} {methods : List MethodPlan}
    (h : AllSettle previous index signatures methods) :
    List.Forall₂ Signature.SameMeaning signatures (methods.map MethodPlan.written) := by
  induction h with
  | nil => exact .nil
  | cons hs _ ih => exact .cons hs.sameMeaning_written ih

namespace Plan

variable {d : Description} {p : Plan}

theorem allSettle_of_analyze (h : analyze d = .ok p) : AllSettle none 0 d.sorted p.methods := by
  obtain ⟨rfl, hnone⟩ := analyze_eq_ok_iff.1 h
  exact planned_eq_iff_allSettle.1 (Prod.ext rfl hnone)

/-- The written signatures are planned as the description was. -/
theorem analyze_written (h : analyze d = .ok p) :
    analyze ⟨d.name, p.methods.map MethodPlan.written⟩ = .ok p := by
  have hsame : d.SameMeaning ⟨d.name, p.methods.map MethodPlan.written⟩ :=
    ⟨rfl, d.sorted, d.sorted_perm.symm, (allSettle_of_analyze h).sameMeaning_written⟩
  exact hsame.analyze_eq h

/-! ## 3. The lines as a file -/

theorem signatureLines_eq (p : Plan) :
    p.signatureLines = (p.methods.map MethodPlan.written).map Signature.text := by
  rw [signatureLines, List.map_map]
  exact List.map_congr_left fun m _ => m.text_written.symm

namespace WellFormed

theorem printable_written (h : p.WellFormed) :
    ∀ s ∈ p.methods.map MethodPlan.written, Printable s :=
  List.forall_mem_map.2 fun m hm => MethodPlan.printable_written (h.named m hm)

/-- A file with these lines gives the written signatures. -/
theorem parseSignatures_lines (h : p.WellFormed) {text : Text}
    (htext : Text.lines text = p.signatureLines) :
    parseSignatures text = .ok (p.methods.map MethodPlan.written) := by
  have hnodup : ((p.methods.map MethodPlan.written).map Signature.name).Nodup := by
    rw [List.map_map]
    exact Text.nodup_of_before h.ordered
  rw [parseSignatures_eq_ok_iff, htext, signatureLines_eq]
  exact signatureFile_text h.printable_written hnodup

end WellFormed

theorem forall₂_documents {α : Type} {methods : List MethodPlan} {make : MethodPlan → α}
    {tokens : α → List Token}
    (h : ∀ m ∈ methods, Documents m.signature.text (tokens (make m))) :
    List.Forall₂ Documents (methods.map fun m => m.signature.text)
      ((methods.map make).map tokens) := by
  rw [List.map_map, List.forall₂_map_left_iff, List.forall₂_map_right_iff, List.forall₂_same]
  exact h

/-- The lines that document the code of a plan are a signature file of its interface, and that file
is planned as the description was: with the same methods in the same order, with the same numbers
and types. -/
theorem analyze_documented (h : analyze d = .ok p) : p.Documented d.name where
  stubs b hb := by
    rw [(generated_of_typedBinding (analyze_wellFormed h) hb).stubs]
    exact forall₂_documents fun m _ => by simp [Documents, Stub.tokens, Stub.ofMethod]
  functions resolver m hm := by
    obtain ⟨b, _, hbeside⟩ := exists_beside_of_entryModule (analyze_wellFormed h) hm
    rw [hbeside.functions]
    exact forall₂_documents fun m _ => by
      simp [Documents, EntryModule.functionItem, EntryFunction.ofMethod]
  read text htext := by
    refine ⟨⟨d.name, p.methods.map MethodPlan.written⟩, ?_, analyze_written h⟩
    rw [Description.parse, (analyze_wellFormed h).parseSignatures_lines htext]
    rfl
  joined := by
    rw [signatureLines_eq, lines_join_text (analyze_wellFormed h).printable_written]
  ended := by
    rw [signatureLines_eq, lines_flatMap_text (analyze_wellFormed h).printable_written]

end Plan

/-- Methods out of order, and types by their lesser names. -/
def aliased : Description where
  name := "Aliased"
  signatures := [
    ⟨"second", [.named " PTR", .known .int64], .named "Cstr\t"⟩,
    ⟨"first", [], .named "void"⟩]

def aliasedPlan : Plan where
  interface := "Aliased"
  methods := [⟨⟨0⟩, "first", [], .void⟩, ⟨⟨1⟩, "second", [.handle, .int64], .string⟩]

theorem analyze_aliased : Plan.analyze aliased = .ok aliasedPlan := by
  have hsorted : aliased.sorted = aliased.signatures.reverse :=
    Description.sorted_eq_of_perm (List.reverse_perm _)
      (Text.pairwise_before (by decide) (by decide))
  rw [Plan.analyze_eq_ok_iff, hsorted]
  decide

theorem analyze_documented_aliased :
    Plan.analyze aliased = .ok aliasedPlan ∧ aliasedPlan.Documented "Aliased" ∧
    aliasedPlan.signatureLines = ["first: () -> void", "second: (handle, i64) -> string"] :=
  ⟨analyze_aliased, Plan.analyze_documented analyze_aliased, by decide⟩

end ForeignCall
