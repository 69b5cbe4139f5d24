import ForeignCall.Binding.Resolver
import ForeignCall.Binding.ShapeList
import ForeignCall.Proofs.Binding.Session
import ForeignCall.Proofs.Plan.Shapes
import ForeignCall.Proofs.Source.Templates

/-!
# Call shapes of an interface

The plan, the table, the generated code and the shape list of an interface each have the distinct
shapes of its methods. They have them in the same order, so an index means the same shape in all.

* `CallShape.readConst?` reads the shapes off the constant in generated code;
  `TypedBinding.readConst?_ownItem`: they are those of the binding.
* `ShapeList.ofPlan_methods`: the shape list gives each method the index of its own shape.
* `callShapes_agree`: all have the same list.
-/

namespace ForeignCall

/-! ## 1. Shapes in generated code -/

/-- Items up to a closing square bracket, with commas between them, and what follows the bracket;
`item` reads one item, and at most `count` items are read. -/
def Token.items? {α : Type} (item : List Token → Option (α × List Token)) :
    Nat → List Token → Option (List α × List Token)
  | _, .closing .square :: rest => some ([], rest)
  | 0, _ => none
  | count + 1, ts => do
    match ← item ts with
    | (a, .closing .square :: rest) => return ([a], rest)
    | (a, .mark ',' _ :: rest) =>
      let (items, rest) ← items? item count rest
      return (a :: items, rest)
    | _ => none

def Layout.ofVariant? (name : Text) : Option Layout :=
  if name = "Void".toList then some .void
  else if name = "Int32".toList then some .int32
  else if name = "Int64".toList then some .int64
  else if name = "Pointer".toList then some .pointer
  else none

/-- What stands in front of the name of a layout. -/
def Layout.front : List Token := supportPath "NativeLayout ::"

/-- The layout in front of tokens, and what follows it. -/
def Layout.read? (ts : List Token) : Option (Layout × List Token) := do
  match ← Token.strip? front ts with
  | .word name :: rest => (ofVariant? name).map fun l => (l, rest)
  | _ => none

namespace CallShape

/-- What stands in front of the layout of the result. -/
def front : List Token := supportPath "CallShape :: new" ++ [.opening .round]

/-- What stands in front of the layouts of the parameters. -/
def middle : List Token := code ", &" ++ [.opening .square]

/-- The call shape in front of tokens, and what follows it. -/
def read? (ts : List Token) : Option (CallShape × List Token) := do
  let (ret, ts) ← Layout.read? (← Token.strip? front ts)
  let ts ← Token.strip? middle ts
  let (params, ts) ← Token.items? Layout.read? ts.length ts
  let ts ← Token.strip? [.closing .round] ts
  return (⟨ret, params⟩, ts)

/-- The beginning of the constant with the shapes. -/
def constFront : List Token :=
  code "pub const CALL_SHAPES : & 'static" ++ bracketed .square (supportPath "CallShape") ++
    code "= &" ++ [.opening .square]

/-- The shapes in the constant in front of tokens. -/
def readConst? (ts : List Token) : Option (List CallShape) := do
  let ts ← Token.strip? constFront ts
  let (shapes, _) ← Token.items? read? ts.length ts
  return shapes

end CallShape

section Items

variable {α : Type} {item : List Token → Option (α × List Token)} {tokens : α → List Token}
  (hmark : ∀ a, ∃ c glued tail, tokens a = .mark c glued :: tail)
  (hitem : ∀ a rest, item (tokens a ++ rest) = some (a, rest))

include hmark

theorem Token.items?_of_mark (count : Nat) (a : α) (rest : List Token) :
    items? item (count + 1) (tokens a ++ rest) = (do
      match ← item (tokens a ++ rest) with
      | (a, .closing .square :: rest) => return ([a], rest)
      | (a, .mark ',' _ :: rest) =>
        let (items, rest) ← items? item count rest
        return (a :: items, rest)
      | _ => none) := by
  obtain ⟨c, glued, tail, htokens⟩ := hmark a
  rw [htokens, List.cons_append, items?]
  nofun

include hitem

/-- If every item is read back in front of anything, so is a list of items. -/
theorem Token.items?_commaSeparated (as : List α) (rest : List Token) {count : Nat}
    (hcount : as.length ≤ count) :
    items? item count (commaSeparated (as.map tokens) ++ .closing .square :: rest) =
      some (as, rest) := by
  induction as generalizing count with
  | nil => cases count <;> rfl
  | cons a as ih =>
    obtain ⟨count, rfl⟩ := Nat.exists_eq_add_one_of_ne_zero (Nat.ne_zero_of_lt hcount)
    cases as with
    | nil =>
      rw [List.map_singleton, commaSeparated, items?_of_mark hmark, hitem]
      rfl
    | cons next as =>
      have hmore := ih (Nat.le_of_succ_le_succ hcount)
      have htokens : commaSeparated ((a :: next :: as).map tokens) ++ .closing .square :: rest =
          tokens a ++ .mark ',' false ::
            (commaSeparated ((next :: as).map tokens) ++ .closing .square :: rest) := by
        simp [commaSeparated]
      rw [htokens, items?_of_mark hmark, hitem]
      simp only [Option.bind_eq_bind, Option.bind_some, hmore]
      rfl

/-- As many items are read as there can be. -/
theorem Token.items?_length (as : List α) (rest : List Token) :
    let ts := commaSeparated (as.map tokens) ++ .closing .square :: rest
    items? item ts.length ts = some (as, rest) := by
  refine items?_commaSeparated hmark hitem as rest ?_
  have hcommas := length_le_commaSeparated (as.map tokens)
  rw [List.length_map] at hcommas
  rw [List.length_append, List.length_cons]
  omega

end Items

theorem Layout.exists_tokens_eq (l : Layout) :
    ∃ name, ofVariant? name = some l ∧ l.tokens = front ++ [.word name] := by
  have hpath : ∀ path name, code path = code "NativeLayout ::" ++ [.word name] →
      supportPath path = front ++ [.word name] := by
    intro path name hcode
    rw [front, supportPath_eq, supportPath_eq, hcode, List.append_assoc]
  cases l with
  | void => exact ⟨"Void", by decide, hpath _ _ (by decide +kernel)⟩
  | int32 => exact ⟨"Int32", by decide, hpath _ _ (by decide +kernel)⟩
  | int64 => exact ⟨"Int64", by decide, hpath _ _ (by decide +kernel)⟩
  | pointer => exact ⟨"Pointer", by decide, hpath _ _ (by decide +kernel)⟩

theorem Layout.read?_tokens (l : Layout) (rest : List Token) :
    read? (l.tokens ++ rest) = some (l, rest) := by
  obtain ⟨name, hname, htokens⟩ := l.exists_tokens_eq
  rw [htokens, List.append_assoc, read?, Token.strip?_append]
  simp [hname]

namespace CallShape

theorem tokens_append_eq (s : CallShape) (rest : List Token) :
    s.tokens ++ rest = front ++ (s.ret.tokens ++ (middle ++
      (commaSeparated (s.params.map Layout.tokens) ++ .closing .square ::
        ([.closing .round] ++ rest)))) := by
  simp only [tokens, front, middle, bracketed, List.append_assoc, List.cons_append,
    List.nil_append]

theorem read?_tokens (s : CallShape) (rest : List Token) :
    read? (s.tokens ++ rest) = some (s, rest) := by
  have hmark : ∀ l : Layout, ∃ c glued tail, l.tokens = .mark c glued :: tail := by
    intro l
    cases l <;> exact ⟨_, _, _, rfl⟩
  have hparams := Token.items?_length hmark Layout.read?_tokens s.params
    ([.closing .round] ++ rest)
  rw [tokens_append_eq, read?, Token.strip?_append]
  simp only [Option.bind_eq_bind, Option.bind_some, Layout.read?_tokens, Token.strip?_append,
    hparams]
  rfl

theorem readConst?_append (shapes : List CallShape) (rest : List Token) :
    readConst? (constFront ++ (commaSeparated (shapes.map tokens) ++ .closing .square :: rest)) =
      some shapes := by
  have hmark : ∀ s : CallShape, ∃ c glued tail, s.tokens = .mark c glued :: tail := by
    intro s
    exact ⟨_, _, _, rfl⟩
  have hshapes := Token.items?_length hmark read?_tokens shapes rest
  rw [readConst?, Token.strip?_append]
  simp only [Option.bind_eq_bind, Option.bind_some, hshapes]
  rfl

end CallShape

/-- The constant with the shapes stands in the generated code, and tells the shapes of the
binding. -/
theorem TypedBinding.readConst?_ownItem (b : TypedBinding) :
    ∃ before after, b.ownItem = before ++ after ∧
      CallShape.readConst? after = some b.shapes := by
  refine ⟨lintTokens ++ code "impl" ++ [b.type.token] ++ .opening .curly ::
    (b.consts.flatMap constItem ++ fixedDoc " Method names in id order." ++
      code "pub const METHODS : & 'static [ & 'static str ] = &" ++
      bracketed .square (commaSeparated (b.symbols.map fun s => [.quoted s])) ++ code ";" ++
      fixedDoc " Every distinct call shape used by this interface, sorted."), _, ?_,
    CallShape.readConst?_append b.shapes
      (code ";" ++ b.bindItem ++ b.stubs.flatMap Stub.tokens ++ [.closing .curly])⟩
  simp only [ownItem, CallShape.constFront, bracketed, List.append_assoc, List.cons_append,
    List.nil_append]

/-! ## 2. Shape lists -/

namespace ShapeList

/-- A method's shape is found in the list, and its index is the place. -/
theorem search_shape {p : Plan} {m : MethodPlan} (hm : m ∈ p.methods) :
    ∃ k, Plan.search CallShape.le p.callShapes m.shape 0 p.callShapes.length = some k ∧
      p.callShapes[k]? = some m.shape := by
  have hstrict : p.callShapes.Pairwise (Plan.StrictBefore CallShape.le) :=
    p.callShapes_before.imp fun h =>
      ⟨(CallShape.before_iff.1 h).1, CallShape.le_eq_false_iff.2 h⟩
  obtain ⟨k, hk⟩ := List.getElem?_of_mem (Plan.mem_callShapes_iff.2 (List.mem_map_of_mem hm))
  exact ⟨k, (Plan.search_iff hstrict).2 hk, hk⟩

theorem ofPlan_methods {p : Plan} (hp : p.WellFormed) {i : Nat} {m : MethodPlan}
    (hm : p.methods[i]? = some m) : ∃ k, (ofPlan p).methods[i]? = some ⟨m.symbol, i, k⟩ ∧
      Plan.search CallShape.le p.callShapes m.shape 0 p.callShapes.length = some k ∧
      p.callShapes[k]? = some m.shape := by
  obtain ⟨k, hsearch, hk⟩ := search_shape (List.mem_of_getElem? hm)
  refine ⟨k, ?_, hsearch, hk⟩
  simp only [ofPlan, List.getElem?_map, hm, Option.map_some, hsearch, Option.getD_some,
    hp.ids i m hm]

end ShapeList

/-! ## 3. Agreement -/

/-- A lookup that has every symbol gives a table of the plan. -/
theorem BindingTable.exists_build_ok {d : Description} {p : Plan} {lookup : SymbolLookup}
    (hp : Plan.analyze d = .ok p) (hall : ∀ symbol ∈ p.symbols, lookup.find symbol ≠ none) :
    ∃ t, (build d lookup).1 = .ok t ∧ t.methods.map MethodBinding.plan = p.methods := by
  rw [build_eq_fromPlan hp]
  cases hmethods : (resolveAll lookup p.methods).1 with
  | ok methods =>
    have ht : (fromPlan p lookup).1 = .ok ⟨p.interface, methods⟩ := by
      simp only [fromPlan, hmethods, Except.map]
    exact ⟨_, ht, plans_of_fromPlan ht⟩
  | error e =>
    obtain ⟨symbol, hmissing, _⟩ := resolveAll_eq_error_iff.1 hmethods
    have hnone := List.find?_some hmissing
    rw [Option.isNone_iff_eq_none] at hnone
    exact absurd hnone (hall symbol (List.mem_of_find?_eq_some hmissing))

/-- All that is made for the description `d` with the plan `p` has the same list of shapes. -/
structure ShapesAgree (d : Description) (p : Plan) : Prop where
  ordered : p.callShapes.Pairwise CallShape.Before
  /-- The shapes are just those of the methods. -/
  used : ∀ s, s ∈ p.callShapes ↔ ∃ m ∈ p.methods, m.shape = s
  /-- Over a lookup that has every symbol a table is built, and it has this list. -/
  table : ∀ lookup : SymbolLookup, (∀ m ∈ p.methods, lookup.find m.symbol ≠ none) →
    ∃ t, (BindingTable.build d lookup).1 = .ok t ∧ t.callShapes = p.callShapes
  /-- If code is generated, the constant in it tells this list. -/
  generated : ∀ text, generate d = .ok text →
    ∃ b before after, typedBinding p = .ok b ∧ text = renderFile p.interface b.items ∧
      b.ownItem = before ++ after ∧ CallShape.readConst? after = some p.callShapes
  listed : (ShapeList.ofPlan p).shapes = p.callShapes
  /-- The shape list has as many entries as there are methods. -/
  length : (ShapeList.ofPlan p).methods.length = p.methods.length
  /-- The entry of a method has its number and an index, which the search finds and which leads to
  the method's own shape. -/
  entries : ∀ (i : Nat) (m : MethodPlan), p.methods[i]? = some m →
    ∃ k, (ShapeList.ofPlan p).methods[i]? = some ⟨m.symbol, i, k⟩ ∧
      Plan.search CallShape.le p.callShapes m.shape 0 p.callShapes.length = some k ∧
      p.callShapes[k]? = some m.shape

theorem callShapes_agree {d : Description} {p : Plan} (h : Plan.analyze d = .ok p) :
    ShapesAgree d p where
  ordered := p.callShapes_before
  used s := by rw [Plan.mem_callShapes_iff, List.mem_map]
  table lookup hall := by
    obtain ⟨t, ht, hplans⟩ := BindingTable.exists_build_ok h (List.forall_mem_map.2 hall)
    exact ⟨t, ht, BindingTable.callShapes_eq hplans⟩
  generated text htext := by
    obtain ⟨p', b, hp', hb, htext⟩ := generate_eq_ok_iff.1 htext
    cases h.symm.trans hp'
    obtain ⟨before, after, hitem, hread⟩ := b.readConst?_ownItem
    have hshapes : b.shapes = p.callShapes := by
      obtain ⟨_, _, _, _, rfl⟩ := typedBinding_eq_ok_iff.1 hb
      rfl
    exact ⟨b, before, after, hb, htext, hitem, hshapes ▸ hread⟩
  listed := rfl
  length := by rw [ShapeList.ofPlan, List.length_map]
  entries i m hm := ShapeList.ofPlan_methods (Plan.analyze_wellFormed h) hm

/-- Two of the three methods share a shape. -/
theorem callShapes_agree_upper :
    Plan.analyze Sample.upper = .ok upperPlan ∧ ShapesAgree Sample.upper upperPlan ∧
    upperPlan.callShapes = [⟨.int32, []⟩, ⟨.int32, [.int32]⟩] ∧
    (ShapeList.ofPlan upperPlan).methods.map MethodShape.shape = [0, 1, 0] :=
  ⟨analyze_upper, callShapes_agree analyze_upper, by decide, by decide +kernel⟩

end ForeignCall
