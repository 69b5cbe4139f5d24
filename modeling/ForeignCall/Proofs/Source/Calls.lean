import ForeignCall.Proofs.Source.Literals
import ForeignCall.Proofs.Source.Reader
import ForeignCall.Source.Expression

/-!
# Reading calls

Literals, arrays, references and calls of paths from the root are read as they are printed, whatever
stands in front of them and behind.

* `Grammar.path_names` reads a path, `Grammar.readUnary_of_atom` and `Grammar.readUnary_of_prefixed`
  what an operand is made of.
* `IsOperand` says what is printed for an operand; `IsOperand.literal` and `IsOperand.path` are
  operands, `IsOperand.array`, `IsOperand.reference` and `IsOperand.call` build operands from
  operands.
* `IsOperand.front?_append`: an operand is an expression.
-/

namespace ForeignCall

/-! ## 1. Paths -/

namespace Grammar

open TokenReader

variable {g : Grammar} {n : Nat} {b : Bracket} {out out' : List Token} {rest : List Token}

/-- The words that are segments of a path but no names, or need no name there. -/
def specialSegments : List Text := ["super", "self", "crate", "try", "Self"]

theorem segment_name {w : Text} (h : w ∉ strictKeywords) (hspecial : w ∉ specialSegments)
    {ts : List Token} (hts : (atOperator "::" ts && third (atOperator "<") ts) = false)
    (out : List Token) :
    segment g true ⟨.word w :: ts, out⟩ = some (.absent, ⟨ts, .word w :: out⟩) := by
  have hsuper : atWords ["super", "self", "crate", "try"] (.word w :: ts) = false :=
    decide_eq_false fun hw => hspecial (List.mem_append_left [_] hw)
  have hself : atWord "Self" (.word w :: ts) = false :=
    decide_eq_false fun hw => hspecial (hw ▸ List.mem_of_getLast? rfl)
  rw [segment, bind_of_eq (sees_run _ _)]
  simp only [hsuper, Bool.false_eq_true, if_false]
  rw [bind_of_eq (sees_run _ _)]
  simp only [hself, Bool.false_eq_true, if_false]
  rw [bind_of_eq (name_run h ts out), bind_of_eq rfl, bind_of_eq rfl]
  simp only [hts, Bool.not_true, Bool.false_and, Bool.or_self, Bool.false_eq_true, if_false]
  rfl

def rootedSegment (w : Text) : List Token := [.mark ':' true, .mark ':' false, .word w]

theorem colons_run (w : Text) (ts out : List Token) : op "::" ⟨rootedSegment w ++ ts, out⟩ =
    some ((), ⟨.word w :: ts, .mark ':' false :: .mark ':' true :: out⟩) := rfl

/-- Reads a further segment of a path in an expression. -/
def furtherSegment (g : Grammar) (p : PathForm) : TokenReader (Option PathForm) := do
  if !(← sees fun ts => atOperator "::" ts && !third (atOpening .round) ts) then return none
  op "::"
  let last ← g.segment true
  return some { p with single := false, plain := p.plain && last = .absent, last }

/-- What is known of a path from the root without arguments. -/
def plainPathForm : PathForm := { plain := true, last := .absent }

section Paths

variable {ws : List Text} (hrest : atOperator "::" rest = false)

include hrest

/-- No arguments follow in front of a further segment or behind the last one. -/
theorem not_arguments_segments (ws : List Text) :
    (atOperator "::" (ws.flatMap rootedSegment ++ rest) &&
      third (atOperator "<") (ws.flatMap rootedSegment ++ rest)) = false := by
  cases ws with
  | nil => exact Bool.and_eq_false_imp.2 fun hcolons => absurd (hrest.symm.trans hcolons) nofun
  | cons => rfl

theorem iterates_segments (h : ∀ v ∈ ws, v ∉ strictKeywords ∧ v ∉ specialSegments)
    (out : List Token) :
    Iterates (furtherSegment g) ws.length plainPathForm ⟨ws.flatMap rootedSegment ++ rest, out⟩
      plainPathForm ⟨rest, (ws.flatMap rootedSegment).reverse ++ out⟩ := by
  induction ws generalizing out with
  | nil =>
    refine .done ((bind_of_eq (sees_run _ _)).trans ?_)
    simp only [List.flatMap_nil, List.nil_append, hrest, Bool.false_and, Bool.not_false, if_true]
    rfl
  | cons w ws ih =>
    obtain ⟨⟨hname, hspecial⟩, hws⟩ := List.forall_mem_cons.1 h
    have hsegment := segment_name (g := g) hname hspecial (not_arguments_segments hrest ws)
      (.mark ':' false :: .mark ':' true :: out)
    rw [List.flatMap_cons, List.append_assoc, List.reverse_append, List.append_assoc]
    refine .more ((bind_of_eq (sees_run _ _)).trans ((bind_of_eq (colons_run w _ out)).trans ?_))
      (ih hws ((rootedSegment w).reverse ++ out))
    exact bind_of_eq hsegment

/-- A path from the root whose segments are names. -/
theorem path_names {w : Text} (h : ∀ v ∈ w :: ws, v ∉ strictKeywords ∧ v ∉ specialSegments) :
    path g true ⟨(w :: ws).flatMap rootedSegment ++ rest, out⟩ =
      some (plainPathForm, ⟨rest, ((w :: ws).flatMap rootedSegment).reverse ++ out⟩) := by
  obtain ⟨⟨hname, hspecial⟩, hws⟩ := List.forall_mem_cons.1 h
  have hcolons : opIf "::" ⟨rootedSegment w ++ (ws.flatMap rootedSegment ++ rest), out⟩ = _ :=
    colons_run w (ws.flatMap rootedSegment ++ rest) out
  have hsegment := segment_name (g := g) hname hspecial (not_arguments_segments hrest ws)
    (.mark ':' false :: .mark ':' true :: out)
  have hlength : (ws.flatMap rootedSegment).length = ws.length * 3 := by
    simp [List.length_flatMap, rootedSegment, List.map_const']
  rw [path, bind_of_eq (sees_run _ _), List.flatMap_cons, List.append_assoc, List.reverse_append,
    List.append_assoc]
  refine (bind_of_eq hcolons).trans ((bind_of_eq hsegment).trans ?_)
  refine (iterates_segments hrest hws ((rootedSegment w).reverse ++ out)).iterate_eq ?_
  simp only [List.length_append, hlength]
  omega

end Paths

/-! ## 2. Operands -/

theorem attributes_none {ts : List Token} (h : atOperator "#" ts = false) :
    g.attributes ⟨ts, out⟩ = some ((), ⟨ts, out⟩) := by
  refine (Iterates.done (again_of_false ((bind_of_eq (sees_run _ _)).trans ?_))).iterate_eq
    (Nat.zero_le _)
  simp only [h]
  rfl

theorem restAfter_attributes {ts : List Token} (h : atOperator "#" ts = false) :
    restAfter g.attributes ⟨ts, out⟩ = some (some ts, ⟨ts, out⟩) := by
  rw [restAfter, attributes_none h]
  rfl

/-- An operand without attributes and operators in front is an atom and what follows it. -/
theorem readUnary_of_atom {ts : List Token} {s t : Reading} (hmark : atOperator "#" ts = false)
    (hsign : atOperators ["&", "*", "!", "-"] ts = false)
    (hatom : g.atom true ⟨ts, out⟩ = some (.plain, s))
    (htrailers : g.trailers .plain s = some (.plain, t)) :
    g.readUnary true ⟨ts, out⟩ = some (.plain, t) := by
  have hcaptured : captured g.attributes ⟨ts, out⟩ = some (((), []), ⟨ts, out⟩) := by
    rw [captured, attributes_none hmark]
    rfl
  have hemit : emit [] ⟨ts, out⟩ = some ((), ⟨ts, out⟩) := rfl
  have htrailed : g.trailed true ⟨ts, out⟩ = some (.plain, t) := by
    refine (bind_of_eq hcaptured).trans ((bind_of_eq hemit).trans ((bind_of_eq hatom).trans ?_))
    exact bind_of_eq htrailers
  refine (bind_of_eq (restAfter_attributes hmark)).trans ?_
  simp only [hsign, Bool.false_eq_true, if_false]
  rw [asWrittenIf, htrailed]
  rfl

theorem readUnary_of_prefixed {ts : List Token} {t : Reading} (hmark : atOperator "#" ts = false)
    (hsign : atOperators ["&", "*", "!", "-"] ts = true)
    (h : g.prefixed true ⟨ts, out⟩ = some (.plain, t)) :
    g.readUnary true ⟨ts, out⟩ = some (.plain, t) := by
  refine (bind_of_eq (restAfter_attributes hmark)).trans ?_
  simp only [hsign, if_true]
  exact (bind_of_eq (attributes_none hmark)).trans h

theorem atom_square (ts : List Token) : g.atom true ⟨.opening .square :: ts, out⟩ =
    (do g.arrayAtom; return Form.plain) ⟨.opening .square :: ts, out⟩ := rfl

theorem atom_rooted (w : Text) (ts : List Token) : g.atom true ⟨rootedSegment w ++ ts, out⟩ =
    g.pathAtom true ⟨rootedSegment w ++ ts, out⟩ := rfl

theorem prefixed_reference (glued : Bool) (w : Text) (ts : List Token) :
    g.prefixed true ⟨.mark '&' glued :: (rootedSegment w ++ ts), out⟩ =
      (do let _ ← g.unary true; return Form.plain)
        ⟨rootedSegment w ++ ts, .mark '&' false :: out⟩ := by
  cases glued <;> rfl

/-! ## 3. Expressions -/

/-- Nothing belongs to an expression that stands in front of these tokens. -/
inductive Ends : List Token → Prop
  | nothing : Ends []
  | closing (b : Bracket) (rest : List Token) : Ends (.closing b :: rest)
  | comma (glued : Bool) (rest : List Token) : Ends (.mark ',' glued :: rest)

theorem trailers_ends (h : Ends rest) (form : Form) :
    g.trailers form ⟨rest, out⟩ = some (form, ⟨rest, out⟩) := by
  obtain _ | _ | ⟨_ | _⟩ := h <;> rfl

theorem trailers_call {ts : List Token} (hends : Ends rest)
    (h : g.arguments ⟨.opening .round :: ts, out⟩ = some ((), ⟨rest, out'⟩)) :
    g.trailers .plain ⟨.opening .round :: ts, out⟩ = some (.plain, ⟨rest, out'⟩) := by
  refine Iterates.iterate_eq (n := 1) (.more (b := Form.plain) (t := ⟨rest, out'⟩) ?_ (.done ?_))
    (Nat.le_add_left 1 ts.length)
  · exact (bind_of_eq (ahead_run _)).trans ((bind_of_eq h).trans rfl)
  · obtain _ | _ | ⟨_ | _⟩ := hends <;> rfl

end Grammar

/-- With this depth `ts` is read as an operand and printed as `printed`. -/
structure IsOperand (n : Nat) (ts printed : List Token) : Prop where
  started : ∀ rest, atEnd (ts ++ rest) = false
  read : ∀ {rest}, Grammar.Ends rest → ∀ out, Rule.parse n (.unary true) ⟨ts ++ rest, out⟩ =
    some (.plain, ⟨rest, printed.reverse ++ out⟩)

namespace IsOperand

open TokenReader Grammar

variable {n : Nat} {ts printed : List Token}

theorem expr (h : IsOperand n ts printed) {rest : List Token} (hends : Ends rest)
    (out : List Token) : Rule.parse (n + 1) (.expr true) ⟨ts ++ rest, out⟩ =
      some (.plain, ⟨rest, printed.reverse ++ out⟩) := by
  have hstart : printedCount ⟨ts ++ rest, out⟩ = some (out.length, ⟨ts ++ rest, out⟩) := rfl
  refine (bind_of_eq hstart).trans ((bind_of_eq (h.read hends out)).trans ?_)
  obtain _ | _ | ⟨_ | _⟩ := hends <;> rfl

theorem value (h : IsOperand n ts printed) {rest : List Token} (hends : Ends rest)
    (out : List Token) : Grammar.value (Rule.parse (n + 1)) ⟨ts ++ rest, out⟩ =
      some ((), ⟨rest, printed.reverse ++ out⟩) :=
  bind_of_eq (h.expr hends out)

theorem literal (t : Text) : IsOperand (n + 1) [.literal t] [.literal t] where
  started _ := rfl
  read hends _ := readUnary_of_atom rfl rfl rfl (trailers_ends hends .plain)

section Paths

variable {w : Text} {ws : List Text}

/-- A path from the root. -/
theorem path (hnames : ∀ v ∈ w :: ws, v ∉ strictKeywords ∧ v ∉ specialSegments) :
    IsOperand (n + 1) ((w :: ws).flatMap rootedSegment) ((w :: ws).flatMap rootedSegment) where
  started _ := rfl
  read {rest} hends out := by
    have hpath : (Rule.parse n).qualifiedPath true ⟨(w :: ws).flatMap rootedSegment ++ rest, out⟩ =
        some (plainPathForm, ⟨rest, ((w :: ws).flatMap rootedSegment).reverse ++ out⟩) :=
      path_names (by obtain _ | _ | ⟨_ | _⟩ := hends <;> rfl) hnames
    refine readUnary_of_atom rfl rfl ?_ (trailers_ends hends .plain)
    refine (atom_rooted w _).trans ((bind_of_eq hpath).trans ?_)
    obtain _ | _ | ⟨_ | _⟩ := hends <;> rfl

/-- A reference to what begins with a path from the root. -/
theorem reference {printed : List Token} (glued : Bool)
    (h : IsOperand n (rootedSegment w ++ ts) printed) : IsOperand (n + 1)
      (.mark '&' glued :: (rootedSegment w ++ ts)) (.mark '&' false :: printed) where
  started _ := rfl
  read {rest} hends out := by
    have hunary := h.read hends (.mark '&' false :: out)
    rw [List.append_assoc] at hunary
    rw [List.cons_append, List.append_assoc, List.reverse_cons, List.append_assoc]
    have hsign : ∀ more, atOperator "#" (.mark '&' glued :: more) = false ∧
        atOperators ["&", "*", "!", "-"] (.mark '&' glued :: more) = true := by
      intro more
      cases glued <;> exact ⟨rfl, rfl⟩
    refine readUnary_of_prefixed (hsign _).1 (hsign _).2 ((prefixed_reference glued w _).trans ?_)
    exact (bind_of_eq hunary).trans rfl

end Paths

/-! ## 4. Lists of operands -/

/-- What is read, and what is printed, for operands with commas between them. -/
abbrev readList (items : List (List Token × List Token)) : List Token :=
  commaSeparated (items.map Prod.fst)

abbrev printedList (items : List (List Token × List Token)) : List Token :=
  commaSeparated (items.map Prod.snd)

section Lists

variable {items : List (List Token × List Token)} {b : Bracket} {rest : List Token}

theorem readList_append (item next : List Token × List Token) : readList (item :: next :: items) ++
    rest = item.1 ++ .mark ',' false :: (readList (next :: items) ++ rest) := by
  simp [readList, commaSeparated]

theorem printedList_reverse_append (item next : List Token × List Token) :
    (printedList (item :: next :: items)).reverse ++ rest =
      (printedList (next :: items)).reverse ++ .mark ',' false :: (item.2.reverse ++ rest) := by
  simp [printedList, commaSeparated]

theorem commaList (h : ∀ item ∈ items, IsOperand n item.1 item.2) (out : List Token) :
    TokenReader.commaList atEnd (Grammar.value (Rule.parse (n + 1)))
      ⟨readList items ++ .closing b :: rest, out⟩ =
        some ((), ⟨.closing b :: rest, (printedList items).reverse ++ out⟩) := by
  have hiterates : Iterates (again (commaStep atEnd (Grammar.value (Rule.parse (n + 1)))))
      (items.length - 1) () ⟨readList items ++ .closing b :: rest, out⟩ ()
      ⟨.closing b :: rest, (printedList items).reverse ++ out⟩ := by
    induction items generalizing out with
    | nil => exact .done (again_of_false (commaStep_stop rfl))
    | cons item items ih =>
      obtain ⟨hitem, hitems⟩ := List.forall_mem_cons.1 h
      cases items with
      | nil =>
        exact .done (again_of_false
          (commaStep_last (hitem.started _) (hitem.value (.closing b rest) out) rfl))
      | cons next items =>
        rw [readList_append, printedList_reverse_append]
        exact .more (again_of_true
          (commaStep_more (hitem.started _) (hitem.value (.comma false _) out) rfl)) (ih hitems _)
  refine hiterates.iterate_eq ?_
  have hcommas : items.length ≤ (readList items).length + 1 := by
    simpa using length_le_commaSeparated (items.map Prod.fst)
  simp only [List.length_append, List.length_cons]
  omega

/-- Arguments in round brackets. -/
theorem arguments (h : ∀ item ∈ items, IsOperand n item.1 item.2) (out : List Token) :
    Grammar.arguments (Rule.parse (n + 1)) ⟨bracketed .round (readList items) ++ rest, out⟩ =
      some ((), ⟨rest, (bracketed .round (printedList items)).reverse ++ out⟩) := by
  have hwithin : Grammar.arguments (Rule.parse (n + 1))
      ⟨.opening .round :: (readList items ++ .closing .round :: rest), out⟩ =
        some ((), ⟨rest, .closing .round ::
          ((printedList items).reverse ++ .opening .round :: out)⟩) :=
    within_of_eq (commaList h _)
  simpa [bracketed] using hwithin

def readElements (g : Grammar) : TokenReader Unit := do
  if ← sees atEnd then return
  g.value
  if ← sees (atOperator ";") then
    op ";"
    g.value
  else if !(← sees atEnd) then
    op ","
    TokenReader.commaList atEnd g.value

theorem elements (h : ∀ item ∈ items, IsOperand n item.1 item.2) (out : List Token) :
    readElements (Rule.parse (n + 1)) ⟨readList items ++ .closing b :: rest, out⟩ =
      some ((), ⟨.closing b :: rest, (printedList items).reverse ++ out⟩) := by
  cases items with
  | nil => rfl
  | cons item items =>
    obtain ⟨hitem, hitems⟩ := List.forall_mem_cons.1 h
    refine (bind_of_eq (sees_run _ _)).trans ?_
    cases items with
    | nil =>
      rw [show readList [item] = item.1 from rfl, hitem.started]
      exact (bind_of_eq (hitem.value (.closing b rest) out)).trans rfl
    | cons next items =>
      rw [readList_append, printedList_reverse_append, hitem.started]
      refine (bind_of_eq (hitem.value (.comma false _) out)).trans ?_
      exact commaList hitems _

/-- An array. -/
theorem arrayAtom (h : ∀ item ∈ items, IsOperand n item.1 item.2) (out : List Token) :
    Grammar.arrayAtom (Rule.parse (n + 1)) ⟨bracketed .square (readList items) ++ rest, out⟩ =
      some ((), ⟨rest, (bracketed .square (printedList items)).reverse ++ out⟩) := by
  have hwithin : Grammar.arrayAtom (Rule.parse (n + 1))
      ⟨.opening .square :: (readList items ++ .closing .square :: rest), out⟩ =
        some ((), ⟨rest, .closing .square ::
          ((printedList items).reverse ++ .opening .square :: out)⟩) :=
    within_of_eq (elements h _)
  simpa [bracketed] using hwithin

/-- An array is an operand if its elements are. -/
theorem array (items : List (List Token × List Token))
    (h : ∀ item ∈ items, IsOperand n item.1 item.2) : IsOperand (n + 2)
      (bracketed .square (readList items)) (bracketed .square (printedList items)) where
  started _ := rfl
  read hends out := by
    refine readUnary_of_atom rfl rfl ?_ (trailers_ends hends .plain)
    exact (atom_square _).trans ((bind_of_eq (arrayAtom h out)).trans rfl)

/-- A call of a path from the root is an operand if its arguments are. -/
theorem call {w : Text} {ws : List Text} (items : List (List Token × List Token))
    (hnames : ∀ v ∈ w :: ws, v ∉ strictKeywords ∧ v ∉ specialSegments)
    (h : ∀ item ∈ items, IsOperand n item.1 item.2) : IsOperand (n + 2)
      ((w :: ws).flatMap rootedSegment ++ bracketed .round (readList items))
      ((w :: ws).flatMap rootedSegment ++ bracketed .round (printedList items)) where
  started _ := rfl
  read {rest} hends out := by
    have hpath : (Rule.parse (n + 1)).qualifiedPath true ⟨(w :: ws).flatMap rootedSegment ++
        (bracketed .round (readList items) ++ rest), out⟩ = some (plainPathForm,
          ⟨bracketed .round (readList items) ++ rest,
            ((w :: ws).flatMap rootedSegment).reverse ++ out⟩) :=
      path_names rfl hnames
    rw [List.append_assoc, List.reverse_append, List.append_assoc]
    refine readUnary_of_atom rfl rfl ?_ (trailers_call hends (arguments h _))
    exact (atom_rooted w _).trans ((bind_of_eq hpath).trans rfl)

end Lists

section Expressions

variable {k : Nat} (h : ∀ n, IsOperand (n + k) ts printed) (hk : k < 16)

include h hk

/-- Tokens that are an operand with some depth are read as one expression. -/
theorem front?_append {rest : List Token} (hends : Ends rest) :
    Expression.front? (ts ++ rest) = some (printed, rest) := by
  obtain ⟨n, hn⟩ : ∃ n, Expression.depth (ts ++ rest) = n + k + 1 :=
    ⟨Expression.depth (ts ++ rest) - (k + 1), by rw [Expression.depth]; omega⟩
  rw [Expression.front?, hn, (h n).expr hends, Option.map_some, List.append_nil,
    List.reverse_reverse]

theorem parse?_eq : Expression.parse? ts = some printed := by
  have hfront := front?_append h hk .nothing
  rw [List.append_nil] at hfront
  rw [Expression.parse?, hfront]

end Expressions

end IsOperand
end ForeignCall
