import ForeignCall.Proofs.Binding.Printed
import ForeignCall.Proofs.Source.CodeReader

/-!
# Reading stubs

The source code of a stub tells its signature, its name, its types and each of its statements.

* `CodeReader.Gives.statement`: every statement is read back, `CodeReader.Gives.stub`: so is a stub.
-/

namespace ForeignCall
namespace CodeReader

/-! ## 1. Types -/

def localToken (letter : Char) (index : Nat) : Token := .word (letter :: Text.ofNat index)

def paramTypes : List (List Token × SemanticType) := [
  (code "i32", .int32),
  (code "i64", .int64),
  (code ":: core :: option :: Option < & str >", .string),
  (code ":: core :: option :: Option < :: natbind_runtime :: Handle >", .handle),
  (code "( )", .void)]

def returnTypes : List (List Token × SemanticType) := [
  (code "i32", .int32),
  (code "i64", .int64),
  (code ":: core :: option :: Option < :: std :: string :: String >", .string),
  (code ":: core :: option :: Option < :: natbind_runtime :: Handle >", .handle),
  (code "( )", .void)]

def nativeTypes : List (List Token × SemanticType) := [
  (code "i32", .int32),
  (code "i64", .int64),
  (code "* const :: std :: os :: raw :: c_char", .string),
  (code "* mut :: std :: ffi :: c_void", .handle),
  (code "( )", .void)]

theorem diverge_types : (paramTypes.map Prod.fst).Pairwise Token.Diverge ∧
    (returnTypes.map Prod.fst).Pairwise Token.Diverge ∧
    (nativeTypes.map Prod.fst).Pairwise Token.Diverge := by
  decide_cbv

theorem mem_types (type : SemanticType) : (managedParam type, type) ∈ paramTypes ∧
    (managedReturn type, type) ∈ returnTypes ∧ (nativeType type, type) ∈ nativeTypes := by
  have hall : SemanticType.all.all (fun type => (managedParam type, type) ∈ paramTypes ∧
      (managedReturn type, type) ∈ returnTypes ∧ (nativeType type, type) ∈ nativeTypes) = true := by
    decide_cbv
  exact of_decide_eq_true (List.all_eq_true.1 hall type (by cases type <;> decide))

namespace Gives

theorem paramType (type : SemanticType) :
    Gives (CodeReader.oneOf paramTypes) (managedParam type) type :=
  .oneOf diverge_types.1 (mem_types type).1

theorem returnType (type : SemanticType) :
    Gives (CodeReader.oneOf returnTypes) (managedReturn type) type :=
  .oneOf diverge_types.2.1 (mem_types type).2.1

theorem nativeType (type : SemanticType) :
    Gives (CodeReader.oneOf nativeTypes) (ForeignCall.nativeType type) type :=
  .oneOf diverge_types.2.2 (mem_types type).2.2

end Gives

theorem diverge_nativeType (type : SemanticType) :
    Token.Diverge [.closing .round] (ForeignCall.nativeType type) := by
  have hall : SemanticType.all.all (fun type =>
      Token.Diverge [.closing .round] (ForeignCall.nativeType type)) = true := by
    decide_cbv
  exact of_decide_eq_true (List.all_eq_true.1 hall type (by cases type <;> decide))

def result {α : Type} (inner : CodeReader α) : CodeReader α := do
  fixed (supportPath "BindResult <")
  let a ← inner
  fixed (code ">")
  return a

theorem Gives.result {α : Type} {p : CodeReader α} {ts : List Token} {a : α} (h : Gives p ts a) :
    Gives (result p) (resultType ts) a := by
  rw [resultType, List.append_assoc]
  exact (fixed _).bind (h.bind (fixed _).map)

/-! ## 2. Statements -/

/-- How many of the local variables are listed, which have to be the first ones in order. -/
def localCount (letter : Char) : CodeReader Nat := do
  return (← listed .round [] fun k => fixed [localToken letter k]).length

/-- How argument number `index` is taken down. -/
def downSteps (index : Nat) : List (List Token × DownStep) := [
  ([localToken 'a' index], .keep),
  (supportPath "convert :: down_string" ++
    bracketed .round (code "& mut arena ," ++ [localToken 'a' index]) ++ code "?", .string),
  (supportPath "convert :: down_handle" ++ bracketed .round [localToken 'a' index], .handle)]

/-- Takes an argument down, which is the variable of the same number. -/
def down : CodeReader Statement := do
  fixed (code "let")
  let index ← token (Token.local? 'n')
  fixed (code "=")
  let step ← oneOf (downSteps index)
  fixed (code ";")
  return .down index step

def takeEntry : CodeReader Statement := do
  let field ← ident
  fixed (code ". callable")
  let symbol ← within .round quoted
  fixed (code "? ;")
  return .takeEntry field symbol

/-- How an entry point becomes a function. -/
def transmute : List Token :=
  code "= unsafe \x7b :: core :: mem :: transmute ( func ) \x7d ;"

def entryResults : List (List Token × CodeReader SemanticType) := [
  (code "->", do
    let ret ← oneOf nativeTypes
    fixed transmute
    return ret),
  (transmute, pure .void)]

def entryResult : CodeReader SemanticType := choose entryResults

def typeEntry : CodeReader Statement := do
  let params ← listed .round [] fun _ => oneOf nativeTypes
  let ret ← entryResult
  return .typeEntry params ret

def callEntry : CodeReader Statement := do
  let count ← within .curly do
    fixed (code "func")
    localCount 'n'
  fixed (code ";")
  return .callEntry count

def upSteps : List (List Token × UpStep) := [
  (code "ret", .keep),
  (code "unsafe" ++ bracketed .curly (supportPath "convert :: up_string ( ret )"), .string),
  (supportPath "convert :: up_handle ( ret )", .handle)]

def up : CodeReader Statement := do
  let step ← oneOf upSteps
  fixed (code ";")
  return .up step

def statements : List (List Token × CodeReader Statement) := [
  (code "let mut arena =", do
    fixed (supportPath "CallArena :: new ( ) ;")
    return .openArena),
  (code "let func = self .", takeEntry),
  (code "let func : unsafe extern \"C\" fn", typeEntry),
  (code "let ret = unsafe", callEntry),
  (code "let value =", up),
  (code "drop ( arena ) ;", pure .dropArena),
  (code "Ok ( value )", pure .giveValue)]

def statement : CodeReader Statement := choose statements <|> down

theorem diverge_entryResult : (entryResults.map Prod.fst).Pairwise Token.Diverge := by
  simp only [entryResults, List.map_cons, List.map_nil]
  decide_cbv

theorem diverge_downSteps (index : Nat) :
    ((downSteps index).map Prod.fst).Pairwise Token.Diverge := by
  have hpaths : Token.Diverge (supportPath "convert :: down_string")
      (supportPath "convert :: down_handle") := by decide_cbv
  have hheads : (supportPath "convert :: down_string").head? = some (.mark ':' true) ∧
      (supportPath "convert :: down_handle").head? = some (.mark ':' true) := by decide_cbv
  have hne : localToken 'a' index ≠ .mark ':' true := by rintro ⟨⟩
  have hstring : Token.Diverge [localToken 'a' index] _ := .of_head? rfl hheads.1 hne
  have hhandle : Token.Diverge [localToken 'a' index] _ := .of_head? rfl hheads.2 hne
  simp only [downSteps, List.map_cons, List.map_nil, List.pairwise_cons, List.forall_mem_cons,
    List.append_assoc]
  exact ⟨⟨hstring.append_right _, hhandle.append_right _, List.forall_mem_nil _⟩,
    ⟨hpaths.append _ _, List.forall_mem_nil _⟩, List.forall_mem_nil _, .nil⟩

theorem diverge_upSteps : (upSteps.map Prod.fst).Pairwise Token.Diverge := by
  decide_cbv

/-- Nor does any of them begin like the end of the body. -/
theorem diverge_statements :
    ([.closing .curly] :: statements.map Prod.fst).Pairwise Token.Diverge := by
  simp only [statements, List.map_cons, List.map_nil]
  decide_cbv

theorem fronts_statements : (statements.map Prod.fst).Pairwise Token.Diverge :=
  (List.pairwise_cons.1 diverge_statements).2

/-- What begins like this is no statement that takes an argument down. -/
def otherStatement : List Token → Bool
  | first :: second :: _ => first != .word "let" || second.text.head? != some 'n'
  | _ => false

theorem diverge_let (index : Nat) : ∀ {front : List Token}, otherStatement front = true →
    Token.Diverge front [.word "let", localToken 'n' index]
  | first :: second :: _, h => by
    rw [otherStatement, Bool.or_eq_true, bne_iff_ne, bne_iff_ne] at h
    refine h.imp_right fun hsecond => .inl ?_
    rintro rfl
    exact hsecond rfl

theorem otherStatement_statements :
    (statements.map Prod.fst).all otherStatement = true := by
  simp only [statements, List.map_cons, List.map_nil]
  repeat rw [String.toList_ofList]
  decide_cbv

theorem givesEach_locals (letter : Char) (count k : Nat) :
    GivesEach (fun k => fixed [localToken letter k]) k
      ((List.range' k count).map fun k => [localToken letter k]) (List.replicate count ()) := by
  induction count generalizing k with
  | zero => exact .nil
  | succ count ih => exact .cons (.fixed _) (ih (k + 1))

namespace Gives

theorem localCount (letter : Char) (count : Nat) :
    Gives (localCount letter)
      (bracketed .round (commaSeparated (locals (localToken letter) count))) count := by
  have hlocals := givesEach_locals letter count 0
  rw [← List.range_eq_range'] at hlocals
  have hlist : Gives (CodeReader.listed .round [] fun k => CodeReader.fixed [localToken letter k])
      (bracketed .round (commaSeparated (locals (localToken letter) count)))
      (List.replicate count ()) :=
    listed hlocals (List.forall_mem_map.2 fun _ _ => .inl nofun)
  have hcount := hlist.map (g := List.length)
  rwa [List.length_replicate] at hcount

theorem down (index : Nat) (step : DownStep) :
    Gives statement (Statement.down index step).tokens (.down index step) := by
  have hstep {lowered : List Token} (h : (lowered, step) ∈ downSteps index) :
      Gives statement (code "let" ++ [loweredToken index] ++ code "=" ++ lowered ++ code ";")
        (.down index step) := by
    have hother : Refuses (CodeReader.choose statements) (code "let" ++ [loweredToken index]) := by
      refine .choose fun front hfront => diverge_let index ?_
      exact List.all_eq_true.1 otherStatement_statements front hfront
    simp only [List.append_assoc]
    refine .orElse_right (hother.append _) ?_
    refine (fixed _).bind (.bind (.token (Token.local?_ofNat 'n' index)) ((fixed _).bind ?_))
    exact (oneOf (diverge_downSteps index) h).bind (fixed _).map
  cases step with
  | keep => exact hstep (.head _)
  | string => exact hstep (.tail _ (.head _))
  | handle => exact hstep (.tail _ (.tail _ (.head _)))

theorem takeEntry {field : Ident} (h : isSymbolName field.name = true) (symbol : Text) :
    Gives statement (Statement.takeEntry field symbol).tokens (.takeEntry field symbol) := by
  simp only [Statement.tokens, List.append_assoc]
  refine .orElse_left (.choose fronts_statements (.tail _ (.head _)) ?_) _
  exact (ident h).bind ((fixed _).bind (((quoted symbol).within .round).bind (fixed _).map))

theorem typeEntry (params : List SemanticType) (ret : SemanticType) :
    Gives statement (Statement.typeEntry params ret).tokens (.typeEntry params ret) := by
  have hparams : Gives (CodeReader.listed .round [] fun _ => CodeReader.oneOf nativeTypes)
      (bracketed .round (commaSeparated (params.map ForeignCall.nativeType))) params :=
    listed (.of_forall fun type _ => nativeType type)
      (List.forall_mem_map.2 fun type _ => diverge_nativeType type)
  have hsigned {result : List Token} (hret : Gives entryResult (result ++ transmute) ret) :
      Gives statement (code "let func : unsafe extern \"C\" fn" ++
        bracketed .round (commaSeparated (params.map ForeignCall.nativeType)) ++ result ++
        transmute) (.typeEntry params ret) := by
    simp only [List.append_assoc]
    refine .orElse_left (.choose fronts_statements (.tail _ (.tail _ (.head _))) ?_) _
    exact hparams.bind hret.map
  have hsome (type : SemanticType) :
      Gives entryResult (code "->" ++ ForeignCall.nativeType type ++ transmute) type := by
    rw [List.append_assoc]
    exact .choose diverge_entryResult (.head _) ((nativeType type).bind (fixed _).map)
  cases ret with
  | void => exact @hsigned [] (.choose_pure diverge_entryResult (.tail _ (.head _)))
  | int32 => exact hsigned (hsome .int32)
  | int64 => exact hsigned (hsome .int64)
  | string => exact hsigned (hsome .string)
  | handle => exact hsigned (hsome .handle)

theorem callEntry (count : Nat) :
    Gives statement (Statement.callEntry count).tokens (.callEntry count) := by
  simp only [Statement.tokens, List.append_assoc]
  refine .orElse_left (.choose fronts_statements (.tail _ (.tail _ (.tail _ (.head _)))) ?_) _
  exact (((fixed _).bind (localCount 'n' count)).within .curly).bind (fixed _).map

theorem up (step : UpStep) : Gives statement (Statement.up step).tokens (.up step) := by
  have hstep {value : List Token} (h : (value, step) ∈ upSteps) :
      Gives statement (code "let value =" ++ value ++ code ";") (.up step) := by
    rw [List.append_assoc]
    refine .orElse_left (.choose fronts_statements
      (.tail _ (.tail _ (.tail _ (.tail _ (.head _))))) ?_) _
    exact (oneOf diverge_upSteps h).bind (fixed _).map
  cases step with
  | keep => exact hstep (.head _)
  | string => exact hstep (.tail _ (.head _))
  | handle => exact hstep (.tail _ (.tail _ (.head _)))

theorem statement {s : Statement} (h : s.Named) : Gives statement s.tokens s := by
  cases s with
  | openArena => exact .orElse_left (.choose fronts_statements (.head _) (fixed _).map) _
  | down index step => exact down index step
  | takeEntry field symbol => exact takeEntry (h field symbol rfl).symbol symbol
  | typeEntry params ret => exact typeEntry params ret
  | callEntry count => exact callEntry count
  | up step => exact up step
  | dropArena =>
    exact .orElse_left (.choose_pure fronts_statements
      (.tail _ (.tail _ (.tail _ (.tail _ (.tail _ (.head _))))))) _
  | giveValue =>
    exact .orElse_left (.choose_pure fronts_statements
      (.tail _ (.tail _ (.tail _ (.tail _ (.tail _ (.tail _ (.head _)))))))) _

end Gives

/-- No statement begins with the bracket that closes a body. -/
theorem diverge_closing (s : Statement) : Token.Diverge [.closing .curly] s.tokens := by
  have hall {front : List Token} (hfront : front ∈ statements.map Prod.fst) :
      Token.Diverge [.closing .curly] front :=
    (List.pairwise_cons.1 diverge_statements).1 front hfront
  have hdown : Token.Diverge [.closing .curly] (code "let") := by decide_cbv
  cases s <;> simp only [Statement.tokens, List.append_assoc]
  case openArena => exact (hall (.head _)).append_right _
  case down => exact hdown.append_right _
  case takeEntry => exact (hall (.tail _ (.head _))).append_right _
  case typeEntry => exact (hall (.tail _ (.tail _ (.head _)))).append_right _
  case callEntry => exact (hall (.tail _ (.tail _ (.tail _ (.head _))))).append_right _
  case up => exact (hall (.tail _ (.tail _ (.tail _ (.tail _ (.head _)))))).append_right _
  case dropArena => exact hall (.tail _ (.tail _ (.tail _ (.tail _ (.tail _ (.head _))))))
  case giveValue =>
    exact hall (.tail _ (.tail _ (.tail _ (.tail _ (.tail _ (.tail _ (.head _)))))))

/-! ## 3. Stubs -/

def param (index : Nat) : CodeReader SemanticType := do
  fixed [localToken 'a' index, .mark ':' false]
  oneOf paramTypes

def stub : CodeReader Stub := do
  let signature ← doc " " []
  fixed (code "pub fn")
  let name ← ident
  let params ← listed .round (code "& self ,") param
  fixed (code "->")
  let ret ← result (oneOf returnTypes)
  let body ← block .curly statement
  return ⟨name, signature, params, ret, body⟩

theorem givesEach_params (index : Nat) (types : List SemanticType) :
    GivesEach param index (paramTokens index types) types := by
  induction types generalizing index with
  | nil => exact .nil
  | cons type types ih => exact .cons ((Gives.fixed _).bind (.paramType type)) (ih (index + 1))

theorem diverge_paramTokens (b : Bracket) (index : Nat) (types : List SemanticType) :
    ∀ part ∈ paramTokens index types, Token.Diverge [.closing b] part := by
  induction types generalizing index with
  | nil => exact List.forall_mem_nil _
  | cons type types ih => exact List.forall_mem_cons.2 ⟨.inl nofun, ih (index + 1)⟩

/-- A stub is read back. -/
theorem Gives.stub {s : Stub} (h : s.Named) : Gives stub s.tokens s := by
  have hdoc := doc " " s.signature []
  have hbody : Gives (CodeReader.block .curly CodeReader.statement)
      (bracketed .curly (s.body.flatMap Statement.tokens)) s.body :=
    block (fun t ht => statement (h.body t ht)) fun t _ => diverge_closing t
  rw [List.append_nil] at hdoc
  simp only [Stub.tokens, List.append_assoc]
  refine hdoc.bind ((fixed _).bind ((ident h.ident.symbol).bind ?_))
  refine (listed (givesEach_params 0 s.params) (diverge_paramTokens _ 0 s.params)).bind ?_
  exact (fixed _).bind ((result (returnType s.ret)).bind hbody.map)

end CodeReader
end ForeignCall
