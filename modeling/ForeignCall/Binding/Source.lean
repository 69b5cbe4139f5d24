import ForeignCall.Binding.Code
import ForeignCall.Source.Token

/-!
# Typed bindings as source code

The tokens of each part of a typed binding. Names of the support library are written with their full
path.
-/

namespace ForeignCall

/-! ## 1. Types -/

/-- The path of an item of the support library. -/
def supportPath (item : Text) : List Token := code (":: natbind_runtime :: ".toList ++ item)

def optionType (inner : Text) : List Token :=
  code (":: core :: option :: Option < ".toList ++ inner ++ " >")

def managedParam : SemanticType → List Token
  | .int32 => code "i32"
  | .int64 => code "i64"
  | .string => optionType "& str"
  | .handle => optionType ":: natbind_runtime :: Handle"
  | .void => code "( )"

def managedReturn : SemanticType → List Token
  | .string => optionType ":: std :: string :: String"
  | type => managedParam type

def nativeType : SemanticType → List Token
  | .int32 => code "i32"
  | .int64 => code "i64"
  | .string => code "* const :: std :: os :: raw :: c_char"
  | .handle => code "* mut :: std :: ffi :: c_void"
  | .void => code "( )"

def Layout.tokens : Layout → List Token
  | void => supportPath "NativeLayout :: Void"
  | int32 => supportPath "NativeLayout :: Int32"
  | int64 => supportPath "NativeLayout :: Int64"
  | pointer => supportPath "NativeLayout :: Pointer"

def CallShape.tokens (s : CallShape) : List Token :=
  supportPath "CallShape :: new" ++ bracketed .round (s.ret.tokens ++ code ", &" ++
    bracketed .square (commaSeparated (s.params.map Layout.tokens)))

/-! ## 2. Pieces -/

/-- A documenting attribute. -/
def docTokens (t : Text) : List Token :=
  .mark '#' false :: bracketed .square (code "doc =" ++ [.quoted t])

/-- A documenting attribute of a template. -/
def fixedDoc (t : Text) : List Token :=
  .mark '#' false :: bracketed .square (code "doc =" ++ [.literal ("r\"".toList ++ t ++ "\"")])

/-- The lints that generated names and code do not follow. -/
def lintTokens : List Token :=
  code ("# [ allow ( non_snake_case , non_camel_case_types , non_upper_case_globals , ".toList ++
    "unused_mut , unused_variables , clippy :: all ) ]")

def Ident.token (i : Ident) : Token := .word i.text

/-- The local variable for argument number `index`. -/
def argToken (index : Nat) : Token := .word ('a' :: Text.ofNat index)

/-- The local variable for lowered argument number `index`. -/
def loweredToken (index : Nat) : Token := .word ('n' :: Text.ofNat index)

/-- The parameters of a stub with their types, the first being number `index`. -/
def paramTokens (index : Nat) : List SemanticType → List (List Token)
  | [] => []
  | type :: rest =>
    (argToken index :: .mark ':' false :: managedParam type) :: paramTokens (index + 1) rest

/-- The first `count` local variables. -/
def locals (name : Nat → Token) (count : Nat) : List (List Token) :=
  (List.range count).map fun index => [name index]

/-- The result type of a binding operation. -/
def resultType (inner : List Token) : List Token :=
  supportPath "BindResult <" ++ inner ++ code ">"

/-! ## 3. Stubs -/

def Statement.tokens : Statement → List Token
  | openArena => code "let mut arena =" ++ supportPath "CallArena :: new ( ) ;"
  | down index step =>
    let arg := argToken index
    let lowered := match step with
      | .keep => [arg]
      | .string =>
        supportPath "convert :: down_string" ++
          bracketed .round (code "& mut arena ," ++ [arg]) ++ code "?"
      | .handle => supportPath "convert :: down_handle" ++ bracketed .round [arg]
    code "let" ++ [loweredToken index] ++ code "=" ++ lowered ++ code ";"
  | takeEntry field symbol =>
    code "let func = self ." ++ [field.token] ++ code ". callable" ++
      bracketed .round [.quoted symbol] ++ code "? ;"
  | typeEntry params ret =>
    let result := match ret with
      | .void => []
      | ret => code "->" ++ nativeType ret
    code "let func : unsafe extern \"C\" fn" ++
      bracketed .round (commaSeparated (params.map nativeType)) ++ result ++
      code "= unsafe \x7b :: core :: mem :: transmute ( func ) \x7d ;"
  | callEntry count =>
    code "let ret = unsafe" ++ bracketed .curly (code "func" ++
      bracketed .round (commaSeparated (locals loweredToken count))) ++ code ";"
  | up step =>
    let value := match step with
      | .keep => code "ret"
      | .string => code "unsafe" ++ bracketed .curly (supportPath "convert :: up_string ( ret )")
      | .handle => supportPath "convert :: up_handle ( ret )"
    code "let value =" ++ value ++ code ";"
  | dropArena => code "drop ( arena ) ;"
  | giveValue => code "Ok ( value )"

def Stub.tokens (s : Stub) : List Token :=
  docTokens (" ".toList ++ backquoted s.signature) ++ code "pub fn" ++ [s.ident.token] ++
    bracketed .round (code "& self ," ++ commaSeparated (paramTokens 0 s.params)) ++ code "->" ++
    resultType (managedReturn s.ret) ++
    bracketed .curly (s.body.flatMap Statement.tokens)

/-! ## 4. Items -/

namespace TypedBinding

def typeItem (b : TypedBinding) : List Token :=
  docTokens (" Native bindings for ".toList ++ backquoted b.interface ++ ".") ++ lintTokens ++
    code "pub struct" ++ [b.type.token] ++
    bracketed .curly (b.fields.flatMap fun f =>
      f.token :: .mark ':' false :: supportPath "EntryPoint ,")

def constItem (c : IdConst) : List Token :=
  docTokens (" Method id of ".toList ++ backquoted c.symbol ++ ".") ++ code "pub const" ++
    [.word c.name] ++ code ":" ++ supportPath "MethodId =" ++ supportPath "MethodId :: new" ++
    bracketed .round [.literal (Text.ofNat c.index ++ "u32")] ++ code ";"

def bindItem (b : TypedBinding) : List Token :=
  fixedDoc " Resolve every entry point now, in method-id order." ++ code "pub fn bind" ++
    bracketed .round (code "lookup : & dyn" ++ supportPath "SymbolLookup ,") ++ code "->" ++
    resultType (code "Self") ++
    bracketed .curly (code "Ok" ++ bracketed .round (code "Self" ++
      bracketed .curly (b.resolutions.flatMap fun (field, symbol) =>
        field.token :: .mark ':' false :: (supportPath "resolve_symbol" ++
          bracketed .round (code "lookup ," ++ [.quoted symbol]) ++ code "? ,"))))

/-- The constants, the binding function and the stubs. -/
def ownItem (b : TypedBinding) : List Token :=
  lintTokens ++ code "impl" ++ [b.type.token] ++
    bracketed .curly (b.consts.flatMap constItem ++
      fixedDoc " Method names in id order." ++
      code "pub const METHODS : & 'static [ & 'static str ] = &" ++
      bracketed .square (commaSeparated (b.symbols.map fun s => [.quoted s])) ++ code ";" ++
      fixedDoc " Every distinct call shape used by this interface, sorted." ++
      code "pub const CALL_SHAPES : & 'static" ++ bracketed .square (supportPath "CallShape") ++
      code "= &" ++ bracketed .square (commaSeparated (b.shapes.map CallShape.tokens)) ++
      code ";" ++ b.bindItem ++ b.stubs.flatMap Stub.tokens)

def unknownArm (name : Text) : List Token :=
  code "_ => Err" ++ bracketed .round (supportPath "BindError :: UnknownMethod" ++
    bracketed .round (code name ++ code ". to_string ( )")) ++ code ","

def extractTokens (symbol : Text) (e : Extractor) (index : Nat) : List Token :=
  let function : Text := match e with
    | .int32 => "arg_i32"
    | .int64 => "arg_i64"
    | .string => "arg_string"
    | .handle => "arg_handle"
  code "let" ++ [argToken index] ++ code "=" ++ supportPath ("convert :: ".toList ++ function) ++
    bracketed .round (.quoted symbol :: (code ", args ," ++
      [.literal (Text.ofNat index ++ "usize")])) ++ code "? ;"

def nameArmTokens (arm : NameArm) : List Token :=
  .quoted arm.symbol :: (code "=> Ok" ++
    bracketed .round (code "Self ::" ++ [.word arm.const]) ++ code ",")

def callArmTokens (arm : CallArm) : List Token :=
  .literal (Text.ofNat arm.index ++ "usize") :: (code "=>" ++
    bracketed .curly (supportPath "convert :: check_arity" ++
      bracketed .round (.quoted arm.symbol :: (code "," ++
        [.literal (Text.ofNat arm.arity ++ "usize")] ++ code ", args")) ++ code "? ;" ++
      arm.extractors.zipIdx.flatMap (fun (e, index) => extractTokens arm.symbol e index) ++
      code "self ." ++ [arm.target.token] ++
      bracketed .round (commaSeparated (locals argToken arm.extractors.length)) ++
      code ". map" ++ bracketed .round (supportPath "Value :: from")))

def dispatchItem (b : TypedBinding) : List Token :=
  lintTokens ++ code "impl" ++ supportPath "NativeInterface for" ++ [b.type.token] ++
    bracketed .curly (code "fn method_id ( & self , name : & str ) ->" ++
      resultType (supportPath "MethodId") ++
      bracketed .curly (code "match name" ++
        bracketed .curly (b.nameArms.flatMap nameArmTokens ++ unknownArm "name")) ++
      code "fn call" ++
      bracketed .round (code "& self , id :" ++ supportPath "MethodId , args : &" ++
        bracketed .square (supportPath "Value") ++ code ",") ++ code "->" ++
      resultType (supportPath "Value") ++
      bracketed .curly (code "match id . index ( )" ++
        bracketed .curly (b.callArms.flatMap callArmTokens ++ unknownArm "id")))

def items (b : TypedBinding) : List (List Token) := [b.typeItem, b.ownItem, b.dispatchItem]

end TypedBinding
end ForeignCall
