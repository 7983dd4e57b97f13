import ClientScript.Encoding.Fields
import ClientScript.Json.Reader
import ClientScript.Script

namespace ClientScript

open Encoding

-- Every reader takes the number of levels that arrays and objects may still be nested, and whether
-- the value is held.

def Ty.read (held : Bool) (room : Nat) (j : Json) : Option Ty :=
  (caseName? held room j).bind Ty.ofLiteral?

def Variable.Kind.ofLiteral? (s : String) : Option Variable.Kind :=
  all.find? (·.literal = s)

def Variable.read (held : Bool) : Nat → Json → Option Variable
  | 0,        _ => none
  | room + 1, j => do
    guard (held || isHoldable (room + 1) j)
    let (tag, body) ← splitTag? "kind" j
    let kind ← (← tagName? held (Kind.all.map Kind.literal) tag) |> Kind.ofLiteral?
    match ← fields? ["ty", "id"] body with
    | [some ty, some id] => return { kind, ty := ← Ty.read true room ty, id := ← uint32? id }
    | _                  => none

def Payload.read : Json → Option Payload
  | .str s => some (.text s)
  | j      => .int <$> int32? j

def Constant.read (held : Bool) : Nat → Json → Option Constant
  | 0,        _ => none
  | room + 1, j => do
    match ← fields? ["ty", "value"] j with
    | [some ty, some payload] =>
      return { ty := ← Ty.read held room ty, payload := ← Payload.read payload }
    | _ => none

namespace Expression

-- The tag of an expression, its value, and whether the value stands in front of the tag.
def parts? : Json → Option (Json × Json × Bool)
  | .arr [tag, value] => some (tag, value, false)
  | .obj ms           =>
    match Json.valuesOf "expr" ms, Json.valuesOf "value" ms with
    | [tag], [value] =>
      some (tag, value, ((ms.map (·.1)).find? fun k => k = "expr" || k = "value") == some "value")
    | _, _ => none
  | _                 => none

mutual

-- A value in front of its tag is held, as nothing tells yet what it is.
def read (held : Bool) : Nat → Json → Option Expression
  | 0,        _ => none
  | room + 1, j => do
    let (tag, value, early) ← parts? j
    guard (held || !early || isHoldable room value)
    match ← caseName? held room tag with
    | "variable"  => var <$> Variable.read (held || early) room value
    | "constant"  => const <$> Constant.read (held || early) room value
    | "operation" => readOperation (held || early) room value
    | "compound"  => compound <$> readAll (held || early) room value
    | _           => none

-- An operation is never an array of its fields.
def readOperation (held : Bool) : Nat → Json → Option Expression
  | room + 1, .obj ms => do
    match ← fields? ["opcode", "types", "arguments"] (.obj ms) with
    | [some code, types, some arguments] =>
      let code ← uint16? code
      let types ← defaulted (readList (Ty.read held) room) types
      let arguments ← readAll held room arguments
      return op { code } types arguments
    | _ => none
  | _,        _       => none

def readAll (held : Bool) : Nat → Json → Option (List Expression)
  | room + 1, .arr es => es.mapM (read held room)
  | _,        _       => none

end

end Expression

def Instruction.read (held : Bool) : Nat → Json → Option Instruction
  | 0,        _ => none
  | room + 1, j => do
    guard (held || isHoldable (room + 1) j)
    let (tag, body) ← splitTag? "insn" j
    match ← tagName? held ["assignment", "return"] tag with
    | "assignment" =>
      match ← fields? ["definitions", "expression"] body with
      | [targets, some value] =>
        let targets ← defaulted (readList (Variable.read true) room) targets
        return assign targets (← Expression.read true room value)
      | _ => none
    | "return"     =>
      match ← fields? ["expression"] body with
      | [some value] => return ret (← Expression.read true room value)
      | _            => none
    | _            => none

def Construct.followedBy (c : Construct) : Option Chain → Chain
  | none      => .last c
  | some rest => .link c rest

def Branches.ofList (branches : List (Expression × Chain)) (elze : Option Chain) : Branches :=
  branches.foldr (fun (condition, body) rest => .branch condition body rest)
    (elze.elim .done .otherwise)

def Cases.ofList (cases : List (List Int32 × Chain)) (elze : Option Chain) : Cases :=
  cases.foldr (fun (labels, body) rest => .case labels body rest) (elze.elim .done .otherwise)

mutual

def Chain.read (held : Bool) : Nat → Json → Option Chain
  | 0,        _ => none
  | room + 1, j => do
    guard (held || isHoldable (room + 1) j)
    let (tag, body) ← splitTag? "construct" j
    match ← tagName? held ["seq", "if", "while", "switch"] tag with
    | "seq"    =>
      match ← fields? ["instructions", "next"] body with
      | [some is, next] =>
        let is ← readList (Instruction.read true) room is
        return (Construct.seq is).followedBy (← optional (Chain.read true room) next)
      | _ => none
    | "if"     =>
      match ← fields? ["branches", "elze", "next"] body with
      | [some branches, elze, next] =>
        let branches ← Branches.readAll room branches
        let elze ← optional (Chain.read true room) elze
        let next ← optional (Chain.read true room) next
        return (Construct.cond (.ofList branches elze)).followedBy next
      | _ => none
    | "while"  =>
      match ← fields? ["condition", "body", "next"] body with
      | [some condition, some body, next] =>
        let condition ← Expression.read true room condition
        let body ← Chain.read true room body
        return (Construct.loop condition body).followedBy (← optional (Chain.read true room) next)
      | _ => none
    | "switch" =>
      match ← fields? ["scrutinee", "cases", "elze", "next"] body with
      | [some scrutinee, some cases, elze, next] =>
        let scrutinee ← Expression.read true room scrutinee
        let cases ← Cases.readAll room cases
        let elze ← optional (Chain.read true room) elze
        let next ← optional (Chain.read true room) next
        return (Construct.switch scrutinee (.ofList cases elze)).followedBy next
      | _ => none
    | _        => none

def Branches.readAll : Nat → Json → Option (List (Expression × Chain))
  | room + 1, .arr es => es.mapM (Branches.readOne room)
  | _,        _       => none

def Branches.readOne : Nat → Json → Option (Expression × Chain)
  | 0,        _ => none
  | room + 1, j => do
    match ← fields? ["condition", "body"] j with
    | [some condition, some body] =>
      return (← Expression.read true room condition, ← Chain.read true room body)
    | _ => none

def Cases.readAll : Nat → Json → Option (List (List Int32 × Chain))
  | room + 1, .arr es => es.mapM (Cases.readOne room)
  | _,        _       => none

def Cases.readOne : Nat → Json → Option (List Int32 × Chain)
  | 0,        _ => none
  | room + 1, j => do
    match ← fields? ["labels", "body"] j with
    | [some labels, some body] =>
      return (← readList (fun _ => int32?) room labels, ← Chain.read true room body)
    | _ => none

end

def Script.read : Nat → Json → Option Script
  | 0,        _ => none
  | room + 1, j => do
    match ← fields? ["id", "arguments", "return_types", "body"] j with
    | [some id, arguments, returns, some body] =>
      let id ← int32? id
      let arguments ← defaulted (readList (Variable.read false) room) arguments
      let returns ← defaulted (readList (Ty.read false) room) returns
      return { id, arguments, returns, body := ← Chain.read false room body }
    | _ => none

def Module.read : Nat → Json → Option Module
  | 0,        _ => none
  | room + 1, j => do
    match ← fields? ["name", "functions"] j with
    | [some (.str name), some scripts] =>
      return { name, scripts := ← readList Script.read room scripts }
    | _ => none

def Encoding.levels : Nat :=
  127

def Module.ofText? (text : String) : Option Module :=
  (Json.read text).bind (Module.read levels)

end ClientScript
