import ClientScript.Script
import ClientScript.Json.Value

namespace ClientScript

-- The JSON form of a module and its parts. All members are present: an absent `elze` or `next` is
-- `null`, and a chain nests through its `next`.

def Ty.toJson (t : Ty) : Json :=
  .str t.literal

def Variable.toJson (v : Variable) : Json :=
  .obj [("kind", .str v.kind.literal), ("ty", v.ty.toJson), ("id", .int v.id.toNat)]

def Payload.toJson : Payload → Json
  | int n  => .int n.toInt
  | text s => .str s

def Constant.toJson (c : Constant) : Json :=
  .obj [("ty", c.ty.toJson), ("value", c.payload.toJson)]

namespace Expression

def tagged (tag : String) (value : Json) : Json :=
  .obj [("expr", .str tag), ("value", value)]

mutual

def toJson : Expression → Json
  | var v         => tagged "variable" v.toJson
  | const c       => tagged "constant" c.toJson
  | op code ts es => tagged "operation" <| .obj [
      ("opcode", .int code.code.toNat),
      ("types", .arr (ts.map Ty.toJson)),
      ("arguments", .arr (allToJson es))]
  | compound es   => tagged "compound" (.arr (allToJson es))

def allToJson : List Expression → List Json
  | []      => []
  | e :: es => e.toJson :: allToJson es

end

theorem allToJson_eq_map (es : List Expression) : allToJson es = es.map toJson := by
  induction es with
  | nil          => rfl
  | cons e es ih => simp [allToJson, ih]

end Expression

def Instruction.toJson : Instruction → Json
  | assign vs value => .obj [
      ("insn", .str "assignment"),
      ("definitions", .arr (vs.map Variable.toJson)),
      ("expression", value.toJson)]
  | ret value       => .obj [("insn", .str "return"), ("expression", value.toJson)]

mutual

def Chain.toJson : Chain → Json
  | .last c      => .obj (c.members ++ [("next", .null)])
  | .link c rest => .obj (c.members ++ [("next", rest.toJson)])

def Construct.members : Construct → List (String × Json)
  | .seq is      => [("construct", .str "seq"), ("instructions", .arr (is.map Instruction.toJson))]
  | .cond bs     => [
      ("construct", .str "if"), ("branches", .arr bs.branchesToJson), ("elze", bs.elzeToJson)]
  | .loop c body => [
      ("construct", .str "while"), ("condition", c.toJson), ("body", body.toJson)]
  | .switch e cs => [
      ("construct", .str "switch"), ("scrutinee", e.toJson),
      ("cases", .arr cs.casesToJson), ("elze", cs.elzeToJson)]

def Branches.branchesToJson : Branches → List Json
  | .done               => []
  | .otherwise _        => []
  | .branch c body rest =>
    .obj [("condition", c.toJson), ("body", body.toJson)] :: rest.branchesToJson

def Branches.elzeToJson : Branches → Json
  | .done            => .null
  | .otherwise body  => body.toJson
  | .branch _ _ rest => rest.elzeToJson

def Cases.casesToJson : Cases → List Json
  | .done                  => []
  | .otherwise _           => []
  | .case labels body rest =>
    .obj [("labels", .arr (labels.map fun n => .int n.toInt)), ("body", body.toJson)] ::
      rest.casesToJson

def Cases.elzeToJson : Cases → Json
  | .done           => .null
  | .otherwise body => body.toJson
  | .case _ _ rest  => rest.elzeToJson

end

def Script.toJson (s : Script) : Json :=
  .obj [
    ("id", .int s.id.toInt),
    ("arguments", .arr (s.arguments.map Variable.toJson)),
    ("return_types", .arr (s.returns.map Ty.toJson)),
    ("body", s.body.toJson)]

def Module.toJson (m : Module) : Json :=
  .obj [("name", .str m.name), ("functions", .arr (m.scripts.map Script.toJson))]

end ClientScript
