import ClientScript.Script
import ClientScript.Text.Line
import ClientScript.Text.Quoted

namespace ClientScript

-- The dump of a script shows the tree as it is: no names, and no rules about what a constant may be.
-- So every tree has one, and only the types of operations and the cut into runs are left out.

def Variable.dump (v : Variable) : String :=
  v.kind.literal ++ toString v.id.toNat ++ ":" ++ v.ty.literal

def Payload.dump : Payload → String
  | int n  => toString n.toInt
  | text s => Text.quoted s

def Constant.dump (c : Constant) : String :=
  c.ty.literal ++ "(" ++ c.payload.dump ++ ")"

namespace Expression

mutual

def dump : Expression → String
  | var v         => v.dump
  | const c       => c.dump
  | op code _ es  => code.text ++ "(" ++ ", ".intercalate (dumps es) ++ ")"
  | compound es   => "[" ++ ", ".intercalate (dumps es) ++ "]"

def dumps : List Expression → List String
  | []      => []
  | e :: es => e.dump :: dumps es

end

theorem dumps_eq_map (es : List Expression) : dumps es = es.map dump := by
  induction es with
  | nil          => rfl
  | cons e es ih => simp [dumps, ih]

end Expression

def Instruction.dump : Instruction → String
  | assign [] value => value.dump
  | assign vs value => ", ".intercalate (vs.map Variable.dump) ++ " = " ++ value.dump
  | ret value       => "return " ++ value.dump

def dumpLabels (labels : List Int32) : String :=
  "[" ++ ", ".intercalate (labels.map fun n => toString n.toInt) ++ "]"

mutual

def Chain.dumpLines : Chain → List Line
  | .last c      => c.dumpLines
  | .link c rest => c.dumpLines ++ rest.dumpLines

def Construct.dumpLines : Construct → List Line
  | .seq is      => is.map fun i => .flat i.dump
  | .cond bs     => bs.dumpLines "if"
  | .loop c body => .flat ("while " ++ c.dump) :: body.dumpLines.map .deeper
  | .switch e cs => .flat ("switch " ++ e.dump) :: cs.dumpLines

def Branches.dumpLines (keyword : String) : Branches → List Line
  | .done               => []
  | .otherwise body     => .flat "else" :: body.dumpLines.map .deeper
  | .branch c body rest =>
    .flat (keyword ++ " " ++ c.dump) :: body.dumpLines.map .deeper ++ rest.dumpLines "elif"

def Cases.dumpLines : Cases → List Line
  | .done                => []
  | .otherwise body      => .flat "default" :: body.dumpLines.map .deeper
  | .case labels body rest =>
    .flat ("case " ++ dumpLabels labels) :: body.dumpLines.map .deeper ++ rest.dumpLines

end

namespace Script

def dumpHeader (s : Script) : String :=
  let arguments := "(" ++ ", ".intercalate (s.arguments.map Variable.dump) ++ ")"
  let returns :=
    if s.returns.isEmpty then ""
    else " -> (" ++ ", ".intercalate (s.returns.map Ty.literal) ++ ")"
  "script " ++ toString s.id.toInt ++ arguments ++ returns

def dumpLines (s : Script) : List Line :=
  .flat s.dumpHeader :: s.body.dumpLines.map .deeper

def dump (s : Script) : String :=
  String.join (s.dumpLines.map fun l => l.render "  " ++ "\n")

end Script
end ClientScript
