import ClientScript.Emission.Operation

namespace ClientScript

def Variable.text (v : Variable) : Except EmitError String :=
  match v.kind with
  | .frame  => .ok ("$" ++ v.ty.literal ++ toString v.id.toNat)
  | .varp   => .ok ("%var" ++ toString v.id.toNat)
  | .varbit => .ok ("%varbit" ++ toString v.id.toNat)
  | .varc   => .ok ("%varc" ++ v.ty.stack.literal ++ toString v.id.toNat)
  | .stack  => .error (.stackVariable v.id)

namespace Expression

mutual

-- The text of an expression. It depends on the surroundings only in that they may be arithmetic.
def text (names : Names) (inCalc : Bool) : Expression → Except EmitError String
  | var v        => v.text
  | const c      => c.text names
  | op code _ es => code.operationText names inCalc (operands names (inCalc || code.isCalc) es)
  | compound es  => Operand.listed (operands names inCalc es)

def operands (names : Names) (inCalc : Bool) : List Expression → List Operand
  | []      => []
  | e :: es => { source := e, text := e.text names inCalc } :: operands names inCalc es

end

theorem operands_eq_map (names : Names) (inCalc : Bool) (es : List Expression) :
    operands names inCalc es = es.map fun e => { source := e, text := e.text names inCalc } := by
  induction es with
  | nil          => rfl
  | cons e es ih => simp [operands, ih]

end Expression
end ClientScript
