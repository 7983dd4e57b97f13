import ClientScript.Expression

namespace ClientScript

-- `assign` with no targets evaluates its value for the effect alone.
inductive Instruction
  | assign (targets : List Variable) (value : Expression)
  | ret (value : Expression)
  deriving Repr

namespace Instruction

def isDiscard : Instruction → Bool
  | assign [] value =>
    match value.toList with
    | [.var v] => v.kind = .stack
    | _        => false
  | _ => false

def isReturn : Instruction → Bool
  | ret _ => true
  | _     => false

-- The local that an instruction assigns alone. Only such an assignment can declare.
def target? : Instruction → Option Variable
  | assign [v] _ => if v.kind = .frame then some v else none
  | _            => none

end Instruction
end ClientScript
