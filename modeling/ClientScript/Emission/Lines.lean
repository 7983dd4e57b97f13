import ClientScript.Emission.Expression
import ClientScript.Text.Line

namespace ClientScript

-- The locals that a part of a script assigns alone, in the order of the text. Behind it they are
-- declared.
def targetsOf (is : List Instruction) : List Variable :=
  is.filterMap Instruction.target?

namespace Instruction

-- The first assignment to a local alone declares it. Other assignments never do.
def targetsText (declared : List Variable) : List Variable → Except EmitError String
  | []  => .ok ""
  | [v] => do
    let new := v.kind = .frame ∧ v ∉ declared
    return (if new then "def_" ++ v.ty.literal ++ " " else "") ++ (← v.text) ++ " = "
  | vs  => do return (← listText (vs.map Variable.text)) ++ " = "

def text (names : Names) (declared : List Variable) : Instruction → Except EmitError String
  | assign vs value => do
    let targets ← targetsText declared vs
    return targets ++ (← value.text names false) ++ ";"
  | ret value       => do
    return "return" ++ (← Operand.grouped (Expression.operands names false value.toList)) ++ ";"

end Instruction

def runLines (names : Names) : List Variable → List Instruction → Except EmitError (List Line)
  | _,        []      => .ok []
  | declared, i :: is => do
    let text ← i.text names declared
    return .flat text :: (← runLines names (targetsOf [i] ++ declared) is)

def Expression.soleType (e : Expression) : Except EmitError Ty :=
  match e.types with
  | [ty] => .ok ty
  | ts   => .error (.malformed .switch (.scrutinee e.dump ts.length))

theorem Expression.soleType_eq_ok_iff {e : Expression} : e.soleType = .ok ty ↔ e.types = [ty] := by
  rw [soleType]
  split <;> simp_all

-- What must hold of a block before its first line is begun: an `if` has a branch, and a `switch`
-- looks at one value.
def Construct.opening : Construct → Except EmitError Unit
  | cond .done          => .error (.malformed .conditional .noBranches)
  | cond (.otherwise _) => .error (.malformed .conditional .noBranches)
  | switch e _          => e.soleType.map fun _ => ()
  | _                   => .ok ()

mutual

def Chain.lines (names : Names) (declared : List Variable) :
    Chain → Except EmitError (List Line)
  | .last c      => c.lines names declared
  | .link c rest => do
    let first ← c.lines names declared
    let others ← rest.lines names (targetsOf c.instructions ++ declared)
    return first ++ others

def Construct.lines (names : Names) (declared : List Variable) :
    Construct → Except EmitError (List Line)
  | .seq is      => runLines names declared is
  | .cond bs     => do
    Construct.opening (.cond bs)
    bs.lines names declared "if "
  | .loop c body => do
    let condition ← c.text names false
    let inside ← body.lines names declared
    return .flat ("while " ++ condition ++ " \x7b") :: inside.map .deeper ++ [.flat "\x7d"]
  | .switch e cs => do
    let ty ← e.soleType
    let scrutinee ← e.text names false
    let inside ← cs.lines names declared ty
    return .flat ("switch_" ++ ty.literal ++ " (" ++ scrutinee ++ ") \x7b") ::
      inside.map .deeper ++ [.flat "\x7d"]

-- The line that ends one branch begins the next one.
def Branches.lines (names : Names) (declared : List Variable) (lead : String) :
    Branches → Except EmitError (List Line)
  | .done               => .ok [.flat "\x7d"]
  | .otherwise body     => do
    let inside ← body.lines names declared
    return .flat "\x7d else \x7b" :: inside.map .deeper ++ [.flat "\x7d"]
  | .branch c body rest => do
    let condition ← c.text names false
    let inside ← body.lines names declared
    let others ← rest.lines names (targetsOf body.instructions ++ declared) "\x7d else if "
    return .flat (lead ++ condition ++ " \x7b") :: inside.map .deeper ++ others

def Cases.lines (names : Names) (declared : List Variable) (ty : Ty) :
    Cases → Except EmitError (List Line)
  | .done                  => .ok []
  | .otherwise body        => do
    let inside ← body.lines names declared
    return .flat "case default :" :: inside.map .deeper
  | .case labels body rest => do
    if labels.isEmpty then throw (.malformed .switch .noLabels)
    let labels ← labels.mapM (ty.intText names)
    let inside ← body.lines names declared
    let others ← rest.lines names (targetsOf body.instructions ++ declared) ty
    return .flat ("case " ++ ", ".intercalate labels ++ " :") :: inside.map .deeper ++ others

end

end ClientScript
