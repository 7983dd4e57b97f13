import ClientScript.Emission.Lines

namespace ClientScript

namespace Item

def instructions : Item → List Instruction
  | instruction i => [i]
  | block c       => c.instructions

def isReturn : Item → Bool
  | instruction i => i.isReturn
  | block _       => false

def lines (names : Names) (declared : List Variable) : Item → Except EmitError (List Line)
  | instruction i => do return [.flat (← i.text names declared)]
  | block c       => c.lines names declared

-- Nothing may follow a return that is left out. A block is looked at before that is found out.
def refusal : Item → EmitError
  | instruction _ => .statementAfterReturn
  | block c       =>
    match c.opening with
    | .error e => e
    | .ok ()   => .statementAfterReturn

end Item

def itemLines (names : Names) : List Variable → List Item → Except EmitError (List Line)
  | _,        []      => .ok []
  | declared, i :: is => do
    let first ← i.lines names declared
    let others ← itemLines names (targetsOf i.instructions ++ declared) is
    return first ++ others

namespace Script

def argumentText (v : Variable) : Except EmitError String :=
  if v.kind = .frame then
    .ok (v.ty.literal ++ " $" ++ v.ty.literal ++ toString v.id.toNat)
  else .error (.malformed .header (.argument v.dump))

-- The line that names a script. Empty brackets are only written for arguments, and only where types
-- of returned values follow.
def signature (names : Names) (s : Script) : Except EmitError String := do
  let arguments ← listText (s.arguments.map argumentText)
  let first := if s.arguments.isEmpty ∧ s.returns.isEmpty then "" else "(" ++ arguments ++ ")"
  let second :=
    if s.returns.isEmpty then "" else "(" ++ ", ".intercalate (s.returns.map Ty.literal) ++ ")"
  return names.script s.id ++ first ++ second

-- A script that returns nothing ends with a return that is left out. It has no other one at the top
-- level, and inside of a block all returns are written.
def bodyLines (names : Names) (s : Script) : Except EmitError (List Line) :=
  if s.returns.isEmpty then do
    let lines ← itemLines names s.arguments (s.body.items.takeWhile fun i => !i.isReturn)
    match s.body.items.dropWhile fun i => !i.isReturn with
    | _ :: next :: _ => throw next.refusal
    | _              => return lines
  else itemLines names s.arguments s.body.items

def lines (names : Names) (s : Script) : Except EmitError (List Line) := do
  let signature ← s.signature names
  return .flat signature :: (← s.bodyLines names)

-- The whole text of a script, or the reason why it has none. `unit` is the indentation of one level.
def emit (names : Names) (unit : String) (s : Script) : Except EmitError String := do
  let lines ← s.lines names
  let header := "// " ++ toString s.id.toInt
  return header ++ String.join (lines.map fun l => "\n" ++ l.render unit) ++ "\n"

end Script

def Module.emit (names : Names) (unit : String) (m : Module) :
    Except (Int32 × EmitError) String := do
  let texts ← m.scripts.mapM fun s => (s.emit names unit).mapError (s.id, ·)
  return "\n".intercalate texts

end ClientScript
