import ClientScript.Dump
import ClientScript.Literal

namespace ClientScript

def listText (texts : List (Except EmitError String)) : Except EmitError String := do
  return ", ".intercalate (← texts.mapM id)

-- An argument of an operation, with its own text if it has one. Not every argument is written, and
-- an argument that is not written does not need a text.
structure Operand where
  source : Expression
  text   : Except EmitError String

namespace Operand

-- The number that a constant holds, whatever its type is.
def int (part : Part) (o : Operand) : Except EmitError Int32 :=
  match o.source.constant?.bind Constant.int? with
  | some n => .ok n
  | none   => .error (.malformed part (.notInt o.source.dump))

def listed (os : List Operand) : Except EmitError String :=
  listText (os.map text)

def grouped (os : List Operand) : Except EmitError String :=
  if os.isEmpty then .ok ""
  else do return "(" ++ (← listed os) ++ ")"

def two (part : Part) : List Operand → Except EmitError (Operand × Operand)
  | [a, b] => .ok (a, b)
  | os     => .error (.malformed part (.arity 2 os.length))

def three (part : Part) : List Operand → Except EmitError (Operand × Operand × Operand)
  | [a, b, c] => .ok (a, b, c)
  | os        => .error (.malformed part (.arity 3 os.length))

def splitLast? (os : List Operand) : Option (List Operand × Operand) :=
  os.getLast?.map fun o => (os.dropLast, o)

end Operand
end ClientScript
