import ClientScript.Construct

namespace ClientScript

structure Script where
  id        : Int32
  arguments : List Variable := []
  returns   : List Ty := []
  body      : Chain
  deriving Repr

def Script.instructions (s : Script) : List Instruction :=
  s.body.instructions

-- The scripts of one dump, in its order. Ids may repeat.
structure Module where
  name    : String
  scripts : List Script
  deriving Repr

end ClientScript
