import ClientScript.Expression
import ClientScript.Text.Quoted

namespace ClientScript

inductive Part
  | constant
  | conditional
  | switch
  | header
  | arrayDefinition
  | arrayRead
  | arrayWrite
  | branch
  | calculation
  | dotCall
  | invocation
  | hook
  deriving DecidableEq, Repr

def Part.text : Part → String
  | constant        => "constant"
  | conditional     => "if"
  | switch          => "switch"
  | header          => "header"
  | arrayDefinition => "define_array"
  | arrayRead       => "array read"
  | arrayWrite      => "array write"
  | branch          => "branch"
  | calculation     => "calc"
  | dotCall         => "dot call"
  | invocation      => "invoke"
  | hook            => "hook"

-- What is wrong with a part. Expressions and variables at fault are kept as their dumps.
inductive ShapeFault
  | intInString (n : Int32)
  | stringInOther (ty : Ty) (s : String)
  | noBranches
  | scrutinee (dump : String) (values : Nat)
  | noLabels
  | argument (dump : String)
  | arity (expected found : Nat)
  | notInt (dump : String)
  | noFlag (op : Opcode)
  | noCallee
  | noComponent (op : Opcode)
  | component (op : Opcode) (dump : String)
  | noCallback (op : Opcode)
  | noTriggerCount (op : Opcode)
  | triggerCount (count : Int32) (left : Nat)
  deriving DecidableEq, Repr

def ShapeFault.message : ShapeFault → String
  | intInString n         => "string constant holds integer " ++ toString n.toInt
  | stringInOther ty s    => ty.literal ++ " constant holds string " ++ Text.quoted s
  | noBranches            => "no branches"
  | scrutinee dump values => "scrutinee " ++ dump ++ " produces " ++ toString values ++ " values"
  | noLabels              => "case without labels"
  | argument dump         => "argument " ++ dump ++ " is not a local"
  | arity expected found  =>
    "expected " ++ toString expected ++ " arguments, found " ++ toString found
  | notInt dump           => "expected an int constant, found " ++ dump
  | noFlag op             => op.text ++ " has no target flag"
  | noCallee              => "missing script id"
  | noComponent op        => op.text ++ " has no component"
  | component op dump     => op.text ++ " component " ++ dump ++ " is not a constant"
  | noCallback op         => op.text ++ " has no script id"
  | noTriggerCount op     => op.text ++ " has no trigger count"
  | triggerCount n left   =>
    "trigger count " ++ toString n.toInt ++ " with " ++ toString left ++ " arguments left"

inductive EmitError
  | decode (ty : Ty) (value : Int32)
  | malformed (part : Part) (fault : ShapeFault)
  | unknownOpcode (op : Opcode)
  | stackVariable (id : UInt32)
  | statementAfterReturn
  deriving DecidableEq, Repr

def EmitError.message : EmitError → String
  | decode ty value      => "cannot decode " ++ toString value.toInt ++ " as " ++ ty.literal
  | malformed part fault => "malformed " ++ part.text ++ ": " ++ fault.message
  | unknownOpcode op     => "no display name for opcode " ++ op.text
  | stackVariable id     => "stack variable " ++ toString id.toNat ++ " reached emission"
  | statementAfterReturn => "statement follows the elided final return"

end ClientScript
