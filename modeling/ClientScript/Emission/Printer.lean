import ClientScript.Emission.Script
import Mathlib.Data.Finset.Insert

namespace ClientScript

-- What is kept while a script is written: its text so far and how deep a new line begins, the locals
-- that need no type any more, whether arithmetic is open, and whether the last return is left out.
structure Printer where
  out      : String := ""
  indents  : Nat := 0
  declared : Finset Variable := ∅
  inCalc   : Bool := false
  fellOff  : Bool := false

abbrev Printing := StateT Printer (Except EmitError)

namespace Printer

def push (s : String) : Printing Unit :=
  modify fun p => { p with out := p.out ++ s }

def indent : Printing Unit :=
  modify fun p => { p with indents := p.indents + 1 }

def dedent : Printing Unit :=
  modify fun p => { p with indents := p.indents - 1 }

def nextLine (unit : String) : Printing Unit :=
  modify fun p => { p with out := p.out ++ "\n" ++ String.join (List.replicate p.indents unit) }

def line (unit : String) : Printing Unit := do
  if (← get).fellOff then throw .statementAfterReturn
  nextLine unit

def writeSeparated : List (Printing Unit) → Printing Unit
  | []           => pure ()
  | first :: xs => do
    first
    xs.forM fun x => do
      push ", "
      x

def writeVariable (v : Variable) : Printing Unit := do
  push (← v.text)

structure Argument where
  source : Expression
  write  : Printing Unit

def writeList (as : List Argument) : Printing Unit :=
  writeSeparated (as.map Argument.write)

def writeGrouped (as : List Argument) : Printing Unit := do
  unless as.isEmpty do
    push "("
    writeList as
    push ")"

def writeBraced (as : List Argument) : Printing Unit := do
  unless as.isEmpty do
    push "\x7b"
    writeList as
    push "\x7d"

def asInt (part : Part) (e : Expression) : Except EmitError Int32 :=
  match e.constant?.bind Constant.int? with
  | some n => .ok n
  | none   => .error (.malformed part (.notInt e.dump))

def writeInvoke (names : Names) : List Argument → Printing Unit
  | []           => throw (.malformed .invocation .noCallee)
  | callee :: as => do
    let id ← asInt .invocation callee.source
    push "~"
    push (names.callee "[proc," id)
    writeGrouped as

def writeArrayDefinition : List Argument → Printing Unit
  | [array, element, size] => do
    push "def_"
    element.write
    push " $array"
    array.write
    push "("
    size.write
    push ")"
  | as => throw (.malformed .arrayDefinition (.arity 3 as.length))

def writeSlot (array index : Argument) : Printing Unit := do
  push "$array"
  array.write
  push "("
  index.write
  push ")"

def writeArrayRead : List Argument → Printing Unit
  | [array, index] => writeSlot array index
  | as             => throw (.malformed .arrayRead (.arity 2 as.length))

def writeArrayWrite : List Argument → Printing Unit
  | [array, index, value] => do
    writeSlot array index
    push " = "
    value.write
  | as => throw (.malformed .arrayWrite (.arity 3 as.length))

def writeJoined (a : Argument) : Printing Unit :=
  match a.source.constant?.bind Constant.text? with
  | some s => push s
  | none   => do
    push "<"
    a.write
    push ">"

def writeJoin (as : List Argument) : Printing Unit := do
  push "\""
  as.forM writeJoined
  push "\""

def writeInfix (part : Part) (symbol : String) : List Argument → Printing Unit
  | [left, right] => do
    push "("
    left.write
    push (" " ++ symbol ++ " ")
    right.write
    push ")"
  | as => throw (.malformed part (.arity 2 as.length))

def writeCalc (symbol : String) (as : List Argument) : Printing Unit := do
  let was := (← get).inCalc
  unless was do
    push "calc"
    modify fun p => { p with inCalc := true }
  writeInfix .calculation symbol as
  modify fun p => { p with inCalc := was }

def writeCall (op : Opcode) (as : List Argument) : Printing Unit := do
  push (← op.word)
  writeGrouped as

def writeDot (dotted : Bool) : Printing Unit :=
  if dotted then push "." else pure ()

def writeDotCall (op : Opcode) (as : List Argument) : Printing Unit :=
  match as.getLast? with
  | none      => throw (.malformed .dotCall (.noFlag op))
  | some flag => do
    writeDot ((← asInt .dotCall flag.source) = 1)
    writeCall op as.dropLast

def splitTriggers (op : Opcode) (as : List Argument) :
    Except EmitError (List Argument × List Argument) :=
  match as.getLast? with
  | none       => .error (.malformed .hook (.noTriggerCount op))
  | some count => do
    let as := as.dropLast
    let n ← asInt .hook count.source
    if 0 ≤ n.toInt ∧ n.toInt ≤ as.length then return as.splitAt (as.length - n.toInt.toNat)
    else throw (.malformed .hook (.triggerCount n as.length))

def writeCallback (op : Opcode) (names : Names) : List Argument → Printing Unit
  | []           => throw (.malformed .hook (.noCallback op))
  | callee :: as => do
    let id ← asInt .hook callee.source
    if id = -1 then push "null"
    else
      push "\""
      push (names.callee "[clientscript," id)
      let (arguments, triggers) ← splitTriggers op as
      push "("
      writeList arguments
      push ")"
      writeBraced triggers
      push "\""

def writeHookDot (op : Opcode) : Opcode.HookTarget → Argument → Printing Unit
  | .named,   _         => pure ()
  | .created, component =>
    match component.source.constant? with
    | none   => throw (.malformed .hook (.component op component.source.dump))
    | some c => writeDot (c.int? = some 1)

def writeHookComponent : Opcode.HookTarget → Argument → Printing Unit
  | .created, _         => pure ()
  | .named,   component => do
    push ", "
    component.write

def writeHook (op : Opcode) (names : Names) (target : Opcode.HookTarget) (as : List Argument) :
    Printing Unit :=
  match as.getLast? with
  | none           => throw (.malformed .hook (.noComponent op))
  | some component => do
    writeHookDot op target component
    push (← op.word)
    push "("
    writeCallback op names as.dropLast
    writeHookComponent target component
    push ")"

def writeOperation (op : Opcode) (names : Names) (as : List Argument) : Printing Unit :=
  match op.form with
  | .invoke        => writeInvoke names as
  | .defineArray   => writeArrayDefinition as
  | .readArray     => writeArrayRead as
  | .writeArray    => writeArrayWrite as
  | .join          => writeJoin as
  | .hook target   => writeHook op names target as
  | .branch symbol => writeInfix .branch symbol as
  | .calc symbol   => writeCalc symbol as
  | .dotCall       => writeDotCall op as
  | .call          => writeCall op as

mutual

def writeExpression (names : Names) : Expression → Printing Unit
  | .var v        => writeVariable v
  | .const c      => do push (← c.text names)
  | .op code _ es => writeOperation code names (arguments names es)
  | .compound es  => writeList (arguments names es)

def arguments (names : Names) : List Expression → List Argument
  | []      => []
  | e :: es => { source := e, write := writeExpression names e } :: arguments names es

end

def writeDeclaration (v : Variable) : Printing Unit := do
  if v.kind = .frame ∧ v ∉ (← get).declared then
    modify fun p => { p with declared := insert v p.declared }
    push ("def_" ++ v.ty.literal ++ " ")

def writeTargets : List Variable → Printing Unit
  | []  => pure ()
  | [v] => do
    writeDeclaration v
    writeVariable v
    push " = "
  | vs  => do
    writeSeparated (vs.map writeVariable)
    push " = "

section

variable (names : Names) (unit : String) (s : Script)

def writeReturn (value : Expression) : Printing Unit := do
  push "return"
  writeGrouped (arguments names value.toList)
  push ";"

def writeInstruction : Instruction → Printing Unit
  | .assign vs value => do
    writeTargets vs
    writeExpression names value
    push ";"
  | .ret value       => do
    if (← get).indents = 0 ∧ s.returns.isEmpty then
      modify fun p => { p with fellOff := true }
    else writeReturn names value

def writeBlock (inside : Printing Unit) : Printing Unit := do
  indent
  inside
  dedent
  line unit
  push "\x7d"

-- What stands under a label, which itself is one level inside of its block.
def writeCaseBody (inside : Printing Unit) : Printing Unit := do
  indent
  inside
  dedent
  dedent

mutual

def writeChain : Chain → Printing Unit
  | .last c      => writeConstruct c
  | .link c rest => do
    writeConstruct c
    writeChain rest

def writeConstruct : Construct → Printing Unit
  | .seq is      => is.forM fun i => do
    line unit
    writeInstruction names s i
  | .cond bs     => do
    Construct.opening (.cond bs)
    line unit
    writeBranches "if " bs
  | .loop c body => do
    line unit
    push "while "
    writeExpression names c
    push " \x7b"
    writeBlock unit (writeChain body)
  | .switch e cs => do
    let ty ← e.soleType
    line unit
    push ("switch_" ++ ty.literal ++ " (")
    writeExpression names e
    push ") \x7b"
    writeCases ty cs
    line unit
    push "\x7d"

def writeBranches (lead : String) : Branches → Printing Unit
  | .done               => pure ()
  | .otherwise body     => do
    push " else \x7b"
    writeBlock unit (writeChain body)
  | .branch c body rest => do
    push lead
    writeExpression names c
    push " \x7b"
    writeBlock unit (writeChain body)
    writeBranches " else if " rest

def writeCases (ty : Ty) : Cases → Printing Unit
  | .done                  => pure ()
  | .otherwise body        => do
    indent
    line unit
    push "case default :"
    writeCaseBody (writeChain body)
  | .case labels body rest => do
    if labels.isEmpty then throw (.malformed .switch .noLabels)
    indent
    line unit
    push "case "
    writeSeparated (labels.map fun n => do push (← ty.intText names n))
    push " :"
    writeCaseBody (writeChain body)
    writeCases ty rest

end

def writeArguments : Printing Unit := do
  unless s.arguments.isEmpty ∧ s.returns.isEmpty do
    push "("
    writeSeparated (s.arguments.map fun v => do push (← Script.argumentText v))
    push ")"

def writeReturns : Printing Unit := do
  unless s.returns.isEmpty do
    push "("
    writeSeparated (s.returns.map fun ty => push ty.literal)
    push ")"

def writeSignature : Printing Unit := do
  push (names.script s.id)
  writeArguments s
  writeReturns s

def writeHeader : Printing Unit := do
  push ("// " ++ toString s.id.toInt)
  nextLine unit
  writeSignature names s

-- The line break behind a return that is left out is there already.
def writeEnd : Printing Unit := do
  unless (← get).fellOff do nextLine unit

def writeScript : Printing Unit := do
  writeHeader names unit s
  writeChain names unit s s.body
  writeEnd unit

end

end Printer

def Script.print (names : Names) (unit : String) (s : Script) : Except EmitError String := do
  let (_, p) ← (Printer.writeScript names unit s).run { declared := s.arguments.toFinset }
  return p.out

end ClientScript
