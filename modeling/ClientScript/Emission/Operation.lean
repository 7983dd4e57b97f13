import ClientScript.Emission.Operand

namespace ClientScript

-- A full name like `[proc,max]` is a lead, the name proper and a bracket. Other names are kept whole.
def properName (lead name : String) : String :=
  match lead.toList.isPrefixOf? name.toList with
  | none       => name
  | some inner => String.ofList (if inner.getLast? = some ']' then inner.dropLast else inner)

def Names.callee (names : Names) (lead : String) (id : Int32) : String :=
  match names .script id with
  | some name => properName lead name
  | none      => "script" ++ toString id.toInt

namespace Opcode

def word (op : Opcode) : Except EmitError String :=
  match op.name? with
  | some name => .ok name
  | none      => .error (.unknownOpcode op)

def invokeText (names : Names) : List Operand → Except EmitError String
  | []        => .error (.malformed .invocation .noCallee)
  | callee :: os => do
    let id ← callee.int .invocation
    return "~" ++ names.callee "[proc," id ++ (← Operand.grouped os)

def defineArrayText (os : List Operand) : Except EmitError String := do
  let (array, element, size) ← Operand.three .arrayDefinition os
  let element ← element.text
  let array ← array.text
  let size ← size.text
  return "def_" ++ element ++ " $array" ++ array ++ "(" ++ size ++ ")"

def slotText (array index : Operand) : Except EmitError String := do
  let array ← array.text
  let index ← index.text
  return "$array" ++ array ++ "(" ++ index ++ ")"

def readArrayText (os : List Operand) : Except EmitError String := do
  let (array, index) ← Operand.two .arrayRead os
  slotText array index

def writeArrayText (os : List Operand) : Except EmitError String := do
  let (array, index, value) ← Operand.three .arrayWrite os
  let slot ← slotText array index
  let value ← value.text
  return slot ++ " = " ++ value

def joinedText (o : Operand) : Except EmitError String :=
  match o.source.constant?.bind Constant.text? with
  | some s => .ok s
  | none   => do return "<" ++ (← o.text) ++ ">"

def joinText (os : List Operand) : Except EmitError String := do
  return "\"" ++ String.join (← os.mapM joinedText) ++ "\""

def splitTriggers (op : Opcode) (os : List Operand) :
    Except EmitError (List Operand × List Operand) :=
  match Operand.splitLast? os with
  | none             => .error (.malformed .hook (.noTriggerCount op))
  | some (os, count) => do
    let n ← count.int .hook
    if 0 ≤ n.toInt ∧ n.toInt ≤ os.length then
      let cut := os.length - n.toInt.toNat
      return (os.take cut, os.drop cut)
    else throw (.malformed .hook (.triggerCount n os.length))

def callbackText (op : Opcode) (names : Names) : List Operand → Except EmitError String
  | []           => .error (.malformed .hook (.noCallback op))
  | callee :: os => do
    let id ← callee.int .hook
    if id = -1 then return "null"
    let (arguments, triggers) ← op.splitTriggers os
    let arguments ← Operand.listed arguments
    let braced ←
      if triggers.isEmpty then pure ""
      else do pure ("\x7b" ++ (← Operand.listed triggers) ++ "\x7d")
    return "\"" ++ names.callee "[clientscript," id ++ "(" ++ arguments ++ ")" ++ braced ++ "\""

-- The component is the last operand. It is written behind the callback if it has to be named, and
-- else it only tells whether the dotted component is meant.
def hookText (op : Opcode) (names : Names) (target : HookTarget) (os : List Operand) :
    Except EmitError String :=
  match Operand.splitLast? os with
  | none                 => .error (.malformed .hook (.noComponent op))
  | some (os, component) =>
    match target with
    | .created =>
      match component.source.constant? with
      | none   => .error (.malformed .hook (.component op component.source.dump))
      | some c => do
        let dot := if c.int? = some 1 then "." else ""
        let word ← op.word
        let callback ← op.callbackText names os
        return dot ++ word ++ "(" ++ callback ++ ")"
    | .named   => do
      let word ← op.word
      let callback ← op.callbackText names os
      let component ← component.text
      return word ++ "(" ++ callback ++ ", " ++ component ++ ")"

def infixText (part : Part) (symbol : String) (os : List Operand) : Except EmitError String := do
  let (left, right) ← Operand.two part os
  let left ← left.text
  let right ← right.text
  return "(" ++ left ++ " " ++ symbol ++ " " ++ right ++ ")"

def callText (op : Opcode) (os : List Operand) : Except EmitError String := do
  let word ← op.word
  return word ++ (← Operand.grouped os)

def dotCallText (op : Opcode) (os : List Operand) : Except EmitError String :=
  match Operand.splitLast? os with
  | none            => .error (.malformed .dotCall (.noFlag op))
  | some (os, flag) => do
    let n ← flag.int .dotCall
    return (if n = 1 then "." else "") ++ (← op.callText os)

def operationText (op : Opcode) (names : Names) (inCalc : Bool) (os : List Operand) :
    Except EmitError String :=
  match op.form with
  | .invoke        => invokeText names os
  | .defineArray   => defineArrayText os
  | .readArray     => readArrayText os
  | .writeArray    => writeArrayText os
  | .join          => joinText os
  | .hook target   => op.hookText names target os
  | .branch symbol => infixText .branch symbol os
  | .calc symbol   => do
    return (if inCalc then "" else "calc") ++ (← infixText .calculation symbol os)
  | .dotCall       => op.dotCallText os
  | .call          => op.callText os

def isCalc (op : Opcode) : Bool :=
  match op.form with
  | .calc _ => true
  | _       => false

end Opcode
end ClientScript
