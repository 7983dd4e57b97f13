import ClientScript.Opcode.Registry

namespace ClientScript

structure Opcode where
  code : UInt16
  deriving DecidableEq, Repr

namespace Opcode

def name? (op : Opcode) : Option String :=
  registry.lookup op.code.toNat

def text (op : Opcode) : String :=
  match op.name? with
  | some name => toString op.code.toNat ++ "(" ++ name ++ ")"
  | none      => toString op.code.toNat

def branchSymbol? (op : Opcode) : Option String :=
  [(7, "!"), (8, "="), (9, "<"), (10, ">"), (31, "<="), (32, ">="), (10000, "|"), (10001, "&")].lookup
    op.code.toNat

def calcSymbol? (op : Opcode) : Option String :=
  [(4000, "+"), (4001, "-"), (4002, "*"), (4003, "/"), (4011, "%"), (4014, "&"), (4015, "|")].lookup
    op.code.toNat

-- The operations whose last argument chooses between the active component and the dotted one.
def dotted : List Nat := [
  100, 101, 200, 201, 1000, 1001, 1003, 1005, 1006,
  1100, 1101, 1102, 1103, 1104, 1105, 1106, 1107, 1108, 1109, 1110, 1111, 1112, 1113, 1114, 1115,
  1116, 1117, 1118, 1119, 1120, 1121, 1122, 1123, 1124, 1125, 1126, 1127,
  1200, 1201, 1202, 1205, 1212, 1300, 1301, 1302, 1303, 1304, 1305, 1306, 1307,
  1350, 1351, 1352, 1353, 1354, 1355, 1500, 1501, 1502, 1503, 1504, 1505,
  1600, 1601, 1602, 1603, 1604, 1605, 1606, 1607, 1608, 1609, 1610, 1611, 1612, 1613, 1614,
  1700, 1701, 1702, 1800, 1801, 1802, 1927, 3139, 3140]

def isDotted (op : Opcode) : Bool :=
  dotted.contains op.code.toNat

-- What a hook is set on: the component created last, or one that is named.
inductive HookTarget
  | created
  | named
  deriving DecidableEq, Repr

def hook? (op : Opcode) : Option HookTarget :=
  if 1400 ≤ op.code ∧ op.code ≤ 1426 then some .created
  else if 2400 ≤ op.code ∧ op.code ≤ 2426 then some .named
  else none

inductive Form
  | invoke
  | defineArray
  | readArray
  | writeArray
  | join
  | hook (target : HookTarget)
  | branch (symbol : String)
  | calc (symbol : String)
  | dotCall
  | call
  deriving DecidableEq, Repr

def form (op : Opcode) : Form :=
  match op.code.toNat with
  | 37 => .join
  | 40 => .invoke
  | 44 => .defineArray
  | 45 => .readArray
  | 46 => .writeArray
  | _  =>
    match op.hook?, op.branchSymbol?, op.calcSymbol? with
    | some target, _, _    => .hook target
    | _, some symbol, _    => .branch symbol
    | _, _, some symbol    => .calc symbol
    | none, none, none     => if op.isDotted then .dotCall else .call

end Opcode
end ClientScript
