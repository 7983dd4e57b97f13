namespace ClientScript

-- The value types of the script machine. Those up to `struct` have a descriptor of their own in the
-- machine's type tags. The others tell how the constants of certain arguments are spelled.
inductive Ty
  | int | boolean | seq | colour | component | idkit | midi | namedobj | synth | stat
  | category | coord | graphic | fontmetrics | enum | loc | model | npc | obj | string
  | spotanim | inv | texture | char | mapsceneicon | mapelement | hitmark | struct | param | maparea
  | type | iftype | setsize | setposh | setposv | settextalignh | settextalignv
  | var | chattype | bit
  deriving DecidableEq, Repr

inductive Stack
  | int
  | string
  deriving DecidableEq, Repr

def Stack.literal : Stack → String
  | int    => "int"
  | string => "string"

namespace Ty

def all : List Ty := [
  int, boolean, seq, colour, component, idkit, midi, namedobj, synth, stat,
  category, coord, graphic, fontmetrics, enum, loc, model, npc, obj, string,
  spotanim, inv, texture, char, mapsceneicon, mapelement, hitmark, struct, param, maparea,
  type, iftype, setsize, setposh, setposv, settextalignh, settextalignv,
  var, chattype, bit]

def literal : Ty → String
  | int           => "int"
  | boolean       => "boolean"
  | seq           => "seq"
  | colour        => "colour"
  | component     => "component"
  | idkit         => "idkit"
  | midi          => "midi"
  | namedobj      => "namedobj"
  | synth         => "synth"
  | stat          => "stat"
  | category      => "category"
  | coord         => "coord"
  | graphic       => "graphic"
  | fontmetrics   => "fontmetrics"
  | enum          => "enum"
  | loc           => "loc"
  | model         => "model"
  | npc           => "npc"
  | obj           => "obj"
  | string        => "string"
  | spotanim      => "spotanim"
  | inv           => "inv"
  | texture       => "texture"
  | char          => "char"
  | mapsceneicon  => "mapsceneicon"
  | mapelement    => "mapelement"
  | hitmark       => "hitmark"
  | struct        => "struct"
  | param         => "param"
  | maparea       => "maparea"
  | type          => "type"
  | iftype        => "iftype"
  | setsize       => "setsize"
  | setposh       => "setposh"
  | setposv       => "setposv"
  | settextalignh => "settextalignh"
  | settextalignv => "settextalignv"
  | var           => "var"
  | chattype      => "chattype"
  | bit           => "bit"

def ofLiteral? (s : String) : Option Ty :=
  all.find? (·.literal = s)

def descriptor? : Ty → Option Char
  | int          => some 'i'
  | boolean      => some '1'
  | seq          => some 'A'
  | colour       => some 'C'
  | component    => some 'I'
  | idkit        => some 'K'
  | midi         => some 'M'
  | namedobj     => some 'O'
  | synth        => some 'P'
  | stat         => some 'S'
  | category     => some 'y'
  | coord        => some 'c'
  | graphic      => some 'd'
  | fontmetrics  => some 'f'
  | enum         => some 'g'
  | loc          => some 'l'
  | model        => some 'm'
  | npc          => some 'n'
  | obj          => some 'o'
  | string       => some 's'
  | spotanim     => some 't'
  | inv          => some 'v'
  | texture      => some 'x'
  | char         => some 'z'
  | mapsceneicon => some '\u00a3'
  | mapelement   => some '\u00b5'
  | hitmark      => some '\u00d7'
  | struct       => some 'J'
  | _            => none

def descriptors : List (Int × Ty) :=
  all.filterMap fun t => t.descriptor?.map fun c => ((c.toNat : Int), t)

def ofDescriptor? (code : Int32) : Option Ty :=
  descriptors.lookup code.toInt

def stack : Ty → Stack
  | string => .string
  | _      => .int

theorem mem_all (t : Ty) : t ∈ all := by
  cases t <;> decide

theorem ofLiteral?_literal (t : Ty) : ofLiteral? t.literal = some t := by
  cases t <;> decide

end Ty
end ClientScript
