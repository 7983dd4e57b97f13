import Std.Data.HashMap

namespace ClientScript

-- The kinds of symbols that have names, in the order in which their tables are read.
inductive NameKind
  | script
  | graphic
  | stat
  | obj
  | inv
  | maparea
  | param
  deriving DecidableEq, Hashable, Repr

namespace NameKind

def all : List NameKind :=
  [script, graphic, stat, obj, inv, maparea, param]

def plural : NameKind → String
  | script  => "scripts"
  | graphic => "graphics"
  | stat    => "stats"
  | obj     => "objs"
  | inv     => "invs"
  | maparea => "mapareas"
  | param   => "params"

def ofPlural? (s : String) : Option NameKind :=
  all.find? (·.plural = s)

end NameKind

abbrev Names := NameKind → Int32 → Option String

namespace Names

def unknown : Names :=
  fun _ _ => none

def script (names : Names) (id : Int32) : String :=
  (names .script id).getD ("script" ++ toString id.toInt)

end Names

structure NameTable where
  entries : Std.HashMap (NameKind × Int32) String := {}

namespace NameTable

def insert (t : NameTable) (kind : NameKind) (id : Int32) (name : String) : NameTable :=
  { entries := t.entries.insert (kind, id) name }

def names (t : NameTable) : Names :=
  fun kind id => t.entries[(kind, id)]?

def size (t : NameTable) : Nat :=
  t.entries.size

def isEmpty (t : NameTable) : Bool :=
  t.entries.isEmpty

theorem names_insert (t : NameTable) (kind : NameKind) (id : Int32) (name : String) :
    (t.insert kind id name).names =
      fun k i => if kind = k ∧ id = i then some name else t.names k i := by
  funext k i
  simp [insert, names, Std.HashMap.getElem?_insert]

end NameTable
end ClientScript
