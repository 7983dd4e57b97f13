import ClientScript.Json.Value

namespace ClientScript.Encoding

-- A JSON text is read from front to back. But the tag that tells what a record is may stand behind
-- its fields, so such a record is held as a whole until its tag is known, with all that is inside of
-- it. Only sound values can be held, and only those that are not nested too deep. What is not held
-- may contain anything at places that nobody looks at.
def isHoldable (room : Nat) (j : Json) : Bool :=
  j.isSound && j.depth ≤ room

def int32? : Json → Option Int32
  | .int n => if Int32.minValue.toInt ≤ n ∧ n ≤ Int32.maxValue.toInt then some (.ofInt n) else none
  | _      => none

def uint32? : Json → Option UInt32
  | .int n => if 0 ≤ n ∧ n < UInt32.size then some (.ofNat n.toNat) else none
  | _      => none

def uint16? : Json → Option UInt16
  | .int n => if 0 ≤ n ∧ n < UInt16.size then some (.ofNat n.toNat) else none
  | _      => none

def field? (members : List (String × Json)) (name : String) : Option (Option Json) :=
  match Json.valuesOf name members with
  | []  => some none
  | [v] => some (some v)
  | _   => none

-- The fields of a record in the order of their names. A record is an object, in which other members
-- do not matter, or an array of the fields themselves, in which only the last ones can be missing.
def fields? (names : List String) : Json → Option (List (Option Json))
  | .arr es =>
    if es.length ≤ names.length then
      some (es.map some ++ List.replicate (names.length - es.length) none)
    else none
  | .obj ms => names.mapM (field? ms)
  | _       => none

def defaulted (read : Json → Option (List α)) : Option Json → Option (List α)
  | none   => some []
  | some j => read j

def optional (read : Json → Option α) : Option Json → Option (Option α)
  | none       => some none
  | some .null => some none
  | some j     => some <$> read j

def readList (read : Nat → Json → Option α) : Nat → Json → Option (List α)
  | room + 1, .arr es => es.mapM (read room)
  | _,        _       => none

def caseName? (held : Bool) (room : Nat) : Json → Option String
  | .str s              => some s
  | .obj [(s, .null)]   => if 0 < room then some s else none
  | .obj [(s, .obj [])] => if held then some s else none
  | _                   => none

def splitTag? (name : String) : Json → Option (Json × Json)
  | .arr (tag :: es) => some (tag, .arr es)
  | .obj ms          =>
    match Json.valuesOf name ms with
    | [tag] => some (tag, .obj (ms.filter fun m => m.1 ≠ name))
    | _     => none
  | _                => none

-- A tag is a name. Where the record around it is inside of another one that is held, the number of
-- the name will do too.
def tagName? (held : Bool) (names : List String) : Json → Option String
  | .str s => if names.contains s then some s else none
  | .int n => if held && 0 ≤ n then names[n.toNat]? else none
  | _      => none

end ClientScript.Encoding
