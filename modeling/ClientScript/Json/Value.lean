namespace ClientScript

-- A JSON value with its members in the order of the text, repeated ones included. `decimal` keeps the
-- spelling of a number that is no integer. A `broken` value is well formed but denotes nothing: a
-- number out of all bounds, or text with half of a surrogate pair.
inductive Json
  | null
  | bool (b : Bool)
  | int (n : Int)
  | decimal (spelling : String)
  | str (s : String)
  | arr (elements : List Json)
  | obj (members : List (String × Json))
  | broken
  deriving Repr

namespace Json

mutual

def depth : Json → Nat
  | arr es => depthOfElements es + 1
  | obj ms => depthOfMembers ms + 1
  | _      => 0

def depthOfElements : List Json → Nat
  | []      => 0
  | e :: es => max e.depth (depthOfElements es)

def depthOfMembers : List (String × Json) → Nat
  | []           => 0
  | (_, v) :: ms => max v.depth (depthOfMembers ms)

end

mutual

def isSound : Json → Bool
  | arr es => areSound es
  | obj ms => membersAreSound ms
  | broken => false
  | _      => true

def areSound : List Json → Bool
  | []      => true
  | e :: es => e.isSound && areSound es

def membersAreSound : List (String × Json) → Bool
  | []           => true
  | (_, v) :: ms => v.isSound && membersAreSound ms

end

def valuesOf (key : String) (members : List (String × Json)) : List Json :=
  members.filterMap fun (k, v) => if k = key then some v else none

end Json
end ClientScript
