import ClientScript.Json.Value

namespace ClientScript.Json

def hexChar (n : Nat) : Char :=
  if n < 10 then Char.ofNat ('0'.toNat + n) else Char.ofNat ('a'.toNat + (n - 10))

def writeChar (c : Char) : List Char :=
  match c with
  | '"'    => ['\\', '"']
  | '\\'   => ['\\', '\\']
  | '\x08' => ['\\', 'b']
  | '\x0c' => ['\\', 'f']
  | '\n'   => ['\\', 'n']
  | '\r'   => ['\\', 'r']
  | '\t'   => ['\\', 't']
  | c      =>
    if c < ' ' then ['\\', 'u', '0', '0', hexChar (c.toNat / 16), hexChar (c.toNat % 16)] else [c]

def writeText (s : String) : String :=
  "\"" ++ String.ofList (s.toList.flatMap writeChar) ++ "\""

mutual

def write : Json → String
  | null             => "null"
  | bool true        => "true"
  | bool false       => "false"
  | int n            => toString n
  | decimal spelling => spelling
  | str s            => writeText s
  | arr es           => "[" ++ ",".intercalate (writeElements es) ++ "]"
  | obj ms           => "\x7b" ++ ",".intercalate (writeMembers ms) ++ "\x7d"
  | broken           => "null"

def writeElements : List Json → List String
  | []      => []
  | e :: es => e.write :: writeElements es

def writeMembers : List (String × Json) → List String
  | []           => []
  | (k, v) :: ms => (writeText k ++ ":" ++ v.write) :: writeMembers ms

end

end ClientScript.Json
