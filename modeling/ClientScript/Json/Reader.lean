import ClientScript.Json.Number

namespace ClientScript.Json

def isSpace (c : Char) : Bool :=
  c = ' ' || c = '\t' || c = '\n' || c = '\r'

def skipSpace (cs : List Char) : List Char :=
  cs.dropWhile isSpace

def hexDigit? (c : Char) : Option Nat :=
  if '0' ≤ c ∧ c ≤ '9' then some (c.toNat - '0'.toNat)
  else if 'a' ≤ c ∧ c ≤ 'f' then some (c.toNat - 'a'.toNat + 10)
  else if 'A' ≤ c ∧ c ≤ 'F' then some (c.toNat - 'A'.toNat + 10)
  else none

def hexUnit? (a b c d : Char) : Option Nat := do
  return (((← hexDigit? a) * 16 + (← hexDigit? b)) * 16 + (← hexDigit? c)) * 16 + (← hexDigit? d)

def escape? (c : Char) : Option Char :=
  match c with
  | '"'  => some '"'
  | '\\' => some '\\'
  | '/'  => some '/'
  | 'b'  => some '\x08'
  | 'f'  => some '\x0c'
  | 'n'  => some '\n'
  | 'r'  => some '\r'
  | 't'  => some '\t'
  | _    => none

def isHighSurrogate (n : Nat) : Bool :=
  0xd800 ≤ n && n < 0xdc00

def isLowSurrogate (n : Nat) : Bool :=
  0xdc00 ≤ n && n < 0xe000

inductive TextUnit
  | char (c : Char)
  | code (n : Nat)
  deriving DecidableEq, Repr

def readUnits : List Char → Option (List TextUnit × List Char)
  | []                                      => none
  | '"' :: rest                             => some ([], rest)
  | '\\' :: 'u' :: a :: b :: c :: d :: rest =>
    match hexUnit? a b c d with
    | some n => (readUnits rest).map fun (us, left) => (.code n :: us, left)
    | none   => none
  | '\\' :: c :: rest                       =>
    match escape? c with
    | some c => (readUnits rest).map fun (us, left) => (.char c :: us, left)
    | none   => none
  | c :: rest                               =>
    if c < ' ' || c = '\\' then none
    else (readUnits rest).map fun (us, left) => (.char c :: us, left)

-- The text of some units. Two surrogates make one character, and half of a pair makes none.
def joinUnits : List TextUnit → Option (List Char)
  | []            => some []
  | .char c :: us => (c :: ·) <$> joinUnits us
  | .code n :: us =>
    if isHighSurrogate n then
      match us with
      | .code m :: us =>
        if isLowSurrogate m then
          (Char.ofNat (0x10000 + (n - 0xd800) * 0x400 + (m - 0xdc00)) :: ·) <$> joinUnits us
        else none
      | _ => none
    else if isLowSurrogate n then none
    else (Char.ofNat n :: ·) <$> joinUnits us

def readText (cs : List Char) : Option (Option String × List Char) :=
  (readUnits cs).map fun (us, left) => ((joinUnits us).map String.ofList, left)

def ofMembers (members : List (Option String × Json)) : Json :=
  match members.mapM fun (key, value) => key.map (·, value) with
  | some members => obj members
  | none         => broken

mutual

-- A value from the front of a text, with what is left of the text. The first argument bounds the
-- number of steps, and the length of the text is always enough.
def readValue : Nat → List Char → Option (Json × List Char)
  | 0,     _  => none
  | n + 1, cs =>
    match cs with
    | 'n' :: 'u' :: 'l' :: 'l' :: rest        => some (null, rest)
    | 't' :: 'r' :: 'u' :: 'e' :: rest        => some (bool true, rest)
    | 'f' :: 'a' :: 'l' :: 's' :: 'e' :: rest => some (bool false, rest)
    | '"' :: rest                             =>
      (readText rest).map fun (text, left) => ((text.map str).getD broken, left)
    | '[' :: rest                             =>
      match skipSpace rest with
      | ']' :: left => some (arr [], left)
      | rest        => (readElements n rest).map fun (es, left) => (arr es, left)
    | '\x7b' :: rest                          =>
      match skipSpace rest with
      | '\x7d' :: left => some (obj [], left)
      | rest           => (readMembers n rest).map fun (ms, left) => (ofMembers ms, left)
    | cs                                      => readNumber cs

def readElements : Nat → List Char → Option (List Json × List Char)
  | 0,     _  => none
  | n + 1, cs =>
    match readValue n (skipSpace cs) with
    | none           => none
    | some (e, rest) =>
      match skipSpace rest with
      | ']' :: left => some ([e], left)
      | ',' :: rest => (readElements n rest).map fun (es, left) => (e :: es, left)
      | _           => none

def readMembers : Nat → List Char → Option (List (Option String × Json) × List Char)
  | 0,     _  => none
  | n + 1, cs =>
    match skipSpace cs with
    | '"' :: rest =>
      match readText rest with
      | none             => none
      | some (key, rest) =>
        match skipSpace rest with
        | ':' :: rest =>
          match readValue n (skipSpace rest) with
          | none           => none
          | some (v, rest) =>
            let member := (key, v)
            match skipSpace rest with
            | '\x7d' :: left => some ([member], left)
            | ',' :: rest    => (readMembers n rest).map fun (ms, left) => (member :: ms, left)
            | _              => none
        | _ => none
    | _ => none

end

def read (text : String) : Option Json :=
  match readValue (text.length + 1) (skipSpace text.toList) with
  | some (v, rest) => if (skipSpace rest).isEmpty then some v else none
  | none           => none

end ClientScript.Json
