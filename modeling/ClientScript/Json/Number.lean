import ClientScript.Json.Value

namespace ClientScript.Json

def digits (cs : List Char) : List Char × List Char :=
  (cs.takeWhile Char.isDigit, cs.dropWhile Char.isDigit)

def digitValue (d : Char) : Nat :=
  d.toNat - '0'.toNat

def natOf (ds : List Char) : Nat :=
  ds.foldl (fun n d => 10 * n + digitValue d) 0

def readWhole (cs : List Char) : Option (List Char × List Char) :=
  match digits cs with
  | ([], _)       => none
  | (['0'], rest) => some (['0'], rest)
  | ('0' :: _, _) => none
  | (ds, rest)    => some (ds, rest)

def readFraction (cs : List Char) : Option (List Char × List Char) :=
  match cs with
  | '.' :: cs =>
    match digits cs with
    | ([], _)    => none
    | (ds, rest) => some (ds, rest)
  | cs        => some ([], cs)

def readExponentDigits (negative : Bool) (cs : List Char) : Option (Int × List Char) :=
  match digits cs with
  | ([], _)    => none
  | (ds, rest) => some (if negative then -natOf ds else natOf ds, rest)

def readExponent (cs : List Char) : Option (Option Int × List Char) :=
  let marked (cs : List Char) :=
    match cs with
    | '+' :: cs => readExponentDigits false cs
    | '-' :: cs => readExponentDigits true cs
    | cs        => readExponentDigits false cs
  match cs with
  | 'e' :: cs => (marked cs).map fun (n, rest) => (some n, rest)
  | 'E' :: cs => (marked cs).map fun (n, rest) => (some n, rest)
  | cs        => some (none, cs)

-- Digits are put behind a significand as long as it fits into 64 bits. The others are dropped, and
-- the second number tells how many were not.
def fill : Nat → List Char → Nat × Nat
  | n, []      => (n, 0)
  | n, d :: ds =>
    let next := 10 * n + digitValue d
    if next < UInt64.size then
      let (n, taken) := fill next ds
      (n, taken + 1)
    else (n, 0)

-- The nearest number that has 53 binary digits before all else is zero. A tie goes to the even one.
def round53 (n : Nat) : Nat :=
  let unit := Nat.pow 2 (n.log2 + 1 - 53)
  let low := n / unit
  let rest := n % unit
  if 2 * rest < unit ∨ 2 * rest = unit ∧ low % 2 = 0 then low * unit else (low + 1) * unit

def bound : Nat :=
  Nat.pow 2 1024 - Nat.pow 2 970

-- Whether a number is not too large. It is the product of its significand and a power of ten, which
-- are both rounded first, so at the bound itself the spelling decides.
def isFinite (whole fraction : List Char) (exponent : Int) : Bool :=
  let (significand, takenOfWhole) := fill 0 whole
  let (significand, takenOfFraction) := fill significand fraction
  let exponent := exponent + (whole.length - takenOfWhole : Nat) - takenOfFraction
  if significand = 0 ∨ exponent < 0 then true
  else if exponent > 308 then false
  else round53 significand * round53 (Nat.pow 10 exponent.toNat) < bound

def numberOf (negative : Bool) (whole fraction : List Char) (exponent : Option Int)
    (spelling : List Char) : Json :=
  if !isFinite whole fraction (exponent.getD 0) then broken
  else if fraction.isEmpty ∧ exponent.isNone ∧ ¬(negative ∧ whole = ['0']) then
    int (if negative then -natOf whole else natOf whole)
  else decimal (String.ofList spelling)

def isNumberChar (c : Char) : Bool :=
  c.isDigit || ['+', '-', '.', 'e', 'E'].contains c

def numberOfText (text : List Char) : Option Json := do
  let (negative, rest) :=
    match text with
    | '-' :: rest => (true, rest)
    | rest        => (false, rest)
  let (whole, rest) ← readWhole rest
  let (fraction, rest) ← readFraction rest
  let (exponent, rest) ← readExponent rest
  guard rest.isEmpty
  return numberOf negative whole fraction exponent text

def readNumber (cs : List Char) : Option (Json × List Char) :=
  (numberOfText (cs.takeWhile isNumberChar)).map (·, cs.dropWhile isNumberChar)

end ClientScript.Json
