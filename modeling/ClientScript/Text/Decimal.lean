namespace ClientScript.Text

inductive NumberFault
  | empty
  | invalidDigit
  | tooLarge
  | tooSmall
  deriving DecidableEq, Repr

def NumberFault.message : NumberFault → String
  | empty        => "cannot parse integer from empty string"
  | invalidDigit => "invalid digit found in string"
  | tooLarge     => "number too large to fit in target type"
  | tooSmall     => "number too small to fit in target type"

-- Digits are taken from the left, and the first one that is wrong or leads out of the range decides.
def readDigits (negative : Bool) : Int → List Char → Except NumberFault Int
  | n, []      => .ok n
  | n, c :: cs =>
    if c.isDigit then
      let digit : Int := c.toNat - '0'.toNat
      let next := if negative then 10 * n - digit else 10 * n + digit
      if next > Int32.maxValue.toInt then .error .tooLarge
      else if next < Int32.minValue.toInt then .error .tooSmall
      else readDigits negative next cs
    else .error .invalidDigit

def readInt32 (cs : List Char) : Except NumberFault Int32 :=
  match cs with
  | []        => .error .empty
  | ['+']     => .error .invalidDigit
  | ['-']     => .error .invalidDigit
  | '+' :: cs => Int32.ofInt <$> readDigits false 0 cs
  | '-' :: cs => Int32.ofInt <$> readDigits true 0 cs
  | cs        => Int32.ofInt <$> readDigits false 0 cs

end ClientScript.Text
