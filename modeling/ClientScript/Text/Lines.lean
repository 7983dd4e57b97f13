namespace ClientScript.Text

-- The lines of a text. A line feed ends a line, so nothing follows the last one.
def lines (cs : List Char) : List (List Char) :=
  let pieces := cs.splitOn '\n'
  if pieces.getLast? = some [] then pieces.dropLast else pieces

def dropReturns (line : List Char) : List Char :=
  (line.reverse.dropWhile (· = '\r')).reverse

def splitAtFirst? (c : Char) (cs : List Char) : Option (List Char × List Char) :=
  match cs.dropWhile (· ≠ c) with
  | []        => none
  | _ :: rest => some (cs.takeWhile (· ≠ c), rest)

end ClientScript.Text
