namespace ClientScript

inductive Path
  | given (text : String)
  | inside (directory : Path) (name : String)
  deriving DecidableEq, Repr

namespace Path

def text : Path → String
  | given s               => s
  | inside directory name =>
    let front := directory.text
    if front.toList.getLast? = some '/' then front ++ name else front ++ "/" ++ name

def isAbsolute : Path → Bool
  | given s            => s.toList.head? = some '/'
  | inside directory _ => directory.isAbsolute

def names : Path → List String
  | given s               => (s.toList.splitOn '/').filterMap fun cs =>
      if cs.isEmpty then none else some (String.ofList cs)
  | inside directory name => directory.names ++ [name]

-- The names on the way to what is there already. With a slash at its end a path is one of a directory.
def steps : Path → List String
  | given s               => (given s).names ++ if s.toList.getLast? = some '/' then ["."] else []
  | inside directory name => directory.steps ++ [name]

-- All directories around a path, from the inside to the outside. A dot only counts in front.
def outward (p : Path) : List Path :=
  match p.names with
  | []            => []
  | name :: names =>
    let names := name :: names.filter (· ≠ ".")
    let lead := if p.isAbsolute then "/" else ""
    (List.range (names.length - 1)).reverse.map fun n =>
      given (lead ++ "/".intercalate (names.take (n + 1)))

end Path
end ClientScript
