import ClientScript.Names
import ClientScript.Text.Blank
import ClientScript.Text.Decimal
import ClientScript.Text.Lines
import ClientScript.Text.Quoted

namespace ClientScript

inductive LineFault
  | noTab
  | badId (id : String) (fault : Text.NumberFault)
  deriving DecidableEq, Repr

-- Lines are counted from 1, and those that are skipped count too.
structure TableFault where
  line  : Nat
  cause : LineFault
  deriving DecidableEq, Repr

def LineFault.message : LineFault → String
  | noTab          => "expected `id<TAB>name`"
  | badId id fault => "bad id " ++ Text.quoted id ++ ": " ++ fault.message

def TableFault.message (f : TableFault) : String :=
  "line " ++ toString f.line ++ ": " ++ f.cause.message

namespace NameTable

def isSignificant (line : List Char) : Bool :=
  !line.all Text.isBlank && line.head? != some '#'

-- The id stands in front of the first tab, and all that follows the tab is the name.
def readEntry (line : List Char) : Except LineFault (Int32 × String) :=
  match Text.splitAtFirst? '\t' line with
  | none            => .error .noTab
  | some (id, name) =>
    match Text.readInt32 (Text.trim id) with
    | .ok n        => .ok (n, String.ofList name)
    | .error fault => .error (.badId (String.ofList id) fault)

def readLines (kind : NameKind) : Nat → List (List Char) → NameTable → Except TableFault NameTable
  | _, [],           t => .ok t
  | n, line :: rest, t =>
    if isSignificant line then
      match readEntry line with
      | .ok (id, name) => readLines kind (n + 1) rest (t.insert kind id name)
      | .error cause   => .error { line := n, cause }
    else readLines kind (n + 1) rest t

def read (kind : NameKind) (text : String) (t : NameTable) : Except TableFault NameTable :=
  readLines kind 1 ((Text.lines text.toList).map Text.dropReturns) t

end NameTable
end ClientScript
