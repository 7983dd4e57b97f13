import ClientScript.Text.Lowercase
import ClientScript.Text.Occurrence

namespace ClientScript

-- Whether a script of some name is wanted. A filter has to stand somewhere in the name, and it may
-- do so in another case.
def accepts (filter : Option String) (name : String) : Bool :=
  match filter with
  | none      => true
  | some part =>
    Text.occursIn part.toList name.toList ||
      Text.occursIn (Text.lower part.toList) (Text.lower name.toList)

end ClientScript
