namespace ClientScript

-- A line of nested text. Its indentation is a count of levels until the text is put together.
structure Line where
  depth : Nat
  text  : String
  deriving DecidableEq, Repr

namespace Line

def flat (text : String) : Line :=
  { depth := 0, text }

def deeper (l : Line) : Line :=
  { l with depth := l.depth + 1 }

def render (unit : String) (l : Line) : String :=
  String.join (List.replicate l.depth unit) ++ l.text

theorem deeper_text (l : Line) : l.deeper.text = l.text :=
  rfl

theorem deeper_depth (l : Line) : l.deeper.depth = l.depth + 1 :=
  rfl

end Line
end ClientScript
