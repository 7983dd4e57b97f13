import ClientScript.Instruction

namespace ClientScript

mutual

-- What stands at one level of nesting: one construct after another, and never none.
inductive Chain
  | last (c : Construct)
  | link (c : Construct) (rest : Chain)
  deriving Repr

inductive Construct
  | seq (instructions : List Instruction)
  | cond (branches : Branches)
  | loop (condition : Expression) (body : Chain)
  | switch (scrutinee : Expression) (cases : Cases)
  deriving Repr

-- The branches of an `if`, and what happens when none is taken. An absent `otherwise` is not the same
-- as an empty one.
inductive Branches
  | done
  | otherwise (body : Chain)
  | branch (condition : Expression) (body : Chain) (rest : Branches)
  deriving Repr

inductive Cases
  | done
  | otherwise (body : Chain)
  | case (labels : List Int32) (body : Chain) (rest : Cases)
  deriving Repr

end

namespace Chain

def andThen : Chain → Chain → Chain
  | last c, b      => link c b
  | link c rest, b => link c (rest.andThen b)

end Chain

mutual

def Chain.instructions : Chain → List Instruction
  | .last c      => c.instructions
  | .link c rest => c.instructions ++ rest.instructions

def Construct.instructions : Construct → List Instruction
  | .seq is      => is
  | .cond bs     => bs.instructions
  | .loop _ body => body.instructions
  | .switch _ cs => cs.instructions

def Branches.instructions : Branches → List Instruction
  | .done               => []
  | .otherwise body     => body.instructions
  | .branch _ body rest => body.instructions ++ rest.instructions

def Cases.instructions : Cases → List Instruction
  | .done             => []
  | .otherwise body   => body.instructions
  | .case _ body rest => body.instructions ++ rest.instructions

end

def Branches.hasBranch : Branches → Bool
  | .branch .. => true
  | _          => false

-- An entry of a chain once its runs of instructions are opened.
inductive Item
  | instruction (i : Instruction)
  | block (c : Construct)
  deriving Repr

def Construct.items : Construct → List Item
  | .seq is => is.map .instruction
  | c       => [.block c]

namespace Chain

def items : Chain → List Item
  | last c      => c.items
  | link c rest => c.items ++ rest.items

theorem andThen_assoc (a b c : Chain) : (a.andThen b).andThen c = a.andThen (b.andThen c) := by
  match a with
  | last _      => rfl
  | link _ rest => simp [andThen, andThen_assoc rest b c]

theorem instructions_andThen (a b : Chain) :
    (a.andThen b).instructions = a.instructions ++ b.instructions := by
  match a with
  | last _      => simp [andThen, instructions]
  | link _ rest => simp [andThen, instructions, instructions_andThen rest b]

theorem items_andThen (a b : Chain) : (a.andThen b).items = a.items ++ b.items := by
  match a with
  | last _      => simp [andThen, items]
  | link _ rest => simp [andThen, items, items_andThen rest b]

end Chain
end ClientScript
