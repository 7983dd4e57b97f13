import ClientScript.Script

namespace ClientScript

structure Pruned (α : Type) where
  rest    : α
  removed : Nat
  deriving Repr

namespace Pruned

def intact (a : α) : Pruned α :=
  { rest := a, removed := 0 }

def map (f : α → β) (a : Pruned α) : Pruned β :=
  { rest := f a.rest, removed := a.removed }

def both (f : α → β → γ) (a : Pruned α) (b : Pruned β) : Pruned γ :=
  { rest := f a.rest b.rest, removed := a.removed + b.removed }

end Pruned

-- Discards have no meaning of their own and are dropped. Nothing else is touched.
def pruneRun (is : List Instruction) : Pruned (List Instruction) :=
  let kept := is.filter fun i => !i.isDiscard
  { rest := kept, removed := is.length - kept.length }

mutual

def Chain.prune : Chain → Pruned Chain
  | .last c      => c.prune.map .last
  | .link c rest => c.prune.both .link rest.prune

def Construct.prune : Construct → Pruned Construct
  | .seq is      => (pruneRun is).map .seq
  | .cond bs     => bs.prune.map .cond
  | .loop c body => body.prune.map (.loop c)
  | .switch e cs => cs.prune.map (.switch e)

def Branches.prune : Branches → Pruned Branches
  | .done               => .intact .done
  | .otherwise body     => body.prune.map .otherwise
  | .branch c body rest => body.prune.both (.branch c) rest.prune

def Cases.prune : Cases → Pruned Cases
  | .done                  => .intact .done
  | .otherwise body        => body.prune.map .otherwise
  | .case labels body rest => body.prune.both (.case labels) rest.prune

end

def Script.prune (s : Script) : Pruned Script :=
  s.body.prune.map fun body => { s with body }

def pruneAll : List Script → Pruned (List Script)
  | []      => .intact []
  | s :: ss => s.prune.both .cons (pruneAll ss)

def Module.prune (m : Module) : Pruned Module :=
  (pruneAll m.scripts).map fun scripts => { m with scripts }

theorem pruneAll_rest (ss : List Script) : (pruneAll ss).rest = ss.map (·.prune.rest) := by
  induction ss with
  | nil          => rfl
  | cons s ss ih => simp [pruneAll, Pruned.both, ih]

end ClientScript
