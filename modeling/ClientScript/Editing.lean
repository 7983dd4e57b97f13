import ClientScript.Pipeline

namespace ClientScript

namespace Module

def appendTo? (m : Module) (index : Nat) (c : Chain) : Option Module := do
  let s ← m.scripts[index]?
  return { m with scripts := m.scripts.set index { s with body := s.body.andThen c } }

def pruneAt? (m : Module) (index : Nat) : Option (Pruned Module) := do
  let s ← m.scripts[index]?
  return s.prune.map fun s => { m with scripts := m.scripts.set index s }

end Module

-- A module is built step by step: scripts are added, bodies grow at their ends, and what is there
-- may be pruned at any time.
inductive Edit
  | add (s : Script)
  | append (index : Nat) (c : Chain)
  | prune (index : Nat)
  | pruneAll
  | run (passes : Pipeline)
  deriving Repr

def Edit.apply : Edit → Module → Option (Pruned Module)
  | add s,          m => some (.intact { m with scripts := m.scripts ++ [s] })
  | append index c, m => (m.appendTo? index c).map .intact
  | prune index,    m => m.pruneAt? index
  | pruneAll,       m => some m.prune
  | run passes,     m => some { rest := (passes.run m).1, removed := passes.removed m }

end ClientScript
