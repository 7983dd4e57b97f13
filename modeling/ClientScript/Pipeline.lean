import ClientScript.Prune

namespace ClientScript

inductive Pass
  | deleteNops
  deriving DecidableEq, Repr

structure Transformed where
  rest    : Module
  changed : Bool
  deriving Repr

namespace Pass

-- In the order in which they run.
def all : List Pass :=
  [deleteNops]

def name : Pass → String
  | deleteNops => "delete-nops"

def removed : Pass → Module → Nat
  | deleteNops, m => m.prune.removed

def apply : Pass → Module → Transformed
  | deleteNops, m =>
    let pruned := m.prune
    { rest := pruned.rest, changed := 0 < pruned.removed }

end Pass

structure PassConfig where
  deleteNops : Bool := true
  deriving DecidableEq, Repr

namespace PassConfig

-- A name that belongs to no pass skips nothing.
def skip (config : PassConfig) (name : String) : PassConfig :=
  if name = Pass.deleteNops.name then { config with deleteNops := false } else config

def ofSkipped (names : List String) : PassConfig :=
  names.foldl skip {}

end PassConfig

abbrev Pipeline := List Pass

namespace Pipeline

def ofConfig (config : PassConfig) : Pipeline :=
  if config.deleteNops then [.deleteNops] else []

def standard (skipped : List String) : Pipeline :=
  ofConfig (.ofSkipped skipped)

def run : Pipeline → Module → Module × List (Pass × Bool)
  | [],      m => (m, [])
  | p :: ps, m =>
    let result := p.apply m
    let (m, changes) := run ps result.rest
    (m, (p, result.changed) :: changes)

def removed : Pipeline → Module → Nat
  | [],      _ => 0
  | p :: ps, m => p.removed m + removed ps (p.apply m).rest

end Pipeline
end ClientScript
