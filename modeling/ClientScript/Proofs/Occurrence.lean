import ClientScript.Prune
import Mathlib.Tactic.Common

namespace ClientScript

namespace Expression

mutual

def parts : Expression → List Expression
  | var v       => [var v]
  | const c     => [const c]
  | op c ts es  => op c ts es :: partsOf es
  | compound es => compound es :: partsOf es

def partsOf : List Expression → List Expression
  | []      => []
  | e :: es => e.parts ++ partsOf es

end

theorem partsOf_eq_flatMap (es : List Expression) : partsOf es = es.flatMap parts := by
  induction es with
  | nil          => simp [partsOf]
  | cons e es ih => simp [partsOf, ih]

theorem mem_parts_self (e : Expression) : e ∈ e.parts := by
  cases e <;> simp [parts]

theorem mem_parts_op (he : e ∈ es) (h : d ∈ e.parts) : d ∈ (op c ts es).parts := by
  rw [parts, partsOf_eq_flatMap]
  exact List.mem_cons_of_mem _ (List.mem_flatMap_of_mem he h)

theorem mem_parts_compound (he : e ∈ es) (h : d ∈ e.parts) : d ∈ (compound es).parts := by
  rw [parts, partsOf_eq_flatMap]
  exact List.mem_cons_of_mem _ (List.mem_flatMap_of_mem he h)

theorem mem_parts_toList {value : Expression} (he : e ∈ value.toList) (h : d ∈ e.parts) :
    d ∈ value.parts := by
  cases value
  case compound es => exact mem_parts_compound he h
  all_goals exact List.mem_singleton.mp he ▸ h

end Expression

-- Targets count as variables.
def Instruction.parts : Instruction → List Expression
  | assign vs value => vs.map .var ++ value.parts
  | ret value       => value.parts

mutual

def Chain.guards : Chain → List Expression
  | .last c      => c.guards
  | .link c rest => c.guards ++ rest.guards

def Construct.guards : Construct → List Expression
  | .seq _       => []
  | .cond bs     => bs.guards
  | .loop c body => c :: body.guards
  | .switch e cs => e :: cs.guards

def Branches.guards : Branches → List Expression
  | .done               => []
  | .otherwise body     => body.guards
  | .branch c body rest => c :: body.guards ++ rest.guards

def Cases.guards : Cases → List Expression
  | .done             => []
  | .otherwise body   => body.guards
  | .case _ body rest => body.guards ++ rest.guards

end

mutual

def Chain.labelled : Chain → List (Expression × List Int32)
  | .last c      => c.labelled
  | .link c rest => c.labelled ++ rest.labelled

def Construct.labelled : Construct → List (Expression × List Int32)
  | .seq _       => []
  | .cond bs     => bs.labelled
  | .loop _ body => body.labelled
  | .switch e cs => cs.labelled e

def Branches.labelled : Branches → List (Expression × List Int32)
  | .done               => []
  | .otherwise body     => body.labelled
  | .branch _ body rest => body.labelled ++ rest.labelled

def Cases.labelled (scrutinee : Expression) : Cases → List (Expression × List Int32)
  | .done              => []
  | .otherwise body    => body.labelled
  | .case ns body rest => (scrutinee, ns) :: body.labelled ++ rest.labelled scrutinee

end

mutual

theorem Chain.guards_prune : (c : Chain) → c.prune.rest.guards = c.guards
  | .last c      => c.guards_prune
  | .link c rest => by
    rw [Chain.prune, Pruned.both, Chain.guards, c.guards_prune, rest.guards_prune, Chain.guards]

theorem Construct.guards_prune : (c : Construct) → c.prune.rest.guards = c.guards
  | .seq _       => rfl
  | .cond bs     => bs.guards_prune
  | .loop c body => congrArg (c :: ·) body.guards_prune
  | .switch e cs => congrArg (e :: ·) cs.guards_prune

theorem Branches.guards_prune : (bs : Branches) → bs.prune.rest.guards = bs.guards
  | .done               => rfl
  | .otherwise body     => body.guards_prune
  | .branch _ body rest => by
    rw [Branches.prune, Pruned.both, Branches.guards, body.guards_prune, rest.guards_prune,
      Branches.guards]

theorem Cases.guards_prune : (cs : Cases) → cs.prune.rest.guards = cs.guards
  | .done             => rfl
  | .otherwise body   => body.guards_prune
  | .case _ body rest => by
    rw [Cases.prune, Pruned.both, Cases.guards, body.guards_prune, rest.guards_prune, Cases.guards]

end

def Script.Contains (s : Script) (e : Expression) : Prop :=
  (∃ i ∈ s.instructions, e ∈ i.parts) ∨ ∃ g ∈ s.body.guards, e ∈ g.parts

-- A variable stands in a script at a place where it is not only dropped.
def Script.Uses (s : Script) (v : Variable) : Prop :=
  (∃ i ∈ s.instructions, i.isDiscard = false ∧ .var v ∈ i.parts) ∨
    ∃ e ∈ s.body.guards, .var v ∈ e.parts

end ClientScript
