import ClientScript.Script

namespace ClientScript

mutual

def Expression.untyped : Expression → Expression
  | .var v        => .var v
  | .const c      => .const c
  | .op code _ es => .op code [] (Expression.allUntyped es)
  | .compound es  => .compound (Expression.allUntyped es)

def Expression.allUntyped : List Expression → List Expression
  | []      => []
  | e :: es => e.untyped :: Expression.allUntyped es

end

theorem Expression.allUntyped_eq_map (es : List Expression) : allUntyped es = es.map untyped := by
  induction es
  case nil          => rfl
  case cons e es hi => rw [allUntyped, hi, List.map_cons]

def Instruction.untyped : Instruction → Instruction
  | assign vs value => assign vs value.untyped
  | ret value       => ret value.untyped

mutual

-- The instructions and the blocks of one level in their order. How they were cut into constructs
-- does not show, at no level.
inductive Outline
  | done
  | instruction (i : Instruction) (rest : Outline)
  | cond (branches : OutlineBranches) (rest : Outline)
  | loop (condition : Expression) (body rest : Outline)
  | switch (scrutinee : Expression) (cases : OutlineCases) (rest : Outline)

inductive OutlineBranches
  | done
  | otherwise (body : Outline)
  | branch (condition : Expression) (body : Outline) (rest : OutlineBranches)

inductive OutlineCases
  | done
  | otherwise (body : Outline)
  | case (labels : List Int32) (body : Outline) (rest : OutlineCases)

end

mutual

def Chain.outline : Chain → Outline
  | .last c      => c.outline .done
  | .link c rest => c.outline rest.outline

def Construct.outline (rest : Outline) : Construct → Outline
  | .seq is      => is.foldr .instruction rest
  | .cond bs     => .cond bs.outline rest
  | .loop c body => .loop c body.outline rest
  | .switch e cs => .switch e cs.outline rest

def Branches.outline : Branches → OutlineBranches
  | .done               => .done
  | .otherwise body     => .otherwise body.outline
  | .branch c body rest => .branch c body.outline rest.outline

def Cases.outline : Cases → OutlineCases
  | .done              => .done
  | .otherwise body    => .otherwise body.outline
  | .case ns body rest => .case ns body.outline rest.outline

end

mutual

def Outline.untyped : Outline → Outline
  | .done               => .done
  | .instruction i rest => .instruction i.untyped rest.untyped
  | .cond bs rest       => .cond bs.untyped rest.untyped
  | .loop c body rest   => .loop c.untyped body.untyped rest.untyped
  | .switch e cs rest   => .switch e.untyped cs.untyped rest.untyped

def OutlineBranches.untyped : OutlineBranches → OutlineBranches
  | .done               => .done
  | .otherwise body     => .otherwise body.untyped
  | .branch c body rest => .branch c.untyped body.untyped rest.untyped

def OutlineCases.untyped : OutlineCases → OutlineCases
  | .done              => .done
  | .otherwise body    => .otherwise body.untyped
  | .case ns body rest => .case ns body.untyped rest.untyped

end

mutual

def Chain.Branched : Chain → Prop
  | .last c      => c.Branched
  | .link c rest => c.Branched ∧ rest.Branched

def Construct.Branched : Construct → Prop
  | .seq _       => True
  | .cond bs     => bs.hasBranch ∧ bs.Branched
  | .loop _ body => body.Branched
  | .switch _ cs => cs.Branched

def Branches.Branched : Branches → Prop
  | .done               => True
  | .otherwise body     => body.Branched
  | .branch _ body rest => body.Branched ∧ rest.Branched

def Cases.Branched : Cases → Prop
  | .done             => True
  | .otherwise body   => body.Branched
  | .case _ body rest => body.Branched ∧ rest.Branched

end

def OutlineBranches.hasBranch : OutlineBranches → Bool
  | .branch .. => true
  | _          => false

mutual

def Outline.Branched : Outline → Prop
  | .done               => True
  | .instruction _ rest => rest.Branched
  | .cond bs rest       => bs.hasBranch ∧ bs.Branched ∧ rest.Branched
  | .loop _ body rest   => body.Branched ∧ rest.Branched
  | .switch _ cs rest   => cs.Branched ∧ rest.Branched

def OutlineBranches.Branched : OutlineBranches → Prop
  | .done               => True
  | .otherwise body     => body.Branched
  | .branch _ body rest => body.Branched ∧ rest.Branched

def OutlineCases.Branched : OutlineCases → Prop
  | .done             => True
  | .otherwise body   => body.Branched
  | .case _ body rest => body.Branched ∧ rest.Branched

end

theorem Outline.branched_foldr {is : List Instruction} (h : rest.Branched) :
    (is.foldr Outline.instruction rest).Branched := by
  induction is
  case nil          => exact h
  case cons i is hi => exact hi

mutual

theorem Chain.Branched.outline : (c : Chain) → c.Branched → c.outline.Branched
  | .last c,      h => Construct.Branched.outline c h trivial
  | .link c rest, h =>
    Construct.Branched.outline c h.left (Chain.Branched.outline rest h.right)

theorem Construct.Branched.outline : (c : Construct) → ∀ {rest : Outline}, c.Branched →
    rest.Branched → (c.outline rest).Branched
  | .seq is,      _, _, hr => Outline.branched_foldr hr
  | .cond bs,     _, h, hr =>
    ⟨by cases bs <;> exact h.left, Branches.Branched.outline bs h.right, hr⟩
  | .loop _ body, _, h, hr => ⟨Chain.Branched.outline body h, hr⟩
  | .switch _ cs, _, h, hr => ⟨Cases.Branched.outline cs h, hr⟩

theorem Branches.Branched.outline : (bs : Branches) → bs.Branched → bs.outline.Branched
  | .done,               _ => trivial
  | .otherwise body,     h => Chain.Branched.outline body h
  | .branch _ body rest, h =>
    ⟨Chain.Branched.outline body h.left, Branches.Branched.outline rest h.right⟩

theorem Cases.Branched.outline : (cs : Cases) → cs.Branched → cs.outline.Branched
  | .done,             _ => trivial
  | .otherwise body,   h => Chain.Branched.outline body h
  | .case _ body rest, h =>
    ⟨Chain.Branched.outline body h.left, Cases.Branched.outline rest h.right⟩

end

end ClientScript
