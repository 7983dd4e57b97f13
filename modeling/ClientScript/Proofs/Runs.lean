import ClientScript.Proofs.Prune

namespace ClientScript

mutual

-- The runs of instructions at any depth, in the order of the text. Empty ones are listed too.
def Chain.runs : Chain → List (List Instruction)
  | .last c      => c.runs
  | .link c rest => c.runs ++ rest.runs

def Construct.runs : Construct → List (List Instruction)
  | .seq is      => [is]
  | .cond bs     => bs.runs
  | .loop _ body => body.runs
  | .switch _ cs => cs.runs

def Branches.runs : Branches → List (List Instruction)
  | .done               => []
  | .otherwise body     => body.runs
  | .branch _ body rest => body.runs ++ rest.runs

def Cases.runs : Cases → List (List Instruction)
  | .done             => []
  | .otherwise body   => body.runs
  | .case _ body rest => body.runs ++ rest.runs

end

mutual

-- What is left of a part when its runs are emptied: its blocks, all that they look at, and their
-- places.
def Chain.hollow : Chain → Chain
  | .last c      => .last c.hollow
  | .link c rest => .link c.hollow rest.hollow

def Construct.hollow : Construct → Construct
  | .seq _       => .seq []
  | .cond bs     => .cond bs.hollow
  | .loop c body => .loop c body.hollow
  | .switch e cs => .switch e cs.hollow

def Branches.hollow : Branches → Branches
  | .done               => .done
  | .otherwise body     => .otherwise body.hollow
  | .branch c body rest => .branch c body.hollow rest.hollow

def Cases.hollow : Cases → Cases
  | .done              => .done
  | .otherwise body    => .otherwise body.hollow
  | .case ns body rest => .case ns body.hollow rest.hollow

end

mutual

theorem Chain.length_runs_hollow : (c : Chain) → c.hollow.runs.length = c.runs.length
  | .last c      => c.length_runs_hollow
  | .link c rest => by
    rw [Chain.hollow, Chain.runs, Chain.runs, List.length_append, List.length_append,
      c.length_runs_hollow, rest.length_runs_hollow]

theorem Construct.length_runs_hollow : (c : Construct) → c.hollow.runs.length = c.runs.length
  | .seq _       => rfl
  | .cond bs     => bs.length_runs_hollow
  | .loop _ body => body.length_runs_hollow
  | .switch _ cs => cs.length_runs_hollow

theorem Branches.length_runs_hollow : (bs : Branches) → bs.hollow.runs.length = bs.runs.length
  | .done               => rfl
  | .otherwise body     => body.length_runs_hollow
  | .branch _ body rest => by
    rw [Branches.hollow, Branches.runs, Branches.runs, List.length_append, List.length_append,
      body.length_runs_hollow, rest.length_runs_hollow]

theorem Cases.length_runs_hollow : (cs : Cases) → cs.hollow.runs.length = cs.runs.length
  | .done             => rfl
  | .otherwise body   => body.length_runs_hollow
  | .case _ body rest => by
    rw [Cases.hollow, Cases.runs, Cases.runs, List.length_append, List.length_append,
      body.length_runs_hollow, rest.length_runs_hollow]

end

-- Where two parts are the same but for their runs, the runs of the first can be told from those of
-- what follows it.
theorem runs_inj {α : Type} {runs : α → List (List Instruction)} {hollow : α → α} {a b : α}
    {r s : List (List Instruction)} (hl : ∀ a, (runs (hollow a)).length = (runs a).length)
    (h : hollow a = hollow b) (hr : runs a ++ r = runs b ++ s) : runs a = runs b ∧ r = s :=
  List.append_inj hr (by rw [← hl a, h, hl b])

mutual

theorem Chain.eq_of_hollow_eq : (a b : Chain) → a.hollow = b.hollow → a.runs = b.runs → a = b
  | .last c,   .last d,   h, hr => congrArg Chain.last (c.eq_of_hollow_eq d (Chain.last.inj h) hr)
  | .link c a, .link d b, h, hr => by
    obtain ⟨hc, ha⟩ := Chain.link.inj h
    obtain ⟨hrc, hra⟩ := runs_inj Construct.length_runs_hollow hc hr
    rw [c.eq_of_hollow_eq d hc hrc, a.eq_of_hollow_eq b ha hra]

theorem Construct.eq_of_hollow_eq : (a b : Construct) → a.hollow = b.hollow → a.runs = b.runs →
    a = b
  | .seq _,    .seq _,    _, hr => congrArg Construct.seq (List.singleton_inj.mp hr)
  | .cond a,   .cond b,   h, hr =>
    congrArg Construct.cond (a.eq_of_hollow_eq b (Construct.cond.inj h) hr)
  | .loop _ a, .loop _ b, h, hr => by
    obtain ⟨rfl, ha⟩ := Construct.loop.inj h
    rw [a.eq_of_hollow_eq b ha hr]
  | .switch _ a, .switch _ b, h, hr => by
    obtain ⟨rfl, ha⟩ := Construct.switch.inj h
    rw [a.eq_of_hollow_eq b ha hr]

theorem Branches.eq_of_hollow_eq : (a b : Branches) → a.hollow = b.hollow → a.runs = b.runs → a = b
  | .done,           .done,           _, _  => rfl
  | .otherwise a,    .otherwise b,    h, hr =>
    congrArg Branches.otherwise (a.eq_of_hollow_eq b (Branches.otherwise.inj h) hr)
  | .branch _ a as,  .branch _ b bs,  h, hr => by
    obtain ⟨rfl, ha, has⟩ := Branches.branch.inj h
    obtain ⟨hra, hras⟩ := runs_inj Chain.length_runs_hollow ha hr
    rw [a.eq_of_hollow_eq b ha hra, as.eq_of_hollow_eq bs has hras]

theorem Cases.eq_of_hollow_eq : (a b : Cases) → a.hollow = b.hollow → a.runs = b.runs → a = b
  | .done,         .done,         _, _  => rfl
  | .otherwise a,  .otherwise b,  h, hr =>
    congrArg Cases.otherwise (a.eq_of_hollow_eq b (Cases.otherwise.inj h) hr)
  | .case _ a as,  .case _ b bs,  h, hr => by
    obtain ⟨rfl, ha, has⟩ := Cases.case.inj h
    obtain ⟨hra, hras⟩ := runs_inj Chain.length_runs_hollow ha hr
    rw [a.eq_of_hollow_eq b ha hra, as.eq_of_hollow_eq bs has hras]

end

mutual

theorem Chain.hollow_prune : (c : Chain) → c.prune.rest.hollow = c.hollow
  | .last c      => congrArg Chain.last c.hollow_prune
  | .link c rest => by
    rw [Chain.prune, Pruned.both, Chain.hollow, c.hollow_prune, rest.hollow_prune, Chain.hollow]

theorem Construct.hollow_prune : (c : Construct) → c.prune.rest.hollow = c.hollow
  | .seq _       => rfl
  | .cond bs     => congrArg Construct.cond bs.hollow_prune
  | .loop c body => congrArg (Construct.loop c) body.hollow_prune
  | .switch e cs => congrArg (Construct.switch e) cs.hollow_prune

theorem Branches.hollow_prune : (bs : Branches) → bs.prune.rest.hollow = bs.hollow
  | .done               => rfl
  | .otherwise body     => congrArg Branches.otherwise body.hollow_prune
  | .branch c body rest => by
    rw [Branches.prune, Pruned.both, Branches.hollow, body.hollow_prune, rest.hollow_prune,
      Branches.hollow]

theorem Cases.hollow_prune : (cs : Cases) → cs.prune.rest.hollow = cs.hollow
  | .done              => rfl
  | .otherwise body    => congrArg Cases.otherwise body.hollow_prune
  | .case ns body rest => by
    rw [Cases.prune, Pruned.both, Cases.hollow, body.hollow_prune, rest.hollow_prune, Cases.hollow]

end

mutual

theorem Chain.runs_prune : (c : Chain) →
    c.prune.rest.runs = c.runs.map (·.filter fun i => !i.isDiscard)
  | .last c      => c.runs_prune
  | .link c rest => by
    rw [Chain.prune, Pruned.both, Chain.runs, c.runs_prune, rest.runs_prune, Chain.runs,
      List.map_append]

theorem Construct.runs_prune : (c : Construct) →
    c.prune.rest.runs = c.runs.map (·.filter fun i => !i.isDiscard)
  | .seq _       => rfl
  | .cond bs     => bs.runs_prune
  | .loop _ body => body.runs_prune
  | .switch _ cs => cs.runs_prune

theorem Branches.runs_prune : (bs : Branches) →
    bs.prune.rest.runs = bs.runs.map (·.filter fun i => !i.isDiscard)
  | .done               => rfl
  | .otherwise body     => body.runs_prune
  | .branch _ body rest => by
    rw [Branches.prune, Pruned.both, Branches.runs, body.runs_prune, rest.runs_prune, Branches.runs,
      List.map_append]

theorem Cases.runs_prune : (cs : Cases) →
    cs.prune.rest.runs = cs.runs.map (·.filter fun i => !i.isDiscard)
  | .done             => rfl
  | .otherwise body   => body.runs_prune
  | .case _ body rest => by
    rw [Cases.prune, Pruned.both, Cases.runs, body.runs_prune, rest.runs_prune, Cases.runs,
      List.map_append]

end

-- What pruning leaves of a chain is the one chain with the same blocks whose runs have no discards.
theorem Chain.eq_rest_prune_iff {a b : Chain} : b = a.prune.rest ↔
    b.hollow = a.hollow ∧ b.runs = a.runs.map (·.filter fun i => !i.isDiscard) := by
  constructor
  case mp  =>
    rintro rfl
    exact ⟨a.hollow_prune, a.runs_prune⟩
  case mpr =>
    intro ⟨hh, hr⟩
    exact b.eq_of_hollow_eq _ (hh.trans a.hollow_prune.symm) (hr.trans a.runs_prune.symm)

end ClientScript
