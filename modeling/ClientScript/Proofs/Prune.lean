import ClientScript.Prune
import Mathlib.Tactic.Common

namespace ClientScript

theorem removed_pruneRun (is : List Instruction) :
    (pruneRun is).removed = is.countP (·.isDiscard) := by
  have h := List.length_eq_countP_add_countP (·.isDiscard) (l := is)
  simp only [Bool.not_eq_true, Bool.decide_eq_false] at h
  rw [pruneRun, ← List.countP_eq_length_filter, h, Nat.add_sub_cancel]

mutual

theorem Chain.removed_prune : (c : Chain) → c.prune.removed = c.instructions.countP (·.isDiscard)
  | .last c      => c.removed_prune
  | .link c rest => by
    rw [Chain.prune, Pruned.both, c.removed_prune, rest.removed_prune, Chain.instructions,
      List.countP_append]

theorem Construct.removed_prune : (c : Construct) →
    c.prune.removed = c.instructions.countP (·.isDiscard)
  | .seq is      => removed_pruneRun is
  | .cond bs     => bs.removed_prune
  | .loop _ body => body.removed_prune
  | .switch _ cs => cs.removed_prune

theorem Branches.removed_prune : (bs : Branches) →
    bs.prune.removed = bs.instructions.countP (·.isDiscard)
  | .done               => rfl
  | .otherwise body     => body.removed_prune
  | .branch _ body rest => by
    rw [Branches.prune, Pruned.both, body.removed_prune, rest.removed_prune, Branches.instructions,
      List.countP_append]

theorem Cases.removed_prune : (cs : Cases) →
    cs.prune.removed = cs.instructions.countP (·.isDiscard)
  | .done             => rfl
  | .otherwise body   => body.removed_prune
  | .case _ body rest => by
    rw [Cases.prune, Pruned.both, body.removed_prune, rest.removed_prune, Cases.instructions,
      List.countP_append]

end

mutual

theorem Chain.instructions_prune : (c : Chain) →
    c.prune.rest.instructions = c.instructions.filter fun i => !i.isDiscard
  | .last c      => c.instructions_prune
  | .link c rest => by
    rw [Chain.prune, Pruned.both, Chain.instructions, c.instructions_prune, rest.instructions_prune,
      Chain.instructions, List.filter_append]

theorem Construct.instructions_prune : (c : Construct) →
    c.prune.rest.instructions = c.instructions.filter fun i => !i.isDiscard
  | .seq _       => rfl
  | .cond bs     => bs.instructions_prune
  | .loop _ body => body.instructions_prune
  | .switch _ cs => cs.instructions_prune

theorem Branches.instructions_prune : (bs : Branches) →
    bs.prune.rest.instructions = bs.instructions.filter fun i => !i.isDiscard
  | .done               => rfl
  | .otherwise body     => body.instructions_prune
  | .branch _ body rest => by
    rw [Branches.prune, Pruned.both, Branches.instructions, body.instructions_prune,
      rest.instructions_prune, Branches.instructions, List.filter_append]

theorem Cases.instructions_prune : (cs : Cases) →
    cs.prune.rest.instructions = cs.instructions.filter fun i => !i.isDiscard
  | .done             => rfl
  | .otherwise body   => body.instructions_prune
  | .case _ body rest => by
    rw [Cases.prune, Pruned.both, Cases.instructions, body.instructions_prune,
      rest.instructions_prune, Cases.instructions, List.filter_append]

end

mutual

theorem Chain.prune_eq_self : (c : Chain) → (∀ i ∈ c.instructions, i.isDiscard = false) →
    c.prune.rest = c
  | .last c,      h => congrArg Chain.last (c.prune_eq_self h)
  | .link c rest, h => by
    obtain ⟨hc, hr⟩ := List.forall_mem_append.mp h
    rw [Chain.prune, Pruned.both, c.prune_eq_self hc, rest.prune_eq_self hr]

theorem Construct.prune_eq_self : (c : Construct) → (∀ i ∈ c.instructions, i.isDiscard = false) →
    c.prune.rest = c
  | .seq _,       h => congrArg Construct.seq (List.filter_eq_self.mpr fun i hi => by simp [h i hi])
  | .cond bs,     h => congrArg Construct.cond (bs.prune_eq_self h)
  | .loop c body, h => congrArg (Construct.loop c) (body.prune_eq_self h)
  | .switch e cs, h => congrArg (Construct.switch e) (cs.prune_eq_self h)

theorem Branches.prune_eq_self : (bs : Branches) → (∀ i ∈ bs.instructions, i.isDiscard = false) →
    bs.prune.rest = bs
  | .done,               _ => rfl
  | .otherwise body,     h => congrArg Branches.otherwise (body.prune_eq_self h)
  | .branch _ body rest, h => by
    obtain ⟨hb, hr⟩ := List.forall_mem_append.mp h
    rw [Branches.prune, Pruned.both, body.prune_eq_self hb, rest.prune_eq_self hr]

theorem Cases.prune_eq_self : (cs : Cases) → (∀ i ∈ cs.instructions, i.isDiscard = false) →
    cs.prune.rest = cs
  | .done,             _ => rfl
  | .otherwise body,   h => congrArg Cases.otherwise (body.prune_eq_self h)
  | .case _ body rest, h => by
    obtain ⟨hb, hr⟩ := List.forall_mem_append.mp h
    rw [Cases.prune, Pruned.both, body.prune_eq_self hb, rest.prune_eq_self hr]

end

namespace Chain

theorem isDiscard_of_mem_prune {c : Chain} (h : i ∈ c.prune.rest.instructions) :
    i.isDiscard = false := by
  rw [instructions_prune] at h
  simpa using (List.mem_filter.mp h).right

theorem prune_prune (c : Chain) : c.prune.rest.prune.rest = c.prune.rest :=
  prune_eq_self _ fun _ => isDiscard_of_mem_prune

theorem prune_andThen (a b : Chain) :
    (a.andThen b).prune.rest = a.prune.rest.andThen b.prune.rest := by
  match a with
  | last _      => rfl
  | link c rest => exact congrArg (link c.prune.rest) (prune_andThen rest b)

end Chain

namespace Script

variable {s : Script}

theorem instructions_prune :
    s.prune.rest.instructions = s.instructions.filter fun i => !i.isDiscard :=
  s.body.instructions_prune

theorem removed_prune : s.prune.removed = s.instructions.countP (·.isDiscard) :=
  s.body.removed_prune

theorem prune_eq_self (h : ∀ i ∈ s.instructions, i.isDiscard = false) : s.prune.rest = s := by
  change { s with body := s.body.prune.rest } = s
  rw [s.body.prune_eq_self h]

theorem prune_prune : s.prune.rest.prune.rest = s.prune.rest :=
  congrArg (fun body => { s with body }) s.body.prune_prune

theorem countP_prune (s : Script) : s.prune.rest.instructions.countP (·.isDiscard) = 0 :=
  List.countP_eq_zero.mpr fun _ h => by simp [Chain.isDiscard_of_mem_prune h]

end Script

namespace Module

def instructions (m : Module) : List Instruction :=
  m.scripts.flatMap Script.instructions

variable {m : Module}

theorem rest_prune : m.prune.rest = { m with scripts := m.scripts.map (·.prune.rest) } := by
  rw [prune, Pruned.map, pruneAll_rest]

theorem removed_pruneAll (ss : List Script) :
    (ClientScript.pruneAll ss).removed =
      (ss.flatMap Script.instructions).countP (·.isDiscard) := by
  induction ss
  case nil          => rfl
  case cons s ss hi =>
    rw [ClientScript.pruneAll, Pruned.both, hi, Script.removed_prune, List.flatMap_cons,
      List.countP_append]

theorem removed_prune : m.prune.removed = m.instructions.countP (·.isDiscard) :=
  removed_pruneAll m.scripts

theorem prune_eq_self (h : ∀ i ∈ m.instructions, i.isDiscard = false) : m.prune.rest = m := by
  have hs : ∀ s ∈ m.scripts, s.prune.rest = s := fun s hs =>
    s.prune_eq_self fun i hi => h i (List.mem_flatMap_of_mem hs hi)
  rw [rest_prune, List.map_congr_left hs, List.map_id']

theorem isDiscard_of_mem_prune (h : i ∈ m.prune.rest.instructions) : i.isDiscard = false := by
  rw [rest_prune, instructions, List.flatMap_map] at h
  obtain ⟨s, _, hi⟩ := List.mem_flatMap.mp h
  exact Chain.isDiscard_of_mem_prune hi

theorem prune_prune : m.prune.rest.prune.rest = m.prune.rest :=
  prune_eq_self fun _ => isDiscard_of_mem_prune

theorem countP_prune : m.prune.rest.instructions.countP (·.isDiscard) = 0 :=
  List.countP_eq_zero.mpr fun _ h => by simp [isDiscard_of_mem_prune h]

end Module

end ClientScript
