import ClientScript.Pipeline
import ClientScript.Proofs.Prune

namespace ClientScript

namespace Pipeline

theorem run_cons (p : Pass) (ps : Pipeline) (m : Module) :
    run (p :: ps) m =
      ((run ps m.prune.rest).1, (p, decide (0 < m.prune.removed)) :: (run ps m.prune.rest).2) := by
  cases p; rfl

theorem removed_cons (p : Pass) (ps : Pipeline) (m : Module) :
    removed (p :: ps) m = m.prune.removed + removed ps m.prune.rest := by
  cases p; rfl

theorem rest_run (ps : Pipeline) (m : Module) :
    (ps.run m).1 = if ps = [] then m else m.prune.rest := by
  induction ps generalizing m
  case nil          => rfl
  case cons p ps hi =>
    rw [run_cons, if_neg (List.cons_ne_nil p ps), hi, Module.prune_prune, ite_self]

theorem removed_run (ps : Pipeline) (m : Module) :
    ps.removed m + (ps.run m).1.instructions.countP (·.isDiscard) =
      m.instructions.countP (·.isDiscard) := by
  induction ps generalizing m
  case nil          => exact Nat.zero_add _
  case cons p ps hi =>
    rw [run_cons, removed_cons, Nat.add_assoc, hi, Module.countP_prune, Module.removed_prune,
      Nat.add_zero]

end Pipeline

namespace PassConfig

variable {config : PassConfig} {names : List String}

-- However often a pass is skipped, and in whatever order with others, it is left out.
theorem deleteNops_foldl_skip : (names.foldl skip config).deleteNops =
    (config.deleteNops && !names.contains Pass.deleteNops.name) := by
  induction names generalizing config
  case nil                => simp
  case cons name names hi =>
    rw [List.foldl_cons, hi, skip]
    by_cases h : name = Pass.deleteNops.name
    case pos => simp [h]
    case neg => simp [h, Ne.symm h]

theorem deleteNops_ofSkipped :
    (ofSkipped names).deleteNops = !names.contains Pass.deleteNops.name := by
  rw [ofSkipped, deleteNops_foldl_skip, Bool.true_and]

end PassConfig

namespace Pipeline

theorem standard_eq_filter {skipped : List String} :
    standard skipped = Pass.all.filter fun p => !skipped.contains p.name := by
  rw [standard, ofConfig, PassConfig.deleteNops_ofSkipped, Pass.all, List.filter_cons]
  rfl

theorem standard_eq_nil_iff {skipped : List String} :
    standard skipped = [] ↔ Pass.deleteNops.name ∈ skipped := by
  rw [standard_eq_filter, List.filter_eq_nil_iff, Pass.all, List.forall_mem_singleton]
  simp

def extended (skipped : List String) (extra : Nat) : Pipeline :=
  standard skipped ++ List.replicate extra Pass.deleteNops

theorem extended_eq_nil_iff {skipped : List String} {extra : Nat} :
    extended skipped extra = [] ↔ Pass.deleteNops.name ∈ skipped ∧ extra = 0 := by
  rw [extended, List.append_eq_nil_iff, standard_eq_nil_iff, List.replicate_eq_nil_iff]

variable {ps qs : Pipeline} {m : Module}

theorem rest_run_congr (h : ps = [] ↔ qs = []) : (ps.run m).1 = (qs.run m).1 := by
  rw [rest_run, rest_run, if_congr h rfl rfl]

theorem name_run (ps : Pipeline) (m : Module) : (ps.run m).1.name = m.name := by
  rw [rest_run, Module.rest_prune]
  split <;> rfl

theorem ids_run (ps : Pipeline) (m : Module) :
    (ps.run m).1.scripts.map (·.id) = m.scripts.map (·.id) := by
  rw [rest_run]
  split
  case isTrue  => rfl
  case isFalse =>
    rw [Module.rest_prune, List.map_map]
    rfl

theorem prune_rest_run (h : ps ≠ []) : (ps.run m).1.prune = .intact (ps.run m).1 := by
  have hm : m.prune.rest.prune.removed = 0 := Module.removed_prune.trans Module.countP_prune
  rw [rest_run, if_neg h]
  change Pruned.mk m.prune.rest.prune.rest m.prune.rest.prune.removed = _
  rw [Module.prune_prune, hm, Pruned.intact]

theorem apply_rest_run (h : ps ≠ []) :
    Pass.deleteNops.apply (ps.run m).1 = { rest := (ps.run m).1, changed := false } := by
  rw [Pass.apply, prune_rest_run h]
  rfl

-- What passes leave of a module depends on whether there is one at all. Each script is pruned once
-- then, in its place, and a further pass finds nothing.
theorem run_extended (m : Module) (skipped : List String) (extra : Nat) :
    ((extended skipped extra).run m).1 =
      (if Pass.deleteNops.name ∉ skipped ∨ 0 < extra then
        { m with scripts := m.scripts.map (·.prune.rest) } else m) ∧
    (∀ skipped' extra', (Pass.deleteNops.name ∈ skipped ↔ Pass.deleteNops.name ∈ skipped') →
      (0 < extra ↔ 0 < extra') →
      ((extended skipped' extra').run m).1 = ((extended skipped extra).run m).1) ∧
    ((extended skipped extra).run m).1.name = m.name ∧
    ((extended skipped extra).run m).1.scripts.length = m.scripts.length ∧
    ((extended skipped extra).run m).1.scripts.map (·.id) = m.scripts.map (·.id) ∧
    (extended skipped extra ≠ [] →
      ((extended skipped extra).run m).1.prune = .intact ((extended skipped extra).run m).1 ∧
      Pass.deleteNops.apply ((extended skipped extra).run m).1 =
        { rest := ((extended skipped extra).run m).1, changed := false }) := by
  have ids := ids_run (extended skipped extra) m
  refine ⟨?result, ?others, name_run _ m, ?length, ids,
    fun hp => ⟨prune_rest_run hp, apply_rest_run hp⟩⟩
  case result =>
    have hp : extended skipped extra ≠ [] ↔ Pass.deleteNops.name ∉ skipped ∨ 0 < extra := by
      rw [ne_eq, extended_eq_nil_iff, not_and_or, Nat.pos_iff_ne_zero]
    rw [rest_run, Module.rest_prune, ← ite_not]
    exact if_congr hp rfl rfl
  case others =>
    intro skipped' extra' hs he
    apply rest_run_congr
    rw [extended_eq_nil_iff, extended_eq_nil_iff, hs]
    exact and_congr_right fun _ => by omega
  case length => simpa using congrArg List.length ids

def leftovers : Module where
  name    := "leftovers"
  scripts :=
    let drop := Instruction.assign [] (.compound [.var ⟨.stack, .int, 0⟩])
    [{ id := 2, body := .last (.seq [drop, .ret (.compound []), drop]) },
      { id := 1, body := .last (.loop (.const ⟨.boolean, .int 1⟩) (.last (.seq [drop]))) }]

-- No name but that of the pass matters, however often it is given, and of many further passes one
-- does the work.
theorem run_leftovers :
    ((extended ["delete-nops", "rename", "delete-nops"] 3).run leftovers).1 =
      ((extended ["delete-nops"] 1).run leftovers).1 ∧
    ((extended ["delete-nops"] 0).run leftovers).1 = leftovers ∧
    ((extended ["delete-nops"] 1).run leftovers).1.instructions = [.ret (.compound [])] ∧
    leftovers.prune.removed = 3 ∧ (Pass.deleteNops.apply leftovers).changed ∧
    (Pass.deleteNops.apply ((extended ["delete-nops"] 1).run leftovers).1).changed = false := by
  have ⟨_, others, _, _, _, again⟩ := run_extended leftovers ["delete-nops"] 1
  exact ⟨others _ _ (by decide) (by decide), rfl, rfl, rfl, rfl,
    congrArg Transformed.changed (again (List.cons_ne_nil _ _)).right⟩

end Pipeline

end ClientScript
