import ClientScript.Proofs.Emission.Culprit
import ClientScript.Proofs.Emission.Layout
import ClientScript.Proofs.Pipeline

namespace ClientScript

open Expression (Renderable)

theorem Instruction.isDiscard_iff {i : Instruction} :
    i.isDiscard ↔ ∃ value v, i = assign [] value ∧ value.toList = [.var v] ∧ v.kind = .stack := by
  rcases i with ⟨_ | ⟨v, vs⟩, value⟩ | value
  case assign.nil =>
    simp only [isDiscard, assign.injEq, true_and]
    split
    case h_1 v hv => simp [hv]
    case h_2 hn   => simpa using fun v hv => absurd hv (hn v)
  all_goals simp [isDiscard]

theorem Expression.Renderable.toList {e : Expression} (h : e.Renderable) :
    ∀ d ∈ e.toList, d.Renderable := by
  cases h
  case compound h => exact h
  case var h      => exact fun d hd => List.mem_singleton.mp hd ▸ .var h
  case const h    => exact fun d hd => List.mem_singleton.mp hd ▸ .const h
  case op h hw    => exact fun d hd => List.mem_singleton.mp hd ▸ .op h hw

theorem Instruction.Emittable.isDiscard_eq_false {i : Instruction} (h : i.Emittable) :
    i.isDiscard = false := by
  rw [Bool.eq_false_iff]
  intro hd
  obtain ⟨value, v, rfl, hv, hk⟩ := isDiscard_iff.mp hd
  have hr : Renderable (.var v) := h.right.toList _ (by simp [hv])
  cases hr
  case var hk' => exact hk' hk

mutual

theorem Chain.Emittable.instructions : (c : Chain) → c.Emittable →
    ∀ i ∈ c.instructions, i.Emittable
  | .last c,      h => Construct.Emittable.instructions c h
  | .link c rest, h =>
    List.forall_mem_append.mpr
      ⟨Construct.Emittable.instructions c h.left, Chain.Emittable.instructions rest h.right⟩

theorem Construct.Emittable.instructions : (c : Construct) → c.Emittable →
    ∀ i ∈ c.instructions, i.Emittable
  | .seq _,       h => h
  | .cond bs,     h => Branches.Emittable.instructions bs h.right
  | .loop _ body, h => Chain.Emittable.instructions body h.right
  | .switch _ cs, h => Cases.Emittable.instructions cs h.right.choose_spec.right

theorem Branches.Emittable.instructions : (bs : Branches) → bs.Emittable →
    ∀ i ∈ bs.instructions, i.Emittable
  | .done,               _ => nofun
  | .otherwise body,     h => Chain.Emittable.instructions body h
  | .branch _ body rest, h =>
    List.forall_mem_append.mpr
      ⟨Chain.Emittable.instructions body h.right.left,
        Branches.Emittable.instructions rest h.right.right⟩

theorem Cases.Emittable.instructions : (cs : Cases) → ∀ {ty}, cs.Emittable ty →
    ∀ i ∈ cs.instructions, i.Emittable
  | .done,             _, _ => nofun
  | .otherwise body,   _, h => Chain.Emittable.instructions body h
  | .case _ body rest, _, h =>
    List.forall_mem_append.mpr
      ⟨Chain.Emittable.instructions body h.right.right.left,
        Cases.Emittable.instructions rest h.right.right.right⟩

end

theorem Item.Emittable.instructions {i : Item} (h : i.Emittable) :
    ∀ j ∈ i.instructions, j.Emittable := by
  cases i
  case instruction i => exact fun j hj => List.mem_singleton.mp hj ▸ h
  case block c       => exact Construct.Emittable.instructions c h

namespace Script

variable {s : Script} {names : Names} {unit t : String}

-- The one instruction that has no text of its own is a return, and no discard.
theorem isDiscard_eq_false_of_emit (h : s.emit names unit = .ok t) :
    ∀ i ∈ s.instructions, i.isDiscard = false := by
  intro i hi
  rw [instructions, Chain.instructions_eq_flatMap, List.mem_flatMap] at hi
  obtain ⟨item, hm, hi⟩ := hi
  rcases (emittable_of_emit h).items item hm with hl | hem
  case inl =>
    obtain ⟨_, e, rfl⟩ := elides_iff.mp hl
    cases List.mem_singleton.mp hi
    rfl
  case inr => exact (hem.instructions i hi).isDiscard_eq_false

theorem emit_eq_ok_iff_prune :
    s.emit names unit = .ok t ↔
      (∀ i ∈ s.instructions, i.isDiscard = false) ∧ s.prune.rest.emit names unit = .ok t := by
  constructor
  case mp =>
    intro h
    have hd := isDiscard_eq_false_of_emit h
    exact ⟨hd, (prune_eq_self hd).symm ▸ h⟩
  case mpr => exact fun ⟨hd, h⟩ => prune_eq_self hd ▸ h

theorem exists_uses_of_emit_prune {id : UInt32}
    (h : s.prune.rest.emit names unit = .error (.stackVariable id)) :
    ∃ v, v.kind = .stack ∧ v.id = id ∧ s.Uses v := by
  have hx : EmitError.Inner (.stackVariable id) := ⟨by simp, by simp⟩
  rcases (failsOnly_emit _ h).exists_part hx with ⟨i, hi, d, hm, hc⟩ | ⟨e, he, d, hm, hc⟩ | hl
  case inl     =>
    obtain ⟨v, rfl, hk, hv⟩ := Expression.exists_eq_var hc
    rw [instructions_prune, List.mem_filter] at hi
    exact ⟨v, hk, hv, .inl ⟨i, hi.left, by simpa using hi.right, hm⟩⟩
  case inr.inl =>
    obtain ⟨v, rfl, hk, hv⟩ := Expression.exists_eq_var hc
    have hg : s.prune.rest.body.guards = s.body.guards := s.body.guards_prune
    exact ⟨v, hk, hv, .inr ⟨e, hg ▸ he, hm⟩⟩
  case inr.inr =>
    obtain ⟨_, _, _, _, _, _, _, hd⟩ := hl
    cases hd

end Script

theorem Pipeline.run_eq_self_of_emit {m : Module} {ps : Pipeline}
    (h : ∀ s ∈ m.scripts, ∃ t, s.emit names unit = .ok t) : (ps.run m).1 = m := by
  have hm : m.prune.rest = m := Module.prune_eq_self fun i hi => by
    obtain ⟨s, hs, hi⟩ := List.mem_flatMap.mp hi
    obtain ⟨t, ht⟩ := h s hs
    exact Script.isDiscard_eq_false_of_emit ht i hi
  rw [rest_run, hm, ite_self]

-- The scripts that have a text are those without discards that have it when they are pruned. So passes
-- change no text, and a slot that is in the way after pruning is one that is used.
theorem Script.emit_prune (names : Names) (unit : String) :
    (∀ (s : Script) t, s.emit names unit = .ok t ↔
      (∀ i ∈ s.instructions, i.isDiscard = false) ∧ s.prune.rest.emit names unit = .ok t) ∧
    (∀ (m : Module) skipped, (∀ s ∈ m.scripts, ∃ t, s.emit names unit = .ok t) →
      ((Pipeline.standard skipped).run m).1.scripts.map (·.emit names unit) =
        m.scripts.map (·.emit names unit)) ∧
    ∀ (s : Script) id, s.prune.rest.emit names unit = .error (.stackVariable id) →
      ∃ v, v.kind = .stack ∧ v.id = id ∧ s.Uses v :=
  ⟨fun _ _ => emit_eq_ok_iff_prune, fun _ _ h => by rw [Pipeline.run_eq_self_of_emit h],
    fun _ _ => exists_uses_of_emit_prune⟩

def dropping : Script where
  id   := 7
  body := .last <| .seq
    [.assign [] (.var ⟨.stack, .int, 0⟩), .assign [⟨.frame, .int, 0⟩] (.const ⟨.int, .int 5⟩)]

def spilling : Script where
  id   := 8
  body := .last <| .seq
    [.assign [] (.compound [.var ⟨.stack, .int, 1⟩]),
      .assign [] (.compound [.var ⟨.stack, .int, 1⟩, .var ⟨.stack, .int, 2⟩])]

theorem Script.emit_dropping_prune :
    dropping.prune.rest.emit Names.unknown "  " = .ok "// 7
script7
def_int $int0 = 5;
" ∧
    (∀ t, dropping.emit Names.unknown "  " ≠ .ok t) ∧
    ((Pipeline.standard []).run ⟨"kept", [dropping.prune.rest]⟩).1.scripts.map
      (·.emit Names.unknown "  ") = [.ok "// 7\nscript7\ndef_int $int0 = 5;\n"] ∧
    spilling.prune.rest.emit Names.unknown "  " = .error (.stackVariable 1) ∧
    ∃ v, v.kind = .stack ∧ v.id = 1 ∧ spilling.Uses v := by
  have ⟨hs, hm, hu⟩ := emit_prune Names.unknown "  "
  refine ⟨rfl, fun t ht => ?_, hm _ [] fun s h => ?_, rfl, hu spilling 1 rfl⟩
  case refine_1 => exact nomatch (hs dropping t |>.mp ht).left _ (.head _)
  case refine_2 => exact List.mem_singleton.mp h ▸ ⟨_, rfl⟩

end ClientScript
