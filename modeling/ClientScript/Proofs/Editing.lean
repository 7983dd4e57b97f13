import ClientScript.Editing
import ClientScript.Proofs.Pipeline

namespace ClientScript

namespace Edit

def applyAll : List Edit → Module → Option (Pruned Module)
  | [],      m => some (.intact m)
  | e :: es, m => do
    let p ← e.apply m
    let q ← applyAll es p.rest
    return { rest := q.rest, removed := p.removed + q.removed }

def builds : Edit → Bool
  | add _     => true
  | append .. => true
  | _         => false

def brings : Edit → List Instruction
  | add s      => s.instructions
  | append _ c => c.instructions
  | _          => []

def Fits (n : Nat) : Edit → Prop
  | append index _ => index < n
  | prune index    => index < n
  | _              => True

def grow (n : Nat) : Edit → Nat
  | add _ => n + 1
  | _     => n

def AllFit : Nat → List Edit → Prop
  | _, []      => True
  | n, e :: es => e.Fits n ∧ AllFit (e.grow n) es

-- An edit that brings no discards.
def pruned : Edit → Edit
  | add s          => add s.prune.rest
  | append index c => append index c.prune.rest
  | e              => e

end Edit

theorem Script.instructions_andThen (s : Script) (c : Chain) :
    ({ s with body := s.body.andThen c } : Script).instructions =
      s.instructions ++ c.instructions :=
  Chain.instructions_andThen s.body c

theorem Script.rest_prune_andThen (s : Script) (c : Chain) :
    ({ s with body := s.body.andThen c } : Script).prune.rest =
      { s.prune.rest with body := s.prune.rest.body.andThen c.prune.rest } :=
  congrArg (fun body => { s with body }) (s.body.prune_andThen c)

namespace Module

variable {m m' : Module} {s : Script} {p : Pruned Module}

theorem appendTo?_eq_some_iff : m.appendTo? index c = some m' ↔
    ∃ s, m.scripts[index]? = some s ∧
      { m with scripts := m.scripts.set index { s with body := s.body.andThen c } } = m' := by
  simp only [appendTo?, bind, Option.bind_eq_some_iff, pure, Option.some.injEq]

theorem pruneAt?_eq_some_iff : m.pruneAt? index = some p ↔
    ∃ s, m.scripts[index]? = some s ∧
      (s.prune.map fun s => { m with scripts := m.scripts.set index s }) = p := by
  simp only [pruneAt?, bind, Option.bind_eq_some_iff, pure, Option.some.injEq]

theorem countP_set (h : m.scripts[index]? = some s) (s' : Script) :
    ({ m with scripts := m.scripts.set index s' } : Module).instructions.countP (·.isDiscard) +
        s.instructions.countP (·.isDiscard) =
      m.instructions.countP (·.isDiscard) + s'.instructions.countP (·.isDiscard) := by
  obtain ⟨hl, hs⟩ := List.getElem?_eq_some_iff.mp h
  obtain ⟨front, back, hm, _, hr⟩ : ∃ front back, m.scripts = front ++ m.scripts[index] :: back ∧
      front.length = index ∧ m.scripts.set index s' = front ++ s' :: back := List.exists_of_set hl
  rw [hs] at hm
  rw [instructions, instructions, hr, hm]
  simp only [List.flatMap_append, List.flatMap_cons, List.countP_append]
  omega

theorem rest_prune_set (m : Module) (index : Nat) (s : Script) :
    ({ m with scripts := m.scripts.set index s } : Module).prune.rest =
      { m with scripts := m.prune.rest.scripts.set index s.prune.rest } := by
  rw [rest_prune, rest_prune, List.map_set]

theorem getElem?_rest_prune {index : Nat} (h : m.scripts[index]? = some s) :
    m.prune.rest.scripts[index]? = some s.prune.rest := by
  rw [rest_prune, List.getElem?_map, h, Option.map_some]

theorem length_rest_prune (m : Module) : m.prune.rest.scripts.length = m.scripts.length := by
  rw [rest_prune, List.length_map]

end Module

namespace Edit

variable {m m' : Module} {p : Pruned Module} {e : Edit}

theorem exists_apply_eq (h : e.Fits m.scripts.length) :
    ∃ p, e.apply m = some p ∧ p.rest.scripts.length = e.grow m.scripts.length := by
  cases e
  case add s          => exact ⟨_, rfl, List.length_append⟩
  case append index c =>
    have hs := Module.appendTo?_eq_some_iff (c := c).mpr ⟨_, List.getElem?_eq_getElem h, rfl⟩
    exact ⟨_, congrArg (Option.map _) hs, List.length_set⟩
  case prune index    =>
    have hs := Module.pruneAt?_eq_some_iff.mpr ⟨_, List.getElem?_eq_getElem h, rfl⟩
    exact ⟨_, hs, List.length_set⟩
  case pruneAll       => exact ⟨_, rfl, m.length_rest_prune⟩
  case run ps         =>
    refine ⟨_, rfl, ?_⟩
    change (ps.run m).1.scripts.length = m.scripts.length
    rw [Pipeline.rest_run, apply_ite fun m : Module => m.scripts.length, m.length_rest_prune, ite_self]

theorem fits_of_apply (h : e.apply m = some p) : e.Fits m.scripts.length := by
  cases e
  case append =>
    obtain ⟨_, hm, _⟩ := Option.map_eq_some_iff.mp h
    obtain ⟨_, hs, _⟩ := Module.appendTo?_eq_some_iff.mp hm
    exact (List.getElem?_eq_some_iff.mp hs).fst
  case prune  =>
    obtain ⟨_, hs, _⟩ := Module.pruneAt?_eq_some_iff.mp h
    exact (List.getElem?_eq_some_iff.mp hs).fst
  all_goals trivial

-- An edit that builds does the same to what is left of a module as to the module.
theorem apply_pruned (hb : e.builds) (h : e.apply m = some p) :
    e.pruned.apply m.prune.rest = some (.intact p.rest.prune.rest) := by
  cases e
  case add s          =>
    obtain rfl := Option.some.inj h
    simp only [pruned, apply, Pruned.intact, Module.rest_prune, List.map_append, List.map_cons,
      List.map_nil]
  case append index c =>
    obtain ⟨m', hm, rfl⟩ := Option.map_eq_some_iff.mp h
    obtain ⟨s, hs, rfl⟩ := Module.appendTo?_eq_some_iff.mp hm
    have hr := Module.getElem?_rest_prune hs
    refine congrArg (Option.map _) (Module.appendTo?_eq_some_iff.mpr ⟨_, hr, ?_⟩)
    rw [← Script.rest_prune_andThen]
    exact (Module.rest_prune_set m index _).symm
  all_goals contradiction

theorem rest_prune_of_apply (hb : ¬e.builds) (h : e.apply m = some p) :
    p.rest.prune.rest = m.prune.rest := by
  cases e
  case add            => exact absurd rfl hb
  case append         => exact absurd rfl hb
  case prune index    =>
    obtain ⟨s, hs, rfl⟩ := Module.pruneAt?_eq_some_iff.mp h
    obtain ⟨hl, hr⟩ := List.getElem?_eq_some_iff.mp (Module.getElem?_rest_prune hs)
    refine (Module.rest_prune_set m index s.prune.rest).trans ?_
    rw [Script.prune_prune, ← hr, List.set_getElem_self]
    rfl
  case pruneAll       =>
    obtain rfl := Option.some.inj h
    exact Module.prune_prune
  case run ps         =>
    obtain rfl := Option.some.inj h
    change (ps.run m).1.prune.rest = _
    rw [Pipeline.rest_run, apply_ite fun m : Module => m.prune.rest, Module.prune_prune, ite_self]

-- Discards come into a module with the edits that build, and leave it with those that prune.
theorem removed_apply (h : e.apply m = some p) :
    p.removed + p.rest.instructions.countP (·.isDiscard) =
      m.instructions.countP (·.isDiscard) + e.brings.countP (·.isDiscard) := by
  cases e
  case add s          =>
    obtain rfl := Option.some.inj h
    rw [← List.countP_append, Pruned.intact, Nat.zero_add, Module.instructions,
      List.flatMap_append, List.flatMap_singleton]
    rfl
  case append index c =>
    obtain ⟨m', hm, rfl⟩ := Option.map_eq_some_iff.mp h
    obtain ⟨s, hs, rfl⟩ := Module.appendTo?_eq_some_iff.mp hm
    have hd := Module.countP_set hs { s with body := s.body.andThen c }
    rw [Script.instructions_andThen, List.countP_append] at hd
    dsimp only [Pruned.intact, brings]
    omega
  case prune index    =>
    obtain ⟨s, hs, rfl⟩ := Module.pruneAt?_eq_some_iff.mp h
    have hd := Module.countP_set hs s.prune.rest
    rw [s.countP_prune] at hd
    change s.prune.removed + _ = _
    rw [s.removed_prune, Nat.add_comm]
    exact hd
  case pruneAll       =>
    obtain rfl := Option.some.inj h
    rw [Module.removed_prune, Module.countP_prune]; rfl
  case run ps         =>
    obtain rfl := Option.some.inj h
    exact ps.removed_run m

-- What an edit that builds leaves of a module depends on what is left of it before.
theorem exists_apply_of_rest_prune_eq (hb : e.builds) (h : e.apply m = some p)
    (hm : m.prune.rest = m'.prune.rest) :
    ∃ p', e.apply m' = some p' ∧ p.rest.prune.rest = p'.rest.prune.rest := by
  have hf : e.Fits m'.scripts.length := by
    rw [← m'.length_rest_prune, ← hm, m.length_rest_prune]
    exact fits_of_apply h
  obtain ⟨p', h', _⟩ := exists_apply_eq hf
  have hr := apply_pruned hb h
  rw [hm, apply_pruned hb h'] at hr
  exact ⟨p', h', congrArg (·.rest) (Option.some.inj hr).symm⟩

variable {es : List Edit}

theorem applyAll_cons_eq_some_iff : applyAll (e :: es) m = some p ↔
    ∃ q r, e.apply m = some q ∧ applyAll es q.rest = some r ∧
      { rest := r.rest, removed := q.removed + r.removed } = p := by
  simp only [applyAll, bind, Option.bind_eq_some_iff, pure, Option.some.injEq, exists_and_left]

theorem applyAll_concat (h : applyAll es m = some p) :
    applyAll (es ++ [pruneAll]) m =
      some { rest := p.rest.prune.rest, removed := p.removed + p.rest.prune.removed } := by
  induction es generalizing m p
  case nil          =>
    obtain rfl := Option.some.inj h
    exact congrArg (fun n => some (Pruned.mk m.prune.rest n)) (Nat.add_comm m.prune.removed 0)
  case cons e es hi =>
    obtain ⟨q, r, hq, hr, rfl⟩ := applyAll_cons_eq_some_iff.mp h
    refine applyAll_cons_eq_some_iff.mpr ⟨q, _, hq, hi hr, ?_⟩
    rw [Nat.add_assoc]

theorem exists_applyAll_eq (h : AllFit m.scripts.length es) : ∃ p, applyAll es m = some p := by
  induction es generalizing m
  case nil          => exact ⟨_, rfl⟩
  case cons e es hi =>
    obtain ⟨p, hp, hl⟩ := exists_apply_eq h.left
    obtain ⟨q, hq⟩ := hi (hl ▸ h.right)
    exact ⟨_, applyAll_cons_eq_some_iff.mpr ⟨p, q, hp, hq, rfl⟩⟩

theorem rest_prune_applyAll (h : applyAll es m = some p) (hm : m.prune.rest = m'.prune.rest) :
    ∃ p', applyAll (es.filter (·.builds)) m' = some p' ∧
      p.rest.prune.rest = p'.rest.prune.rest := by
  induction es generalizing m m' p
  case nil          =>
    obtain rfl := Option.some.inj h
    exact ⟨_, rfl, hm⟩
  case cons e es hi =>
    obtain ⟨q, r, hq, hr, rfl⟩ := applyAll_cons_eq_some_iff.mp h
    by_cases hb : e.builds
    case pos =>
      obtain ⟨q', hq', hm⟩ := exists_apply_of_rest_prune_eq hb hq hm
      obtain ⟨r', hr', h'⟩ := hi hr hm
      rw [List.filter_cons_of_pos hb]
      exact ⟨_, applyAll_cons_eq_some_iff.mpr ⟨q', r', hq', hr', rfl⟩, h'⟩
    case neg =>
      rw [List.filter_cons_of_neg hb]
      exact hi (p := r) hr ((rest_prune_of_apply hb hq).trans hm)

theorem removed_applyAll (h : applyAll es m = some p) :
    p.removed + p.rest.instructions.countP (·.isDiscard) =
      m.instructions.countP (·.isDiscard) + (es.flatMap brings).countP (·.isDiscard) := by
  induction es generalizing m p
  case nil          =>
    obtain rfl := Option.some.inj h
    exact Nat.zero_add _
  case cons e es hi =>
    obtain ⟨q, r, hq, hr, rfl⟩ := applyAll_cons_eq_some_iff.mp h
    have hs := removed_apply hq
    have ht := hi hr
    rw [List.flatMap_cons, List.countP_append]
    dsimp only
    omega

-- At the end nothing but the parts that came in shows, and every discard in them has been counted.
theorem applyAll_pruneAll (m : Module) (es : List Edit) (h : AllFit m.scripts.length es) :
    ∃ p q,
      applyAll (es ++ [pruneAll]) m = some p ∧
      applyAll (es.filter (·.builds) ++ [pruneAll]) m = some q ∧
      p.rest = q.rest ∧
      p.removed = (m.instructions ++ es.flatMap brings).countP (·.isDiscard) := by
  obtain ⟨p, hp⟩ := exists_applyAll_eq h
  obtain ⟨q, hq, hr⟩ := rest_prune_applyAll hp rfl
  refine ⟨_, _, applyAll_concat hp, applyAll_concat hq, hr, ?_⟩
  rw [List.countP_append, ← removed_applyAll hp, Module.removed_prune]

def growing : List Edit := [
  add { id := 3, body := .last <| .seq [.assign [] (.var ⟨.stack, .int, 0⟩), .ret (.compound [])] },
  prune 0,
  append 0 <| .last <| .seq [.assign [] (.var ⟨.stack, .string, 1⟩)],
  run [.deleteNops, .deleteNops]]

theorem applyAll_growing :
    AllFit 0 growing ∧
    ∃ p q,
      applyAll (growing ++ [pruneAll]) ⟨"grown", []⟩ = some p ∧
      applyAll (growing.filter (·.builds) ++ [pruneAll]) ⟨"grown", []⟩ = some q ∧
      p.rest = q.rest ∧ p.removed = 2 := by
  have h : AllFit 0 growing := ⟨trivial, Nat.zero_lt_one, Nat.zero_lt_one, trivial, trivial⟩
  exact ⟨h, applyAll_pruneAll ⟨"grown", []⟩ growing h⟩

end Edit

end ClientScript
