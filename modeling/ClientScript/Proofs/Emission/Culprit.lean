import ClientScript.Proofs.Emission.Blame
import ClientScript.Proofs.Occurrence

namespace ClientScript

-- The errors that are not about the shape of a part or the end of a script.
structure EmitError.Inner (x : EmitError) : Prop where
  shape : ∀ part fault, x ≠ .malformed part fault
  final : x ≠ .statementAfterReturn

-- The inner errors that an expression is a reason for by itself, whatever is nested in it.
def Expression.Causes (x : EmitError) : Expression → Prop
  | var v      => v.kind = .stack ∧ x = .stackVariable v.id
  | const c    => ∃ n, c.payload = .int n ∧ ¬c.ty.Admits n ∧ x = .decode c.ty n
  | op code .. => code.name? = none ∧ x = .unknownOpcode code
  | compound _ => False

def Mislabels (x : EmitError) (scrutinee : Expression) (labels : List Int32) : Prop :=
  ∃ ty, scrutinee.types = [ty] ∧ ∃ n ∈ labels, ¬ty.Admits n ∧ x = .decode ty n

section Causes

variable {d : Expression}

theorem Expression.exists_eq_var {id : UInt32} (h : d.Causes (.stackVariable id)) :
    ∃ v, d = .var v ∧ v.kind = .stack ∧ v.id = id := by
  cases d
  case var v    => exact ⟨v, rfl, h.left, EmitError.stackVariable.inj h.right.symm⟩
  case const    =>
    obtain ⟨_, _, _, h⟩ := h
    cases h
  case op       => exact nomatch h.right
  case compound => exact h.elim

theorem Expression.exists_eq_op {op : Opcode} (h : d.Causes (.unknownOpcode op)) :
    op.name? = none ∧ ∃ ts es, d = .op op ts es := by
  cases d
  case var              => exact nomatch h.right
  case const            =>
    obtain ⟨_, _, _, h⟩ := h
    cases h
  case op code ts es    =>
    obtain ⟨hn, h⟩ := h
    cases h
    exact ⟨hn, ts, es, rfl⟩
  case compound         => exact h.elim

theorem Expression.eq_const {ty : Ty} {n : Int32} (h : d.Causes (.decode ty n)) :
    ¬ty.Admits n ∧ d = .const ⟨ty, .int n⟩ := by
  cases d
  case var      => exact nomatch h.right
  case const c  =>
    obtain ⟨m, hp, ha, h⟩ := h
    cases h
    exact ⟨ha, by rw [← hp]⟩
  case op       => exact nomatch h.right
  case compound => exact h.elim

end Causes

section Parts

variable {x : EmitError} (hx : x.Inner)
include hx

theorem Expression.Blames.exists_part {e : Expression} (h : e.Blames x) :
    ∃ d ∈ e.parts, d.Causes x := by
  induction h
  case shape           => exact absurd rfl (hx.shape _ _)
  case const ha        => exact ⟨_, mem_parts_self _, _, rfl, ha, rfl⟩
  case var hk          => exact ⟨_, mem_parts_self _, hk, rfl⟩
  case opcode hn       => exact ⟨_, mem_parts_self _, hn, rfl⟩
  case operand he _ hi =>
    obtain ⟨d, hd, hc⟩ := hi hx
    exact ⟨d, mem_parts_op he hd, hc⟩
  case element he _ hi =>
    obtain ⟨d, hd, hc⟩ := hi hx
    exact ⟨d, mem_parts_compound he hd, hc⟩

theorem Instruction.Blames.exists_part {i : Instruction} (h : i.Blames x) :
    ∃ d ∈ i.parts, d.Causes x := by
  cases i
  case assign vs value =>
    rcases h with ⟨v, hv, h⟩ | h
    case inl =>
      obtain ⟨d, hd, hc⟩ := h.exists_part hx
      cases List.mem_singleton.mp hd
      exact ⟨_, List.mem_append_left _ (List.mem_map_of_mem hv), hc⟩
    case inr =>
      obtain ⟨d, hd, hc⟩ := h.exists_part hx
      exact ⟨d, List.mem_append_right _ hd, hc⟩
  case ret value =>
    obtain ⟨e, he, h⟩ := h
    obtain ⟨d, hd, hc⟩ := h.exists_part hx
    exact ⟨d, Expression.mem_parts_toList he hd, hc⟩

end Parts

-- Some instructions, some guards or the labels of some cases hold a reason for an error.
inductive Somewhere (x : EmitError) (is : List Instruction) (es : List Expression)
    (ls : List (Expression × List Int32)) : Prop
  | instruction {i} (mem : i ∈ is) (blames : i.Blames x)
  | guard {e} (mem : e ∈ es) (blames : e.Blames x)
  | labels {e ns} (mem : (e, ns) ∈ ls) (mislabels : Mislabels x e ns)

namespace Somewhere

variable {x : EmitError} {is js is' : List Instruction} {es ds es' : List Expression}
variable {ls ms ls' : List (Expression × List Int32)}

theorem mono (h : Somewhere x is es ls) (hi : is ⊆ is') (he : es ⊆ es') (hl : ls ⊆ ls') :
    Somewhere x is' es' ls' := by
  cases h
  case instruction hm hb => exact .instruction (hi hm) hb
  case guard hm hb       => exact .guard (he hm) hb
  case labels hm hb      => exact .labels (hl hm) hb

theorem left (h : Somewhere x is es ls) : Somewhere x (is ++ js) (es ++ ds) (ls ++ ms) :=
  h.mono (List.subset_append_left ..) (List.subset_append_left ..) (List.subset_append_left ..)

theorem right (h : Somewhere x is es ls) : Somewhere x (js ++ is) (ds ++ es) (ms ++ ls) :=
  h.mono (List.subset_append_right ..) (List.subset_append_right ..) (List.subset_append_right ..)

theorem head (h : Expression.Blames e x) : Somewhere x is (e :: es) ls :=
  .guard (.head _) h

theorem tail (h : Somewhere x is es ls) : Somewhere x is (e :: es) ls :=
  h.mono (List.Subset.refl _) (List.subset_cons_self ..) (List.Subset.refl _)

theorem label (h : Mislabels x e ns) : Somewhere x is es ((e, ns) :: ls) :=
  .labels (.head _) h

theorem later (h : Somewhere x is es ls) : Somewhere x is es ((e, ns) :: ls) :=
  h.mono (List.Subset.refl _) (List.Subset.refl _) (List.subset_cons_self ..)

end Somewhere

theorem Construct.exists_opening_eq {c : Construct} (h : c.opening = .error x) :
    ∃ part fault, x = .malformed part fault := by
  cases c
  case cond bs  => cases bs <;> cases h <;> exact ⟨_, _, rfl⟩
  case switch e =>
    rw [opening, Expression.soleType] at h
    split at h <;> cases h
    exact ⟨_, _, rfl⟩
  all_goals cases h

theorem Item.exists_refusal_eq (i : Item) :
    i.refusal = .statementAfterReturn ∨ ∃ part fault, i.refusal = .malformed part fault := by
  cases i
  case instruction => exact .inl rfl
  case block c     =>
    rw [refusal]
    split
    case h_1 h => exact .inr (Construct.exists_opening_eq h)
    case h_2   => exact .inl rfl

theorem Construct.blames_of_mem_items {c : Construct} (h : i ∈ c.items) (hb : i.Blames x) :
    c.Blames x := by
  cases c
  case seq is =>
    obtain ⟨j, hj, rfl⟩ := List.mem_map.mp h
    exact ⟨j, hj, hb⟩
  all_goals
    cases List.mem_singleton.mp h
    exact hb

theorem Chain.blames_of_mem_items (c : Chain) (h : i ∈ c.items) (hb : i.Blames x) : c.Blames x := by
  match c with
  | last _      => exact Construct.blames_of_mem_items h hb
  | link _ rest =>
    exact (List.mem_append.mp h).imp (Construct.blames_of_mem_items · hb)
      (rest.blames_of_mem_items · hb)

mutual

theorem Chain.Blames.somewhere (hx : x.Inner) : (c : Chain) → c.Blames x →
    Somewhere x c.instructions c.guards c.labelled
  | .last c,    h      => Construct.Blames.somewhere hx c h
  | .link c _,  .inl h => (Construct.Blames.somewhere hx c h).left
  | .link _ cs, .inr h => (Chain.Blames.somewhere hx cs h).right

theorem Construct.Blames.somewhere (hx : x.Inner) : (c : Construct) → c.Blames x →
    Somewhere x c.instructions c.guards c.labelled
  | .seq _,       h      => .instruction h.choose_spec.left h.choose_spec.right
  | .cond _,      .inl h => by
    obtain ⟨_, _, he⟩ := Construct.exists_opening_eq h
    exact absurd he (hx.shape _ _)
  | .cond bs,     .inr h => Branches.Blames.somewhere hx bs h
  | .loop _ _,    .inl h => .head h
  | .loop _ body, .inr h => (Chain.Blames.somewhere hx body h).tail
  | .switch _ _,  .inl h => .head h
  | .switch _ cs, .inr h =>
    (Cases.Blames.somewhere hx cs h.choose_spec.left h.choose_spec.right).tail

theorem Branches.Blames.somewhere (hx : x.Inner) : (bs : Branches) → bs.Blames x →
    Somewhere x bs.instructions bs.guards bs.labelled
  | .done,            h             => h.elim
  | .otherwise body,  h             => Chain.Blames.somewhere hx body h
  | .branch _ _ _,    .inl h        => .head h
  | .branch _ body _, .inr (.inl h) => (Chain.Blames.somewhere hx body h).left.tail
  | .branch _ _ rest, .inr (.inr h) => (Branches.Blames.somewhere hx rest h).right.tail

theorem Cases.Blames.somewhere (hx : x.Inner) : (cs : Cases) → ∀ {e ty}, e.types = [ty] →
    cs.Blames x ty → Somewhere x cs.instructions cs.guards (cs.labelled e)
  | .done,           _, _, _,  h                    => h.elim
  | .otherwise body, _, _, _,  h                    => Chain.Blames.somewhere hx body h
  | .case _ _ _,     _, _, _,  .inl h               => absurd h.right (hx.shape _ _)
  | .case _ _ _,     _, _, ht, .inr (.inl h)        => .label ⟨_, ht, h⟩
  | .case _ body _,  _, _, _,  .inr (.inr (.inl h)) =>
    (Chain.Blames.somewhere hx body h).left.later
  | .case _ _ rest,  _, _, ht, .inr (.inr (.inr h)) =>
    (Cases.Blames.somewhere hx rest ht h).right.later

end

-- The reason for an inner error stands in an instruction, in a guard or in a label of the script.
theorem Script.Blames.exists_part {s : Script} (hx : x.Inner) (h : s.Blames x) :
    (∃ i ∈ s.instructions, ∃ d ∈ i.parts, d.Causes x) ∨
      (∃ e ∈ s.body.guards, ∃ d ∈ e.parts, d.Causes x) ∨
      ∃ l ∈ s.body.labelled, Mislabels x l.1 l.2 := by
  cases h
  case argument       => exact absurd rfl (hx.shape _ _)
  case refusal i _ hi =>
    rcases i.exists_refusal_eq with he | ⟨_, _, he⟩
    case inl => exact absurd (hi.symm.trans he) hx.final
    case inr => exact absurd (hi.symm.trans he) (hx.shape _ _)
  case item i hi hb   =>
    have hm : i ∈ s.body.items := items_eq_append ▸ List.mem_append_left _ hi
    have hc := Chain.Blames.somewhere hx s.body (s.body.blames_of_mem_items hm hb)
    cases hc
    case instruction hj hb => exact .inl ⟨_, hj, hb.exists_part hx⟩
    case guard he hb       => exact .inr (.inl ⟨_, he, hb.exists_part hx⟩)
    case labels hl hb      => exact .inr (.inr ⟨_, hl, hb⟩)

end ClientScript
