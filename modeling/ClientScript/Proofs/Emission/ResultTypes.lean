import ClientScript.Proofs.Dump.Instruction
import ClientScript.Proofs.Emission.Congruence
import ClientScript.Proofs.Flattening
import ClientScript.Proofs.Prune

namespace ClientScript

open List (Forall₂)

def Expression.Retyped (e f : Expression) : Prop :=
  e.untyped = f.untyped

-- Only inside of operations are types of operations different.
def Expression.RetypedInside (e f : Expression) : Prop :=
  e.Retyped f ∧ e.leaves.map types = f.leaves.map types

-- Scripts that are the same but for types of operations. Where a `switch` looks at values, the types
-- of those values are the same.
def Script.Retyped (s t : Script) : Prop :=
  s.Replaced Expression.Retyped Expression.RetypedInside t

namespace Expression

variable {names : Names} {e f : Expression}

theorem untyped_untyped (e : Expression) : e.untyped.untyped = e.untyped := by
  induction e
  case var v            => rfl
  case const c          => rfl
  case op code ts es hi =>
    rw [untyped, untyped, allUntyped_eq_map, allUntyped_eq_map, List.map_map]
    exact congrArg (op code []) (List.map_congr_left hi)
  case compound es hi   =>
    rw [untyped, untyped, allUntyped_eq_map, allUntyped_eq_map, List.map_map]
    exact congrArg compound (List.map_congr_left hi)

theorem constant?_untyped (e : Expression) : e.untyped.constant? = e.constant? := by
  cases e <;> rfl

theorem toList_untyped (e : Expression) : e.untyped.toList = e.toList.map untyped := by
  cases e
  case compound es => exact allUntyped_eq_map es
  all_goals rfl

theorem Retyped.refl (e : Expression) : e.Retyped e :=
  rfl

theorem Retyped.dump_eq (h : e.Retyped f) : e.dump = f.dump := by
  rw [← e.dump_untyped, h, f.dump_untyped]

theorem operands_untyped_like {es : List Expression}
    (h : ∀ e ∈ es, e.untyped.text names inCalc = e.text names inCalc) :
    Forall₂ (Operand.Like Retyped names names) (operands names inCalc (es.map untyped))
      (operands names inCalc es) := by
  rw [operands_eq_map, operands_eq_map, List.map_map, List.forall₂_map_left_iff,
    List.forall₂_map_right_iff, List.forall₂_same]
  exact fun e he => ⟨e.untyped_untyped, e.constant?_untyped, h e he ▸ .refl _⟩

-- Expressions that are quoted look the same, so that agreement is equality.
theorem eq_of_agree_retyped {x y : Except EmitError α} (h : Agree Retyped names names x y) : x = y :=
  (h.mono (fun _ _ => EmitError.Quoting.eq fun _ _ => Retyped.dump_eq) fun _ _ h => h rfl).eq

theorem text_untyped (e : Expression) : e.untyped.text names inCalc = e.text names inCalc := by
  induction e generalizing inCalc
  case var v            => rfl
  case const c          => rfl
  case op code ts es hi =>
    rw [untyped, text, text, allUntyped_eq_map]
    exact eq_of_agree_retyped <| Opcode.operationText_agree <|
      operands_untyped_like fun e he => hi e he
  case compound es hi   =>
    rw [untyped, text, text, allUntyped_eq_map]
    exact eq_of_agree_retyped <| Operand.listed_agree <| operands_untyped_like fun e he => hi e he

theorem grouped_untyped (e : Expression) :
    Operand.grouped (operands names inCalc e.untyped.toList) =
      Operand.grouped (operands names inCalc e.toList) := by
  rw [toList_untyped]
  exact eq_of_agree_retyped <| Operand.grouped_agree <|
    operands_untyped_like fun e _ => e.text_untyped

theorem RetypedInside.types_eq (h : e.RetypedInside f) : e.types = f.types := by
  have flatten : ∀ e : Expression, e.types = (e.leaves.map types).flatten := fun e => by
    rw [← List.flatMap_def, ← typesOf_eq_flatMap, typesOf_leaves]
  rw [flatten e, flatten f, h.right]

theorem exchangeable_retyped : Exchangeable Retyped RetypedInside names names where
  text {e f} h := by
    rw [← e.text_untyped, h, f.text_untyped]
    exact .refl _
  list {e f} h := by
    rw [← e.grouped_untyped, h, f.grouped_untyped]
    exact .refl _
  switch h     := h.left
  types h      := h.types_eq

end Expression

theorem Instruction.Replaced.untyped_eq {i j : Instruction}
    (h : i.Replaced Expression.Retyped j) : i.untyped = j.untyped := by
  cases h
  case assign vs _ _ h => exact congrArg (Instruction.assign vs) h
  case ret h           => exact congrArg Instruction.ret h

theorem map_eq_of_retyped {g : Instruction → α} {is js : List Instruction}
    (hg : ∀ i, g i.untyped = g i) (h : Forall₂ (Instruction.Replaced Expression.Retyped) is js) :
    is.map g = js.map g := by
  induction h
  case nil         => rfl
  case cons h _ hi => rw [List.map_cons, List.map_cons, hi, ← hg, h.untyped_eq, hg]

theorem Instruction.isDiscard_untyped (i : Instruction) : i.untyped.isDiscard = i.isDiscard := by
  rcases i with ⟨_ | ⟨v, vs⟩, value⟩ | value
  case assign.nil =>
    rcases value with _ | _ | _ | ⟨_ | ⟨e, _ | ⟨f, es⟩⟩⟩
    case compound.cons.nil  => cases e <;> rfl
    case compound.cons.cons => cases e <;> rfl
    all_goals rfl
  all_goals rfl

section Dump

open Expression (Retyped RetypedInside)

mutual

theorem Chain.Replaced.dumpLines_eq : {c d : Chain} → c.Replaced Retyped RetypedInside d →
    c.dumpLines = d.dumpLines
  | _, _, .last h      => h.dumpLines_eq
  | _, _, .link h rest => by
    rw [Chain.dumpLines, Chain.dumpLines, h.dumpLines_eq, rest.dumpLines_eq]

theorem Construct.Replaced.dumpLines_eq : {c d : Construct} → c.Replaced Retyped RetypedInside d →
    c.dumpLines = d.dumpLines
  | _, _, .seq h          => map_eq_of_retyped (fun i => congrArg Line.flat i.dump_untyped) h
  | _, _, .cond h         => h.dumpLines_eq
  | _, _, .loop h body    => by
    rw [Construct.dumpLines, Construct.dumpLines, h.dump_eq, body.dumpLines_eq]
  | _, _, .switch h cases => by
    rw [Construct.dumpLines, Construct.dumpLines, h.left.dump_eq, cases.dumpLines_eq]

theorem Branches.Replaced.dumpLines_eq : {as bs : Branches} → as.Replaced Retyped RetypedInside bs →
    ∀ {keyword}, as.dumpLines keyword = bs.dumpLines keyword
  | _, _, .done,               _ => rfl
  | _, _, .otherwise body,     _ => by
    rw [Branches.dumpLines, Branches.dumpLines, body.dumpLines_eq]
  | _, _, .branch h body rest, _ => by
    rw [Branches.dumpLines, Branches.dumpLines, h.dump_eq, body.dumpLines_eq, rest.dumpLines_eq]

theorem Cases.Replaced.dumpLines_eq : {as bs : Cases} → as.Replaced Retyped RetypedInside bs →
    as.dumpLines = bs.dumpLines
  | _, _, .done           => rfl
  | _, _, .otherwise body => by rw [Cases.dumpLines, Cases.dumpLines, body.dumpLines_eq]
  | _, _, .case body rest => by
    rw [Cases.dumpLines, Cases.dumpLines, body.dumpLines_eq, rest.dumpLines_eq]

end

end Dump

namespace Script.Retyped

variable {s t : Script} (h : s.Retyped t)
include h

theorem emit_eq {names : Names} {unit : String} : s.emit names unit = t.emit names unit :=
  (h.emit_alike Expression.exchangeable_retyped |>.mono
    (fun _ _ => EmitError.Quoting.eq fun _ _ => Expression.Retyped.dump_eq)
    fun _ _ he => he ⟨rfl, rfl⟩).eq

theorem dump_eq : s.dump = t.dump := by
  rw [dump, dump, dumpLines, dumpLines, dumpHeader, dumpHeader, h.id, h.arguments, h.returns,
    h.body.dumpLines_eq]

theorem isDiscard_eq : s.instructions.map (·.isDiscard) = t.instructions.map (·.isDiscard) :=
  map_eq_of_retyped Instruction.isDiscard_untyped h.body.instructions

theorem removed_eq : s.prune.removed = t.prune.removed := by
  have count : ∀ s : Script,
      s.prune.removed = (s.instructions.map (·.isDiscard)).countP (fun b => b) := by
    intro s
    rw [s.removed_prune, List.countP_map]
    rfl
  rw [count s, count t, h.isDiscard_eq]

end Script.Retyped

-- Types of operations matter only where a `switch` looks at the values that they are the types of.
-- Scripts that differ in others cannot be told apart: not by their texts, not by why they have none, not
-- by their dumps, and not by what pruning does.
theorem Script.eq_of_retyped {s t : Script} (h : s.Retyped t) (names : Names) (unit : String) :
    s.emit names unit = t.emit names unit ∧ s.dump = t.dump ∧
    s.instructions.map (·.isDiscard) = t.instructions.map (·.isDiscard) ∧
    s.prune.removed = t.prune.removed :=
  ⟨h.emit_eq, h.dump_eq, h.isDiscard_eq, h.removed_eq⟩

-- Looks at what a command gives, does `more` then, and switches over a sum. `inner` are the types that
-- stand inside of operations or where nothing looks at them, and `shown` are those of the sum.
def Script.weighing (more : List Instruction) (inner shown : List Ty) : Script where
  id   := 9
  body :=
    let number (n : Int32) := Expression.const ⟨.int, .int n⟩
    let command := Expression.op ⟨3100⟩ inner [number 2]
    .link (.cond (.branch (.op ⟨8⟩ inner [command, number 1])
        (.last (.seq (.assign [] command :: more))) .done)) <|
      .last <| .switch (.compound [.op ⟨4000⟩ shown [command, number 1]]) .done

theorem Script.weighing_retyped (more : List Instruction) (inner inner' shown : List Ty) :
    (weighing more inner shown).Retyped (weighing more inner' shown) where
  id        := rfl
  arguments := rfl
  returns   := rfl
  body      :=
    have same : Forall₂ (Instruction.Replaced Expression.Retyped) more more :=
      List.forall₂_same.mpr fun i _ => .refl Expression.Retyped.refl i
    .link (.cond (.branch rfl (.last (.seq (.cons (.assign rfl) same))) .done))
      (.last (.switch ⟨rfl, rfl⟩ .done))

def Script.spill : Instruction :=
  .assign [] (.var ⟨.stack, .int, 0⟩)

def Script.weighingText : String :=
  "// 9\nscript9\nif (mes(2) = 1) \x7b\n  mes(2);\n\x7d\n" ++
    "switch_int (calc(mes(2) + 1)) \x7b\n\x7d\n"

theorem Script.weighing_eq :
    (weighing [] [] [.int]).emit Names.unknown "  " = .ok weighingText ∧
    (weighing [] [.string] [.int]).emit Names.unknown "  " = .ok weighingText ∧
    (weighing [] [] [.boolean]).emit Names.unknown "  " ≠ .ok weighingText ∧
    (weighing [spill] [] [.int]).emit Names.unknown "  " = .error (.stackVariable 0) ∧
    (weighing [spill] [.string] [.int]).emit Names.unknown "  " = .error (.stackVariable 0) ∧
    (weighing [spill] [] [.int]).dump = (weighing [spill] [.string] [.int]).dump ∧
    (weighing [spill] [] [.int]).prune.removed = 1 ∧
    (weighing [spill] [.string] [.int]).prune.removed = 1 := by
  have text := eq_of_retyped (weighing_retyped [] [] [.string] [.int]) Names.unknown "  "
  have ⟨error, dump, _, removed⟩ :=
    eq_of_retyped (weighing_retyped [spill] [] [.string] [.int]) Names.unknown "  "
  have ht : (weighing [] [] [.int]).emit Names.unknown "  " = .ok weighingText := by decide +kernel
  exact ⟨ht, text.left.symm.trans ht, by decide +kernel, rfl, error.symm, dump, rfl, removed.symm⟩

end ClientScript
