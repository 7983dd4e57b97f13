import ClientScript.Proofs.Emission.Elision
import Mathlib.Data.List.Forall2

namespace ClientScript

open List (Forall₂)

-- Scripts that are the same but for their expressions: `W` relates those that stand in the same place,
-- and `S` those that a `switch` looks at.

section Relations

variable (W S : Expression → Expression → Prop)

inductive Instruction.Replaced : Instruction → Instruction → Prop
  | assign {vs e f} (h : W e f) : Instruction.Replaced (.assign vs e) (.assign vs f)
  | ret {e f} (h : W e f) : Instruction.Replaced (.ret e) (.ret f)

mutual

inductive Chain.Replaced : Chain → Chain → Prop
  | last {c d} (h : Construct.Replaced c d) : Chain.Replaced (.last c) (.last d)
  | link {c d a b} (h : Construct.Replaced c d) (rest : Chain.Replaced a b) :
    Chain.Replaced (.link c a) (.link d b)

inductive Construct.Replaced : Construct → Construct → Prop
  | seq {is js} (h : Forall₂ (Instruction.Replaced W) is js) :
    Construct.Replaced (.seq is) (.seq js)
  | cond {as bs} (h : Branches.Replaced as bs) : Construct.Replaced (.cond as) (.cond bs)
  | loop {e f a b} (h : W e f) (body : Chain.Replaced a b) :
    Construct.Replaced (.loop e a) (.loop f b)
  | switch {e f as bs} (h : S e f) (cases : Cases.Replaced as bs) :
    Construct.Replaced (.switch e as) (.switch f bs)

inductive Branches.Replaced : Branches → Branches → Prop
  | done : Branches.Replaced .done .done
  | otherwise {a b} (body : Chain.Replaced a b) :
    Branches.Replaced (.otherwise a) (.otherwise b)
  | branch {e f a b as bs} (h : W e f) (body : Chain.Replaced a b)
    (rest : Branches.Replaced as bs) : Branches.Replaced (.branch e a as) (.branch f b bs)

inductive Cases.Replaced : Cases → Cases → Prop
  | done : Cases.Replaced .done .done
  | otherwise {a b} (body : Chain.Replaced a b) : Cases.Replaced (.otherwise a) (.otherwise b)
  | case {ns a b as bs} (body : Chain.Replaced a b) (rest : Cases.Replaced as bs) :
    Cases.Replaced (.case ns a as) (.case ns b bs)

end

inductive Item.Replaced : Item → Item → Prop
  | instruction {i j} (h : i.Replaced W j) : Item.Replaced (.instruction i) (.instruction j)
  | block {c d} (h : c.Replaced W S d) : Item.Replaced (.block c) (.block d)

structure Script.Replaced (s t : Script) : Prop where
  id        : s.id = t.id
  arguments : s.arguments = t.arguments
  returns   : s.returns = t.returns
  body      : s.body.Replaced W S t.body

end Relations

variable {W S : Expression → Expression → Prop}

section Refl

theorem Instruction.Replaced.refl (hW : ∀ e, W e e) : (i : Instruction) → i.Replaced W i
  | .assign _ e => .assign (hW e)
  | .ret e      => .ret (hW e)

mutual

theorem Chain.Replaced.refl (hW : ∀ e, W e e) (hS : ∀ e, S e e) : (c : Chain) → c.Replaced W S c
  | .last c      => .last (.refl hW hS c)
  | .link c rest => .link (.refl hW hS c) (.refl hW hS rest)

theorem Construct.Replaced.refl (hW : ∀ e, W e e) (hS : ∀ e, S e e) :
    (c : Construct) → c.Replaced W S c
  | .seq _       => .seq (List.forall₂_same.mpr fun i _ => .refl hW i)
  | .cond bs     => .cond (.refl hW hS bs)
  | .loop e body => .loop (hW e) (.refl hW hS body)
  | .switch e cs => .switch (hS e) (.refl hW hS cs)

theorem Branches.Replaced.refl (hW : ∀ e, W e e) (hS : ∀ e, S e e) :
    (bs : Branches) → bs.Replaced W S bs
  | .done               => .done
  | .otherwise body     => .otherwise (.refl hW hS body)
  | .branch e body rest => .branch (hW e) (.refl hW hS body) (.refl hW hS rest)

theorem Cases.Replaced.refl (hW : ∀ e, W e e) (hS : ∀ e, S e e) : (cs : Cases) → cs.Replaced W S cs
  | .done             => .done
  | .otherwise body   => .otherwise (.refl hW hS body)
  | .case _ body rest => .case (.refl hW hS body) (.refl hW hS rest)

end

theorem Script.Replaced.refl (hW : ∀ e, W e e) (hS : ∀ e, S e e) (s : Script) : s.Replaced W S s :=
  ⟨rfl, rfl, rfl, .refl hW hS s.body⟩

end Refl

mutual

theorem Chain.Replaced.instructions : {c d : Chain} → c.Replaced W S d →
    Forall₂ (Instruction.Replaced W) c.instructions d.instructions
  | _, _, .last h      => h.instructions
  | _, _, .link h rest => List.rel_append h.instructions rest.instructions

theorem Construct.Replaced.instructions : {c d : Construct} → c.Replaced W S d →
    Forall₂ (Instruction.Replaced W) c.instructions d.instructions
  | _, _, .seq h          => h
  | _, _, .cond h         => h.instructions
  | _, _, .loop _ body    => body.instructions
  | _, _, .switch _ cases => cases.instructions

theorem Branches.Replaced.instructions : {as bs : Branches} → as.Replaced W S bs →
    Forall₂ (Instruction.Replaced W) as.instructions bs.instructions
  | _, _, .done               => .nil
  | _, _, .otherwise body     => body.instructions
  | _, _, .branch _ body rest => List.rel_append body.instructions rest.instructions

theorem Cases.Replaced.instructions : {as bs : Cases} → as.Replaced W S bs →
    Forall₂ (Instruction.Replaced W) as.instructions bs.instructions
  | _, _, .done           => .nil
  | _, _, .otherwise body => body.instructions
  | _, _, .case body rest => List.rel_append body.instructions rest.instructions

end

theorem Construct.Replaced.items {c d : Construct} (h : c.Replaced W S d) :
    Forall₂ (Item.Replaced W S) c.items d.items := by
  cases h
  case seq h =>
    exact List.forall₂_map_left_iff.mpr <| List.forall₂_map_right_iff.mpr <|
      h.imp fun _ _ => .instruction
  case cond h         => exact .cons (.block (.cond h)) .nil
  case loop h body    => exact .cons (.block (.loop h body)) .nil
  case switch h cases => exact .cons (.block (.switch h cases)) .nil

theorem Chain.Replaced.items : {c d : Chain} → c.Replaced W S d →
    Forall₂ (Item.Replaced W S) c.items d.items
  | _, _, .last h      => h.items
  | _, _, .link h rest => List.rel_append h.items rest.items

theorem Item.Replaced.instructions {i j : Item} (h : i.Replaced W S j) :
    Forall₂ (Instruction.Replaced W) i.instructions j.instructions := by
  cases h
  case instruction h => exact .cons h .nil
  case block h       => exact h.instructions

theorem Item.Replaced.isReturn {i j : Item} (h : i.Replaced W S j) : i.isReturn = j.isReturn := by
  rcases h with ⟨⟨_⟩ | ⟨_⟩⟩ | _ <;> rfl

theorem Instruction.Replaced.target?_eq {i j : Instruction} (h : i.Replaced W j) :
    i.target? = j.target? := by
  cases h
  case ret             => rfl
  case assign vs _ _ _ => rcases vs with _ | ⟨_, _ | _⟩ <;> rfl

theorem targetsOf_eq_of_replaced {is js : List Instruction}
    (h : Forall₂ (Instruction.Replaced W) is js) : targetsOf is = targetsOf js := by
  induction h
  case nil         => rfl
  case cons h _ hi =>
    rw [targetsOf] at hi ⊢
    rw [targetsOf, List.filterMap_cons, List.filterMap_cons, h.target?_eq, hi, targetsOf]

-- A predicate that does not tell related things apart cuts related lists in the same place.
theorem forall₂_takeWhile {r : α → β → Prop} {p : α → Bool} {q : β → Bool} {as : List α}
    {bs : List β} (hp : ∀ a b, r a b → p a = q b) (h : Forall₂ r as bs) :
    Forall₂ r (as.takeWhile p) (bs.takeWhile q) ∧ Forall₂ r (as.dropWhile p) (bs.dropWhile q) := by
  induction h
  case nil => exact ⟨.nil, .nil⟩
  case cons a b as bs h hs hi =>
    rw [List.takeWhile_cons, List.takeWhile_cons, List.dropWhile_cons, List.dropWhile_cons, hp a b h]
    split
    case isTrue  => exact ⟨.cons h hi.left, hi.right⟩
    case isFalse => exact ⟨.nil, .cons h hs⟩

namespace Script.Replaced

variable {s t : Script}

theorem elides (h : s.Replaced W S t) {i j : Item} (hi : i.Replaced W S j) :
    s.elides i = t.elides j := by
  rw [Script.elides, Script.elides, h.returns, hi.isReturn]

theorem written (h : s.Replaced W S t) : Forall₂ (Item.Replaced W S) s.written t.written :=
  (forall₂_takeWhile (fun _ _ hi => by rw [h.elides hi]) h.body.items).left

theorem unwritten (h : s.Replaced W S t) : Forall₂ (Item.Replaced W S) s.unwritten t.unwritten :=
  (forall₂_takeWhile (fun _ _ hi => by rw [h.elides hi]) h.body.items).right

end Script.Replaced

end ClientScript
