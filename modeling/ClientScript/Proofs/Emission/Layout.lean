import ClientScript.Proofs.Emission.Elision

namespace ClientScript

inductive Role
  | statement (i : Instruction)
  | loop (condition : Expression)
  | branch (first : Bool) (condition : Expression)
  | otherwise
  | switch (scrutinee : Expression)
  | case (scrutinee : Expression) (labels : List Int32)
  | default
  | close

-- The place of a line in a script, before it has a text.
structure Slot where
  depth : Nat
  role  : Role

namespace Role

def instruction? : Role → Option Instruction
  | statement i => some i
  | _           => none

end Role

mutual

def Chain.layout (depth : Nat) : Chain → List Slot
  | .last c      => c.layout depth
  | .link c rest => c.layout depth ++ rest.layout depth

def Construct.layout (depth : Nat) : Construct → List Slot
  | .seq is      => is.map fun i => ⟨depth, .statement i⟩
  | .cond bs     => bs.layout depth true ++ [⟨depth, .close⟩]
  | .loop c body => ⟨depth, .loop c⟩ :: body.layout (depth + 1) ++ [⟨depth, .close⟩]
  | .switch e cs => ⟨depth, .switch e⟩ :: cs.layout (depth + 1) e ++ [⟨depth, .close⟩]

def Branches.layout (depth : Nat) (first : Bool) : Branches → List Slot
  | .done               => []
  | .otherwise body     => ⟨depth, .otherwise⟩ :: body.layout (depth + 1)
  | .branch c body rest =>
    ⟨depth, .branch first c⟩ :: body.layout (depth + 1) ++ rest.layout depth false

def Cases.layout (depth : Nat) (scrutinee : Expression) : Cases → List Slot
  | .done              => []
  | .otherwise body    => ⟨depth, .default⟩ :: body.layout (depth + 1)
  | .case ns body rest =>
    ⟨depth, .case scrutinee ns⟩ :: body.layout (depth + 1) ++ rest.layout depth scrutinee

end

def Item.layout (depth : Nat) : Item → List Slot
  | instruction i => [⟨depth, .statement i⟩]
  | block c       => c.layout depth

-- A return that is left out has no slot.
def Script.layout (s : Script) : List Slot :=
  s.written.flatMap (Item.layout 0)

def Script.elided (s : Script) : List Instruction :=
  (s.body.items.getLast?.filter s.elides).toList.flatMap Item.instructions

def Branches.arms : Branches → Nat
  | .done            => 0
  | .otherwise _     => 1
  | .branch _ _ rest => rest.arms + 1

def Cases.arms : Cases → Nat
  | .done          => 0
  | .otherwise _   => 1
  | .case _ _ rest => rest.arms + 1

-- How many lines a construct has at the depth at which it stands.
def Construct.ownLines : Construct → Nat
  | .seq is    => is.length
  | .cond bs   => bs.arms + 1
  | .loop ..   => 2
  | .switch .. => 2

def statements (slots : List Slot) : List Instruction :=
  slots.filterMap (·.role.instruction?)

theorem statements_append : statements (ss ++ ts) = statements ss ++ statements ts :=
  List.filterMap_append

theorem statements_cons (h : role.instruction? = none) :
    statements (⟨depth, role⟩ :: ss) = statements ss :=
  List.filterMap_cons_none h

theorem statements_run (is : List Instruction) :
    statements (is.map fun i => ⟨depth, .statement i⟩) = is := by
  induction is
  case nil          => rfl
  case cons i is hi => exact congrArg (i :: ·) hi

mutual

theorem Chain.statements_layout : (c : Chain) → ∀ {depth},
    statements (c.layout depth) = c.instructions
  | .last c,      _ => c.statements_layout
  | .link c rest, _ => by
    rw [Chain.layout, statements_append, c.statements_layout, rest.statements_layout,
      Chain.instructions]

theorem Construct.statements_layout : (c : Construct) → ∀ {depth},
    statements (c.layout depth) = c.instructions
  | .seq is,      _ => statements_run is
  | .cond bs,     _ => by
    rw [Construct.layout, statements_append, bs.statements_layout, statements_cons rfl]
    exact List.append_nil _
  | .loop c body, _ => by
    rw [Construct.layout, List.cons_append, statements_cons rfl, statements_append,
      body.statements_layout, statements_cons rfl]
    exact List.append_nil _
  | .switch e cs, _ => by
    rw [Construct.layout, List.cons_append, statements_cons rfl, statements_append,
      cs.statements_layout, statements_cons rfl]
    exact List.append_nil _

theorem Branches.statements_layout : (bs : Branches) → ∀ {depth first},
    statements (bs.layout depth first) = bs.instructions
  | .done,               _, _ => rfl
  | .otherwise body,     _, _ => body.statements_layout
  | .branch c body rest, _, _ => by
    rw [Branches.layout, List.cons_append, statements_cons rfl, statements_append,
      body.statements_layout, rest.statements_layout, Branches.instructions]

theorem Cases.statements_layout : (cs : Cases) → ∀ {depth e},
    statements (cs.layout depth e) = cs.instructions
  | .done,              _, _ => rfl
  | .otherwise body,    _, _ => body.statements_layout
  | .case ns body rest, _, _ => by
    rw [Cases.layout, List.cons_append, statements_cons rfl, statements_append,
      body.statements_layout, rest.statements_layout, Cases.instructions]

end

theorem Item.statements_layout (i : Item) : statements (i.layout depth) = i.instructions := by
  cases i
  case instruction i => rfl
  case block c       => exact c.statements_layout

theorem statements_flatMap_layout (is : List Item) :
    statements (is.flatMap (Item.layout depth)) = is.flatMap Item.instructions := by
  induction is
  case nil          => rfl
  case cons i is hi =>
    rw [List.flatMap_cons, statements_append, i.statements_layout, hi, List.flatMap_cons]

theorem Construct.instructions_eq_flatMap (c : Construct) :
    c.instructions = c.items.flatMap Item.instructions := by
  cases c
  case seq is =>
    simp only [items, instructions, List.flatMap_map]
    exact (List.flatMap_singleton' is).symm
  all_goals simp [items, Item.instructions]

theorem Chain.instructions_eq_flatMap (c : Chain) :
    c.instructions = c.items.flatMap Item.instructions := by
  match c with
  | last c      => exact c.instructions_eq_flatMap
  | link c rest =>
    rw [instructions, items, List.flatMap_append, c.instructions_eq_flatMap,
      rest.instructions_eq_flatMap]

-- A final return that is left out is all that has no slot.
theorem Script.instructions_eq_append {s : Script} (h : s.unwritten.length ≤ 1) :
    s.instructions = statements s.layout ++ s.elided := by
  rw [layout, statements_flatMap_layout, elided, instructions, Chain.instructions_eq_flatMap,
    items_eq_append]
  match hu : s.unwritten with
  | []          =>
    have hl : s.written.getLast?.filter s.elides = none := by
      rw [Option.filter_eq_none_iff]
      intro i hi
      simp [not_elides_of_mem_written (List.mem_of_getLast? hi)]
    simp [hl]
  | [r]         =>
    have hl : (some r).filter s.elides = some r := Option.filter_some_pos (elides_of_unwritten hu)
    simp [hl]
  | _ :: _ :: _ => simp [hu] at h

def Within (depth : Nat) (slots : List Slot) : Prop :=
  ∀ s ∈ slots, depth ≤ s.depth

namespace Within

variable {depth : Nat} {slots ss ts : List Slot}

theorem nil : Within depth [] :=
  fun _ h => nomatch h

theorem append (hs : Within depth ss) (ht : Within depth ts) : Within depth (ss ++ ts) :=
  List.forall_mem_append.mpr ⟨hs, ht⟩

theorem cons (h : Within depth slots) : Within depth (⟨depth, role⟩ :: slots) :=
  List.forall_mem_cons.mpr ⟨Nat.le_refl _, h⟩

theorem deeper (h : Within (depth + 1) slots) : Within depth slots :=
  fun s hs => Nat.le_of_succ_le (h s hs)

end Within

mutual

theorem Chain.layout_within : (c : Chain) → ∀ {depth}, Within depth (c.layout depth)
  | .last c,      _ => c.layout_within
  | .link c rest, _ => c.layout_within.append rest.layout_within

theorem Construct.layout_within : (c : Construct) → ∀ {depth}, Within depth (c.layout depth)
  | .seq _,       _ => List.forall_mem_map.mpr fun _ _ => Nat.le_refl _
  | .cond bs,     _ => bs.layout_within.append (.cons .nil)
  | .loop _ body, _ => .append (.cons body.layout_within.deeper) (.cons .nil)
  | .switch _ cs, _ => .append (.cons cs.layout_within.deeper) (.cons .nil)

theorem Branches.layout_within : (bs : Branches) → ∀ {depth first},
    Within depth (bs.layout depth first)
  | .done,               _, _ => .nil
  | .otherwise body,     _, _ => .cons body.layout_within.deeper
  | .branch _ body rest, _, _ => .append (.cons body.layout_within.deeper) rest.layout_within

theorem Cases.layout_within : (cs : Cases) → ∀ {depth e}, Within depth (cs.layout depth e)
  | .done,             _, _ => .nil
  | .otherwise body,   _, _ => .cons body.layout_within.deeper
  | .case _ body rest, _, _ => .append (.cons body.layout_within.deeper) rest.layout_within

end

def countAt (depth : Nat) (slots : List Slot) : Nat :=
  slots.countP (·.depth = depth)

theorem countAt_append : countAt depth (ss ++ ts) = countAt depth ss + countAt depth ts :=
  List.countP_append

theorem countAt_cons : countAt depth (⟨depth, role⟩ :: ss) = countAt depth ss + 1 :=
  List.countP_cons_of_pos (by simp)

theorem Within.countAt_eq_zero (h : Within (depth + 1) slots) : countAt depth slots = 0 := by
  refine List.countP_eq_zero.mpr fun s hs => ?_
  have := h s hs
  simp
  omega

theorem Branches.countAt_layout (bs : Branches) :
    countAt depth (bs.layout depth first) = bs.arms := by
  match bs with
  | .done               => rfl
  | .otherwise body     =>
    rw [layout, countAt_cons, body.layout_within.countAt_eq_zero, arms]
  | .branch c body rest =>
    rw [layout, List.cons_append, countAt_cons, countAt_append,
      body.layout_within.countAt_eq_zero, rest.countAt_layout, arms, Nat.zero_add]

theorem Cases.countAt_layout (cs : Cases) : countAt depth (cs.layout depth e) = cs.arms := by
  match cs with
  | .done              => rfl
  | .otherwise body    =>
    rw [layout, countAt_cons, body.layout_within.countAt_eq_zero, arms]
  | .case ns body rest =>
    rw [layout, List.cons_append, countAt_cons, countAt_append,
      body.layout_within.countAt_eq_zero, rest.countAt_layout, arms, Nat.zero_add]

theorem Construct.countAt_layout (c : Construct) :
    countAt depth (c.layout depth) = c.ownLines := by
  cases c
  case seq is      => simp [layout, countAt, ownLines, List.countP_map]
  case cond bs     => rw [layout, countAt_append, bs.countAt_layout, countAt_cons]; rfl
  case loop c body =>
    rw [layout, List.cons_append, countAt_cons, countAt_append,
      body.layout_within.countAt_eq_zero, countAt_cons]
    rfl
  case switch e cs =>
    rw [layout, List.cons_append, countAt_cons, countAt_append,
      cs.layout_within.countAt_eq_zero, countAt_cons]
    rfl

end ClientScript
