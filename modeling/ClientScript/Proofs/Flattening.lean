import ClientScript.Expression

namespace ClientScript.Expression

mutual

-- What is left of an expression when its compounds are opened. Those inside of operations stay.
def leaves : Expression → List Expression
  | var v         => [var v]
  | const c       => [const c]
  | op code ts es => [op code ts es]
  | compound es   => leavesOf es

def leavesOf : List Expression → List Expression
  | []      => []
  | e :: es => e.leaves ++ leavesOf es

end

theorem leavesOf_eq_flatMap (es : List Expression) : leavesOf es = es.flatMap leaves := by
  induction es
  case nil          => rfl
  case cons e es hi => rw [leavesOf, hi, List.flatMap_cons]

mutual

-- No compound is empty that is reached through compounds alone.
def solid : Expression → Bool
  | compound es => !es.isEmpty && allSolid es
  | _           => true

def allSolid : List Expression → Bool
  | []      => true
  | e :: es => e.solid && allSolid es

end

theorem allSolid_iff {es : List Expression} : allSolid es ↔ ∀ e ∈ es, e.solid := by
  induction es
  case nil          => simp [allSolid]
  case cons e es hi => rw [allSolid, Bool.and_eq_true, hi, List.forall_mem_cons]

theorem solid_compound_iff {es : List Expression} :
    (compound es).solid ↔ es ≠ [] ∧ ∀ e ∈ es, e.solid := by
  rw [solid, Bool.and_eq_true, allSolid_iff]
  simp

theorem leaves_ne_nil {e : Expression} (h : e.solid) : e.leaves ≠ [] := by
  induction e
  case compound es hi =>
    obtain ⟨hn, hs⟩ := solid_compound_iff.mp h
    obtain ⟨e, es, rfl⟩ := List.exists_cons_of_ne_nil hn
    rw [leaves, leavesOf]
    exact List.append_ne_nil_of_left_ne_nil (hi e (.head es) (hs e (.head es))) _
  all_goals exact List.cons_ne_nil _ _

theorem leavesOf_eq_nil_iff {es : List Expression} (h : ∀ e ∈ es, e.solid) :
    leavesOf es = [] ↔ es = [] := by
  cases es
  case nil       => exact iff_of_true rfl rfl
  case cons e es =>
    have he := leaves_ne_nil (h e (.head es))
    exact iff_of_false (List.append_ne_nil_of_left_ne_nil he _) (List.cons_ne_nil e es)

def flat : Expression → Expression
  | compound es => compound (leavesOf es)
  | e           => e

theorem typesOf_leaves (e : Expression) : typesOf e.leaves = e.types := by
  induction e
  case compound es hi =>
    have h : ∀ e ∈ es, e.leaves.flatMap types = e.types := fun e he => by
      rw [← typesOf_eq_flatMap, hi e he]
    rw [leaves, types, leavesOf_eq_flatMap, typesOf_eq_flatMap, typesOf_eq_flatMap,
      List.flatMap_assoc, List.flatMap_def, List.flatMap_def, List.map_congr_left h]
  all_goals exact List.append_nil _

theorem typesOf_leavesOf (es : List Expression) : typesOf (leavesOf es) = typesOf es :=
  typesOf_leaves (compound es)

theorem types_flat (e : Expression) : e.flat.types = e.types := by
  cases e
  case compound es => exact typesOf_leavesOf es
  all_goals rfl

-- One expression is another one with a list in it opened: the elements of a compound, the arguments of
-- a script that is called, or those of a command, in front of its flag if it has one.
inductive Opened : Expression → Expression → Prop
  | compound {es} (h : allSolid es) : Opened (.compound es) (.compound (leavesOf es))
  | invoke {code : Opcode} {ts callee es} (form : code.form = .invoke) (h : allSolid es) :
    Opened (.op code ts (callee :: es)) (.op code ts (callee :: leavesOf es))
  | dotCall {code : Opcode} {ts es flag} (form : code.form = .dotCall) (h : allSolid es) :
    Opened (.op code ts (es ++ [flag])) (.op code ts (leavesOf es ++ [flag]))
  | call {code : Opcode} {ts es} (form : code.form = .call) (h : allSolid es) :
    Opened (.op code ts es) (.op code ts (leavesOf es))

inductive Flattens : Expression → Expression → Prop
  | refl (e) : Flattens e e
  | here {e f} (h : Opened e f) : Flattens e f
  | argument {code ts before e f after} (h : Flattens e f) :
    Flattens (.op code ts (before ++ e :: after)) (.op code ts (before ++ f :: after))
  | element {before e f after} (h : Flattens e f) :
    Flattens (.compound (before ++ e :: after)) (.compound (before ++ f :: after))

theorem Opened.types_eq {e f : Expression} (h : Opened e f) : e.types = f.types := by
  cases h
  case compound es _ => exact (typesOf_leavesOf es).symm
  all_goals rfl

theorem Flattens.types_eq {e f : Expression} (h : Flattens e f) : e.types = f.types := by
  induction h
  case refl         => rfl
  case here h       => exact h.types_eq
  case argument     => rfl
  case element h hi => simp [types, typesOf_eq_flatMap, hi]

theorem Flattens.constant?_eq {e f : Expression} (h : Flattens e f) :
    e.constant? = f.constant? := by
  cases h
  case refl    => rfl
  case here h  => cases h <;> rfl
  all_goals rfl

end ClientScript.Expression
