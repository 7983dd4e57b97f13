import ClientScript.Proofs.Dump.Expression

namespace ClientScript

open Text (Ends Separates commas)

def keywords : List String :=
  ["return", "if", "elif", "else", "while", "switch", "case", "default"]

-- The keyword that a line begins with. No variable and no constant begins with one.
def keyword? (line : List Char) : Option String :=
  keywords.find? (·.toList = line.takeWhile Char.isAlpha)

theorem keyword?_append (hw : ∀ c ∈ w, c.isAlpha) (hr : Ends Char.isAlpha r) :
    keyword? (w ++ r) = keywords.find? (·.toList = w) := by
  rw [keyword?, hr.takeWhile_append hw]

theorem Variable.keyword?_dump (v : Variable) (r : List Char) :
    keyword? (v.dump.toList ++ r) = none := by
  rw [toList_dump, List.append_assoc, List.append_assoc,
    keyword?_append v.kind.isAlpha_of_mem_literal (ends_isAlpha_toDigits _ _)]
  cases v.kind <;> decide

theorem Constant.keyword?_dump (c : Constant) (r : List Char) :
    keyword? (c.dump.toList ++ r) = none := by
  rw [toList_dump, List.append_assoc, List.cons_append,
    keyword?_append c.ty.isAlpha_of_mem_literal (.cons rfl)]
  cases c.ty <;> decide

theorem keyword?_of_ends (hr : Ends Char.isAlpha r) : keyword? r = none := by
  have h := keyword?_append (List.forall_mem_nil _) hr
  rw [List.nil_append] at h
  rw [h]
  decide

theorem Expression.keyword?_dump (e : Expression) (r : List Char) :
    keyword? (e.dump.toList ++ r) = none := by
  cases e
  case var v         => exact v.keyword?_dump r
  case const c       => exact c.keyword?_dump r
  case op code ts es =>
    have ⟨name, hn, _⟩ := code.toList_text
    rw [toList_dump_op, hn, List.append_assoc, List.append_assoc]
    exact keyword?_of_ends (ends_isAlpha_toDigits _ _)
  case compound es   =>
    rw [toList_dump_compound]
    exact keyword?_of_ends (.cons rfl)

namespace Instruction

theorem toList_dump_assign_cons :
    (assign (v :: vs) e).dump.toList =
      commas (·.dump.toList) (v :: vs) ++ ' ' :: '=' :: ' ' :: e.dump.toList := by
  simp [dump, commas, String.toList_intercalate, Function.comp_def]

theorem exists_dump_assign_cons (v : Variable) (vs : List Variable) (e : Expression) :
    ∃ c rest, (assign (v :: vs) e).dump.toList = v.dump.toList ++ c :: rest ∧
      c.isAlpha = false ∧ c ≠ '\n' := by
  rw [toList_dump_assign_cons]
  cases vs
  case nil       => exact ⟨_, _, by rw [Text.commas_singleton], by decide⟩
  case cons w ws => exact ⟨_, _, by rw [Text.commas_cons_cons, List.append_assoc]; rfl, by decide⟩

def keyword? : Instruction → Option String
  | assign .. => none
  | ret _     => some "return"

theorem keyword?_dump (i : Instruction) (r : List Char) :
    ClientScript.keyword? (i.dump.toList ++ r) = i.keyword? := by
  cases i
  case ret e       =>
    rw [dump, String.toList_append, List.append_assoc]
    exact keyword?_append (w := "return".toList) (List.all_eq_true.mp rfl) (.cons rfl)
  case assign vs e =>
    cases vs
    case nil       => exact e.keyword?_dump r
    case cons v vs =>
      have ⟨c, rest, h, _⟩ := exists_dump_assign_cons v vs e
      rw [h, List.append_assoc]
      exact v.keyword?_dump _

-- The first variable that is assigned is not the whole of a value. A comma or a space follows it.
theorem dump_assign_nil_ne :
    (assign [] e).dump.toList ++ '\n' :: r ≠ (assign (v :: vs) f).dump.toList ++ s := by
  intro h
  have ⟨c, rest, hv, hc⟩ := exists_dump_assign_cons v vs f
  rw [hv, List.append_assoc] at h
  have ⟨_, hr⟩ := e.separates (.var v) _ _ (.cons rfl) (.cons hc.left) h
  exact hc.right (List.cons.inj hr).left.symm

theorem separates {i j : Instruction}
    (h : i.dump.toList ++ '\n' :: r = j.dump.toList ++ '\n' :: s) :
    i.untyped = j.untyped ∧ r = s := by
  have lf : ∀ r, Ends Char.isAlpha ('\n' :: r) := fun r => .cons rfl
  have hk : i.keyword? = j.keyword? := by rw [← keyword?_dump, h, keyword?_dump]
  cases i <;> cases j
  case assign.ret => exact nomatch hk
  case ret.assign => exact nomatch hk
  case ret.ret e f =>
    simp only [dump, String.toList_append, List.append_assoc] at h
    have ⟨he, hr⟩ := e.separates f _ _ (lf r) (lf s) (List.append_cancel_left h)
    exact ⟨congrArg ret he, (List.cons.inj hr).right⟩
  case assign.assign vs e ws f =>
    cases vs <;> cases ws
    case nil.nil =>
      have ⟨he, hr⟩ := e.separates f _ _ (lf r) (lf s) h
      exact ⟨congrArg (assign []) he, (List.cons.inj hr).right⟩
    case nil.cons => exact (dump_assign_nil_ne h).elim
    case cons.nil => exact (dump_assign_nil_ne h.symm).elim
    case cons.cons v vs w ws =>
      simp only [toList_dump_assign_cons, List.append_assoc, List.cons_append] at h
      have ends : ∀ r, Ends Char.isAlpha (' ' :: r) ∧ Ends (· = ',') (' ' :: r) :=
        fun r => ⟨.cons rfl, .cons rfl⟩
      have ⟨hv, h⟩ := Text.commas_inj (by decide) (fun v _ => v.separates) (ends _) (ends _) h
      simp only [List.map_id', List.cons.injEq, true_and] at hv h
      have ⟨he, hr⟩ := e.separates f _ _ (lf r) (lf s) h
      exact ⟨by rw [untyped, untyped, hv.left, hv.right, he], (List.cons.inj hr).right⟩

theorem untyped_eq_of_dump_eq {i j : Instruction} (h : i.dump = j.dump) : i.untyped = j.untyped :=
  (separates (r := []) (by rw [h])).left

theorem dump_untyped (i : Instruction) : i.untyped.dump = i.dump := by
  cases i
  case ret e       => simp [untyped, dump, e.dump_untyped]
  case assign vs e => cases vs <;> simp [untyped, dump, e.dump_untyped]

end Instruction

end ClientScript
