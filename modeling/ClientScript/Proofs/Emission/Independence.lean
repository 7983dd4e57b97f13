import ClientScript.Proofs.Emission.Congruence

namespace ClientScript

open List (Forall₂)

section Names

variable {names names' : Names}

theorem Constant.text_agree {W : Expression → Expression → Prop} {c : Constant} :
    Agree W names names' (c.text names) (c.text names') := by
  rcases c with ⟨ty, payload⟩
  cases payload
  case text s => exact .refl _
  case int n  =>
    simp only [text]
    split
    case isTrue  => exact .error _
    case isFalse => exact Ty.intText_agree

theorem Expression.operands_like {es : List Expression}
    (h : ∀ e ∈ es, Agree Eq names names' (e.text names inCalc) (e.text names' inCalc)) :
    Forall₂ (Operand.Like Eq names names') (operands names inCalc es)
      (operands names' inCalc es) := by
  rw [operands_eq_map, operands_eq_map, List.forall₂_map_left_iff, List.forall₂_map_right_iff,
    List.forall₂_same]
  exact fun e he => ⟨rfl, rfl, h e he⟩

theorem Expression.text_agree {e : Expression} :
    Agree Eq names names' (e.text names inCalc) (e.text names' inCalc) := by
  induction e generalizing inCalc
  case var v            => exact .refl _
  case const c          => exact c.text_agree
  case op code ts es hi =>
    rw [text, text]
    exact Opcode.operationText_agree (operands_like fun e he => hi e he)
  case compound es hi   =>
    rw [text, text]
    exact Operand.listed_agree (operands_like fun e he => hi e he)

theorem exchangeable_eq : Exchangeable Eq Eq names names' where
  text
  | rfl => Expression.text_agree
  list
  | rfl => Operand.grouped_agree (Expression.operands_like fun _ _ => Expression.text_agree)
  switch h := h
  types h  := congrArg Expression.types h

theorem Script.emit_failAlike {s : Script} {unit unit' : String} :
    Alike Eq (fun _ _ => True) (s.emit names unit) (s.emit names' unit') :=
  (Replaced.refl (fun _ => rfl) (fun _ => rfl) s).emit_alike exchangeable_eq |>.mono
    (fun _ _ => EmitError.Quoting.eq fun _ _ => congrArg Expression.dump) fun _ _ _ => trivial

end Names

-- Whether a script has a text, and why it has none, is a matter of the script alone. No name can be
-- missing or wrong.
theorem Script.emit_error_iff (s : Script) (names names' : Names) (unit unit' : String) :
    ((∃ text, s.emit names unit = .ok text) ↔ ∃ text, s.emit names' unit' = .ok text) ∧
    ∀ e, s.emit names unit = .error e ↔ s.emit names' unit' = .error e :=
  ⟨emit_failAlike.succeeds_iff, fun _ => emit_failAlike.eq_error_iff⟩

end ClientScript
