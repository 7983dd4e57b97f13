import ClientScript.Proofs.Text.Pieces

namespace ClientScript.Text

theorem isDigit_of_mem_toDigits (h : c ∈ Nat.toDigits 10 n) : c.isDigit :=
  Nat.isDigit_of_mem_toDigits (by decide) (by decide) h

theorem exists_toDigits_eq_cons (n : Nat) : ∃ d ds, Nat.toDigits 10 n = d :: ds ∧ d.isDigit := by
  obtain ⟨d, ds, h⟩ := List.exists_cons_of_ne_nil Nat.toDigits_ne_nil
  exact ⟨d, ds, h, isDigit_of_mem_toDigits (h ▸ List.mem_cons_self)⟩

theorem digitChar_inj : ∀ k < 16, ∀ l < 16, k.digitChar = l.digitChar → k = l := by
  decide

theorem one_lt_length_toDigits (hb : 1 < b) (h : b ≤ n) : 1 < (Nat.toDigits b n).length := by
  have := Nat.length_toDigits_pos (b := b) (n := n / b)
  rw [Nat.toDigits_of_base_le hb h, List.length_append, List.length_singleton]
  omega

theorem toDigits_injective (hb : 1 < b) (h16 : b ≤ 16) : (Nat.toDigits b).Injective := by
  intro m n h
  induction m using Nat.strong_induction_on generalizing n
  case h m hi =>
    have hl := congrArg List.length h
    rcases Nat.lt_or_ge m b with hm | hm <;> rcases Nat.lt_or_ge n b with hn | hn
    case inl.inl =>
      rw [Nat.toDigits_of_lt_base hm, Nat.toDigits_of_lt_base hn] at h
      exact digitChar_inj m (by omega) n (by omega) (List.cons.inj h).left
    case inl.inr =>
      have := one_lt_length_toDigits hb hn
      rw [← hl, Nat.toDigits_of_lt_base hm] at this
      exact absurd this (Nat.lt_irrefl 1)
    case inr.inl =>
      have := one_lt_length_toDigits hb hm
      rw [hl, Nat.toDigits_of_lt_base hn] at this
      exact absurd this (Nat.lt_irrefl 1)
    case inr.inr =>
      rw [Nat.toDigits_of_base_le hb hm, Nat.toDigits_of_base_le hb hn] at h
      have ⟨hq, hr⟩ := List.append_inj' h rfl
      have hlt : ∀ k, k % b < 16 := fun k => (Nat.mod_lt k (by omega)).trans_le h16
      have hq := hi (m / b) (Nat.div_lt_self (by omega) hb) hq
      have hr := digitChar_inj _ (hlt m) _ (hlt n) (List.cons.inj hr).left
      rw [← Nat.div_add_mod m b, hq, hr, Nat.div_add_mod]

theorem head?_toDigits_ne_zero (h : n ≠ 0) : (Nat.toDigits 10 n).head? ≠ some '0' := by
  induction n using Nat.strong_induction_on
  case h n hi =>
    rw [Nat.toDigits_eq_if (by decide)]
    split
    case isTrue hn =>
      have hd : ∀ k < 10, k ≠ 0 → [k.digitChar].head? ≠ some '0' := by decide
      exact hd n hn h
    case isFalse hn =>
      rw [List.head?_append, Option.or_of_isSome (by simp)]
      exact hi (n / 10) (by omega) (by omega)

theorem toList_toString_int (n : Int) :
    (toString n).toList =
      if 0 ≤ n then Nat.toDigits 10 n.toNat else '-' :: Nat.toDigits 10 (-n).toNat := by
  rw [Int.toString_eq_repr, Int.repr_eq_if]
  split <;> simp

theorem toList_toString_int_ne_nil (n : Int) : (toString n).toList ≠ [] := by
  rw [toList_toString_int]
  split
  case isTrue  => exact Nat.toDigits_ne_nil
  case isFalse => exact List.cons_ne_nil _ _

theorem toDigits_ne_minus (n : Nat) (rest : List Char) : Nat.toDigits 10 n ≠ '-' :: rest := by
  intro h
  have := isDigit_of_mem_toDigits (h ▸ List.mem_cons_self)
  exact absurd this (by decide)

theorem toString_int_injective : (toString : Int → String).Injective := by
  intro m n h
  have h := congrArg String.toList h
  rw [toList_toString_int, toList_toString_int] at h
  split at h <;> split at h
  case isTrue.isTrue =>
    have := toDigits_injective (by decide) (by decide) h
    omega
  case isTrue.isFalse => exact (toDigits_ne_minus _ _ h).elim
  case isFalse.isTrue => exact (toDigits_ne_minus _ _ h.symm).elim
  case isFalse.isFalse =>
    have := toDigits_injective (by decide) (by decide) (List.cons.inj h).right
    omega

def isIntChar (c : Char) : Bool :=
  c.isDigit || c = '-'

theorem isIntChar_of_mem_toString {n : Int} (h : c ∈ (toString n).toList) : isIntChar c := by
  rw [toList_toString_int] at h
  split at h
  case isTrue  => simp [isIntChar, isDigit_of_mem_toDigits h]
  case isFalse =>
    rcases List.mem_cons.mp h with rfl | h
    · rfl
    · simp [isIntChar, isDigit_of_mem_toDigits h]

theorem exists_toList_toString_int (n : Int) :
    ∃ c cs, (toString n).toList = c :: cs ∧ isIntChar c := by
  have ⟨c, cs, hc⟩ := List.exists_cons_of_ne_nil (toList_toString_int_ne_nil n)
  exact ⟨c, cs, hc, isIntChar_of_mem_toString (hc ▸ List.mem_cons_self)⟩

end ClientScript.Text
