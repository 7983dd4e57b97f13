import ClientScript.Json.Number
import ClientScript.Proofs.Text.Digits
import Mathlib.Data.Option.Basic
import Mathlib.Tactic.Common

namespace ClientScript.Json

open Text (Ends)

theorem natOf_toDigits (n : Nat) : natOf (Nat.toDigits 10 n) = n :=
  Nat.ofDigitChars_ten_toDigits

theorem digits_toDigits (n : Nat) : digits (Nat.toDigits 10 n) = (Nat.toDigits 10 n, []) := by
  have ht := Ends.takeWhile_append (fun _ => Text.isDigit_of_mem_toDigits (n := n)) .nil
  have hd := Ends.dropWhile_append (fun _ => Text.isDigit_of_mem_toDigits (n := n)) .nil
  rw [List.append_nil] at ht hd
  rw [digits, ht, hd]

theorem readWhole_toDigits (n : Nat) :
    readWhole (Nat.toDigits 10 n) = some (Nat.toDigits 10 n, []) := by
  rw [readWhole, digits_toDigits]
  split
  case h_1 h =>
    have := (Prod.mk.inj h).left
    simp at this
  case h_2 h => rw [(Prod.mk.inj h).left, (Prod.mk.inj h).right]
  case h_3 ds _ hs h =>
    have hd := (Prod.mk.inj h).left
    by_cases hn : n = 0
    case pos =>
      rw [hn, Nat.toDigits_zero] at hd
      cases hd
      exact (hs rfl).elim
    case neg =>
      exact absurd (by rw [hd]; rfl) (Text.head?_toDigits_ne_zero hn)
  case h_4 h => rw [(Prod.mk.inj h).left, (Prod.mk.inj h).right]

theorem le_ofDigitChars (n : Nat) (ds : List Char) : n ≤ Nat.ofDigitChars 10 ds n := by
  rw [Nat.ofDigitChars_eq_ofDigitChars_zero]
  have : 0 < 10 ^ ds.length := Nat.pow_pos (by decide)
  exact Nat.le_add_right_of_le (Nat.le_mul_of_pos_left n this)

theorem fill_eq (h : Nat.ofDigitChars 10 ds n < UInt64.size) :
    fill n ds = (Nat.ofDigitChars 10 ds n, ds.length) := by
  induction ds generalizing n
  case nil => simp [fill]
  case cons d ds hi =>
    rw [Nat.ofDigitChars_cons] at h ⊢
    have hn : 10 * n + digitValue d < UInt64.size := Nat.lt_of_le_of_lt (le_ofDigitChars _ ds) h
    rw [fill, if_pos hn, digitValue, hi h]
    rfl

theorem round53_eq (h : n < 0x20000000000000) : round53 n = n := by
  have hl : n.log2 + 1 - 53 = 0 := by
    by_cases hn : n = 0
    case pos => simp [hn]
    case neg =>
      have := (Nat.log2_lt (k := 53) hn).mpr h
      omega
  simp [round53, hl, Nat.mod_one]

theorem isFinite_toDigits (h : n < 0x20000000000000) : isFinite (Nat.toDigits 10 n) [] 0 := by
  have hf : fill 0 (Nat.toDigits 10 n) = (n, (Nat.toDigits 10 n).length) := by
    rw [fill_eq] <;> rw [Nat.ofDigitChars_ten_toDigits]
    exact Nat.lt_trans h (by decide)
  have hb : n * 1 < bound := by
    simp only [bound, Nat.pow_eq]
    omega
  simp only [isFinite, hf, fill, Nat.sub_self]
  split
  case isTrue  => rfl
  case isFalse => simpa [round53_eq h, round53_eq (n := 1) (by decide)] using hb

theorem numberOfText_toDigits (h : n < 0x20000000000000) :
    numberOfText (Nat.toDigits 10 n) = some (.int n) := by
  rw [numberOfText.eq_def]
  split
  case h_1 hs =>
    split at hs
    case h_1 hd => exact (Text.toDigits_ne_minus n _ hd).elim
    case h_2    =>
      cases hs
      simp [readWhole_toDigits, readFraction, readExponent, numberOf, isFinite_toDigits h,
        natOf_toDigits]

theorem numberOfText_minus_toDigits (hn : n ≠ 0) (h : n < 0x20000000000000) :
    numberOfText ('-' :: Nat.toDigits 10 n) = some (.int (-n)) := by
  have hz : Nat.toDigits 10 n ≠ ['0'] := fun hd => Text.head?_toDigits_ne_zero hn (by rw [hd]; rfl)
  simp [numberOfText, readWhole_toDigits, readFraction, readExponent, numberOf,
    isFinite_toDigits h, natOf_toDigits, hz]

-- The integers of a module are far below the bound.
theorem numberOfText_toString {n : Int} (h : n.natAbs < 0x20000000000000) :
    numberOfText (toString n).toList = some (.int n) := by
  rw [Text.toList_toString_int]
  split
  case isTrue hn =>
    rw [numberOfText_toDigits (by omega), Int.toNat_of_nonneg hn]
  case isFalse hn =>
    rw [numberOfText_minus_toDigits (by omega) (by omega), Int.toNat_of_nonneg (by omega),
      Int.neg_neg]

theorem isNumberChar_of_isIntChar (h : Text.isIntChar c) : isNumberChar c := by
  rcases Bool.or_eq_true _ _ ▸ h with h | h
  case inl => simp [isNumberChar, h]
  case inr => simp [isNumberChar, of_decide_eq_true h]

theorem readNumber_toString {n : Int} (h : n.natAbs < 0x20000000000000) (hr : Ends isNumberChar rest) :
    readNumber ((toString n).toList ++ rest) = some (.int n, rest) := by
  have hc : ∀ c ∈ (toString n).toList, isNumberChar c := fun _ hc =>
    isNumberChar_of_isIntChar (Text.isIntChar_of_mem_toString hc)
  rw [readNumber, Ends.takeWhile_append hc hr, Ends.dropWhile_append hc hr,
    numberOfText_toString h]
  rfl

end ClientScript.Json
