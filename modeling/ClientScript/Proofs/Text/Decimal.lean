import ClientScript.Proofs.Json.Numbers
import ClientScript.Text.Decimal

namespace ClientScript.Text

structure Numeral (ds : List Char) : Prop where
  nonempty : ds ≠ []
  digits   : ∀ c ∈ ds, c.isDigit

-- A decimal number, with or without a sign. Zeros in front do not change its value.
inductive Decimal : List Char → Int → Prop
  | bare (h : Numeral ds)     : Decimal ds (Nat.ofDigitChars 10 ds 0)
  | positive (h : Numeral ds) : Decimal ('+' :: ds) (Nat.ofDigitChars 10 ds 0)
  | negative (h : Numeral ds) : Decimal ('-' :: ds) (-Nat.ofDigitChars 10 ds 0)

def signed (negative : Bool) (n : Nat) : Int :=
  if negative then -n else n

def limit (negative : Bool) : Nat :=
  if negative then 0x80000000 else 0x7fffffff

theorem readDigits_cons (h : c.isDigit) : readDigits negative (signed negative n) (c :: cs) =
    if Nat.ofDigitChars 10 [c] n ≤ limit negative then
      readDigits negative (signed negative (Nat.ofDigitChars 10 [c] n)) cs
    else .error (if negative then .tooSmall else .tooLarge) := by
  have hc : '0'.toNat ≤ c.toNat := by
    have := Char.isDigit_iff_toNat.mp h
    have hz : '0'.toNat = 48 := rfl
    omega
  have hd : (Nat.ofDigitChars 10 [c] n : Int) = 10 * n + (c.toNat - '0'.toNat) := by
    rw [Nat.ofDigitChars_cons, Nat.ofDigitChars_nil]
    omega
  have hu : Int32.maxValue.toInt = 0x7fffffff := by decide
  have hl : Int32.minValue.toInt = -0x80000000 := by decide
  rw [readDigits, if_pos h]
  cases negative <;> simp only [signed, limit, Bool.false_eq_true, if_false, if_true, hu, hl]
  case false =>
    rw [← hd]
    split
    case isTrue  => rw [if_neg (by omega)]
    case isFalse => rw [if_neg (by omega), if_pos (by omega)]
  case true  =>
    rw [show 10 * -(n : Int) - (c.toNat - '0'.toNat) = -Nat.ofDigitChars 10 [c] n by omega,
      if_neg (by omega)]
    split
    case isTrue  => rw [if_neg (by omega)]
    case isFalse => rw [if_pos (by omega)]

-- Digits only add to a magnitude, so no number in the range is left on the way to it.
theorem readDigits_eq_ok_iff (h : n ≤ limit negative) :
    readDigits negative (signed negative n) ds = .ok m ↔
      (∀ c ∈ ds, c.isDigit) ∧ Nat.ofDigitChars 10 ds n ≤ limit negative ∧
        signed negative (Nat.ofDigitChars 10 ds n) = m := by
  induction ds generalizing n
  case nil          => simp [readDigits, h]
  case cons d ds hi =>
    by_cases hd : d.isDigit
    case neg => simp [readDigits, hd]
    have hc : Nat.ofDigitChars 10 (d :: ds) n =
        Nat.ofDigitChars 10 ds (Nat.ofDigitChars 10 [d] n) := by
      rw [Nat.ofDigitChars_cons, Nat.ofDigitChars_cons, Nat.ofDigitChars_nil]
    rw [readDigits_cons hd, hc]
    split
    case isTrue hn  => rw [hi hn, List.forall_mem_cons, and_iff_right hd]
    case isFalse hn =>
      have := Json.le_ofDigitChars (Nat.ofDigitChars 10 [d] n) ds
      exact iff_of_false nofun fun h => hn (Nat.le_trans this h.right.left)

theorem readDigits_zero_eq_ok_iff : readDigits negative 0 ds = .ok m ↔
    (∀ c ∈ ds, c.isDigit) ∧ Nat.ofDigitChars 10 ds 0 ≤ limit negative ∧
      signed negative (Nat.ofDigitChars 10 ds 0) = m := by
  rw [← readDigits_eq_ok_iff (Nat.zero_le _)]
  cases negative <;> rfl

theorem map_readDigits_eq_ok_iff : Int32.ofInt <$> readDigits negative 0 ds = .ok n ↔
    (∀ c ∈ ds, c.isDigit) ∧ n.toInt = signed negative (Nat.ofDigitChars 10 ds 0) := by
  constructor
  case mp  =>
    intro h
    cases hm : readDigits negative 0 ds <;> rw [hm] at h
    case error => cases h
    case ok m  =>
      obtain ⟨hd, hl, rfl⟩ := readDigits_zero_eq_ok_iff.mp hm
      obtain rfl := Except.ok.inj h
      refine ⟨hd, Int32.toInt_ofInt_of_le ?_ ?_⟩ <;> cases negative
      all_goals
        simp only [signed, limit, Bool.false_eq_true, if_false, if_true] at hl ⊢
        omega
  case mpr =>
    rintro ⟨hd, hn⟩
    have := n.toInt_lt
    have := n.le_toInt
    have hl : Nat.ofDigitChars 10 ds 0 ≤ limit negative := by
      cases negative <;> simp only [signed, limit, Bool.false_eq_true, if_false, if_true] at hn ⊢
      all_goals omega
    rw [readDigits_zero_eq_ok_iff.mpr ⟨hd, hl, rfl⟩, ← hn]
    exact congrArg Except.ok n.ofInt_toInt

theorem not_numeral_nil : ¬Numeral [] :=
  fun h => h.nonempty rfl

theorem Numeral.isDigit (h : Numeral (c :: cs)) : c.isDigit :=
  h.digits c List.mem_cons_self

theorem not_decimal_nil : ¬Decimal [] n := by
  intro h
  cases h
  case bare h => exact not_numeral_nil h

theorem decimal_plus_iff : Decimal ('+' :: ds) n ↔ Numeral ds ∧ n = Nat.ofDigitChars 10 ds 0 := by
  constructor
  case mp  =>
    intro h
    cases h
    case bare h     => exact absurd h.isDigit (by decide)
    case positive h => exact ⟨h, rfl⟩
  case mpr => rintro ⟨h, rfl⟩; exact .positive h

theorem decimal_minus_iff :
    Decimal ('-' :: ds) n ↔ Numeral ds ∧ n = -Nat.ofDigitChars 10 ds 0 := by
  constructor
  case mp  =>
    intro h
    cases h
    case bare h     => exact absurd h.isDigit (by decide)
    case negative h => exact ⟨h, rfl⟩
  case mpr => rintro ⟨h, rfl⟩; exact .negative h

theorem decimal_bare_iff (hp : ∀ cs, ds = '+' :: cs → False) (hm : ∀ cs, ds = '-' :: cs → False) :
    Decimal ds n ↔ Numeral ds ∧ n = Nat.ofDigitChars 10 ds 0 := by
  constructor
  case mp  =>
    intro h
    cases h
    case bare h     => exact ⟨h, rfl⟩
    case positive h => exact (hp _ rfl).elim
    case negative h => exact (hm _ rfl).elim
  case mpr => rintro ⟨h, rfl⟩; exact .bare h

-- Exactly the decimal numbers of 32 bits are read, each as what it denotes.
theorem readInt32_eq_ok_iff : readInt32 cs = .ok n ↔ Decimal cs n.toInt := by
  have numeral_iff {ds : List Char} (h : ds ≠ []) : Numeral ds ↔ ∀ c ∈ ds, c.isDigit :=
    ⟨Numeral.digits, .mk h⟩
  rw [readInt32.eq_def]
  split
  case h_1          => exact iff_of_false nofun not_decimal_nil
  case h_2          =>
    exact iff_of_false nofun fun h => not_numeral_nil (decimal_plus_iff.mp h).left
  case h_3          =>
    exact iff_of_false nofun fun h => not_numeral_nil (decimal_minus_iff.mp h).left
  case h_4 ds hd    => rw [map_readDigits_eq_ok_iff, decimal_plus_iff, numeral_iff hd]; rfl
  case h_5 ds hd    => rw [map_readDigits_eq_ok_iff, decimal_minus_iff, numeral_iff hd]; rfl
  case h_6 ds hn _ _ hp hm =>
    rw [map_readDigits_eq_ok_iff, decimal_bare_iff hp hm, numeral_iff hn]
    rfl

end ClientScript.Text
