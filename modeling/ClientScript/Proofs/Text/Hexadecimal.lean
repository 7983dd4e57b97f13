import ClientScript.Proofs.Text.Quoted

namespace ClientScript.Text

def hexDigits : List Char :=
  "0123456789abcdef".toList

def ofHex (cs : List Char) : Nat :=
  cs.foldl (fun n c => 16 * n + hexDigits.idxOf c) 0

theorem idxOf_digitChar : ∀ k < 16, hexDigits.idxOf k.digitChar = k := by
  decide

theorem ofHex_concat (cs : List Char) (c : Char) :
    ofHex (cs ++ [c]) = 16 * ofHex cs + hexDigits.idxOf c := by
  rw [ofHex, List.foldl_append]
  rfl

theorem ofHex_toDigits (n : Nat) : ofHex (Nat.toDigits 16 n) = n := by
  induction n using Nat.strong_induction_on
  case h n hi =>
    rw [Nat.toDigits_eq_if (by decide)]
    split
    case isTrue hn  =>
      rw [← List.nil_append [n.digitChar], ofHex_concat, idxOf_digitChar n hn]
      exact Nat.zero_add n
    case isFalse hn =>
      rw [ofHex_concat, hi (n / 16) (by omega), idxOf_digitChar _ (Nat.mod_lt n (by decide))]
      exact Nat.div_add_mod n 16

theorem ofHex_zeros_append (width : Nat) (cs : List Char) :
    ofHex (List.replicate width '0' ++ cs) = ofHex cs := by
  induction width
  case zero       => rfl
  case succ n hi  => exact hi

end ClientScript.Text
