import ClientScript.Proofs.Text.Digits
import ClientScript.Text.Quoted
import Mathlib.Tactic.Common

namespace ClientScript.Text

def unescape : Char → Char
  | 'n' => '\n'
  | 'r' => '\r'
  | 't' => '\t'
  | '0' => '\x00'
  | c   => c

-- A character is written as itself, as another one behind a backslash, or as its code.
inductive Quotes (c : Char) : List Char → Prop
  | plain (h : c ≠ '\\') (hq : c ≠ '"') (hn : c ≠ '\n')                   : Quotes c [c]
  | escape (h : unescape e = c) (hu : e ≠ 'u') (hn : e ≠ '\n')            : Quotes c ['\\', e]
  | code : Quotes c ('\\' :: 'u' :: '\x7b' :: (Nat.toDigits 16 c.toNat ++ ['\x7d']))

theorem quotes_quoteChar (c : Char) : Quotes c (quoteChar c) := by
  rw [quoteChar.eq_def]
  split
  case h_7 hq hb hn _ _ _ =>
    split
    case isTrue  => exact .code
    case isFalse => exact .plain hb hq hn
  all_goals exact .escape rfl (by decide) (by decide)

theorem isHex_of_mem_toDigits (h : c ∈ Nat.toDigits 16 n) : c ∈ "0123456789abcdef".toList := by
  induction n using Nat.strong_induction_on
  case h n hi =>
    have hd : ∀ k < 16, k.digitChar ∈ "0123456789abcdef".toList := by decide
    rw [Nat.toDigits_eq_if (by decide)] at h
    split at h
    case isTrue hn =>
      rw [List.mem_singleton.mp h]
      exact hd n hn
    case isFalse hn =>
      rcases List.mem_append.mp h with h | h
      · exact hi (n / 16) (by omega) h
      · rw [List.mem_singleton.mp h]
        exact hd _ (Nat.mod_lt n (by decide))

theorem Quotes.inj (hc : Quotes c cs) (hd : Quotes d ds) (h : cs ++ r = ds ++ s) :
    c = d ∧ r = s := by
  cases hc <;> cases hd <;> simp only [List.cons_append, List.nil_append] at h
  case plain.plain => exact List.cons.inj h
  case plain.escape hc _ _ _ _ _ _ => exact absurd (List.cons.inj h).left hc
  case plain.code hc _ _ => exact absurd (List.cons.inj h).left hc
  case escape.plain hd _ _ => exact absurd (List.cons.inj h).left.symm hd
  case code.plain hd _ _ => exact absurd (List.cons.inj h).left.symm hd
  case escape.escape e hc _ _ f hd _ _ =>
    have ⟨he, hrs⟩ := List.cons.inj (List.cons.inj h).right
    exact ⟨by rw [← hc, he, hd], hrs⟩
  case escape.code hu _ => exact absurd (List.cons.inj (List.cons.inj h).right).left hu
  case code.escape hu _ => exact absurd (List.cons.inj (List.cons.inj h).right).left.symm hu
  case code.code =>
    have hex : ∀ n, ∀ c ∈ Nat.toDigits 16 n, (c != '\x7d') = true := by
      intro n c hc
      have hm : "0123456789abcdef".toList.all (· != '\x7d') := rfl
      exact List.all_eq_true.mp hm c (isHex_of_mem_toDigits hc)
    have h := (List.cons.inj (List.cons.inj (List.cons.inj h).right).right).right
    rw [List.append_assoc, List.append_assoc] at h
    have ⟨hn, hrs⟩ := Ends.append_inj (hex _) (hex _) (.cons rfl) (.cons rfl) h
    have hcd := toDigits_injective (by decide) (by decide) hn
    exact ⟨Char.toNat_inj.mp hcd, (List.cons.inj hrs).right⟩

theorem Quotes.append_ne_quote (hc : Quotes c cs) : cs ++ r ≠ '"' :: s := by
  intro h
  cases hc
  case plain hq _ => exact absurd (List.cons.inj h).left hq
  all_goals exact absurd (List.cons.inj h).left (by decide)

theorem toList_quoted (s : String) :
    (quoted s).toList = '"' :: (s.toList.flatMap quoteChar ++ ['"']) := by
  simp [quoted]

-- The closing quote is the first one that no backslash stands in front of.
theorem quoted_inj {cs ds : List Char}
    (h : cs.flatMap quoteChar ++ '"' :: r = ds.flatMap quoteChar ++ '"' :: s) :
    cs = ds ∧ r = s := by
  induction cs generalizing ds
  case nil =>
    cases ds
    case nil       => exact ⟨rfl, (List.cons.inj h).right⟩
    case cons d ds =>
      rw [List.flatMap_cons, List.append_assoc] at h
      exact absurd h.symm (quotes_quoteChar d).append_ne_quote
  case cons c cs hi =>
    rw [List.flatMap_cons, List.append_assoc] at h
    cases ds
    case nil       => exact absurd h (quotes_quoteChar c).append_ne_quote
    case cons d ds =>
      rw [List.flatMap_cons, List.append_assoc] at h
      have ⟨hcd, h⟩ := (quotes_quoteChar c).inj (quotes_quoteChar d) h
      have ⟨hcs, hrs⟩ := hi h
      exact ⟨List.cons_eq_cons.mpr ⟨hcd, hcs⟩, hrs⟩

end ClientScript.Text
