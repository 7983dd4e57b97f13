import ClientScript.Text.Lowercase
import Mathlib.Data.List.Infix

namespace ClientScript.Text

namespace CaseRange

variable {r s : CaseRange}

-- No form of one range is in another range: the forms lie below it, above it, or between its code
-- points.
def apart (r s : CaseRange) : Bool :=
  (r.high + r.shift).toNat.blt s.low || s.high.blt (r.low + r.shift).toNat ||
    (decide (r.step = 2) || decide (r.low = r.high)) && decide (s.step = 2) &&
      decide ((r.low + r.shift - s.low) % 2 = 1)

theorem has_iff : r.has n ↔ r.low ≤ n ∧ n ≤ r.high ∧ (n - r.low) % r.step = 0 := by
  simp [has, and_assoc]

theorem not_has_zero (h : 0 < s.low) : ¬s.has 0 := by
  rw [has_iff]
  omega

theorem not_has_of_apart (h : r.apart s) (hs : 0 < s.low) (hn : r.has n) :
    ¬s.has (n + r.shift).toNat := by
  simp only [apart, Bool.or_eq_true, Bool.and_eq_true, decide_eq_true_eq, Nat.blt_eq] at h
  obtain ⟨hl, hh, hm⟩ := has_iff.mp hn
  rw [has_iff]
  rcases h with (below | above) | ⟨⟨even | single, hs2⟩, odd⟩
  case inl.inl      => omega
  case inl.inr      => omega
  case inr.inl      =>
    rw [even] at hm
    rw [hs2]
    omega
  case inr.inr      =>
    rw [hs2]
    omega

end CaseRange

-- The dotted capital I is not in the table, because its form has two characters.
def dotted : CaseRange :=
  { low := 0x130, high := 0x130, step := 1, shift := 0 }

def changing : List CaseRange :=
  dotted :: caseRanges

theorem changing_pos : changing.all (0 < ·.low) := by
  decide +kernel

theorem apart_changing : caseRanges.all fun r => changing.all r.apart := by
  decide +kernel

theorem any_has_sigma : caseRanges.any (·.has '\u03a3'.toNat) := by
  decide +kernel

-- A code point that is its own form.
def Settled (n : Nat) : Prop :=
  ∀ s ∈ changing, ¬s.has n

theorem settled_iff : Settled n ↔ n ≠ 0x130 ∧ caseRanges.find? (·.has n) = none := by
  have hd : dotted.has n ↔ n = 0x130 := by
    rw [CaseRange.has_iff]
    dsimp only [dotted]
    omega
  rw [Settled, changing, List.forall_mem_cons, hd, List.find?_eq_none]

theorem settled_zero : Settled 0 := fun s hs =>
  CaseRange.not_has_zero (of_decide_eq_true (List.all_eq_true.mp changing_pos s hs))

theorem settled_shift {r : CaseRange} (hr : r ∈ caseRanges) (hn : r.has n) :
    Settled (n + r.shift).toNat := by
  intro s hs
  have hp := of_decide_eq_true (List.all_eq_true.mp changing_pos s hs)
  have ha := List.all_eq_true.mp (List.all_eq_true.mp apart_changing r hr) s hs
  exact CaseRange.not_has_of_apart ha hp hn

theorem toNat_ofNat (n : Nat) : (Char.ofNat n).toNat = n ∨ (Char.ofNat n).toNat = 0 := by
  rw [Char.ofNat]
  by_cases h : n.isValidChar
  case pos =>
    rw [dif_pos h]
    exact .inl rfl
  case neg =>
    rw [dif_neg h]
    exact .inr rfl

theorem Settled.ofNat (h : Settled n) : Settled (Char.ofNat n).toNat := by
  rcases toNat_ofNat n with hn | hn <;> rw [hn]
  case inl => exact h
  case inr => exact settled_zero

theorem Settled.lowerChar_eq {c : Char} (h : Settled c.toNat) : lowerChar c = [c] := by
  obtain ⟨hd, hf⟩ := settled_iff.mp h
  have hd : c ≠ '\u0130' := by
    rintro rfl
    exact hd rfl
  rw [lowerChar, if_neg hd, hf]

theorem Settled.ne_sigma {c : Char} (h : Settled c.toNat) : c ≠ '\u03a3' := by
  rintro rfl
  obtain ⟨s, hs, hn⟩ := List.any_eq_true.mp any_has_sigma
  exact h s (List.mem_cons_of_mem _ hs) hn

theorem settled_of_mem_lowerChar (h : d ∈ lowerChar c) : Settled d.toNat := by
  rw [lowerChar] at h
  split at h
  case isTrue     =>
    rw [settled_iff]
    rcases List.mem_pair.mp h with rfl | rfl
    case inl => decide +kernel
    case inr => decide +kernel
  case isFalse hd =>
    split at h
    case h_1 r hr =>
      obtain rfl := List.mem_singleton.mp h
      have hn := List.find?_some hr
      exact (settled_shift (List.mem_of_find?_eq_some hr) hn).ofNat
    case h_2 hn   =>
      obtain rfl := List.mem_singleton.mp h
      refine settled_iff.mpr ⟨fun hc => hd ?_, hn⟩
      exact Char.toNat_inj.mp hc

theorem settled_of_mem_lowerAfter (h : c ∈ lowerAfter before cs) : Settled c.toNat := by
  induction cs generalizing before
  case nil          => cases h
  case cons d cs hi =>
    rw [lowerAfter, List.mem_append] at h
    rcases h with h | h
    case inl =>
      split at h
      case isTrue  =>
        rw [settled_iff]
        split at h <;> obtain rfl := List.mem_singleton.mp h <;> decide +kernel
      case isFalse => exact settled_of_mem_lowerChar h
    case inr => exact hi h

theorem sigma_not_mem_lower (cs : List Char) : '\u03a3' ∉ lower cs :=
  fun h => (settled_of_mem_lowerAfter h).ne_sigma rfl

theorem lower_eq_flatMap {cs : List Char} (h : '\u03a3' ∉ cs) : lower cs = cs.flatMap lowerChar :=
  lowerAfter_of_no_sigma [] h

theorem lower_lower (cs : List Char) : lower (lower cs) = lower cs := by
  have hs : ∀ c ∈ lower cs, lowerChar c = [c] := fun c hc =>
    (settled_of_mem_lowerAfter hc).lowerChar_eq
  rw [lower_eq_flatMap (sigma_not_mem_lower cs), List.flatMap_congr hs, List.flatMap_singleton']

-- A text does not change what is made of the text behind it but by standing in front of it.
theorem exists_lowerAfter_append (before as bs : List Char) :
    ∃ front, lowerAfter before (as ++ bs) = front ++ lowerAfter (as.reverse ++ before) bs := by
  induction as generalizing before
  case nil          => exact ⟨[], rfl⟩
  case cons a as hi =>
    obtain ⟨front, hf⟩ := hi (a :: before)
    rw [List.cons_append, lowerAfter, hf, List.reverse_cons, List.append_assoc, ← List.append_assoc]
    exact ⟨_, rfl⟩

theorem lowerAfter_append_of_no_sigma {cs : List Char} (before rest : List Char)
    (h : '\u03a3' ∉ cs) : lowerAfter before (cs ++ rest) =
      cs.flatMap lowerChar ++ lowerAfter (cs.reverse ++ before) rest := by
  induction cs generalizing before
  case nil          => rfl
  case cons c cs hi =>
    obtain ⟨hc, hs⟩ := List.ne_and_not_mem_of_not_mem_cons h
    rw [List.cons_append, lowerAfter, if_neg hc.symm, hi _ hs]
    simp

-- The form of a text stands in the form of whatever it stands in.
theorem lower_infix {part cs : List Char} (hp : '\u03a3' ∉ part) (h : part <:+: cs) :
    lower part <:+: lower cs := by
  obtain ⟨as, bs, rfl⟩ := h
  obtain ⟨front, hf⟩ := exists_lowerAfter_append [] as (part ++ bs)
  rw [List.append_assoc, lower, lower, hf, lowerAfter_append_of_no_sigma _ _ hp,
    lowerAfter_of_no_sigma _ hp, ← List.append_assoc]
  exact ⟨front, _, rfl⟩

end ClientScript.Text
