import ClientScript.Json.Reader
import ClientScript.Json.Writer
import Mathlib.Tactic.Common

namespace ClientScript.Json

def unitOf (c : Char) : TextUnit :=
  if c < ' ' ∧ c ∉ ['\x08', '\x0c', '\n', '\r', '\t'] then .code c.toNat else .char c

theorem hexUnit?_hexChar :
    ∀ n < 32, hexUnit? '0' '0' (hexChar (n / 16)) (hexChar (n % 16)) = some n := by
  decide

theorem toNat_lt_of_lt_space {c : Char} (h : c < ' ') : c.toNat < 32 :=
  h

theorem readUnits_writeChar (c : Char) (rest : List Char) :
    readUnits (writeChar c ++ rest) =
      (readUnits rest).map fun (us, left) => (unitOf c :: us, left) := by
  rw [writeChar.eq_def]
  split
  case h_8 hq hb h₁ h₂ h₃ h₄ h₅ =>
    split
    case isTrue hc =>
      have hu : unitOf c = .code c.toNat := by simp_all [unitOf]
      simp [readUnits, hexUnit?_hexChar _ (toNat_lt_of_lt_space hc), hu]
    case isFalse hc =>
      have hu : unitOf c = .char c := by simp_all [unitOf]
      rw [List.singleton_append, readUnits.eq_def]
      split
      case h_5 h =>
        cases h
        have hn : ¬(decide (c < ' ') || decide (c = '\\')) = true := by
          simpa using And.intro hc hb
        rw [if_neg hn, hu]
      all_goals simp_all
  all_goals rfl

theorem joinUnits_unitOf (c : Char) (us : List TextUnit) :
    joinUnits (unitOf c :: us) = (c :: ·) <$> joinUnits us := by
  rw [unitOf]
  split
  case isTrue hc =>
    have hn := toNat_lt_of_lt_space hc.left
    have hh : isHighSurrogate c.toNat = false := by simp [isHighSurrogate]; omega
    have hl : isLowSurrogate c.toNat = false := by simp [isLowSurrogate]; omega
    rw [joinUnits.eq_def]
    simp [hh, hl]
  case isFalse => rfl

theorem readUnits_flatMap_writeChar (cs rest : List Char) :
    readUnits (cs.flatMap writeChar ++ '"' :: rest) = some (cs.map unitOf, rest) := by
  induction cs
  case nil          => rfl
  case cons c cs hi =>
    rw [List.flatMap_cons, List.append_assoc, readUnits_writeChar, hi]
    rfl

theorem joinUnits_map_unitOf (cs : List Char) : joinUnits (cs.map unitOf) = some cs := by
  induction cs
  case nil          => rfl
  case cons c cs hi => rw [List.map_cons, joinUnits_unitOf, hi]; rfl

theorem toList_writeText (s : String) :
    (writeText s).toList = '"' :: (s.toList.flatMap writeChar ++ ['"']) := by
  simp [writeText]

theorem readText_flatMap_writeChar (s : String) (rest : List Char) :
    readText (s.toList.flatMap writeChar ++ '"' :: rest) = some (some s, rest) := by
  simp [readText, readUnits_flatMap_writeChar, joinUnits_map_unitOf]

end ClientScript.Json
