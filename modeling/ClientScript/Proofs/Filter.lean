import ClientScript.Filter
import ClientScript.Proofs.Text.Lowercase

namespace ClientScript

def lowered (s : String) : String :=
  String.ofList (Text.lower s.toList)

theorem toList_lowered (s : String) : (lowered s).toList = Text.lower s.toList :=
  String.toList_ofList

variable {part other name longer : String}

theorem accepts_some_iff : accepts (some part) name ↔
    part.toList <:+: name.toList ∨ Text.lower part.toList <:+: Text.lower name.toList := by
  rw [accepts, Bool.or_eq_true, Text.occursIn_iff, Text.occursIn_iff]

theorem accepts_some_iff_lower (h : '\u03a3' ∉ part.toList) : accepts (some part) name ↔
    Text.lower part.toList <:+: Text.lower name.toList :=
  accepts_some_iff.trans (or_iff_right_of_imp (Text.lower_infix h))

theorem accepts_lowered_part (h : '\u03a3' ∉ part.toList) :
    accepts (some (lowered part)) name = accepts (some part) name := by
  have hl : '\u03a3' ∉ (lowered part).toList := toList_lowered part ▸ Text.sigma_not_mem_lower _
  rw [Bool.eq_iff_iff, accepts_some_iff_lower hl, accepts_some_iff_lower h, toList_lowered,
    Text.lower_lower]

theorem accepts_lowered_name (h : '\u03a3' ∉ part.toList) :
    accepts (some part) (lowered name) = accepts (some part) name := by
  rw [Bool.eq_iff_iff, accepts_some_iff_lower h, accepts_some_iff_lower h, toList_lowered,
    Text.lower_lower]

theorem accepts_of_name_infix (hp : '\u03a3' ∉ part.toList) (hn : '\u03a3' ∉ name.toList)
    (h : name.toList <:+: longer.toList) (ha : accepts (some part) name) :
    accepts (some part) longer := by
  rw [accepts_some_iff_lower hp] at ha ⊢
  exact ha.trans (Text.lower_infix hn h)

theorem accepts_of_infix_part (hp : '\u03a3' ∉ part.toList) (h : other.toList <:+: part.toList)
    (ha : accepts (some part) name) : accepts (some other) name := by
  have ho : '\u03a3' ∉ other.toList := fun hm => hp (h.subset hm)
  rw [accepts_some_iff_lower hp] at ha
  rw [accepts_some_iff_lower ho]
  exact (Text.lower_infix ho h).trans ha

-- A filter without the letter whose form depends on its place compares lower-case forms and nothing
-- else. So it accepts the same in lower case, and it does not lose a name that grows or that is
-- asked for less of.
theorem accepts_folded (part : String) (hp : '\u03a3' ∉ part.toList) :
    (∀ name, (accepts (some part) name ↔
        Text.lower part.toList <:+: Text.lower name.toList) ∧
      (part.toList <:+: name.toList → Text.lower part.toList <:+: Text.lower name.toList) ∧
      accepts (some (lowered part)) name = accepts (some part) name ∧
      accepts (some part) (lowered name) = accepts (some part) name) ∧
    (∀ name, '\u03a3' ∉ name.toList → accepts (some part) name →
      ∀ longer : String, name.toList <:+: longer.toList → accepts (some part) longer) ∧
    ∀ name, accepts (some part) name →
      ∀ other : String, other.toList <:+: part.toList → accepts (some other) name := by
  refine ⟨fun name => ?forms, fun name hn ha longer h => ?longer, fun name ha other h => ?shorter⟩
  case forms   =>
    exact ⟨accepts_some_iff_lower hp, Text.lower_infix hp, accepts_lowered_part hp,
      accepts_lowered_name hp⟩
  case longer  => exact accepts_of_name_infix hp hn h ha
  case shorter => exact accepts_of_infix_part hp h ha

-- The form of the dotted capital is longer than the letter, and stands in the name as it is.
theorem accepts_folded_dotted :
    let part := "\u0130N"
    let name := "[proc,i\u0307nit]"
    '\u03a3' ∉ part.toList ∧ '\u03a3' ∉ name.toList ∧ ¬part.toList <:+: name.toList ∧
      accepts (some part) name ∧ accepts (some (lowered part)) name ∧
      accepts (some part) ("\u03a3" ++ name) ∧ accepts (some "N") name := by
  intro part name
  have hp : '\u03a3' ∉ part.toList := by decide +kernel
  have hn : '\u03a3' ∉ name.toList := by decide +kernel
  have cased : ¬part.toList <:+: name.toList := by
    rw [← Text.occursIn_iff]
    decide +kernel
  have folded : Text.lower part.toList <:+: Text.lower name.toList :=
    Text.occursIn_iff.mp (by decide +kernel)
  obtain ⟨forms, grown, shrunk⟩ := accepts_folded part hp
  obtain ⟨hf, _, hl, _⟩ := forms name
  have accepted := hf.mpr folded
  refine ⟨hp, hn, cased, accepted, hl.trans accepted, ?_, ?_⟩
  case refine_1 => exact grown name hn accepted _ ⟨['\u03a3'], [], by decide +kernel⟩
  case refine_2 => exact shrunk name accepted "N" ⟨['\u0130'], [], by decide +kernel⟩

end ClientScript
