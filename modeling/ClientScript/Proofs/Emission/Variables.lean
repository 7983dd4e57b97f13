import ClientScript.Proofs.Dump.Expression
import ClientScript.Proofs.Emission.Declaration

namespace ClientScript

open Text (Ends)

theorem Stack.literal_injective : literal.Injective := by
  intro a b h
  cases a <;> cases b <;> first | rfl | exact absurd h (by decide)

theorem Ty.head?_literal_ne (t : Ty) : t.literal.toList.head? ≠ some 'a' := by
  cases t <;> decide

namespace Variable

def sigil (v : Variable) : Char :=
  if v.kind = .frame then '$' else '%'

def word (v : Variable) : String :=
  match v.kind with
  | .frame  => v.ty.literal
  | .varp   => "var"
  | .varbit => "varbit"
  | .varc   => "varc" ++ v.ty.stack.literal
  | .stack  => ""

def spelling (v : Variable) : List Char :=
  v.sigil :: (v.word.toList ++ Nat.toDigits 10 v.id.toNat)

variable {v w : Variable}

theorem text_eq_spelling (h : v.kind ≠ .stack) : v.text = .ok (String.ofList v.spelling) := by
  have hs (s : String) (hs : s.toList = v.spelling) : s = String.ofList v.spelling := by
    rw [← hs, String.ofList_toList]
  rw [text]
  cases hk : v.kind
  case stack => exact absurd hk h
  all_goals exact congrArg Except.ok (hs _ (by simp [spelling, sigil, word, hk]))

theorem isAlpha_of_mem_word (v : Variable) : ∀ c ∈ v.word.toList, c.isAlpha := by
  apply List.all_eq_true.mp
  rw [word]
  cases v.kind <;> dsimp only
  case frame => exact List.all_eq_true.mpr v.ty.isAlpha_of_mem_literal
  case varc  => cases v.ty.stack <;> decide +kernel
  all_goals rfl

theorem ne_varc_append (a : Stack) :
    "var" ≠ "varc" ++ a.literal ∧ "varbit" ≠ "varc" ++ a.literal := by
  cases a <;> decide

-- Sigil and word tell where a variable lives, and what its text knows of its type.
theorem sigil_word_eq_iff : v.sigil = w.sigil ∧ v.word = w.word ↔ v.kind = w.kind ∧
    (v.kind = .frame → v.ty = w.ty) ∧ (v.kind = .varc → v.ty.stack = w.ty.stack) := by
  have ne (u : Variable) := ne_varc_append u.ty.stack
  rw [sigil, sigil, word, word]
  cases v.kind <;> cases w.kind
  case frame.frame => simp [Ty.literal_injective.eq_iff]
  case varc.varc   => simp [Stack.literal_injective.eq_iff]
  case varp.varc   => simp [(ne w).left]
  case varc.varp   => simp [(ne v).left.symm]
  case varbit.varc => simp [(ne w).right]
  case varc.varbit => simp [(ne v).right.symm]
  all_goals simp

theorem spelling_eq_iff :
    v.spelling = w.spelling ↔ (v.sigil = w.sigil ∧ v.word = w.word) ∧ v.id = w.id := by
  constructor
  case mp  =>
    intro h
    obtain ⟨hs, h⟩ := List.cons.inj h
    have ends (n : Nat) : Ends Char.isAlpha (Nat.toDigits 10 n) := by
      have he := ends_isAlpha_toDigits n []
      rwa [List.append_nil] at he
    obtain ⟨hw, hd⟩ := Ends.append_inj v.isAlpha_of_mem_word w.isAlpha_of_mem_word
      (ends v.id.toNat) (ends w.id.toNat) h
    have hn := Text.toDigits_injective (by decide) (by decide) hd
    exact ⟨⟨hs, String.toList_inj.mp hw⟩, UInt32.toNat_inj.mp hn⟩
  case mpr =>
    rintro ⟨⟨hs, hw⟩, hi⟩
    rw [spelling, spelling, hs, hw, hi]

theorem eq_of_text_eq (hv : v.kind = .frame) (hw : w.kind = .frame) (h : v.text = w.text) :
    v = w := by
  rw [text_eq_spelling (by simp [hv]), text_eq_spelling (by simp [hw])] at h
  obtain ⟨hsw, hi⟩ := spelling_eq_iff.mp (String.ofList_injective (Except.ok.inj h))
  obtain ⟨hk, ht, _⟩ := sigil_word_eq_iff.mp hsw
  cases v
  cases w
  simp_all

theorem text_ne_array (v : Variable) (rest : String) : v.text ≠ .ok ("$array" ++ rest) := by
  intro h
  have hk : v.kind ≠ .stack := by
    intro hk
    rw [text, hk] at h
    cases h
  rw [text_eq_spelling hk] at h
  have h := congrArg String.toList (Except.ok.inj h)
  rw [String.toList_ofList, String.toList_append] at h
  obtain ⟨hs, h⟩ := List.cons.inj h
  have hf : v.kind = .frame := by
    by_contra hn
    rw [sigil, if_neg hn] at hs
    cases hs
  obtain ⟨c, cs, hc, _⟩ := v.ty.exists_literal_eq_cons
  rw [word, hf] at h
  dsimp only at h
  rw [hc] at h
  have ha := v.ty.head?_literal_ne
  rw [hc, (List.cons.inj h).left] at ha
  exact ha rfl

end Variable

def Sentence.Introduces (s : Sentence) (name : String) : Prop :=
  ∃ v rest, s.instruction.target? = some v ∧ v.text = .ok name ∧ s.text = "def_" ++ rest

namespace Spells

variable {names : Names} {declared : List Variable} {slots : List Slot} {ls : List Line}
variable {a : Sentence}

theorem exists_declares (h : Spells names declared slots ls) (ha : a ∈ sentences slots ls)
    (hi : a.Introduces name) : ∃ v, a.Declares v ∧ v.kind = .frame ∧ v.text = .ok name ∧
      ∃ rest, a.text = "def_" ++ v.ty.literal ++ " " ++ name ++ " = " ++ rest := by
  obtain ⟨v, rest, ht, hn, hr⟩ := hi
  obtain ⟨before, after, hs⟩ := List.append_of_mem ha
  have htext := h.text_sentence hs
  obtain ⟨hk, value, hv⟩ := Instruction.target?_eq_some_iff.mp ht
  have hd : a.Declares v := by
    refine (Sentence.declares_iff htext).mpr ⟨ht, fun hm => ?_⟩
    obtain ⟨_, hl⟩ := Sentence.exists_text_of_mem htext ht hm
    have hc : a.text.toList.head? = some '$' := by simp [hl]
    exact ne_def_append hc (by decide) rest hr
  obtain ⟨value', hl⟩ := Instruction.exists_text_assign_local hk (hv ▸ htext)
  rw [if_neg ((Sentence.declares_iff htext).mp hd).right] at hl
  have hw := hn
  rw [Variable.text, hk] at hw
  obtain rfl := Except.ok.inj hw
  refine ⟨v, hd, hk, hn, value', ?_⟩
  simpa only [String.append_assoc] using hl

theorem pairwise_introduces (h : Spells names declared slots ls) :
    (sentences slots ls).Pairwise fun a b => ∀ name, ¬(a.Introduces name ∧ b.Introduces name) := by
  refine h.pairwise_declares.imp_of_mem fun {a b} ha hb hd name => ?_
  rintro ⟨hi, hj⟩
  obtain ⟨v, hv, hk, ht, _⟩ := h.exists_declares ha hi
  obtain ⟨w, hw, hl, hu, _⟩ := h.exists_declares hb hj
  obtain rfl := Variable.eq_of_text_eq hk hl (ht.trans hu.symm)
  exact hd v ⟨hv, hw⟩

end Spells

-- The texts of variables tell them apart, as far as they are different places: a local is told with
-- its type, and a client variable with the stack of its type. So no two declarations introduce the
-- same text.
theorem Variable.text_tells :
    (∀ v w : Variable, v.kind ≠ .stack → w.kind ≠ .stack →
      ∃ a b, v.text = .ok a ∧ w.text = .ok b ∧
        (a = b ↔ (v.kind = w.kind ∧ (v.kind = .frame → v.ty = w.ty) ∧
          (v.kind = .varc → v.ty.stack = w.ty.stack)) ∧ v.id = w.id)) ∧
    (∀ (v : Variable) (rest : String), v.text ≠ .ok ("$array" ++ rest)) ∧
    ∀ (s : Script) (names : Names) (unit text : String), s.emit names unit = .ok text →
      ∃ header ls, s.signature names = .ok header ∧
        text = "// " ++ toString s.id.toInt ++ "\n" ++ header ++
          String.join (ls.map fun l => "\n" ++ l.render unit) ++ "\n" ∧
        List.Forall₂ (Slot.Holds names) s.layout ls ∧
        s.instructions = (sentences s.layout ls).map (·.instruction) ++ s.elided ∧
        (∀ a ∈ sentences s.layout ls, ∀ name, a.Introduces name →
          ∃ v rest, a.Declares v ∧ v.text = .ok name ∧
            a.text = "def_" ++ v.ty.literal ++ " " ++ name ++ " = " ++ rest) ∧
        (sentences s.layout ls).Pairwise fun a b =>
          ∀ name, ¬(a.Introduces name ∧ b.Introduces name) := by
  refine ⟨fun v w hv hw => ?texts, text_ne_array, fun s names unit text h => ?declarations⟩
  case texts =>
    refine ⟨_, _, text_eq_spelling hv, text_eq_spelling hw, ?_⟩
    rw [String.ofList_inj, spelling_eq_iff, sigil_word_eq_iff]
  case declarations =>
    obtain ⟨header, ls, hh, ht, hs, hi⟩ := Script.emit_spells h
    refine ⟨header, ls, hh, ht, hs.holds, hi, fun a ha name hn => ?_, hs.pairwise_introduces⟩
    obtain ⟨v, hd, _, hv, rest, hr⟩ := hs.exists_declares ha hn
    exact ⟨v, rest, hd, hv, hr⟩

def Script.numbering : Script where
  id   := 8
  body :=
    let set (ty : Ty) (payload : Payload) :=
      Instruction.assign [⟨.frame, ty, 0⟩] (.const ⟨ty, payload⟩)
    .last (.seq [set .int (.int 5), set .string (.text "a"), set .int (.int 6)])

theorem Variable.text_tells_numbering :
    (⟨.varc, .int, 5⟩ : Variable).text = (⟨.varc, .coord, 5⟩ : Variable).text ∧
    (⟨.varbit, .int, 5⟩ : Variable).text ≠ (⟨.varc, .int, 5⟩ : Variable).text ∧
    Script.numbering.emit Names.unknown "" =
      .ok "// 8\nscript8\ndef_int $int0 = 5;\ndef_string $string0 = \"a\";\n$int0 = 6;\n" ∧
    ∃ ls, (sentences Script.numbering.layout ls).map (·.instruction) =
        Script.numbering.instructions ∧
      (sentences Script.numbering.layout ls).Pairwise fun a b =>
        ∀ name, ¬(a.Introduces name ∧ b.Introduces name) := by
  obtain ⟨texts, _, emitted⟩ := Variable.text_tells
  have same : (⟨.varc, .int, 5⟩ : Variable).text = (⟨.varc, .coord, 5⟩ : Variable).text := by
    obtain ⟨a, b, ha, hb, h⟩ := texts ⟨.varc, .int, 5⟩ ⟨.varc, .coord, 5⟩ (by decide) (by decide)
    rw [ha, hb, h.mpr (by decide)]
  have other : (⟨.varbit, .int, 5⟩ : Variable).text ≠ (⟨.varc, .int, 5⟩ : Variable).text := by
    obtain ⟨a, b, ha, hb, h⟩ := texts ⟨.varbit, .int, 5⟩ ⟨.varc, .int, 5⟩ (by decide) (by decide)
    rw [ha, hb]
    exact fun he => absurd (h.mp (Except.ok.inj he)) (by decide)
  have h : Script.numbering.emit Names.unknown "" = .ok _ := rfl
  obtain ⟨_, ls, _, _, _, hi, _, hp⟩ := emitted _ _ _ _ h
  have he : Script.numbering.elided = [] := rfl
  rw [he, List.append_nil] at hi
  exact ⟨same, other, h, ls, hi.symm, hp⟩

end ClientScript
