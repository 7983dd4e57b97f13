import ClientScript.Proofs.Emission.Filled

namespace ClientScript

structure Sentence where
  instruction : Instruction
  text        : String

def sentences (slots : List Slot) (ls : List Line) : List Sentence :=
  (slots.zip ls).filterMap fun (s, l) => s.role.instruction?.map ({ instruction := ·, text := l.text })

-- Where an instruction is not among the last ones that have no sentence, it has one.
theorem exists_sentences_eq_append {ss : List Sentence}
    (h : ss.map (·.instruction) ++ rest = before ++ i :: after) (hr : i ∉ rest) :
    ∃ first s last, ss = first ++ s :: last ∧ first.map (·.instruction) = before ∧
      s.instruction = i := by
  rcases List.append_eq_append_iff.mp h with ⟨late, _, he⟩ | ⟨late, hb, he⟩
  case inl => exact absurd (he ▸ by simp) hr
  case inr =>
    cases late
    case nil =>
      rw [List.nil_append] at he
      exact absurd (he ▸ by simp) hr
    case cons j late =>
      obtain ⟨rfl, _⟩ := List.cons.inj he
      obtain ⟨first, tail, rfl, hf, ht⟩ := List.map_eq_append_iff.mp hb
      obtain ⟨s, last, rfl, hs, _⟩ := List.map_eq_cons_iff.mp ht
      exact ⟨first, s, last, rfl, hf, hs⟩

-- A declaration assigns one local and begins with the keyword.
structure Sentence.Declares (s : Sentence) (v : Variable) : Prop where
  target  : s.instruction.target? = some v
  keyword : ∃ rest, s.text = "def_" ++ v.ty.literal ++ " " ++ rest

theorem sentences_cons_statement :
    sentences (⟨depth, .statement i⟩ :: slots) (l :: ls) = ⟨i, l.text⟩ :: sentences slots ls :=
  rfl

theorem sentences_cons (h : s.role.instruction? = none) :
    sentences (s :: slots) (l :: ls) = sentences slots ls := by
  simp [sentences, h]

theorem ne_def_append {t : String} (h : t.toList.head? = some c) (hc : c ≠ 'd') (rest : String) :
    t ≠ "def_" ++ rest := by
  intro ht
  rw [ht, String.toList_append] at h
  exact hc (Option.some.inj h).symm

theorem Variable.exists_text_eq_cons {v : Variable} (h : v.text = .ok t) :
    ∃ c cs, t.toList = c :: cs ∧ c ≠ 'd' := by
  cases hk : v.kind <;> rw [Variable.text, hk] at h <;> cases h
  all_goals simp

namespace Instruction

variable {names : Names} {declared : List Variable} {v w : Variable} {vs : List Variable}

theorem target?_eq_some_iff {i : Instruction} :
    i.target? = some v ↔ v.kind = .frame ∧ ∃ value, i = assign [v] value := by
  rcases i with ⟨_ | ⟨w, _ | ⟨_, _⟩⟩, value⟩ | value <;> simp [target?]
  rintro rfl
  rfl

theorem mem_targetsOf_iff {is : List Instruction} :
    v ∈ targetsOf is ↔ ∃ i ∈ is, i.target? = some v :=
  List.mem_filterMap

theorem exists_text_assign_local (hv : v.kind = .frame)
    (h : (assign [v] value).text names declared = .ok t) :
    ∃ rest, t = (if v ∈ declared then "" else "def_" ++ v.ty.literal ++ " ") ++
      ("$" ++ v.ty.literal ++ toString v.id.toNat ++ " = " ++ rest) := by
  have hw : v.text = .ok ("$" ++ v.ty.literal ++ toString v.id.toNat) := by
    rw [Variable.text, hv]
  simp only [text, targetsText, hw, hv, true_and, ok_bind, bind_eq_ok_iff] at h
  obtain ⟨_, ht, w, _, h⟩ := h
  cases ht
  cases h
  refine ⟨w ++ ";", ?_⟩
  rw [ite_not]
  simp only [String.append_assoc]

theorem text_assign_several_ne (h : (assign (v :: w :: vs) value).text names declared = .ok t)
    (rest : String) : t ≠ "def_" ++ rest := by
  simp only [text, targetsText, listText, List.map_cons, List.mapM_cons, id, bind_eq_ok_iff] at h
  obtain ⟨_, ⟨_, ⟨_, ⟨first, hv, others, _, ho⟩, h₁⟩, h₂⟩, _, _, h₃⟩ := h
  cases ho
  cases h₁
  cases h₂
  cases h₃
  obtain ⟨c, cs, hc, hd⟩ := Variable.exists_text_eq_cons hv
  apply ne_def_append _ hd
  simp only [String.toList_append, String.toList_intercalate, List.map_cons, hc,
    List.intercalate_cons_cons_left]
  rfl

end Instruction

namespace Sentence

variable {names : Names} {declared : List Variable} {s : Sentence} {v : Variable}

theorem exists_text_of_mem (h : s.instruction.text names declared = .ok s.text)
    (ht : s.instruction.target? = some v) (hv : v ∈ declared) :
    ∃ rest, s.text = "$" ++ v.ty.literal ++ toString v.id.toNat ++ " = " ++ rest := by
  have ⟨hk, value, hi⟩ := Instruction.target?_eq_some_iff.mp ht
  have ⟨rest, h⟩ := Instruction.exists_text_assign_local hk (hi ▸ h)
  rw [if_pos hv, String.empty_append] at h
  exact ⟨rest, h⟩

theorem declares_iff (h : s.instruction.text names declared = .ok s.text) :
    s.Declares v ↔ s.instruction.target? = some v ∧ v ∉ declared := by
  constructor
  case mp =>
    intro ⟨ht, rest, hr⟩
    refine ⟨ht, fun hv => ?_⟩
    have ⟨rest', h⟩ := exists_text_of_mem h ht hv
    have hc : s.text.toList.head? = some '$' := by simp [h]
    rw [String.append_assoc, String.append_assoc] at hr
    exact ne_def_append hc (by decide) _ hr
  case mpr =>
    intro ⟨ht, hv⟩
    have ⟨hk, value, hi⟩ := Instruction.target?_eq_some_iff.mp ht
    have ⟨rest, h⟩ := Instruction.exists_text_assign_local hk (hi ▸ h)
    rw [if_neg hv] at h
    exact ⟨ht, _, h⟩

end Sentence

namespace Spells

variable {names : Names} {declared : List Variable} {slots : List Slot} {ls : List Line}

theorem instructions_sentences (h : Spells names declared slots ls) :
    (sentences slots ls).map (·.instruction) = statements slots := by
  induction h
  case nil             => rfl
  case statement hi    => exact congrArg (_ :: ·) hi
  case other hr _ _ hi => rw [sentences_cons hr, hi, statements_cons hr]

-- The text of a sentence depends on the sentences in front of it, and not on where they stand.
theorem text_sentence (h : Spells names declared slots ls)
    (hs : sentences slots ls = before ++ s :: after) :
    s.instruction.text names (targetsOf (before.map (·.instruction)) ++ declared) = .ok s.text := by
  induction h generalizing before
  case nil => cases before <;> cases hs
  case statement ht _ hi =>
    rw [sentences_cons_statement] at hs
    cases before
    case nil =>
      cases hs
      exact ht
    case cons b before =>
      obtain ⟨hb, hr⟩ := List.cons.inj hs
      subst hb
      rw [← hi hr]
      exact Instruction.text_congr (mem_targetsOf_append [_] _ _)
  case other hr _ _ hi =>
    rw [sentences_cons hr] at hs
    exact hi hs

theorem declares_iff (h : Spells names declared slots ls)
    (hs : sentences slots ls = before ++ s :: after) :
    s.Declares v ↔ s.instruction.target? = some v ∧ v ∉ declared ∧
      ∀ b ∈ before, b.instruction.target? ≠ some v := by
  rw [Sentence.declares_iff (h.text_sentence hs), List.mem_append, not_or, and_comm (b := v ∉ declared),
    Instruction.mem_targetsOf_iff]
  simp

-- The first declaration of a local is the only one.
theorem pairwise_declares (h : Spells names declared slots ls) :
    (sentences slots ls).Pairwise fun a b => ∀ v, ¬(a.Declares v ∧ b.Declares v) := by
  rw [List.pairwise_iff_getElem]
  intro i j _ hj hij v ⟨ha, hb⟩
  have hs : sentences slots ls = (sentences slots ls).take j ++ (sentences slots ls)[j] ::
      (sentences slots ls).drop (j + 1) := by simp
  have hf := h.declares_iff hs |>.mp hb |>.right.right
  exact hf _ (List.mem_take_iff_getElem.mpr ⟨i, by omega, rfl⟩) ha.target

end Spells

theorem Script.isReturn_of_mem_elided {s : Script} (h : i ∈ s.elided) : i.isReturn := by
  rw [elided, List.mem_flatMap] at h
  obtain ⟨j, hj, hi⟩ := h
  obtain ⟨_, he⟩ := Option.filter_eq_some_iff.mp (Option.mem_toList.mp hj)
  have hr := Bool.and_eq_true_iff.mp he |>.right
  cases j
  case instruction j => exact List.mem_singleton.mp hi ▸ hr
  case block         => cases hr

theorem Script.emit_spells {s : Script} (h : s.emit names unit = .ok text) :
    ∃ header ls, s.signature names = .ok header ∧
      text = "// " ++ toString s.id.toInt ++ "\n" ++ header ++
        String.join (ls.map fun l => "\n" ++ l.render unit) ++ "\n" ∧
      Spells names s.arguments s.layout ls ∧
      s.instructions = (sentences s.layout ls).map (·.instruction) ++ s.elided := by
  have ⟨header, ls, hh, hl, ht⟩ := emit_eq_ok_iff.mp h
  have ⟨hw, hu⟩ := bodyLines_eq_ok_iff.mp hl
  have hs : SpellsAt names s.arguments 0 s.layout ls := itemLines_spell hw
  rw [SpellsAt, Line.map_sink_zero] at hs
  refine ⟨header, ls, hh, ht, hs, ?_⟩
  rw [instructions_eq_append hu, hs.instructions_sentences]

-- A local is declared where it is assigned alone for the first time, unless it is an argument.
theorem Script.emit_declares_once {s : Script} (h : s.emit names unit = .ok text) :
    ∃ header ls, s.signature names = .ok header ∧
      text = "// " ++ toString s.id.toInt ++ "\n" ++ header ++
        String.join (ls.map fun l => "\n" ++ l.render unit) ++ "\n" ∧
      List.Forall₂ (Slot.Holds names) s.layout ls ∧
      s.instructions = (sentences s.layout ls).map (·.instruction) ++ s.elided ∧
      (∀ before v value after, s.instructions = before ++ .assign [v] value :: after →
        v.kind = .frame → ∃ a, (sentences s.layout ls)[before.length]? = some a ∧
          a.instruction = .assign [v] value ∧
          (a.Declares v ↔ v ∉ s.arguments ∧ ∀ i ∈ before, i.target? ≠ some v) ∧
          (¬a.Declares v →
            ∃ rest, a.text = "$" ++ v.ty.literal ++ toString v.id.toNat ++ " = " ++ rest)) ∧
      (sentences s.layout ls).Pairwise (fun a b => ∀ v, ¬(a.Declares v ∧ b.Declares v)) ∧
      (∀ a ∈ sentences s.layout ls, ∀ v ∈ s.arguments, ¬a.Declares v) ∧
      ∀ a ∈ sentences s.layout ls, ∀ v w vs value, a.instruction = .assign (v :: w :: vs) value →
        ∀ rest, a.text ≠ "def_" ++ rest := by
  have ⟨header, ls, hh, htext, hs, hi⟩ := emit_spells h
  refine ⟨header, ls, hh, htext, hs.holds, hi, ?_, hs.pairwise_declares, ?_, ?_⟩
  case refine_1 =>
    intro before v value after hv hk
    have hr : .assign [v] value ∉ s.elided := fun hm => nomatch isReturn_of_mem_elided hm
    obtain ⟨first, a, last, hsp, rfl, ha⟩ := exists_sentences_eq_append (hi ▸ hv) hr
    have ht : a.instruction.target? = some v := Instruction.target?_eq_some_iff.mpr ⟨hk, _, ha⟩
    have hd := hs.declares_iff hsp (v := v)
    rw [and_iff_right ht] at hd
    refine ⟨a, by simp [hsp], ha, by simpa only [List.forall_mem_map] using hd, fun hn => ?_⟩
    apply Sentence.exists_text_of_mem (hs.text_sentence hsp) ht
    by_contra hm
    exact hn (Sentence.declares_iff (hs.text_sentence hsp) |>.mpr ⟨ht, hm⟩)
  case refine_2 =>
    intro a ha v hv hd
    have ⟨before, after, hsp⟩ := List.append_of_mem ha
    exact (hs.declares_iff hsp |>.mp hd).right.left hv
  case refine_3 =>
    intro a ha v w vs value hi rest
    have ⟨before, after, hsp⟩ := List.append_of_mem ha
    have ht := hs.text_sentence hsp
    rw [hi] at ht
    exact Instruction.text_assign_several_ne ht rest

def Script.counting : Script where
  id        := 7
  arguments := [⟨.frame, .int, 0⟩]
  body      :=
    let set (id : UInt32) := Instruction.assign [⟨.frame, .int, id⟩] (.const ⟨.int, .int 5⟩)
    .link (.loop (.const ⟨.int, .int 1⟩) (.last (.seq [set 1])))
      (.last (.seq [set 0, set 1]))

theorem Script.counting_declares_once :
    Script.counting.emit Names.unknown "  " =
      .ok ("// 7\nscript7(int $int0)\nwhile 1 \x7b\n  def_int $int1 = 5;\n\x7d\n" ++
        "$int0 = 5;\n$int1 = 5;\n") ∧
    ∃ ls a, (sentences Script.counting.layout ls)[0]? = some a ∧ a.Declares ⟨.frame, .int, 1⟩ :=
  have h : Script.counting.emit Names.unknown "  " = .ok _ := rfl
  have ⟨_, ls, _, _, _, _, hd, _⟩ := Script.emit_declares_once h
  have ⟨a, ha, _, hi, _⟩ := hd [] ⟨.frame, .int, 1⟩ _ _ rfl rfl
  ⟨h, ls, a, ha, hi.mpr ⟨by decide, fun _ hn => nomatch hn⟩⟩

end ClientScript
