import ClientScript.Proofs.Dump.Text

namespace ClientScript

open Text (Ends commas)

def Line.chars (l : Line) : List Char :=
  List.replicate (2 * l.depth) ' ' ++ (l.text.toList ++ ['\n'])

theorem Line.toList_render (l : Line) : (l.render "  " ++ "\n").toList = l.chars := by
  have hr : ∀ n, (List.replicate n "  ").flatMap String.toList = List.replicate (2 * n) ' ' := by
    intro n
    induction n
    case zero      => rfl
    case succ n hi => simp [List.replicate_succ, hi, Nat.mul_add]
  simp [render, chars, String.toList_join, hr]

theorem IsDumpLine.chars_inj (hl : IsDumpLine l) (hm : IsDumpLine m)
    (h : l.chars ++ r = m.chars ++ s) : l = m ∧ r = s := by
  have ⟨d, hd⟩ := hl
  have ⟨e, he⟩ := hm
  simp only [Line.chars, hd, he, List.append_assoc, List.singleton_append] at h
  have spaces : ∀ n, ∀ c ∈ List.replicate n ' ', decide (c = ' ') = true := by
    intro n c hc
    simp [List.eq_of_mem_replicate hc]
  have start : ∀ (d : DumpLine) r, Ends (· = ' ') (d.text.toList ++ r) := by
    intro d r
    have ⟨c, cs, hc, hs⟩ := d.exists_text_eq_cons
    rw [hc]
    exact .cons (by simp [hs])
  have ⟨hn, h⟩ := Ends.append_inj (spaces _) (spaces _) (start d _) (start e _) h
  have ⟨ht, hr⟩ := DumpLine.separates h
  have hn := congrArg List.length hn
  rw [List.length_replicate, List.length_replicate] at hn
  have hn : l.depth = m.depth := by omega
  refine ⟨?_, hr⟩
  cases l
  cases m
  simp_all

theorem flatMap_chars_inj {ls ms : List Line} (hl : ∀ l ∈ ls, IsDumpLine l)
    (hm : ∀ m ∈ ms, IsDumpLine m) (h : ls.flatMap Line.chars = ms.flatMap Line.chars) :
    ls = ms := by
  have ne : ∀ (l : Line) cs, l.chars ++ cs ≠ [] := by simp [Line.chars]
  induction ls generalizing ms
  case nil =>
    cases ms
    case nil       => rfl
    case cons m ms => exact (ne m _ h.symm).elim
  case cons l ls hi =>
    cases ms
    case nil       => exact (ne l _ h).elim
    case cons m ms =>
      have ⟨hl, hls⟩ := List.forall_mem_cons.mp hl
      have ⟨hm, hms⟩ := List.forall_mem_cons.mp hm
      have ⟨hlm, h⟩ := hl.chars_inj hm h
      rw [hlm, hi hls hms h]

theorem Ty.separates (t : Ty) : Text.Separates Char.isAlpha (·.literal.toList) (fun t => t) t := by
  intro u r s hr hs h
  have ⟨ht, h⟩ := Ends.append_inj t.isAlpha_of_mem_literal u.isAlpha_of_mem_literal hr hs h
  exact ⟨literal_injective (String.toList_inj.mp ht), h⟩

namespace Script

def returnsText (s : Script) : List Char :=
  if s.returns.isEmpty then [] else " -> (".toList ++ (commas (·.literal.toList) s.returns ++ [')'])

theorem toList_dumpHeader (s : Script) :
    s.dumpHeader.toList =
      "script ".toList ++ ((toString s.id.toInt).toList ++
        '(' :: (commas (·.dump.toList) s.arguments ++ ')' :: s.returnsText)) := by
  have hr : (if s.returns.isEmpty then "" else
      " -> (" ++ ", ".intercalate (s.returns.map Ty.literal) ++ ")").toList = s.returnsText := by
    rw [returnsText]
    split
    case isTrue  => rfl
    case isFalse => simp [commas, String.toList_intercalate, Function.comp_def]
  simp only [dumpHeader, String.toList_append, hr, List.append_assoc]
  simp [commas, String.toList_intercalate, Function.comp_def]

theorem toList_dump (s : Script) :
    s.dump.toList =
      s.dumpHeader.toList ++ '\n' :: (s.body.dumpLines.map Line.deeper).flatMap Line.chars := by
  have hf : ∀ ls : List Line, (String.join (ls.map fun l => l.render "  " ++ "\n")).toList =
      ls.flatMap Line.chars := by
    intro ls
    rw [String.toList_join, List.flatMap_map]
    simp only [Line.toList_render]
  rw [dump, hf, dumpLines, List.flatMap_cons]
  simp [Line.chars, Line.flat]

theorem returnsText_inj {s t : Script}
    (h : s.returnsText ++ '\n' :: r = t.returnsText ++ '\n' :: r') :
    s.returns = t.returns ∧ r = r' := by
  have head : ∀ t : Ty, ∃ c cs, t.literal.toList = c :: cs ∧ c ≠ ')' := by
    intro t
    have ⟨c, cs, hc, hi⟩ := t.exists_literal_eq_cons
    refine ⟨c, cs, hc, ?_⟩
    rintro rfl
    exact absurd hi (by decide)
  rw [returnsText, returnsText] at h
  split at h <;> split at h
  case isTrue.isTrue hs ht =>
    rw [List.isEmpty_iff.mp hs, List.isEmpty_iff.mp ht]
    exact ⟨rfl, (List.cons.inj h).right⟩
  case isTrue.isFalse => exact absurd (List.cons.inj h).left (by decide)
  case isFalse.isTrue => exact absurd (List.cons.inj h).left (by decide)
  case isFalse.isFalse =>
    simp only [List.append_assoc, List.singleton_append] at h
    have ⟨hr, h⟩ := Text.bracketed_inj (by decide) (by decide) (by decide) head
      (fun t _ => t.separates) (List.append_cancel_left h)
    exact ⟨by simpa using hr, (List.cons.inj h).right⟩

theorem dumpHeader_inj {s t : Script}
    (h : s.dumpHeader.toList ++ '\n' :: r = t.dumpHeader.toList ++ '\n' :: r') :
    s.id = t.id ∧ s.arguments = t.arguments ∧ s.returns = t.returns ∧ r = r' := by
  have head : ∀ v : Variable, ∃ c cs, v.dump.toList = c :: cs ∧ c ≠ ')' :=
    fun v => Expression.exists_dump_ne_close (by decide) (.var v)
  simp only [toList_dumpHeader, List.append_assoc, List.cons_append] at h
  have ⟨hi, h⟩ := separates_int s.id t.id _ _ (.cons rfl) (.cons rfl)
    (List.append_cancel_left h)
  have ⟨ha, h⟩ := Text.bracketed_inj (by decide) (by decide) (by decide) head
    (fun v _ => v.separates) (List.cons.inj h).right
  have ⟨hr, hrr⟩ := returnsText_inj h
  exact ⟨hi, by simpa using ha, hr, hrr⟩

-- Two scripts have the same dump only if they are the same up to the types of their operations and
-- the cut of their bodies into constructs.
theorem dump_eq_iff {s t : Script} (hs : s.body.Branched) (ht : t.body.Branched) :
    s.dump = t.dump ↔
      s.id = t.id ∧ s.arguments = t.arguments ∧ s.returns = t.returns ∧
        s.body.outline.untyped = t.body.outline.untyped := by
  constructor
  case mp =>
    intro h
    have h := congrArg String.toList h
    rw [toList_dump, toList_dump] at h
    have ⟨hi, ha, hr, h⟩ := dumpHeader_inj h
    have isLine : ∀ c : Chain, ∀ l ∈ c.dumpLines.map Line.deeper, IsDumpLine l := by
      intro c
      rw [c.dumpLines_eq]
      exact List.forall_mem_map.mpr c.outline.isDumpLine
    have hl := flatMap_chars_inj (isLine _) (isLine _) h
    have hl := (List.map_inj_right fun _ _ e => Line.deeper_injective e).mp hl
    rw [s.body.dumpLines_eq, t.body.dumpLines_eq] at hl
    have ho := s.body.outline.untyped_eq (Chain.Branched.outline _ hs)
      (Chain.Branched.outline _ ht) hl
    exact ⟨hi, ha, hr, ho⟩
  case mpr =>
    intro ⟨hi, ha, hr, ho⟩
    have hl : s.body.dumpLines = t.body.dumpLines := by
      rw [s.body.dumpLines_eq, ← Outline.lines_untyped, ho, Outline.lines_untyped,
        ← t.body.dumpLines_eq]
    rw [dump, dump, dumpLines, dumpLines, dumpHeader, dumpHeader, hi, ha, hr, hl]

def asking (types : List Ty) (orElse : Branches) : Script where
  id   := 7
  body :=
    let call := Expression.op ⟨3100⟩ types []
    .last (.cond (.branch (.op ⟨8⟩ [] [call, .const ⟨.int, .int 1⟩]) (.last (.seq [])) orElse))

-- The types of the call do not show, and an empty else does.
theorem dump_asking :
    (asking [.int] .done).dump = (asking [] .done).dump ∧
      (asking [] .done).dump ≠ (asking [] (.otherwise (.last (.seq [])))).dump :=
  have hs : ∀ ts, (asking ts .done).body.Branched := fun _ => ⟨rfl, trivial, trivial⟩
  have ht : (asking [] (.otherwise (.last (.seq [])))).body.Branched := ⟨rfl, trivial, trivial⟩
  ⟨(dump_eq_iff (hs [.int]) (hs [])).mpr ⟨rfl, rfl, rfl, rfl⟩,
    fun h => nomatch ((dump_eq_iff (hs []) ht).mp h).2.2.2⟩

end Script

end ClientScript
