import ClientScript.Proofs.Dump.Unambiguous

namespace ClientScript

open Text (Ends)

inductive DumpLine
  | instruction (i : Instruction)
  | test (w : String) (h : w ∈ ["if", "elif", "while", "switch"]) (e : Expression)
  | labels (ns : List Int32)
  | otherwise
  | default

namespace DumpLine

def text : DumpLine → String
  | instruction i => i.dump
  | test w _ e    => w ++ " " ++ e.dump
  | labels ns     => "case" ++ " " ++ dumpLabels ns
  | otherwise     => "else"
  | default       => "default"

def keyword : DumpLine → Option String
  | instruction i => i.keyword?
  | test w _ _    => some w
  | labels _      => some "case"
  | otherwise     => some "else"
  | default       => some "default"

theorem keyword?_text (l : DumpLine) (r : List Char) :
    keyword? (l.text.toList ++ '\n' :: r) = l.keyword := by
  cases l
  case instruction i => exact i.keyword?_dump _
  case labels ns     => exact keyword?_word_append rfl _ _
  case otherwise     => exact keyword?_append (List.all_eq_true.mp rfl) (.cons rfl)
  case default       => exact keyword?_append (List.all_eq_true.mp rfl) (.cons rfl)
  case test w h e    =>
    have hw : ∀ w ∈ ["if", "elif", "while", "switch"],
        w.toList.all Char.isAlpha ∧ keywords.find? (·.toList = w.toList) = some w := by decide
    rw [text, keyword?_word_append (hw w h).left, (hw w h).right, keyword]

theorem eq_test_of_keyword {l : DumpLine} (hw : w ∈ ["if", "elif", "while", "switch"])
    (h : l.keyword = some w) : ∃ e, l = test w hw e := by
  cases l
  case test v hv e   =>
    cases h
    exact ⟨e, rfl⟩
  case instruction i =>
    have hr := (Instruction.keyword?_eq_some_iff.mp h).right
    exact absurd hw (hr ▸ by decide)
  all_goals
    cases h
    exact absurd hw (by decide)

theorem separates {l m : DumpLine} (h : l.text.toList ++ '\n' :: r = m.text.toList ++ '\n' :: s) :
    l.text = m.text ∧ r = s := by
  have hk : l.keyword = m.keyword := by rw [← keyword?_text l r, h, keyword?_text]
  have lf : ∀ r, Ends Char.isAlpha ('\n' :: r) := fun r => .cons rfl
  cases l
  case test w hw e =>
    obtain ⟨f, rfl⟩ := eq_test_of_keyword hw hk.symm
    simp only [text, String.toList_append, List.append_assoc] at h
    have h := List.append_cancel_left (List.append_cancel_left h)
    have ⟨he, hr⟩ := e.separates f _ _ (lf r) (lf s) h
    exact ⟨by rw [text, text, Expression.dump_eq_dump_iff.mpr he], (List.cons.inj hr).right⟩
  all_goals
    cases m
    case test w hw f =>
      obtain ⟨_, ht⟩ := eq_test_of_keyword hw hk
      cases ht
  case instruction.instruction i j =>
    have ⟨hi, hr⟩ := Instruction.separates h
    exact ⟨by rw [text, text, ← i.dump_untyped, hi, j.dump_untyped], hr⟩
  case labels.labels ms ns =>
    simp only [text, String.toList_append, List.append_assoc] at h
    have ⟨hn, hr⟩ := dumpLabels_inj (List.append_cancel_left (List.append_cancel_left h))
    exact ⟨by rw [hn], (List.cons.inj hr).right⟩
  case otherwise.otherwise => exact ⟨rfl, (List.cons.inj (List.append_cancel_left h)).right⟩
  case default.default     => exact ⟨rfl, (List.cons.inj (List.append_cancel_left h)).right⟩
  all_goals simp [keyword] at hk

-- No line begins with a space, so a line shows its depth too.
theorem exists_text_eq_cons (l : DumpLine) : ∃ c cs, l.text.toList = c :: cs ∧ c ≠ ' ' := by
  have start : ∀ e : Expression, ∃ c cs, e.dump.toList = c :: cs ∧ c ≠ ' ' :=
    Expression.exists_dump_ne_close (by decide)
  cases l
  case otherwise     => exact ⟨'e', _, rfl, by decide⟩
  case default       => exact ⟨'d', _, rfl, by decide⟩
  case labels ns     =>
    exact ⟨'c', _, by rw [text, String.toList_append, String.toList_append]; rfl, by decide⟩
  case test w h e    =>
    rw [text, String.toList_append, String.toList_append]
    simp only [List.mem_cons, List.not_mem_nil, or_false] at h
    rcases h with rfl | rfl | rfl | rfl <;> exact ⟨_, _, rfl, by decide⟩
  case instruction i =>
    rcases i with ⟨_ | ⟨v, vs⟩, e⟩ | e
    case assign.nil  => exact start e
    case assign.cons =>
      have ⟨c, rest, h, _⟩ := Instruction.exists_dump_assign_cons v vs e
      have ⟨d, cs, hd, hs⟩ := start (.var v)
      have hd : v.dump.toList = d :: cs := hd
      exact ⟨d, _, by rw [text, h, hd, List.cons_append], hs⟩
    case ret         =>
      exact ⟨'r', _, by rw [text, Instruction.dump, String.toList_append]; rfl, by decide⟩

end DumpLine

def IsDumpLine (l : Line) : Prop :=
  ∃ d : DumpLine, l.text = d.text

mutual

theorem Outline.isDumpLine : (o : Outline) → ∀ l ∈ o.lines, IsDumpLine l
  | .done               => List.forall_mem_nil _
  | .instruction i rest => List.forall_mem_cons.mpr ⟨⟨.instruction i, rfl⟩, rest.isDumpLine⟩
  | .cond bs rest       => List.forall_mem_append.mpr ⟨bs.isDumpLine (by decide), rest.isDumpLine⟩
  | .loop c body rest   => List.forall_mem_append.mpr ⟨List.forall_mem_cons.mpr
    ⟨⟨.test "while" (by decide) c, rfl⟩, List.forall_mem_map.mpr body.isDumpLine⟩, rest.isDumpLine⟩
  | .switch e cs rest   => List.forall_mem_append.mpr ⟨List.forall_mem_cons.mpr
    ⟨⟨.test "switch" (by decide) e, rfl⟩, cs.isDumpLine⟩, rest.isDumpLine⟩

theorem OutlineBranches.isDumpLine : (bs : OutlineBranches) → ∀ {w},
    w ∈ ["if", "elif", "while", "switch"] → ∀ l ∈ bs.lines w, IsDumpLine l
  | .done,               _, _ => List.forall_mem_nil _
  | .otherwise body,     _, _ => List.forall_mem_cons.mpr
    ⟨⟨.otherwise, rfl⟩, List.forall_mem_map.mpr body.isDumpLine⟩
  | .branch c body rest, _, h => List.forall_mem_append.mpr ⟨List.forall_mem_cons.mpr
    ⟨⟨.test _ h c, rfl⟩, List.forall_mem_map.mpr body.isDumpLine⟩, rest.isDumpLine (by decide)⟩

theorem OutlineCases.isDumpLine : (cs : OutlineCases) → ∀ l ∈ cs.lines, IsDumpLine l
  | .done              => List.forall_mem_nil _
  | .otherwise body    => List.forall_mem_cons.mpr
    ⟨⟨.default, rfl⟩, List.forall_mem_map.mpr body.isDumpLine⟩
  | .case ns body rest => List.forall_mem_append.mpr ⟨List.forall_mem_cons.mpr
    ⟨⟨.labels ns, rfl⟩, List.forall_mem_map.mpr body.isDumpLine⟩, rest.isDumpLine⟩

end

end ClientScript
