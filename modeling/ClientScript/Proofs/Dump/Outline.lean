import ClientScript.Proofs.Dump.Instruction

namespace ClientScript

open Text (Ends)

mutual

def Outline.lines : Outline → List Line
  | .done               => []
  | .instruction i rest => .flat i.dump :: rest.lines
  | .cond bs rest       => bs.lines "if" ++ rest.lines
  | .loop c body rest   => .flat ("while " ++ c.dump) :: body.lines.map .deeper ++ rest.lines
  | .switch e cs rest   => .flat ("switch " ++ e.dump) :: cs.lines ++ rest.lines

def OutlineBranches.lines (keyword : String) : OutlineBranches → List Line
  | .done               => []
  | .otherwise body     => .flat "else" :: body.lines.map .deeper
  | .branch c body rest =>
    .flat (keyword ++ " " ++ c.dump) :: body.lines.map .deeper ++ rest.lines "elif"

def OutlineCases.lines : OutlineCases → List Line
  | .done              => []
  | .otherwise body    => .flat "default" :: body.lines.map .deeper
  | .case ns body rest =>
    .flat ("case " ++ dumpLabels ns) :: body.lines.map .deeper ++ rest.lines

end

theorem Outline.lines_foldr (is : List Instruction) (rest : Outline) :
    (is.foldr Outline.instruction rest).lines = is.map (fun i => .flat i.dump) ++ rest.lines := by
  induction is
  case nil          => rfl
  case cons i is hi => rw [List.foldr_cons, lines, hi, List.map_cons, List.cons_append]

mutual

theorem Chain.dumpLines_eq : (c : Chain) → c.dumpLines = c.outline.lines
  | .last c      => by
    rw [Chain.dumpLines, Chain.outline, ← c.dumpLines_append, Outline.lines, List.append_nil]
  | .link c rest => by
    rw [Chain.dumpLines, Chain.outline, ← c.dumpLines_append, rest.dumpLines_eq]

theorem Construct.dumpLines_append : (c : Construct) → ∀ {rest : Outline},
    c.dumpLines ++ rest.lines = (c.outline rest).lines
  | .seq is,      _ => (Outline.lines_foldr is _).symm
  | .cond bs,     _ => by
    rw [Construct.dumpLines, Construct.outline, Outline.lines, bs.dumpLines_eq]
  | .loop c body, _ => by
    rw [Construct.dumpLines, Construct.outline, Outline.lines, body.dumpLines_eq]
  | .switch e cs, _ => by
    rw [Construct.dumpLines, Construct.outline, Outline.lines, cs.dumpLines_eq]

theorem Branches.dumpLines_eq : (bs : Branches) → ∀ {keyword},
    bs.dumpLines keyword = bs.outline.lines keyword
  | .done,               _ => rfl
  | .otherwise body,     _ => by
    rw [Branches.dumpLines, Branches.outline, OutlineBranches.lines, body.dumpLines_eq]
  | .branch c body rest, _ => by
    rw [Branches.dumpLines, Branches.outline, OutlineBranches.lines, body.dumpLines_eq,
      rest.dumpLines_eq]

theorem Cases.dumpLines_eq : (cs : Cases) → cs.dumpLines = cs.outline.lines
  | .done              => rfl
  | .otherwise body    => by
    rw [Cases.dumpLines, Cases.outline, OutlineCases.lines, body.dumpLines_eq]
  | .case ns body rest => by
    rw [Cases.dumpLines, Cases.outline, OutlineCases.lines, body.dumpLines_eq, rest.dumpLines_eq]

end

mutual

theorem Outline.lines_untyped : (o : Outline) → o.untyped.lines = o.lines
  | .done               => rfl
  | .instruction i rest => by
    rw [Outline.untyped, Outline.lines, Outline.lines, i.dump_untyped, rest.lines_untyped]
  | .cond bs rest       => by
    rw [Outline.untyped, Outline.lines, Outline.lines, bs.lines_untyped, rest.lines_untyped]
  | .loop c body rest   => by
    rw [Outline.untyped, Outline.lines, Outline.lines, c.dump_untyped, body.lines_untyped,
      rest.lines_untyped]
  | .switch e cs rest   => by
    rw [Outline.untyped, Outline.lines, Outline.lines, e.dump_untyped, cs.lines_untyped,
      rest.lines_untyped]

theorem OutlineBranches.lines_untyped : (bs : OutlineBranches) → ∀ {keyword},
    bs.untyped.lines keyword = bs.lines keyword
  | .done,               _ => rfl
  | .otherwise body,     _ => by
    rw [OutlineBranches.untyped, OutlineBranches.lines, OutlineBranches.lines, body.lines_untyped]
  | .branch c body rest, _ => by
    rw [OutlineBranches.untyped, OutlineBranches.lines, OutlineBranches.lines, c.dump_untyped,
      body.lines_untyped, rest.lines_untyped]

theorem OutlineCases.lines_untyped : (cs : OutlineCases) → cs.untyped.lines = cs.lines
  | .done              => rfl
  | .otherwise body    => by
    rw [OutlineCases.untyped, OutlineCases.lines, OutlineCases.lines, body.lines_untyped]
  | .case ns body rest => by
    rw [OutlineCases.untyped, OutlineCases.lines, OutlineCases.lines, body.lines_untyped,
      rest.lines_untyped]

end

def heading (ls : List Line) : Option (Option String) :=
  ls.head?.map fun l => keyword? l.text.toList

theorem keyword?_word_append (hw : w.toList.all Char.isAlpha) (t : String) (r : List Char) :
    keyword? ((w ++ " " ++ t).toList ++ r) = keywords.find? (·.toList = w.toList) := by
  rw [String.toList_append, String.toList_append, List.append_assoc, List.append_assoc]
  exact keyword?_append (List.all_eq_true.mp hw) (.cons rfl)

theorem keyword?_word (hw : w.toList.all Char.isAlpha) (t : String) :
    keyword? (w ++ " " ++ t).toList = keywords.find? (·.toList = w.toList) := by
  rw [← keyword?_word_append hw t [], List.append_nil]

namespace Outline

def heading : Outline → Option (Option String)
  | done            => none
  | instruction i _ => some i.keyword?
  | cond ..         => some "if"
  | loop ..         => some "while"
  | switch ..       => some "switch"

theorem exists_lines_eq_cons {o : Outline} (h : o.Branched) (hd : o ≠ done) :
    ∃ t ls, o.lines = .flat t :: ls ∧ o.heading = some (keyword? t.toList) := by
  cases o
  case done               => exact absurd rfl hd
  case instruction i rest =>
    exact ⟨_, _, rfl, by rw [heading, ← i.keyword?_dump [], List.append_nil]⟩
  case cond bs rest       =>
    cases bs
    case branch c body bs =>
      exact ⟨_, _, rfl, congrArg some (keyword?_word (w := "if") rfl c.dump).symm⟩
    all_goals exact nomatch h.left
  case loop c body rest   =>
    exact ⟨_, _, rfl, congrArg some (keyword?_word (w := "while") rfl c.dump).symm⟩
  case switch e cs rest   =>
    exact ⟨_, _, rfl, congrArg some (keyword?_word (w := "switch") rfl e.dump).symm⟩

theorem heading_lines {o : Outline} (h : o.Branched) :
    ClientScript.heading o.lines = o.heading := by
  by_cases hd : o = done
  case pos => rw [hd]; rfl
  case neg =>
    have ⟨t, ls, hl, ho⟩ := exists_lines_eq_cons h hd
    rw [hl, ho]
    rfl

-- The lines of a level begin at that level.
theorem ends_lines {o : Outline} (h : o.Branched) : Ends (fun l : Line => 0 < l.depth) o.lines := by
  by_cases hd : o = done
  case pos => rw [hd]; exact .nil
  case neg =>
    have ⟨t, ls, hl, ho⟩ := exists_lines_eq_cons h hd
    rw [hl]
    exact .cons rfl

end Outline

theorem Line.deeper_injective : deeper.Injective := by
  intro k l h
  cases k
  cases l
  simpa [deeper] using h

-- A block ends where a line is back at its level.
theorem block_inj {ls ms r s : List Line} (hr : Ends (fun l : Line => 0 < l.depth) r)
    (hs : Ends (fun l : Line => 0 < l.depth) s)
    (h : Line.flat t :: ls.map .deeper ++ r = .flat u :: ms.map .deeper ++ s) :
    t = u ∧ ls = ms ∧ r = s := by
  have ⟨ht, h⟩ := List.cons.inj h
  have deep : ∀ ls : List Line, ∀ l ∈ ls.map Line.deeper, decide (0 < l.depth) = true := by
    intro ls
    simp [Line.deeper]
  have ⟨hl, hrs⟩ := Ends.append_inj (deep ls) (deep ms) hr hs h
  have hl := (List.map_inj_right fun _ _ e => Line.deeper_injective e).mp hl
  exact ⟨congrArg Line.text ht, hl, hrs⟩

theorem toList_dumpLabels (ns : List Int32) :
    (dumpLabels ns).toList = '[' :: (Text.commas (toString ·.toInt |>.toList) ns ++ [']']) := by
  simp only [dumpLabels, String.toList_append, String.toList_intercalate, List.map_map]
  rfl

theorem dumpLabels_inj {ms ns : List Int32}
    (h : (dumpLabels ms).toList ++ r = (dumpLabels ns).toList ++ s) : ms = ns ∧ r = s := by
  have head : ∀ n : Int32, ∃ c cs, (toString n.toInt).toList = c :: cs ∧ c ≠ ']' := by
    intro n
    have ⟨c, cs, hc, hi⟩ := Text.exists_toList_toString_int n.toInt
    refine ⟨c, cs, hc, ?_⟩
    rintro rfl
    exact absurd hi (by decide)
  simp only [toList_dumpLabels, List.cons_append, List.append_assoc, List.nil_append] at h
  have ⟨hn, hr⟩ := Text.bracketed_inj (by decide) (by decide) (by decide) head
    (fun n _ => separates_int n) (List.cons.inj h).right
  exact ⟨by simpa using hn, hr⟩

end ClientScript
