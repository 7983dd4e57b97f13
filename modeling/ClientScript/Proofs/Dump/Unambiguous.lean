import ClientScript.Proofs.Dump.Outline

namespace ClientScript

open Text (Ends)

@[simp]
theorem Instruction.keyword?_eq_some_iff {i : Instruction} :
    i.keyword? = some w ↔ i.isReturn ∧ "return" = w := by
  cases i <;> simp [keyword?, isReturn]

@[simp]
theorem Instruction.some_eq_keyword?_iff {i : Instruction} :
    some w = i.keyword? ↔ i.isReturn ∧ "return" = w := by
  rw [eq_comm, keyword?_eq_some_iff]

def OutlineBranches.heading (o : Outline) : OutlineBranches → Option (Option String)
  | done        => o.heading
  | otherwise _ => some "else"
  | branch ..   => some "elif"

def OutlineCases.heading (o : Outline) : OutlineCases → Option (Option String)
  | done        => o.heading
  | otherwise _ => some "default"
  | case ..     => some "case"

section

variable {o p : Outline} (ho : o.Branched) (hp : p.Branched)

include ho

theorem OutlineBranches.heading_lines (bs : OutlineBranches) :
    ClientScript.heading (bs.lines "elif" ++ o.lines) = bs.heading o := by
  cases bs
  case done        => exact Outline.heading_lines ho
  case otherwise _ => exact congrArg some (by decide)
  case branch c _ _ =>
    exact congrArg some (keyword?_word (w := "elif") rfl c.dump)

theorem OutlineCases.heading_lines (cs : OutlineCases) :
    ClientScript.heading (cs.lines ++ o.lines) = cs.heading o := by
  cases cs
  case done        => exact Outline.heading_lines ho
  case otherwise _ => exact congrArg some (by decide)
  case case ns _ _ =>
    exact congrArg some (keyword?_word (w := "case") rfl (dumpLabels ns))

theorem OutlineBranches.ends_lines (bs : OutlineBranches) :
    Ends (fun l : Line => 0 < l.depth) (bs.lines "elif" ++ o.lines) := by
  cases bs
  case done => exact Outline.ends_lines ho
  all_goals exact .cons rfl

theorem OutlineCases.ends_lines (cs : OutlineCases) :
    Ends (fun l : Line => 0 < l.depth) (cs.lines ++ o.lines) := by
  cases cs
  case done => exact Outline.ends_lines ho
  all_goals exact .cons rfl

include hp

theorem Outline.heading_eq (h : o.lines = p.lines) : o.heading = p.heading := by
  rw [← heading_lines ho, h, heading_lines hp]

theorem OutlineBranches.heading_eq (h : lines "elif" bs ++ o.lines = lines "elif" bs' ++ p.lines) :
    bs.heading o = bs'.heading p := by
  rw [← heading_lines ho, h, heading_lines hp]

theorem OutlineCases.heading_eq (h : lines cs ++ o.lines = lines cs' ++ p.lines) :
    cs.heading o = cs'.heading p := by
  rw [← heading_lines ho, h, heading_lines hp]

end

theorem untyped_eq_of_append_eq {w : String} {e f : Expression} (h : w ++ e.dump = w ++ f.dump) :
    e.untyped = f.untyped :=
  Expression.dump_eq_dump_iff.mp ((String.append_right_inj _).mp h)

mutual

-- The lines of an outline say all about it but the types of operations. Where a block ends, the
-- next line tells by its depth, and where the branches of an `if` end, by its keyword.
theorem Outline.untyped_eq : (o : Outline) → ∀ {p : Outline}, o.Branched → p.Branched →
    o.lines = p.lines → o.untyped = p.untyped
  | .done,               p, ho, hp, h => by
    have hh := Outline.heading_eq ho hp h
    cases p <;> simp [Outline.heading] at hh
    rfl
  | .instruction i rest, p, ho, hp, h => by
    have hh := Outline.heading_eq ho hp h
    cases p <;> simp [Outline.heading] at hh
    case instruction j rest' =>
      have ⟨hi, hr⟩ := List.cons.inj h
      rw [Outline.untyped, Outline.untyped, rest.untyped_eq (p := rest') ho hp hr,
        Instruction.untyped_eq_of_dump_eq (congrArg Line.text hi)]
  | .cond .done _,          _, ho, _, _ => nomatch ho.left
  | .cond (.otherwise _) _, _, ho, _, _ => nomatch ho.left
  | .cond (.branch c body bs) rest, p, ho, hp, h => by
    have hh := Outline.heading_eq ho hp h
    cases p <;> simp [Outline.heading] at hh
    case cond bs' rest' =>
      cases bs'
      case branch c' body' bs' =>
        have ⟨_, hb, ho⟩ := ho
        have ⟨_, hb', hp⟩ := hp
        simp only [Outline.lines, OutlineBranches.lines, List.append_assoc] at h
        have ⟨hc, hi, hr⟩ := block_inj (bs.ends_lines ho) (bs'.ends_lines hp) h
        have ⟨hbs, hr⟩ := bs.untyped_eq hb.right hb'.right ho hp hr
        rw [Outline.untyped, Outline.untyped, OutlineBranches.untyped, OutlineBranches.untyped,
          untyped_eq_of_append_eq hc, body.untyped_eq hb.left hb'.left hi, hbs,
          rest.untyped_eq ho hp hr]
      all_goals exact nomatch hp.left
  | .loop c body rest,   p, ho, hp, h => by
    have hh := Outline.heading_eq ho hp h
    cases p <;> simp [Outline.heading] at hh
    case loop c' body' rest' =>
      have ⟨hc, hb, hr⟩ := block_inj (Outline.ends_lines ho.right) (Outline.ends_lines hp.right) h
      rw [Outline.untyped, Outline.untyped, untyped_eq_of_append_eq hc,
        body.untyped_eq ho.left hp.left hb, rest.untyped_eq ho.right hp.right hr]
  | .switch e cs rest,   p, ho, hp, h => by
    have hh := Outline.heading_eq ho hp h
    cases p <;> simp [Outline.heading] at hh
    case switch e' cs' rest' =>
      have ⟨he, hr⟩ := List.cons.inj h
      have ⟨hcs, hr⟩ := cs.untyped_eq ho.left hp.left ho.right hp.right hr
      rw [Outline.untyped, Outline.untyped, untyped_eq_of_append_eq (congrArg Line.text he), hcs,
        rest.untyped_eq ho.right hp.right hr]

theorem OutlineBranches.untyped_eq : (bs : OutlineBranches) → ∀ {bs' : OutlineBranches}
    {o p : Outline}, bs.Branched → bs'.Branched → o.Branched → p.Branched →
      bs.lines "elif" ++ o.lines = bs'.lines "elif" ++ p.lines →
        bs.untyped = bs'.untyped ∧ o.lines = p.lines
  | .done,               bs', o, p, _,  _,   ho, hp, h => by
    have hh := OutlineBranches.heading_eq ho hp h
    cases bs'
    case done => exact ⟨rfl, h⟩
    all_goals cases o <;> simp [OutlineBranches.heading, Outline.heading] at hh
  | .otherwise body,     bs', o, p, hb, hb', ho, hp, h => by
    have hh := OutlineBranches.heading_eq ho hp h
    cases bs'
    case done => cases p <;> simp [OutlineBranches.heading, Outline.heading] at hh
    case branch => simp [OutlineBranches.heading] at hh
    case otherwise body' =>
      have ⟨_, hi, hr⟩ := block_inj (Outline.ends_lines ho) (Outline.ends_lines hp) h
      exact ⟨congrArg OutlineBranches.otherwise (body.untyped_eq hb hb' hi), hr⟩
  | .branch c body rest, bs', o, p, hb, hb', ho, hp, h => by
    have hh := OutlineBranches.heading_eq ho hp h
    cases bs'
    case done => cases p <;> simp [OutlineBranches.heading, Outline.heading] at hh
    case otherwise => simp [OutlineBranches.heading] at hh
    case branch c' body' rest' =>
      simp only [OutlineBranches.lines, List.append_assoc] at h
      have ⟨hc, hi, hr⟩ := block_inj (rest.ends_lines ho) (rest'.ends_lines hp) h
      have ⟨hbs, hr⟩ := rest.untyped_eq hb.right hb'.right ho hp hr
      refine ⟨?_, hr⟩
      rw [OutlineBranches.untyped, OutlineBranches.untyped, untyped_eq_of_append_eq hc,
        body.untyped_eq hb.left hb'.left hi, hbs]

theorem OutlineCases.untyped_eq : (cs : OutlineCases) → ∀ {cs' : OutlineCases} {o p : Outline},
    cs.Branched → cs'.Branched → o.Branched → p.Branched →
      cs.lines ++ o.lines = cs'.lines ++ p.lines → cs.untyped = cs'.untyped ∧ o.lines = p.lines
  | .done,              cs', o, p, _,  _,   ho, hp, h => by
    have hh := OutlineCases.heading_eq ho hp h
    cases cs'
    case done => exact ⟨rfl, h⟩
    all_goals cases o <;> simp [OutlineCases.heading, Outline.heading] at hh
  | .otherwise body,    cs', o, p, hc, hc', ho, hp, h => by
    have hh := OutlineCases.heading_eq ho hp h
    cases cs'
    case done => cases p <;> simp [OutlineCases.heading, Outline.heading] at hh
    case case => simp [OutlineCases.heading] at hh
    case otherwise body' =>
      have ⟨_, hi, hr⟩ := block_inj (Outline.ends_lines ho) (Outline.ends_lines hp) h
      exact ⟨congrArg OutlineCases.otherwise (body.untyped_eq hc hc' hi), hr⟩
  | .case ns body rest, cs', o, p, hc, hc', ho, hp, h => by
    have hh := OutlineCases.heading_eq ho hp h
    cases cs'
    case done => cases p <;> simp [OutlineCases.heading, Outline.heading] at hh
    case otherwise => simp [OutlineCases.heading] at hh
    case case ns' body' rest' =>
      simp only [OutlineCases.lines, List.append_assoc] at h
      have ⟨hn, hi, hr⟩ := block_inj (rest.ends_lines ho) (rest'.ends_lines hp) h
      have hn := congrArg String.toList ((String.append_right_inj _).mp hn)
      have hl : ns = ns' := (dumpLabels_inj (congrArg (· ++ []) hn)).left
      have ⟨hcs, hr⟩ := rest.untyped_eq hc.right hc'.right ho hp hr
      refine ⟨?_, hr⟩
      rw [OutlineCases.untyped, OutlineCases.untyped, hl,
        body.untyped_eq hc.left hc'.left hi, hcs]

end

end ClientScript
