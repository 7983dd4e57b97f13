import ClientScript.Proofs.Emission.Declared
import ClientScript.Proofs.Emission.Progress
import ClientScript.Proofs.Recut

namespace ClientScript

theorem Construct.Cut.opening {c d : Construct} (h : c.Cut d) : c.opening = d.opening := by
  cases h
  case cond h => cases h <;> rfl
  all_goals rfl

mutual

theorem Chain.Cut.lines : {a b : Chain} → a.Cut b → ∀ {names declared},
    a.lines names declared = b.lines names declared
  | _, _, .split,     _, _ => by
    simp only [Chain.lines, Construct.lines, Construct.instructions, runLines_append, bind_assoc,
      pure_bind, List.append_assoc, Chain.lines_congr _ (mem_targetsOf_append _ _ _)]
  | _, _, .splitLast, _, _ => by
    simp only [Chain.lines, Construct.lines, runLines_append, Construct.instructions]
  | a, _, .front,     names, declared => by
    rw [Chain.lines, Construct.lines, runLines, ok_bind]
    change _ = a.lines names declared >>= fun others => .ok others
    cases a.lines names declared <;> rfl
  | _, _, @Chain.Cut.back c, names, declared => by
    simp only [Chain.lines, Construct.lines, runLines]
    cases c.lines names declared <;> simp [pure, Except.pure]
  | _, _, .last h,    _, _ => by rw [Chain.lines, Chain.lines, h.lines]
  | _, _, .head h,    _, _ => by rw [Chain.lines, Chain.lines, h.lines, h.instructions]
  | _, _, .tail h,    _, _ => by rw [Chain.lines, Chain.lines, h.lines]

theorem Construct.Cut.lines : {c d : Construct} → c.Cut d → ∀ {names declared},
    c.lines names declared = d.lines names declared
  | _, _, .cond h,   _, _ => by
    rw [Construct.lines, Construct.lines, h.lines, (Construct.Cut.cond h).opening]
  | _, _, .loop h,   _, _ => by rw [Construct.lines, Construct.lines, h.lines]
  | _, _, .switch h, _, _ => by
    rw [Construct.lines, Construct.lines]
    simp only [h.lines]

theorem Branches.Cut.lines : {as bs : Branches} → as.Cut bs → ∀ {names declared lead},
    as.lines names declared lead = bs.lines names declared lead
  | _, _, .otherwise h, _, _, _ => by rw [Branches.lines, Branches.lines, h.lines]
  | _, _, .body h,      _, _, _ => by
    rw [Branches.lines, Branches.lines, h.lines, h.instructions]
  | _, _, .rest h,      _, _, _ => by rw [Branches.lines, Branches.lines, h.lines]

theorem Cases.Cut.lines : {as bs : Cases} → as.Cut bs → ∀ {names declared ty},
    as.lines names declared ty = bs.lines names declared ty
  | _, _, .otherwise h, _, _, _ => by rw [Cases.lines, Cases.lines, h.lines]
  | _, _, .body h,      _, _, _ => by rw [Cases.lines, Cases.lines, h.lines, h.instructions]
  | _, _, .rest h,      _, _, _ => by rw [Cases.lines, Cases.lines, h.lines]

end

section Run

open Script (run_append)

variable {s : Script} {names : Names} {p : Progress}

theorem Construct.Cut.extend {c c' : Construct} (h : c.Cut c') :
    s.extend names p (.block c) = s.extend names p (.block c') := by
  have hr : Item.refusal (.block c) = Item.refusal (.block c') := by
    rw [Item.refusal, Item.refusal, h.opening]
  have hl : Item.lines names p.declared (.block c) = Item.lines names p.declared (.block c') :=
    h.lines
  have ha : p.add (.block c) = p.add (.block c') := by
    funext ls
    rw [Progress.add, Progress.add, Item.instructions, Item.instructions, h.instructions]
  rw [Script.extend, Script.extend, hr, hl, ha]
  rfl

theorem Construct.Cut.run {c c' : Construct} (h : c.Cut c') :
    s.run names p c.items = s.run names p c'.items := by
  have he : s.extend names p (.block c) = s.extend names p (.block c') := h.extend
  cases h <;> exact congrArg (· >>= fun p => s.run names p []) he

-- A chain is written in the same way where it is cut, since only its blocks change.
theorem Chain.Cut.run {a b : Chain} (h : a.Cut b) {p : Progress} :
    s.run names p a.items = s.run names p b.items := by
  cases h
  case split =>
    rw [items, items, items, Construct.items, List.map_append, List.append_assoc]
    rfl
  case splitLast =>
    rw [items, Construct.items, List.map_append]
    rfl
  case front  => rfl
  case back   => exact congrArg _ (List.append_nil _).symm
  case last h => exact h.run
  case head h => rw [items, items, run_append, run_append, h.run]
  case tail h =>
    rw [items, items, run_append, run_append]
    exact bind_congr fun _ => h.run

theorem Chain.Recut.run {a b : Chain} (h : a.Recut b) :
    s.run names p a.items = s.run names p b.items :=
  eqvGen_eq (fun c : Chain => s.run names p c.items) (fun _ _ h => h.run) h

end Run

namespace Script

-- How runs of instructions are cut does not show in any form of a script, and pruning keeps it so.
theorem emit_recut {s t : Script} (hi : s.id = t.id) (ha : s.arguments = t.arguments)
    (hr : s.returns = t.returns) (h : s.body.Recut t.body) :
    (∀ names unit, s.emit names unit = t.emit names unit) ∧
    s.dump = t.dump ∧
    s.instructions = t.instructions ∧
    s.prune.removed = t.prune.removed ∧
    s.prune.rest.id = t.prune.rest.id ∧
    s.prune.rest.arguments = t.prune.rest.arguments ∧
    s.prune.rest.returns = t.prune.rest.returns ∧
    s.prune.rest.body.Recut t.prune.rest.body := by
  obtain ⟨id, arguments, returns, a⟩ := s
  obtain ⟨_, _, _, b⟩ := t
  cases hi
  cases ha
  cases hr
  refine ⟨fun names unit => emit_congr rfl rfl ?_, ?_, h.instructions, h.removed_prune, rfl, rfl,
    rfl, h.prune⟩
  case refine_1 =>
    rw [bodyLines_eq_run, bodyLines_eq_run]
    exact congrArg (· >>= fun p => .ok p.lines) h.run
  case refine_2 =>
    rw [dump, dump, dumpLines, dumpLines, h.dumpLines]
    rfl

def joined : Script where
  id   := 7
  body := .last <| .loop (.const ⟨.int, .int 1⟩) <| .last <| .seq
    [.assign [⟨.frame, .int, 0⟩] (.const ⟨.int, .int 5⟩), .assign [] (.var ⟨.stack, .int, 0⟩)]

def pieces : Script where
  id   := 7
  body := .link (.seq []) <| .last <| .loop (.const ⟨.int, .int 1⟩) <|
    .link (.seq [.assign [⟨.frame, .int, 0⟩] (.const ⟨.int, .int 5⟩)]) <|
      .last (.seq [.assign [] (.var ⟨.stack, .int, 0⟩)])

def whole : Script where
  id   := 8
  body :=
    .link (.loop (.const ⟨.int, .int 1⟩) <| .last <| .seq
      [.assign [⟨.frame, .int, 0⟩] (.const ⟨.int, .int 5⟩),
        .assign [⟨.frame, .int, 0⟩] (.const ⟨.int, .int 6⟩)]) <|
    .last <| .seq [.assign [⟨.frame, .int, 0⟩] (.const ⟨.int, .int 7⟩), .ret (.compound [])]

def parted : Script where
  id   := 8
  body :=
    .link (.loop (.const ⟨.int, .int 1⟩) <|
      .link (.seq [.assign [⟨.frame, .int, 0⟩] (.const ⟨.int, .int 5⟩)]) <|
        .last <| .seq [.assign [⟨.frame, .int, 0⟩] (.const ⟨.int, .int 6⟩)]) <|
    .link (.seq [.assign [⟨.frame, .int, 0⟩] (.const ⟨.int, .int 7⟩)]) <|
      .last <| .seq [.ret (.compound [])]

theorem emit_joined_recut :
    joined.emit Names.unknown "  " = .error (.stackVariable 0) ∧
    pieces.emit Names.unknown "  " = .error (.stackVariable 0) ∧
    pieces.dump = joined.dump ∧ joined.prune.removed = 1 ∧ pieces.prune.removed = 1 ∧
    whole.emit Names.unknown "  " = .ok ("// 8\nscript8\nwhile 1 \x7b\n" ++
      "  def_int $int0 = 5;\n  $int0 = 6;\n\x7d\n$int0 = 7;\n") ∧
    parted.emit Names.unknown "  " = whole.emit Names.unknown "  " ∧
    parted.dump = whole.dump ∧ parted.instructions = whole.instructions := by
  have h : joined.body.Recut pieces.body :=
    .trans _ _ _ (.rel _ _ (.last (.loop (@Chain.Cut.splitLast [_] [_])))) (.rel _ _ .front)
  have hw : whole.body.Recut parted.body :=
    .trans _ _ _ (.rel _ _ (.head (.loop (@Chain.Cut.splitLast [_] [_]))))
      (.rel _ _ (.tail (@Chain.Cut.splitLast [_] [_])))
  obtain ⟨he, hd, _, hp, _⟩ := emit_recut (s := joined) (t := pieces) rfl rfl rfl h
  obtain ⟨hx, hy, hz, _⟩ := emit_recut (s := whole) (t := parted) rfl rfl rfl hw
  exact ⟨rfl, (he ..).symm.trans rfl, hd.symm, rfl, hp.symm.trans rfl, rfl, (hx ..).symm, hy.symm,
    hz.symm⟩

end Script

end ClientScript
