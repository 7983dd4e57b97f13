import ClientScript.Proofs.Emission.Progress
import ClientScript.Proofs.Emission.Filled
import ClientScript.Proofs.Text.Pieces

namespace ClientScript

open Text (Ends)

theorem Chain.dumpLines_andThen (a b : Chain) :
    (a.andThen b).dumpLines = a.dumpLines ++ b.dumpLines := by
  match a with
  | last _      => rfl
  | link _ rest => simp [andThen, dumpLines, dumpLines_andThen rest b]

theorem Construct.ends_layout (c : Construct) :
    Ends (fun s : Slot => s.depth ≠ depth) (c.layout depth) := by
  cases c
  case seq is =>
    cases is
    case nil  => exact .nil
    case cons => exact .cons (by simp)
  case cond bs  => cases bs <;> exact .cons (by simp)
  case loop     => exact .cons (by simp)
  case switch   => exact .cons (by simp)

theorem Item.ends_layout (i : Item) : Ends (fun s : Slot => s.depth ≠ depth) (i.layout depth) := by
  cases i
  case instruction => exact .cons (by simp)
  case block c     => exact c.ends_layout

theorem Spells.ends_lines (h : Spells names declared slots ls)
    (hs : Ends (fun s : Slot => s.depth ≠ depth) slots) :
    Ends (fun l : Line => l.depth ≠ depth) ls := by
  cases h
  case nil        => exact .nil
  case statement  => exact .cons (hs _ rfl)
  case other hh _ => exact .cons (hh.left ▸ hs _ rfl)

theorem Item.ends_lines {i : Item} (h : i.lines names declared = .ok ls) :
    Ends (fun l : Line => l.depth ≠ 0) ls := by
  have hs : SpellsAt names declared 0 (i.layout 0) ls := i.lines_spell h
  rw [SpellsAt, Line.map_sink_zero] at hs
  exact hs.ends_lines i.ends_layout

namespace Script

variable {s : Script} {names : Names} {p p' : Progress} {i : Item} {is js : List Item}

-- Nothing that is written is changed, and what comes next begins at the outermost level.
theorem exists_lines_of_extend (h : s.extend names p i = .ok p') :
    ∃ ls, p'.lines = p.lines ++ ls ∧ Ends (fun l : Line => l.depth ≠ 0) ls := by
  obtain ⟨_, ⟨_, rfl⟩ | ⟨_, ls, hl, rfl⟩⟩ := extend_eq_ok_iff.mp h
  · exact ⟨[], (List.append_nil _).symm, .nil⟩
  · exact ⟨ls, rfl, Item.ends_lines hl⟩

theorem exists_lines_of_run (h : s.run names p is = .ok p') :
    ∃ ls, p'.lines = p.lines ++ ls ∧ Ends (fun l : Line => l.depth ≠ 0) ls := by
  induction is generalizing p
  case nil =>
    cases h
    exact ⟨[], (List.append_nil _).symm, .nil⟩
  case cons i is hi =>
    rw [run_cons, bind_eq_ok_iff] at h
    obtain ⟨e, he, h⟩ := h
    obtain ⟨first, hf, hef⟩ := exists_lines_of_extend he
    obtain ⟨others, ho, heo⟩ := hi h
    refine ⟨first ++ others, by rw [ho, hf, List.append_assoc], ?_⟩
    cases first
    case nil  => exact heo
    case cons => exact .cons (hef _ rfl)

theorem exists_text_append (ls : List Line) (unit : String) {more : List Line}
    (h : Ends (fun l : Line => l.depth ≠ 0) more) :
    ∃ rest, String.join ((ls ++ more).map fun l => "\n" ++ l.render unit) ++ "\n" =
      String.join (ls.map fun l => "\n" ++ l.render unit) ++ "\n" ++ rest := by
  cases more
  case nil => exact ⟨"", by simp⟩
  case cons l more =>
    have hl : l.depth = 0 := by simpa using h l rfl
    refine ⟨l.text ++ String.join (more.map fun l => "\n" ++ l.render unit) ++ "\n", ?_⟩
    simp [Line.render, hl, String.append_assoc]

def andThen (s : Script) (b : Chain) : Script :=
  { s with body := s.body.andThen b }

variable {b : Chain} {unit t u : String}

theorem dump_andThen :
    (s.andThen b).dump =
      s.dump ++ String.join (b.dumpLines.map fun l => l.deeper.render "  " ++ "\n") := by
  have hl : (s.andThen b).dumpLines = s.dumpLines ++ b.dumpLines.map .deeper := by
    simp [dumpLines, andThen, Chain.dumpLines_andThen, dumpHeader]
  rw [dump, hl, List.map_append, String.join_append, List.map_map]
  rfl

theorem run_andThen :
    (s.andThen b).run names s.blank (s.andThen b).body.items =
      s.run names s.blank s.body.items >>= fun p => s.run names p b.items := by
  rw [andThen, Chain.items_andThen]
  exact run_append

theorem emit_andThen_error (h : s.emit names unit = .error e) :
    (s.andThen b).emit names unit = .error e := by
  apply emit_eq_error_iff_run.mpr
  refine emit_eq_error_iff_run.mp h |>.imp_right fun ⟨hs, hr⟩ => ⟨hs, run_andThen.trans ?_⟩
  rw [hr, error_bind]

theorem exists_eq_append_of_emit_andThen (h : s.emit names unit = .ok t)
    (hg : (s.andThen b).emit names unit = .ok u) : ∃ rest, u = t ++ rest := by
  have ⟨header, p, hh, hp, ht⟩ := emit_eq_ok_iff_run.mp h
  have ⟨header', p', hh', hp', hu⟩ := emit_eq_ok_iff_run.mp hg
  cases hh.symm.trans hh'
  have hr := hp'.symm.trans run_andThen |>.symm
  rw [hp, ok_bind] at hr
  have ⟨more, hl, he⟩ := exists_lines_of_run hr
  have ⟨rest, hm⟩ := exists_text_append p.lines unit he
  refine ⟨rest, ?_⟩
  rw [hu, hl, String.append_assoc, hm, ht]
  simp only [String.append_assoc]
  rfl

theorem emit_andThen_elided (h : s.emit names unit = .ok t) (he : ∃ i ∈ s.body.items, s.elides i) :
    (s.andThen b).emit names unit = .ok u ↔ b.items = [] ∧ u = t := by
  have ⟨header, p, hh, hp, ht⟩ := emit_eq_ok_iff_run.mp h
  have ho : p.ended := (ended_of_run hp).trans (by simpa [blank] using he)
  have hb : (s.andThen b).run names (s.andThen b).blank (s.andThen b).body.items =
      s.run names p b.items := run_andThen.trans (hp ▸ ok_bind ..)
  rw [emit_eq_ok_iff_run, hb]
  cases b.items
  case nil =>
    constructor
    case mp =>
      rintro ⟨_, _, hh', hp', rfl⟩
      cases hh.symm.trans hh'
      cases hp'
      exact ⟨rfl, ht.symm⟩
    case mpr => exact fun ⟨_, hu⟩ => ⟨header, p, hh, run_nil, hu.trans ht⟩
  case cons i is =>
    rw [run_ended ho]
    simp

-- What is appended to a body is behind all that the body has, in every form of a script.
theorem emit_andThen (s : Script) (b c : Chain) (names : Names) (unit : String) :
    (s.body.andThen b).andThen c = s.body.andThen (b.andThen c) ∧
    (s.andThen b).instructions = s.instructions ++ b.instructions ∧
    (s.andThen b).dump =
      s.dump ++ String.join (b.dumpLines.map fun l => l.deeper.render "  " ++ "\n") ∧
    (∀ e, s.emit names unit = .error e → (s.andThen b).emit names unit = .error e) ∧
    (∀ t u, s.emit names unit = .ok t → (s.andThen b).emit names unit = .ok u →
      ∃ rest, u = t ++ rest) ∧
    (∀ t, s.emit names unit = .ok t → (∃ i ∈ s.body.items, s.elides i) →
      ∀ u, (s.andThen b).emit names unit = .ok u ↔ b.items = [] ∧ u = t) :=
  ⟨Chain.andThen_assoc .., Chain.instructions_andThen .., dump_andThen,
    fun _ => emit_andThen_error, fun _ _ => exists_eq_append_of_emit_andThen,
    fun _ h he _ => emit_andThen_elided h he⟩

def closed : Script where
  id   := 7
  body := .last (.seq [.assign [⟨.frame, .int, 0⟩] (.const ⟨.int, .int 5⟩), .ret (.compound [])])

theorem emit_closed_andThen :
    closed.emit Names.unknown "  " = .ok "// 7\nscript7\ndef_int $int0 = 5;\n" ∧
    (closed.andThen (.last (.seq []))).emit Names.unknown "  " =
      .ok "// 7\nscript7\ndef_int $int0 = 5;\n" ∧
    ∀ i is u, (closed.andThen (.last (.seq (i :: is)))).emit Names.unknown "  " ≠ .ok u := by
  have h : closed.emit Names.unknown "  " = .ok _ := rfl
  have hb (b : Chain) := emit_andThen closed b b Names.unknown "  " |>.right.right.right.right.right
  have hr : ∃ i ∈ closed.body.items, closed.elides i := ⟨_, .tail _ (.head _), rfl⟩
  refine ⟨h, hb _ _ h hr _ |>.mpr ⟨rfl, rfl⟩, fun i is u hu => ?_⟩
  exact nomatch (hb _ _ h hr u |>.mp hu).left

end Script

end ClientScript
