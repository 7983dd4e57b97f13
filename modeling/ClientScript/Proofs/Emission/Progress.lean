import ClientScript.Proofs.Emission.Elision

namespace ClientScript

-- A script while it is written item by item. It has ended once a return has been left out.
structure Progress where
  declared : List Variable
  ended    : Bool := false
  lines    : List Line := []

def Progress.add (p : Progress) (i : Item) (ls : List Line) : Progress :=
  { p with declared := targetsOf i.instructions ++ p.declared, lines := p.lines ++ ls }

namespace Script

def extend (s : Script) (names : Names) (p : Progress) (i : Item) : Except EmitError Progress :=
  if p.ended then .error i.refusal
  else if s.elides i then .ok { p with ended := true }
  else do return p.add i (← i.lines names p.declared)

def run (s : Script) (names : Names) (p : Progress) (is : List Item) : Except EmitError Progress :=
  is.foldlM (s.extend names) p

variable {s : Script} {names : Names} {p p' : Progress} {i : Item} {is js : List Item}

theorem extend_ended (h : p.ended) : s.extend names p i = .error i.refusal :=
  if_pos h

theorem extend_elided (h : p.ended = false) (hi : s.elides i) :
    s.extend names p i = .ok { p with ended := true } := by
  rw [extend, h, if_neg Bool.false_ne_true, if_pos hi]

theorem extend_written (h : p.ended = false) (hi : s.elides i = false) :
    s.extend names p i = i.lines names p.declared >>= fun ls => .ok (p.add i ls) := by
  rw [extend, h, hi, if_neg Bool.false_ne_true, if_neg Bool.false_ne_true]
  rfl

theorem extend_eq_ok_iff :
    s.extend names p i = .ok p' ↔ p.ended = false ∧
      (s.elides i ∧ p' = { p with ended := true } ∨
        s.elides i = false ∧ ∃ ls, i.lines names p.declared = .ok ls ∧ p' = p.add i ls) := by
  cases ho : p.ended
  case true => simp [extend_ended ho]
  case false =>
    cases he : s.elides i
    case true => simp [extend_elided ho he, eq_comm]
    case false => simp [extend_written ho he, bind_eq_ok_iff, eq_comm (a := p')]

theorem run_nil : s.run names p [] = .ok p :=
  rfl

theorem run_cons : s.run names p (i :: is) = s.extend names p i >>= fun p => s.run names p is :=
  List.foldlM_cons

theorem run_append :
    s.run names p (is ++ js) = s.run names p is >>= fun p => s.run names p js :=
  List.foldlM_append

theorem run_ended (h : p.ended) : s.run names p (i :: is) = .error i.refusal := by
  rw [run_cons, extend_ended h, error_bind]

-- Items of which none is left out have their own lines behind those that are written.
theorem run_written (h : p.ended = false) (hi : ∀ i ∈ is, s.elides i = false) :
    s.run names p is = itemLines names p.declared is >>= fun ls => .ok
      { p with
        declared := is.foldl (fun declared i => targetsOf i.instructions ++ declared) p.declared,
        lines    := p.lines ++ ls } := by
  induction is generalizing p
  case nil          => simp [itemLines, run_nil]
  case cons i is hr =>
    have ⟨hi, his⟩ := List.forall_mem_cons.mp hi
    rw [run_cons, extend_written h hi, itemLines]
    cases i.lines names p.declared
    case error => rfl
    case ok ls =>
      rw [ok_bind, ok_bind, ok_bind, hr (p := p.add i ls) h his, Progress.add]
      cases itemLines names (targetsOf i.instructions ++ p.declared) is
      case error => rfl
      case ok    => simp [pure, Except.pure]

theorem ended_of_run (h : s.run names p is = .ok p') : p'.ended = (p.ended || is.any s.elides) := by
  induction is generalizing p
  case nil          => cases h; simp
  case cons i is hr =>
    rw [run_cons, bind_eq_ok_iff] at h
    obtain ⟨e, he, h⟩ := h
    rw [hr h]
    obtain ⟨ho, ⟨hi, rfl⟩ | ⟨hi, ls, _, rfl⟩⟩ := extend_eq_ok_iff.mp he
    · simp [ho, hi]
    · simp [Progress.add, ho, hi]

def blank (s : Script) : Progress :=
  { declared := s.arguments }

theorem run_items :
    s.run names s.blank s.body.items = itemLines names s.arguments s.written >>= fun ls =>
      let declared :=
        s.written.foldl (fun declared i => targetsOf i.instructions ++ declared) s.arguments
      s.run names { declared, lines := ls } s.unwritten := by
  rw [items_eq_append, run_append, run_written rfl fun _ => not_elides_of_mem_written]
  change itemLines names s.arguments s.written >>= _ >>= _ = _
  cases itemLines names s.arguments s.written <;> rfl

theorem bodyLines_eq_run :
    s.bodyLines names = s.run names s.blank s.body.items >>= fun p => .ok p.lines := by
  rw [bodyLines_eq, run_items]
  cases itemLines names s.arguments s.written
  case error => rfl
  case ok ls =>
    simp only [ok_bind]
    rcases hu : s.unwritten with _ | ⟨r, _ | ⟨next, rest⟩⟩
    · rfl
    · rw [run_cons, extend_elided rfl (elides_of_unwritten hu)]
      rfl
    · rw [run_cons, extend_elided rfl (elides_of_unwritten hu), ok_bind, run_ended rfl]
      rfl

theorem emit_eq_ok_iff_run {unit text : String} :
    s.emit names unit = .ok text ↔
      ∃ header p, s.signature names = .ok header ∧ s.run names s.blank s.body.items = .ok p ∧
        text = "// " ++ toString s.id.toInt ++ "\n" ++ header ++
          String.join (p.lines.map fun l => "\n" ++ l.render unit) ++ "\n" := by
  simp only [emit_eq_ok_iff, bodyLines_eq_run, bind_eq_ok_iff]
  constructor
  case mp =>
    rintro ⟨header, _, hh, ⟨p, hp, hl⟩, ht⟩
    cases hl
    exact ⟨header, p, hh, hp, ht⟩
  case mpr =>
    rintro ⟨header, p, hh, hp, ht⟩
    exact ⟨header, _, hh, ⟨p, hp, rfl⟩, ht⟩

theorem emit_eq_error_iff_run {unit : String} :
    s.emit names unit = .error e ↔
      s.signature names = .error e ∨
        Succeeds (s.signature names) ∧ s.run names s.blank s.body.items = .error e := by
  rw [emit_eq_error_iff, bodyLines_eq_run]
  cases s.run names s.blank s.body.items <;> simp

end Script

end ClientScript
