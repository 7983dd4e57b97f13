import ClientScript.Emission.Script
import ClientScript.Proofs.Outcome
import Mathlib.Data.List.TakeWhile

namespace ClientScript.Script

variable {s : Script} {names : Names}

-- A return at the top level of a script that returns nothing is left out.
def elides (s : Script) (i : Item) : Bool :=
  s.returns.isEmpty && i.isReturn

theorem elides_iff : s.elides i ↔ s.returns = [] ∧ ∃ e, i = .instruction (.ret e) := by
  rw [elides, Bool.and_eq_true, List.isEmpty_iff]
  rcases i with (_ | _) | _ <;> simp [Item.isReturn, Instruction.isReturn]

def written (s : Script) : List Item :=
  s.body.items.takeWhile fun i => !s.elides i

def unwritten (s : Script) : List Item :=
  s.body.items.dropWhile fun i => !s.elides i

theorem items_eq_append : s.body.items = s.written ++ s.unwritten :=
  List.takeWhile_append_dropWhile.symm

theorem not_elides_of_mem_written (h : i ∈ s.written) : s.elides i = false := by
  simpa using List.mem_takeWhile_imp h

theorem elides_of_unwritten (h : s.unwritten = i :: is) : s.elides i = true := by
  rw [unwritten] at h
  have hi := List.head_dropWhile_not (fun i => !s.elides i) (h ▸ List.cons_ne_nil i is)
  simpa only [h, List.head_cons, Bool.not_eq_false'] using hi

theorem written_eq (h : s.body.items = before ++ i :: after) (hi : s.elides i)
    (hb : ∀ j ∈ before, s.elides j = false) : s.written = before := by
  have hp : ∀ j ∈ before, !s.elides j := by simpa using hb
  rw [written, h, List.takeWhile_append_of_pos hp, List.takeWhile_cons_of_neg (by simp [hi]),
    List.append_nil]

theorem unwritten_eq (h : s.body.items = before ++ i :: after) (hi : s.elides i)
    (hb : ∀ j ∈ before, s.elides j = false) : s.unwritten = i :: after := by
  have hp : ∀ j ∈ before, !s.elides j := by simpa using hb
  rw [unwritten, h, List.dropWhile_append_of_pos hp, List.dropWhile_cons_of_neg (by simp [hi])]

-- Nothing of a return that is left out is looked at, and nothing can stand behind it.
theorem bodyLines_eq :
    s.bodyLines names = itemLines names s.arguments s.written >>= fun ls =>
      s.unwritten[1]?.elim (.ok ls) fun next => .error next.refusal := by
  rw [bodyLines]
  split
  case isTrue h =>
    have he : s.elides = Item.isReturn := by
      funext i
      rw [elides, h, Bool.true_and]
    rw [written, unwritten, he]
    generalize s.body.items.dropWhile (fun i => !i.isReturn) = rest
    cases itemLines names s.arguments (s.body.items.takeWhile fun i => !i.isReturn)
    case error => rfl
    case ok    => rcases rest with _ | ⟨_, _ | ⟨_, _⟩⟩ <;> rfl
  case isFalse h =>
    have he : ∀ i ∈ s.body.items, !s.elides i := by simp [elides, h]
    rw [written, unwritten, List.takeWhile_eq_self_iff.mpr he, List.dropWhile_eq_nil_iff.mpr he]
    cases itemLines names s.arguments s.body.items <;> rfl

theorem bodyLines_eq_itemLines (h : ∀ j ∈ s.body.items, s.elides j = false) :
    s.bodyLines names = itemLines names s.arguments s.body.items := by
  have hp : ∀ j ∈ s.body.items, !s.elides j := by simpa using h
  rw [bodyLines_eq, written, unwritten, List.takeWhile_eq_self_iff.mpr hp,
    List.dropWhile_eq_nil_iff.mpr hp]
  cases itemLines names s.arguments s.body.items <;> rfl

-- A script that is left without a return, and one with a return at its end, have the same lines.
theorem bodyLines_eq_ok_iff {ls : List Line} :
    s.bodyLines names = .ok ls ↔
      itemLines names s.arguments s.written = .ok ls ∧ s.unwritten.length ≤ 1 := by
  rw [bodyLines_eq, bind_eq_ok_iff]
  rcases s.unwritten with _ | ⟨_, _ | ⟨_, _⟩⟩ <;> simp

theorem bodyLines_eq_error_iff :
    s.bodyLines names = .error x ↔
      itemLines names s.arguments s.written = .error x ∨
        Succeeds (itemLines names s.arguments s.written) ∧
          ∃ next, s.unwritten[1]? = some next ∧ next.refusal = x := by
  rw [bodyLines_eq]
  cases itemLines names s.arguments s.written
  case error => simp
  case ok    => cases s.unwritten[1]? <;> simp

theorem unwritten_length_le_one_iff :
    s.unwritten.length ≤ 1 ↔
      ∀ before i after, s.body.items = before ++ i :: after → s.elides i → after = [] := by
  rw [unwritten]
  induction s.body.items
  case nil => simp
  case cons i is hi =>
    cases hr : s.elides i
    case true =>
      rw [List.dropWhile_cons_of_neg (by simp [hr])]
      constructor
      case mp =>
        intro hl before j after h _
        have hl' := congrArg List.length h
        simp only [List.length_append, List.length_cons] at hl hl'
        exact List.eq_nil_of_length_eq_zero (by omega)
      case mpr => exact fun h => by simp [h [] i is rfl hr]
    case false =>
      rw [List.dropWhile_cons_of_pos (by simp [hr]), hi]
      constructor
      case mp =>
        intro h before j after hs hj
        cases before <;> simp at hs
        case nil  => simp [← hs.left, hr] at hj
        case cons => exact h _ j after hs.right hj
      case mpr => exact fun h before j after hs hj => h (i :: before) j after (by simp [hs]) hj

theorem emit_eq_ok_iff {unit text : String} :
    s.emit names unit = .ok text ↔
      ∃ header ls, s.signature names = .ok header ∧ s.bodyLines names = .ok ls ∧
        text = "// " ++ toString s.id.toInt ++ "\n" ++ header ++
          String.join (ls.map fun l => "\n" ++ l.render unit) ++ "\n" := by
  simp only [emit, lines, bind_eq_ok_iff]
  constructor
  case mp =>
    rintro ⟨_, ⟨header, hh, ls, hl, hall⟩, h⟩
    cases hall
    cases h
    refine ⟨header, ls, hh, hl, ?_⟩
    simp [Line.render, Line.flat, String.append_assoc]
  case mpr =>
    rintro ⟨header, ls, hh, hl, rfl⟩
    refine ⟨_, ⟨header, hh, ls, hl, rfl⟩, ?_⟩
    simp [Line.render, Line.flat, String.append_assoc, pure, Except.pure]

theorem emit_eq_error_iff {unit : String} :
    s.emit names unit = .error e ↔
      s.signature names = .error e ∨
        Succeeds (s.signature names) ∧ s.bodyLines names = .error e := by
  rw [emit, lines]
  cases s.signature names
  case error => simp
  case ok    => cases s.bodyLines names <;> simp [pure, Except.pure]

theorem emit_congr {t : Script} (hi : s.id = t.id) (hs : s.signature names = t.signature names)
    (hb : s.bodyLines names = t.bodyLines names) : s.emit names unit = t.emit names unit := by
  rw [emit, emit, lines, lines, hi, hs, hb]

end ClientScript.Script
