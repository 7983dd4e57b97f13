import ClientScript.Proofs.Emission.Elision
import ClientScript.Proofs.Emission.Renderable

namespace ClientScript

open Expression (Renderable)

def Instruction.Emittable : Instruction → Prop
  | assign vs value => (∀ v ∈ vs, v.kind ≠ .stack) ∧ Renderable value
  | ret value       => ∀ e ∈ value.toList, Renderable e

mutual

def Chain.Emittable : Chain → Prop
  | .last c      => c.Emittable
  | .link c rest => c.Emittable ∧ rest.Emittable

def Construct.Emittable : Construct → Prop
  | .seq is      => ∀ i ∈ is, i.Emittable
  | .cond bs     => bs.hasBranch ∧ bs.Emittable
  | .loop c body => Renderable c ∧ body.Emittable
  | .switch e cs => Renderable e ∧ ∃ ty, e.types = [ty] ∧ cs.Emittable ty

def Branches.Emittable : Branches → Prop
  | .done               => True
  | .otherwise body     => body.Emittable
  | .branch c body rest => Renderable c ∧ body.Emittable ∧ rest.Emittable

def Cases.Emittable (ty : Ty) : Cases → Prop
  | .done                  => True
  | .otherwise body        => body.Emittable
  | .case labels body rest =>
    labels ≠ [] ∧ (∀ n ∈ labels, ty.Admits n) ∧ body.Emittable ∧ rest.Emittable ty

end

def Item.Emittable : Item → Prop
  | instruction i => i.Emittable
  | block c       => c.Emittable

namespace Script

-- What a return that is left out would return does not matter, but it has to be the end.
structure Emittable (s : Script) : Prop where
  arguments : ∀ v ∈ s.arguments, v.kind = .frame
  items     : ∀ i ∈ s.body.items, s.elides i ∨ i.Emittable
  final     : ∀ before i after, s.body.items = before ++ i :: after → s.elides i → after = []

end Script

theorem Instruction.succeeds_text {i : Instruction} :
    Succeeds (i.text names declared) ↔ i.Emittable := by
  cases i
  case assign vs value =>
    have hv : Succeeds (targetsText declared vs) ↔ ∀ v ∈ vs, v.kind ≠ .stack := by
      rcases vs with _ | ⟨v, _ | ⟨w, vs⟩⟩
      · simp [targetsText]
      · simp [targetsText, Variable.succeeds_text]
      · simp [targetsText, succeeds_listText, Variable.succeeds_text]
    rw [text, succeeds_bind fun _ => succeeds_bind_pure, hv, Expression.succeeds_text, Emittable]
  case ret value =>
    rw [text, succeeds_bind_pure, Operand.succeeds_grouped]
    simp only [Expression.succeeds_text, Emittable]

theorem succeeds_runLines {is : List Instruction} :
    Succeeds (runLines names declared is) ↔ ∀ i ∈ is, i.Emittable := by
  induction is generalizing declared
  case nil => simp [runLines]
  case cons i is hi =>
    rw [runLines, succeeds_bind fun _ => succeeds_bind_pure, hi, Instruction.succeeds_text]
    simp

theorem Construct.succeeds_opening_cond {bs : Branches} :
    Succeeds (Construct.opening (.cond bs)) ↔ bs.hasBranch := by
  cases bs <;> simp [opening, Branches.hasBranch]

mutual

theorem Chain.succeeds_lines : (c : Chain) → ∀ {names declared},
    Succeeds (c.lines names declared) ↔ c.Emittable
  | .last c,      names, declared => by
    rw [Chain.lines, Chain.Emittable, c.succeeds_lines]
  | .link c rest, names, declared => by
    rw [Chain.lines, succeeds_bind fun _ => succeeds_bind_pure, c.succeeds_lines,
      rest.succeeds_lines, Chain.Emittable]

theorem Construct.succeeds_lines : (c : Construct) → ∀ {names declared},
    Succeeds (c.lines names declared) ↔ c.Emittable
  | .seq is,      names, declared => by
    rw [Construct.lines, succeeds_runLines, Construct.Emittable]
  | .cond bs,     names, declared => by
    rw [Construct.lines, succeeds_bind fun _ => bs.succeeds_lines, Construct.succeeds_opening_cond,
      Construct.Emittable]
  | .loop c body, names, declared => by
    rw [Construct.lines, succeeds_bind fun _ => succeeds_bind_pure, Expression.succeeds_text,
      body.succeeds_lines, Construct.Emittable]
  | .switch e cs, names, declared => by
    rw [Construct.lines, succeeds_bind_iff, Construct.Emittable, ← exists_and_left]
    refine exists_congr fun ty => ?_
    rw [succeeds_bind fun _ => succeeds_bind_pure, Expression.soleType_eq_ok_iff,
      Expression.succeeds_text, cs.succeeds_lines]
    exact and_left_comm

theorem Branches.succeeds_lines : (bs : Branches) → ∀ {names declared lead},
    Succeeds (bs.lines names declared lead) ↔ bs.Emittable
  | .done,               names, declared, lead => by simp [Branches.lines, Branches.Emittable]
  | .otherwise body,     names, declared, lead => by
    rw [Branches.lines, succeeds_bind_pure, body.succeeds_lines, Branches.Emittable]
  | .branch c body rest, names, declared, lead => by
    rw [Branches.lines, succeeds_bind fun _ => succeeds_bind fun _ => succeeds_bind_pure,
      Expression.succeeds_text, body.succeeds_lines, rest.succeeds_lines, Branches.Emittable]

theorem Cases.succeeds_lines : (cs : Cases) → ∀ {names declared ty},
    Succeeds (cs.lines names declared ty) ↔ cs.Emittable ty
  | .done,                  names, declared, ty => by simp [Cases.lines, Cases.Emittable]
  | .otherwise body,        names, declared, ty => by
    rw [Cases.lines, succeeds_bind_pure, body.succeeds_lines, Cases.Emittable]
  | .case labels body rest, names, declared, ty => by
    rw [Cases.lines, Cases.Emittable]
    cases labels
    case nil => exact iff_of_false (not_succeeds_error _) (·.left rfl)
    case cons n ns =>
      rw [List.isEmpty_cons, if_neg Bool.false_ne_true,
        succeeds_bind fun _ => succeeds_bind fun _ => succeeds_bind_pure, succeeds_mapM,
        body.succeeds_lines, rest.succeeds_lines]
      simp [Ty.succeeds_intText]

end

theorem Item.succeeds_lines {i : Item} : Succeeds (i.lines names declared) ↔ i.Emittable := by
  cases i
  case instruction i => rw [lines, succeeds_bind_pure, i.succeeds_text, Emittable]
  case block c       => exact c.succeeds_lines

theorem succeeds_itemLines {is : List Item} :
    Succeeds (itemLines names declared is) ↔ ∀ i ∈ is, i.Emittable := by
  induction is generalizing declared
  case nil => simp [itemLines]
  case cons i is hi =>
    rw [itemLines, succeeds_bind fun _ => succeeds_bind_pure, hi, i.succeeds_lines]
    simp

namespace Script

variable {s : Script} {names : Names}

theorem succeeds_argumentText {v : Variable} : Succeeds (argumentText v) ↔ v.kind = .frame := by
  rw [argumentText]
  split <;> simp_all

theorem succeeds_signature : Succeeds (s.signature names) ↔ ∀ v ∈ s.arguments, v.kind = .frame := by
  rw [signature, succeeds_bind_pure, succeeds_listText]
  simp [succeeds_argumentText]

theorem succeeds_bodyLines :
    Succeeds (s.bodyLines names) ↔ (∀ i ∈ s.written, i.Emittable) ∧ s.unwritten.length ≤ 1 := by
  simp only [Succeeds, bodyLines_eq_ok_iff, exists_and_right]
  exact and_congr_left fun _ => succeeds_itemLines

theorem forall_items_iff (h : s.unwritten.length ≤ 1) :
    (∀ i ∈ s.body.items, s.elides i ∨ i.Emittable) ↔ ∀ i ∈ s.written, i.Emittable := by
  constructor
  case mp =>
    intro he i hi
    have hb : i ∈ s.body.items := by simp [items_eq_append, hi]
    exact he i hb |>.resolve_left (by simp [not_elides_of_mem_written hi])
  case mpr =>
    intro he i hi
    rw [items_eq_append] at hi
    rcases List.mem_append.mp hi with hi | hi
    case inl => exact .inr (he i hi)
    case inr =>
      match hu : s.unwritten with
      | []          => simp [hu] at hi
      | [r]         => simp_all [elides_of_unwritten hu]
      | _ :: _ :: _ => simp [hu] at h

theorem emittable_of_emit {unit text : String} (h : s.emit names unit = .ok text) :
    s.Emittable := by
  obtain ⟨header, ls, hh, hl, _⟩ := emit_eq_ok_iff.mp h
  obtain ⟨hi, hu⟩ := succeeds_bodyLines.mp ⟨ls, hl⟩
  exact ⟨succeeds_signature.mp ⟨header, hh⟩, (forall_items_iff hu).mpr hi,
    unwritten_length_le_one_iff.mp hu⟩

-- The scripts that have a text are the emittable ones, whatever the names and the indentation are.
theorem succeeds_emit_iff (s : Script) (names : Names) (unit : String) :
    (∃ text, s.emit names unit = .ok text) ↔ s.Emittable := by
  constructor
  case mp =>
    rintro ⟨text, h⟩
    exact emittable_of_emit h
  case mpr =>
    rintro ⟨ha, hi, hf⟩
    have hl := unwritten_length_le_one_iff.mpr hf
    obtain ⟨header, hh⟩ : Succeeds (s.signature names) := succeeds_signature.mpr ha
    obtain ⟨ls, hb⟩ : Succeeds (s.bodyLines names) :=
      succeeds_bodyLines.mpr ⟨(forall_items_iff hl).mp hi, hl⟩
    exact ⟨_, emit_eq_ok_iff.mpr ⟨header, ls, hh, hb, rfl⟩⟩

end Script

end ClientScript
