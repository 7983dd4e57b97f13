import ClientScript.Proofs.Emission.Emittable

namespace ClientScript

open Expression (operands_eq_map)

-- The errors that an expression is a reason for. Of wrong shapes nothing more is said.
inductive Expression.Blames : Expression → EmitError → Prop
  | shape {e part fault} : Blames e (.malformed part fault)
  | var {v : Variable} (kind : v.kind = .stack) : Blames (.var v) (.stackVariable v.id)
  | const {ty n} (admits : ¬ty.Admits n) : Blames (.const ⟨ty, .int n⟩) (.decode ty n)
  | opcode {op ts es} (name : op.name? = none) : Blames (.op op ts es) (.unknownOpcode op)
  | operand {op ts es e x} (mem : e ∈ es) (blames : Blames e x) : Blames (.op op ts es) x
  | element {es e x} (mem : e ∈ es) (blames : Blames e x) : Blames (.compound es) x

def Instruction.Blames (x : EmitError) : Instruction → Prop
  | assign vs value => (∃ v ∈ vs, (Expression.var v).Blames x) ∨ value.Blames x
  | ret value       => ∃ e ∈ value.toList, e.Blames x

mutual

def Chain.Blames (x : EmitError) : Chain → Prop
  | .last c      => c.Blames x
  | .link c rest => c.Blames x ∨ rest.Blames x

def Construct.Blames (x : EmitError) : Construct → Prop
  | .seq is      => ∃ i ∈ is, i.Blames x
  | .cond bs     => Construct.opening (.cond bs) = .error x ∨ bs.Blames x
  | .loop c body => c.Blames x ∨ body.Blames x
  | .switch e cs => e.Blames x ∨ ∃ ty, e.types = [ty] ∧ cs.Blames x ty

def Branches.Blames (x : EmitError) : Branches → Prop
  | .done               => False
  | .otherwise body     => body.Blames x
  | .branch c body rest => c.Blames x ∨ body.Blames x ∨ rest.Blames x

def Cases.Blames (x : EmitError) (ty : Ty) : Cases → Prop
  | .done                  => False
  | .otherwise body        => body.Blames x
  | .case labels body rest =>
    (labels = [] ∧ x = .malformed .switch .noLabels) ∨
      (∃ n ∈ labels, ¬ty.Admits n ∧ x = .decode ty n) ∨ body.Blames x ∨ rest.Blames x ty

end

def Item.Blames (x : EmitError) : Item → Prop
  | instruction i => i.Blames x
  | block c       => c.Blames x

theorem Ty.failsOnly_intText {ty : Ty} :
    FailsOnly (fun x => ¬ty.Admits n ∧ x = .decode ty n) (ty.intText names n) := by
  intro x h
  refine ⟨fun ha => ?_, ?_⟩
  case refine_1 =>
    have ⟨_, hs⟩ : Succeeds (ty.intText names n) := succeeds_intText.mpr ha
    cases hs.symm.trans h
  case refine_2 =>
    rw [intText] at h
    split at h <;> cases h
    rfl

theorem Variable.failsOnly_text {v : Variable} : FailsOnly (Expression.var v).Blames v.text := by
  intro x h
  rw [text] at h
  split at h <;> cases h
  exact .var ‹_›

theorem Constant.failsOnly_text {c : Constant} :
    FailsOnly (Expression.const c).Blames (c.text names) := by
  rcases c with ⟨ty, payload⟩
  cases payload
  case text s =>
    simp only [text]
    split
    case isTrue  => exact .ok _
    case isFalse => exact .error .shape
  case int n  =>
    simp only [text]
    split
    case isTrue  => exact .error .shape
    case isFalse =>
      refine Ty.failsOnly_intText.mono ?_
      rintro _ ⟨ha, rfl⟩
      exact .const ha

section Operands

-- The errors of an operation are those of its operands, its name and its shape, whatever the operands
-- stand for.
variable {p : EmitError → Prop} {os : List Operand} {op : Opcode} {names : Names}

theorem failsOnly_listText {texts : List (Except EmitError String)}
    (h : ∀ text ∈ texts, FailsOnly p text) : FailsOnly p (listText texts) :=
  FailsOnly.mapM h |>.bind_pure

theorem Operand.failsOnly_listed (h : ∀ o ∈ os, FailsOnly p o.text) : FailsOnly p (listed os) :=
  failsOnly_listText (by simpa using h)

theorem Operand.failsOnly_grouped (h : ∀ o ∈ os, FailsOnly p o.text) : FailsOnly p (grouped os) := by
  rw [grouped]
  split
  case isTrue  => exact .ok ""
  case isFalse => exact (failsOnly_listed h).bind_pure

theorem Opcode.failsOnly_word (hn : op.name? = none → p (.unknownOpcode op)) :
    FailsOnly p op.word := by
  rw [word]
  split
  case h_1   => exact .ok _
  case h_2 h => exact .error (hn h)

theorem Operand.subset_of_splitLast? {o : Operand} (h : splitLast? os = some (front, o)) :
    front ⊆ os ∧ o ∈ os := by
  obtain ⟨_, hl, h⟩ := Option.map_eq_some_iff.mp h
  cases h
  exact ⟨List.dropLast_subset os, List.mem_of_getLast? hl⟩

theorem Operand.two_eq_ok_iff : two part os = .ok (a, b) ↔ os = [a, b] := by
  unfold two
  split <;> simp_all

theorem Operand.three_eq_ok_iff : three part os = .ok (a, b, c) ↔ os = [a, b, c] := by
  unfold three
  split <;> simp_all

variable (hs : ∀ part fault, p (.malformed part fault))
include hs

namespace Operand

theorem failsOnly_int {o : Operand} : FailsOnly p (o.int part) := by
  rw [int]
  split
  case h_1 => exact .ok _
  case h_2 => exact .error (hs ..)

theorem failsOnly_two : FailsOnly p (two part os) := by
  unfold two
  split
  case h_1 => exact .ok _
  case h_2 => exact .error (hs ..)

theorem failsOnly_three : FailsOnly p (three part os) := by
  unfold three
  split
  case h_1 => exact .ok _
  case h_2 => exact .error (hs ..)

end Operand

namespace Opcode

variable (ho : ∀ o ∈ os, FailsOnly p o.text)
include ho

theorem failsOnly_invokeText : FailsOnly p (invokeText names os) := by
  cases os
  case nil       => exact .error (hs ..)
  case cons o os =>
    exact (Operand.failsOnly_int hs).bind fun _ _ =>
      (Operand.failsOnly_grouped (List.forall_mem_cons.mp ho).right).bind_pure

theorem failsOnly_defineArrayText : FailsOnly p (defineArrayText os) := by
  refine (Operand.failsOnly_three hs).bind fun (a, b, c) h => ?_
  cases Operand.three_eq_ok_iff.mp h
  simp only [List.forall_mem_cons] at ho
  exact ho.right.left.bind fun _ _ => ho.left.bind fun _ _ => ho.right.right.left.bind_pure

theorem failsOnly_readArrayText : FailsOnly p (readArrayText os) := by
  refine (Operand.failsOnly_two hs).bind fun (a, b) h => ?_
  cases Operand.two_eq_ok_iff.mp h
  simp only [List.forall_mem_cons] at ho
  exact ho.left.bind fun _ _ => ho.right.left.bind_pure

theorem failsOnly_writeArrayText : FailsOnly p (writeArrayText os) := by
  refine (Operand.failsOnly_three hs).bind fun (a, b, c) h => ?_
  cases Operand.three_eq_ok_iff.mp h
  simp only [List.forall_mem_cons] at ho
  have hslot : FailsOnly p (slotText a b) := ho.left.bind fun _ _ => ho.right.left.bind_pure
  exact hslot.bind fun _ _ => ho.right.right.left.bind_pure

theorem failsOnly_infixText : FailsOnly p (infixText part symbol os) := by
  refine (Operand.failsOnly_two hs).bind fun (a, b) h => ?_
  cases Operand.two_eq_ok_iff.mp h
  simp only [List.forall_mem_cons] at ho
  exact ho.left.bind fun _ _ => ho.right.left.bind_pure

omit hs in
theorem failsOnly_joinText : FailsOnly p (joinText os) := by
  refine (FailsOnly.mapM fun o h => ?_).bind_pure
  rw [joinedText]
  split
  case h_1 => exact .ok _
  case h_2 => exact (ho o h).bind_pure

omit ho in
theorem failsOnly_splitTriggers : FailsOnly p (op.splitTriggers os) := by
  rw [splitTriggers]
  split
  case h_1 => exact .error (hs ..)
  case h_2 =>
    refine (Operand.failsOnly_int hs).bind fun n _ => ?_
    split
    case isTrue  => exact .ok _
    case isFalse => exact .error (hs ..)

omit hs ho in
theorem subset_of_splitTriggers (h : op.splitTriggers os = .ok (arguments, triggers)) :
    arguments ⊆ os ∧ triggers ⊆ os := by
  rw [splitTriggers] at h
  split at h
  case h_1 => cases h
  case h_2 hl =>
    obtain ⟨n, _, h⟩ := bind_eq_ok_iff.mp h
    split at h
    case isTrue =>
      cases h
      have hf := (Operand.subset_of_splitLast? hl).left
      exact ⟨fun _ h => hf (List.mem_of_mem_take h), fun _ h => hf (List.mem_of_mem_drop h)⟩
    case isFalse => cases h

theorem failsOnly_callbackText : FailsOnly p (op.callbackText names os) := by
  cases os
  case nil => exact .error (hs ..)
  case cons o os =>
    have hos := (List.forall_mem_cons.mp ho).right
    refine (Operand.failsOnly_int hs).bind fun id _ => ?_
    split
    case isTrue  => exact .ok _
    case isFalse =>
      refine (failsOnly_splitTriggers hs).bind fun (arguments, triggers) h => ?_
      have ⟨ha, ht⟩ := subset_of_splitTriggers h
      refine (Operand.failsOnly_listed fun o h => hos o (ha h)).bind fun _ _ => ?_
      dsimp only
      split
      case isTrue  => exact .ok _
      case isFalse => exact (Operand.failsOnly_listed fun o h => hos o (ht h)).bind fun _ _ => .ok _

variable (hn : op.name? = none → p (.unknownOpcode op))
include hn

theorem failsOnly_hookText : FailsOnly p (op.hookText names target os) := by
  rw [hookText]
  split
  case h_1 => exact .error (hs ..)
  case h_2 hl =>
    obtain ⟨hf, hc⟩ := Operand.subset_of_splitLast? hl
    have hcall : FailsOnly p (op.callbackText names _) :=
      failsOnly_callbackText hs fun o h => ho o (hf h)
    split
    case h_1 =>
      split
      case h_1 => exact .error (hs ..)
      case h_2 => exact (failsOnly_word hn).bind fun _ _ => hcall.bind_pure
    case h_2 =>
      exact (failsOnly_word hn).bind fun _ _ => hcall.bind fun _ _ => (ho _ hc).bind_pure

omit hs in
theorem failsOnly_callText : FailsOnly p (op.callText os) :=
  (failsOnly_word hn).bind fun _ _ => (Operand.failsOnly_grouped ho).bind_pure

theorem failsOnly_dotCallText : FailsOnly p (op.dotCallText os) := by
  rw [dotCallText]
  split
  case h_1 => exact .error (hs ..)
  case h_2 hl =>
    have hf := (Operand.subset_of_splitLast? hl).left
    exact (Operand.failsOnly_int hs).bind fun _ _ =>
      (failsOnly_callText (fun o h => ho o (hf h)) hn).bind_pure

theorem failsOnly_operationText : FailsOnly p (op.operationText names inCalc os) := by
  cases hf : op.form <;> simp only [operationText, hf]
  case invoke      => exact failsOnly_invokeText hs ho
  case defineArray => exact failsOnly_defineArrayText hs ho
  case readArray   => exact failsOnly_readArrayText hs ho
  case writeArray  => exact failsOnly_writeArrayText hs ho
  case join        => exact failsOnly_joinText ho
  case hook        => exact failsOnly_hookText hs ho hn
  case branch      => exact failsOnly_infixText hs ho
  case «calc»      => exact (failsOnly_infixText hs ho).bind_pure
  case dotCall     => exact failsOnly_dotCallText hs ho hn
  case call        => exact failsOnly_callText ho hn

end Opcode

end Operands

theorem Expression.failsOnly_text {e : Expression} :
    FailsOnly e.Blames (e.text names inCalc) := by
  induction e generalizing inCalc
  case var v           => exact Variable.failsOnly_text
  case const c         => exact Constant.failsOnly_text
  case op code ts es hi =>
    rw [text, operands_eq_map]
    refine Opcode.failsOnly_operationText (fun _ _ => .shape) ?_ .opcode
    exact List.forall_mem_map.mpr fun e he => (hi e he).mono fun _ => .operand he
  case compound es hi  =>
    rw [text, operands_eq_map]
    refine Operand.failsOnly_listed ?_
    exact List.forall_mem_map.mpr fun e he => (hi e he).mono fun _ => .element he

theorem Instruction.failsOnly_text {i : Instruction} :
    FailsOnly (fun x => i.Blames x) (i.text names declared) := by
  cases i
  case assign vs value =>
    have hv : ∀ v ∈ vs, FailsOnly (fun x => ∃ v ∈ vs, (Expression.var v).Blames x) v.text :=
      fun v hv => Variable.failsOnly_text.mono fun _ hx => ⟨v, hv, hx⟩
    have ht : FailsOnly (fun x => ∃ v ∈ vs, (Expression.var v).Blames x)
        (targetsText declared vs) := by
      rcases vs with _ | ⟨v, _ | ⟨w, vs⟩⟩
      · exact .ok ""
      · exact (hv v (.head _)).bind_pure
      · exact (failsOnly_listText (List.forall_mem_map.mpr hv)).bind_pure
    exact (ht.mono fun _ => .inl).bind fun _ _ =>
      (Expression.failsOnly_text.mono fun _ => .inr).bind_pure
  case ret value =>
    rw [text, operands_eq_map]
    refine (Operand.failsOnly_grouped ?_).bind_pure
    exact List.forall_mem_map.mpr fun e he => Expression.failsOnly_text.mono fun _ hx => ⟨e, he, hx⟩

theorem failsOnly_runLines {is : List Instruction} :
    FailsOnly (fun x => ∃ i ∈ is, i.Blames x) (runLines names declared is) := by
  induction is generalizing declared
  case nil => exact .ok []
  case cons i is hi =>
    refine FailsOnly.bind ?_ fun _ _ => FailsOnly.bind_pure ?_
    · exact i.failsOnly_text.mono fun _ hx => ⟨i, .head _, hx⟩
    · exact hi.mono fun _ ⟨j, hj, hx⟩ => ⟨j, .tail _ hj, hx⟩

theorem Expression.failsOnly_soleType {e : Expression} : FailsOnly e.Blames e.soleType := by
  rw [soleType]
  split
  case h_1 => exact .ok _
  case h_2 => exact .error .shape

mutual

theorem Chain.failsOnly_lines : (c : Chain) → ∀ {names declared},
    FailsOnly (fun x => c.Blames x) (c.lines names declared)
  | .last c,      names, declared => by
    rw [Chain.lines]
    exact c.failsOnly_lines
  | .link c rest, names, declared => by
    rw [Chain.lines]
    exact (c.failsOnly_lines.mono fun _ => .inl).bind fun _ _ =>
      (rest.failsOnly_lines.mono fun _ => .inr).bind_pure

theorem Construct.failsOnly_lines : (c : Construct) → ∀ {names declared},
    FailsOnly (fun x => c.Blames x) (c.lines names declared)
  | .seq is,      names, declared => by
    rw [Construct.lines]
    exact failsOnly_runLines
  | .cond bs,     names, declared => by
    rw [Construct.lines]
    exact FailsOnly.bind (fun _ => .inl) fun _ _ => bs.failsOnly_lines.mono fun _ => .inr
  | .loop c body, names, declared => by
    rw [Construct.lines]
    exact (Expression.failsOnly_text.mono fun _ => .inl).bind fun _ _ =>
      (body.failsOnly_lines.mono fun _ => .inr).bind_pure
  | .switch e cs, names, declared => by
    rw [Construct.lines]
    refine FailsOnly.bind ?_ fun ty hty => ?_
    case refine_1 => exact Expression.failsOnly_soleType.mono fun _ => .inl
    case refine_2 =>
      have ht : e.types = [ty] := Expression.soleType_eq_ok_iff.mp hty
      exact (Expression.failsOnly_text.mono fun _ => .inl).bind fun _ _ =>
        (cs.failsOnly_lines.mono fun _ h => .inr ⟨ty, ht, h⟩).bind_pure

theorem Branches.failsOnly_lines : (bs : Branches) → ∀ {names declared lead},
    FailsOnly (fun x => bs.Blames x) (bs.lines names declared lead)
  | .done,               names, declared, lead => by
    rw [Branches.lines]
    exact .ok _
  | .otherwise body,     names, declared, lead => by
    rw [Branches.lines]
    exact body.failsOnly_lines.bind_pure
  | .branch c body rest, names, declared, lead => by
    rw [Branches.lines]
    exact (Expression.failsOnly_text.mono fun _ => .inl).bind fun _ _ =>
      (body.failsOnly_lines.mono fun _ h => .inr (.inl h)).bind fun _ _ =>
        (rest.failsOnly_lines.mono fun _ h => .inr (.inr h)).bind_pure

theorem Cases.failsOnly_lines : (cs : Cases) → ∀ {names declared ty},
    FailsOnly (fun x => cs.Blames x ty) (cs.lines names declared ty)
  | .done,                  names, declared, ty => by
    rw [Cases.lines]
    exact .ok _
  | .otherwise body,        names, declared, ty => by
    rw [Cases.lines]
    exact body.failsOnly_lines.bind_pure
  | .case labels body rest, names, declared, ty => by
    rw [Cases.lines]
    have hl : FailsOnly (fun x => ∃ n ∈ labels, ¬ty.Admits n ∧ x = .decode ty n)
        (labels.mapM (ty.intText names)) :=
      .mapM fun n hn => Ty.failsOnly_intText.mono fun _ hx => ⟨n, hn, hx⟩
    split
    case isTrue h  => exact .error (.inl ⟨List.isEmpty_iff.mp h, rfl⟩)
    case isFalse h =>
      exact (hl.mono fun _ h => .inr (.inl h)).bind fun _ _ =>
        (body.failsOnly_lines.mono fun _ h => .inr (.inr (.inl h))).bind fun _ _ =>
          (rest.failsOnly_lines.mono fun _ h => .inr (.inr (.inr h))).bind_pure

end

theorem Item.failsOnly_lines {i : Item} :
    FailsOnly (fun x => i.Blames x) (i.lines names declared) := by
  cases i
  case instruction i => exact i.failsOnly_text.bind_pure
  case block c       => exact c.failsOnly_lines

theorem failsOnly_itemLines {is : List Item} :
    FailsOnly (fun x => ∃ i ∈ is, i.Blames x) (itemLines names declared is) := by
  induction is generalizing declared
  case nil => exact .ok []
  case cons i is hi =>
    refine FailsOnly.bind ?_ fun _ _ => FailsOnly.bind_pure ?_
    · exact i.failsOnly_lines.mono fun _ hx => ⟨i, .head _, hx⟩
    · exact hi.mono fun _ ⟨j, hj, hx⟩ => ⟨j, .tail _ hj, hx⟩

-- The errors of a script are those of its first line, those of the items that are written, and that
-- of an item behind a return that is left out.
inductive Script.Blames (s : Script) : EmitError → Prop
  | argument {v} (mem : v ∈ s.arguments) (kind : v.kind ≠ .frame) :
    s.Blames (.malformed .header (.argument v.dump))
  | item {i x} (mem : i ∈ s.written) (blames : i.Blames x) : s.Blames x
  | refusal {i x} (next : s.unwritten[1]? = some i) (refusal : i.refusal = x) : s.Blames x

theorem Script.failsOnly_signature {s : Script} : FailsOnly s.Blames (s.signature names) := by
  refine (failsOnly_listText ?_).bind_pure
  refine List.forall_mem_map.mpr fun v hv => ?_
  rw [argumentText]
  split
  case isTrue    => exact .ok _
  case isFalse h => exact .error (.argument hv h)

theorem Script.failsOnly_emit {s : Script} : FailsOnly s.Blames (s.emit names unit) := by
  intro x h
  rcases emit_eq_error_iff.mp h with h | ⟨_, h⟩
  case inl => exact failsOnly_signature x h
  case inr =>
    rcases bodyLines_eq_error_iff.mp h with h | ⟨_, i, hi, hx⟩
    case inl =>
      obtain ⟨i, hi, hx⟩ := failsOnly_itemLines x h
      exact .item hi hx
    case inr => exact .refusal hi hx

theorem Expression.not_blames_statementAfterReturn (e : Expression) :
    ¬e.Blames .statementAfterReturn := by
  intro h
  induction e
  case var     => cases h
  case const   => cases h
  case op hi =>
    cases h
    case operand he hb => exact hi _ he hb
  case compound hi =>
    cases h
    case element he hb => exact hi _ he hb

theorem Instruction.not_blames_statementAfterReturn (i : Instruction) :
    ¬i.Blames .statementAfterReturn := by
  cases i
  case assign => simp [Blames, Expression.not_blames_statementAfterReturn]
  case ret    => simp [Blames, Expression.not_blames_statementAfterReturn]

mutual

theorem Chain.not_blames_statementAfterReturn : (c : Chain) → ¬c.Blames .statementAfterReturn
  | .last c      => c.not_blames_statementAfterReturn
  | .link c rest =>
    not_or.mpr ⟨c.not_blames_statementAfterReturn, rest.not_blames_statementAfterReturn⟩

theorem Construct.not_blames_statementAfterReturn : (c : Construct) →
    ¬c.Blames .statementAfterReturn
  | .seq is      => fun ⟨i, _, h⟩ => i.not_blames_statementAfterReturn h
  | .cond bs     =>
    not_or.mpr ⟨by cases bs <;> simp [Construct.opening], bs.not_blames_statementAfterReturn⟩
  | .loop c body =>
    not_or.mpr ⟨c.not_blames_statementAfterReturn, body.not_blames_statementAfterReturn⟩
  | .switch e cs =>
    not_or.mpr ⟨e.not_blames_statementAfterReturn,
      fun ⟨_, _, h⟩ => cs.not_blames_statementAfterReturn h⟩

theorem Branches.not_blames_statementAfterReturn : (bs : Branches) →
    ¬bs.Blames .statementAfterReturn
  | .done               => id
  | .otherwise body     => body.not_blames_statementAfterReturn
  | .branch c body rest =>
    not_or.mpr ⟨c.not_blames_statementAfterReturn,
      not_or.mpr ⟨body.not_blames_statementAfterReturn, rest.not_blames_statementAfterReturn⟩⟩

theorem Cases.not_blames_statementAfterReturn : (cs : Cases) → ∀ {ty},
    ¬cs.Blames .statementAfterReturn ty
  | .done,             _ => id
  | .otherwise body,   _ => body.not_blames_statementAfterReturn
  | .case _ body rest, _ =>
    not_or.mpr ⟨nofun, not_or.mpr ⟨nofun,
      not_or.mpr ⟨body.not_blames_statementAfterReturn, rest.not_blames_statementAfterReturn⟩⟩⟩

end

theorem Item.not_blames_statementAfterReturn (i : Item) : ¬i.Blames .statementAfterReturn := by
  cases i
  case instruction i => exact i.not_blames_statementAfterReturn
  case block c       => exact c.not_blames_statementAfterReturn

end ClientScript
