import ClientScript.Proofs.Emission.Culprit

namespace ClientScript

theorem Ty.intText_of_not_admits {ty : Ty} {n : Int32} (names : Names) (h : ¬ty.Admits n) :
    ty.intText names n = .error (.decode ty n) := by
  have hn : ty.intText? names n = none :=
    Option.not_isSome_iff_eq_none.mp fun hs => h (intText?_isSome_iff.mp hs)
  rw [intText, hn]

namespace Script

variable {s : Script} {names : Names} {unit : String} {x : EmitError}

theorem exists_contains_of_emit (hx : x.Inner) (h : s.emit names unit = .error x) :
    (∃ d, s.Contains d ∧ d.Causes x) ∨ ∃ l ∈ s.body.labelled, Mislabels x l.1 l.2 := by
  rcases (failsOnly_emit x h).exists_part hx with ⟨i, hi, d, hd, hc⟩ | ⟨e, he, d, hd, hc⟩ | hl
  case inl     => exact .inl ⟨d, .inl ⟨i, hi, hd⟩, hc⟩
  case inr.inl => exact .inl ⟨d, .inr ⟨e, he, hd⟩, hc⟩
  case inr.inr => exact .inr hl

theorem exists_stack_of_emit {id : UInt32} (h : s.emit names unit = .error (.stackVariable id)) :
    ∃ v, v.kind = .stack ∧ v.id = id ∧ s.Contains (.var v) := by
  have hx : EmitError.Inner (.stackVariable id) := ⟨by simp, by simp⟩
  rcases exists_contains_of_emit hx h with ⟨d, hd, hc⟩ | ⟨_, _, _, _, _, _, _, he⟩
  case inl =>
    obtain ⟨v, rfl, hk, hv⟩ := Expression.exists_eq_var hc
    exact ⟨v, hk, hv, hd⟩
  case inr => cases he

theorem exists_op_of_emit {op : Opcode} (h : s.emit names unit = .error (.unknownOpcode op)) :
    op.name? = none ∧ ∃ ts es, s.Contains (.op op ts es) := by
  have hx : EmitError.Inner (.unknownOpcode op) := ⟨by simp, by simp⟩
  rcases exists_contains_of_emit hx h with ⟨d, hd, hc⟩ | ⟨_, _, _, _, _, _, _, he⟩
  case inl =>
    obtain ⟨hn, ts, es, rfl⟩ := Expression.exists_eq_op hc
    exact ⟨hn, ts, es, hd⟩
  case inr => cases he

theorem exists_number_of_emit {ty : Ty} {n : Int32}
    (h : s.emit names unit = .error (.decode ty n)) :
    ty.intText names n = .error (.decode ty n) ∧
      (s.Contains (.const ⟨ty, .int n⟩) ∨
        ∃ e ns, (e, ns) ∈ s.body.labelled ∧ e.types = [ty] ∧ n ∈ ns) := by
  have hx : EmitError.Inner (.decode ty n) := ⟨by simp, by simp⟩
  rcases exists_contains_of_emit hx h with ⟨d, hd, hc⟩ | ⟨⟨e, ns⟩, hl, _, ht, m, hm, ha, he⟩
  case inl =>
    obtain ⟨ha, rfl⟩ := Expression.eq_const hc
    exact ⟨Ty.intText_of_not_admits names ha, .inl hd⟩
  case inr =>
    cases he
    exact ⟨Ty.intText_of_not_admits names ha, .inr ⟨e, ns, hl, ht, hm⟩⟩

theorem exists_return_of_emit (h : s.emit names unit = .error .statementAfterReturn) :
    s.returns = [] ∧ ∃ before value next after,
      s.body.items = before ++ .instruction (.ret value) :: next :: after := by
  generalize hx : EmitError.statementAfterReturn = x at h
  cases failsOnly_emit x h
  case argument        => cases hx
  case item i _ hb     => exact absurd (hx ▸ hb) i.not_blames_statementAfterReturn
  case refusal hn _    =>
    rcases hu : s.unwritten with _ | ⟨i, _ | ⟨next, after⟩⟩
    case nil       => simp [hu] at hn
    case cons.nil  => simp [hu] at hn
    case cons.cons =>
      obtain ⟨hr, value, rfl⟩ := elides_iff.mp (elides_of_unwritten hu)
      exact ⟨hr, s.written, value, next, after, hu ▸ items_eq_append⟩

-- What the errors of a script tell about it is true: the variable, the operation or the number that
-- an error names stands in the script and has no text, and there is something behind a return that
-- is left out.
theorem emit_error_evidence (s : Script) (names : Names) (unit : String) :
    (∀ id, s.emit names unit = .error (.stackVariable id) →
      ∃ v, v.kind = .stack ∧ v.id = id ∧ s.Contains (.var v)) ∧
    (∀ op, s.emit names unit = .error (.unknownOpcode op) →
      op.name? = none ∧ ∃ ts es, s.Contains (.op op ts es)) ∧
    (∀ ty n, s.emit names unit = .error (.decode ty n) →
      ty.intText names n = .error (.decode ty n) ∧
        (s.Contains (.const ⟨ty, .int n⟩) ∨
          ∃ e ns, (e, ns) ∈ s.body.labelled ∧ e.types = [ty] ∧ n ∈ ns)) ∧
    (s.emit names unit = .error .statementAfterReturn →
      s.returns = [] ∧ ∃ before value next after,
        s.body.items = before ++ .instruction (.ret value) :: next :: after) :=
  ⟨fun _ => exists_stack_of_emit, fun _ => exists_op_of_emit, fun _ _ => exists_number_of_emit,
    exists_return_of_emit⟩

end Script

def running (is : List Instruction) : Script where
  id   := 7
  body := .last (.seq is)

def mislabelled : Script where
  id   := 7
  body := .last (.switch (.var ⟨.frame, .boolean, 0⟩) (.case [1, 2] (.last (.seq [])) .done))

theorem Script.emit_error_evidence_mislabelled :
    (running [.assign [⟨.frame, .int, 0⟩] (.var ⟨.stack, .int, 3⟩)]).emit Names.unknown "  " =
      .error (.stackVariable 3) ∧
    (∃ v, v.kind = .stack ∧ v.id = 3 ∧
      (running [.assign [⟨.frame, .int, 0⟩] (.var ⟨.stack, .int, 3⟩)]).Contains (.var v)) ∧
    (running [.assign [] (.op ⟨65000⟩ [] [])]).emit Names.unknown "  " =
      .error (.unknownOpcode ⟨65000⟩) ∧
    (∃ ts es, (running [.assign [] (.op ⟨65000⟩ [] [])]).Contains (.op ⟨65000⟩ ts es)) ∧
    mislabelled.emit Names.unknown "  " = .error (.decode .boolean 2) ∧
    (mislabelled.Contains (.const ⟨.boolean, .int 2⟩) ∨
      ∃ e ns, (e, ns) ∈ mislabelled.body.labelled ∧ e.types = [.boolean] ∧ 2 ∈ ns) ∧
    (running [.ret (.compound []), .assign [] (.compound [])]).emit Names.unknown "  " =
      .error .statementAfterReturn ∧
    ∃ before value next after,
      (running [.ret (.compound []), .assign [] (.compound [])]).body.items =
        before ++ .instruction (.ret value) :: next :: after := by
  have hs : (running [.assign [⟨.frame, .int, 0⟩] (.var ⟨.stack, .int, 3⟩)]).emit Names.unknown
      "  " = .error (.stackVariable 3) := by decide +kernel
  have ho : (running [.assign [] (.op ⟨65000⟩ [] [])]).emit Names.unknown "  " =
      .error (.unknownOpcode ⟨65000⟩) := by decide +kernel
  have hl : mislabelled.emit Names.unknown "  " = .error (.decode .boolean 2) := by decide +kernel
  have hr : (running [.ret (.compound []), .assign [] (.compound [])]).emit Names.unknown "  " =
      .error .statementAfterReturn := by decide +kernel
  refine ⟨hs, ?stack, ho, ?op, hl, ?label, hr, ?behind⟩
  case stack  => exact (emit_error_evidence _ _ _).left _ hs
  case op     => exact ((emit_error_evidence _ _ _).right.left _ ho).right
  case label  => exact ((emit_error_evidence _ _ _).right.right.left _ _ hl).right
  case behind => exact ((emit_error_evidence _ _ _).right.right.right hr).right

end ClientScript
