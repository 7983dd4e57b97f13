import ClientScript.Proofs.Emission.Blame
import ClientScript.Proofs.Emission.Declaration

namespace ClientScript

inductive Item.RefusedFor : Item → EmitError → Prop
  | instruction {i} : RefusedFor (.instruction i) .statementAfterReturn
  | loop {c body} : RefusedFor (.block (.loop c body)) .statementAfterReturn
  | cond {bs} (branch : bs.hasBranch) : RefusedFor (.block (.cond bs)) .statementAfterReturn
  | bare {bs} (branch : bs.hasBranch = false) :
    RefusedFor (.block (.cond bs)) (.malformed .conditional .noBranches)
  | switch {e cs ty} (types : e.types = [ty]) :
    RefusedFor (.block (.switch e cs)) .statementAfterReturn
  | several {e cs} (types : e.types.length ≠ 1) :
    RefusedFor (.block (.switch e cs)) (.malformed .switch (.scrutinee e.dump e.types.length))

theorem Construct.refusedFor {c : Construct} (h : i ∈ c.items) : i.RefusedFor i.refusal := by
  cases c
  case seq is =>
    have ⟨_, _, hi⟩ := List.mem_map.mp h
    exact hi ▸ .instruction
  case cond bs =>
    cases List.mem_singleton.mp h
    cases bs
    case branch => exact .cond rfl
    all_goals exact .bare rfl
  case loop c body =>
    cases List.mem_singleton.mp h
    exact .loop
  case switch e cs =>
    cases List.mem_singleton.mp h
    rcases ht : e.types with _ | ⟨ty, _ | ⟨_, _⟩⟩
    case cons.nil =>
      have hr : Item.refusal (.block (.switch e cs)) = .statementAfterReturn := by
        simp [Item.refusal, opening, Expression.soleType, ht, Except.map]
      exact hr ▸ .switch ht
    all_goals
      have hr : Item.refusal (.block (.switch e cs)) =
          .malformed .switch (.scrutinee e.dump e.types.length) := by
        simp [Item.refusal, opening, Expression.soleType, ht, Except.map]
      exact hr ▸ .several (by simp [ht])

theorem Chain.refusedFor {c : Chain} (h : i ∈ c.items) : i.RefusedFor i.refusal := by
  match c with
  | last c      => exact c.refusedFor h
  | link c rest =>
    rcases List.mem_append.mp h with h | h
    · exact c.refusedFor h
    · exact rest.refusedFor h

theorem Construct.exists_items_eq_of_append {c : Construct} (h : c.items = before ++ after) :
    ∃ a : Construct, a.items = before := by
  cases c
  case seq is =>
    have ⟨first, _, _, hf, _⟩ := List.map_eq_append_iff.mp h
    exact ⟨.seq first, hf⟩
  all_goals
    rcases List.append_eq_singleton_iff.mp h.symm with ⟨hb, _⟩ | ⟨_, ha⟩
    · exact ⟨.seq [], hb.symm⟩
    · exact ⟨_, h.trans (ha ▸ List.append_nil before)⟩

theorem Chain.exists_items_eq_of_append {c : Chain} (h : c.items = before ++ after) :
    ∃ a : Chain, a.items = before := by
  match c with
  | last c      =>
    have ⟨a, ha⟩ := c.exists_items_eq_of_append h
    exact ⟨.last a, ha⟩
  | link c rest =>
    rcases List.append_eq_append_iff.mp h with ⟨more, hb, hr⟩ | ⟨more, hc, _⟩
    case inl =>
      have ⟨a, ha⟩ := rest.exists_items_eq_of_append hr
      exact ⟨.link c a, by rw [items, ha, hb]⟩
    case inr =>
      have ⟨a, ha⟩ := c.exists_items_eq_of_append hc
      exact ⟨.last a, ha⟩

theorem Instruction.exists_text_ret (h : (ret e).text names declared = .ok t) :
    ∃ rest, t = "return" ++ rest := by
  obtain ⟨values, _, ht⟩ := bind_eq_ok_iff.mp h
  cases ht
  exact ⟨values ++ ";", String.append_assoc ..⟩

namespace Script

variable {s : Script} {names : Names} {unit : String}

section Cut

-- A script, and the chain of the items in front of a return that is left out.
variable {c : Chain} {i next : Item} {after : List Item} (hi : s.elides i)
variable (hc : ∀ j ∈ c.items, s.elides j = false)
include hi hc

theorem bodyLines_of_cut (h : s.body.items = c.items ++ i :: after) :
    s.bodyLines names = { s with body := c }.bodyLines names >>= fun ls =>
      after.head?.elim (.ok ls) fun next => .error next.refusal := by
  have hl : { s with body := c }.bodyLines names = itemLines names s.arguments c.items :=
    bodyLines_eq_itemLines hc
  rw [bodyLines_eq, written_eq h hi hc, unwritten_eq h hi hc, hl, List.getElem?_cons_succ,
    ← List.head?_eq_getElem?]

theorem emit_of_final (h : s.body.items = c.items ++ [i]) :
    s.emit names unit = { s with body := c }.emit names unit := by
  refine emit_congr rfl rfl ?_
  rw [bodyLines_of_cut hi hc h]
  cases { s with body := c }.bodyLines names <;> rfl

theorem emit_of_cut_error (h : s.body.items = c.items ++ i :: after)
    (ht : { s with body := c }.emit names unit = .error x) : s.emit names unit = .error x := by
  rw [emit_eq_error_iff] at ht ⊢
  refine ht.imp_right fun ⟨hs, hl⟩ => ⟨hs, ?_⟩
  rw [bodyLines_of_cut hi hc h, hl, error_bind]

theorem emit_of_not_final (h : s.body.items = c.items ++ i :: next :: after)
    (ht : { s with body := c }.emit names unit = .ok t) :
    s.emit names unit = .error next.refusal := by
  have ⟨header, ls, hh, hl, _⟩ := emit_eq_ok_iff.mp ht
  refine emit_eq_error_iff.mpr (.inr ⟨⟨header, hh⟩, ?_⟩)
  rw [bodyLines_of_cut hi hc h, hl]
  rfl

end Cut

theorem exists_return_of_statementAfterReturn
    (h : s.emit names unit = .error .statementAfterReturn) :
    s.returns = [] ∧ ∃ before e next after,
      s.body.items = before ++ .instruction (.ret e) :: next :: after := by
  cases failsOnly_emit _ h
  case item i _ hi     => exact absurd hi i.not_blames_statementAfterReturn
  case refusal hn _ =>
    rcases hu : s.unwritten with _ | ⟨i, _ | ⟨j, after⟩⟩
    · simp [hu] at hn
    · simp [hu] at hn
    · obtain ⟨hr, e, rfl⟩ := elides_iff.mp (elides_of_unwritten hu)
      exact ⟨hr, s.written, e, j, after, hu ▸ items_eq_append⟩

theorem elided_eq_nil_or : s.elided = [] ∨ s.returns = [] ∧
    ∃ before e, s.body.items = before ++ [.instruction (.ret e)] ∧ s.elided = [.ret e] := by
  rw [elided]
  rcases hl : s.body.items.getLast?.filter s.elides with _ | i
  case none => exact .inl rfl
  case some =>
    obtain ⟨hl, he⟩ := Option.filter_eq_some_iff.mp hl
    obtain ⟨hr, e, rfl⟩ := elides_iff.mp he
    obtain ⟨before, hb⟩ := List.getLast?_eq_some_iff.mp hl
    exact .inr ⟨hr, before, e, hb, rfl⟩

-- A script that returns nothing has the text that it has without the return at its end. Behind its
-- first return nothing can follow, and no other return is left out.
theorem emit_elision (s : Script) (names : Names) (unit : String) :
    (∀ before after, s.body.items = before ++ after → ∃ c : Chain, c.items = before) ∧
    (∀ (c : Chain) e after, s.returns = [] →
      s.body.items = c.items ++ .instruction (.ret e) :: after →
      (∀ i ∈ c.items, i.isReturn = false) →
      (after = [] → s.emit names unit = { s with body := c }.emit names unit) ∧
      ∀ next rest, after = next :: rest →
        (∀ x, { s with body := c }.emit names unit = .error x → s.emit names unit = .error x) ∧
        ∀ text, { s with body := c }.emit names unit = .ok text →
          ∃ x, next.RefusedFor x ∧ s.emit names unit = .error x) ∧
    (s.emit names unit = .error .statementAfterReturn → s.returns = [] ∧
      ∃ before e next after, s.body.items = before ++ .instruction (.ret e) :: next :: after) ∧
    ∀ text, s.emit names unit = .ok text → ∃ header ls,
      text = "// " ++ toString s.id.toInt ++ "\n" ++ header ++
        String.join (ls.map fun l => "\n" ++ l.render unit) ++ "\n" ∧
      List.Forall₂ (Slot.Holds names) s.layout ls ∧
      s.instructions = (sentences s.layout ls).map (·.instruction) ++ s.elided ∧
      (∀ a ∈ sentences s.layout ls, ∀ e, a.instruction = .ret e →
        ∃ rest, a.text = "return" ++ rest) ∧
      (s.elided = [] ∨ s.returns = [] ∧
        ∃ before e, s.body.items = before ++ [.instruction (.ret e)] ∧ s.elided = [.ret e]) := by
  refine ⟨fun _ _ => Chain.exists_items_eq_of_append, ?_, exists_return_of_statementAfterReturn, ?_⟩
  case refine_1 =>
    intro c e after hr h hc
    have hi : s.elides (.instruction (.ret e)) := elides_iff.mpr ⟨hr, e, rfl⟩
    have hc : ∀ j ∈ c.items, s.elides j = false := fun j hj => by simp [elides, hc j hj]
    constructor
    case left =>
      rintro rfl
      exact emit_of_final hi hc h
    case right =>
      rintro next rest rfl
      refine ⟨fun x => emit_of_cut_error hi hc h, fun text ht => ?_⟩
      exact ⟨_, s.body.refusedFor (by simp [h]), emit_of_not_final hi hc h ht⟩
  case refine_2 =>
    intro text h
    obtain ⟨header, ls, _, ht, hs, hi⟩ := emit_spells h
    refine ⟨header, ls, ht, hs.holds, hi, fun a ha e he => ?_, elided_eq_nil_or⟩
    obtain ⟨before, after, hsp⟩ := List.append_of_mem ha
    exact Instruction.exists_text_ret (he ▸ hs.text_sentence hsp)

def leaving : Script where
  id   := 7
  body := .link (.loop (.const ⟨.int, .int 1⟩) (.last (.seq [.ret (.compound [])])))
    (.last (.seq [.ret (.const ⟨.int, .int 5⟩)]))

theorem leaving_emit_elision :
    leaving.emit Names.unknown "  " =
      .ok "// 7\nscript7\nwhile 1 \x7b\n  return;\n\x7d\n" ∧
    ∃ c : Chain, leaving.body.items = c.items ++ [.instruction (.ret (.const ⟨.int, .int 5⟩))] ∧
      leaving.emit Names.unknown "  " = { leaving with body := c }.emit Names.unknown "  " :=
  let c := Chain.last (.loop (.const ⟨.int, .int 1⟩) (.last (.seq [.ret (.compound [])])))
  have h := emit_elision leaving Names.unknown "  " |>.right.left c _ [] rfl rfl
  have hc : ∀ i ∈ c.items, i.isReturn = false := List.forall_mem_singleton.mpr rfl
  ⟨rfl, c, rfl, (h hc).left rfl⟩

end Script

end ClientScript
