import ClientScript.Proofs.Emission.Congruence
import ClientScript.Proofs.Flattening

namespace ClientScript

open List (Forall₂)
open Expression (leavesOf allSolid Opened Flattens)

theorem listText_flatten {tss : List (List (Except EmitError String))} (h : ∀ ts ∈ tss, ts ≠ []) :
    listText (tss.map listText) = listText tss.flatten := by
  induction tss
  case nil            => rfl
  case cons ts tss hi =>
    obtain ⟨ht, hs⟩ := List.forall_mem_cons.mp h
    cases tss
    case nil         =>
      rw [List.map_singleton, listText_singleton, List.flatten_cons, List.flatten_nil,
        List.append_nil]
    case cons us tss =>
      have hf : (us :: tss).flatten ≠ [] :=
        List.append_ne_nil_of_left_ne_nil (hs us (.head tss)) _
      have hl : listText ((ts :: us :: tss).map listText) =
          listText ([listText ts] ++ (us :: tss).map listText) := rfl
      rw [hl, listText_append (List.cons_ne_nil _ _) (by simp), listText_singleton, hi hs,
        ← listText_append ht hf]
      rfl

namespace Expression

variable {names : Names} {e f : Expression} {es : List Expression}

theorem listed_operands : Operand.listed (operands names inCalc es) =
    listText (es.map fun e => e.text names inCalc) := by
  rw [Operand.listed, operands_eq_map, List.map_map]
  rfl

theorem listText_leavesOf (hn : ∀ e ∈ es, e.leaves ≠ [])
    (h : ∀ e ∈ es, e.text names inCalc = listText (e.leaves.map fun f => f.text names inCalc)) :
    listText (es.map fun e => e.text names inCalc) =
      listText ((leavesOf es).map fun f => f.text names inCalc) := by
  have hm : (es.map fun e => e.text names inCalc) =
      (es.map fun e => e.leaves.map fun f => f.text names inCalc).map listText := by
    rw [List.map_map]
    exact List.map_congr_left h
  rw [hm, listText_flatten, leavesOf_eq_flatMap, List.map_flatMap, List.flatMap_def]
  simpa using hn

theorem text_eq_listText (h : e.solid) :
    e.text names inCalc = listText (e.leaves.map fun f => f.text names inCalc) := by
  induction e
  case compound es hi =>
    obtain ⟨_, hs⟩ := solid_compound_iff.mp h
    rw [text, listed_operands, leaves]
    exact listText_leavesOf (fun e he => leaves_ne_nil (hs e he)) fun e he => hi e he (hs e he)
  all_goals exact (listText_singleton _).symm

theorem listed_leavesOf (h : allSolid es) :
    Operand.listed (operands names inCalc (leavesOf es)) =
      Operand.listed (operands names inCalc es) := by
  have hs := allSolid_iff.mp h
  rw [listed_operands, listed_operands]
  exact (listText_leavesOf (fun e he => leaves_ne_nil (hs e he)) fun e he =>
    text_eq_listText (hs e he)).symm

theorem isEmpty_operands : (operands names inCalc es).isEmpty = es.isEmpty := by
  rw [operands_eq_map, List.isEmpty_map]

theorem grouped_leavesOf (h : allSolid es) :
    Operand.grouped (operands names inCalc (leavesOf es)) =
      Operand.grouped (operands names inCalc es) := by
  have he : (leavesOf es).isEmpty = es.isEmpty :=
    Bool.eq_iff_iff.mpr (by simp [leavesOf_eq_nil_iff (allSolid_iff.mp h)])
  rw [Operand.grouped, Operand.grouped, isEmpty_operands, isEmpty_operands, he, listed_leavesOf h]

theorem operands_append {fs : List Expression} :
    operands names inCalc (es ++ fs) = operands names inCalc es ++ operands names inCalc fs := by
  simp [operands_eq_map]

-- Opening a list does not change what is written for it, nor why nothing can be written.
theorem Opened.text_eq (h : Opened e f) : e.text names inCalc = f.text names inCalc := by
  cases h
  case compound h     => rw [text, text, listed_leavesOf h]
  case invoke form h  =>
    simp only [text, Opcode.operationText, form, operands, Opcode.invokeText, grouped_leavesOf h]
  case dotCall form h =>
    simp only [text, Opcode.operationText, form, Opcode.dotCallText, Operand.splitLast?_append,
      Opcode.callText, grouped_leavesOf h]
  case call form h    =>
    simp only [text, Opcode.operationText, form, Opcode.callText, grouped_leavesOf h]

theorem operands_like_of_flattens (before after : List Expression) (h : Flattens e f)
    (ht : Agree Flattens names names (e.text names inCalc) (f.text names inCalc)) :
    Forall₂ (Operand.Like Flattens names names) (operands names inCalc (before ++ e :: after))
      (operands names inCalc (before ++ f :: after)) := by
  have hr : ∀ es, Forall₂ (Operand.Like Flattens names names) (operands names inCalc es)
      (operands names inCalc es) :=
    fun es => List.forall₂_same.mpr fun o _ => ⟨.refl _, rfl, .refl _⟩
  rw [operands_append, operands_append, operands, operands]
  exact List.rel_append (hr before) (.cons ⟨h, h.constant?_eq, ht⟩ (hr after))

theorem Flattens.text_agree (h : Flattens e f) :
    Agree Flattens names names (e.text names inCalc) (f.text names inCalc) := by
  induction h generalizing inCalc
  case refl          => exact .refl _
  case here h        => exact h.text_eq ▸ .refl _
  case argument h hi =>
    rw [text, text]
    exact Opcode.operationText_agree (operands_like_of_flattens _ _ h hi)
  case element h hi  =>
    rw [text, text]
    exact Operand.listed_agree (operands_like_of_flattens _ _ h hi)

theorem Flattens.grouped_agree (h : Flattens e f) :
    Agree Flattens names names (Operand.grouped (operands names inCalc e.toList))
      (Operand.grouped (operands names inCalc f.toList)) := by
  have alone : ∀ {e f}, Flattens e f →
      Agree Flattens names names (Operand.grouped (operands names inCalc [e]))
        (Operand.grouped (operands names inCalc [f])) := fun h =>
    Operand.grouped_agree (operands_like_of_flattens [] [] h h.text_agree)
  cases h
  case refl       => exact .refl _
  case argument h => exact alone (.argument h)
  case element h  => exact Operand.grouped_agree (operands_like_of_flattens _ _ h h.text_agree)
  case here h     =>
    cases h
    case compound h     => exact grouped_leavesOf h ▸ .refl _
    case invoke form h  => exact alone (.here (.invoke form h))
    case dotCall form h => exact alone (.here (.dotCall form h))
    case call form h    => exact alone (.here (.call form h))

theorem exchangeable_flattens : Exchangeable Flattens Flattens names names where
  text h   := h.text_agree
  list h   := h.grouped_agree
  switch h := h
  types h  := h.types_eq

end Expression

def Script.Flattens (s t : Script) : Prop :=
  s.Replaced Expression.Flattens Expression.Flattens t

-- A list without empty compounds is written like what is left of it when it is opened. Errors stay the
-- same, but they quote expressions as they stand, with or without the compounds in them. The types
-- stay in any case.
theorem Script.emit_flatten :
    (∀ e f : Expression, e.Opened f → ∀ names inCalc, e.text names inCalc = f.text names inCalc) ∧
    (∀ es, allSolid es → ∀ names declared,
      (Instruction.ret (.compound es)).text names declared =
        (Instruction.ret (.compound (leavesOf es))).text names declared) ∧
    (∀ s t : Script, s.Flattens t → ∀ names unit,
      Alike (EmitError.Quoting Expression.Flattens) Eq (s.emit names unit) (t.emit names unit)) ∧
    ∀ e : Expression, e.flat.types = e.types := by
  refine ⟨fun e f h names inCalc => h.text_eq, fun es h names declared => ?returned,
    fun s t h names unit => ?scripts, Expression.types_flat⟩
  case returned =>
    simp only [Instruction.text, Expression.toList, Expression.grouped_leavesOf h]
  case scripts  =>
    exact (h.emit_alike Expression.exchangeable_flattens).mono (fun _ _ hq => hq)
      fun _ _ he => he ⟨rfl, rfl⟩

def Script.gathering (es : List Expression) : Script where
  id      := 6
  returns := [.int, .int]
  body    :=
    let number (n : Int32) := Expression.const ⟨.int, .int n⟩
    .last <| .seq [
      .assign [⟨.frame, .int, 0⟩, ⟨.frame, .int, 1⟩] (.compound es),
      .assign [] (.op ⟨40⟩ [] (number 7 :: es)),
      .assign [] (.op ⟨1000⟩ [] (es ++ [number 1])),
      .assign [] (.op ⟨3100⟩ [] [.op ⟨3100⟩ [] es]),
      .ret (.compound es)]

def Script.nested : List Expression :=
  [.compound [.var ⟨.frame, .int, 0⟩, .compound [.var ⟨.frame, .int, 1⟩]]]

theorem Script.gathering_flattens {es : List Expression} (h : allSolid es) :
    (gathering es).Flattens (gathering (leavesOf es)) where
  id        := rfl
  arguments := rfl
  returns   := rfl
  body      :=
    .last <| .seq <| .cons (.assign (.here (.compound h))) <|
      .cons (.assign (.here (.invoke rfl h))) <| .cons (.assign (.here (.dotCall rfl h))) <|
      .cons (.assign (@Expression.Flattens.argument _ _ [] _ _ [] (.here (.call rfl h)))) <|
      .cons (.ret (.here (.compound h))) .nil

def Script.gatheringText : String :=
  "// 6\nscript6()(int, int)\n$int0, $int1 = $int0, $int1;\n~script7($int0, $int1);\n" ++
    ".cc_setposition($int0, $int1);\nmes(mes($int0, $int1));\nreturn($int0, $int1);\n"

theorem Script.emit_gathering :
    allSolid nested ∧ leavesOf nested = [.var ⟨.frame, .int, 0⟩, .var ⟨.frame, .int, 1⟩] ∧
    (gathering nested).emit Names.unknown "  " = .ok gatheringText ∧
    (gathering (leavesOf nested)).emit Names.unknown "  " = .ok gatheringText ∧
    (Expression.compound nested).text Names.unknown false =
      (Expression.compound (leavesOf nested)).text Names.unknown false ∧
    (Instruction.ret (.compound nested)).text Names.unknown [] =
      (Instruction.ret (.compound (leavesOf nested))).text Names.unknown [] := by
  have ⟨opened, returned, scripts, _⟩ := emit_flatten
  have ht : (gathering nested).emit Names.unknown "  " = .ok gatheringText := by decide +kernel
  exact ⟨rfl, rfl, ht, (scripts _ _ (gathering_flattens rfl) _ _).eq_ok_iff.mp ht,
    opened _ _ (.compound rfl) _ _, returned _ rfl _ _⟩

def Script.choosing (es : List Expression) : Script where
  id   := 5
  body := .last (.switch (.compound es) .done)

-- The message of an error is not the same.
theorem Script.emit_choosing_ne :
    (choosing nested).Flattens (choosing (leavesOf nested)) ∧
    (choosing nested).emit Names.unknown "  " =
      .error (.malformed .switch (.scrutinee "[[local0:int, [local1:int]]]" 2)) ∧
    (choosing (leavesOf nested)).emit Names.unknown "  " =
      .error (.malformed .switch (.scrutinee "[local0:int, local1:int]" 2)) ∧
    (choosing nested).emit Names.unknown "  " ≠
      (choosing (leavesOf nested)).emit Names.unknown "  " := by
  have hn : (choosing nested).emit Names.unknown "  " =
      .error (.malformed .switch (.scrutinee "[[local0:int, [local1:int]]]" 2)) := rfl
  have hl : (choosing (leavesOf nested)).emit Names.unknown "  " =
      .error (.malformed .switch (.scrutinee "[local0:int, local1:int]" 2)) := rfl
  refine ⟨⟨rfl, rfl, rfl, .last (.switch (.here (.compound rfl)) .done)⟩, hn, hl, ?_⟩
  rw [hn, hl]
  decide

end ClientScript
