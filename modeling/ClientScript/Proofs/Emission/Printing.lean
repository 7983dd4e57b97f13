import ClientScript.Emission.Printer
import ClientScript.Proofs.Emission.Renderable
import Mathlib.Data.List.Forall2

namespace ClientScript

open List (Forall₂)

def joinTexts (t u : Except EmitError String) : Except EmitError String := do
  return (← t) ++ (← u)

theorem listText_cons_cons (t u : Except EmitError String) (ts : List (Except EmitError String)) :
    listText (t :: u :: ts) = joinTexts t (joinTexts (pure ", ") (listText (u :: ts))) := by
  have h := listText_append (List.cons_ne_nil t []) (List.cons_ne_nil u ts)
  rw [listText_singleton] at h
  exact h.trans (by simp [joinTexts, String.append_assoc])

namespace Printer

variable {inCalc : Bool} {x y : Printing Unit} {t u : Except EmitError String}

def add (p : Printer) (s : String) : Printer :=
  { p with out := p.out ++ s }

theorem run_push (p : Printer) (s : String) : (push s).run p = .ok ((), p.add s) :=
  rfl

theorem add_empty (p : Printer) : p.add "" = p := by
  simp [add]

theorem add_add (p : Printer) (s r : String) : (p.add s).add r = p.add (s ++ r) := by
  simp [add, String.append_assoc]

theorem writeSeparated_cons_cons (x y : Printing Unit) (xs : List (Printing Unit)) :
    writeSeparated (x :: y :: xs) = (do x; push ", "; writeSeparated (y :: xs)) := by
  simp [writeSeparated]

-- Something that only adds to the text, whatever stands there already. Where there is nothing to
-- add, it fails for the same reason.
def Prints (inCalc : Bool) (x : Printing Unit) (t : Except EmitError String) : Prop :=
  ∀ p : Printer, p.inCalc = inCalc → x.run p = t >>= fun s => .ok ((), p.add s)

namespace Prints

theorem congr (h : Prints inCalc x t) (ht : t = u) : Prints inCalc x u :=
  ht ▸ h

theorem push (s : String) : Prints inCalc (push s) (pure s) :=
  fun _ _ => rfl

theorem push_lift (t : Except EmitError String) : Prints inCalc (do Printer.push (← t)) t := by
  intro p _
  cases t <;> rfl

theorem nothing : Prints inCalc (pure ()) (pure "") := by
  intro p _
  rw [pure_bind, add_empty]
  rfl

theorem throw (e : EmitError) : Prints inCalc (throw e) (.error e) :=
  fun _ _ => rfl

theorem arity {part : Part} {m n : Nat} (h : m = n) :
    Prints inCalc (MonadExcept.throw (.malformed part (.arity k m)))
      (.error (.malformed part (.arity k n))) :=
  h ▸ throw _

theorem append (hx : Prints inCalc x t) (hy : Prints inCalc y u) :
    Prints inCalc (do x; y) (joinTexts t u) := by
  intro p hp
  rw [StateT.run_bind, hx p hp, joinTexts]
  cases t
  case error e => rfl
  case ok s    =>
    rw [ok_bind, ok_bind, ok_bind, hy (p.add s) hp]
    cases u
    case error e => rfl
    case ok r    =>
      rw [ok_bind, ok_bind, add_add]
      rfl

theorem bind {r : Except EmitError α} {r' : Except EmitError β} {R : α → β → Prop}
    {f : α → Printing Unit} {g : β → Except EmitError String} (h : Alike Eq R r r')
    (hf : ∀ a b, R a b → Prints inCalc (f a) (g b)) : Prints inCalc (do f (← r)) (r' >>= g) := by
  intro p hp
  cases h
  case ok a b h => exact hf a b h p hp
  case error h  => rw [h]; rfl

theorem bind_eq {r : Except EmitError α} {f : α → Printing Unit} {g : α → Except EmitError String}
    (h : ∀ a, Prints inCalc (f a) (g a)) : Prints inCalc (do f (← r)) (r >>= g) :=
  bind (Alike.refl (fun _ => rfl) r) fun a _ ha => ha ▸ h a

theorem forM {f : α → Printing Unit} {g : β → Except EmitError String} {as : List α} {bs : List β}
    (h : Forall₂ (fun a b => Prints inCalc (f a) (g b)) as bs) :
    Prints inCalc (as.forM f) (do return String.join (← bs.mapM g)) := by
  induction h
  case nil                    => exact nothing
  case cons a b as bs h hs hi =>
    exact (h.append hi).congr (by simp [joinTexts, String.join_cons])

theorem separated {xs : List (Printing Unit)} {ts : List (Except EmitError String)}
    (h : Forall₂ (Prints inCalc) xs ts) : Prints inCalc (writeSeparated xs) (listText ts) := by
  induction h
  case nil                    => exact nothing
  case cons x t xs ts h hs hi =>
    rcases hs with _ | ⟨hy, hs⟩
    case nil  => exact (h.append nothing).congr (by simp [joinTexts, listText_singleton])
    case cons =>
      rw [writeSeparated_cons_cons, listText_cons_cons]
      exact h.append ((push ", ").append hi)

theorem separated_map {f : α → Printing Unit} {g : α → Except EmitError String}
    (h : ∀ a, Prints inCalc (f a) (g a)) (as : List α) :
    Prints inCalc (writeSeparated (as.map f)) (listText (as.map g)) :=
  separated <| List.forall₂_map_left_iff.mpr <| List.forall₂_map_right_iff.mpr <|
    List.forall₂_same.mpr fun a _ => h a

theorem push_push (r s : String) :
    Prints inCalc (do Printer.push r; Printer.push s) (pure (r ++ s)) :=
  (push r).append (push s)

theorem enclosed (left right : String) (h : Prints inCalc x t) :
    Prints inCalc (do Printer.push left; x; Printer.push right)
      (do return left ++ (← t) ++ right) := by
  refine ((push left).append (h.append (push right))).congr ?_
  simp [joinTexts, String.append_assoc]

end Prints

structure Argument.Like (inCalc : Bool) (a : Argument) (o : Operand) : Prop where
  source : a.source = o.source
  prints : Prints inCalc a.write o.text

theorem Argument.Like.asInt {a : Argument} {o : Operand} (h : a.Like inCalc o) :
    asInt part a.source = o.int part := by
  cases hc : o.source.constant?.bind Constant.int? <;>
    simp [Printer.asInt, Operand.int, h.source, hc]

section Operations

variable {names : Names} {op : Opcode} {part : Part} {a b : Argument} {o o' : Operand}
variable {as : List Argument} {os : List Operand}

theorem writeSlot_prints (ha : a.Like inCalc o) (hb : b.Like inCalc o') :
    Prints inCalc (writeSlot a b) (Opcode.slotText o o') := by
  refine ((Prints.push _).append (ha.prints.append
    ((Prints.push _).append (hb.prints.append (Prints.push _))))).congr ?_
  simp [joinTexts, Opcode.slotText, String.append_assoc]

theorem writeJoined_prints (ha : a.Like inCalc o) :
    Prints inCalc (writeJoined a) (Opcode.joinedText o) := by
  rw [writeJoined, Opcode.joinedText, ha.source]
  cases o.source.constant?.bind Constant.text?
  case some s => exact Prints.push s
  case none   => exact ha.prints.enclosed "<" ">"

theorem writeDot_prints (dotted : Prop) [Decidable dotted] :
    Prints inCalc (writeDot dotted) (pure (if dotted then "." else "")) := by
  rw [writeDot]
  split
  case isTrue h => simpa [of_decide_eq_true h] using Prints.push "."
  case isFalse h => simpa [of_decide_eq_false (Bool.eq_false_iff.mpr h)] using Prints.nothing

variable (h : Forall₂ (Argument.Like inCalc) as os)
include h

theorem writeList_prints : Prints inCalc (writeList as) (Operand.listed os) :=
  Prints.separated <| List.forall₂_map_left_iff.mpr <| List.forall₂_map_right_iff.mpr <|
    h.imp fun _ _ h => h.prints

theorem writeGrouped_prints : Prints inCalc (writeGrouped as) (Operand.grouped os) := by
  cases h
  case nil         => exact Prints.nothing
  case cons ha has => exact (writeList_prints (.cons ha has)).enclosed "(" ")"

theorem writeBraced_prints :
    Prints inCalc (writeBraced as)
      (if os.isEmpty then pure "" else do pure ("\x7b" ++ (← Operand.listed os) ++ "\x7d")) := by
  cases h
  case nil         => exact Prints.nothing
  case cons ha has => exact (writeList_prints (.cons ha has)).enclosed "\x7b" "\x7d"

theorem writeInvoke_prints : Prints inCalc (writeInvoke names as) (Opcode.invokeText names os) := by
  cases h
  case nil         => exact Prints.throw _
  case cons ha has =>
    rw [writeInvoke, Opcode.invokeText, ha.asInt]
    refine .bind_eq fun id => ?_
    refine ((Prints.push "~").append ((Prints.push _).append (writeGrouped_prints has))).congr ?_
    simp [joinTexts, String.append_assoc]

theorem writeArrayDefinition_prints :
    Prints inCalc (writeArrayDefinition as) (Opcode.defineArrayText os) := by
  rcases h with _ | ⟨ha, _ | ⟨hb, _ | ⟨hc, _ | ⟨hd, h⟩⟩⟩⟩
  case cons.cons.cons.nil =>
    refine ((Prints.push _).append (hb.prints.append ((Prints.push _).append (ha.prints.append
      ((Prints.push _).append (hc.prints.append (Prints.push _))))))).congr ?_
    simp [joinTexts, Opcode.defineArrayText, Operand.three, String.append_assoc]
  case cons.cons.cons.cons => exact .arity (by simp [h.length_eq])
  all_goals exact .arity rfl

theorem writeArrayRead_prints :
    Prints inCalc (writeArrayRead as) (Opcode.readArrayText os) := by
  rcases h with _ | ⟨ha, _ | ⟨hb, _ | ⟨hc, h⟩⟩⟩
  case cons.cons.nil  => exact writeSlot_prints ha hb
  case cons.cons.cons => exact .arity (by simp [h.length_eq])
  all_goals exact .arity rfl

theorem writeArrayWrite_prints :
    Prints inCalc (writeArrayWrite as) (Opcode.writeArrayText os) := by
  rcases h with _ | ⟨ha, _ | ⟨hb, _ | ⟨hc, _ | ⟨hd, h⟩⟩⟩⟩
  case cons.cons.cons.nil  =>
    refine ((writeSlot_prints ha hb).append ((Prints.push _).append hc.prints)).congr ?_
    simp [joinTexts, Opcode.writeArrayText, Operand.three, String.append_assoc]
  case cons.cons.cons.cons => exact .arity (by simp [h.length_eq])
  all_goals exact .arity rfl

theorem writeJoin_prints : Prints inCalc (writeJoin as) (Opcode.joinText os) := by
  refine ((Prints.forM (h.imp fun _ _ => writeJoined_prints)).enclosed "\"" "\"").congr ?_
  simp [Opcode.joinText]

theorem writeInfix_prints :
    Prints inCalc (writeInfix part symbol as) (Opcode.infixText part symbol os) := by
  rcases h with _ | ⟨ha, _ | ⟨hb, _ | ⟨hc, h⟩⟩⟩
  case cons.cons.nil  =>
    refine ((Prints.push _).append (ha.prints.append ((Prints.push _).append
      (hb.prints.append (Prints.push _))))).congr ?_
    simp [joinTexts, Opcode.infixText, Operand.two, String.append_assoc]
  case cons.cons.cons => exact .arity (by simp [h.length_eq])
  all_goals exact .arity rfl

theorem writeCall_prints : Prints inCalc (writeCall op as) (op.callText os) := by
  refine .bind_eq fun word => ?_
  exact (Prints.push word).append (writeGrouped_prints h)

theorem writeDotCall_prints : Prints inCalc (writeDotCall op as) (op.dotCallText os) := by
  rcases eq_nil_or_concat_of_forall₂ h with ⟨rfl, rfl⟩ | ⟨front, front', a, o, rfl, rfl, hf, ha⟩
  case inl => exact .throw _
  case inr =>
    simp only [writeDotCall, Opcode.dotCallText, Operand.splitLast?, List.getLast?_concat,
      List.dropLast_concat, Option.map_some, ha.asInt]
    refine .bind_eq fun n => ?_
    refine ((writeDot_prints _).append (writeCall_prints hf)).congr ?_
    simp [joinTexts]

theorem splitTriggers_alike :
    Alike Eq
      (fun x y => Forall₂ (Argument.Like inCalc) x.1 y.1 ∧ Forall₂ (Argument.Like inCalc) x.2 y.2)
      (splitTriggers op as) (op.splitTriggers os) := by
  rcases eq_nil_or_concat_of_forall₂ h with ⟨rfl, rfl⟩ | ⟨front, front', a, o, rfl, rfl, hf, ha⟩
  case inl => exact .error rfl
  case inr =>
    simp only [splitTriggers, Opcode.splitTriggers, Operand.splitLast?, List.getLast?_concat,
      List.dropLast_concat, Option.map_some, ha.asInt, hf.length_eq,
      List.splitAt_eq]
    refine (Alike.refl (fun _ => rfl) _).bind_eq fun n => ?_
    split
    case isTrue  => exact .ok ⟨List.forall₂_take _ hf, List.forall₂_drop _ hf⟩
    case isFalse => exact .error rfl

theorem writeCallback_prints :
    Prints inCalc (writeCallback op names as) (op.callbackText names os) := by
  rcases h with _ | ⟨ha, h⟩
  case nil  => exact .throw _
  case cons =>
    rw [writeCallback, Opcode.callbackText, ha.asInt]
    refine .bind_eq fun id => ?_
    split
    case isTrue  => exact .push _
    case isFalse =>
      refine ((Prints.push _).append ((Prints.push _).append
        (.bind (splitTriggers_alike h) fun x y hxy =>
          (Prints.push "(").append ((writeList_prints hxy.left).append ((Prints.push ")").append
            ((writeBraced_prints hxy.right).append (Prints.push "\""))))))).congr ?_
      simp only [joinTexts, bind_assoc, pure_bind]
      refine bind_congr fun x => bind_congr fun arguments => ?_
      split <;> simp [String.append_assoc]

theorem writeHook_prints {target : Opcode.HookTarget} :
    Prints inCalc (writeHook op names target as) (op.hookText names target os) := by
  rcases eq_nil_or_concat_of_forall₂ h with ⟨rfl, rfl⟩ | ⟨front, front', a, o, rfl, rfl, hf, ha⟩
  case inl => exact .throw _
  case inr =>
    simp only [writeHook, Opcode.hookText, Operand.splitLast?, List.getLast?_concat,
      List.dropLast_concat, Option.map_some]
    cases target
    case named   =>
      refine (Prints.nothing.append (.bind_eq fun word => (Prints.push word).append
        ((Prints.push "(").append ((writeCallback_prints hf).append
          (((Prints.push ", ").append ha.prints).append (Prints.push ")")))))).congr ?_
      simp [joinTexts, String.append_assoc]
    case created =>
      rw [writeHookDot, ha.source]
      cases o.source.constant?
      case none   => exact fun _ _ => rfl
      case some c =>
        refine ((writeDot_prints _).append (.bind_eq fun word => (Prints.push word).append
          ((Prints.push "(").append ((writeCallback_prints hf).append
            (Prints.nothing.append (Prints.push ")")))))).congr ?_
        simp [joinTexts, String.append_assoc]

end Operations

-- Arithmetic leaves the printer as it found it, so that what stands behind it is announced again.
theorem writeCalc_prints {as : List Argument} {os : List Operand} {symbol : String}
    (h : Forall₂ (Argument.Like true) as os) :
    Prints inCalc (writeCalc symbol as)
      (do return (if inCalc then "" else "calc") ++ (← Opcode.infixText .calculation symbol os)) := by
  have hw : Prints true (writeInfix .calculation symbol as)
      (Opcode.infixText .calculation symbol os) := writeInfix_prints h
  rw [Prints] at hw
  rintro ⟨out, indents, declared, inCalc, fellOff⟩ rfl
  cases inCalc
  case true  => simp [writeCalc, hw, add]
  case false => simp [writeCalc, hw, add, run_push, String.append_assoc]

theorem writeOperation_prints {as : List Argument} {os : List Operand} {op : Opcode}
    (h : Forall₂ (Argument.Like (inCalc || op.isCalc)) as os) :
    Prints inCalc (writeOperation op names as) (op.operationText names inCalc os) := by
  rw [writeOperation, Opcode.operationText]
  rw [Opcode.isCalc] at h
  cases hf : op.form <;> simp only [hf, Bool.or_true, Bool.or_false] at h ⊢
  case invoke        => exact writeInvoke_prints h
  case defineArray   => exact writeArrayDefinition_prints h
  case readArray     => exact writeArrayRead_prints h
  case writeArray    => exact writeArrayWrite_prints h
  case join          => exact writeJoin_prints h
  case hook target   => exact writeHook_prints h
  case branch symbol => exact writeInfix_prints h
  case «calc» symbol => exact writeCalc_prints h
  case dotCall       => exact writeDotCall_prints h
  case call          => exact writeCall_prints h

theorem writeVariable_prints (v : Variable) : Prints inCalc (writeVariable v) v.text :=
  .push_lift v.text

mutual

theorem writeExpression_prints : (e : Expression) → ∀ {inCalc},
    Prints inCalc (writeExpression names e) (e.text names inCalc)
  | .var v,        _ => writeVariable_prints v
  | .const c,      _ => .push_lift (c.text names)
  | .op _ _ es,    _ => writeOperation_prints (arguments_like es)
  | .compound es,  _ => writeList_prints (arguments_like es)

theorem arguments_like : (es : List Expression) → ∀ {inCalc},
    Forall₂ (Argument.Like inCalc) (arguments names es) (Expression.operands names inCalc es)
  | [],      _ => .nil
  | e :: es, _ => .cons ⟨rfl, writeExpression_prints e⟩ (arguments_like es)

end

end Printer

end ClientScript
