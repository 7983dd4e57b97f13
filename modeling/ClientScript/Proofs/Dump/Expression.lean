import ClientScript.Dump
import ClientScript.Proofs.Outline
import ClientScript.Proofs.Text.Quoted

namespace ClientScript

open Text (Ends Separates commas)

theorem Variable.Kind.isAlpha_of_mem_literal (k : Kind) : ∀ c ∈ k.literal.toList, c.isAlpha := by
  apply List.all_eq_true.mp
  cases k <;> rfl

theorem Variable.Kind.exists_literal_eq_cons (k : Kind) :
    ∃ c cs, k.literal.toList = c :: cs ∧ c.isAlpha := by
  cases k <;> exact ⟨_, _, rfl, rfl⟩

theorem Variable.Kind.literal_injective : literal.Injective := by
  intro k l h
  cases k <;> cases l <;> simp_all [literal]

theorem Ty.isAlpha_of_mem_literal (t : Ty) : ∀ c ∈ t.literal.toList, c.isAlpha := by
  apply List.all_eq_true.mp
  cases t <;> rfl

theorem Ty.exists_literal_eq_cons (t : Ty) : ∃ c cs, t.literal.toList = c :: cs ∧ c.isAlpha := by
  cases t <;> exact ⟨_, _, rfl, rfl⟩

theorem Ty.literal_injective : literal.Injective := by
  intro t u h
  exact Option.some.inj (by rw [← ofLiteral?_literal t, h, ofLiteral?_literal])

theorem isAlpha_eq_false {c : Char} (h : c.isDigit) : c.isAlpha = false := by
  have hd : c.toNat ≤ 57 := (Char.isDigit_iff_toNat.mp h).right
  apply Bool.eq_false_iff.mpr
  intro ha
  rcases (Bool.or_eq_true _ _).mp ha with hu | hl
  case inl =>
    have hu : 65 ≤ c.toNat := UInt32.le_iff_toNat_le.mp (of_decide_eq_true hu).left
    omega
  case inr =>
    have hl := ((Bool.and_eq_true _ _).mp hl).left
    have hl : 97 ≤ c.toNat := UInt32.le_iff_toNat_le.mp (of_decide_eq_true hl)
    omega

theorem ends_isAlpha_toDigits (n : Nat) (r : List Char) :
    Ends Char.isAlpha (Nat.toDigits 10 n ++ r) := by
  have ⟨d, ds, hd, h⟩ := Text.exists_toDigits_eq_cons n
  rw [hd, List.cons_append]
  exact .cons (isAlpha_eq_false h)

theorem Variable.toList_dump (v : Variable) :
    v.dump.toList =
      v.kind.literal.toList ++ (Nat.toDigits 10 v.id.toNat ++ ':' :: v.ty.literal.toList) := by
  simp [dump]

theorem Variable.separates (v : Variable) :
    Separates Char.isAlpha (·.dump.toList) (fun v => v) v := by
  intro w r s hr hs h
  simp only [toList_dump, List.append_assoc, List.cons_append] at h
  have ⟨hk, h⟩ := Ends.append_inj v.kind.isAlpha_of_mem_literal w.kind.isAlpha_of_mem_literal
    (ends_isAlpha_toDigits _ _) (ends_isAlpha_toDigits _ _) h
  have ⟨hn, h⟩ := Ends.append_inj (fun _ => Text.isDigit_of_mem_toDigits)
    (fun _ => Text.isDigit_of_mem_toDigits) (.cons rfl) (.cons rfl) h
  have ⟨ht, h⟩ := Ends.append_inj v.ty.isAlpha_of_mem_literal w.ty.isAlpha_of_mem_literal hr hs
    (List.cons.inj h).right
  have hk := Kind.literal_injective (String.toList_inj.mp hk)
  have ht := Ty.literal_injective (String.toList_inj.mp ht)
  have hn := UInt32.toNat_inj.mp (Text.toDigits_injective (by decide) (by decide) hn)
  cases v
  cases w
  simp_all

theorem separates_int (n : Int32) :
    Separates Text.isIntChar (toString ·.toInt |>.toList) (fun n => n) n := by
  intro m r s hr hs h
  have ⟨hn, h⟩ := Ends.append_inj (fun _ => Text.isIntChar_of_mem_toString)
    (fun _ => Text.isIntChar_of_mem_toString) hr hs h
  exact ⟨Int32.toInt_inj.mp (Text.toString_int_injective (String.toList_inj.mp hn)), h⟩

theorem toString_int_append_ne_quote (n : Int32) : (toString n.toInt).toList ++ r ≠ '"' :: s := by
  have ⟨c, cs, hc, hi⟩ := Text.exists_toList_toString_int n.toInt
  rw [hc]
  intro h
  rw [(List.cons.inj h).left] at hi
  exact absurd hi (by decide)

theorem Payload.toList_dump_int (n : Int32) : (int n).dump.toList = (toString n.toInt).toList :=
  rfl

theorem Payload.toList_dump_text (s : String) :
    (text s).dump.toList = '"' :: (s.toList.flatMap Text.quoteChar ++ ['"']) :=
  Text.toList_quoted s

theorem Payload.dump_inj {p q : Payload}
    (h : p.dump.toList ++ ')' :: r = q.dump.toList ++ ')' :: s) : p = q ∧ r = s := by
  cases p <;> cases q <;>
    simp only [toList_dump_int, toList_dump_text, List.cons_append, List.append_assoc] at h
  case int.int m n =>
    have ⟨hn, hrs⟩ := separates_int m n _ _ (.cons rfl) (.cons rfl) h
    exact ⟨congrArg int hn, (List.cons.inj hrs).right⟩
  case int.text n t => exact (toString_int_append_ne_quote n h).elim
  case text.int t n => exact (toString_int_append_ne_quote n h.symm).elim
  case text.text t u =>
    have ⟨ht, hrs⟩ := Text.quoted_inj (List.cons.inj h).right
    exact ⟨congrArg text (String.toList_inj.mp ht), (List.cons.inj hrs).right⟩

theorem Constant.toList_dump (c : Constant) :
    c.dump.toList = c.ty.literal.toList ++ '(' :: (c.payload.dump.toList ++ [')']) := by
  simp [dump]

theorem Constant.dump_inj {c d : Constant} (h : c.dump.toList ++ r = d.dump.toList ++ s) :
    c = d ∧ r = s := by
  simp only [toList_dump, List.append_assoc, List.cons_append, List.nil_append] at h
  have ⟨ht, h⟩ := Ends.append_inj c.ty.isAlpha_of_mem_literal d.ty.isAlpha_of_mem_literal
    (.cons rfl) (.cons rfl) h
  have ⟨hp, hrs⟩ := Payload.dump_inj (List.cons.inj h).right
  have ht := Ty.literal_injective (String.toList_inj.mp ht)
  cases c
  cases d
  simp_all

theorem Opcode.toList_text (code : Opcode) :
    ∃ name, code.text.toList = Nat.toDigits 10 code.code.toNat ++ name ∧
      ∀ r, Ends Char.isDigit (name ++ '(' :: r) := by
  rw [text]
  cases code.name?
  case none      => exact ⟨[], by simp, fun r => .cons rfl⟩
  case some name =>
    refine ⟨'(' :: (name.toList ++ [')']), by simp, fun r => .cons rfl⟩

theorem Opcode.text_inj {c d : Opcode}
    (h : c.text.toList ++ '(' :: r = d.text.toList ++ '(' :: s) : c = d ∧ r = s := by
  have ⟨m, hm, em⟩ := c.toList_text
  have ⟨n, hn, en⟩ := d.toList_text
  have hcd : c = d := by
    rw [hm, hn, List.append_assoc, List.append_assoc] at h
    have ⟨hc, _⟩ := Ends.append_inj (fun _ => Text.isDigit_of_mem_toDigits)
      (fun _ => Text.isDigit_of_mem_toDigits) (em r) (en s) h
    have := UInt16.toNat_inj.mp (Text.toDigits_injective (by decide) (by decide) hc)
    cases c
    cases d
    simp_all
  subst hcd
  exact ⟨rfl, (List.cons.inj (List.append_cancel_left h)).right⟩

-- Whether a text begins with no letters, and whether a digit is what comes behind them. That tells
-- the four kinds of expressions apart.
def lead (cs : List Char) : Bool × Bool :=
  ((cs.takeWhile Char.isAlpha).isEmpty, (cs.dropWhile Char.isAlpha).head?.any Char.isDigit)

theorem lead_append (hw : ∀ c ∈ w, c.isAlpha) (hr : Ends Char.isAlpha r) :
    lead (w ++ r) = (w.isEmpty, r.head?.any Char.isDigit) := by
  rw [lead, hr.takeWhile_append hw, hr.dropWhile_append hw]

theorem head?_toDigits_append (n : Nat) (r : List Char) :
    (Nat.toDigits 10 n ++ r).head?.any Char.isDigit := by
  have ⟨d, ds, hd, h⟩ := Text.exists_toDigits_eq_cons n
  simp [hd, h]

theorem Variable.Kind.isEmpty_literal (k : Kind) : k.literal.toList.isEmpty = false := by
  cases k <;> rfl

theorem Ty.isEmpty_literal (t : Ty) : t.literal.toList.isEmpty = false := by
  cases t <;> rfl

namespace Expression

def shape : Expression → Bool × Bool
  | var _      => (false, true)
  | const _    => (false, false)
  | op ..      => (true, true)
  | compound _ => (true, false)

theorem toList_dump_op :
    (op code ts es).dump.toList =
      code.text.toList ++ '(' :: (commas (·.dump.toList) es ++ [')']) := by
  simp [dump, dumps_eq_map, commas, String.toList_intercalate, Function.comp_def]

theorem toList_dump_compound :
    (compound es).dump.toList = '[' :: (commas (·.dump.toList) es ++ [']']) := by
  simp [dump, dumps_eq_map, commas, String.toList_intercalate, Function.comp_def]

theorem lead_dump (e : Expression) (r : List Char) : lead (e.dump.toList ++ r) = e.shape := by
  cases e
  case var v =>
    rw [dump, v.toList_dump, List.append_assoc, List.append_assoc,
      lead_append v.kind.isAlpha_of_mem_literal (ends_isAlpha_toDigits _ _),
      v.kind.isEmpty_literal, head?_toDigits_append, shape]
  case const c =>
    rw [dump, c.toList_dump, List.append_assoc, List.cons_append,
      lead_append c.ty.isAlpha_of_mem_literal (.cons rfl), c.ty.isEmpty_literal, shape]
    rfl
  case op code ts es =>
    obtain ⟨name, hn, _⟩ := code.toList_text
    rw [toList_dump_op, hn, List.append_assoc, List.append_assoc, ← List.nil_append (_ ++ _),
      lead_append (List.forall_mem_nil _) (ends_isAlpha_toDigits _ _), head?_toDigits_append, shape]
    rfl
  case compound es =>
    rw [toList_dump_compound]
    rfl

theorem shape_eq_of_dump_eq {e f : Expression} (h : e.dump.toList ++ r = f.dump.toList ++ s) :
    e.shape = f.shape := by
  rw [← lead_dump e r, h, lead_dump]

theorem exists_dump_eq_cons (e : Expression) :
    ∃ c cs, e.dump.toList = c :: cs ∧ (c.isAlphanum ∨ c = '[') := by
  cases e
  case var v =>
    have ⟨c, cs, hc, hi⟩ := v.kind.exists_literal_eq_cons
    exact ⟨c, _, by rw [dump, v.toList_dump, hc, List.cons_append],
      .inl (by simp [Char.isAlphanum, hi])⟩
  case const c =>
    have ⟨d, cs, hc, hi⟩ := c.ty.exists_literal_eq_cons
    exact ⟨d, _, by rw [dump, c.toList_dump, hc, List.cons_append],
      .inl (by simp [Char.isAlphanum, hi])⟩
  case op code ts es =>
    have ⟨name, hn, _⟩ := code.toList_text
    have ⟨d, ds, hd, hi⟩ := Text.exists_toDigits_eq_cons code.code.toNat
    exact ⟨d, _, by rw [toList_dump_op, hn, hd, List.cons_append, List.cons_append],
      .inl (by simp [Char.isAlphanum, hi])⟩
  case compound es => exact ⟨_, _, toList_dump_compound, .inr rfl⟩

theorem exists_dump_ne_close (h : c.isAlphanum = false ∧ c ≠ '[') (e : Expression) :
    ∃ d cs, e.dump.toList = d :: cs ∧ d ≠ c := by
  have ⟨d, cs, hd, hi⟩ := e.exists_dump_eq_cons
  refine ⟨d, cs, hd, ?_⟩
  rintro rfl
  simp [h] at hi

theorem separates (e : Expression) : Separates Char.isAlpha (·.dump.toList) untyped e := by
  induction e
  case var v =>
    intro f r s hr hs h
    have hf := shape_eq_of_dump_eq h
    cases f <;> simp only [shape, Prod.mk.injEq, reduceCtorEq, and_false, false_and] at hf
    case var w =>
      have ⟨hv, hrs⟩ := v.separates w r s hr hs h
      exact ⟨congrArg var hv, hrs⟩
  case const c =>
    intro f r s hr hs h
    have hf := shape_eq_of_dump_eq h
    cases f <;> simp only [shape, Prod.mk.injEq, reduceCtorEq, and_false, false_and] at hf
    case const d =>
      have ⟨hc, hrs⟩ := Constant.dump_inj h
      exact ⟨congrArg const hc, hrs⟩
  case op code ts es hi =>
    intro f r s hr hs h
    have hf := shape_eq_of_dump_eq h
    cases f <;> simp only [shape, Prod.mk.injEq, reduceCtorEq, and_false, false_and] at hf
    case op code' ts' es' =>
      simp only [toList_dump_op, List.append_assoc, List.cons_append, List.nil_append] at h
      have ⟨hc, h⟩ := Opcode.text_inj h
      have ⟨he, hrs⟩ := Text.bracketed_inj (by decide) (by decide) (by decide)
        (exists_dump_ne_close (by decide)) hi h
      refine ⟨?_, hrs⟩
      rw [untyped, untyped, hc, allUntyped_eq_map, allUntyped_eq_map, he]
  case compound es hi =>
    intro f r s hr hs h
    have hf := shape_eq_of_dump_eq h
    cases f <;> simp only [shape, Prod.mk.injEq, reduceCtorEq, and_false, false_and] at hf
    case compound es' =>
      simp only [toList_dump_compound, List.append_assoc, List.cons_append, List.nil_append] at h
      have ⟨he, hrs⟩ := Text.bracketed_inj (by decide) (by decide) (by decide)
        (exists_dump_ne_close (by decide)) hi (List.cons.inj h).right
      refine ⟨?_, hrs⟩
      rw [untyped, untyped, allUntyped_eq_map, allUntyped_eq_map, he]

theorem dump_untyped (e : Expression) : e.untyped.dump = e.dump := by
  induction e
  case var v            => rfl
  case const c          => rfl
  case op code ts es hi =>
    rw [untyped, dump, dump, allUntyped_eq_map, dumps_eq_map, dumps_eq_map, List.map_map]
    exact congrArg (fun es => code.text ++ "(" ++ ", ".intercalate es ++ ")")
      (List.map_congr_left hi)
  case compound es hi   =>
    rw [untyped, dump, dump, allUntyped_eq_map, dumps_eq_map, dumps_eq_map, List.map_map]
    exact congrArg (fun es => "[" ++ ", ".intercalate es ++ "]") (List.map_congr_left hi)

-- A dump shows an expression up to the types of its operations.
theorem dump_eq_dump_iff {e f : Expression} : e.dump = f.dump ↔ e.untyped = f.untyped := by
  constructor
  case mp  => exact fun h => (e.separates f [] [] .nil .nil (by simp only [h])).left
  case mpr => exact fun h => by rw [← e.dump_untyped, h, f.dump_untyped]

end Expression

end ClientScript
