import ClientScript.Emission.Expression
import ClientScript.Proofs.Outcome

namespace ClientScript

-- The numbers that a type has a spelling for. Some types only know the numbers of a table.
def Ty.Admits : Ty → Int32 → Prop
  | boolean,       n => n.toInt ∈ [0, 1, -1]
  | char,          n => n.toInt ∈ [-2147483639, -1]
  | iftype,        n => n.toInt ∈ [3, 4, 5, 6, 9]
  | setsize,       n => n.toInt ∈ [0, 1, 2]
  | setposh,       n => n.toInt ∈ [0, 1, 2, 3, 4, 5]
  | setposv,       n => n.toInt ∈ [0, 1, 2, 3, 4, 5]
  | settextalignh, n => n.toInt ∈ [0, 1, 2]
  | settextalignv, n => n.toInt ∈ [0, 1, 2]
  | bit,           n => n.toInt ∈ [0, 1]
  | chattype,      n =>
    n.toInt ∈ [
      0, 1, 2, 3, 4, 5, 6, 7, 9, 11, 14, 26, 27, 28, 29, 30, 31, 90, 91, 99, 101, 102, 103, 104, 105,
      106, 107, 108]
  | type,          n => ∃ t c, descriptor? t = some c ∧ n.toInt = c.toNat
  | _,             _ => True

def Constant.IsSpelled (c : Constant) : Prop :=
  match c.payload with
  | .text _ => c.ty = .string
  | .int n  => c.ty ≠ .string ∧ c.ty.Admits n

-- How many arguments an operation takes whose text has a fixed number of places.
def Opcode.Form.arity? : Form → Option Nat
  | .defineArray => some 3
  | .readArray   => some 2
  | .writeArray  => some 3
  | .branch _    => some 2
  | .calc _      => some 2
  | _            => none

-- What stands in front of the component of a hook, and which of it is written. A missing callback
-- is written as such, whatever stands behind it.
inductive Callback : List Expression → List Expression → Prop
  | null {c : Constant} {es} (callee : c.int? = some (-1)) : Callback (.const c :: es) []
  | call {c k : Constant} {id n arguments triggers} (callee : c.int? = some id) (ne : id ≠ -1)
    (count : k.int? = some n) (length : n.toInt = (triggers : List Expression).length) :
    Callback (.const c :: (arguments ++ triggers ++ [.const k])) (arguments ++ triggers)

-- The arguments that an operation can be written with, and those of them that are written as
-- expressions of their own.
inductive Opcode.Writes (op : Opcode) : List Expression → List Expression → Prop
  | invoke {c : Constant} {n es} (form : op.form = .invoke) (callee : c.int? = some n) :
    op.Writes (.const c :: es) es
  | fixed {es} (form : op.form.arity? = some es.length) :
    op.Writes es es
  | join {es} (form : op.form = .join) :
    op.Writes es (es.filter fun e => (e.constant?.bind Constant.text?).isNone)
  | created {es written k name} (form : op.form = .hook .created) (name : op.name? = some name)
    (callback : Callback es written) :
    op.Writes (es ++ [.const k]) written
  | named {es written component name} (form : op.form = .hook .named) (name : op.name? = some name)
    (callback : Callback es written) :
    op.Writes (es ++ [component]) (component :: written)
  | dotCall {k : Constant} {n es name} (form : op.form = .dotCall) (name : op.name? = some name)
    (flag : k.int? = some n) :
    op.Writes (es ++ [.const k]) es
  | call {es name} (form : op.form = .call) (name : op.name? = some name) :
    op.Writes es es

inductive Expression.Renderable : Expression → Prop
  | var {v : Variable} (kind : v.kind ≠ .stack) : Renderable (.var v)
  | const {c : Constant} (spelled : c.IsSpelled) : Renderable (.const c)
  | op {code ts es written} (writes : code.Writes es written)
    (written : ∀ e ∈ written, e.Renderable) : Renderable (.op code ts es)
  | compound {es} (elements : ∀ e ∈ es, e.Renderable) : Renderable (.compound es)

theorem Callback.subset {es written : List Expression} (h : Callback es written) :
    written ⊆ es := by
  cases h
  case null => exact List.nil_subset _
  case call => exact List.subset_cons_of_subset _ <| List.subset_append_left ..

theorem Opcode.Writes.subset {op : Opcode} {es written : List Expression}
    (h : op.Writes es written) : written ⊆ es := by
  cases h
  case invoke     => exact List.subset_cons_self ..
  case fixed      => exact List.Subset.refl _
  case join       => exact fun _ h => (List.mem_filter.mp h).left
  case created hc => exact List.subset_append_of_subset_left _ hc.subset
  case named hc   =>
    exact List.cons_subset.mpr ⟨by simp, List.subset_append_of_subset_left _ hc.subset⟩
  case dotCall    => exact List.subset_append_left ..
  case call       => exact List.Subset.refl _

namespace Ty

variable {ty : Ty} {n : Int32}

theorem ofDescriptor?_isSome_iff :
    (ofDescriptor? n).isSome ↔ ∃ t c, descriptor? t = some c ∧ n.toInt = c.toNat := by
  simp only [ofDescriptor?, List.lookup_isSome_iff, descriptors, List.mem_filterMap, Prod.exists,
    beq_iff_eq, Option.map_eq_some_iff, Prod.mk.injEq]
  constructor
  case mp =>
    intro ⟨_, t, ⟨_, _, _, hc, hn, _⟩, h⟩
    exact ⟨_, _, hc, by simp_all⟩
  case mpr =>
    intro ⟨t, c, hc, hn⟩
    exact ⟨_, t, ⟨t, t.mem_all, c, hc, rfl, rfl⟩, hn⟩

theorem intText?_isSome_iff : (ty.intText? names n).isSome ↔ ty.Admits n := by
  cases ty
  case type => simp [intText?, keywords, spelling, Spelling.text?, Admits, ofDescriptor?_isSome_iff]
  all_goals
    simp [intText?, keywords, spelling, Spelling.text?, Admits, List.lookup_isSome_iff]

theorem succeeds_intText : Succeeds (ty.intText names n) ↔ ty.Admits n := by
  rw [← @intText?_isSome_iff ty n names, intText]
  cases ty.intText? names n <;> simp

end Ty

theorem Variable.succeeds_text {v : Variable} : Succeeds v.text ↔ v.kind ≠ .stack := by
  cases h : v.kind <;> simp [text, h]

theorem Constant.succeeds_text {c : Constant} : Succeeds (c.text names) ↔ c.IsSpelled := by
  cases h : c.payload
  case text s => simp only [text, IsSpelled, h]; split <;> simp_all
  case int n  => simp only [text, IsSpelled, h]; split <;> simp_all [Ty.succeeds_intText]

theorem listText_singleton (t : Except EmitError String) : listText [t] = t := by
  cases t <;> simp [listText, bind, Except.bind, pure, Except.pure]

theorem listText_append {ts us : List (Except EmitError String)} (ht : ts ≠ []) (hu : us ≠ []) :
    listText (ts ++ us) = do return (← listText ts) ++ ", " ++ (← listText us) := by
  have ne : ∀ {ts : List (Except EmitError String)} {ss}, ts ≠ [] → ts.mapM id = .ok ss →
      ss ≠ [] := by
    rintro ts ss ht hs rfl
    exact ht (List.eq_nil_of_length_eq_zero (mapM_eq_ok_iff.mp hs).length_eq)
  simp only [listText, List.mapM_append, bind_assoc, pure_bind]
  cases hts : ts.mapM id
  case error => rfl
  case ok ss =>
    cases hus : us.mapM id
    case error => rfl
    case ok vs =>
      exact congrArg Except.ok (String.intercalate_append_of_ne_nil (ne ht hts) (ne hu hus))

theorem succeeds_listText {texts : List (Except EmitError String)} :
    Succeeds (listText texts) ↔ ∀ text ∈ texts, Succeeds text := by
  rw [listText, succeeds_bind_pure, succeeds_mapM]
  rfl

open Expression (operands operands_eq_map)

namespace Operand

variable {names : Names} {inCalc : Bool} {part : Part}

theorem int_eq_ok_iff {o : Operand} :
    o.int part = .ok n ↔ ∃ c : Constant, o.source = .const c ∧ c.int? = some n := by
  cases h : o.source <;> simp [int, h, Expression.constant?]
  case const c => cases c.int? <;> simp

theorem succeeds_int {o : Operand} :
    Succeeds (o.int part) ↔ ∃ (c : Constant) (n : _), o.source = .const c ∧ c.int? = some n := by
  simp only [Succeeds, int_eq_ok_iff]
  exact exists_comm

theorem succeeds_listed {es : List Expression} :
    Succeeds (listed (operands names inCalc es)) ↔ ∀ e ∈ es, Succeeds (e.text names inCalc) := by
  rw [listed, succeeds_listText, operands_eq_map]
  simp

theorem succeeds_grouped {es : List Expression} :
    Succeeds (grouped (operands names inCalc es)) ↔ ∀ e ∈ es, Succeeds (e.text names inCalc) := by
  cases es
  case nil       => simp [grouped, operands]
  case cons e es =>
    rw [← succeeds_listed]
    simp [grouped, operands]

theorem splitLast?_append {es : List Expression} {e : Expression} :
    splitLast? (operands names inCalc (es ++ [e])) =
      some (operands names inCalc es, { source := e, text := e.text names inCalc }) := by
  simp [splitLast?, operands_eq_map]

end Operand

namespace Opcode

variable {op : Opcode} {names : Names} {inCalc : Bool} {es : List Expression}

theorem succeeds_word : Succeeds op.word ↔ ∃ name, op.name? = some name := by
  rw [word]
  cases op.name? <;> simp

theorem succeeds_invokeText :
    Succeeds (invokeText names (operands names inCalc es)) ↔
      ∃ (c : Constant) (n : _) (rest : _), es = .const c :: rest ∧ c.int? = some n ∧
        ∀ e ∈ rest, Succeeds (e.text names inCalc) := by
  cases es
  case nil => simp [operands, invokeText]
  case cons e es =>
    rw [operands, invokeText, succeeds_bind fun _ => succeeds_bind_pure, Operand.succeeds_grouped,
      Operand.succeeds_int]
    simp only [List.cons.injEq]
    grind

theorem succeeds_slotText {array index : Operand} :
    Succeeds (slotText array index) ↔ Succeeds array.text ∧ Succeeds index.text :=
  succeeds_bind fun _ => succeeds_bind_pure

theorem succeeds_defineArrayText :
    Succeeds (defineArrayText (operands names inCalc es)) ↔
      es.length = 3 ∧ ∀ e ∈ es, Succeeds (e.text names inCalc) := by
  rcases es with _ | ⟨a, _ | ⟨b, _ | ⟨c, _ | _⟩⟩⟩ <;>
    simp [-bind_pure_comp, defineArrayText, operands, Operand.three]
  case cons.cons.cons.nil =>
    rw [succeeds_bind fun _ => succeeds_bind fun _ => succeeds_bind_pure]
    exact and_left_comm

theorem succeeds_readArrayText :
    Succeeds (readArrayText (operands names inCalc es)) ↔
      es.length = 2 ∧ ∀ e ∈ es, Succeeds (e.text names inCalc) := by
  rcases es with _ | ⟨a, _ | ⟨b, _ | _⟩⟩ <;>
    simp [readArrayText, operands, Operand.two, succeeds_slotText]

theorem succeeds_writeArrayText :
    Succeeds (writeArrayText (operands names inCalc es)) ↔
      es.length = 3 ∧ ∀ e ∈ es, Succeeds (e.text names inCalc) := by
  rcases es with _ | ⟨a, _ | ⟨b, _ | ⟨c, _ | _⟩⟩⟩ <;>
    simp [-bind_pure_comp, writeArrayText, operands, Operand.three]
  case cons.cons.cons.nil =>
    rw [succeeds_bind fun _ => succeeds_bind_pure, succeeds_slotText]
    exact and_assoc

theorem succeeds_infixText {part : Part} {symbol : String} :
    Succeeds (infixText part symbol (operands names inCalc es)) ↔
      es.length = 2 ∧ ∀ e ∈ es, Succeeds (e.text names inCalc) := by
  rcases es with _ | ⟨a, _ | ⟨b, _ | _⟩⟩ <;>
    simp [-bind_pure_comp, infixText, operands, Operand.two]
  case cons.cons.nil => exact succeeds_bind fun _ => succeeds_bind_pure

theorem succeeds_joinText :
    Succeeds (joinText (operands names inCalc es)) ↔
      ∀ e ∈ es.filter fun e => (e.constant?.bind Constant.text?).isNone,
        Succeeds (e.text names inCalc) := by
  rw [joinText, succeeds_bind_pure, succeeds_mapM, operands_eq_map]
  simp only [List.forall_mem_map, List.mem_filter, and_imp]
  refine forall₂_congr fun e _ => ?_
  rw [joinedText]
  cases e.constant?.bind Constant.text? <;> simp

theorem succeeds_callText :
    Succeeds (op.callText (operands names inCalc es)) ↔
      (∃ name, op.name? = some name) ∧ ∀ e ∈ es, Succeeds (e.text names inCalc) := by
  rw [callText, succeeds_bind fun _ => succeeds_bind_pure, succeeds_word, Operand.succeeds_grouped]

theorem succeeds_dotCallText_append :
    Succeeds (op.dotCallText (operands names inCalc (es ++ [e]))) ↔
      (∃ (k : Constant) (n : _), e = .const k ∧ k.int? = some n) ∧
        (∃ name, op.name? = some name) ∧ ∀ e ∈ es, Succeeds (e.text names inCalc) := by
  simp only [dotCallText, Operand.splitLast?_append]
  rw [succeeds_bind fun _ => succeeds_bind_pure, succeeds_callText, Operand.succeeds_int]

-- The arguments of a callback and its triggers are cut apart, and none of them is lost.
theorem splitTriggers_eq_ok_iff {x : List Operand × List Operand} :
    op.splitTriggers (operands names inCalc es) = .ok x ↔
      ∃ (arguments triggers : _) (k : Constant) (n : Int32),
        es = arguments ++ triggers ++ [.const k] ∧ k.int? = some n ∧
          n.toInt = triggers.length ∧
            x = (operands names inCalc arguments, operands names inCalc triggers) := by
  rcases es.eq_nil_or_concat with rfl | ⟨front, e, rfl⟩
  case inl => simp [splitTriggers, operands, Operand.splitLast?]
  case inr =>
    simp only [List.concat_eq_append, splitTriggers, Operand.splitLast?_append, bind_eq_ok_iff,
      Operand.int_eq_ok_iff]
    constructor
    case mp =>
      rintro ⟨n, ⟨k, he, hk⟩, h⟩
      split at h
      case isTrue hn =>
        simp only [operands_eq_map, List.length_map] at hn h
        refine ⟨front.take (front.length - n.toInt.toNat), front.drop (front.length - n.toInt.toNat),
          k, n, ?_, hk, ?_, ?_⟩
        · simp [he]
        · simp only [List.length_drop]
          omega
        · simpa [operands_eq_map] using (Except.ok.inj h).symm
      case isFalse => cases h
    case mpr =>
      rintro ⟨arguments, triggers, k, n, he, hk, hn, hx⟩
      obtain ⟨rfl, he⟩ := List.append_inj' he rfl
      refine ⟨n, ⟨k, by simpa using he, hk⟩, ?_⟩
      have hc : arguments.length + triggers.length - n.toInt.toNat = arguments.length := by omega
      rw [Int32.toNat_toInt] at hc
      rw [if_pos (by simp [operands_eq_map]; omega)]
      simp [operands_eq_map, hx, hc, pure, Except.pure]

variable {id : Int32}

theorem succeeds_callback_parts {arguments triggers : List Expression}
    {f : String → String → String} :
    Succeeds (do
      let arguments ← Operand.listed (operands names inCalc arguments)
      let braced ←
        if (operands names inCalc triggers).isEmpty then pure ""
        else do pure ("\x7b" ++ (← Operand.listed (operands names inCalc triggers)) ++ "\x7d")
      return f arguments braced) ↔
      ∀ e ∈ arguments ++ triggers, Succeeds (e.text names inCalc) := by
  simp only [List.forall_mem_append, ← Operand.succeeds_listed]
  cases triggers
  case nil          => simp [operands, Operand.listed, listText]
  case cons e rest  => exact succeeds_bind fun _ => succeeds_bind_pure

theorem succeeds_callbackText :
    Succeeds (op.callbackText names (operands names inCalc es)) ↔
      ∃ written, Callback es written ∧ ∀ e ∈ written, Succeeds (e.text names inCalc) := by
  cases es
  case nil =>
    apply iff_of_false (not_succeeds_error _)
    rintro ⟨_, h, _⟩
    cases h
  case cons e es =>
    simp only [callbackText, operands, succeeds_bind_iff, Operand.int_eq_ok_iff]
    constructor
    case mp =>
      rintro ⟨id, ⟨c, he, hc⟩, h⟩
      subst he
      split at h
      case isTrue hid => exact ⟨[], .null (hid ▸ hc), by simp⟩
      case isFalse hid =>
        obtain ⟨_, ht, h⟩ := succeeds_bind_iff.mp h
        obtain ⟨arguments, triggers, k, n, rfl, hk, hn, rfl⟩ := splitTriggers_eq_ok_iff.mp ht
        exact ⟨_, .call hc hid hk hn, succeeds_callback_parts.mp h⟩
    case mpr =>
      rintro ⟨written, h, hw⟩
      cases h
      case null hc => exact ⟨-1, ⟨_, rfl, hc⟩, by simp⟩
      case call hc hid hk hn =>
        refine ⟨_, ⟨_, rfl, hc⟩, ?_⟩
        rw [if_neg hid]
        exact succeeds_bind_iff.mpr
          ⟨_, splitTriggers_eq_ok_iff.mpr ⟨_, _, _, _, rfl, hk, hn, rfl⟩,
            succeeds_callback_parts.mpr hw⟩

theorem succeeds_hookText_created :
    Succeeds (op.hookText names .created (operands names inCalc (es ++ [e]))) ↔
      (∃ c : Constant, e = .const c) ∧ (∃ name, op.name? = some name) ∧
        ∃ written, Callback es written ∧ ∀ e ∈ written, Succeeds (e.text names inCalc) := by
  simp only [hookText, Operand.splitLast?_append]
  cases e
  case const c =>
    simp only [Expression.constant?]
    rw [succeeds_bind fun _ => succeeds_bind_pure, succeeds_word, succeeds_callbackText]
    simp
  all_goals simp [Expression.constant?]

theorem succeeds_hookText_named :
    Succeeds (op.hookText names .named (operands names inCalc (es ++ [e]))) ↔
      (∃ name, op.name? = some name) ∧
        (∃ written, Callback es written ∧ ∀ e ∈ written, Succeeds (e.text names inCalc)) ∧
          Succeeds (e.text names inCalc) := by
  simp only [hookText, Operand.splitLast?_append]
  rw [succeeds_bind fun _ => succeeds_bind fun _ => succeeds_bind_pure, succeeds_word,
    succeeds_callbackText]

-- An operation has a text exactly if it is applied to what its form asks for, and if what is written
-- of that has a text.
theorem succeeds_operationText :
    Succeeds (op.operationText names outer (operands names inCalc es)) ↔
      ∃ written, op.Writes es written ∧ ∀ e ∈ written, Succeeds (e.text names inCalc) := by
  constructor
  case mp =>
    intro h
    cases hf : op.form <;> simp only [operationText, hf] at h
    case invoke =>
      obtain ⟨c, n, rest, rfl, hc, h⟩ := succeeds_invokeText.mp h
      exact ⟨_, .invoke hf hc, h⟩
    case defineArray =>
      have ⟨hl, h⟩ := succeeds_defineArrayText.mp h
      exact ⟨_, .fixed (by simp [hf, Form.arity?, hl]), h⟩
    case readArray =>
      have ⟨hl, h⟩ := succeeds_readArrayText.mp h
      exact ⟨_, .fixed (by simp [hf, Form.arity?, hl]), h⟩
    case writeArray =>
      have ⟨hl, h⟩ := succeeds_writeArrayText.mp h
      exact ⟨_, .fixed (by simp [hf, Form.arity?, hl]), h⟩
    case join => exact ⟨_, .join hf, succeeds_joinText.mp h⟩
    case hook target =>
      rcases es.eq_nil_or_concat with rfl | ⟨front, e, rfl⟩
      case inl => exact absurd h (not_succeeds_error _)
      case inr =>
        rw [List.concat_eq_append] at h ⊢
        cases target
        case created =>
          obtain ⟨⟨_, rfl⟩, ⟨_, hn⟩, written, hc, h⟩ := succeeds_hookText_created.mp h
          exact ⟨_, .created hf hn hc, h⟩
        case named =>
          have ⟨⟨_, hn⟩, ⟨written, hc, h⟩, he⟩ := succeeds_hookText_named.mp h
          exact ⟨_, .named hf hn hc, List.forall_mem_cons.mpr ⟨he, h⟩⟩
    case branch =>
      have ⟨hl, h⟩ := succeeds_infixText.mp h
      exact ⟨_, .fixed (by simp [hf, Form.arity?, hl]), h⟩
    case «calc» =>
      have ⟨hl, h⟩ := succeeds_infixText.mp (succeeds_bind_pure.mp h)
      exact ⟨_, .fixed (by simp [hf, Form.arity?, hl]), h⟩
    case dotCall =>
      rcases es.eq_nil_or_concat with rfl | ⟨front, e, rfl⟩
      case inl => exact absurd h (not_succeeds_error _)
      case inr =>
        rw [List.concat_eq_append] at h ⊢
        obtain ⟨⟨_, _, rfl, hk⟩, ⟨_, hn⟩, h⟩ := succeeds_dotCallText_append.mp h
        exact ⟨_, .dotCall hf hn hk, h⟩
    case call =>
      have ⟨⟨_, hn⟩, h⟩ := succeeds_callText.mp h
      exact ⟨_, .call hf hn, h⟩
  case mpr =>
    intro ⟨written, hw, h⟩
    cases hw
    case invoke hf hc =>
      simpa only [operationText, hf] using succeeds_invokeText.mpr ⟨_, _, _, rfl, hc, h⟩
    case fixed hf =>
      cases hg : op.form <;> simp [hg, Form.arity?] at hf <;> simp only [operationText, hg]
      case defineArray => exact succeeds_defineArrayText.mpr ⟨hf.symm, h⟩
      case readArray   => exact succeeds_readArrayText.mpr ⟨hf.symm, h⟩
      case writeArray  => exact succeeds_writeArrayText.mpr ⟨hf.symm, h⟩
      case branch      => exact succeeds_infixText.mpr ⟨hf.symm, h⟩
      case «calc»      => exact succeeds_bind_pure.mpr <| succeeds_infixText.mpr ⟨hf.symm, h⟩
    case join hf => simpa only [operationText, hf] using succeeds_joinText.mpr h
    case created hf hn hc =>
      simpa only [operationText, hf] using
        succeeds_hookText_created.mpr ⟨⟨_, rfl⟩, ⟨_, hn⟩, _, hc, h⟩
    case named hf hn hc =>
      have ⟨he, h⟩ := List.forall_mem_cons.mp h
      simpa only [operationText, hf] using succeeds_hookText_named.mpr ⟨⟨_, hn⟩, ⟨_, hc, h⟩, he⟩
    case dotCall hf hn hk =>
      simpa only [operationText, hf] using
        succeeds_dotCallText_append.mpr ⟨⟨_, _, rfl, hk⟩, ⟨_, hn⟩, h⟩
    case call hf hn => simpa only [operationText, hf] using succeeds_callText.mpr ⟨⟨_, hn⟩, h⟩

end Opcode

namespace Expression

variable {names : Names} {inCalc : Bool}

-- Neither the names nor the place of an expression decide whether it has a text.
theorem succeeds_text {e : Expression} : Succeeds (e.text names inCalc) ↔ e.Renderable := by
  induction e generalizing inCalc
  case var v =>
    exact Variable.succeeds_text.trans ⟨.var, fun h => by cases h; assumption⟩
  case const c =>
    exact Constant.succeeds_text.trans ⟨.const, fun h => by cases h; assumption⟩
  case op code ts es hi =>
    rw [text, Opcode.succeeds_operationText]
    constructor
    case mp =>
      intro ⟨written, hw, h⟩
      exact .op hw fun e he => hi e (hw.subset he) |>.mp (h e he)
    case mpr =>
      intro h
      cases h
      case op h hw => exact ⟨_, hw, fun e he => hi e (hw.subset he) |>.mpr (h e he)⟩
  case compound es hi =>
    rw [text, Operand.succeeds_listed]
    constructor
    case mp  => exact fun h => .compound fun e he => hi e he |>.mp (h e he)
    case mpr =>
      intro h
      cases h
      case compound h => exact fun e he => hi e he |>.mpr (h e he)

end Expression
end ClientScript
