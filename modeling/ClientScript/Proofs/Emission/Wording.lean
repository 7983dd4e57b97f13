import ClientScript.Proofs.Emission.Blame
import Mathlib.Data.List.Forall2

namespace ClientScript

open List (Forall₂)

def Expression.Reads (names : Names) (inCalc : Bool) (e : Expression) (text : String) : Prop :=
  e.text names inCalc = .ok text

-- Texts with commas between them and brackets around them. Nothing has no brackets.
def enclosed (left right : String) (texts : List String) : String :=
  if texts.isEmpty then "" else left ++ ", ".intercalate texts ++ right

-- The text of a callback, by what its arguments and its triggers read. A missing callback reads as
-- such, whatever stands behind it.
inductive CallbackReads (names : Names) (inCalc : Bool) : List Expression → String → Prop
  | null {c : Constant} {es} (callee : c.int? = some (-1)) :
    CallbackReads names inCalc (.const c :: es) "null"
  | call {c k : Constant} {id n arguments triggers as ts} (callee : c.int? = some id) (ne : id ≠ -1)
    (count : k.int? = some n) (length : n.toInt = triggers.length)
    (first : Forall₂ (Expression.Reads names inCalc) arguments as)
    (second : Forall₂ (Expression.Reads names inCalc) triggers ts) :
    CallbackReads names inCalc (.const c :: (arguments ++ triggers ++ [.const k]))
      ("\"" ++ names.callee "[clientscript," id ++ "(" ++ ", ".intercalate as ++ ")" ++
        enclosed "\x7b" "\x7d" ts ++ "\"")

-- A piece of a joined text.
inductive PieceReads (names : Names) (inCalc : Bool) : Expression → String → Prop
  | text {c : Constant} (text : c.text? = some s) : PieceReads names inCalc (.const c) s
  | other {e : Expression} (other : e.constant?.bind Constant.text? = none)
    (reads : e.Reads names inCalc s) : PieceReads names inCalc e ("<" ++ s ++ ">")

-- The text of an operation, by what those of its arguments read that are written.
inductive Opcode.Says (op : Opcode) (names : Names) (inCalc : Bool) :
    List Expression → String → Prop
  | invoke {c : Constant} {n es ts} (form : op.form = .invoke) (callee : c.int? = some n)
    (reads : Forall₂ (Expression.Reads names inCalc) es ts) :
    op.Says names inCalc (.const c :: es) ("~" ++ names.callee "[proc," n ++ enclosed "(" ")" ts)
  | defineArray (form : op.form = .defineArray) (array : Expression.Reads names inCalc e a)
    (element : Expression.Reads names inCalc f b) (size : Expression.Reads names inCalc g c) :
    op.Says names inCalc [e, f, g] ("def_" ++ b ++ " $array" ++ a ++ "(" ++ c ++ ")")
  | readArray (form : op.form = .readArray) (array : Expression.Reads names inCalc e a)
    (index : Expression.Reads names inCalc f b) :
    op.Says names inCalc [e, f] ("$array" ++ a ++ "(" ++ b ++ ")")
  | writeArray (form : op.form = .writeArray) (array : Expression.Reads names inCalc e a)
    (index : Expression.Reads names inCalc f b) (value : Expression.Reads names inCalc g c) :
    op.Says names inCalc [e, f, g] ("$array" ++ a ++ "(" ++ b ++ ")" ++ " = " ++ c)
  | join (form : op.form = .join) (reads : Forall₂ (PieceReads names inCalc) es ts) :
    op.Says names inCalc es ("\"" ++ String.join ts ++ "\"")
  | created {c : Constant} {word : String} (form : op.form = .hook .created) (name : op.name? = some word)
    (callback : CallbackReads names inCalc es t) :
    op.Says names inCalc (es ++ [.const c])
      ((if c.int? = some 1 then "." else "") ++ word ++ "(" ++ t ++ ")")
  | named {word : String} (form : op.form = .hook .named) (name : op.name? = some word)
    (callback : CallbackReads names inCalc es t) (component : Expression.Reads names inCalc e a) :
    op.Says names inCalc (es ++ [e]) (word ++ "(" ++ t ++ ", " ++ a ++ ")")
  | branch (form : op.form = .branch symbol) (left : Expression.Reads names inCalc e a)
    (right : Expression.Reads names inCalc f b) :
    op.Says names inCalc [e, f] ("(" ++ a ++ " " ++ symbol ++ " " ++ b ++ ")")
  | calc (form : op.form = .calc symbol) (left : Expression.Reads names true e a)
    (right : Expression.Reads names true f b) :
    op.Says names inCalc [e, f]
      ((if inCalc then "" else "calc") ++ ("(" ++ a ++ " " ++ symbol ++ " " ++ b ++ ")"))
  | dotCall {c : Constant} {word : String} (form : op.form = .dotCall) (name : op.name? = some word)
    (flag : c.int? = some n) (reads : Forall₂ (Expression.Reads names inCalc) es ts) :
    op.Says names inCalc (es ++ [.const c])
      ((if n = 1 then "." else "") ++ (word ++ enclosed "(" ")" ts))
  | call {word : String} (form : op.form = .call) (name : op.name? = some word)
    (reads : Forall₂ (Expression.Reads names inCalc) es ts) :
    op.Says names inCalc es (word ++ enclosed "(" ")" ts)

open Expression (operands operands_eq_map Reads)

theorem Expression.eq_const_of_constant? {e : Expression} {c : Constant}
    (h : e.constant? = some c) : e = .const c := by
  cases e <;> simp_all [constant?]

variable {names : Names} {inCalc : Bool} {es : List Expression} {text : String}

namespace Operand

theorem listed_eq_ok_iff : listed (operands names inCalc es) = .ok text ↔
    ∃ ts, Forall₂ (Reads names inCalc) es ts ∧ text = ", ".intercalate ts := by
  rw [listed, listText, bind_eq_ok_iff, operands_eq_map, List.map_map]
  simp only [mapM_eq_ok_iff, List.forall₂_map_left_iff, pure, Except.pure, Except.ok.injEq]
  exact exists_congr fun ts => and_congr_right' eq_comm

theorem enclosed_eq_ok_iff {left right : String} :
    (if (operands names inCalc es).isEmpty then .ok ""
      else do return left ++ (← listed (operands names inCalc es)) ++ right) = Except.ok text ↔
      ∃ ts, Forall₂ (Reads names inCalc) es ts ∧ text = enclosed left right ts := by
  cases es
  case nil       =>
    simp only [List.forall₂_nil_left_iff, exists_eq_left]
    exact ⟨fun h => (Except.ok.inj h).symm, fun h => h ▸ rfl⟩
  case cons e es =>
    rw [if_neg (by simp [operands])]
    simp only [bind_eq_ok_iff, listed_eq_ok_iff]
    constructor
    case mp  =>
      rintro ⟨s, ⟨ts, hr, rfl⟩, h⟩
      refine ⟨ts, hr, ?_⟩
      cases hr
      exact (Except.ok.inj h).symm
    case mpr =>
      rintro ⟨ts, hr, rfl⟩
      refine ⟨_, ⟨ts, hr, rfl⟩, ?_⟩
      cases hr
      rfl

theorem enclosed_bind_eq_ok_iff {left right : String} {f : String → String} :
    (if (operands names inCalc es).isEmpty then do
        let group ← pure ""
        return f group
      else do
        let group ← pure (left ++ (← listed (operands names inCalc es)) ++ right)
        return f group) = Except.ok text ↔
      ∃ ts, Forall₂ (Reads names inCalc) es ts ∧ text = f (enclosed left right ts) := by
  have hb (p : Prop) [Decidable p] (x : Except EmitError String) :
      (if p then (do let group ← pure ""; return f group)
        else (do let group ← pure (left ++ (← x) ++ right); return f group)) =
      (if p then .ok "" else (do return left ++ (← x) ++ right)) >>= fun s =>
        Except.ok (f s) := by
    split
    case isTrue  => rfl
    case isFalse => cases x <;> rfl
  rw [hb, bind_eq_ok_iff]
  simp only [enclosed_eq_ok_iff, Except.ok.injEq]
  grind

theorem grouped_eq_ok_iff : grouped (operands names inCalc es) = .ok text ↔
    ∃ ts, Forall₂ (Reads names inCalc) es ts ∧ text = enclosed "(" ")" ts :=
  enclosed_eq_ok_iff

end Operand

namespace Opcode

variable {op : Opcode} {symbol : String} {part : Part}

theorem word_eq_ok_iff : op.word = .ok text ↔ op.name? = some text := by
  rw [word]
  cases op.name? <;> simp

theorem invokeText_eq_ok_iff : invokeText names (operands names inCalc es) = .ok text ↔
    ∃ (c : Constant) (n : Int32) (rest : List Expression) (ts : List String),
      es = .const c :: rest ∧ c.int? = some n ∧ Forall₂ (Reads names inCalc) rest ts ∧
        text = "~" ++ names.callee "[proc," n ++ enclosed "(" ")" ts := by
  cases es
  case nil       => exact iff_of_false nofun (by simp)
  case cons e es =>
    simp only [invokeText, operands, bind_eq_ok_iff, Operand.int_eq_ok_iff,
      Operand.grouped_eq_ok_iff]
    constructor
    case mp  =>
      rintro ⟨n, ⟨c, rfl, hc⟩, _, ⟨ts, hr, rfl⟩, h⟩
      exact ⟨c, n, es, ts, rfl, hc, hr, (Except.ok.inj h).symm⟩
    case mpr =>
      rintro ⟨c, n, _, ts, he, hc, hr, rfl⟩
      cases he
      exact ⟨n, ⟨c, rfl, hc⟩, _, ⟨ts, hr, rfl⟩, rfl⟩

theorem infixText_eq_ok_iff : infixText part symbol (operands names inCalc es) = .ok text ↔
    ∃ e f a b, es = [e, f] ∧ e.Reads names inCalc a ∧ f.Reads names inCalc b ∧
      text = "(" ++ a ++ " " ++ symbol ++ " " ++ b ++ ")" := by
  rcases es with _ | ⟨e, _ | ⟨f, _ | _⟩⟩
  case cons.cons.nil =>
    have hi : infixText part symbol (operands names inCalc [e, f]) =
        e.text names inCalc >>= fun a => f.text names inCalc >>= fun b =>
          pure ("(" ++ a ++ " " ++ symbol ++ " " ++ b ++ ")") := rfl
    simp only [hi, bind_eq_ok_iff, pure, Except.pure, Except.ok.injEq]
    simp [Reads, eq_comm]
  all_goals exact iff_of_false (fun h => by cases h) (by simp)

theorem defineArrayText_eq_ok_iff : defineArrayText (operands names inCalc es) = .ok text ↔
    ∃ e f g a b c, es = [e, f, g] ∧ e.Reads names inCalc a ∧ f.Reads names inCalc b ∧
      g.Reads names inCalc c ∧ text = "def_" ++ b ++ " $array" ++ a ++ "(" ++ c ++ ")" := by
  rcases es with _ | ⟨e, _ | ⟨f, _ | ⟨g, _ | _⟩⟩⟩
  case cons.cons.cons.nil =>
    have hd : defineArrayText (operands names inCalc [e, f, g]) =
        f.text names inCalc >>= fun b => e.text names inCalc >>= fun a =>
          g.text names inCalc >>= fun c =>
            pure ("def_" ++ b ++ " $array" ++ a ++ "(" ++ c ++ ")") := rfl
    simp only [hd, bind_eq_ok_iff, pure, Except.pure, Except.ok.injEq]
    simp only [Reads]
    grind
  all_goals exact iff_of_false (fun h => by cases h) (by simp)

theorem readArrayText_eq_ok_iff : readArrayText (operands names inCalc es) = .ok text ↔
    ∃ e f a b, es = [e, f] ∧ e.Reads names inCalc a ∧ f.Reads names inCalc b ∧
      text = "$array" ++ a ++ "(" ++ b ++ ")" := by
  rcases es with _ | ⟨e, _ | ⟨f, _ | _⟩⟩
  case cons.cons.nil =>
    have hr : readArrayText (operands names inCalc [e, f]) =
        slotText ⟨e, e.text names inCalc⟩ ⟨f, f.text names inCalc⟩ := rfl
    simp only [hr, slotText, bind_eq_ok_iff, pure, Except.pure, Except.ok.injEq]
    simp [Reads, eq_comm]
  all_goals exact iff_of_false (fun h => by cases h) (by simp)

theorem writeArrayText_eq_ok_iff : writeArrayText (operands names inCalc es) = .ok text ↔
    ∃ e f g a b c, es = [e, f, g] ∧ e.Reads names inCalc a ∧ f.Reads names inCalc b ∧
      g.Reads names inCalc c ∧ text = "$array" ++ a ++ "(" ++ b ++ ")" ++ " = " ++ c := by
  rcases es with _ | ⟨e, _ | ⟨f, _ | ⟨g, _ | _⟩⟩⟩
  case cons.cons.cons.nil =>
    have hw : writeArrayText (operands names inCalc [e, f, g]) =
        slotText ⟨e, e.text names inCalc⟩ ⟨f, f.text names inCalc⟩ >>= fun s =>
          g.text names inCalc >>= fun c => pure (s ++ " = " ++ c) := rfl
    simp only [hw, slotText, bind_eq_ok_iff, pure, Except.pure, Except.ok.injEq]
    simp only [Reads]
    grind
  all_goals exact iff_of_false (fun h => by cases h) (by simp)

theorem joinedText_eq_ok_iff {e : Expression} :
    joinedText ⟨e, e.text names inCalc⟩ = .ok text ↔ PieceReads names inCalc e text := by
  rw [joinedText]
  constructor
  case mp  =>
    intro h
    split at h
    case h_1 s hs =>
      obtain rfl := Except.ok.inj h
      obtain ⟨c, hc, hs⟩ := Option.bind_eq_some_iff.mp hs
      obtain rfl := Expression.eq_const_of_constant? hc
      exact .text hs
    case h_2 hs   =>
      obtain ⟨s, ht, h⟩ := bind_eq_ok_iff.mp h
      obtain rfl := Except.ok.inj h
      exact .other hs ht
  case mpr =>
    intro h
    cases h
    case text h     => rw [Expression.constant?, Option.bind_some, h]
    case other h hr =>
      rw [Reads] at hr
      rw [h, hr]
      rfl

theorem joinText_eq_ok_iff : joinText (operands names inCalc es) = .ok text ↔
    ∃ ts, Forall₂ (PieceReads names inCalc) es ts ∧ text = "\"" ++ String.join ts ++ "\"" := by
  rw [joinText, bind_eq_ok_iff, operands_eq_map]
  simp only [mapM_eq_ok_iff, List.forall₂_map_left_iff, joinedText_eq_ok_iff, pure, Except.pure,
    Except.ok.injEq]
  exact exists_congr fun ts => and_congr_right' eq_comm

theorem callText_eq_ok_iff : op.callText (operands names inCalc es) = .ok text ↔
    ∃ (word : String) (ts : List String), op.name? = some word ∧
      Forall₂ (Reads names inCalc) es ts ∧ text = word ++ enclosed "(" ")" ts := by
  simp only [callText, bind_eq_ok_iff, word_eq_ok_iff, Operand.grouped_eq_ok_iff, pure,
    Except.pure, Except.ok.injEq]
  grind

theorem dotCallText_eq_ok_iff : op.dotCallText (operands names inCalc es) = .ok text ↔
    ∃ (front : List Expression) (c : Constant) (n : Int32) (word : String) (ts : List String),
      es = front ++ [.const c] ∧ c.int? = some n ∧ op.name? = some word ∧
        Forall₂ (Reads names inCalc) front ts ∧
        text = (if n = 1 then "." else "") ++ (word ++ enclosed "(" ")" ts) := by
  rcases es.eq_nil_or_concat with rfl | ⟨front, e, rfl⟩
  case inl => exact iff_of_false nofun (by simp)
  case inr =>
    rw [List.concat_eq_append, dotCallText, Operand.splitLast?_append]
    simp only [bind_eq_ok_iff, Operand.int_eq_ok_iff, callText_eq_ok_iff, pure, Except.pure,
      Except.ok.injEq]
    constructor
    case mp  =>
      rintro ⟨n, ⟨c, rfl, hc⟩, _, ⟨word, ts, hn, hr, rfl⟩, rfl⟩
      exact ⟨front, c, n, word, ts, rfl, hc, hn, hr, rfl⟩
    case mpr =>
      rintro ⟨_, c, n, word, ts, he, hc, hn, hr, rfl⟩
      obtain ⟨rfl, hl⟩ := List.append_inj' he rfl
      exact ⟨n, ⟨c, (List.cons.inj hl).left, hc⟩, _, ⟨word, ts, hn, hr, rfl⟩, rfl⟩

theorem callbackText_eq_ok_iff : op.callbackText names (operands names inCalc es) = .ok text ↔
    CallbackReads names inCalc es text := by
  cases es
  case nil       => exact iff_of_false nofun nofun
  case cons e es =>
    simp only [callbackText, operands, bind_eq_ok_iff, Operand.int_eq_ok_iff]
    constructor
    case mp  =>
      rintro ⟨id, ⟨c, rfl, hc⟩, h⟩
      split at h
      case isTrue hid  =>
        obtain rfl := Except.ok.inj h
        exact .null (hid ▸ hc)
      case isFalse hid =>
        obtain ⟨_, ht, h⟩ := bind_eq_ok_iff.mp h
        obtain ⟨arguments, triggers, k, n, rfl, hk, hn, rfl⟩ := splitTriggers_eq_ok_iff.mp ht
        obtain ⟨_, hl, h⟩ := bind_eq_ok_iff.mp h
        obtain ⟨as, ha, rfl⟩ := Operand.listed_eq_ok_iff.mp hl
        obtain ⟨ts, ht, rfl⟩ := Operand.enclosed_bind_eq_ok_iff.mp h
        exact .call hc hid hk hn ha ht
    case mpr =>
      intro h
      cases h
      case null hc                => exact ⟨-1, ⟨_, rfl, hc⟩, rfl⟩
      case call hc hid hk hn ha ht =>
        refine ⟨_, ⟨_, rfl, hc⟩, ?_⟩
        rw [if_neg hid]
        refine bind_eq_ok_iff.mpr ⟨_, splitTriggers_eq_ok_iff.mpr ⟨_, _, _, _, rfl, hk, hn, rfl⟩, ?_⟩
        refine bind_eq_ok_iff.mpr ⟨_, Operand.listed_eq_ok_iff.mpr ⟨_, ha, rfl⟩, ?_⟩
        exact Operand.enclosed_bind_eq_ok_iff.mpr ⟨_, ht, rfl⟩

theorem hookText_created_eq_ok_iff :
    op.hookText names .created (operands names inCalc es) = .ok text ↔
      ∃ (front : List Expression) (c : Constant) (word t : String), es = front ++ [.const c] ∧
        op.name? = some word ∧ CallbackReads names inCalc front t ∧
        text = (if c.int? = some 1 then "." else "") ++ word ++ "(" ++ t ++ ")" := by
  rcases es.eq_nil_or_concat with rfl | ⟨front, e, rfl⟩
  case inl => exact iff_of_false nofun (by simp)
  case inr =>
    rw [List.concat_eq_append, hookText, Operand.splitLast?_append]
    dsimp only
    constructor
    case mp  =>
      intro h
      split at h
      case h_1       => cases h
      case h_2 c hc =>
        obtain rfl := Expression.eq_const_of_constant? hc
        simp only [bind_eq_ok_iff, word_eq_ok_iff, callbackText_eq_ok_iff] at h
        obtain ⟨word, hn, t, ht, h⟩ := h
        exact ⟨front, c, word, t, rfl, hn, ht, (Except.ok.inj h).symm⟩
    case mpr =>
      rintro ⟨_, c, word, t, he, hn, ht, rfl⟩
      obtain ⟨rfl, hl⟩ := List.append_inj' he rfl
      cases hl
      simp only [Expression.constant?, bind_eq_ok_iff, word_eq_ok_iff, callbackText_eq_ok_iff]
      exact ⟨word, hn, t, ht, rfl⟩

theorem hookText_named_eq_ok_iff :
    op.hookText names .named (operands names inCalc es) = .ok text ↔
      ∃ (front : List Expression) (e : Expression) (word t a : String), es = front ++ [e] ∧
        op.name? = some word ∧ CallbackReads names inCalc front t ∧ e.Reads names inCalc a ∧
        text = word ++ "(" ++ t ++ ", " ++ a ++ ")" := by
  rcases es.eq_nil_or_concat with rfl | ⟨front, e, rfl⟩
  case inl => exact iff_of_false nofun (by simp)
  case inr =>
    rw [List.concat_eq_append, hookText, Operand.splitLast?_append]
    simp only [bind_eq_ok_iff, word_eq_ok_iff, callbackText_eq_ok_iff, pure, Except.pure,
      Except.ok.injEq]
    constructor
    case mp  =>
      rintro ⟨word, hn, t, ht, a, ha, rfl⟩
      exact ⟨front, e, word, t, a, rfl, hn, ht, ha, rfl⟩
    case mpr =>
      rintro ⟨_, _, word, t, a, he, hn, ht, ha, rfl⟩
      obtain ⟨rfl, hl⟩ := List.append_inj' he rfl
      obtain rfl := (List.cons.inj hl).left
      exact ⟨word, hn, t, ht, a, ha, rfl⟩

theorem isCalc_eq_false (h : ∀ symbol, op.form ≠ .calc symbol) : op.isCalc = false := by
  rw [isCalc]
  split
  case h_1 hf => exact absurd hf (h _)
  case h_2    => rfl

theorem isCalc_eq_true (h : op.form = .calc symbol) : op.isCalc = true := by
  rw [isCalc, h]

theorem operationText_eq_ok_iff :
    op.operationText names inCalc (operands names (inCalc || op.isCalc) es) = .ok text ↔
      op.Says names inCalc es text := by
  by_cases hc : ∃ symbol, op.form = .calc symbol
  case pos =>
    obtain ⟨symbol, hf⟩ := hc
    rw [operationText, hf, isCalc_eq_true hf, Bool.or_true]
    simp only [bind_eq_ok_iff, infixText_eq_ok_iff]
    constructor
    case mp  =>
      rintro ⟨_, ⟨e, f, a, b, rfl, ha, hb, rfl⟩, h⟩
      obtain rfl := Except.ok.inj h
      exact .calc hf ha hb
    case mpr =>
      intro h
      cases h
      case «calc» hg ha hb =>
        obtain rfl := Form.calc.inj (hf.symm.trans hg)
        exact ⟨_, ⟨_, _, _, _, rfl, ha, hb, rfl⟩, rfl⟩
      all_goals simp_all
  case neg =>
    rw [isCalc_eq_false (not_exists.mp hc), Bool.or_false]
    constructor
    case mp  =>
      intro h
      cases hf : op.form <;> simp only [operationText, hf] at h
      case invoke =>
        obtain ⟨c, n, rest, ts, rfl, hc, hr, rfl⟩ := invokeText_eq_ok_iff.mp h
        exact .invoke hf hc hr
      case defineArray =>
        obtain ⟨e, f, g, a, b, c, rfl, ha, hb, hc, rfl⟩ := defineArrayText_eq_ok_iff.mp h
        exact .defineArray hf ha hb hc
      case readArray =>
        obtain ⟨e, f, a, b, rfl, ha, hb, rfl⟩ := readArrayText_eq_ok_iff.mp h
        exact .readArray hf ha hb
      case writeArray =>
        obtain ⟨e, f, g, a, b, c, rfl, ha, hb, hc, rfl⟩ := writeArrayText_eq_ok_iff.mp h
        exact .writeArray hf ha hb hc
      case join =>
        obtain ⟨ts, hr, rfl⟩ := joinText_eq_ok_iff.mp h
        exact .join hf hr
      case hook target =>
        cases target
        case created =>
          obtain ⟨front, c, word, t, rfl, hn, ht, rfl⟩ := hookText_created_eq_ok_iff.mp h
          exact .created hf hn ht
        case named =>
          obtain ⟨front, e, word, t, a, rfl, hn, ht, ha, rfl⟩ := hookText_named_eq_ok_iff.mp h
          exact .named hf hn ht ha
      case branch symbol =>
        obtain ⟨e, f, a, b, rfl, ha, hb, rfl⟩ := infixText_eq_ok_iff.mp h
        exact .branch hf ha hb
      case «calc» symbol => exact absurd ⟨symbol, hf⟩ hc
      case dotCall =>
        obtain ⟨front, c, n, word, ts, rfl, hc, hn, hr, rfl⟩ := dotCallText_eq_ok_iff.mp h
        exact .dotCall hf hn hc hr
      case call =>
        obtain ⟨word, ts, hn, hr, rfl⟩ := callText_eq_ok_iff.mp h
        exact .call hf hn hr
    case mpr =>
      intro h
      cases h
      case invoke hf hc hr            =>
        simpa only [operationText, hf] using
          invokeText_eq_ok_iff.mpr ⟨_, _, _, _, rfl, hc, hr, rfl⟩
      case defineArray hf ha hb hc    =>
        simpa only [operationText, hf] using
          defineArrayText_eq_ok_iff.mpr ⟨_, _, _, _, _, _, rfl, ha, hb, hc, rfl⟩
      case readArray hf ha hb         =>
        simpa only [operationText, hf] using
          readArrayText_eq_ok_iff.mpr ⟨_, _, _, _, rfl, ha, hb, rfl⟩
      case writeArray hf ha hb hc     =>
        simpa only [operationText, hf] using
          writeArrayText_eq_ok_iff.mpr ⟨_, _, _, _, _, _, rfl, ha, hb, hc, rfl⟩
      case join hf hr                 =>
        simpa only [operationText, hf] using joinText_eq_ok_iff.mpr ⟨_, hr, rfl⟩
      case created hf hn ht           =>
        simpa only [operationText, hf] using
          hookText_created_eq_ok_iff.mpr ⟨_, _, _, _, rfl, hn, ht, rfl⟩
      case named hf hn ht ha          =>
        simpa only [operationText, hf] using
          hookText_named_eq_ok_iff.mpr ⟨_, _, _, _, _, rfl, hn, ht, ha, rfl⟩
      case branch hf ha hb            =>
        simpa only [operationText, hf] using
          infixText_eq_ok_iff.mpr ⟨_, _, _, _, rfl, ha, hb, rfl⟩
      case «calc» hf _ _              => exact absurd ⟨_, hf⟩ hc
      case dotCall hf hn hk hr        =>
        simpa only [operationText, hf] using
          dotCallText_eq_ok_iff.mpr ⟨_, _, _, _, _, rfl, hk, hn, hr, rfl⟩
      case call hf hn hr              =>
        simpa only [operationText, hf] using callText_eq_ok_iff.mpr ⟨_, _, hn, hr, rfl⟩

end Opcode

namespace Expression

theorem reads_op_iff : (op code ts es).Reads names inCalc text ↔ code.Says names inCalc es text :=
  Opcode.operationText_eq_ok_iff

theorem reads_compound_iff : (compound es).Reads names inCalc text ↔
    ∃ ts, Forall₂ (Reads names inCalc) es ts ∧ text = ", ".intercalate ts :=
  Operand.listed_eq_ok_iff

end Expression

end ClientScript
