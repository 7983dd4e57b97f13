import ClientScript.Proofs.Emission.Wording
import Mathlib.Data.List.Basic

namespace ClientScript

open List (Forall₂)
open Expression (operands Reads)

-- By what name a script is called. The lead of its full name is left out, and with it a bracket at the
-- end. Names without the lead are kept whole.
inductive Names.Calls (names : Names) (lead : String) (id : Int32) : String → Prop
  | unknown (name : names .script id = none) : names.Calls lead id ("script" ++ toString id.toInt)
  | closed (name : names .script id = some (lead ++ part ++ "]")) : names.Calls lead id part
  | opened (name : names .script id = some (lead ++ part)) (last : part.toList.getLast? ≠ some ']') :
    names.Calls lead id part
  | plain (name : names .script id = some full) (other : ¬lead.toList <+: full.toList) :
    names.Calls lead id full

-- What is written of the component of a hook. A created one only puts a dot in front, and a named one
-- stands behind the callback.
inductive Opcode.HookTarget.Frames (names : Names) (inCalc : Bool) :
    HookTarget → Expression → String → String → Prop
  | dotted {c : Constant} (one : c.int? = some 1) : Frames names inCalc .created (.const c) "." ""
  | created {c : Constant} (other : c.int? ≠ some 1) : Frames names inCalc .created (.const c) "" ""
  | named (reads : Reads names inCalc e a) : Frames names inCalc .named e "" (", " ++ a)

theorem properName_append {lead inner : String} :
    properName lead (lead ++ inner) =
      if inner.toList.getLast? = some ']' then String.ofList inner.toList.dropLast else inner := by
  have hp : lead.toList.isPrefixOf? (lead ++ inner).toList = some inner.toList :=
    List.isPrefixOf?_eq_some_iff_append_eq.mpr String.toList_append.symm
  rw [properName, hp]
  dsimp only
  split
  case isTrue  => rfl
  case isFalse => exact String.ofList_toList

theorem properName_of_other {lead name : String} (h : ¬lead.toList <+: name.toList) :
    properName lead name = name := by
  rw [properName]
  split
  case h_1    => rfl
  case h_2 hp => exact absurd ⟨_, List.isPrefixOf?_eq_some_iff_append_eq.mp hp⟩ h

theorem Names.calls_iff {names : Names} {lead name : String} {id : Int32} :
    names.Calls lead id name ↔ names.callee lead id = name := by
  constructor
  case mp  =>
    intro h
    cases h
    case unknown hn     => simp only [callee, hn]
    case closed hn      =>
      simp only [callee, hn, String.append_assoc, properName_append]
      rw [if_pos (by simp)]
      simp
    case opened hn hl   => simp only [callee, hn, properName_append, if_neg hl]
    case plain hn hp    => simp only [callee, hn, properName_of_other hp]
  case mpr =>
    rintro rfl
    rw [callee]
    cases hn : names .script id
    case none      => exact .unknown hn
    case some full =>
      dsimp only
      by_cases hp : lead.toList <+: full.toList
      case neg =>
        rw [properName_of_other hp]
        exact .plain hn hp
      case pos =>
        obtain ⟨rest, hr⟩ := hp
        obtain rfl : lead ++ String.ofList rest = full :=
          String.toList_inj.mp (by rw [String.toList_append, String.toList_ofList, hr])
        rw [properName_append]
        split
        case isFalse hl => exact .opened hn hl
        case isTrue hl  =>
          rw [String.toList_ofList] at hl ⊢
          have hd : String.ofList rest = String.ofList rest.dropLast ++ "]" := by
            rw [← String.toList_inj, String.toList_append, String.toList_ofList, String.toList_ofList]
            exact (List.dropLast_append_getLast? _ hl).symm
          exact .closed (by rw [hn, String.append_assoc, ← hd])

namespace Opcode

variable {op : Opcode} {target : HookTarget} {names : Names} {inCalc : Bool}

theorem form_eq_hook_iff : op.form = .hook target ↔ op.hook? = some target := by
  have hlow (n : Nat) (h : op.code.toNat = n) (hn : n < 1400) : op.hook? = none := by
    rw [hook?, if_neg, if_neg] <;> rw [UInt16.le_iff_toNat_le, h] <;> simp <;> omega
  rw [form]
  split
  case h_6 =>
    cases op.hook?
    case some => simp
    case none => cases op.branchSymbol? <;> cases op.calcSymbol? <;> cases op.isDotted <;> simp
  all_goals simp [hlow _ ‹_›]

theorem says_hook_iff {es : List Expression} {text : String} (hf : op.form = .hook target) :
    op.Says names inCalc es text ↔
      ∃ (front : List Expression) (component : Expression) (word t dot tail : String),
        es = front ++ [component] ∧ op.name? = some word ∧ CallbackReads names inCalc front t ∧
          target.Frames names inCalc component dot tail ∧
          text = dot ++ word ++ "(" ++ t ++ tail ++ ")" := by
  constructor
  case mp  =>
    intro h
    cases h
    case created c word hg hn ht =>
      cases hf.symm.trans hg
      by_cases hc : c.int? = some 1
      case pos => exact ⟨_, _, word, _, ".", "", rfl, hn, ht, .dotted hc, by simp [hc]⟩
      case neg => exact ⟨_, _, word, _, "", "", rfl, hn, ht, .created hc, by simp [hc]⟩
    case named hg hn ht ha       =>
      cases hf.symm.trans hg
      exact ⟨_, _, _, _, "", _, rfl, hn, ht, .named ha, by simp [String.append_assoc]⟩
    all_goals simp_all
  case mpr =>
    rintro ⟨front, component, word, t, dot, tail, rfl, hn, ht, hc, rfl⟩
    cases hc
    case dotted c hc  => simpa [hc] using Says.created (c := c) hf hn ht
    case created c hc => simpa [hc] using Says.created (c := c) hf hn ht
    case named ha   => simpa [String.append_assoc] using Says.named hf hn ht ha

theorem says_hook_append_iff {front : List Expression} {component : Expression} {text : String}
    (hf : op.form = .hook target) :
    op.Says names inCalc (front ++ [component]) text ↔
      ∃ word t dot tail, op.name? = some word ∧ CallbackReads names inCalc front t ∧
        target.Frames names inCalc component dot tail ∧
        text = dot ++ word ++ "(" ++ t ++ tail ++ ")" := by
  rw [says_hook_iff hf]
  constructor
  case mp  =>
    rintro ⟨front, component, word, t, dot, tail, he, h⟩
    obtain ⟨rfl, hl⟩ := List.append_inj' he rfl
    obtain rfl := (List.cons.inj hl).left
    exact ⟨word, t, dot, tail, h⟩
  case mpr => exact fun ⟨word, t, dot, tail, h⟩ => ⟨_, _, word, t, dot, tail, rfl, h⟩

theorem splitTriggers_of_count {es : List Expression} {count : Constant} {n : Int32}
    (hc : count.int? = some n) (hn : n.toInt < 0 ∨ es.length < n.toInt) :
    op.splitTriggers (operands names inCalc (es ++ [.const count])) =
      .error (.malformed .hook (.triggerCount n es.length)) := by
  rw [splitTriggers, Operand.splitLast?_append]
  dsimp only
  rw [Operand.int_eq_ok_iff.mpr ⟨count, rfl, hc⟩]
  have hl : (operands names inCalc es).length = es.length := by simp [Expression.operands_eq_map]
  rw [ok_bind, hl, if_neg (by omega)]
  rfl

theorem callbackText_of_count {es : List Expression} {callee count : Constant} {id n : Int32}
    (hi : callee.int? = some id) (hid : id ≠ -1) (hc : count.int? = some n)
    (hn : n.toInt < 0 ∨ es.length < n.toInt) :
    op.callbackText names (operands names inCalc (.const callee :: (es ++ [.const count]))) =
      .error (.malformed .hook (.triggerCount n es.length)) := by
  rw [operands, callbackText, Operand.int_eq_ok_iff.mpr ⟨callee, rfl, hi⟩, ok_bind,
    if_neg hid, splitTriggers_of_count hc hn]
  rfl

theorem hookText_of_count {es : List Expression} {callee count : Constant} {id n : Int32}
    {component : Expression} {word : String} (hw : op.name? = some word) (hi : callee.int? = some id)
    (hid : id ≠ -1) (hc : count.int? = some n) (hn : n.toInt < 0 ∨ es.length < n.toInt)
    (hk : target = .named ∨ component.constant?.isSome) :
    op.hookText names target
        (operands names inCalc (.const callee :: (es ++ [.const count, component]))) =
      .error (.malformed .hook (.triggerCount n es.length)) := by
  have hs : Expression.const callee :: (es ++ [.const count, component]) =
      .const callee :: (es ++ [.const count]) ++ [component] := by simp
  rw [hs, hookText, Operand.splitLast?_append]
  dsimp only
  rw [callbackText_of_count hi hid hc hn, word_eq_ok_iff.mpr hw]
  cases target
  case named   => rfl
  case created =>
    obtain ⟨c, hk⟩ := Option.isSome_iff_exists.mp (hk.resolve_left (by simp))
    simp only [hk]
    rfl

theorem hookText_of_component {front : List Expression} {component : Expression}
    (hk : component.constant? = none) :
    op.hookText names .created (operands names inCalc (front ++ [component])) =
      .error (.malformed .hook (.component op component.dump)) := by
  rw [hookText, Operand.splitLast?_append]
  simp only [hk]

-- What a hook looks like. The text of a callback tells what it is called with and what triggers it, and
-- nothing else can be written with a callback. Triggers that are not there are never counted.
theorem hook_reads (hook : op.hook? = some target) (types : List Ty) (names : Names)
    (inCalc : Bool) :
    (∀ word, op.name? = some word →
      (∀ (first second : List Expression) {callee count : Constant} {id n : Int32}
        {component : Expression} {callback dot tail : String} {as ts : List String},
        callee.int? = some id → id ≠ -1 → names.Calls "[clientscript," id callback →
        Forall₂ (Reads names inCalc) first as → Forall₂ (Reads names inCalc) second ts →
        count.int? = some n → n.toInt = second.length →
        target.Frames names inCalc component dot tail →
        (Expression.op op types
            (.const callee :: (first ++ second ++ [.const count, component]))).Reads names inCalc
          (dot ++ word ++ "(\"" ++ callback ++ "(" ++ ", ".intercalate as ++ ")" ++
            enclosed "\x7b" "\x7d" ts ++ "\"" ++ tail ++ ")")) ∧
      (∀ (between : List Expression) {callee : Constant} {component : Expression}
        {dot tail : String},
        callee.int? = some (-1) → target.Frames names inCalc component dot tail →
        (Expression.op op types (.const callee :: (between ++ [component]))).Reads names inCalc
          (dot ++ word ++ "(null" ++ tail ++ ")")) ∧
      ∀ (left : List Expression) {callee count : Constant} {id n : Int32} {component : Expression},
        callee.int? = some id → id ≠ -1 → count.int? = some n →
        (n.toInt < 0 ∨ left.length < n.toInt) →
        ∃ fault, (Expression.op op types
            (.const callee :: (left ++ [.const count, component]))).text names inCalc =
              .error (.malformed .hook fault) ∧
          (target = .named ∨ component.constant?.isSome → fault = .triggerCount n left.length)) ∧
    ∀ {es : List Expression} {text : String}, (Expression.op op types es).Reads names inCalc text →
      ∃ (word : String) (callee : Constant) (id : Int32) (rest : List Expression),
        op.name? = some word ∧ es = .const callee :: rest ∧ callee.int? = some id ∧
          (id ≠ -1 → ∃! cut : List Expression × List Expression,
            ∃ (count : Constant) (n : Int32) (component : Expression) (as ts : List String)
              (dot tail : String),
              rest = cut.1 ++ cut.2 ++ [.const count, component] ∧ count.int? = some n ∧
                n.toInt = cut.2.length ∧ Forall₂ (Reads names inCalc) cut.1 as ∧
                Forall₂ (Reads names inCalc) cut.2 ts ∧
                target.Frames names inCalc component dot tail) := by
  have hf : op.form = .hook target := form_eq_hook_iff.mpr hook
  refine ⟨fun word name => ⟨?call, ?null, ?count⟩, ?cut⟩
  case call =>
    intro first second callee count id n component callback dot tail as ts hi hid hb ha ht hc hn hk
    refine Expression.reads_op_iff.mpr <| (says_hook_iff hf).mpr
      ⟨.const callee :: (first ++ second ++ [.const count]), component, word, _, dot, tail, by simp,
        name, .call hi hid hc hn ha ht, hk, ?_⟩
    simp only [Names.calls_iff.mp hb, String.append_assoc]
    rfl
  case null =>
    intro between callee component dot tail hi hk
    refine Expression.reads_op_iff.mpr <| (says_hook_iff hf).mpr
      ⟨.const callee :: between, component, word, _, dot, tail, rfl, name, .null hi, hk, ?_⟩
    simp only [String.append_assoc]
    rfl
  case count =>
    intro left callee count id n component hi hid hc hn
    have ht : (Expression.op op types (.const callee :: (left ++ [.const count, component]))).text
        names inCalc = op.hookText names target (operands names (inCalc || op.isCalc)
          (.const callee :: (left ++ [.const count, component]))) := by
      rw [Expression.text, operationText, hf]
    by_cases hk : target = .named ∨ component.constant?.isSome
    case pos => exact ⟨_, ht.trans (hookText_of_count name hi hid hc hn hk), fun _ => rfl⟩
    case neg =>
      obtain ⟨hk, hn⟩ := not_or.mp hk
      cases target
      case named   => exact absurd rfl hk
      case created =>
        refine ⟨.component op component.dump, ht.trans ?_,
          fun h => absurd (h.resolve_left (by simp)) hn⟩
        rw [List.append_cons, ← List.cons_append]
        exact hookText_of_component (by simpa using hn)
  case cut =>
    intro es text h
    obtain ⟨front, component, word, t, dot, tail, rfl, hw, hb, hk, -⟩ :=
      (says_hook_iff hf).mp (Expression.reads_op_iff.mp h)
    cases hb
    case null callee rest hi                                         =>
      exact ⟨word, callee, -1, _, hw, rfl, hi, fun h => absurd rfl h⟩
    case call callee count id n first second as ts hi hid hc hn ha ht =>
      refine ⟨word, callee, id, first ++ second ++ [.const count, component], hw, by simp, hi,
        fun _ => ?_⟩
      refine ⟨(first, second), ⟨_, _, _, _, _, _, _, rfl, hc, hn, ha, ht, hk⟩, ?_⟩
      rintro ⟨first', second'⟩ ⟨count', n', component', _, _, _, _, he, hc', hn', _⟩
      obtain ⟨he, hl⟩ := List.append_inj' he rfl
      have hcount : count = count' := by simpa using (List.cons.inj hl).left
      obtain rfl : n = n' := by simpa [← hcount, hc] using hc'
      have hs : second.length = second'.length := Int.ofNat_inj.mp (hn.symm.trans hn')
      obtain ⟨rfl, rfl⟩ := List.append_inj' he hs
      rfl

end Opcode

def ticking : Names :=
  fun kind id => if kind = .script ∧ id = 7 then some "[clientscript,tick]" else none

theorem ticking_calls : ticking.Calls "[clientscript," 7 "tick" :=
  .closed rfl

theorem Opcode.hook_reads_ticking :
    (Opcode.mk 1407).hook? = some .created ∧
      (Opcode.mk 1407).name? = some "cc_setonvartransmit" ∧
      (Expression.op ⟨1407⟩ []
          [.const ⟨.int, .int 7⟩, .const ⟨.int, .int 3⟩, .const ⟨.int, .int 9⟩, .const ⟨.int, .int 1⟩,
            .const ⟨.int, .int 1⟩]).Reads ticking false
        ".cc_setonvartransmit(\"tick(3)\x7b9\x7d\")" ∧
      ∃ fault, (Expression.op ⟨1407⟩ []
          [.const ⟨.int, .int 7⟩, .const ⟨.int, .int 2⟩, .const ⟨.int, .int 0⟩]).text ticking false =
        .error (.malformed .hook fault) := by
  have hh : (Opcode.mk 1407).hook? = some .created := by decide
  have hn : (Opcode.mk 1407).name? = some "cc_setonvartransmit" := by decide +kernel
  obtain ⟨hcall, _, hcount⟩ := (Opcode.hook_reads hh [] ticking false).left _ hn
  have h3 : Expression.Reads ticking false (.const ⟨.int, .int 3⟩) "3" := by rfl
  have h9 : Expression.Reads ticking false (.const ⟨.int, .int 9⟩) "9" := by rfl
  have h7 : (7 : Int32) ≠ -1 := by decide
  refine ⟨hh, hn, ?call, ?count⟩
  case call  =>
    exact hcall [_] [_] rfl h7 ticking_calls (.cons h3 .nil) (.cons h9 .nil) rfl rfl (.dotted rfl)
  case count =>
    have hi : (Constant.mk .int (.int 7)).int? = some 7 := rfl
    have hc : (Constant.mk .int (.int 2)).int? = some 2 := rfl
    exact (hcount [] hi h7 hc (.inr (by decide))).imp fun _ => And.left

end ClientScript
