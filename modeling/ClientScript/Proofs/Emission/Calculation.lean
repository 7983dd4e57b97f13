import ClientScript.Proofs.Emission.Bracketing
import ClientScript.Proofs.Emission.Context
import ClientScript.Text.Blank

namespace ClientScript

open List (Forall₂)
open Expression (Reads inside)
open Text (Sight mark separates)

variable {v : Sight} {names : Names} {text unit : String}

section Lines

theorem separates_break (hu : ∀ c ∈ unit.toList, Text.isBlank c) (depth : Nat) :
    separates ("\n" ++ String.join (List.replicate depth unit)).toList := by
  refine Text.separates_of_forall (p := Text.isBlank) rfl (by simp) fun c hc => ?_
  simp only [String.toList_append, String.toList_join, List.mem_append, List.mem_flatMap,
    List.mem_replicate] at hc
  rcases hc with hc | ⟨_, ⟨_, rfl⟩, hc⟩
  case inl => exact List.mem_singleton.mp hc ▸ rfl
  case inr => exact hu c hc

theorem calm_render {ls : List Line} (hu : ∀ c ∈ unit.toList, Text.isBlank c)
    (ht : v.Calm false text) (h : ∀ l ∈ ls, v.Calm false l.text) :
    v.Calm false (text ++ String.join (ls.map fun l => "\n" ++ l.render unit)) := by
  induction ls generalizing text
  case nil          => simpa using ht
  case cons l ls hi =>
    obtain ⟨hl, hls⟩ := List.forall_mem_cons.mp h
    have hb := hi (ht.between (separates_break hu l.depth) hl) hls
    simpa [Line.render, String.append_assoc] using hb

theorem Script.calm_emit {s : Script} (hv : v.curly = false) (hn : names.Tame v)
    (he : ∀ slot ∈ s.layout, ∀ e ∈ slot.role.written, e.Tame v)
    (hu : ∀ c ∈ unit.toList, Text.isBlank c) (h : s.emit names unit = .ok text) :
    v.Calm false text := by
  obtain ⟨header, ls, hh, rfl, hs⟩ := emit_renders h
  have hid : v.Calm false ("// " ++ toString s.id.toInt) :=
    .behind rfl (.of_separates (Text.separates_toString_int _))
  have hlines : ∀ l ∈ ls, v.Calm false l.text :=
    forall_of_forall₂ (fun slot hm l hl => hl.text.calm hv hn (he slot hm)) hs
  exact (calm_render hu (hid.between rfl (calm_signature hn hh)) hlines).then_separator rfl

end Lines

-- How arithmetic is read: it is announced where it does not stand inside of other arithmetic.
theorem Expression.reads_calc_iff {op : Opcode} {symbol : String} {types : List Ty}
    {es : List Expression} {inCalc : Bool} (h : op.calcSymbol? = some symbol) :
    (Expression.op op types es).Reads names inCalc text ↔
      ∃ l r a b, es = [l, r] ∧ l.Reads names true a ∧ r.Reads names true b ∧
        text = (if inCalc then "" else "calc") ++ ("(" ++ a ++ " " ++ symbol ++ " " ++ b ++ ")") := by
  have hf := Opcode.form_eq_calc_iff.mpr h
  rw [reads_op_iff]
  constructor
  case mp  =>
    intro hs
    cases hs
    case «calc» s e a f b hf' ha hb =>
      obtain rfl : s = symbol := by simpa [hf] using hf'.symm
      exact ⟨e, f, a, b, rfl, ha, hb, rfl⟩
    all_goals simp_all
  case mpr =>
    rintro ⟨l, r, a, b, rfl, ha, hb, rfl⟩
    exact .calc hf ha hb

-- Arithmetic is announced once, where it begins.
theorem Script.emit_announces {s : Script} (h : s.emit names unit = .ok text) :
    (∃ header ls, s.signature names = .ok header ∧
      text = "// " ++ toString s.id.toInt ++ "\n" ++ header ++
        String.join (ls.map fun l => "\n" ++ l.render unit) ++ "\n" ∧
      Forall₂ (Slot.Shows names) s.layout ls) ∧
    (∀ (op : Opcode) (symbol : String), op.calcSymbol? = some symbol →
      ∀ types es inCalc t, (Expression.op op types es).Reads names inCalc t ↔
        ∃ l r a b, es = [l, r] ∧ l.Reads names true a ∧ r.Reads names true b ∧
          t = (if inCalc then "" else "calc") ++ ("(" ++ a ++ " " ++ symbol ++ " " ++ b ++ ")")) ∧
    (∀ d e, d ∈ e.parts ↔ ∃ path, e = inside path d) ∧
    (∀ path d inCalc t, d.constant? = none → (inside path d).Reads names inCalc t →
      ((∀ f ∈ path, ¬f.Silent) → ∃ front back, ∀ e u, e.constant? = none →
        ((inside path e).Reads names inCalc u ↔
          ∃ r, e.Reads names (inCalc || path.any Frame.isCalc) r ∧ u = front ++ r ++ back)) ∧
      ((∃ f ∈ path, f.Silent) → ∀ e, (inside path e).Reads names inCalc t)) ∧
    ((∀ slot ∈ s.layout, ∀ e ∈ slot.role.written, ∀ c t, .const c ∈ e.parts → c.text? = some t →
        '(' ∉ t.toList ∧ ')' ∉ t.toList) →
      (∀ kind id name, names kind id = some name →
        '(' ∉ name.toList ∧ ')' ∉ name.toList ∧ ¬"calc".toList <:+: name.toList) →
      (∀ c ∈ unit.toList, Text.isBlank c) →
      ∀ a b c, text.toList = a ++ "calc(".toList ++ b ++ "calc(".toList ++ c →
        ∃ closed, closed <+: b ∧ closed.count '(' < closed.count ')') := by
  refine ⟨emit_renders h, ?announced, fun d e => Expression.mem_parts_iff, ?places, ?flat⟩
  case announced => exact fun op symbol hs types es inCalc t => Expression.reads_calc_iff hs
  case places    =>
    intro path d inCalc t hd ht
    exact ⟨fun hp => Expression.reads_inside_iff hp hd ht,
      fun hs e => Expression.reads_inside_of_silent hs ht⟩
  case flat      =>
    intro he hn hu a b c ht
    have quiet {t : String} (hl : '(' ∉ t.toList) (hr : ')' ∉ t.toList) :
        Sight.Quiet ⟨false, true⟩ t.toList := fun c hc =>
      ⟨fun h => hl (h ▸ hc), fun h => hr (h ▸ hc), nofun⟩
    have hv : names.Tame ⟨false, true⟩ :=
      ⟨fun kind id name hk => quiet (hn kind id name hk).left (hn kind id name hk).right.left,
        fun _ kind id name hk => (hn kind id name hk).right.right⟩
    have hs : Sight.Calm ⟨false, true⟩ false text := by
      refine calm_emit rfl hv (fun slot hm e hw c t hc ht => ?_) hu h
      exact quiet (he slot hm e hw c t hc ht).left (he slot hm e hw c t hc ht).right
    have split : a ++ "calc(".toList ++ b ++ "calc(".toList ++ c =
        a ++ mark ++ '(' :: (b ++ mark ++ '(' :: c) := by simp [mark]
    exact Sight.exists_closed rfl (split ▸ ht ▸ hs.nest)

def Script.scaling : Script where
  id      := 9
  returns := [.int, .int]
  body    :=
    let number (n : Int32) := Expression.const ⟨.int, .int n⟩
    let sum := Expression.op ⟨4000⟩ [.int] [number 1, number 2]
    let product := Expression.op ⟨4002⟩ [.int] [sum, number 3]
    let difference := Expression.op ⟨4001⟩ [.int] [number 4, number 5]
    .last (.seq [.ret (.compound [product, difference])])

theorem Script.scaling_announces :
    Script.scaling.emit Names.unknown "  " =
      .ok "// 9\nscript9()(int, int)\nreturn(calc((1 + 2) * 3), calc(4 - 5));\n" ∧
    ∃ closed, closed <+: "(1 + 2) * 3), ".toList ∧ closed.count '(' < closed.count ')' := by
  have h : Script.scaling.emit Names.unknown "  " =
      .ok "// 9\nscript9()(int, int)\nreturn(calc((1 + 2) * 3), calc(4 - 5));\n" := rfl
  have numbers : ((Script.scaling.layout.flatMap (·.role.written)).flatMap Expression.parts).all
      fun e => (e.constant?.bind Constant.text?).isNone := rfl
  obtain ⟨_, _, _, _, hflat⟩ := Script.emit_announces h
  refine ⟨h, hflat (fun slot hm e hw c t hc ht => ?_) (fun _ _ _ hk => ?_)
    (List.all_eq_true.mp rfl) "// 9\nscript9()(int, int)\nreturn(".toList _ "4 - 5));\n".toList rfl⟩
  case refine_1 =>
    have hn := List.all_eq_true.mp numbers _
      (List.mem_flatMap_of_mem (List.mem_flatMap_of_mem hm hw) hc)
    simp [Expression.constant?, ht] at hn
  case refine_2 => cases hk

end ClientScript
