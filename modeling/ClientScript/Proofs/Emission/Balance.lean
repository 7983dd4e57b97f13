import ClientScript.Proofs.Emission.Bracketing
import ClientScript.Proofs.Emission.Emittable

namespace ClientScript

open List (Forall₂)

namespace Text

def isBracket (c : Char) : Bool :=
  ['(', ')', '\x7b', '\x7d'].contains c

def bracketsOf (s : String) : List Char :=
  s.toList.filter isBracket

-- Words of brackets in which every bracket that opens is closed by one of its own kind, in the order of
-- nesting.
inductive Balanced : List Char → Prop
  | nil : Balanced []
  | round (first : Balanced xs) (rest : Balanced ys) : Balanced ('(' :: xs ++ ')' :: ys)
  | curly (first : Balanced xs) (rest : Balanced ys) : Balanced ('\x7b' :: xs ++ '\x7d' :: ys)

theorem Balanced.append (hx : Balanced xs) (hy : Balanced ys) : Balanced (xs ++ ys) := by
  induction hx
  case nil             => exact hy
  case round hf _ _ hi => simpa using round hf hi
  case curly hf _ _ hi => simpa using curly hf hi

theorem bracketsOf_append (s t : String) : bracketsOf (s ++ t) = bracketsOf s ++ bracketsOf t := by
  rw [bracketsOf, String.toList_append, List.filter_append]
  rfl

theorem bracketsOf_join (ss : List String) :
    bracketsOf (String.join ss) = ss.flatMap bracketsOf := by
  rw [bracketsOf, String.toList_join, List.filter_flatMap]
  rfl

@[simp]
theorem bracketsOf_empty : bracketsOf "" = [] :=
  rfl

@[simp]
theorem bracketsOf_leftCurly : bracketsOf "\x7b" = ['\x7b'] :=
  rfl

@[simp]
theorem bracketsOf_rightCurly : bracketsOf "\x7d" = ['\x7d'] :=
  rfl

def Bracket.char : Bracket → Char
  | left       => '('
  | marked     => '('
  | right      => ')'
  | leftCurly  => '\x7b'
  | rightCurly => '\x7d'

theorem Nest.balanced {bs : List Bracket} (h : Nest inside bs) : Balanced (bs.map Bracket.char) := by
  induction h
  case nil          => exact .nil
  case round hf hr  => simpa [Bracket.char] using Balanced.round hf hr
  case marked hf hr => simpa [Bracket.char] using Balanced.round hf hr
  case curly hf hr  => simpa [Bracket.char] using Balanced.curly hf hr

namespace Sight

variable {v : Sight} {before cs : List Char}

theorem map_char_brackets (hv : v.curly) :
    (v.brackets before cs).map Bracket.char = cs.filter isBracket := by
  induction cs generalizing before
  case nil          => rfl
  case cons c cs hi =>
    rw [brackets, List.map_append, hi, List.filter_cons]
    have hc : (v.bracket? before c).toList.map Bracket.char = [c].filter isBracket := by
      rw [bracket?]
      split_ifs <;> simp_all [isBracket, Bracket.char]
    rw [hc, List.filter_cons]
    split <;> rfl

theorem Calm.balanced {s : String} (hv : v.curly) (h : v.Calm inside s) :
    Balanced (bracketsOf s) := by
  rw [bracketsOf, ← @map_char_brackets v [] _ hv]
  exact h.nest.balanced

theorem quiet_of_bracketsOf {s : String} (h : bracketsOf s = []) : v.Quiet s.toList := by
  intro c hc
  have hb := List.filter_eq_nil_iff.mp h c hc
  simp_all [isBracket]

end Sight
end Text

open Text (Balanced bracketsOf Sight)

-- The brackets of the lines in some slots. The roles of the slots fix those at the edges of the lines,
-- and all the others are in order.
inductive Bracketing : List Slot → List Char → Prop
  | nil : Bracketing [] []
  | cons (middle : Balanced ms) (rest : Bracketing slots w) :
    Bracketing (s :: slots)
      (bracketsOf s.role.front ++ ms ++ bracketsOf s.role.back ++ w)

namespace Bracketing

variable {slots ss ts : List Slot} {w : List Char}

theorem exists_append (h : Bracketing (ss ++ ts) w) :
    ∃ u v, w = u ++ v ∧ Bracketing ss u ∧ Bracketing ts v := by
  induction ss generalizing w
  case nil          => exact ⟨[], w, rfl, .nil, h⟩
  case cons s ss hi =>
    cases h
    case cons hm hr =>
      obtain ⟨u, v, rfl, hu, hv⟩ := hi hr
      exact ⟨_, v, by simp only [List.append_assoc], .cons hm hu, hv⟩

theorem exists_cons (h : Bracketing (⟨depth, role⟩ :: ss) w) :
    ∃ ms u, w = bracketsOf role.front ++ ms ++ bracketsOf role.back ++ u ∧ Balanced ms ∧
      Bracketing ss u := by
  cases h
  case cons ms u hm hr => exact ⟨ms, u, rfl, hm, hr⟩

theorem eq_nil (h : Bracketing [] w) : w = [] := by
  cases h
  rfl

end Bracketing

theorem Bracketing.balanced_run {is : List Instruction}
    (h : Bracketing (is.map fun i => ⟨depth, .statement i⟩) w) : Balanced w := by
  induction is generalizing w
  case nil          => exact h.eq_nil ▸ .nil
  case cons i is hi =>
    obtain ⟨ms, u, rfl, hm, hr⟩ := h.exists_cons
    simpa [Role.front, Role.back] using hm.append (hi hr)

-- The line that closes a block.
theorem Bracketing.exists_close (h : Bracketing [⟨depth, .close⟩] w) :
    ∃ ms, w = '\x7d' :: ms ∧ Balanced ms := by
  obtain ⟨ms, u, rfl, hm, hr⟩ := h.exists_cons
  obtain rfl := hr.eq_nil
  exact ⟨ms, by simp [Role.front, Role.back], hm⟩

mutual

theorem Chain.balanced : (c : Chain) → ∀ {depth w}, c.Emittable → Bracketing (c.layout depth) w →
    Balanced w
  | .last c,      _, _, h, hw => c.balanced h hw
  | .link c rest, _, _, h, hw => by
    obtain ⟨u, v, rfl, hu, hv⟩ := hw.exists_append
    exact (c.balanced h.left hu).append (rest.balanced h.right hv)

theorem Construct.balanced : (c : Construct) → ∀ {depth w}, c.Emittable →
    Bracketing (c.layout depth) w → Balanced w
  | .seq _,       _, _, _, hw => hw.balanced_run
  | .cond bs,     _, _, h, hw => by
    obtain ⟨u, v, rfl, hu, hv⟩ := hw.exists_append
    obtain ⟨ms, rfl, hm⟩ := hv.exists_close
    obtain ⟨x, hx, hb⟩ := bs.balanced h.right (fun _ => h.left) hu
    rw [List.append_cons, hx]
    exact hb.append hm
  | .loop c body, _, _, h, hw => by
    obtain ⟨u, v, rfl, hu, hv⟩ := hw.exists_append
    obtain ⟨ms, x, rfl, hm, hx⟩ := hu.exists_cons
    obtain ⟨ns, rfl, hn⟩ := hv.exists_close
    simpa [Role.front, Role.back] using hm.append (.curly (body.balanced h.right hx) hn)
  | .switch e cs, _, _, h, hw => by
    obtain ⟨_, ty, _, hc⟩ := h
    obtain ⟨u, v, rfl, hu, hv⟩ := hw.exists_append
    obtain ⟨ms, x, rfl, hm, hx⟩ := hu.exists_cons
    obtain ⟨ns, rfl, hn⟩ := hv.exists_close
    simpa [Role.front, Role.back] using hm.append (.curly (cs.balanced hc hx) hn)

-- The bracket behind some branches closes the last one of them.
theorem Branches.balanced : (bs : Branches) → ∀ {depth first w}, bs.Emittable →
    (first = true → bs.hasBranch) → Bracketing (bs.layout depth first) w →
    ∃ u, w ++ ['\x7d'] = (if first then [] else ['\x7d']) ++ u ∧ Balanced u
  | .done,               _, first, _, _, hf, hw => by
    obtain rfl := hw.eq_nil
    cases first
    case false => exact ⟨[], rfl, .nil⟩
    case true  => exact absurd (hf rfl) Bool.false_ne_true
  | .otherwise body,     _, first, _, h, hf, hw => by
    obtain ⟨ms, x, rfl, hm, hx⟩ := hw.exists_cons
    cases first
    case false =>
      exact ⟨_, by simp [Role.front, Role.back], hm.append (.curly (body.balanced h hx) .nil)⟩
    case true  => exact absurd (hf rfl) Bool.false_ne_true
  | .branch _ body rest, _, first, _, h, _,  hw => by
    obtain ⟨u, v, rfl, hu, hv⟩ := hw.exists_append
    obtain ⟨ms, x, rfl, hm, hx⟩ := hu.exists_cons
    obtain ⟨y, hy, hb⟩ := rest.balanced h.right.right (by simp) hv
    refine ⟨_, ?_, hm.append (.curly (body.balanced h.right.left hx) hb)⟩
    cases first <;> simp_all [Role.front, Role.back]

theorem Cases.balanced : (cs : Cases) → ∀ {depth e ty w}, cs.Emittable ty →
    Bracketing (cs.layout depth e) w → Balanced w
  | .done,             _, _, _, _, _, hw => hw.eq_nil ▸ .nil
  | .otherwise body,   _, _, _, _, h, hw => by
    obtain ⟨ms, x, rfl, hm, hx⟩ := hw.exists_cons
    simpa [Role.front, Role.back] using hm.append (body.balanced h hx)
  | .case _ body rest, _, _, _, _, h, hw => by
    obtain ⟨u, v, rfl, hu, hv⟩ := hw.exists_append
    obtain ⟨ms, x, rfl, hm, hx⟩ := hu.exists_cons
    obtain ⟨_, _, hb, hr⟩ := h
    simpa [Role.front, Role.back] using hm.append ((body.balanced hb hx).append (rest.balanced hr hv))

end

theorem Item.balanced {i : Item} (h : i.Emittable) (hw : Bracketing (i.layout depth) w) :
    Balanced w := by
  cases i
  case instruction i =>
    have hw : Bracketing ([i].map fun i => ⟨depth, .statement i⟩) w := hw
    exact hw.balanced_run
  case block c       => exact c.balanced h hw

theorem Bracketing.balanced_items {is : List Item} (h : ∀ i ∈ is, i.Emittable)
    (hw : Bracketing (is.flatMap (Item.layout depth)) w) : Balanced w := by
  induction is generalizing w
  case nil          => exact hw.eq_nil ▸ .nil
  case cons i is hi =>
    obtain ⟨h, his⟩ := List.forall_mem_cons.mp h
    obtain ⟨u, v, rfl, hu, hv⟩ := hw.exists_append
    exact (i.balanced h hu).append (hi his hv)

section Texts

variable {v : Sight} {names : Names} {unit text : String}

theorem bracketing_of_shows {slots : List Slot} {ls : List Line} (hv : v.curly)
    (hn : names.Tame v) (he : ∀ s ∈ slots, ∀ e ∈ s.role.written, e.Tame v)
    (h : Forall₂ (Slot.Shows names) slots ls) :
    Bracketing slots (ls.flatMap fun l => bracketsOf l.text) := by
  induction h
  case nil           => exact .nil
  case cons hl _ hi  =>
    obtain ⟨he, hes⟩ := List.forall_mem_cons.mp he
    obtain ⟨middle, hm, -, ht⟩ := hl.text.exists_middle hn he
    rw [List.flatMap_cons, ht, Text.bracketsOf_append, Text.bracketsOf_append]
    exact .cons (hm.balanced hv) (hi hes)

theorem bracketsOf_render (hu : bracketsOf unit = []) (l : Line) :
    bracketsOf ("\n" ++ l.render unit) = bracketsOf l.text := by
  have hi : bracketsOf (String.join (List.replicate l.depth unit)) = [] := by
    rw [Text.bracketsOf_join, List.flatMap_eq_nil_iff]
    exact fun s hs => (List.eq_of_mem_replicate hs) ▸ hu
  rw [Line.render, Text.bracketsOf_append, Text.bracketsOf_append, hi]
  rfl

-- Unless names, constant texts or the indentation bring brackets along, all brackets of a script are in
-- order.
theorem Script.emit_balanced {s : Script} (h : s.emit names unit = .ok text)
    (hc : ∀ slot ∈ s.layout, ∀ e ∈ slot.role.written, ∀ c t, .const c ∈ e.parts →
      c.text? = some t → bracketsOf t = [])
    (hn : ∀ kind id name, names kind id = some name → bracketsOf name = [])
    (hu : bracketsOf unit = []) : Balanced (bracketsOf text) := by
  let v : Sight := { curly := true, marks := false }
  have tame : names.Tame v :=
    ⟨fun kind id name hk => Sight.quiet_of_bracketsOf (hn kind id name hk), nofun⟩
  have written : ∀ slot ∈ s.layout, ∀ e ∈ slot.role.written, e.Tame v := fun slot hs e he c t hm ht =>
    Sight.quiet_of_bracketsOf (hc slot hs e he c t hm ht)
  obtain ⟨header, ls, hh, ht, hs⟩ := emit_renders h
  have hid : v.Calm false ("// " ++ toString s.id.toInt) :=
    .behind rfl (.of_separates (Text.separates_toString_int _))
  have first : Balanced (bracketsOf ("// " ++ toString s.id.toInt ++ "\n" ++ header)) :=
    (hid.between rfl (calm_signature tame hh)).balanced rfl
  have lines : Balanced (ls.flatMap fun l => bracketsOf l.text) := by
    refine Bracketing.balanced_items (fun i hi => ?_) (bracketing_of_shows rfl tame written hs)
    have hm : i ∈ s.body.items := items_eq_append ▸ List.mem_append_left _ hi
    exact (emittable_of_emit h).items i hm |>.resolve_left (by simp [not_elides_of_mem_written hi])
  rw [ht, Text.bracketsOf_append, Text.bracketsOf_append, Text.bracketsOf_join, List.flatMap_map]
  simp only [bracketsOf_render hu]
  exact (first.append lines).append .nil

end Texts

def Script.bracing : Script where
  id        := 3
  arguments := [⟨.frame, .int, 0⟩]
  returns   := [.int]
  body      :=
    let number (n : Int32) := Expression.const ⟨.int, .int n⟩
    let value := Expression.var ⟨.frame, .int, 0⟩
    let set := Expression.op ⟨1400⟩ []
      [number 7, .const ⟨.string, .text "a"⟩, value, number 1, number 1]
    let choose := Construct.switch value (.case [1, 2] (.last (.seq [.ret value])) .done)
    .link (.loop (.op ⟨9⟩ [.boolean] [value, number 5]) <| .last <| .cond <|
        .branch value (.last (.seq [.assign [] set])) (.otherwise (.last choose)))
      (.last (.seq [.ret (.op ⟨4000⟩ [.int] [value, number 1])]))

def Script.bracingNames : Names :=
  fun kind _ => if kind = .script then some "[proc,max]" else none

def Script.bracingText : String :=
  "// 3\n[proc,max](int $int0)(int)\nwhile ($int0 < 5) \x7b\n  if $int0 \x7b\n" ++
    "    .cc_setonclick(\"[proc,max](\"a\")\x7b$int0\x7d\");\n  \x7d else \x7b\n" ++
    "    switch_int ($int0) \x7b\n      case 1, 2 :\n        return($int0);\n    \x7d\n  \x7d\n" ++
    "\x7d\nreturn(calc($int0 + 1));\n"

theorem Script.bracing_emit_balanced :
    bracing.emit bracingNames "  " = .ok bracingText ∧
    Balanced (bracketsOf bracingText) := by
  have h : bracing.emit bracingNames "  " = .ok bracingText := by decide +kernel
  have texts : ((bracing.layout.flatMap (·.role.written)).flatMap Expression.parts).all fun e =>
      (e.constant?.bind Constant.text?).all fun t => bracketsOf t = [] := rfl
  refine ⟨h, emit_balanced h (fun slot hm e hw c t hc ht => ?_)
    (fun kind id name hk => ?_) rfl⟩
  case refine_1 =>
    have hb := List.all_eq_true.mp texts _
      (List.mem_flatMap_of_mem (List.mem_flatMap_of_mem hm hw) hc)
    simpa [Expression.constant?, ht] using hb
  case refine_2 =>
    by_cases hs : kind = .script
    case pos => exact Option.some.inj ((if_pos hs).symm.trans hk) ▸ rfl
    case neg => simp [bracingNames, hs] at hk

end ClientScript
