import ClientScript.Proofs.Emission.Bracketing
import ClientScript.Proofs.Emission.Context
import ClientScript.Proofs.Emission.Rendering

namespace ClientScript

open List (Forall₂)
open Expression (Reads Renderable inside)

-- How a constant comes into a text.
inductive Use
  | literal    -- by the spelling of its type
  | inlined    -- as a piece of a joined text
  | callee     -- as the id of a script that is invoked or called back
  | count      -- as the number of triggers
  | flag       -- as the choice of the dotted component
  | component  -- as the created component of a hook
  deriving DecidableEq, Repr

-- What is known of a constant that comes into a text. Its type has a say only where it is spelled, and
-- of a created component nothing is asked.
def Use.Holds : Use → Constant → Prop
  | literal,   c => c.text?.isSome ↔ c.ty = .string
  | inlined,   c => c.text?.isSome
  | callee,    c => c.int?.isSome
  | count,     c => c.int?.isSome
  | flag,      c => c.int?.isSome
  | component, _ => True

-- An operation takes the value of a constant and does not spell it. The other arguments stand in front
-- of it and behind it.
inductive Opcode.Takes (op : Opcode) : Use → List Expression → Constant → List Expression → Prop
  | piece {c : Constant} {before after} (form : op.form = .join) (text : c.text?.isSome) :
    op.Takes .inlined before c after
  | invoked {c : Constant} {after} (form : op.form = .invoke) : op.Takes .callee [] c after
  | callback {c : Constant} {target between component} (form : op.form = .hook target) :
    op.Takes .callee [] c (between ++ [component])
  | count {k c : Constant} {target id before component} (form : op.form = .hook target)
    (callee : k.int? = some id) (ne : id ≠ -1) : op.Takes .count (.const k :: before) c [component]
  | created {c : Constant} {before} (form : op.form = .hook .created) :
    op.Takes .component before c []
  | flag {c : Constant} {before} (form : op.form = .dotCall) : op.Takes .flag before c []

inductive Expression.Contributes : Expression → Use → Constant → Prop
  | literal {c} : Contributes (.const c) .literal c
  | taken {op ts before after use c} (takes : Opcode.Takes op use before c after) :
    Contributes (.op op ts (before ++ .const c :: after)) use c
  | written {op ts es written e use c} (writes : Opcode.Writes op es written) (mem : e ∈ written)
    (contributes : Contributes e use c) : Contributes (.op op ts es) use c
  | element {es e use c} (mem : e ∈ es) (contributes : Contributes e use c) :
    Contributes (.compound es) use c

def Script.Contributes (s : Script) (use : Use) (c : Constant) : Prop :=
  ∃ slot ∈ s.layout, ∃ e ∈ slot.role.written, e.Contributes use c

theorem Callback.unique {es ws ws' : List Expression} (h : Callback es ws) (h' : Callback es ws') :
    ws = ws' := by
  cases h
  case null c es hc                     =>
    cases h'
    case null => rfl
    case call => simp_all
  case call c k id n as ts hc hid hk hn =>
    generalize he : Expression.const c :: (as ++ ts ++ [.const k]) = es at h'
    cases h'
    case null hc' =>
      obtain rfl := Expression.const.inj (List.cons.inj he).left
      simp_all
    case call     => exact (List.append_inj' (List.cons.inj he).right rfl).left

theorem Opcode.Writes.unique {op : Opcode} {es ws ws' : List Expression} (h : op.Writes es ws)
    (h' : op.Writes es ws') : ws = ws' := by
  generalize he : es = es' at h'
  cases h
  case created hc =>
    cases h'
    case created hc' =>
      obtain ⟨rfl, -⟩ := List.append_inj' he rfl
      exact hc.unique hc'
    all_goals simp_all [Form.arity?]
  case named hc   =>
    cases h'
    case named hc' =>
      obtain ⟨rfl, hl⟩ := List.append_inj' he rfl
      rw [(List.cons.inj hl).left, hc.unique hc']
    all_goals simp_all [Form.arity?]
  all_goals cases h'
  case invoke.invoke   => exact (List.cons.inj he).right
  case dotCall.dotCall => exact (List.append_inj' he rfl).left
  all_goals simp_all [Form.arity?]

variable {names : Names} {inCalc : Bool} {before after : List Expression} {c : Constant} {use : Use}
variable {text : String}

theorem CallbackReads.retype {es : List Expression}
    (h : CallbackReads names inCalc (.const c :: es) text) (ty : Ty) :
    c.int?.isSome ∧ CallbackReads names inCalc (.const { c with ty } :: es) text := by
  cases h
  case null hc                  => exact ⟨by simp [hc], .null hc⟩
  case call hid hk hn ha ht hc => exact ⟨by simp [hc], .call hc hid hk hn ha ht⟩

theorem CallbackReads.retype_last {k : Constant} {id : Int32}
    (h : CallbackReads names inCalc (.const k :: (before ++ [.const c])) text)
    (hk : k.int? = some id) (hid : id ≠ -1) (ty : Ty) :
    c.int?.isSome ∧ CallbackReads names inCalc (.const k :: (before ++ [.const { c with ty }])) text := by
  generalize he : Expression.const k :: (before ++ [.const c]) = es at h
  cases h
  case null hc                 =>
    obtain rfl := Expression.const.inj (List.cons.inj he).left
    simp_all
  case call hi hid hn hl ha ht =>
    obtain ⟨hk, he⟩ := List.cons.inj he
    obtain ⟨rfl, hc⟩ := List.append_inj' he rfl
    obtain rfl := Expression.const.inj hk
    obtain rfl := Expression.const.inj (List.cons.inj hc).left
    exact ⟨by simp [hn], .call hi hid hn hl ha ht⟩

theorem Opcode.Takes.retype {op : Opcode} (h : op.Takes use before c after)
    (ht : op.Says names inCalc (before ++ .const c :: after) text) (ty : Ty) :
    use.Holds c ∧ op.Says names inCalc (before ++ .const { c with ty } :: after) text := by
  cases h
  case piece hf hc     =>
    refine ⟨hc, ?_⟩
    generalize he : before ++ .const c :: after = es at ht
    cases ht
    case join hr =>
      obtain ⟨us, s, vs, rfl, hs, hr⟩ := exists_forall₂_hole (he ▸ hr)
      cases hs
      case text ht    => exact .join hf (hr _ _ (.text ht))
      case other hn _ => simp_all [Expression.constant?]
    all_goals simp_all
  case invoked hf      =>
    generalize he : [] ++ .const c :: after = es at ht
    cases ht
    case invoke hg hc hr =>
      obtain ⟨hk, rfl⟩ := List.cons.inj he
      obtain rfl := Expression.const.inj hk
      exact ⟨by simp [hc, Use.Holds], .invoke hf hc hr⟩
    all_goals simp_all
  case callback hf     =>
    rw [List.nil_append, ← List.cons_append] at ht ⊢
    obtain ⟨word, t, dot, tail, hw, hr, hk, rfl⟩ := (says_hook_append_iff hf).mp ht
    obtain ⟨hc, hr⟩ := hr.retype ty
    exact ⟨hc, (says_hook_append_iff hf).mpr ⟨word, t, dot, tail, hw, hr, hk, rfl⟩⟩
  case count hf hk hid =>
    rw [List.append_cons] at ht ⊢
    obtain ⟨word, t, dot, tail, hw, hr, hd, rfl⟩ := (says_hook_append_iff hf).mp ht
    obtain ⟨hc, hr⟩ := hr.retype_last hk hid ty
    exact ⟨hc, (says_hook_append_iff hf).mpr ⟨word, t, dot, tail, hw, hr, hd, rfl⟩⟩
  case created hf      =>
    obtain ⟨word, t, dot, tail, hw, hr, hk, rfl⟩ := (says_hook_append_iff hf).mp ht
    refine ⟨trivial, (says_hook_append_iff hf).mpr ⟨word, t, dot, tail, hw, hr, ?_, rfl⟩⟩
    cases hk
    case dotted hc  => exact .dotted hc
    case created hc => exact .created hc
  case flag hf         =>
    generalize he : before ++ [.const c] = es at ht
    cases ht
    case dotCall hg hn hc hr =>
      obtain ⟨rfl, hk⟩ := List.append_inj' he rfl
      obtain rfl := Expression.const.inj (List.cons.inj hk).left
      exact ⟨by simp [hc, Use.Holds], .dotCall hf hn hc hr⟩
    all_goals simp_all

theorem Constant.text?_isSome_iff_of_isSpelled {c : Constant} (h : c.IsSpelled) :
    c.text?.isSome ↔ c.ty = .string := by
  cases hp : c.payload <;> simp_all [IsSpelled, text?]

namespace Expression

-- The induction is on how the constant comes into the text.
theorem Contributes.holds {e : Expression} (h : e.Contributes use c) (hr : e.Renderable) :
    use.Holds c := by
  induction h
  case literal            =>
    cases hr
    case const hs => exact Constant.text?_isSome_iff_of_isSpelled hs
  case taken c ht         =>
    obtain ⟨t, hr⟩ : Succeeds (text Names.unknown false _) := succeeds_text.mpr hr
    exact (ht.retype (reads_op_iff.mp hr) c.ty).left
  case written hw he _ hi =>
    cases hr
    case op hs hw' => exact hi (hs _ (hw.unique hw' ▸ he))
  case element he _ hi =>
    cases hr
    case compound hs => exact hi (hs _ he)

theorem reads_retype {path : List Frame} {op : Opcode} {ts : List Ty} (h : op.Takes use before c after)
    (hr : (inside path (.op op ts (before ++ .const c :: after))).Reads names inCalc text) (ty : Ty) :
    (inside path (.op op ts (before ++ .const { c with ty } :: after))).Reads names inCalc text :=
  reads_inside_congr rfl rfl
    (fun _ _ ht => reads_op_iff.mpr (h.retype (reads_op_iff.mp ht) ty).right) hr

end Expression

theorem Role.Renders.reads {role : Role} {e : Expression} (h : role.Renders names text)
    (he : e ∈ role.written) : ∃ t, e.Reads names false t := by
  cases h
  case assign hr => exact ⟨_, List.mem_singleton.mp he ▸ hr⟩
  case ret hr    => exact exists_of_forall₂ hr e he
  case loop hr   => exact ⟨_, List.mem_singleton.mp he ▸ hr⟩
  case branch hr => exact ⟨_, List.mem_singleton.mp he ▸ hr⟩
  case switch hr => exact ⟨_, List.mem_singleton.mp he ▸ hr⟩
  all_goals cases he

namespace Script

variable {s : Script} {unit : String}

theorem exists_reads_of_emit (h : s.emit names unit = .ok text) :
    ∀ slot ∈ s.layout, ∀ e ∈ slot.role.written, ∃ t, e.Reads names false t := by
  obtain ⟨_, _, _, _, hs⟩ := emit_renders h
  intro slot hm e he
  obtain ⟨_, hl⟩ := exists_of_forall₂ hs slot hm
  exact hl.text.reads he

-- What is known of the constants in a text. A literal holds text if its type is the one of texts, and
-- only then. For a constant that is taken it is only known whether it holds text or a number: its type
-- may say the opposite, and with any other type in its place the text is the same.
theorem emit_payloads (h : s.emit names unit = .ok text) :
    (∀ use c, s.Contributes use c → use.Holds c) ∧
    ∀ slot ∈ s.layout, ∀ e ∈ slot.role.written, ∃ t, e.Reads names false t ∧
      ∀ path op ts before use c after, op.Takes use before c after →
        e = inside path (.op op ts (before ++ .const c :: after)) → ∀ ty,
          (inside path (.op op ts (before ++ .const { c with ty } :: after))).Reads names false t := by
  constructor
  case left  =>
    rintro use c ⟨slot, hs, e, he, hc⟩
    obtain ⟨_, hr⟩ := exists_reads_of_emit h slot hs e he
    exact hc.holds (Expression.succeeds_text.mp ⟨_, hr⟩)
  case right =>
    intro slot hs e he
    obtain ⟨t, hr⟩ := exists_reads_of_emit h slot hs e he
    refine ⟨t, hr, ?_⟩
    rintro path op ts before use c after ht rfl ty
    exact Expression.reads_retype ht hr ty

end Script

def mistyped : Script where
  id   := 5
  body :=
    .last (.seq [
      .assign [] (.op ⟨37⟩ [.string] [.const ⟨.int, .text "a"⟩, .const ⟨.int, .int 1⟩]),
      .assign [] (.op ⟨40⟩ [] [.const ⟨.string, .int 7⟩])])

theorem Script.emit_payloads_mistyped :
    mistyped.emit Names.unknown "  " = .ok "// 5\nscript5\n\"a<1>\";\n~script7;\n" ∧
    (mistyped.Contributes .inlined ⟨.int, .text "a"⟩ ∧ Use.inlined.Holds ⟨.int, .text "a"⟩) ∧
    (mistyped.Contributes .callee ⟨.string, .int 7⟩ ∧ Use.callee.Holds ⟨.string, .int 7⟩) ∧
    (mistyped.Contributes .literal ⟨.int, .int 1⟩ ∧ Use.literal.Holds ⟨.int, .int 1⟩) ∧
    ∀ ty, (Expression.op ⟨40⟩ [] [.const ⟨ty, .int 7⟩]).Reads Names.unknown false "~script7" := by
  have h : mistyped.emit Names.unknown "  " = .ok "// 5\nscript5\n\"a<1>\";\n~script7;\n" := rfl
  have hj : (Opcode.mk 37).form = .join := rfl
  have hi : (Opcode.mk 40).form = .invoke := rfl
  obtain ⟨holds, retype⟩ := Script.emit_payloads h
  have piece : mistyped.Contributes .inlined ⟨.int, .text "a"⟩ :=
    ⟨_, .head _, _, .head _, @Expression.Contributes.taken _ _ [] _ _ _ (.piece hj rfl)⟩
  have callee : mistyped.Contributes .callee ⟨.string, .int 7⟩ :=
    ⟨_, .tail _ (.head _), _, .head _, @Expression.Contributes.taken _ _ [] _ _ _ (.invoked hi)⟩
  have literal : mistyped.Contributes .literal ⟨.int, .int 1⟩ :=
    ⟨_, .head _, _, .head _, .written (.join hj) (.head _) .literal⟩
  refine ⟨h, ⟨piece, holds _ _ piece⟩, ⟨callee, holds _ _ callee⟩, ⟨literal, holds _ _ literal⟩,
    fun ty => ?_⟩
  obtain ⟨t, ht, hr⟩ := retype _ (.tail _ (.head _)) _ (.head _)
  obtain rfl : t = "~script7" := Expression.reads_unique ht rfl
  exact hr [] _ _ [] _ _ _ (.invoked hi) rfl ty

end ClientScript
