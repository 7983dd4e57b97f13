import ClientScript.Proofs.Emission.Bracketing
import ClientScript.Proofs.Emission.Rendering

namespace ClientScript

open List (Forall₂)

-- The text of a label. It is the one of a constant, but no constant of the type of texts holds a number,
-- and a label of that type is spelled like a plain number.
inductive LabelReads (names : Names) : Ty → Int32 → String → Prop
  | constant (ne : ty ≠ .string) (reads : (Constant.mk ty (.int n)).text names = .ok t) :
    LabelReads names ty n t
  | null : LabelReads names .string (-1) "null"
  | number (ne : n ≠ -1) : LabelReads names .string n (toString n.toInt)

theorem Ty.intText_string {names : Names} {n : Int32} (h : n ≠ -1) :
    string.intText names n = .ok (toString n.toInt) :=
  intText_of_not_keyword (by simpa [keywords] using fun hn => h (Int32.toInt_inj.mp hn)) rfl

theorem labelReads_iff {names : Names} {ty : Ty} {n : Int32} :
    LabelReads names ty n t ↔ ty.intText names n = .ok t := by
  constructor
  case mp  =>
    intro h
    cases h
    case constant hs ht => exact (if_neg hs).symm.trans ht
    case null           => rfl
    case number hn      => exact Ty.intText_string hn
  case mpr =>
    intro h
    by_cases hs : ty = .string
    case neg => exact .constant hs ((if_neg hs).trans h)
    case pos =>
      subst hs
      by_cases hn : n = -1
      case neg => exact Except.ok.inj ((Ty.intText_string hn).symm.trans h) ▸ .number hn
      case pos =>
        subst hn
        exact Except.ok.inj h ▸ .null

namespace Role

def labelled? : Role → Option (Expression × List Int32)
  | case e ns => some (e, ns)
  | _         => none

theorem labelled?_eq_some_iff {role : Role} :
    role.labelled? = some (e, ns) ↔ role = .case e ns := by
  cases role <;> simp [labelled?]

end Role

def casesOf (slots : List Slot) : List (Expression × List Int32) :=
  slots.filterMap (·.role.labelled?)

theorem casesOf_append : casesOf (ss ++ ts) = casesOf ss ++ casesOf ts :=
  List.filterMap_append

theorem casesOf_cons (h : role.labelled? = none) : casesOf (⟨depth, role⟩ :: ss) = casesOf ss :=
  List.filterMap_cons_none h

theorem casesOf_run (is : List Instruction) :
    casesOf (is.map fun i => ⟨depth, .statement i⟩) = [] := by
  induction is
  case nil          => rfl
  case cons i is hi => exact hi

mutual

theorem Chain.casesOf_layout : (c : Chain) → ∀ {depth}, casesOf (c.layout depth) = c.labelled
  | .last c,      _ => c.casesOf_layout
  | .link c rest, _ => by
    rw [Chain.layout, casesOf_append, c.casesOf_layout, rest.casesOf_layout, Chain.labelled]

theorem Construct.casesOf_layout : (c : Construct) → ∀ {depth},
    casesOf (c.layout depth) = c.labelled
  | .seq is,      _ => casesOf_run is
  | .cond bs,     _ => by
    rw [Construct.layout, casesOf_append, bs.casesOf_layout, casesOf_cons rfl]
    exact List.append_nil _
  | .loop c body, _ => by
    rw [Construct.layout, List.cons_append, casesOf_cons rfl, casesOf_append,
      body.casesOf_layout, casesOf_cons rfl]
    exact List.append_nil _
  | .switch e cs, _ => by
    rw [Construct.layout, List.cons_append, casesOf_cons rfl, casesOf_append,
      cs.casesOf_layout, casesOf_cons rfl]
    exact List.append_nil _

theorem Branches.casesOf_layout : (bs : Branches) → ∀ {depth first},
    casesOf (bs.layout depth first) = bs.labelled
  | .done,               _, _ => rfl
  | .otherwise body,     _, _ => body.casesOf_layout
  | .branch c body rest, _, _ => by
    rw [Branches.layout, List.cons_append, casesOf_cons rfl, casesOf_append,
      body.casesOf_layout, rest.casesOf_layout, Branches.labelled]

theorem Cases.casesOf_layout : (cs : Cases) → ∀ {depth e},
    casesOf (cs.layout depth e) = cs.labelled e
  | .done,              _, _ => rfl
  | .otherwise body,    _, _ => body.casesOf_layout
  | .case ns body rest, _, _ => by
    rw [Cases.layout, casesOf_append, rest.casesOf_layout, Cases.labelled]
    exact congrArg (_ :: · ++ _) body.casesOf_layout

end

theorem Construct.layout_eq_flatMap (c : Construct) :
    c.layout depth = c.items.flatMap (Item.layout depth) := by
  cases c
  case seq is =>
    rw [layout, items, List.flatMap_map]
    exact List.map_eq_flatMap
  all_goals exact (List.flatMap_singleton ..).symm

theorem Chain.layout_eq_flatMap : (c : Chain) → ∀ {depth},
    c.layout depth = c.items.flatMap (Item.layout depth)
  | .last c,      _ => c.layout_eq_flatMap
  | .link c rest, _ => by
    rw [Chain.layout, Chain.items, List.flatMap_append, c.layout_eq_flatMap, rest.layout_eq_flatMap]

namespace Script

variable {s : Script} {names : Names} {unit text : String}

theorem casesOf_layout (h : s.unwritten.length ≤ 1) : casesOf s.layout = s.body.labelled := by
  have hu : casesOf (s.unwritten.flatMap (Item.layout 0)) = [] := by
    match hu : s.unwritten with
    | []          => rfl
    | [r]         =>
      obtain ⟨_, value, rfl⟩ := elides_iff.mp (elides_of_unwritten hu)
      rfl
    | _ :: _ :: _ => simp [hu] at h
  rw [← s.body.casesOf_layout, s.body.layout_eq_flatMap, items_eq_append, List.flatMap_append,
    casesOf_append, hu, List.append_nil, layout]

theorem unwritten_length_of_emit (h : s.emit names unit = .ok text) : s.unwritten.length ≤ 1 := by
  obtain ⟨_, _, _, hb, _⟩ := emit_eq_ok_iff.mp h
  exact (bodyLines_eq_ok_iff.mp hb).right

end Script

-- The line of a case is its labels.
theorem Role.Renders.labels {role : Role} {names : Names} {text : String} {e : Expression}
    {ns : List Int32} (h : role.Renders names text) (hr : role = .case e ns) :
    ∃ ty ts, e.types = [ty] ∧ Forall₂ (LabelReads names ty) ns ts ∧
      text = "case " ++ ", ".intercalate ts ++ " :" := by
  subst hr
  cases h
  case case ty ts ht hl =>
    exact ⟨ty, ts, ht, hl.imp fun _ _ h => labelReads_iff.mpr h, rfl⟩

theorem LabelReads.constant_text {names : Names} {ty : Ty} {n : Int32} (h : LabelReads names ty n t)
    (hs : ty ≠ .string) : (Constant.mk ty (.int n)).text names = .ok t := by
  cases h
  case constant ht => exact ht
  all_goals exact absurd rfl hs

namespace Script

variable {s : Script} {names : Names} {unit text : String}

-- What the lines of cases say. Their labels are the ones of all cases in the script, and wherever
-- something else than a text is looked at they are constants of its type.
theorem emit_labels (h : s.emit names unit = .ok text) :
    ∃ header ls, text = "// " ++ toString s.id.toInt ++ "\n" ++ header ++
        String.join (ls.map fun l => "\n" ++ l.render unit) ++ "\n" ∧
      Forall₂ (fun (slot : Slot) (l : Line) => l.depth = slot.depth ∧
        ∀ e ns, slot.role = .case e ns → ∃ ty ts, e.types = [ty] ∧
          Forall₂ (LabelReads names ty) ns ts ∧ l.text = "case " ++ ", ".intercalate ts ++ " :")
        s.layout ls ∧
      casesOf s.layout = s.body.labelled ∧
      ∀ e ns, (e, ns) ∈ s.body.labelled → ∃ ty, e.types = [ty] ∧
        (ty ≠ .string → ∀ n ∈ ns, ∃ t, (Constant.mk ty (.int n)).text names = .ok t) := by
  obtain ⟨header, ls, _, ht, hs⟩ := emit_renders h
  have hc := casesOf_layout (unwritten_length_of_emit h)
  refine ⟨header, ls, ht, hs.imp fun _ _ hl => ⟨hl.depth, fun _ _ hr => hl.text.labels hr⟩, hc, ?_⟩
  intro e ns hm
  rw [← hc] at hm
  obtain ⟨slot, hm, hr⟩ := List.mem_filterMap.mp hm
  obtain ⟨_, hl⟩ := exists_of_forall₂ hs slot hm
  obtain ⟨ty, ts, ht, hl, _⟩ := hl.text.labels (Role.labelled?_eq_some_iff.mp hr)
  refine ⟨ty, ht, fun hs n hn => ?_⟩
  obtain ⟨t, hl⟩ := exists_of_forall₂ hl n hn
  exact ⟨t, hl.constant_text hs⟩

end Script

def matching : Script where
  id   := 6
  body :=
    .link (.switch (.var ⟨.frame, .chattype, 0⟩) (.case [27, 28] (.last (.seq [])) .done))
      (.last (.switch (.const ⟨.string, .text "a"⟩) (.case [5, -1] (.last (.seq [])) .done)))

theorem Script.emit_labels_matching :
    matching.emit Names.unknown "  " =
      .ok ("// 6\nscript6\nswitch_chattype ($chattype0) \x7b\n" ++
        "  case ^chattype_obj_examine, ^chattype_npc_examine :\n\x7d\n" ++
        "switch_string (\"a\") \x7b\n  case 5, null :\n\x7d\n") ∧
    (∃ t, (Constant.mk .chattype (.int 27)).text Names.unknown = .ok t) ∧
    ∃ l : Line, l.depth = 1 ∧ ∃ ts, Forall₂ (LabelReads Names.unknown .string) [5, -1] ts ∧
      l.text = "case " ++ ", ".intercalate ts ++ " :" := by
  have h : matching.emit Names.unknown "  " =
      .ok ("// 6\nscript6\nswitch_chattype ($chattype0) \x7b\n" ++
        "  case ^chattype_obj_examine, ^chattype_npc_examine :\n\x7d\n" ++
        "switch_string (\"a\") \x7b\n  case 5, null :\n\x7d\n") := rfl
  obtain ⟨_, _, _, hs, _, hl⟩ := Script.emit_labels h
  refine ⟨h, ?kind, ?text⟩
  case kind =>
    obtain ⟨ty, ht, hk⟩ := hl (.var ⟨.frame, .chattype, 0⟩) [27, 28] (.head _)
    obtain rfl : Ty.chattype = ty := (List.cons.inj ht).left
    exact hk (by decide) 27 (.head _)
  case text =>
    obtain ⟨l, hd, hl⟩ := exists_of_forall₂ hs ⟨1, .case (.const ⟨.string, .text "a"⟩) [5, -1]⟩
      (.tail _ (.tail _ (.tail _ (.tail _ (.head _)))))
    obtain ⟨ty, ts, ht, hl, he⟩ := hl _ _ rfl
    obtain rfl : Ty.string = ty := (List.cons.inj ht).left
    exact ⟨l, hd, ts, hl, he⟩

end ClientScript
