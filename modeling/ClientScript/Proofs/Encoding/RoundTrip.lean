import ClientScript.Encoding.Reader
import ClientScript.Proofs.Encoding.Shape
import Mathlib.Data.Option.Basic

namespace ClientScript

open Encoding
open Json (Plain)

-- A reader gets a value back from its JSON form exactly if there is room for all levels of it.
def Decodes (read : Nat → Json → Option α) (j : Json) (a : α) : Prop :=
  ∀ room b, read room j = some b ↔ j.depth ≤ room ∧ a = b

section

variable {read : Nat → Json → Option α} {form : α → Json} {as bs : List α}

theorem decodes_readList_nil : Decodes (readList read) (.arr []) [] := by
  intro room b
  cases room <;> simp [readList]

theorem decodes_readList_cons (h : Decodes read j a) (hs : Decodes (readList read) (.arr js) as) :
    Decodes (readList read) (.arr (j :: js)) (a :: as) := by
  intro room b
  cases room
  case zero      => simp [readList]
  case succ room =>
    have hr := hs (room + 1)
    simp only [readList, Json.depth_arr_le_succ] at hr
    simp [readList, List.mapM_cons, Option.bind_eq_some_iff, h room _, hr, and_assoc]

theorem decodes_readList (h : ∀ a ∈ as, Decodes read (form a) a) :
    Decodes (readList read) (.arr (as.map form)) as := by
  induction as
  case nil          => exact decodes_readList_nil
  case cons a as hi =>
    have ⟨ha, has⟩ := List.forall_mem_cons.mp h
    exact decodes_readList_cons ha (hi has)

end

@[simp]
theorem Json.valuesOf_nil : valuesOf key [] = [] :=
  rfl

@[simp]
theorem Json.valuesOf_cons {ms : List (String × Json)} :
    valuesOf key ((k, v) :: ms) = if k = key then v :: valuesOf key ms else valuesOf key ms := by
  rw [valuesOf, List.filterMap_cons]
  split <;> simp_all [valuesOf]

theorem Json.Plain.isHoldable (h : Plain j) : Encoding.isHoldable room j ↔ j.depth ≤ room := by
  simp [Encoding.isHoldable, h.isSound]

theorem int32?_toInt (n : Int32) : int32? (.int n.toInt) = some n := by
  have hl : Int32.minValue.toInt ≤ n.toInt := n.le_toInt
  have hu : n.toInt ≤ Int32.maxValue.toInt := Int.lt_add_one_iff.mp n.toInt_lt
  rw [int32?, if_pos ⟨hl, hu⟩, Int32.ofInt_toInt]

theorem uint32?_toNat (n : UInt32) : uint32? (.int n.toNat) = some n := by
  have hu : (n.toNat : Int) < UInt32.size := Int.ofNat_lt.mpr n.toNat_lt_size
  rw [uint32?, if_pos ⟨Int.natCast_nonneg _, hu⟩, Int.toNat_natCast, UInt32.ofNat_toNat]

theorem uint16?_toNat (n : UInt16) : uint16? (.int n.toNat) = some n := by
  have hu : (n.toNat : Int) < UInt16.size := Int.ofNat_lt.mpr n.toNat_lt_size
  rw [uint16?, if_pos ⟨Int.natCast_nonneg _, hu⟩, Int.toNat_natCast, UInt16.ofNat_toNat]

theorem tagName?_str (h : names.contains s) : tagName? held names (.str s) = some s :=
  if_pos h

theorem Variable.Kind.contains_literal (k : Kind) : (all.map literal).contains k.literal := by
  cases k <;> decide

theorem Variable.Kind.ofLiteral?_literal (k : Kind) : ofLiteral? k.literal = some k := by
  cases k <;> decide

theorem Ty.decodes_toJson (t : Ty) : Decodes (Ty.read held) t.toJson t := by
  intro room b
  simp [Ty.read, toJson, caseName?, ofLiteral?_literal]

theorem Variable.decodes_toJson (v : Variable) : Decodes (Variable.read held) v.toJson v := by
  intro room b
  cases room
  case zero      => simp [Variable.read, toJson]
  case succ room =>
    have ht : ∀ b, Ty.read true room v.ty.toJson = some b ↔ v.ty.toJson.depth ≤ room ∧ v.ty = b :=
      v.ty.decodes_toJson room
    have hk : tagName? held _ (.str v.kind.literal) = _ := tagName?_str v.kind.contains_literal
    simp [Variable.read, Option.bind_eq_some_iff, Option.guard_eq_some', v.plain_toJson.isHoldable]
    simp +contextual [toJson, splitTag?, fields?, field?, hk, Kind.ofLiteral?_literal,
      uint32?_toNat, Option.bind_eq_some_iff, ht]

theorem Payload.read_toJson (p : Payload) : Payload.read p.toJson = some p := by
  cases p
  case int n  => simp [toJson, read, int32?_toInt]
  case text s => rfl

@[simp]
theorem Payload.depth_toJson (p : Payload) : p.toJson.depth = 0 := by
  cases p <;> rfl

theorem Constant.decodes_toJson (c : Constant) : Decodes (Constant.read held) c.toJson c := by
  intro room b
  cases room
  case zero      => simp [Constant.read, toJson]
  case succ room =>
    simp +contextual [Constant.read, toJson, fields?, field?, Payload.read_toJson,
      Option.bind_eq_some_iff, c.ty.decodes_toJson room _]

namespace Expression

theorem parts?_tagged : parts? (tagged tag j) = some (.str tag, j, false) := by
  simp [parts?, tagged]

@[simp]
theorem depth_tagged_le_succ : (tagged tag j).depth ≤ n + 1 ↔ j.depth ≤ n := by
  simp [tagged]

@[simp]
theorem depth_tagged_ne_zero : (tagged tag j).depth ≠ 0 :=
  Json.depth_obj_ne_zero

theorem readAll_eq : readAll held = readList (read held) := by
  funext room j
  cases room <;> cases j <;> simp [readAll, readList]

theorem read_variable :
    read held (room + 1) (tagged "variable" j) = var <$> Variable.read held room j := by
  simp [read, parts?_tagged, caseName?]

theorem read_constant :
    read held (room + 1) (tagged "constant" j) = const <$> Constant.read held room j := by
  simp [read, parts?_tagged, caseName?]

theorem read_operation :
    read held (room + 1) (tagged "operation" j) = id <$> readOperation held room j := by
  simp [read, parts?_tagged, caseName?]

theorem read_compound :
    read held (room + 1) (tagged "compound" j) = compound <$> readList (read held) room j := by
  simp [read, parts?_tagged, caseName?, readAll_eq]

theorem decodes_tagged {reader : Nat → Json → Option α} {f : α → Expression}
    (hr : ∀ room, read held (room + 1) (tagged tag j) = f <$> reader room j)
    (h : Decodes reader j a) : Decodes (read held) (tagged tag j) (f a) := by
  intro room e
  cases room
  case zero      => simp [read]
  case succ room => simp [hr, h room _]

theorem readOperation_obj {code types arguments : Json} :
    readOperation held (room + 1)
        (.obj [("opcode", code), ("types", types), ("arguments", arguments)]) = do
      return op { code := ← uint16? code } (← readList (Ty.read held) room types)
        (← readAll held room arguments) := by
  simp [readOperation, fields?, field?, defaulted]

theorem decodes_readOperation (h : ∀ e ∈ es, Decodes (read held) (toJson e) e) :
    Decodes (readOperation held)
      (.obj [
        ("opcode", .int code.code.toNat),
        ("types", .arr (ts.map Ty.toJson)),
        ("arguments", .arr (es.map toJson))])
      (op code ts es) := by
  intro room b
  cases room
  case zero      => simp [readOperation]
  case succ room =>
    have ht : Decodes (readList (Ty.read held)) (.arr (ts.map Ty.toJson)) ts :=
      decodes_readList fun t _ => t.decodes_toJson
    rw [readOperation_obj, uint16?_toNat, readAll_eq]
    simp [Option.bind_eq_some_iff, decodes_readList h room _, ht room _, and_assoc]

theorem decodes_toJson (e : Expression) : Decodes (read held) e.toJson e := by
  induction e
  case var v            => exact decodes_tagged (fun _ => read_variable) v.decodes_toJson
  case const c          => exact decodes_tagged (fun _ => read_constant) c.decodes_toJson
  case op code ts es hi =>
    rw [toJson, allToJson_eq_map]
    exact decodes_tagged (fun _ => read_operation) (decodes_readOperation hi) (f := id)
  case compound es hi   =>
    rw [toJson, allToJson_eq_map]
    exact decodes_tagged (fun _ => read_compound) (decodes_readList hi)

end Expression

theorem guarded_eq_some_iff {x : Option α} (hp : Plain j)
    (hx : x = some b ↔ j.depth ≤ room ∧ a = b) :
    (do guard (held || isHoldable room j); x) = some b ↔ j.depth ≤ room ∧ a = b := by
  simp only [bind, Option.bind_eq_some_iff, Option.guard_eq_some', Bool.or_eq_true, hp.isHoldable,
    hx]
  constructor
  case mp  => exact fun ⟨_, _, h⟩ => h
  case mpr => exact fun h => ⟨(), .inr h.left, h⟩

theorem Instruction.read_assign {targets value : Json} :
    Instruction.read held (room + 1)
        (.obj [("insn", .str "assignment"), ("definitions", targets), ("expression", value)]) = do
      guard (held || isHoldable (room + 1)
        (.obj [("insn", .str "assignment"), ("definitions", targets), ("expression", value)]))
      return assign (← readList (Variable.read true) room targets)
        (← Expression.read true room value) := by
  simp [Instruction.read, splitTag?, tagName?, fields?, field?, defaulted]

theorem Instruction.read_ret {value : Json} :
    Instruction.read held (room + 1) (.obj [("insn", .str "return"), ("expression", value)]) = do
      guard (held || isHoldable (room + 1)
        (.obj [("insn", .str "return"), ("expression", value)]))
      return ret (← Expression.read true room value) := by
  simp [Instruction.read, splitTag?, tagName?, fields?, field?]

theorem Instruction.decodes_toJson (i : Instruction) :
    Decodes (Instruction.read held) i.toJson i := by
  intro room b
  have hp := i.plain_toJson
  cases room
  case zero => cases i <;> simp [read, toJson]
  case succ room =>
    cases i
    case assign vs value =>
      have hv : Decodes (readList (Variable.read true)) (.arr (vs.map Variable.toJson)) vs :=
        decodes_readList fun v _ => v.decodes_toJson
      rw [toJson] at hp ⊢
      rw [read_assign]
      apply guarded_eq_some_iff hp
      simp [Option.bind_eq_some_iff, hv room _, value.decodes_toJson room _, and_assoc]
    case ret value =>
      rw [toJson] at hp ⊢
      rw [read_ret]
      apply guarded_eq_some_iff hp
      simp [Option.bind_eq_some_iff, value.decodes_toJson room _]

def Optionally (read : Nat → Json → Option α) (room : Nat) (j : Json) : Option (Option α) :=
  optional (read room) (some j)

theorem decodes_null {read : Nat → Json → Option α} : Decodes (Optionally read) .null none := by
  intro room b
  simp [Optionally, Encoding.optional]

theorem decodes_some {read : Nat → Json → Option α} {ms : List (String × Json)}
    (h : Decodes read (.obj ms) a) : Decodes (Optionally read) (.obj ms) (some a) := by
  intro room b
  simp [Optionally, Encoding.optional, h room _]

def Branches.pairs : Branches → List (Expression × Chain)
  | .done               => []
  | .otherwise _        => []
  | .branch c body rest => (c, body) :: rest.pairs

def Branches.elze? : Branches → Option Chain
  | .done            => none
  | .otherwise body  => some body
  | .branch _ _ rest => rest.elze?

def Cases.pairs : Cases → List (List Int32 × Chain)
  | .done              => []
  | .otherwise _       => []
  | .case ns body rest => (ns, body) :: rest.pairs

def Cases.elze? : Cases → Option Chain
  | .done           => none
  | .otherwise body => some body
  | .case _ _ rest  => rest.elze?

theorem Branches.ofList_pairs (bs : Branches) : ofList bs.pairs bs.elze? = bs := by
  cases bs
  case done               => rfl
  case otherwise body     => rfl
  case branch c body rest => exact congrArg (branch c body) rest.ofList_pairs

theorem Cases.ofList_pairs (cs : Cases) : ofList cs.pairs cs.elze? = cs := by
  cases cs
  case done              => rfl
  case otherwise body    => rfl
  case case ns body rest => exact congrArg (case ns body) rest.ofList_pairs

theorem Branches.readAll_eq : Branches.readAll = readList Branches.readOne := by
  funext room j
  cases room <;> cases j <;> simp [Branches.readAll, readList]

theorem Cases.readAll_eq : Cases.readAll = readList Cases.readOne := by
  funext room j
  cases room <;> cases j <;> simp [Cases.readAll, readList]

theorem Branches.decodes_readOne (hc : Decodes (Expression.read true) j c)
    (hb : Decodes (Chain.read true) k body) :
    Decodes Branches.readOne (.obj [("condition", j), ("body", k)]) (c, body) := by
  intro room b
  cases room
  case zero      => simp [Branches.readOne]
  case succ room =>
    simp [Branches.readOne, fields?, field?, Option.bind_eq_some_iff, hc room _, hb room _,
      and_assoc]

theorem Cases.decodes_readOne {ns : List Int32} (hb : Decodes (Chain.read true) k body) :
    Decodes Cases.readOne
      (.obj [("labels", .arr (ns.map fun n => .int n.toInt)), ("body", k)]) (ns, body) := by
  intro room b
  cases room
  case zero      => simp [Cases.readOne]
  case succ room =>
    have hn : Decodes (readList fun _ => int32?) (.arr (ns.map fun n => .int n.toInt)) ns :=
      decodes_readList fun n _ _ _ => by simp [int32?_toInt]
    simp [Cases.readOne, fields?, field?, Option.bind_eq_some_iff, hn room _, hb room _, and_assoc]

theorem Chain.read_seq {is next : Json} :
    Chain.read held (room + 1)
        (.obj [("construct", .str "seq"), ("instructions", is), ("next", next)]) = do
      guard (held || isHoldable (room + 1)
        (.obj [("construct", .str "seq"), ("instructions", is), ("next", next)]))
      return (Construct.seq (← readList (Instruction.read true) room is)).followedBy
        (← Optionally (Chain.read true) room next) := by
  simp [Chain.read, splitTag?, tagName?, fields?, field?, Optionally]

theorem Chain.read_if {branches elze next : Json} :
    Chain.read held (room + 1)
        (.obj [("construct", .str "if"), ("branches", branches), ("elze", elze), ("next", next)]) = do
      guard (held || isHoldable (room + 1)
        (.obj [("construct", .str "if"), ("branches", branches), ("elze", elze), ("next", next)]))
      return (Construct.cond (.ofList (← readList Branches.readOne room branches)
        (← Optionally (Chain.read true) room elze))).followedBy
        (← Optionally (Chain.read true) room next) := by
  simp [Chain.read, splitTag?, tagName?, fields?, field?, Optionally, Branches.readAll_eq]

theorem Chain.read_while {condition body next : Json} :
    Chain.read held (room + 1)
        (.obj [("construct", .str "while"), ("condition", condition), ("body", body),
          ("next", next)]) = do
      guard (held || isHoldable (room + 1)
        (.obj [("construct", .str "while"), ("condition", condition), ("body", body),
          ("next", next)]))
      return (Construct.loop (← Expression.read true room condition)
        (← Chain.read true room body)).followedBy (← Optionally (Chain.read true) room next) := by
  simp [Chain.read, splitTag?, tagName?, fields?, field?, Optionally]

theorem Chain.read_switch {scrutinee cases elze next : Json} :
    Chain.read held (room + 1)
        (.obj [("construct", .str "switch"), ("scrutinee", scrutinee), ("cases", cases),
          ("elze", elze), ("next", next)]) = do
      guard (held || isHoldable (room + 1)
        (.obj [("construct", .str "switch"), ("scrutinee", scrutinee), ("cases", cases),
          ("elze", elze), ("next", next)]))
      return (Construct.switch (← Expression.read true room scrutinee)
        (.ofList (← readList Cases.readOne room cases)
          (← Optionally (Chain.read true) room elze))).followedBy
        (← Optionally (Chain.read true) room next) := by
  simp [Chain.read, splitTag?, tagName?, fields?, field?, Optionally, Cases.readAll_eq]

mutual

theorem Chain.decodes_toJson : (c : Chain) → ∀ {held}, Decodes (Chain.read held) c.toJson c
  | .last c,      _ => c.decodes_members (Chain.last c).plain_toJson decodes_null
  | .link c rest, _ => by
    have hr : Decodes (Optionally (Chain.read true)) rest.toJson (some rest) := by
      have h : Decodes (Chain.read true) rest.toJson rest := rest.decodes_toJson
      cases rest <;> exact decodes_some h
    exact c.decodes_members (Chain.link c rest).plain_toJson hr

theorem Construct.decodes_members : (c : Construct) → ∀ {held n next},
    Plain (.obj (c.members ++ [("next", n)])) → Decodes (Optionally (Chain.read true)) n next →
      Decodes (Chain.read held) (.obj (c.members ++ [("next", n)])) (c.followedBy next)
  | .seq is,      _, _, _, hp, hn => by
    intro room b
    cases room
    case zero      => simp [Chain.read]
    case succ room =>
      have hi : Decodes (readList (Instruction.read true)) (.arr (is.map Instruction.toJson)) is :=
        decodes_readList fun i _ => i.decodes_toJson
      rw [Construct.members, List.cons_append, List.singleton_append] at hp ⊢
      rw [Chain.read_seq]
      apply guarded_eq_some_iff hp
      simp [Option.bind_eq_some_iff, hi room _, hn room _, and_assoc]
  | .cond bs,     _, _, _, hp, hn => by
    intro room b
    cases room
    case zero      => simp [Chain.read]
    case succ room =>
      simp only [Construct.members, List.cons_append, List.nil_append] at hp ⊢
      rw [Chain.read_if]
      apply guarded_eq_some_iff hp
      simp [Option.bind_eq_some_iff, bs.decodes_branches room _, bs.decodes_elze room _, hn room _,
        bs.ofList_pairs, and_assoc]
  | .loop c body, _, _, _, hp, hn => by
    intro room b
    cases room
    case zero      => simp [Chain.read]
    case succ room =>
      have hb : Decodes (Chain.read true) body.toJson body := body.decodes_toJson
      simp only [Construct.members, List.cons_append, List.nil_append] at hp ⊢
      rw [Chain.read_while]
      apply guarded_eq_some_iff hp
      simp [Option.bind_eq_some_iff, c.decodes_toJson room _, hb room _, hn room _, and_assoc]
  | .switch e cs, _, _, _, hp, hn => by
    intro room b
    cases room
    case zero      => simp [Chain.read]
    case succ room =>
      simp only [Construct.members, List.cons_append, List.nil_append] at hp ⊢
      rw [Chain.read_switch]
      apply guarded_eq_some_iff hp
      simp [Option.bind_eq_some_iff, e.decodes_toJson room _, cs.decodes_cases room _,
        cs.decodes_elze room _, hn room _, cs.ofList_pairs, and_assoc]

theorem Branches.decodes_branches : (bs : Branches) →
    Decodes (readList Branches.readOne) (.arr bs.branchesToJson) bs.pairs
  | .done               => decodes_readList_nil
  | .otherwise _        => decodes_readList_nil
  | .branch c body rest => decodes_readList_cons
    (Branches.decodes_readOne c.decodes_toJson body.decodes_toJson) rest.decodes_branches

theorem Branches.decodes_elze : (bs : Branches) →
    Decodes (Optionally (Chain.read true)) bs.elzeToJson bs.elze?
  | .done            => decodes_null
  | .otherwise body  => by
    have h : Decodes (Chain.read true) body.toJson body := body.decodes_toJson
    cases body <;> exact decodes_some h
  | .branch _ _ rest => rest.decodes_elze

theorem Cases.decodes_cases : (cs : Cases) →
    Decodes (readList Cases.readOne) (.arr cs.casesToJson) cs.pairs
  | .done             => decodes_readList_nil
  | .otherwise _      => decodes_readList_nil
  | .case _ body rest => decodes_readList_cons
    (Cases.decodes_readOne body.decodes_toJson) rest.decodes_cases

theorem Cases.decodes_elze : (cs : Cases) →
    Decodes (Optionally (Chain.read true)) cs.elzeToJson cs.elze?
  | .done           => decodes_null
  | .otherwise body => by
    have h : Decodes (Chain.read true) body.toJson body := body.decodes_toJson
    cases body <;> exact decodes_some h
  | .case _ _ rest  => rest.decodes_elze

end

theorem Script.decodes_toJson (s : Script) : Decodes Script.read s.toJson s := by
  intro room b
  cases room
  case zero      => simp [Script.read, toJson]
  case succ room =>
    have ha : Decodes (readList (Variable.read false)) (.arr (s.arguments.map Variable.toJson))
        s.arguments := decodes_readList fun v _ => v.decodes_toJson
    have hr : Decodes (readList (Ty.read false)) (.arr (s.returns.map Ty.toJson)) s.returns :=
      decodes_readList fun t _ => t.decodes_toJson
    have hb : Decodes (Chain.read false) s.body.toJson s.body := s.body.decodes_toJson
    simp [Script.read, toJson, fields?, field?, defaulted, int32?_toInt, Option.bind_eq_some_iff,
      ha room _, hr room _, hb room _, and_assoc]

theorem Module.decodes_toJson (m : Module) : Decodes Module.read m.toJson m := by
  intro room b
  cases room
  case zero      => simp [Module.read, toJson]
  case succ room =>
    have hs : Decodes (readList Script.read) (.arr (m.scripts.map Script.toJson)) m.scripts :=
      decodes_readList fun s _ => s.decodes_toJson
    simp [Module.read, toJson, fields?, field?, Option.bind_eq_some_iff, hs room _]

end ClientScript
