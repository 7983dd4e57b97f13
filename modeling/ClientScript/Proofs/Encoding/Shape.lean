import ClientScript.Encoding.Writer
import ClientScript.Proofs.Json.RoundTrip

namespace ClientScript

namespace Json

variable {ms : List (String × Json)} {f : α → Json} {as : List α}

theorem areSound_iff {es : List Json} : areSound es ↔ ∀ e ∈ es, e.isSound := by
  induction es
  case nil          => simp [areSound]
  case cons e es hi => simp [areSound, hi]

theorem membersAreSound_iff : membersAreSound ms ↔ ∀ m ∈ ms, m.snd.isSound := by
  induction ms
  case nil          => simp [membersAreSound]
  case cons m ms hi => simp [membersAreSound, hi]

theorem depthOfElements_le_iff {es : List Json} :
    depthOfElements es ≤ n ↔ ∀ e ∈ es, e.depth ≤ n := by
  induction es
  case nil          => simp [depthOfElements]
  case cons e es hi => rw [depthOfElements, Nat.max_le, hi, List.forall_mem_cons]

theorem depthOfMembers_le_iff : depthOfMembers ms ≤ n ↔ ∀ m ∈ ms, m.snd.depth ≤ n := by
  induction ms
  case nil          => simp [depthOfMembers]
  case cons m ms hi => rw [depthOfMembers, Nat.max_le, hi, List.forall_mem_cons]

@[simp]
theorem depth_arr_le_succ {es : List Json} : (arr es).depth ≤ n + 1 ↔ ∀ e ∈ es, e.depth ≤ n := by
  rw [depth, Nat.add_le_add_iff_right, depthOfElements_le_iff]

@[simp]
theorem depth_obj_le_succ : (obj ms).depth ≤ n + 1 ↔ ∀ m ∈ ms, m.snd.depth ≤ n := by
  rw [depth, Nat.add_le_add_iff_right, depthOfMembers_le_iff]

@[simp]
theorem depth_null : null.depth = 0 :=
  rfl

@[simp]
theorem depth_int (n : Int) : (int n).depth = 0 :=
  rfl

@[simp]
theorem depth_str (s : String) : (str s).depth = 0 :=
  rfl

@[simp]
theorem depth_arr_ne_zero {es : List Json} : (arr es).depth ≠ 0 :=
  Nat.succ_ne_zero _

@[simp]
theorem depth_obj_ne_zero : (obj ms).depth ≠ 0 :=
  Nat.succ_ne_zero _

namespace Plain

theorem isSound (h : Plain j) : j.isSound := by
  induction h
  case arr i => exact areSound_iff.mpr i
  case obj i => exact membersAreSound_iff.mpr i
  all_goals rfl

theorem cons (h : Plain j) (hs : ∀ m ∈ ms, Plain m.snd) : ∀ m ∈ (k, j) :: ms, Plain m.snd :=
  List.forall_mem_cons.mpr ⟨h, hs⟩

theorem single {k : String} (h : Plain j) : ∀ m ∈ [(k, j)], Plain m.snd :=
  h.cons (List.forall_mem_nil _)

theorem map (h : ∀ a ∈ as, Plain (f a)) : Plain (.arr (as.map f)) :=
  .arr (List.forall_mem_map.mpr h)

end Plain
end Json

open Json (Plain)

theorem Ty.plain_toJson (t : Ty) : Plain t.toJson :=
  .str

theorem plain_int32 (n : Int32) : Plain (.int n.toInt) :=
  .int (by have := n.toInt_lt; have := n.le_toInt; omega)

theorem Variable.plain_toJson (v : Variable) : Plain v.toJson :=
  have hi : Plain (.int v.id.toNat) := .int (by have := v.id.toNat_lt; omega)
  .obj (.cons .str (.cons v.ty.plain_toJson hi.single))

theorem Payload.plain_toJson (p : Payload) : Plain p.toJson := by
  cases p
  case int n  => exact plain_int32 n
  case text s => exact .str

theorem Constant.plain_toJson (c : Constant) : Plain c.toJson :=
  .obj (.cons c.ty.plain_toJson c.payload.plain_toJson.single)

theorem Expression.plain_tagged (h : Plain j) : Plain (tagged tag j) :=
  .obj (.cons .str h.single)

theorem Expression.plain_toJson (e : Expression) : Plain e.toJson := by
  induction e
  case var v            => exact plain_tagged v.plain_toJson
  case const c          => exact plain_tagged c.plain_toJson
  case op code ts es hi =>
    have hc : Plain (.int code.code.toNat) := .int (by have := code.code.toNat_lt; omega)
    have ht : Plain (.arr (ts.map Ty.toJson)) := .map fun t _ => t.plain_toJson
    rw [toJson, allToJson_eq_map]
    exact plain_tagged (.obj (.cons hc (.cons ht (Plain.map hi).single)))
  case compound es hi   =>
    rw [toJson, allToJson_eq_map]
    exact plain_tagged (.map hi)

theorem Instruction.plain_toJson (i : Instruction) : Plain i.toJson := by
  cases i
  case assign vs value =>
    have hv : Plain (.arr (vs.map Variable.toJson)) := .map fun v _ => v.plain_toJson
    exact .obj (.cons .str (.cons hv value.plain_toJson.single))
  case ret value       => exact .obj (.cons .str value.plain_toJson.single)

mutual

theorem Chain.plain_toJson : (c : Chain) → Plain c.toJson
  | .last c      => .obj <| List.forall_mem_append.mpr ⟨c.plain_members, Plain.null.single⟩
  | .link c rest => .obj <| List.forall_mem_append.mpr ⟨c.plain_members, rest.plain_toJson.single⟩

theorem Construct.plain_members : (c : Construct) → ∀ m ∈ c.members, Plain m.snd
  | .seq _       => .cons .str (Plain.map fun i _ => i.plain_toJson).single
  | .cond bs     => .cons .str (.cons (.arr bs.plain_branchesToJson) bs.plain_elzeToJson.single)
  | .loop c body => .cons .str (.cons c.plain_toJson body.plain_toJson.single)
  | .switch e cs => .cons .str
    (.cons e.plain_toJson (.cons (.arr cs.plain_casesToJson) cs.plain_elzeToJson.single))

theorem Branches.plain_branchesToJson : (bs : Branches) → ∀ j ∈ bs.branchesToJson, Plain j
  | .done               => List.forall_mem_nil _
  | .otherwise _        => List.forall_mem_nil _
  | .branch c body rest => List.forall_mem_cons.mpr
    ⟨.obj (.cons c.plain_toJson body.plain_toJson.single), rest.plain_branchesToJson⟩

theorem Branches.plain_elzeToJson : (bs : Branches) → Plain bs.elzeToJson
  | .done            => .null
  | .otherwise body  => body.plain_toJson
  | .branch _ _ rest => rest.plain_elzeToJson

theorem Cases.plain_casesToJson : (cs : Cases) → ∀ j ∈ cs.casesToJson, Plain j
  | .done             => List.forall_mem_nil _
  | .otherwise _      => List.forall_mem_nil _
  | .case _ body rest => List.forall_mem_cons.mpr
    ⟨.obj (.cons (.map fun n _ => plain_int32 n) body.plain_toJson.single), rest.plain_casesToJson⟩

theorem Cases.plain_elzeToJson : (cs : Cases) → Plain cs.elzeToJson
  | .done           => .null
  | .otherwise body => body.plain_toJson
  | .case _ _ rest  => rest.plain_elzeToJson

end

theorem Script.plain_toJson (s : Script) : Plain s.toJson :=
  have ha : Plain (.arr (s.arguments.map Variable.toJson)) := .map fun v _ => v.plain_toJson
  have hr : Plain (.arr (s.returns.map Ty.toJson)) := .map fun t _ => t.plain_toJson
  .obj (.cons (plain_int32 s.id) (.cons ha (.cons hr s.body.plain_toJson.single)))

theorem Module.plain_toJson (m : Module) : Plain m.toJson :=
  .obj (.cons .str (Plain.map fun s _ => s.plain_toJson).single)

end ClientScript
