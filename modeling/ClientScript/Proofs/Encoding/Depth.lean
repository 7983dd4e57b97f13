import ClientScript.CommandLine.Run
import ClientScript.Proofs.Encoding.RoundTrip

namespace ClientScript

namespace Json

theorem depth_le_of_mem_valuesOf {ms : List (String × Json)} (h : j ∈ valuesOf key ms) :
    j.depth ≤ depthOfMembers ms := by
  obtain ⟨⟨k, v⟩, hm, hv⟩ := List.mem_filterMap.mp h
  have hd := depthOfMembers_le_iff.mp (Nat.le_refl _) _ hm
  simp only at hv
  split at hv
  case isTrue  => cases hv; exact hd
  case isFalse => cases hv

end Json

namespace Encoding

variable {ms : List (String × Json)}

theorem depth_le_of_field? (h : field? ms name = some (some j)) :
    j.depth ≤ Json.depthOfMembers ms := by
  rw [field?] at h
  split at h
  case h_1 => cases h
  case h_2 v hv =>
    cases h
    exact Json.depth_le_of_mem_valuesOf (hv ▸ List.mem_cons_self)
  case h_3 => cases h

theorem exists_depth_of_fields? (h : fields? names j = some vs) :
    ∃ d, j.depth = d + 1 ∧ ∀ k, some k ∈ vs → k.depth ≤ d := by
  cases j <;> simp only [fields?] at h
  case arr es =>
    split at h
    case isTrue =>
      cases h
      refine ⟨_, rfl, fun k hk => ?_⟩
      have hk : k ∈ es := by simpa using hk
      exact Json.depthOfElements_le_iff.mp (Nat.le_refl _) k hk
    case isFalse => cases h
  case obj ms =>
    refine ⟨_, rfl, fun k hk => ?_⟩
    induction names generalizing vs
    case nil => cases h; cases hk
    case cons name names hi =>
      simp only [List.mapM_cons, bind, Option.bind_eq_some_iff] at h
      obtain ⟨v, hv, vs, hvs, h⟩ := h
      cases h
      rcases List.mem_cons.mp hk with rfl | hk
      · exact depth_le_of_field? hv
      · exact hi hvs hk
  all_goals cases h

theorem depth_le_of_splitTag? (h : splitTag? name j = some (tag, body)) : body.depth ≤ j.depth := by
  cases j <;> simp only [splitTag?] at h
  case arr es =>
    cases es
    case nil => cases h
    case cons e es =>
      cases h
      simp only [Json.depth, Json.depthOfElements]
      omega
  case obj ms =>
    split at h
    case h_1 =>
      cases h
      refine Json.depth_obj_le_succ.mpr fun m hm => ?_
      exact Json.depthOfMembers_le_iff.mp (Nat.le_refl _) m (List.mem_filter.mp hm).left
    case h_2 => cases h
  all_goals cases h

end Encoding

open Encoding

-- The form of what is read needs no more levels than there were, and no more than were read.
def Bounded (read : Nat → Json → Option α) (form : α → Json) (room : Nat) : Prop :=
  ∀ j a, read room j = some a → (form a).depth ≤ min room j.depth

section

variable {read : Nat → Json → Option α} {form : α → Json}

theorem bounded_readList_zero :
    Bounded (readList read) (fun as : List α => .arr (as.map form)) 0 := by
  intro j a h
  simp [readList] at h

theorem bounded_readList_succ (hb : Bounded read form room) :
    Bounded (readList read) (fun as : List α => .arr (as.map form)) (room + 1) := by
  intro j as h
  cases j <;> simp only [readList] at h
  case arr es =>
    have he : ∀ b ∈ as.map form, b.depth ≤ min room (Json.depthOfElements es) := by
      induction es generalizing as
      case nil => cases h; exact List.forall_mem_nil _
      case cons e es hi =>
        simp only [List.mapM_cons, bind, Option.bind_eq_some_iff] at h
        obtain ⟨a, ha, as, has, h⟩ := h
        cases h
        have hd := hb e a ha
        simp only [List.map_cons, List.forall_mem_cons, Json.depthOfElements]
        exact ⟨by omega, fun b hm => by have := hi as has b hm; omega⟩
    have hd := Json.depthOfElements_le_iff.mpr he
    simp only [Json.depth]
    omega
  all_goals cases h

theorem bounded_readList (hb : ∀ room, Bounded read form room) (room : Nat) :
    Bounded (readList read) (fun as : List α => .arr (as.map form)) room := by
  cases room
  case zero      => exact bounded_readList_zero
  case succ room => exact bounded_readList_succ (hb room)

theorem depth_obj_le_min {j : Json} {ms : List (String × Json)} (hj : d + 1 ≤ j.depth)
    (h : ∀ m ∈ ms, m.snd.depth ≤ min room d) : (Json.obj ms).depth ≤ min (room + 1) j.depth := by
  have := Json.depth_obj_le_succ.mpr h
  omega

end

@[simp]
theorem Variable.depth_toJson (v : Variable) : v.toJson.depth = 1 := by
  simp [toJson, Json.depth, Json.depthOfMembers, Ty.toJson]

@[simp]
theorem Constant.depth_toJson (c : Constant) : c.toJson.depth = 1 := by
  simp [toJson, Json.depth, Json.depthOfMembers, Ty.toJson]

theorem Variable.bounded_read (held : Bool) (room : Nat) :
    Bounded (Variable.read held) Variable.toJson room := by
  intro j v h
  rcases room with _ | room
  · simp [Variable.read] at h
  simp only [Variable.read, bind, Option.bind_eq_some_iff] at h
  obtain ⟨_, _, ⟨tag, body⟩, hs, _, _, _, _, vs, hf, _⟩ := h
  obtain ⟨d, hd, _⟩ := exists_depth_of_fields? hf
  have := depth_le_of_splitTag? hs
  rw [depth_toJson]
  simp only at hd
  omega

theorem Constant.bounded_read (held : Bool) (room : Nat) :
    Bounded (Constant.read held) Constant.toJson room := by
  intro j c h
  rcases room with _ | room
  · simp [Constant.read] at h
  simp only [Constant.read, bind, Option.bind_eq_some_iff] at h
  obtain ⟨vs, hf, _⟩ := h
  obtain ⟨d, hd, _⟩ := exists_depth_of_fields? hf
  rw [depth_toJson]
  omega

namespace Expression

theorem depth_of_parts? (h : parts? j = some (tag, value, early)) : value.depth < j.depth := by
  rw [parts?.eq_def] at h
  split at h
  case h_1 =>
    cases h
    simp only [Json.depth, Json.depthOfElements]
    omega
  case h_2 =>
    split at h
    case h_1 hv =>
      cases h
      exact Nat.lt_succ_of_le (Json.depth_le_of_mem_valuesOf (hv ▸ List.mem_cons_self))
    case h_2 => cases h
  case h_3 => cases h

theorem depth_tagged : (tagged tag j).depth = j.depth + 1 := by
  simp [tagged, Json.depth, Json.depthOfMembers]

theorem two_le_depth (e : Expression) : 2 ≤ e.toJson.depth := by
  cases e <;> simp [toJson, depth_tagged, Json.depth]

theorem depth_toJson_op :
    (op code ts es).toJson.depth = (Json.arr (es.map toJson)).depth + 2 := by
  have ht : Json.depthOfElements (ts.map Ty.toJson) ≤ 0 :=
    Json.depthOfElements_le_iff.mpr (List.forall_mem_map.mpr fun _ _ => Nat.le_refl 0)
  simp only [toJson, depth_tagged, allToJson_eq_map, Json.depth, Json.depthOfMembers]
  omega

mutual

-- The induction is on the room, as whatever is inside of a value was read with less of it.
theorem bounded_read : (room : Nat) → ∀ held, Bounded (read held) toJson room
  | 0,        _,    _, _, h => by simp [read] at h
  | room + 1, held, j, e, h => by
    simp only [read, bind, Option.bind_eq_some_iff] at h
    obtain ⟨⟨tag, value, early⟩, hp, _, _, name, _, h⟩ := h
    have hv := depth_of_parts? hp
    dsimp only at h
    split at h
    case h_1 =>
      obtain ⟨v, hr, rfl⟩ := Option.map_eq_some_iff.mp h
      have := v.depth_toJson ▸ Variable.bounded_read _ _ _ _ hr
      rw [toJson, depth_tagged, v.depth_toJson]
      omega
    case h_2 =>
      obtain ⟨c, hr, rfl⟩ := Option.map_eq_some_iff.mp h
      have := c.depth_toJson ▸ Constant.bounded_read _ _ _ _ hr
      rw [toJson, depth_tagged, c.depth_toJson]
      omega
    case h_3 =>
      have := depth_of_readOperation room _ _ _ h
      omega
    case h_4 =>
      obtain ⟨es, hr, rfl⟩ := Option.map_eq_some_iff.mp h
      have : (Json.arr (es.map toJson)).depth ≤ _ := bounded_readAll room _ _ _ (readAll_eq ▸ hr)
      rw [toJson, depth_tagged, allToJson_eq_map]
      omega
    case h_5 => cases h

theorem depth_of_readOperation : (room : Nat) → ∀ held j e,
    readOperation held room j = some e → e.toJson.depth ≤ min room j.depth + 1
  | 0,        _,    _, _, h => by simp [readOperation] at h
  | room + 1, held, j, e, h => by
    rw [readOperation.eq_def] at h
    split at h
    case h_1 ms hr =>
      cases hr
      simp only [bind, Option.bind_eq_some_iff] at h
      obtain ⟨vs, hf, h⟩ := h
      obtain ⟨d, hd, hk⟩ := exists_depth_of_fields? hf
      split at h
      case h_1 code types arguments =>
        simp only [Option.bind_eq_some_iff] at h
        obtain ⟨_, _, ts, _, es, hr, h⟩ := h
        cases h
        have : (Json.arr (es.map toJson)).depth ≤ _ := bounded_readAll _ _ _ _ (readAll_eq ▸ hr)
        have := hk arguments (by simp)
        rw [depth_toJson_op]
        omega
      case h_2 => cases h
    case h_2 => cases h

theorem bounded_readAll : (room : Nat) → ∀ held,
    Bounded (readList (read held)) (fun es : List Expression => .arr (es.map toJson)) room
  | 0,        _    => bounded_readList_zero
  | room + 1, held => bounded_readList_succ (bounded_read room held)

end

end Expression

namespace Instruction

theorem depth_toJson_assign : (assign vs e).toJson.depth = e.toJson.depth + 1 := by
  have hv : Json.depthOfElements (vs.map Variable.toJson) ≤ 1 :=
    Json.depthOfElements_le_iff.mpr (List.forall_mem_map.mpr fun v _ => v.depth_toJson.le)
  have := e.two_le_depth
  simp only [toJson, Json.depth, Json.depthOfMembers]
  omega

theorem depth_toJson_ret : (ret e).toJson.depth = e.toJson.depth + 1 := by
  simp [toJson, Json.depth, Json.depthOfMembers]

theorem bounded_read (held : Bool) (room : Nat) : Bounded (read held) toJson room := by
  intro j i h
  rcases room with _ | room
  · simp [read] at h
  simp only [read, bind, Option.bind_eq_some_iff] at h
  obtain ⟨_, _, ⟨tag, body⟩, hs, name, _, h⟩ := h
  have := depth_le_of_splitTag? hs
  dsimp only at h
  split at h
  case h_1 =>
    simp only [Option.bind_eq_some_iff] at h
    obtain ⟨vs, hf, h⟩ := h
    obtain ⟨d, hd, hk⟩ := exists_depth_of_fields? hf
    split at h
    case h_1 targets value =>
      simp only [Option.bind_eq_some_iff] at h
      obtain ⟨vs, _, e, he, h⟩ := h
      cases h
      have := Expression.bounded_read _ _ _ _ he
      have := hk value (by simp)
      rw [depth_toJson_assign]
      omega
    case h_2 => cases h
  case h_2 =>
    simp only [Option.bind_eq_some_iff] at h
    obtain ⟨vs, hf, h⟩ := h
    obtain ⟨d, hd, hk⟩ := exists_depth_of_fields? hf
    split at h
    case h_1 value =>
      simp only [Option.bind_eq_some_iff] at h
      obtain ⟨e, he, h⟩ := h
      cases h
      have := Expression.bounded_read _ _ _ _ he
      have := hk value (by simp)
      rw [depth_toJson_ret]
      omega
    case h_2 => cases h
  case h_3 => cases h

end Instruction

def formOrNull (form : α → Json) (a : Option α) : Json :=
  a.elim .null form

theorem depth_le_of_optional {read : Nat → Json → Option α} (hb : Bounded read form room)
    (h : optional (read room) j? = some a) (hj : ∀ j, some j = j? → j.depth ≤ d) :
    (formOrNull form a).depth ≤ min room d := by
  rw [Encoding.optional.eq_def] at h
  split at h
  case h_1 => cases h; exact Nat.zero_le _
  case h_2 => cases h; exact Nat.zero_le _
  case h_3 j _ =>
    obtain ⟨a, ha, rfl⟩ := Option.map_eq_some_iff.mp h
    have := hb j a ha
    have := hj j rfl
    simp only [formOrNull, Option.elim_some]
    omega

theorem Construct.toJson_followedBy (c : Construct) (next : Option Chain) :
    (c.followedBy next).toJson = .obj (c.members ++ [("next", formOrNull Chain.toJson next)]) := by
  cases next <;> rfl

theorem Construct.depth_followedBy {j : Json} (c : Construct) (hj : d + 1 ≤ j.depth)
    (hm : ∀ m ∈ c.members, m.snd.depth ≤ min room d)
    (hn : (formOrNull Chain.toJson next).depth ≤ min room d) :
    (c.followedBy next).toJson.depth ≤ min (room + 1) j.depth := by
  rw [toJson_followedBy]
  apply depth_obj_le_min hj
  exact List.forall_mem_append.mpr ⟨hm, List.forall_mem_singleton.mpr hn⟩

namespace Branches

def pairToJson (p : Expression × Chain) : Json :=
  .obj [("condition", p.fst.toJson), ("body", p.snd.toJson)]

theorem branchesToJson_ofList : (ofList ps elze).branchesToJson = ps.map pairToJson := by
  induction ps
  case nil => cases elze <;> rfl
  case cons p ps hi => exact congrArg (pairToJson p :: ·) hi

theorem elzeToJson_ofList : (ofList ps elze).elzeToJson = formOrNull Chain.toJson elze := by
  induction ps
  case nil => cases elze <;> rfl
  case cons p ps hi => exact hi

end Branches

namespace Cases

def pairToJson (p : List Int32 × Chain) : Json :=
  .obj [("labels", .arr (p.fst.map fun n => .int n.toInt)), ("body", p.snd.toJson)]

theorem casesToJson_ofList : (ofList ps elze).casesToJson = ps.map pairToJson := by
  induction ps
  case nil => cases elze <;> rfl
  case cons p ps hi => exact congrArg (pairToJson p :: ·) hi

theorem elzeToJson_ofList : (ofList ps elze).elzeToJson = formOrNull Chain.toJson elze := by
  induction ps
  case nil => cases elze <;> rfl
  case cons p ps hi => exact hi

end Cases

mutual

-- What follows a construct is one of its members, so a chain is nested as deep as it is long. But it
-- was so in what was read, where each of its constructs took one level of the room.
theorem Chain.bounded_read : (room : Nat) → ∀ held, Bounded (Chain.read held) Chain.toJson room
  | 0,        _,    _, _, h => by simp [Chain.read] at h
  | room + 1, held, j, c, h => by
    simp only [Chain.read, bind, Option.bind_eq_some_iff] at h
    obtain ⟨_, _, ⟨tag, body⟩, hs, name, _, h⟩ := h
    have hb := depth_le_of_splitTag? hs
    have hc := Chain.bounded_read room true
    dsimp only at h hb
    split at h
    case h_1 =>
      simp only [Option.bind_eq_some_iff] at h
      obtain ⟨vs, hf, h⟩ := h
      obtain ⟨d, hd, hk⟩ := exists_depth_of_fields? hf
      split at h
      case h_1 is next =>
        simp only [Option.bind_eq_some_iff] at h
        obtain ⟨is', hi, next', hn, h⟩ := h
        cases h
        have hi : (Json.arr _).depth ≤ _ := bounded_readList (Instruction.bounded_read true) _ _ _ hi
        have hn := depth_le_of_optional hc hn fun j hj => hk j (by simp [hj])
        have := hk is (by simp)
        refine Construct.depth_followedBy _ (hd.ge.trans hb) ?_ hn
        simp only [Construct.members, List.forall_mem_cons]
        exact ⟨Nat.zero_le _, by omega, List.forall_mem_nil _⟩
      case h_2 => cases h
    case h_2 =>
      simp only [Option.bind_eq_some_iff] at h
      obtain ⟨vs, hf, h⟩ := h
      obtain ⟨d, hd, hk⟩ := exists_depth_of_fields? hf
      split at h
      case h_1 branches elze next =>
        simp only [Option.bind_eq_some_iff] at h
        obtain ⟨ps, hp, elze', he, next', hn, h⟩ := h
        cases h
        have hp : (Json.arr _).depth ≤ _ :=
          Branches.bounded_readAll _ _ _ (Branches.readAll_eq ▸ hp)
        have he := depth_le_of_optional hc he fun j hj => hk j (by simp [hj])
        have hn := depth_le_of_optional hc hn fun j hj => hk j (by simp [hj])
        have := hk branches (by simp)
        refine Construct.depth_followedBy _ (hd.ge.trans hb) ?_ hn
        simp only [Construct.members, List.forall_mem_cons,
          Branches.branchesToJson_ofList, Branches.elzeToJson_ofList]
        exact ⟨Nat.zero_le _, by omega, he, List.forall_mem_nil _⟩
      case h_2 => cases h
    case h_3 =>
      simp only [Option.bind_eq_some_iff] at h
      obtain ⟨vs, hf, h⟩ := h
      obtain ⟨d, hd, hk⟩ := exists_depth_of_fields? hf
      split at h
      case h_1 condition body next =>
        simp only [Option.bind_eq_some_iff] at h
        obtain ⟨c, he, b, hi, next', hn, h⟩ := h
        cases h
        have := Expression.bounded_read _ _ _ _ he
        have := hc _ _ hi
        have hn := depth_le_of_optional hc hn fun j hj => hk j (by simp [hj])
        have := hk condition (by simp)
        have := hk body (by simp)
        refine Construct.depth_followedBy _ (hd.ge.trans hb) ?_ hn
        simp only [Construct.members, List.forall_mem_cons]
        exact ⟨Nat.zero_le _, by omega, by omega, List.forall_mem_nil _⟩
      case h_2 => cases h
    case h_4 =>
      simp only [Option.bind_eq_some_iff] at h
      obtain ⟨vs, hf, h⟩ := h
      obtain ⟨d, hd, hk⟩ := exists_depth_of_fields? hf
      split at h
      case h_1 scrutinee cases elze next =>
        simp only [Option.bind_eq_some_iff] at h
        obtain ⟨e, hs, ps, hp, elze', he, next', hn, h⟩ := h
        cases h
        have := Expression.bounded_read _ _ _ _ hs
        have hp : (Json.arr _).depth ≤ _ := Cases.bounded_readAll _ _ _ (Cases.readAll_eq ▸ hp)
        have he := depth_le_of_optional hc he fun j hj => hk j (by simp [hj])
        have hn := depth_le_of_optional hc hn fun j hj => hk j (by simp [hj])
        have := hk scrutinee (by simp)
        have := hk cases (by simp)
        refine Construct.depth_followedBy _ (hd.ge.trans hb) ?_ hn
        simp only [Construct.members, List.forall_mem_cons,
          Cases.casesToJson_ofList, Cases.elzeToJson_ofList]
        exact ⟨Nat.zero_le _, by omega, by omega, he, List.forall_mem_nil _⟩
      case h_2 => cases h
    case h_5 => cases h

theorem Branches.bounded_readAll : (room : Nat) →
    Bounded (readList Branches.readOne)
      (fun ps : List (Expression × Chain) => .arr (ps.map Branches.pairToJson)) room
  | 0        => bounded_readList_zero
  | room + 1 => bounded_readList_succ (Branches.bounded_readOne room)

theorem Branches.bounded_readOne : (room : Nat) →
    Bounded Branches.readOne Branches.pairToJson room
  | 0,        _, _, h => by simp [Branches.readOne] at h
  | room + 1, j, p, h => by
    simp only [Branches.readOne, bind, Option.bind_eq_some_iff] at h
    obtain ⟨vs, hf, h⟩ := h
    obtain ⟨d, hd, hk⟩ := exists_depth_of_fields? hf
    split at h
    case h_1 condition body =>
      simp only [Option.bind_eq_some_iff] at h
      obtain ⟨c, hc, b, hb, h⟩ := h
      cases h
      have := Expression.bounded_read _ _ _ _ hc
      have := Chain.bounded_read _ _ _ _ hb
      have := hk condition (by simp)
      have := hk body (by simp)
      refine depth_obj_le_min hd.ge ?_
      simp only [List.forall_mem_cons]
      exact ⟨by omega, by omega, List.forall_mem_nil _⟩
    case h_2 => cases h

theorem Cases.bounded_readAll : (room : Nat) →
    Bounded (readList Cases.readOne)
      (fun ps : List (List Int32 × Chain) => .arr (ps.map Cases.pairToJson)) room
  | 0        => bounded_readList_zero
  | room + 1 => bounded_readList_succ (Cases.bounded_readOne room)

theorem Cases.bounded_readOne : (room : Nat) → Bounded Cases.readOne Cases.pairToJson room
  | 0,        _, _, h => by simp [Cases.readOne] at h
  | room + 1, j, p, h => by
    simp only [Cases.readOne, bind, Option.bind_eq_some_iff] at h
    obtain ⟨vs, hf, h⟩ := h
    obtain ⟨d, hd, hk⟩ := exists_depth_of_fields? hf
    split at h
    case h_1 labels body =>
      simp only [Option.bind_eq_some_iff] at h
      obtain ⟨ns, hn, b, hb, h⟩ := h
      cases h
      have hi : ∀ room, Bounded (fun _ => int32?) (fun n : Int32 => .int n.toInt) room :=
        fun _ _ _ _ => Nat.zero_le _
      have : (Json.arr _).depth ≤ _ := bounded_readList hi _ _ _ hn
      have := Chain.bounded_read _ _ _ _ hb
      have := hk labels (by simp)
      have := hk body (by simp)
      refine depth_obj_le_min hd.ge ?_
      simp only [List.forall_mem_cons]
      exact ⟨by omega, by omega, List.forall_mem_nil _⟩
    case h_2 => cases h

end

theorem Construct.depthOfMembers_pos (c : Construct) : 0 < Json.depthOfMembers c.members := by
  cases c
  case loop e body =>
    have := e.two_le_depth
    simp only [members, Json.depthOfMembers]
    omega
  all_goals
    simp only [members, Json.depthOfMembers, Json.depth]
    omega

theorem Chain.two_le_depth (c : Chain) : 2 ≤ c.toJson.depth := by
  have hm : ∀ (c : Construct) m, 2 ≤ (Json.obj (c.members ++ [m])).depth := by
    intro c m
    have hp := c.depthOfMembers_pos
    have hl : Json.depthOfMembers c.members ≤ Json.depthOfMembers (c.members ++ [m]) :=
      Json.depthOfMembers_le_iff.mpr fun m hm =>
        Json.depthOfMembers_le_iff.mp (Nat.le_refl _) m (List.mem_append_left _ hm)
    rw [Json.depth]
    omega
  cases c
  case last c      => exact hm c _
  case link c rest => exact hm c _

namespace Script

theorem depth_toJson (s : Script) : s.toJson.depth = s.body.toJson.depth + 1 := by
  have ha : Json.depthOfElements (s.arguments.map Variable.toJson) ≤ 1 :=
    Json.depthOfElements_le_iff.mpr (List.forall_mem_map.mpr fun v _ => v.depth_toJson.le)
  have hr : Json.depthOfElements (s.returns.map Ty.toJson) ≤ 0 :=
    Json.depthOfElements_le_iff.mpr (List.forall_mem_map.mpr fun _ _ => Nat.le_refl 0)
  have := s.body.two_le_depth
  simp only [toJson, Json.depth, Json.depthOfMembers]
  omega

theorem bounded_read (room : Nat) : Bounded read toJson room := by
  intro j s h
  rcases room with _ | room
  · simp [read] at h
  simp only [read, bind, Option.bind_eq_some_iff] at h
  obtain ⟨vs, hf, h⟩ := h
  obtain ⟨d, hd, hk⟩ := exists_depth_of_fields? hf
  split at h
  case h_1 id arguments returns body =>
    simp only [Option.bind_eq_some_iff] at h
    obtain ⟨_, _, _, _, _, _, b, hb, h⟩ := h
    cases h
    have := Chain.bounded_read _ _ _ _ hb
    have := hk body (by simp)
    rw [depth_toJson]
    dsimp only
    omega
  case h_2 => cases h

end Script

namespace Module

theorem bounded_read (room : Nat) : Bounded read toJson room := by
  intro j m h
  rcases room with _ | room
  · simp [read] at h
  simp only [read, bind, Option.bind_eq_some_iff] at h
  obtain ⟨vs, hf, h⟩ := h
  obtain ⟨d, hd, hk⟩ := exists_depth_of_fields? hf
  split at h
  case h_1 name scripts =>
    simp only [Option.bind_eq_some_iff] at h
    obtain ⟨ss, hs, h⟩ := h
    cases h
    have : (Json.arr _).depth ≤ _ := bounded_readList Script.bounded_read _ _ _ hs
    have := hk scripts (by simp)
    refine depth_obj_le_min hd.ge ?_
    simp only [List.forall_mem_cons]
    exact ⟨Nat.zero_le _, by omega, List.forall_mem_nil _⟩
  case h_2 => cases h

theorem ofText?_write (m : Module) :
    ofText? m.toJson.write = if m.toJson.depth ≤ levels then some m else none := by
  rw [ofText?, m.plain_toJson.read_write, Option.bind_some]
  split
  case isTrue h  => exact (m.decodes_toJson _ _).mpr ⟨h, rfl⟩
  case isFalse h =>
    exact Option.eq_none_iff_forall_ne_some.mpr fun n hn => h ((m.decodes_toJson _ n).mp hn).left

theorem depth_le_of_ofText? (h : ofText? text = some m) :
    m.toJson.depth ≤ levels ∧ ∃ j, Json.read text = some j ∧ m.toJson.depth ≤ j.depth := by
  obtain ⟨j, hj, hm⟩ := Option.bind_eq_some_iff.mp h
  have hd := bounded_read levels j m hm
  exact ⟨by omega, j, hj, by omega⟩

end Module

namespace CommandLine

variable {complaint : String → String}

theorem moduleOfText_eq_ok_iff :
    moduleOfText complaint path text = .ok m ↔ Module.ofText? text = some m := by
  rw [moduleOfText]
  cases Module.ofText? text <;> simp

theorem moduleOfText_write (complaint : String → String) (path : String) (m : Module) :
    moduleOfText complaint path m.toJson.write =
      if m.toJson.depth ≤ levels then .ok m
      else .error (.moduleText path (complaint m.toJson.write)) := by
  rw [moduleOfText, m.ofText?_write]
  by_cases h : m.toJson.depth ≤ levels
  case pos => rw [if_pos h, if_pos h]
  case neg => rw [if_neg h, if_neg h]

-- A module is read from what is written of it, unless it is nested too deep. So whatever was read
-- can be written and read again.
theorem moduleOfText_write_and_depth_le :
    (∀ complaint path (m : Module), moduleOfText complaint path m.toJson.write =
      if m.toJson.depth ≤ 127 then .ok m
      else .error (.moduleText path (complaint m.toJson.write))) ∧
    ∀ complaint path text m, moduleOfText complaint path text = .ok m →
      ∃ j, Json.read text = some j ∧ m.toJson.depth ≤ j.depth ∧
        moduleOfText complaint path m.toJson.write = .ok m := by
  refine ⟨moduleOfText_write, ?_⟩
  intro complaint path text m h
  obtain ⟨hl, j, hj, hd⟩ := Module.depth_le_of_ofText? (moduleOfText_eq_ok_iff.mp h)
  refine ⟨j, hj, hd, ?_⟩
  rw [moduleOfText_write, if_pos hl]

def tangled : Module where
  name    := "tangled"
  scripts := [{
    id        := -1
    arguments := [⟨.frame, .int, 0⟩, ⟨.frame, .string, 4294967295⟩]
    returns   := [.int, .string]
    body      :=
      .link (.seq [
        .assign [⟨.frame, .int, 2⟩, ⟨.varp, .int, 3⟩] (.op ⟨4000⟩ [.int, .int] [
          .var ⟨.varbit, .int, 1⟩, .const ⟨.int, .int (-5)⟩]),
        .assign [] (.var ⟨.stack, .int, 7⟩)]) <|
      .link (.cond <|
        .branch (.op ⟨8⟩ [] [.var ⟨.varc, .int, 0⟩, .const ⟨.int, .int 1⟩])
          (.link (.loop (.var ⟨.frame, .int, 0⟩) (.last (.seq []))) (.last (.seq []))) <|
        .branch (.var ⟨.frame, .int, 1⟩) (.last (.seq [])) <|
        .otherwise (.last (.cond (.otherwise (.last (.seq [])))))) <|
      .last (.switch (.var ⟨.frame, .int, 0⟩) <|
        .case [1, -2] (.last (.seq [.ret (.compound [.const ⟨.string, .text "\"é\n"⟩])])) <|
        .case [] (.last (.seq [])) <|
        .otherwise (.link (.seq [.ret (.compound [])]) (.last (.seq [])))) },
    { id := 7, body := .last (.cond .done) }]

def chained : Nat → Chain
  | 0     => .last (.seq [])
  | n + 1 => .link (.seq []) (chained n)

def chainedModule (n : Nat) : Module where
  name    := "chained"
  scripts := [{ id := 1, body := chained n }]

-- This is not what is written of its module: members are missing, or stand in another order.
def looseForm : Json :=
  .obj [
    ("functions", .arr [.obj [
      ("body", .arr [.str "seq", .arr [.arr [.str "return", .arr [.str "compound", .arr []]]]]),
      ("id", .int 7)]]),
    ("name", .str "loose")]

def loose : Module where
  name    := "loose"
  scripts := [{ id := 7, body := .last (.seq [.ret (.compound [])]) }]

theorem moduleOfText_write_nested :
    let complaint := fun _ : String => "recursion limit exceeded at line 1 column 5526"
    moduleOfText complaint "m.json" tangled.toJson.write = .ok tangled ∧
      (chainedModule 122).toJson.depth = 127 ∧
      moduleOfText complaint "m.json" (chainedModule 122).toJson.write =
        .ok (chainedModule 122) ∧
      moduleOfText complaint "m.json" (chainedModule 123).toJson.write =
        .error (.moduleText "m.json" "recursion limit exceeded at line 1 column 5526") ∧
      ∃ j, Json.read looseForm.write = some j ∧ loose.toJson.depth ≤ j.depth ∧
        moduleOfText complaint "m.json" loose.toJson.write = .ok loose := by
  intro complaint
  obtain ⟨written, loaded⟩ := moduleOfText_write_and_depth_le
  have plain : looseForm.Plain := by
    repeat' first
      | exact List.forall_mem_nil _
      | refine List.forall_mem_cons.mpr ⟨?_, ?_⟩
      | decide
      | constructor
  have hl : Module.ofText? looseForm.write = some loose := by
    rw [Module.ofText?, plain.read_write]
    rfl
  refine ⟨?_, by decide +kernel, ?_, ?_, loaded _ _ _ _ (moduleOfText_eq_ok_iff.mpr hl)⟩
  case refine_1 => rw [written, if_pos (by decide +kernel)]
  case refine_2 => rw [written, if_pos (by decide +kernel)]
  case refine_3 => rw [written, if_neg (by decide +kernel)]

end CommandLine

end ClientScript
