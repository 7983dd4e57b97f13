import ClientScript.Proofs.Encoding.Depth
import ClientScript.Proofs.Encoding.Presentation

namespace ClientScript

namespace Encoding

variable {names tags fields : List String} {vs : List (Option Json)} {ms : List (String × Json)}
variable {j tag value : Json} {held : Bool}

theorem mapM_eq_some_iff {f : α → Option β} {as : List α} {bs : List β} :
    as.mapM f = some bs ↔ List.Forall₂ (fun a b => f a = some b) as bs := by
  induction as generalizing bs
  case nil          => simp [List.forall₂_nil_left_iff, eq_comm]
  case cons a as hi =>
    simp only [List.mapM_cons, bind, Option.bind_eq_some_iff, List.forall₂_cons_left_iff, hi]
    constructor
    case mp  => rintro ⟨b, hb, bs, hs, ⟨⟩⟩; exact ⟨b, bs, hb, hs, rfl⟩
    case mpr => rintro ⟨b, bs, hb, hs, rfl⟩; exact ⟨b, hb, bs, hs, rfl⟩

theorem field?_eq_some_iff {v : Option Json} :
    field? ms name = some v ↔ Json.valuesOf name ms = v.toList := by
  rw [field?]
  split
  case h_1 h     => cases v <;> simp [h]
  case h_2 w h   => cases v <;> simp [h]
  case h_3 hn ho =>
    refine iff_of_false (by simp) fun h => ?_
    cases v
    case none   => exact hn h
    case some w => exact ho w h

theorem fields?_eq_some_iff : fields? names j = some vs ↔ Record names vs j := by
  cases j
  case obj ms => simp only [fields?, mapM_eq_some_iff, field?_eq_some_iff, Record]
  case arr es =>
    simp only [fields?, Record]
    constructor
    case mp  =>
      intro h
      split at h
      case isTrue hl =>
        cases h
        exact ⟨by simp; omega, _, rfl⟩
      case isFalse   => cases h
    case mpr =>
      rintro ⟨hl, n, rfl⟩
      rw [List.length_append, List.length_map, List.length_replicate] at hl
      rw [if_pos (by omega), show names.length - es.length = n by omega]
  all_goals exact iff_of_false (by simp [fields?]) id

theorem Record.exists_room (h : Record names vs j) (hd : j.depth ≤ room) :
    ∃ r, room = r + 1 ∧ ∀ k, some k ∈ vs → k.depth ≤ r := by
  obtain ⟨d, hj, hk⟩ := exists_depth_of_fields? (fields?_eq_some_iff.mpr h)
  exact ⟨room - 1, by omega, fun k hm => Nat.le_trans (hk k hm) (by omega)⟩

theorem valuesOf_filter_ne (h : name ≠ key) :
    Json.valuesOf name (ms.filter fun m => m.1 ≠ key) = Json.valuesOf name ms := by
  rw [Json.valuesOf, Json.valuesOf, List.filterMap_filter]
  refine List.filterMap_congr fun m _ => ?_
  by_cases hm : m.1 = key
  case pos => simp [hm, Ne.symm h]
  case neg => simp [hm]

theorem record_filter_ne_iff (h : key ∉ fields) :
    Record fields vs (.obj (ms.filter fun m => m.1 ≠ key)) ↔ Record fields vs (.obj ms) := by
  simp only [Record]
  induction fields generalizing vs
  case nil               => simp
  case cons field fields hi =>
    obtain ⟨hf, hk⟩ := not_or.mp (mt List.mem_cons.mpr h)
    simp only [List.forall₂_cons_left_iff, hi hk, valuesOf_filter_ne (Ne.symm hf)]

-- The tag is one of the fields, and the first one in an array.
theorem exists_splitTag?_iff (h : key ∉ fields) :
    (∃ body, splitTag? key j = some (tag, body) ∧ fields? fields body = some vs) ↔
      Record (key :: fields) (some tag :: vs) j := by
  simp only [fields?_eq_some_iff]
  cases j
  case obj ms =>
    have hr : Record (key :: fields) (some tag :: vs) (.obj ms) ↔
        Json.valuesOf key ms = [tag] ∧ Record fields vs (.obj ms) := List.forall₂_cons
    rw [hr, splitTag?, ← record_filter_ne_iff h]
    split
    case h_1 other ht => simp [ht, eq_comm]
    case h_2 hn       => exact iff_of_false (by simp) fun h => hn tag h.left
  case arr es =>
    cases es
    case nil       =>
      refine iff_of_false (by simp [splitTag?]) ?_
      rintro ⟨_, n, hn⟩
      cases n <;> cases hn
    case cons e es => simp [splitTag?, Record, eq_comm, and_left_comm]
  all_goals exact iff_of_false (by simp [splitTag?]) id

theorem tagName?_eq_some_iff :
    tagName? held tags j = some s ↔ s ∈ tags ∧ Dialect.accepted.tag held tags s j := by
  cases j
  case str t =>
    rw [tagName?, Option.ite_none_right_eq_some, List.contains_iff_mem]
    constructor
    case mp  => rintro ⟨ht, ⟨⟩⟩; exact ⟨ht, .inl rfl⟩
    case mpr => rintro ⟨ht, ⟨⟨⟩⟩ | ⟨_, _, _, ⟨⟩⟩⟩; exact ⟨ht, rfl⟩
  case int n =>
    rw [tagName?, Option.ite_none_right_eq_some, Bool.and_eq_true, decide_eq_true_iff]
    constructor
    case mp  =>
      rintro ⟨⟨hh, hn⟩, ht⟩
      exact ⟨List.mem_of_getElem? ht, .inr ⟨hh, _, ht, by rw [Int.toNat_of_nonneg hn]⟩⟩
    case mpr =>
      rintro ⟨_, ⟨⟨⟩⟩ | ⟨hh, n, ht, ⟨⟩⟩⟩
      exact ⟨⟨hh, Int.natCast_nonneg n⟩, ht⟩
  all_goals exact iff_of_false (by simp [tagName?]) (by simp [Dialect.accepted])

theorem tagged_iff (hk : key ∉ fields) (hs : s ∈ tags) :
    Dialect.accepted.Tagged held key tags s fields vs j ↔
      ∃ tag body, splitTag? key j = some (tag, body) ∧ tagName? held tags tag = some s ∧
        fields? fields body = some vs := by
  rw [Dialect.Tagged]
  simp only [tagName?_eq_some_iff, hs, true_and, ← exists_splitTag?_iff hk]
  exact exists_congr fun tag => ⟨fun ⟨⟨body, hb, hf⟩, ht⟩ => ⟨body, hb, ht, hf⟩,
    fun ⟨body, hb, ht, hf⟩ => ⟨⟨body, hb, hf⟩, ht⟩⟩

theorem tagged_of_parts (hk : key ∉ fields) (ht : splitTag? key j = some (tag, body))
    (hn : tagName? held tags tag = some s) (hf : fields? fields body = some vs) :
    Dialect.accepted.Tagged held key tags s fields vs j :=
  (tagged_iff hk (tagName?_eq_some_iff.mp hn).left).mpr ⟨tag, body, ht, hn, hf⟩

theorem exists_parts_of_tagged (hk : key ∉ fields) (hs : s ∈ tags)
    (h : Dialect.accepted.Tagged held key tags s fields vs j) (hd : j.depth ≤ room) :
    ∃ r tag body, room = r + 1 ∧ splitTag? key j = some (tag, body) ∧
      tagName? held tags tag = some s ∧ fields? fields body = some vs ∧
      ∀ k, some k ∈ vs → k.depth ≤ r := by
  obtain ⟨tag, body, ht, hn, hf⟩ := (tagged_iff hk hs).mp h
  obtain ⟨_, hr, _⟩ := h
  obtain ⟨r, rfl, hv⟩ := hr.exists_room hd
  exact ⟨r, tag, body, rfl, ht, hn, hf, fun k hm => hv k (List.mem_cons_of_mem _ hm)⟩

theorem word_of_caseName? (h : caseName? held room j = some s) :
    Dialect.accepted.word held s j := by
  rw [caseName?.eq_def] at h
  split at h
  case h_1 => cases h; exact .inl rfl
  case h_2 =>
    obtain ⟨_, ⟨⟩⟩ := Option.ite_none_right_eq_some.mp h
    exact .inr (.inl rfl)
  case h_3 =>
    obtain ⟨hh, ⟨⟩⟩ := Option.ite_none_right_eq_some.mp h
    exact .inr (.inr ⟨hh, rfl⟩)
  case h_4 => cases h

theorem caseName?_of_word (h : Dialect.accepted.word held s j) (hd : j.depth ≤ room) :
    caseName? held room j = some s := by
  obtain rfl | rfl | ⟨hh, rfl⟩ := h
  · rfl
  · exact if_pos hd
  · exact if_pos hh

theorem find?_eq_value_iff (keys : List String) :
    (keys.find? fun k => k = "expr" || k = "value") = some "value" ↔
      keys.idxOf "value" < keys.idxOf "expr" := by
  induction keys
  case nil            => simp
  case cons k keys hi =>
    by_cases hv : k = "value"
    case pos => simp [hv]
    case neg =>
      by_cases he : k = "expr"
      case pos => simp [he]
      case neg => simpa [hv, he, List.idxOf_cons] using hi

theorem parts?_eq_some_iff : Expression.parts? j = some (tag, value, early) ↔
    Record ["expr", "value"] [some tag, some value] j ∧ valueFirst j = early := by
  cases j
  case obj ms =>
    have hv : ((ms.map (·.1)).find? (fun k => k = "expr" || k = "value") == some "value") =
        valueFirst (.obj ms) := by
      rw [Bool.eq_iff_iff, beq_iff_eq, find?_eq_value_iff, valueFirst, decide_eq_true_iff]
    have hr : Record ["expr", "value"] [some tag, some value] (.obj ms) ↔
        Json.valuesOf "expr" ms = [tag] ∧ Json.valuesOf "value" ms = [value] := by
      simp [Record]
    rw [Expression.parts?, hr, hv]
    split
    case h_1 ht hs => simp [ht, hs, and_assoc]
    case h_2 hn    => exact iff_of_false (by simp) fun h => hn _ _ h.left.left h.left.right
  case arr es =>
    have hr : Record ["expr", "value"] [some tag, some value] (.arr es) ↔ es = [tag, value] := by
      constructor
      case mp  =>
        rintro ⟨_, n, hv⟩
        cases n
        case zero   =>
          rw [List.replicate_zero, List.append_nil] at hv
          exact List.map_injective_iff.mpr (Option.some_injective _) hv.symm
        case succ n =>
          have hn : none ∈ [some tag, some value] := hv ▸ by simp
          simp at hn
      case mpr => rintro rfl; exact ⟨rfl, 0, rfl⟩
    rw [hr, Expression.parts?.eq_def]
    split
    case h_1 he => cases he; simp [valueFirst, and_assoc]
    case h_2 he => cases he
    case h_3 he _ =>
      refine iff_of_false (by simp) ?_
      rintro ⟨rfl, _⟩
      exact he _ _ rfl
  all_goals exact iff_of_false (by simp [Expression.parts?]) (·.left)

theorem int32?_eq_some_iff {n : Int32} : int32? j = some n ↔ j = .int n.toInt := by
  constructor
  case mpr => rintro rfl; exact int32?_toInt n
  case mp  =>
    intro h
    cases j <;> simp only [int32?, reduceCtorEq, Option.ite_none_right_eq_some] at h
    obtain ⟨⟨hl, hu⟩, ⟨⟩⟩ := h
    rw [Int32.toInt_ofInt_of_le hl (Int.lt_add_one_of_le hu)]

theorem uint32?_eq_some_iff {n : UInt32} : uint32? j = some n ↔ j = .int n.toNat := by
  constructor
  case mpr => rintro rfl; exact uint32?_toNat n
  case mp  =>
    intro h
    cases j <;> simp only [uint32?, reduceCtorEq, Option.ite_none_right_eq_some] at h
    obtain ⟨⟨hl, hu⟩, ⟨⟩⟩ := h
    rw [UInt32.toNat_ofNat_of_lt' (by omega), Int.toNat_of_nonneg hl]

theorem uint16?_eq_some_iff {n : UInt16} : uint16? j = some n ↔ j = .int n.toNat := by
  constructor
  case mpr => rintro rfl; exact uint16?_toNat n
  case mp  =>
    intro h
    cases j <;> simp only [uint16?, reduceCtorEq, Option.ite_none_right_eq_some] at h
    obtain ⟨⟨hl, hu⟩, ⟨⟩⟩ := h
    rw [UInt16.toNat_ofNat_of_lt' (by omega), Int.toNat_of_nonneg hl]

theorem guard_iff {held : Bool} : guard (held || isHoldable room j) = some () ↔
    held ∨ Dialect.accepted.holds j ∧ j.depth ≤ room := by
  simp [Option.guard_eq_some', isHoldable, Dialect.accepted]

-- A reader takes what presents a value, and whatever it takes does so. What is nested too deep does
-- not have to be taken.
structure Exact (read : Nat → Json → Option α) (P : α → Json → Prop) (room : Nat) : Prop where
  sound    : ∀ j a, read room j = some a → P a j
  complete : ∀ j a, P a j → j.depth ≤ room → read room j = some a

section

variable {read : Nat → Json → Option α} {P : α → Json → Prop} {as : List α}

theorem exact_readList_zero : Exact (readList read) (Listed P) 0 where
  sound j as h := by simp [readList] at h
  complete := by
    rintro _ as ⟨js, rfl, _⟩ hd
    exact absurd (Nat.le_zero.mp hd) Json.depth_arr_ne_zero

theorem exact_readList_succ (he : Exact read P room) :
    Exact (readList read) (Listed P) (room + 1) where
  sound j as h := by
    cases j <;> simp only [readList, reduceCtorEq] at h
    exact ⟨_, rfl, (mapM_eq_some_iff.mp h).flip.imp fun a j => he.sound j a⟩
  complete := by
    rintro _ as ⟨js, rfl, hp⟩ hd
    have hb := (List.forall₂_and_left js as).mpr ⟨Json.depth_arr_le_succ.mp hd, hp.flip⟩
    exact mapM_eq_some_iff.mpr (hb.imp fun j a h => he.complete j a h.right h.left)

theorem exact_readList (he : ∀ room, Exact read P room) (room : Nat) :
    Exact (readList read) (Listed P) room := by
  cases room
  case zero      => exact exact_readList_zero
  case succ room => exact exact_readList_succ (he room)

theorem Defaulted.sound (he : Exact (readList read) (Listed P) room) {j? : Option Json}
    (h : defaulted (readList read room) j? = some as) : Defaulted P as j? := by
  cases j?
  case none   => exact (Option.some.inj h).symm
  case some j => exact he.sound j as h

theorem Defaulted.complete (he : Exact (readList read) (Listed P) room) {j? : Option Json}
    (h : Defaulted P as j?) (hd : ∀ j, j? = some j → j.depth ≤ room) :
    defaulted (readList read room) j? = some as := by
  cases j?
  case none   => exact congrArg some (Eq.symm h)
  case some j => exact he.complete j as h (hd j rfl)

theorem Optional.sound (he : Exact read P room) {j? : Option Json} {a? : Option α}
    (h : optional (read room) j? = some a?) : Optional P a? j? := by
  rw [optional.eq_def] at h
  split at h
  case h_1     => cases h; exact .inl rfl
  case h_2     => cases h; exact .inr rfl
  case h_3 j _ =>
    obtain ⟨a, ha, rfl⟩ := Option.map_eq_some_iff.mp h
    exact ⟨j, rfl, he.sound j a ha⟩

theorem Optional.complete (he : Exact read P room) (hn : ∀ a, ¬P a .null) {j? : Option Json}
    {a? : Option α} (h : Optional P a? j?) (hd : ∀ j, j? = some j → j.depth ≤ room) :
    optional (read room) j? = some a? := by
  cases a?
  case none   => obtain rfl | rfl := h <;> rfl
  case some a =>
    obtain ⟨j, rfl, hp⟩ := h
    rw [optional, he.complete j a hp (hd j rfl)]
    · rfl
    · rintro rfl
      exact hn a hp

end
end Encoding
end ClientScript
