import ClientScript.Proofs.Encoding.Records

namespace ClientScript

open Encoding

theorem Ty.exact_read (held : Bool) (room : Nat) :
    Exact (Ty.read held) (Ty.Presents .accepted held) room where
  sound j t h := by
    obtain ⟨s, hs, ht⟩ := Option.bind_eq_some_iff.mp h
    obtain rfl : t.literal = s := by simpa using List.find?_some ht
    exact word_of_caseName? hs
  complete j t h hd := by
    rw [Ty.read, caseName?_of_word h hd, Option.bind_some, Ty.ofLiteral?_literal]

theorem Payload.read_eq_some_iff {p : Payload} : Payload.read j = some p ↔ j = p.toJson := by
  constructor
  case mpr => rintro rfl; exact p.read_toJson
  case mp  =>
    intro h
    rw [Payload.read.eq_def] at h
    split at h
    case h_1 => cases h; rfl
    case h_2 =>
      obtain ⟨n, hn, rfl⟩ := Option.map_eq_some_iff.mp h
      exact int32?_eq_some_iff.mp hn

theorem Variable.Kind.literal_of_ofLiteral? {kind : Kind} (h : ofLiteral? s = some kind) :
    kind.literal = s := by
  simpa using List.find?_some h

theorem Variable.exact_read (held : Bool) (room : Nat) :
    Exact (Variable.read held) (Variable.Presents .accepted held) room where
  sound j v h := by
    rcases room with _ | room
    · simp [Variable.read] at h
    simp only [Variable.read, bind, Option.bind_eq_some_iff] at h
    obtain ⟨_, hg, ⟨tag, body⟩, hs, name, hn, kind, hk, vs, hf, h⟩ := h
    obtain rfl := Kind.literal_of_ofLiteral? hk
    split at h
    case h_1 ty id =>
      simp only [Option.bind_eq_some_iff] at h
      obtain ⟨ty', ht, id', hi, h⟩ := h
      cases h
      obtain rfl := uint32?_eq_some_iff.mp hi
      refine ⟨(guard_iff.mp hg).imp_right And.left, ty, ?_, (Ty.exact_read true room).sound ty ty' ht⟩
      exact tagged_of_parts (by decide) hs hn hf
    case h_2 => cases h
  complete j v h hd := by
    obtain ⟨hh, ty, ht, hw⟩ := h
    have hk : v.kind.literal ∈ Kind.all.map Kind.literal :=
      List.contains_iff_mem.mp v.kind.contains_literal
    obtain ⟨room, tag, body, rfl, hs, hn, hf, hk⟩ := exists_parts_of_tagged (by decide) hk ht hd
    have hg := guard_iff.mpr (hh.imp_right (⟨·, hd⟩))
    have hl := (Ty.exact_read true room).complete ty v.ty hw (hk ty (by simp))
    simp only [Variable.read, hg, hs, hn, hf, hl, Kind.ofLiteral?_literal, uint32?_toNat, bind,
      pure, Option.bind_some]

theorem Constant.exact_read (held : Bool) (room : Nat) :
    Exact (Constant.read held) (Constant.Presents .accepted held) room where
  sound j c h := by
    rcases room with _ | room
    · simp [Constant.read] at h
    simp only [Constant.read, bind, Option.bind_eq_some_iff] at h
    obtain ⟨vs, hf, h⟩ := h
    split at h
    case h_1 ty payload =>
      simp only [Option.bind_eq_some_iff] at h
      obtain ⟨ty', ht, payload', hp, h⟩ := h
      cases h
      obtain rfl := Payload.read_eq_some_iff.mp hp
      exact ⟨ty, fields?_eq_some_iff.mp hf, (Ty.exact_read held room).sound ty ty' ht⟩
    case h_2 => cases h
  complete j c h hd := by
    obtain ⟨ty, hr, hw⟩ := h
    obtain ⟨room, rfl, hk⟩ := hr.exists_room hd
    have hl := (Ty.exact_read held room).complete ty c.ty hw (hk ty (by simp))
    simp only [Constant.read, fields?_eq_some_iff.mpr hr, hl, Payload.read_toJson, bind, pure,
      Option.bind_some]

namespace Expression

variable {d : Dialect} {held : Bool}

theorem allPresent_iff {es : List Expression} {js : List Json} :
    AllPresent d held es js ↔ List.Forall₂ (Presents d held) es js := by
  induction es generalizing js
  case nil          => rw [AllPresent, List.forall₂_nil_left_iff]
  case cons e es hi =>
    simp only [AllPresent, hi, List.forall₂_cons_left_iff]
    exact exists_congr fun j => exists_congr fun rest =>
      ⟨fun ⟨hj, he, hs⟩ => ⟨he, hs, hj⟩, fun ⟨he, hs, hj⟩ => ⟨hj, he, hs⟩⟩

theorem guard_iff {early : Bool} : guard (held || !early || isHoldable room j) = some () ↔
    held ∨ ¬early ∨ Dialect.accepted.holds j ∧ j.depth ≤ room := by
  simp [Option.guard_eq_some', isHoldable, Dialect.accepted, or_assoc]

def PresentsOperation (held : Bool) (e : Expression) (j : Json) : Prop :=
  ∃ code ts es ms types arguments, e = .op code ts es ∧ j = .obj ms ∧
    Record ["opcode", "types", "arguments"]
      [some (.int code.code.toNat), types, some (.arr arguments)] j ∧
    Defaulted (Ty.Presents .accepted held) ts types ∧ AllPresent .accepted held es arguments

theorem exists_parts_of_marked (h : Dialect.accepted.Marked held name content j)
    (hd : j.depth ≤ room) : ∃ r tag value early, room = r + 1 ∧
      parts? j = some (tag, value, early) ∧
      guard (held || !early || isHoldable r value) = some () ∧
      caseName? held r tag = some name ∧ value.depth ≤ r ∧ content (held || early) value := by
  obtain ⟨tag, value, hr, hm, hh, hc⟩ := h
  obtain ⟨r, rfl, hk⟩ := hr.exists_room hd
  have hv := hk value (by simp)
  exact ⟨r, tag, value, valueFirst j, rfl, parts?_eq_some_iff.mpr ⟨hr, rfl⟩,
    guard_iff.mpr (hh.imp_right (.imp_right (⟨·, hv⟩))), caseName?_of_word hm (hk tag (by simp)),
    hv, hc⟩

theorem marked_of_parts {content : Bool → Json → Prop}
    (hp : parts? j = some (tag, value, early))
    (hg : guard (held || !early || isHoldable room value) = some ())
    (hn : caseName? held room tag = some name) (hc : content (held || early) value) :
    Dialect.accepted.Marked held name content j := by
  obtain ⟨hr, rfl⟩ := parts?_eq_some_iff.mp hp
  exact ⟨tag, value, hr, word_of_caseName? hn,
    (guard_iff.mp hg).imp_right (.imp_right And.left), hc⟩

theorem exists_marked_of_presents {e : Expression} (h : Presents d held e j) :
    ∃ name content, d.Marked held name content j := by
  cases e <;> (rw [Presents] at h; exact ⟨_, _, h⟩)

theorem readOperation_of_fields? {code arguments : Json} {types : Option Json}
    (h : fields? ["opcode", "types", "arguments"] (.obj ms) =
      some [some code, types, some arguments]) :
    readOperation held (room + 1) (.obj ms) = do
      return op { code := ← uint16? code } (← defaulted (readList (Ty.read held) room) types)
        (← readList (read held) room arguments) := by
  simp only [readOperation, h, readAll_eq, bind, Option.bind_some]

theorem exact_readOperation_zero : Exact (readOperation held) (PresentsOperation held) 0 where
  sound j e h := by simp [readOperation] at h
  complete j e h hd := by
    obtain ⟨_, _, _, _, _, _, _, _, hr, _⟩ := h
    obtain ⟨r, hr, _⟩ := hr.exists_room hd
    cases hr

theorem exact_readOperation_succ
    (ha : Exact (readList (read held)) (Listed (Presents .accepted held)) room) :
    Exact (readOperation held) (PresentsOperation held) (room + 1) where
  sound j e h := by
    rw [readOperation.eq_def] at h
    split at h
    case h_1 ms hr =>
      cases hr
      simp only [bind, Option.bind_eq_some_iff] at h
      obtain ⟨vs, hf, h⟩ := h
      split at h
      case h_1 code types arguments =>
        simp only [Option.bind_eq_some_iff] at h
        obtain ⟨code', hc, ts, ht, es, he, h⟩ := h
        cases h
        obtain rfl := uint16?_eq_some_iff.mp hc
        obtain ⟨js, rfl, hs⟩ := ha.sound arguments es (readAll_eq ▸ he)
        exact ⟨_, ts, es, ms, types, js, rfl, rfl, fields?_eq_some_iff.mp hf,
          .sound (exact_readList (Ty.exact_read held) room) ht, allPresent_iff.mpr hs⟩
      case h_2 => cases h
    case h_2 => cases h
  complete j e h hd := by
    obtain ⟨code, ts, es, ms, types, arguments, rfl, rfl, hr, ht, hs⟩ := h
    obtain ⟨r, hr', hk⟩ := hr.exists_room hd
    cases hr'
    have hl := ht.complete (exact_readList (Ty.exact_read held) room)
      fun k h => hk k (by simp [h])
    have ha := ha.complete (.arr arguments) es ⟨arguments, rfl, allPresent_iff.mp hs⟩
      (hk _ (by simp))
    rw [readOperation_of_fields? (fields?_eq_some_iff.mpr hr), uint16?_toNat, hl, ha]
    rfl

theorem exact_read_zero : Exact (read held) (Presents .accepted held) 0 where
  sound j e h := by simp [read] at h
  complete j e h hd := by
    obtain ⟨name, content, hm⟩ := exists_marked_of_presents h
    obtain ⟨r, _, _, _, hr, _⟩ := exists_parts_of_marked hm hd
    cases hr

theorem exact_read_succ (ho : ∀ held, Exact (readOperation held) (PresentsOperation held) room)
    (ha : ∀ held, Exact (readList (read held)) (Listed (Presents .accepted held)) room) :
    Exact (read held) (Presents .accepted held) (room + 1) where
  sound j e h := by
    simp only [read, bind, Option.bind_eq_some_iff] at h
    obtain ⟨⟨tag, value, early⟩, hp, _, hg, name, hn, h⟩ := h
    dsimp only at h
    split at h
    case h_1 =>
      obtain ⟨v, hr, rfl⟩ := Option.map_eq_some_iff.mp h
      rw [Presents]
      refine marked_of_parts hp hg hn ?_
      exact (Variable.exact_read _ room).sound value v hr
    case h_2 =>
      obtain ⟨c, hr, rfl⟩ := Option.map_eq_some_iff.mp h
      rw [Presents]
      refine marked_of_parts hp hg hn ?_
      exact (Constant.exact_read _ room).sound value c hr
    case h_3 =>
      obtain ⟨code, ts, es, ms, types, arguments, rfl, hv⟩ := (ho _).sound value e h
      rw [Presents]
      refine marked_of_parts hp hg hn ?_
      exact ⟨ms, types, arguments, hv⟩
    case h_4 =>
      obtain ⟨es, hr, rfl⟩ := Option.map_eq_some_iff.mp h
      obtain ⟨js, hv, hs⟩ := (ha _).sound value es (readAll_eq ▸ hr)
      rw [Presents]
      refine marked_of_parts hp hg hn ?_
      exact ⟨js, hv, allPresent_iff.mpr hs⟩
    case h_5 => cases h
  complete j e h hd := by
    cases e
    case var v =>
      rw [Presents] at h
      obtain ⟨r, tag, value, early, hr, hp, hg, hn, hv, hc⟩ := exists_parts_of_marked h hd
      cases hr
      simp only [read, hp, hg, hn, bind, Option.bind_some,
        (Variable.exact_read _ room).complete value v hc hv]
      rfl
    case const c =>
      rw [Presents] at h
      obtain ⟨r, tag, value, early, hr, hp, hg, hn, hv, hc⟩ := exists_parts_of_marked h hd
      cases hr
      simp only [read, hp, hg, hn, bind, Option.bind_some,
        (Constant.exact_read _ room).complete value c hc hv]
      rfl
    case op code ts es =>
      rw [Presents] at h
      obtain ⟨r, tag, value, early, hr, hp, hg, hn, hv, ms, types, arguments, hc⟩ :=
        exists_parts_of_marked h hd
      cases hr
      simp only [read, hp, hg, hn, bind, Option.bind_some]
      exact (ho _).complete value _ ⟨code, ts, es, ms, types, arguments, rfl, hc⟩ hv
    case compound es =>
      rw [Presents] at h
      obtain ⟨r, tag, value, early, hr, hp, hg, hn, hv, js, hj, hs⟩ := exists_parts_of_marked h hd
      cases hr
      simp only [read, hp, hg, hn, bind, Option.bind_some, readAll_eq,
        (ha _).complete value es ⟨js, hj, allPresent_iff.mp hs⟩ hv]
      rfl

mutual

-- The induction is on the room, as what is inside of a value is read with less of it.
theorem exact_read : (room : Nat) → ∀ held, Exact (read held) (Presents .accepted held) room
  | 0,        _ => exact_read_zero
  | room + 1, _ => exact_read_succ (exact_readOperation room) (exact_readAll room)

theorem exact_readOperation : (room : Nat) → ∀ held,
    Exact (readOperation held) (PresentsOperation held) room
  | 0,        _    => exact_readOperation_zero
  | room + 1, held => exact_readOperation_succ (exact_readAll room held)

theorem exact_readAll : (room : Nat) → ∀ held,
    Exact (readList (read held)) (Listed (Presents .accepted held)) room
  | 0,        _    => exact_readList_zero
  | room + 1, held => exact_readList_succ (exact_read room held)

end

end Expression

theorem Instruction.exact_read (held : Bool) (room : Nat) :
    Exact (Instruction.read held) (Instruction.Presents .accepted held) room where
  sound j i h := by
    rcases room with _ | room
    · simp [read] at h
    simp only [read, bind, Option.bind_eq_some_iff] at h
    obtain ⟨_, hg, ⟨tag, body⟩, hs, name, hn, h⟩ := h
    have hh := (guard_iff.mp hg).imp_right And.left
    dsimp only at h
    split at h
    case h_1 =>
      simp only [Option.bind_eq_some_iff] at h
      obtain ⟨vs, hf, h⟩ := h
      split at h
      case h_1 targets value =>
        simp only [Option.bind_eq_some_iff] at h
        obtain ⟨vs, hv, e, he, h⟩ := h
        cases h
        exact ⟨hh, targets, value, tagged_of_parts (by decide) hs hn hf,
          .sound (exact_readList (Variable.exact_read true) room) hv,
          (Expression.exact_read room true).sound value e he⟩
      case h_2 => cases h
    case h_2 =>
      simp only [Option.bind_eq_some_iff] at h
      obtain ⟨vs, hf, h⟩ := h
      split at h
      case h_1 value =>
        simp only [Option.bind_eq_some_iff] at h
        obtain ⟨e, he, h⟩ := h
        cases h
        exact ⟨hh, value, tagged_of_parts (by decide) hs hn hf,
          (Expression.exact_read room true).sound value e he⟩
      case h_2 => cases h
    case h_3 => cases h
  complete j i h hd := by
    cases i
    case assign vs e =>
      obtain ⟨hh, targets, value, ht, hv, he⟩ := h
      have hg := guard_iff.mpr (hh.imp_right (⟨·, hd⟩))
      obtain ⟨room, tag, body, rfl, hs, hn, hf, hk⟩ :=
        exists_parts_of_tagged (by decide) (by decide) ht hd
      have hv := hv.complete (exact_readList (Variable.exact_read true) room)
        fun k h => hk k (by simp [h])
      have he := (Expression.exact_read room true).complete value e he (hk value (by simp))
      simp only [read, hg, hs, hn, hf, hv, he, bind, pure, Option.bind_some]
    case ret e =>
      obtain ⟨hh, value, ht, he⟩ := h
      have hg := guard_iff.mpr (hh.imp_right (⟨·, hd⟩))
      obtain ⟨room, tag, body, rfl, hs, hn, hf, hk⟩ :=
        exists_parts_of_tagged (by decide) (by decide) ht hd
      have he := (Expression.exact_read room true).complete value e he (hk value (by simp))
      simp only [read, hg, hs, hn, hf, he, bind, pure, Option.bind_some]

def Branches.PresentsOne (d : Dialect) (p : Expression × Chain) (j : Json) : Prop :=
  ∃ k b, Record ["condition", "body"] [some k, some b] j ∧ p.1.Presents d true k ∧
    p.2.Presents d true b

def Cases.PresentsOne (d : Dialect) (p : List Int32 × Chain) (j : Json) : Prop :=
  ∃ list b, Record ["labels", "body"] [some list, some b] j ∧
    Listed (fun n k => k = .int n.toInt) p.1 list ∧ p.2.Presents d true b

section

variable {d : Dialect} {held : Bool} {js : List Json} {elze : Option Chain} {elze? : Option Json}

theorem Branches.presents_ofList_iff {ps : List (Expression × Chain)} :
    (ofList ps elze).Presents d js elze? ↔
      List.Forall₂ (PresentsOne d) ps js ∧ Optional (Chain.Presents d true) elze elze? := by
  induction ps generalizing js
  case nil          =>
    rw [List.forall₂_nil_left_iff]
    cases elze <;> exact Iff.rfl
  case cons p ps hi =>
    change Branches.Presents d (.branch p.1 p.2 (ofList ps elze)) js elze? ↔ _
    simp only [Branches.Presents, hi, List.forall₂_cons_left_iff]
    constructor
    case mp  => rintro ⟨j, js, rfl, hp, hs, he⟩; exact ⟨⟨j, js, hp, hs, rfl⟩, he⟩
    case mpr => rintro ⟨⟨j, js, hp, hs, rfl⟩, he⟩; exact ⟨j, js, rfl, hp, hs, he⟩

theorem Cases.presents_ofList_iff {ps : List (List Int32 × Chain)} :
    (ofList ps elze).Presents d js elze? ↔
      List.Forall₂ (PresentsOne d) ps js ∧ Optional (Chain.Presents d true) elze elze? := by
  induction ps generalizing js
  case nil          =>
    rw [List.forall₂_nil_left_iff]
    cases elze <;> exact Iff.rfl
  case cons p ps hi =>
    change Cases.Presents d (.case p.1 p.2 (ofList ps elze)) js elze? ↔ _
    simp only [Cases.Presents, hi, List.forall₂_cons_left_iff]
    constructor
    case mp  => rintro ⟨j, js, rfl, hp, hs, he⟩; exact ⟨⟨j, js, hp, hs, rfl⟩, he⟩
    case mpr => rintro ⟨⟨j, js, hp, hs, rfl⟩, he⟩; exact ⟨j, js, rfl, hp, hs, he⟩

theorem Construct.presents_followedBy_iff {c : Construct} {next : Option Chain} :
    (c.followedBy next).Presents d held j ↔
      (held ∨ d.holds j) ∧ c.Presents d held (Optional (Chain.Presents d true) next) j := by
  cases next <;> rfl

theorem Chain.exists_eq_followedBy (c : Chain) :
    ∃ first next, c = Construct.followedBy first next := by
  cases c
  case last c      => exact ⟨c, none, rfl⟩
  case link c rest => exact ⟨c, some rest, rfl⟩

theorem Construct.Presents.exists_tagged {c : Construct} {follows : Option Json → Prop}
    (h : c.Presents d held follows j) : ∃ name fields vs,
      d.Tagged held "construct" ["seq", "if", "while", "switch"] name fields vs j := by
  cases c
  case seq    => obtain ⟨_, _, ht, _⟩ := h; exact ⟨_, _, _, ht⟩
  case cond   => obtain ⟨_, _, _, ht, _⟩ := h; exact ⟨_, _, _, ht⟩
  case loop   => obtain ⟨_, _, _, ht, _⟩ := h; exact ⟨_, _, _, ht⟩
  case switch => obtain ⟨_, _, _, _, ht, _⟩ := h; exact ⟨_, _, _, ht⟩

theorem Chain.Presents.exists_tagged {c : Chain} (h : c.Presents d held j) : ∃ name fields vs,
    d.Tagged held "construct" ["seq", "if", "while", "switch"] name fields vs j := by
  obtain ⟨first, next, rfl⟩ := c.exists_eq_followedBy
  exact (Construct.presents_followedBy_iff.mp h).right.exists_tagged

theorem Chain.not_presents_null (c : Chain) : ¬c.Presents d held .null := by
  intro h
  obtain ⟨_, _, _, _, hr, _⟩ := h.exists_tagged
  exact hr

end

theorem Branches.exact_readOne_zero :
    Exact Branches.readOne (Branches.PresentsOne .accepted) 0 where
  sound j p h := by simp [Branches.readOne] at h
  complete j p h hd := by
    obtain ⟨_, _, hr, _⟩ := h
    obtain ⟨r, hr, _⟩ := hr.exists_room hd
    cases hr

theorem Branches.exact_readOne_succ
    (hc : Exact (Chain.read true) (Chain.Presents .accepted true) room) :
    Exact Branches.readOne (Branches.PresentsOne .accepted) (room + 1) where
  sound j p h := by
    simp only [Branches.readOne, bind, Option.bind_eq_some_iff] at h
    obtain ⟨vs, hf, h⟩ := h
    split at h
    case h_1 k b =>
      simp only [Option.bind_eq_some_iff] at h
      obtain ⟨condition, hk, body, hb, h⟩ := h
      cases h
      exact ⟨k, b, fields?_eq_some_iff.mp hf, (Expression.exact_read room true).sound k _ hk,
        hc.sound b body hb⟩
    case h_2 => cases h
  complete j p h hd := by
    obtain ⟨k, b, hr, he, hb⟩ := h
    obtain ⟨r, hr', hk⟩ := hr.exists_room hd
    cases hr'
    have he := (Expression.exact_read room true).complete k p.1 he (hk k (by simp))
    have hb := hc.complete b p.2 hb (hk b (by simp))
    simp only [Branches.readOne, fields?_eq_some_iff.mpr hr, he, hb, bind, pure, Option.bind_some]

theorem Cases.exact_readOne_zero :
    Exact Cases.readOne (Cases.PresentsOne .accepted) 0 where
  sound j p h := by simp [Cases.readOne] at h
  complete j p h hd := by
    obtain ⟨_, _, hr, _⟩ := h
    obtain ⟨r, hr, _⟩ := hr.exists_room hd
    cases hr

theorem exact_int32? (room : Nat) :
    Exact (fun _ => int32?) (fun (n : Int32) j => j = .int n.toInt) room where
  sound _ _      := int32?_eq_some_iff.mp
  complete _ _ h := fun _ => int32?_eq_some_iff.mpr h

theorem Cases.exact_readOne_succ
    (hc : Exact (Chain.read true) (Chain.Presents .accepted true) room) :
    Exact Cases.readOne (Cases.PresentsOne .accepted) (room + 1) where
  sound j p h := by
    simp only [Cases.readOne, bind, Option.bind_eq_some_iff] at h
    obtain ⟨vs, hf, h⟩ := h
    split at h
    case h_1 list b =>
      simp only [Option.bind_eq_some_iff] at h
      obtain ⟨labels, hl, body, hb, h⟩ := h
      cases h
      exact ⟨list, b, fields?_eq_some_iff.mp hf,
        (exact_readList exact_int32? room).sound list labels hl, hc.sound b body hb⟩
    case h_2 => cases h
  complete j p h hd := by
    obtain ⟨list, b, hr, hl, hb⟩ := h
    obtain ⟨r, hr', hk⟩ := hr.exists_room hd
    cases hr'
    have hl := (exact_readList exact_int32? room).complete list p.1 hl (hk list (by simp))
    have hb := hc.complete b p.2 hb (hk b (by simp))
    simp only [Cases.readOne, fields?_eq_some_iff.mpr hr, hl, hb, bind, pure, Option.bind_some]

theorem Chain.exact_read_zero : Exact (Chain.read held) (Chain.Presents .accepted held) 0 where
  sound j c h := by simp [Chain.read] at h
  complete j c h hd := by
    obtain ⟨_, _, _, _, hr, _⟩ := h.exists_tagged
    obtain ⟨r, hr, _⟩ := hr.exists_room hd
    cases hr

section

variable (hc : Exact (Chain.read true) (Chain.Presents .accepted true) room)
variable (hb : Exact (readList Branches.readOne) (Listed (Branches.PresentsOne .accepted)) room)
variable (hs : Exact (readList Cases.readOne) (Listed (Cases.PresentsOne .accepted)) room)
include hc hb hs

theorem Chain.sound_read_succ (h : Chain.read held (room + 1) j = some c) :
    c.Presents .accepted held j := by
  simp only [Chain.read, bind, Option.bind_eq_some_iff] at h
  obtain ⟨_, hg, ⟨tag, body⟩, ht, name, hn, h⟩ := h
  have hh : held ∨ Dialect.accepted.holds j := (guard_iff.mp hg).imp_right And.left
  dsimp only at h
  split at h
  case h_1 =>
    simp only [Option.bind_eq_some_iff] at h
    obtain ⟨vs, hf, h⟩ := h
    split at h
    case h_1 list next =>
      simp only [Option.bind_eq_some_iff] at h
      obtain ⟨is, hi, next', ho, h⟩ := h
      cases h
      refine Construct.presents_followedBy_iff.mpr ⟨hh, list, next, ?_, ?_, .sound hc ho⟩
      case refine_1 => exact tagged_of_parts (by decide) ht hn hf
      case refine_2 =>
        exact (exact_readList (Instruction.exact_read true) room).sound list is hi
    case h_2 => cases h
  case h_2 =>
    simp only [Option.bind_eq_some_iff] at h
    obtain ⟨vs, hf, h⟩ := h
    split at h
    case h_1 branches elze next =>
      simp only [Option.bind_eq_some_iff] at h
      obtain ⟨ps, hp, elze', he, next', ho, h⟩ := h
      cases h
      obtain ⟨js, rfl, hl⟩ := hb.sound branches ps (Branches.readAll_eq ▸ hp)
      refine Construct.presents_followedBy_iff.mpr ⟨hh, js, elze, next, ?_, ?_, .sound hc ho⟩
      case refine_1 => exact tagged_of_parts (by decide) ht hn hf
      case refine_2 => exact Branches.presents_ofList_iff.mpr ⟨hl, .sound hc he⟩
    case h_2 => cases h
  case h_3 =>
    simp only [Option.bind_eq_some_iff] at h
    obtain ⟨vs, hf, h⟩ := h
    split at h
    case h_1 k b next =>
      simp only [Option.bind_eq_some_iff] at h
      obtain ⟨condition, he, loop, hl, next', ho, h⟩ := h
      cases h
      refine Construct.presents_followedBy_iff.mpr
        ⟨hh, k, b, next, ?_, ?_, hc.sound b loop hl, .sound hc ho⟩
      case refine_1 => exact tagged_of_parts (by decide) ht hn hf
      case refine_2 => exact (Expression.exact_read room true).sound k condition he
    case h_2 => cases h
  case h_4 =>
    simp only [Option.bind_eq_some_iff] at h
    obtain ⟨vs, hf, h⟩ := h
    split at h
    case h_1 k cases elze next =>
      simp only [Option.bind_eq_some_iff] at h
      obtain ⟨scrutinee, he, ps, hp, elze', hz, next', ho, h⟩ := h
      cases h
      obtain ⟨js, rfl, hl⟩ := hs.sound cases ps (Cases.readAll_eq ▸ hp)
      refine Construct.presents_followedBy_iff.mpr
        ⟨hh, k, js, elze, next, ?_, ?_, ?_, .sound hc ho⟩
      case refine_1 => exact tagged_of_parts (by decide) ht hn hf
      case refine_2 => exact (Expression.exact_read room true).sound k scrutinee he
      case refine_3 => exact Cases.presents_ofList_iff.mpr ⟨hl, .sound hc hz⟩
    case h_2 => cases h
  case h_5 => cases h

theorem Chain.complete_read_succ {c : Chain} (h : c.Presents .accepted held j)
    (hd : j.depth ≤ room + 1) : Chain.read held (room + 1) j = some c := by
  obtain ⟨first, next, rfl⟩ := c.exists_eq_followedBy
  rw [Construct.presents_followedBy_iff] at h
  obtain ⟨hh, h⟩ := h
  have hg := guard_iff.mpr (hh.imp_right (⟨·, hd⟩))
  have ho {a? : Option Chain} {j? : Option Json}
      (h : Optional (Chain.Presents .accepted true) a? j?)
      (hk : ∀ j, j? = some j → j.depth ≤ room) :
      Encoding.optional (Chain.read true room) j? = some a? :=
    h.complete hc Chain.not_presents_null hk
  cases first
  case seq is =>
    obtain ⟨list, next?, ht, hi, hf⟩ := h
    obtain ⟨r, tag, body, hr, ht, hn, hf', hk⟩ :=
      exists_parts_of_tagged (by decide) (by decide) ht hd
    cases hr
    have hi := (exact_readList (Instruction.exact_read true) room).complete list is hi
      (hk list (by simp))
    have hf := ho hf fun k h => hk k (by simp [h])
    simp only [Chain.read, hg, ht, hn, hf', hi, hf, bind, pure, Option.bind_some]
  case cond bs =>
    obtain ⟨js, elze?, next?, ht, hp, hf⟩ := h
    obtain ⟨r, tag, body, hr, ht, hn, hf', hk⟩ :=
      exists_parts_of_tagged (by decide) (by decide) ht hd
    cases hr
    rw [← bs.ofList_pairs, Branches.presents_ofList_iff] at hp
    have hb := hb.complete (.arr js) bs.pairs ⟨js, rfl, hp.left⟩ (hk _ (by simp))
    have he := ho hp.right fun k h => hk k (by simp [h])
    have hf := ho hf fun k h => hk k (by simp [h])
    simp only [Chain.read, hg, ht, hn, hf', Branches.readAll_eq, hb, he, hf, bind, pure,
      Option.bind_some, bs.ofList_pairs]
  case loop condition body =>
    obtain ⟨k, b, next?, ht, he, hl, hf⟩ := h
    obtain ⟨r, tag, rest, hr, ht, hn, hf', hk⟩ :=
      exists_parts_of_tagged (by decide) (by decide) ht hd
    cases hr
    have he := (Expression.exact_read room true).complete k condition he (hk k (by simp))
    have hl := hc.complete b body hl (hk b (by simp))
    have hf := ho hf fun k h => hk k (by simp [h])
    simp only [Chain.read, hg, ht, hn, hf', he, hl, hf, bind, pure, Option.bind_some]
  case switch scrutinee cs =>
    obtain ⟨k, js, elze?, next?, ht, he, hp, hf⟩ := h
    obtain ⟨r, tag, body, hr, ht, hn, hf', hk⟩ :=
      exists_parts_of_tagged (by decide) (by decide) ht hd
    cases hr
    rw [← cs.ofList_pairs, Cases.presents_ofList_iff] at hp
    have he := (Expression.exact_read room true).complete k scrutinee he (hk k (by simp))
    have hs := hs.complete (.arr js) cs.pairs ⟨js, rfl, hp.left⟩ (hk _ (by simp))
    have hz := ho hp.right fun k h => hk k (by simp [h])
    have hf := ho hf fun k h => hk k (by simp [h])
    simp only [Chain.read, hg, ht, hn, hf', Cases.readAll_eq, he, hs, hz, hf, bind, pure,
      Option.bind_some, cs.ofList_pairs]

end

mutual

theorem Chain.exact_read : (room : Nat) → ∀ held,
    Exact (Chain.read held) (Chain.Presents .accepted held) room
  | 0,        _ => Chain.exact_read_zero
  | room + 1, _ =>
    have hc := Chain.exact_read room true
    have hb := Branches.exact_readAll room
    have hs := Cases.exact_readAll room
    { sound    := fun _ _ => Chain.sound_read_succ hc hb hs
      complete := fun _ _ => Chain.complete_read_succ hc hb hs }

theorem Branches.exact_readAll : (room : Nat) →
    Exact (readList Branches.readOne) (Listed (Branches.PresentsOne .accepted)) room
  | 0        => exact_readList_zero
  | room + 1 => exact_readList_succ (Branches.exact_readOne room)

theorem Branches.exact_readOne : (room : Nat) →
    Exact Branches.readOne (Branches.PresentsOne .accepted) room
  | 0        => Branches.exact_readOne_zero
  | room + 1 => Branches.exact_readOne_succ (Chain.exact_read room true)

theorem Cases.exact_readAll : (room : Nat) →
    Exact (readList Cases.readOne) (Listed (Cases.PresentsOne .accepted)) room
  | 0        => exact_readList_zero
  | room + 1 => exact_readList_succ (Cases.exact_readOne room)

theorem Cases.exact_readOne : (room : Nat) →
    Exact Cases.readOne (Cases.PresentsOne .accepted) room
  | 0        => Cases.exact_readOne_zero
  | room + 1 => Cases.exact_readOne_succ (Chain.exact_read room true)

end

theorem Script.exact_read (room : Nat) : Exact Script.read (Script.Presents .accepted) room where
  sound j s h := by
    rcases room with _ | room
    · simp [read] at h
    simp only [read, bind, Option.bind_eq_some_iff] at h
    obtain ⟨vs, hf, h⟩ := h
    split at h
    case h_1 number arguments returns body =>
      simp only [Option.bind_eq_some_iff] at h
      obtain ⟨id, hi, as, ha, ts, ht, c, hc, h⟩ := h
      cases h
      obtain rfl := int32?_eq_some_iff.mp hi
      exact ⟨arguments, returns, body, fields?_eq_some_iff.mp hf,
        .sound (exact_readList (Variable.exact_read false) room) ha,
        .sound (exact_readList (Ty.exact_read false) room) ht,
        (Chain.exact_read room false).sound body c hc⟩
    case h_2 => cases h
  complete j s h hd := by
    obtain ⟨arguments, returns, body, hr, ha, ht, hc⟩ := h
    obtain ⟨room, rfl, hk⟩ := hr.exists_room hd
    have ha := ha.complete (exact_readList (Variable.exact_read false) room)
      fun k h => hk k (by simp [h])
    have ht := ht.complete (exact_readList (Ty.exact_read false) room)
      fun k h => hk k (by simp [h])
    have hc := (Chain.exact_read room false).complete body s.body hc (hk body (by simp))
    have hi := int32?_toInt s.id
    generalize Json.int s.id.toInt = number at hr hi
    simp only [read, fields?_eq_some_iff.mpr hr, hi, ha, ht, hc, bind, pure, Option.bind_some]

theorem Module.exact_read (room : Nat) : Exact Module.read (Module.Presents .accepted) room where
  sound j m h := by
    rcases room with _ | room
    · simp [read] at h
    simp only [read, bind, Option.bind_eq_some_iff] at h
    obtain ⟨vs, hf, h⟩ := h
    split at h
    case h_1 name scripts =>
      simp only [Option.bind_eq_some_iff] at h
      obtain ⟨ss, hs, h⟩ := h
      cases h
      exact ⟨scripts, fields?_eq_some_iff.mp hf,
        (exact_readList Script.exact_read room).sound scripts ss hs⟩
    case h_2 => cases h
  complete j m h hd := by
    obtain ⟨scripts, hr, hs⟩ := h
    obtain ⟨room, rfl, hk⟩ := hr.exists_room hd
    have hs := (exact_readList Script.exact_read room).complete scripts m.scripts hs
      (hk scripts (by simp))
    simp only [read, fields?_eq_some_iff.mpr hr, hs, bind, pure, Option.bind_some]

-- Each reader takes exactly what presents a value, and reads it as that value.
theorem exact_readers :
    Exact Module.read (Module.Presents .accepted) 127 ∧
    Exact Script.read (Script.Presents .accepted) 127 ∧
    Exact (Chain.read false) (Chain.Presents .accepted false) 127 ∧
    Exact (Instruction.read false) (Instruction.Presents .accepted false) 127 ∧
    Exact (Expression.read false) (Expression.Presents .accepted false) 127 ∧
    Exact (Variable.read false) (Variable.Presents .accepted false) 127 ∧
    Exact (Constant.read false) (Constant.Presents .accepted false) 127 ∧
    (∀ text m, Module.ofText? text = some m →
      ∃ j, Json.read text = some j ∧ m.Presents .accepted j) ∧
    ∀ text j m, Json.read text = some j → m.Presents .accepted j → j.depth ≤ 127 →
      Module.ofText? text = some m := by
  refine ⟨Module.exact_read _, Script.exact_read _, Chain.exact_read _ _, Instruction.exact_read _ _,
    Expression.exact_read _ _, Variable.exact_read _ _, Constant.exact_read _ _, ?_, ?_⟩
  case refine_1 =>
    intro text m h
    obtain ⟨j, hj, hm⟩ := Option.bind_eq_some_iff.mp h
    exact ⟨j, hj, (Module.exact_read _).sound j m hm⟩
  case refine_2 =>
    intro text j m hj hm hd
    exact Option.bind_eq_some_iff.mpr ⟨j, hj, (Module.exact_read _).complete j m hm hd⟩

-- A script without names for its fields. It returns an expression whose value comes first.
def bareReturn : Json :=
  .arr [.int 1,
    .obj [("value", .arr []), ("x", .arr [.null]), ("expr", .obj [("compound", .obj [])])]]

def bareScript : Json :=
  .arr [.int 7, .arr [], .arr [.obj [("int", .null)]], .arr [.str "seq", .arr [bareReturn]]]

def unsoundReturn : Json :=
  .obj [("x", .broken), ("insn", .str "return"),
    ("expression", .arr [.str "compound", .arr []])]

-- Inside of the script the number of a tag will do. But it does not for the instruction alone, which
-- has to be sound there besides.
theorem read_bareScript :
    let i : Instruction := .ret (.compound [])
    let s : Script := { id := 7, returns := [.int], body := .last (.seq [i]) }
    s.Presents .accepted bareScript ∧ Script.read 127 bareScript = some s ∧
      i.Presents .accepted true bareReturn ∧
      (∀ i, ¬Instruction.Presents .accepted false i bareReturn) ∧
      i.Presents .accepted true unsoundReturn ∧
        ∀ i, ¬Instruction.Presents .accepted false i unsoundReturn := by
  intro i s
  have he : (Expression.compound []).Presents .accepted true
      (.obj [("value", .arr []), ("x", .arr [.null]), ("expr", .obj [("compound", .obj [])])]) :=
    ⟨.obj [("compound", .obj [])], .arr [], by simp [Record], .inr (.inr ⟨rfl, rfl⟩), .inl rfl,
      [], rfl, rfl⟩
  have hi : i.Presents .accepted true bareReturn :=
    ⟨.inl rfl, _, ⟨.int 1, ⟨rfl, 0, rfl⟩, .inr ⟨rfl, 1, rfl, rfl⟩⟩, he⟩
  have hc : (Expression.compound []).Presents .accepted true (.arr [.str "compound", .arr []]) :=
    ⟨.str "compound", .arr [], ⟨rfl, 0, rfl⟩, .inl rfl, .inl rfl, [], rfl, rfl⟩
  have hu : i.Presents .accepted true unsoundReturn :=
    ⟨.inl rfl, _, ⟨.str "return", by simp [Record, unsoundReturn], .inl rfl⟩, hc⟩
  have hs : s.Presents .accepted bareScript :=
    ⟨_, _, _, ⟨rfl, 0, rfl⟩, ⟨_, rfl, .nil⟩, ⟨_, rfl, .cons (.inr (.inl rfl)) .nil⟩, .inr rfl,
      _, none, ⟨.str "seq", ⟨rfl, 1, rfl⟩, .inl rfl⟩, ⟨_, rfl, .cons hi .nil⟩, .inl rfl⟩
  obtain ⟨_, scripts, _, instructions, _⟩ := exact_readers
  refine ⟨hs, scripts.complete _ s hs (by decide), hi, fun i h => ?_, hu, fun i h => ?_⟩
  case refine_1 => cases (instructions.complete _ i h (by decide)).symm.trans rfl
  case refine_2 => cases (instructions.complete _ i h (by decide)).symm.trans rfl

def wordedMark : Json :=
  .obj [("expr", .obj [("compound", .null)]), ("value", .arr [])]

def emptiedMark : Json :=
  .obj [("value", .arr [.obj [("expr", .obj [("compound", .obj [])]), ("value", .arr [])]]),
    ("expr", .str "compound")]

def emptiedWord : Json :=
  .obj [("kind", .str "local"), ("ty", .obj [("int", .obj [])]), ("id", .int 0)]

def countedTag : Json :=
  .obj [("construct", .str "seq"), ("instructions", .arr []),
    ("next", .obj [("construct", .int 0), ("instructions", .arr [])])]

def unsoundMember : Json :=
  .obj [("kind", .str "local"), ("ty", .str "int"), ("id", .int 0), ("x", .broken)]

theorem Expression.not_presents_obj {e : Expression} :
    ¬e.Presents .written held (.obj [("expr", .obj ms), ("value", value)]) := by
  intro h
  obtain ⟨name, content, tag, other, hr, hm, _⟩ := exists_marked_of_presents h
  obtain ⟨rfl, _⟩ : .obj ms = tag ∧ value = other := by simpa [Record] using hr
  cases hm

-- Some of what is read is not written like that, and not all that is written can be read.
theorem read_unwritten :
    (Expression.read false 127 wordedMark = some (.compound []) ∧
      ∀ e, ¬Expression.Presents .written false e wordedMark) ∧
    (Expression.read false 127 emptiedMark = some (.compound [.compound []]) ∧
      ∀ e, ¬Expression.Presents .written false e emptiedMark) ∧
    (Variable.read false 127 emptiedWord = some ⟨.frame, .int, 0⟩ ∧
      ∀ v, ¬Variable.Presents .written false v emptiedWord) ∧
    (Chain.read false 127 countedTag = some (.link (.seq []) (.last (.seq []))) ∧
      ∀ c, ¬Chain.Presents .written false c countedTag) ∧
    Variable.Presents .written false ⟨.frame, .int, 0⟩ unsoundMember ∧
      Variable.read false 127 unsoundMember = none := by
  have written_tag (held names s j) : Dialect.written.tag held names s j ↔ j = .str s := Iff.rfl
  have written_mark (held s j) : Dialect.written.mark held s j ↔ j = .str s := Iff.rfl
  refine ⟨⟨rfl, fun e h => ?_⟩, ⟨rfl, fun e h => ?_⟩, ⟨rfl, fun v h => ?_⟩, ⟨rfl, fun c h => ?_⟩,
    ?_, rfl⟩
  case refine_1 => exact Expression.not_presents_obj h
  case refine_2 =>
    cases e <;> simp [Expression.Presents, Dialect.Marked, Record, emptiedMark, written_mark] at h
    obtain ⟨e, _, he, _⟩ := List.forall₂_cons_right_iff.mp (Expression.allPresent_iff.mp h.right)
    exact Expression.not_presents_obj he
  case refine_3 =>
    obtain ⟨_, ty, ⟨tag, hr, _⟩, hw⟩ := h
    obtain ⟨_, rfl, _⟩ : .str "local" = tag ∧ .obj [("int", .obj [])] = ty ∧ _ := by
      simpa [Record, emptiedWord] using hr
    simp [Ty.Presents, Dialect.written] at hw
  case refine_4 =>
    -- only a run with a successor has the tag and the fields of this one
    cases c
    case last first      =>
      obtain ⟨_, h⟩ := h
      cases first <;> simp [Construct.Presents, Dialect.Tagged, Record, countedTag, written_tag] at h
      obtain ⟨next, hn, _, rfl | rfl⟩ := h <;> simp at hn
    case link first rest =>
      obtain ⟨_, h⟩ := h
      cases first <;> simp [Construct.Presents, Dialect.Tagged, Record, countedTag, written_tag] at h
      obtain ⟨name, fields, vs, tag, hr, ht⟩ := h.right.exists_tagged
      simp [Record, (written_tag ..).mp ht] at hr
  case refine_5 =>
    exact ⟨.inr trivial, .str "int", ⟨.str "local", by simp [Record, unsoundMember], rfl⟩, .inl rfl⟩

end ClientScript
