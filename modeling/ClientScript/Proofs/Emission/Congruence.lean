import ClientScript.Proofs.Emission.Renderable
import ClientScript.Proofs.Replaced

namespace ClientScript

open List (Forall₂)

-- Errors that are the same, but for an expression that both of them quote.
inductive EmitError.Quoting (W : Expression → Expression → Prop) : EmitError → EmitError → Prop
  | same (x : EmitError) : EmitError.Quoting W x x
  | scrutinee {e f} (h : W e f) (values : Nat) :
    EmitError.Quoting W (.malformed .switch (.scrutinee e.dump values))
      (.malformed .switch (.scrutinee f.dump values))
  | notInt {e f} (h : W e f) (part : Part) :
    EmitError.Quoting W (.malformed part (.notInt e.dump)) (.malformed part (.notInt f.dump))
  | component {e f} (h : W e f) (op : Opcode) :
    EmitError.Quoting W (.malformed .hook (.component op e.dump))
      (.malformed .hook (.component op f.dump))

theorem EmitError.Quoting.eq {W : Expression → Expression → Prop} {x y : EmitError}
    (hW : ∀ e f, W e f → e.dump = f.dump) (h : Quoting W x y) : x = y := by
  cases h
  case same              => rfl
  case scrutinee h _     => rw [hW _ _ h]
  case notInt h _        => rw [hW _ _ h]
  case component h _     => rw [hW _ _ h]

-- Two outcomes, each with its own names. They can quote different expressions when they fail, and
-- where the names are the same, so are the values.
abbrev Agree (W : Expression → Expression → Prop) (names names' : Names) (x y : Except EmitError α) :
    Prop :=
  Alike (EmitError.Quoting W) (fun a b => names = names' → a = b) x y

variable {W S : Expression → Expression → Prop} {names names' : Names}

namespace Agree

variable {x y : Except EmitError α}

theorem refl (x : Except EmitError α) : Agree W names names' x x :=
  (Alike.refl .same x).mono (fun _ _ => id) fun _ _ h _ => h

theorem error (e : EmitError) : Agree W names names' (.error e : Except EmitError α) (.error e) :=
  Alike.error (.same e)

theorem bind_pure {f g : α → β} (h : Agree W names names' x y)
    (hf : names = names' → ∀ a, f a = g a) :
    Agree W names names' (x >>= fun a => pure (f a)) (y >>= fun a => pure (g a)) :=
  h.bind fun a b hab => .ok fun hn => by rw [hab hn, hf hn]

theorem bind_same {f g : α → Except EmitError β} (h : ∀ a, Agree W names names' (f a) (g a)) :
    Agree W names names' (x >>= f) (x >>= g) :=
  (Alike.refl .same x).bind_eq h

theorem mapM {f : α → Except EmitError β} {g : γ → Except EmitError β} {as : List α} {cs : List γ}
    (h : Forall₂ (fun a c => Agree W names names' (f a) (g c)) as cs) :
    Agree W names names' (as.mapM f) (cs.mapM g) :=
  (Alike.mapM h).mono (fun _ _ => id) fun _ _ hb hn =>
    List.forall₂_eq_eq_eq ▸ hb.imp fun _ _ h => h hn

end Agree

structure Operand.Like (W : Expression → Expression → Prop) (names names' : Names)
    (o o' : Operand) : Prop where
  source   : W o.source o'.source
  constant : o.source.constant? = o'.source.constant?
  text     : Agree W names names' o.text o'.text

section Operands

variable {os os' : List Operand} (h : Forall₂ (Operand.Like W names names') os os')

namespace Operand

variable {part : Part}

theorem Like.int {o o' : Operand} (h : o.Like W names names' o') :
    Alike (EmitError.Quoting W) Eq (o.int part) (o'.int part) := by
  rw [Operand.int, Operand.int, h.constant]
  split
  case h_1 => exact .ok rfl
  case h_2 => exact .error (.notInt h.source part)

include h

theorem listed_agree : Agree W names names' (listed os) (listed os') := by
  have ht : Forall₂ (Agree W names names') (os.map Operand.text) (os'.map Operand.text) :=
    List.forall₂_map_left_iff.mpr <| List.forall₂_map_right_iff.mpr <| h.imp fun _ _ h => h.text
  exact (Agree.mapM ht).bind_pure fun _ _ => rfl

theorem grouped_agree : Agree W names names' (grouped os) (grouped os') := by
  cases h
  case nil         => exact .refl _
  case cons ho hos => exact (listed_agree (.cons ho hos)).bind_pure fun _ _ => rfl

theorem two_alike :
    Alike (EmitError.Quoting W)
      (fun x y => x.1.Like W names names' y.1 ∧ x.2.Like W names names' y.2) (two part os)
      (two part os') := by
  rcases h with _ | ⟨ha, _ | ⟨hb, _ | ⟨_, h⟩⟩⟩
  case cons.cons.nil => exact .ok ⟨ha, hb⟩
  all_goals simp only [two, List.length_cons, List.length_nil]
  case cons.cons.cons => exact h.length_eq ▸ .error (.same _)
  all_goals exact .error (.same _)

theorem three_alike :
    Alike (EmitError.Quoting W)
      (fun x y => x.1.Like W names names' y.1 ∧ x.2.1.Like W names names' y.2.1 ∧
        x.2.2.Like W names names' y.2.2) (three part os) (three part os') := by
  rcases h with _ | ⟨ha, _ | ⟨hb, _ | ⟨hc, _ | ⟨_, h⟩⟩⟩⟩
  case cons.cons.cons.nil => exact .ok ⟨ha, hb, hc⟩
  all_goals simp only [three, List.length_cons, List.length_nil]
  case cons.cons.cons.cons => exact h.length_eq ▸ .error (.same _)
  all_goals exact .error (.same _)

theorem splitLast?_like :
    splitLast? os = none ∧ splitLast? os' = none ∨
      ∃ front front' o o', splitLast? os = some (front, o) ∧ splitLast? os' = some (front', o') ∧
        Forall₂ (Like W names names') front front' ∧ o.Like W names names' o' := by
  rcases eq_nil_or_concat_of_forall₂ h with ⟨rfl, rfl⟩ | ⟨front, front', o, o', rfl, rfl, hf, ho⟩
  case inl => exact .inl ⟨rfl, rfl⟩
  case inr => exact .inr ⟨front, front', o, o', by simp [splitLast?], by simp [splitLast?], hf, ho⟩

end Operand

namespace Opcode

variable {op : Opcode} {part : Part} {symbol : String}

theorem slotText_agree {array array' index index' : Operand}
    (ha : array.Like W names names' array') (hi : index.Like W names names' index') :
    Agree W names names' (slotText array index) (slotText array' index') :=
  ha.text.bind fun _ _ ha => hi.text.bind_pure fun hn _ => by rw [ha hn]

theorem joinedText_agree {o o' : Operand} (h : o.Like W names names' o') :
    Agree W names names' (joinedText o) (joinedText o') := by
  rw [joinedText, joinedText, h.constant]
  split
  case h_1 => exact .refl _
  case h_2 => exact h.text.bind_pure fun _ _ => rfl

include h

theorem invokeText_agree :
    Agree W names names' (invokeText names os) (invokeText names' os') := by
  cases h
  case nil         => exact .error _
  case cons ho hos =>
    exact ho.int.bind_eq fun _ => (Operand.grouped_agree hos).bind_pure fun hn _ => by rw [hn]

theorem defineArrayText_agree : Agree W names names' (defineArrayText os) (defineArrayText os') :=
  (Operand.three_alike h).bind fun _ _ ⟨ha, hb, hc⟩ =>
    hb.text.bind fun _ _ hb => ha.text.bind fun _ _ ha => hc.text.bind_pure fun hn _ => by
      rw [ha hn, hb hn]

theorem readArrayText_agree : Agree W names names' (readArrayText os) (readArrayText os') :=
  (Operand.two_alike h).bind fun _ _ ⟨ha, hi⟩ => slotText_agree ha hi

theorem writeArrayText_agree : Agree W names names' (writeArrayText os) (writeArrayText os') :=
  (Operand.three_alike h).bind fun _ _ ⟨ha, hb, hc⟩ =>
    (slotText_agree ha hb).bind fun _ _ hs => hc.text.bind_pure fun hn _ => by rw [hs hn]

theorem infixText_agree :
    Agree W names names' (infixText part symbol os) (infixText part symbol os') :=
  (Operand.two_alike h).bind fun _ _ ⟨ha, hb⟩ =>
    ha.text.bind fun _ _ ha => hb.text.bind_pure fun hn _ => by rw [ha hn]

theorem joinText_agree : Agree W names names' (joinText os) (joinText os') :=
  (Agree.mapM (h.imp fun _ _ => joinedText_agree)).bind_pure fun _ _ => rfl

theorem callText_agree : Agree W names names' (op.callText os) (op.callText os') :=
  .bind_same fun _ => (Operand.grouped_agree h).bind_pure fun _ _ => rfl

theorem dotCallText_agree : Agree W names names' (op.dotCallText os) (op.dotCallText os') := by
  rw [dotCallText, dotCallText]
  rcases Operand.splitLast?_like h with ⟨hl, hl'⟩ | ⟨front, front', o, o', hl, hl', hf, ho⟩
  case inl =>
    rw [hl, hl']
    exact .error _
  case inr =>
    rw [hl, hl']
    exact ho.int.bind_eq fun _ => (callText_agree hf).bind_pure fun _ _ => rfl

theorem splitTriggers_alike :
    Alike (EmitError.Quoting W)
      (fun x y => Forall₂ (Operand.Like W names names') x.1 y.1 ∧
        Forall₂ (Operand.Like W names names') x.2 y.2) (op.splitTriggers os)
      (op.splitTriggers os') := by
  rw [splitTriggers, splitTriggers]
  rcases Operand.splitLast?_like h with ⟨hl, hl'⟩ | ⟨front, front', o, o', hl, hl', hf, ho⟩
  case inl =>
    rw [hl, hl']
    exact .error (.same _)
  case inr =>
    simp only [hl, hl', hf.length_eq]
    refine ho.int.bind_eq fun n => ?_
    split
    case isTrue  => exact .ok ⟨List.forall₂_take _ hf, List.forall₂_drop _ hf⟩
    case isFalse => exact .error (.same _)

theorem callbackText_agree :
    Agree W names names' (op.callbackText names os) (op.callbackText names' os') := by
  cases h
  case nil         => exact .error _
  case cons ho hos =>
    rw [callbackText, callbackText]
    refine ho.int.bind_eq fun id => ?_
    split
    case isTrue  => exact Agree.refl _
    case isFalse =>
      refine (splitTriggers_alike hos).bind fun r r' hr => ?_
      obtain ⟨ha, ht⟩ := hr
      obtain ⟨as, ts⟩ := r
      obtain ⟨as', ts'⟩ := r'
      refine (Operand.listed_agree ha).bind fun _ _ hl => ?_
      dsimp only at ht ⊢
      rcases ht with _ | ⟨ht, hts⟩
      case nil  => exact .ok fun hn => by rw [hn, hl hn]
      case cons =>
        exact (Operand.listed_agree (.cons ht hts)).bind fun _ _ ht =>
          .ok fun hn => by rw [hn, hl hn, ht hn]

theorem hookText_agree :
    Agree W names names' (op.hookText names target os) (op.hookText names' target os') := by
  rw [hookText, hookText]
  rcases Operand.splitLast?_like h with ⟨hl, hl'⟩ | ⟨front, front', o, o', hl, hl', hf, ho⟩
  case inl =>
    rw [hl, hl']
    exact .error _
  case inr =>
    simp only [hl, hl', ho.constant]
    cases target
    case named   =>
      exact .bind_same fun _ => (callbackText_agree hf).bind fun _ _ hc =>
        ho.text.bind_pure fun hn _ => by rw [hc hn]
    case created =>
      dsimp only
      split
      case h_1 => exact Alike.error (.component ho.source op)
      case h_2 => exact .bind_same fun _ => (callbackText_agree hf).bind_pure fun _ _ => rfl

theorem operationText_agree : Agree W names names' (op.operationText names inCalc os)
    (op.operationText names' inCalc os') := by
  cases hf : op.form <;> simp only [operationText, hf]
  case invoke      => exact invokeText_agree h
  case defineArray => exact defineArrayText_agree h
  case readArray   => exact readArrayText_agree h
  case writeArray  => exact writeArrayText_agree h
  case join        => exact joinText_agree h
  case hook        => exact hookText_agree h
  case branch      => exact infixText_agree h
  case «calc»      => exact (infixText_agree h).bind_pure fun _ _ => rfl
  case dotCall     => exact dotCallText_agree h
  case call        => exact callText_agree h

end Opcode
end Operands

-- Whether a number has a text is decided by its type. Names only choose between texts.
theorem Ty.intText_agree {ty : Ty} {n : Int32} :
    Agree W names names' (ty.intText names n) (ty.intText names' n) := by
  have h : (ty.intText? names n).isSome ↔ (ty.intText? names' n).isSome :=
    intText?_isSome_iff.trans intText?_isSome_iff.symm
  rw [intText, intText]
  cases hn : ty.intText? names n <;> cases hn' : ty.intText? names' n <;> simp [hn, hn'] at h
  case none.none => exact .error _
  case some.some =>
    refine .ok fun e => ?_
    subst e
    exact Option.some.inj (hn.symm.trans hn')

-- What related expressions must have in common for scripts to agree that differ in them: their texts,
-- the texts of what is returned, and the types that a `switch` looks at.
structure Exchangeable (W S : Expression → Expression → Prop) (names names' : Names) : Prop where
  text   : ∀ {e f}, W e f → Agree W names names' (e.text names false) (f.text names' false)
  list   : ∀ {e f}, W e f →
    Agree W names names' (Operand.grouped (Expression.operands names false e.toList))
      (Operand.grouped (Expression.operands names' false f.toList))
  switch : ∀ {e f}, S e f → W e f
  types  : ∀ {e f}, S e f → e.types = f.types

section Lines

variable (hx : Exchangeable W S names names')
include hx

theorem Instruction.Replaced.text_agree {i j : Instruction} (h : i.Replaced W j) :
    Agree W names names' (i.text names declared) (j.text names' declared) := by
  cases h
  case assign h => exact .bind_same fun _ => (hx.text h).bind_pure fun _ _ => rfl
  case ret h    => exact (hx.list h).bind_pure fun _ _ => rfl

theorem runLines_agree {is js : List Instruction} (h : Forall₂ (Instruction.Replaced W) is js) :
    Agree W names names' (runLines names declared is) (runLines names' declared js) := by
  induction h generalizing declared
  case nil         => exact .refl _
  case cons h _ hi =>
    rw [runLines, runLines, targetsOf_eq_of_replaced (.cons h .nil)]
    exact (h.text_agree hx).bind fun _ _ ht => hi.bind_pure fun hn _ => by rw [ht hn]

theorem Expression.soleType_alike {e f : Expression} (h : S e f) :
    Alike (EmitError.Quoting W) Eq e.soleType f.soleType := by
  rw [soleType, soleType, hx.types h]
  split
  case h_1 => exact .ok rfl
  case h_2 => exact .error (.scrutinee (hx.switch h) _)

theorem Construct.Replaced.opening_alike {c d : Construct} (h : c.Replaced W S d) :
    Alike (EmitError.Quoting W) Eq c.opening d.opening := by
  cases h
  case seq        => exact .ok rfl
  case loop       => exact .ok rfl
  case cond h     =>
    cases h
    case branch => exact .ok rfl
    all_goals exact .error (.same _)
  case switch h _ => exact (Expression.soleType_alike hx h).map fun _ _ _ => rfl

end Lines

mutual

theorem Chain.Replaced.lines_agree (hx : Exchangeable W S names names') : {c d : Chain} →
    c.Replaced W S d → ∀ {declared},
      Agree W names names' (c.lines names declared) (d.lines names' declared)
  | _, _, .last h,      _ => by
    rw [Chain.lines, Chain.lines]
    exact h.lines_agree hx
  | _, _, .link h rest, _ => by
    rw [Chain.lines, Chain.lines, targetsOf_eq_of_replaced h.instructions]
    exact (h.lines_agree hx).bind fun _ _ hl =>
      (rest.lines_agree hx).bind_pure fun hn _ => by rw [hl hn]

theorem Construct.Replaced.lines_agree (hx : Exchangeable W S names names') : {c d : Construct} →
    c.Replaced W S d → ∀ {declared},
      Agree W names names' (c.lines names declared) (d.lines names' declared)
  | _, _, .seq h,          _ => by
    rw [Construct.lines, Construct.lines]
    exact runLines_agree hx h
  | _, _, .cond h,         _ => by
    rw [Construct.lines, Construct.lines]
    exact ((Construct.Replaced.cond h).opening_alike hx).bind_eq fun _ => h.lines_agree hx
  | _, _, .loop h body,    _ => by
    rw [Construct.lines, Construct.lines]
    exact (hx.text h).bind fun _ _ hc =>
      (body.lines_agree hx).bind_pure fun hn _ => by rw [hc hn]
  | _, _, .switch h cases, _ => by
    rw [Construct.lines, Construct.lines]
    exact (Expression.soleType_alike hx h).bind_eq fun _ =>
      (hx.text (hx.switch h)).bind fun _ _ he =>
        (cases.lines_agree hx).bind_pure fun hn _ => by rw [he hn]

theorem Branches.Replaced.lines_agree (hx : Exchangeable W S names names') : {as bs : Branches} →
    as.Replaced W S bs → ∀ {declared lead},
      Agree W names names' (as.lines names declared lead) (bs.lines names' declared lead)
  | _, _, .done,               _, _ => by
    rw [Branches.lines, Branches.lines]
    exact .refl _
  | _, _, .otherwise body,     _, _ => by
    rw [Branches.lines, Branches.lines]
    exact (body.lines_agree hx).bind_pure fun _ _ => rfl
  | _, _, .branch h body rest, _, _ => by
    rw [Branches.lines, Branches.lines, targetsOf_eq_of_replaced body.instructions]
    exact (hx.text h).bind fun _ _ hc => (body.lines_agree hx).bind fun _ _ hb =>
      (rest.lines_agree hx).bind_pure fun hn _ => by rw [hc hn, hb hn]

theorem Cases.Replaced.lines_agree (hx : Exchangeable W S names names') : {as bs : Cases} →
    as.Replaced W S bs → ∀ {declared ty},
      Agree W names names' (as.lines names declared ty) (bs.lines names' declared ty)
  | _, _, .done,           _, _  => by
    rw [Cases.lines, Cases.lines]
    exact .refl _
  | _, _, .otherwise body, _, _  => by
    rw [Cases.lines, Cases.lines]
    exact (body.lines_agree hx).bind_pure fun _ _ => rfl
  | _, _, @Cases.Replaced.case _ _ ns _ _ _ _ body rest, _, ty => by
    have labels : Agree W names names' (ns.mapM (ty.intText names)) (ns.mapM (ty.intText names')) :=
      .mapM (List.forall₂_same.mpr fun _ _ => Ty.intText_agree)
    rw [Cases.lines, Cases.lines, targetsOf_eq_of_replaced body.instructions]
    split
    case isTrue  => exact .error _
    case isFalse =>
      exact labels.bind fun _ _ hl => (body.lines_agree hx).bind fun _ _ hb =>
        (rest.lines_agree hx).bind_pure fun hn _ => by rw [hl hn, hb hn]

end

section Items

variable (hx : Exchangeable W S names names')
include hx

theorem Item.Replaced.lines_agree {i j : Item} (h : i.Replaced W S j) :
    Agree W names names' (i.lines names declared) (j.lines names' declared) := by
  cases h
  case instruction h => exact (h.text_agree hx).bind_pure fun _ _ => rfl
  case block h       => exact h.lines_agree hx

theorem Item.Replaced.refusal_quoting {i j : Item} (h : i.Replaced W S j) :
    EmitError.Quoting W i.refusal j.refusal := by
  cases h
  case instruction h => exact .same _
  case block c d h   =>
    have ho := h.opening_alike hx
    rw [Item.refusal, Item.refusal]
    generalize c.opening = x at ho ⊢
    generalize d.opening = y at ho ⊢
    cases ho
    case ok      => exact .same _
    case error h => exact h

theorem itemLines_agree {is js : List Item} (h : Forall₂ (Item.Replaced W S) is js) :
    Agree W names names' (itemLines names declared is) (itemLines names' declared js) := by
  induction h generalizing declared
  case nil         => exact .refl _
  case cons h _ hi =>
    rw [itemLines, itemLines, targetsOf_eq_of_replaced h.instructions]
    exact (h.lines_agree hx).bind fun _ _ hl => hi.bind_pure fun hn _ => by rw [hl hn]

end Items

namespace Script.Replaced

variable {s t : Script} (h : s.Replaced W S t)
include h

theorem signature_agree : Agree W names names' (s.signature names) (t.signature names') := by
  rw [signature, signature, h.id, h.arguments, h.returns]
  exact .bind_same fun _ => .ok fun hn => by rw [hn]

variable (hx : Exchangeable W S names names')
include hx

theorem bodyLines_agree : Agree W names names' (s.bodyLines names) (t.bodyLines names') := by
  have hu := h.unwritten
  rw [bodyLines_eq, bodyLines_eq, h.arguments]
  refine (itemLines_agree hx h.written).bind fun ls ls' hl => ?_
  generalize s.unwritten = is at hu ⊢
  generalize t.unwritten = js at hu ⊢
  rcases hu with _ | ⟨_, _ | ⟨hi, _⟩⟩
  case nil       => exact .ok hl
  case cons.nil  => exact .ok hl
  case cons.cons => exact .error (hi.refusal_quoting hx)

-- Scripts that differ in exchangeable expressions have the same text, or they fail for the same
-- reason. The reason can quote such an expression.
theorem emit_alike {unit unit' : String} :
    Alike (EmitError.Quoting W) (fun text text' => names = names' ∧ unit = unit' → text = text')
      (s.emit names unit) (t.emit names' unit') := by
  have hl : Agree W names names' (s.lines names) (t.lines names') :=
    h.signature_agree.bind fun _ _ hs =>
      (h.bodyLines_agree hx).bind_pure fun hn _ => by rw [hs hn]
  rw [emit, emit, h.id]
  exact hl.bind fun _ _ hl => .ok fun hn => by rw [hl hn.left, hn.right]

end Script.Replaced

end ClientScript
