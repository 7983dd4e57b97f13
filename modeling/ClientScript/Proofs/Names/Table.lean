import ClientScript.Names.Table
import ClientScript.Proofs.Outcome
import ClientScript.Proofs.Text.Decimal

namespace ClientScript

namespace Text

theorem splitAtFirst?_append (h : c ∉ front) :
    splitAtFirst? c (front ++ c :: rest) = some (front, rest) := by
  have hf : ∀ d ∈ front, decide (d ≠ c) := fun d hd => decide_eq_true fun e => h (e ▸ hd)
  have he : Ends (fun d => decide (d ≠ c)) (c :: rest) := .cons (by simp)
  rw [splitAtFirst?, he.dropWhile_append hf, he.takeWhile_append hf]

theorem splitAtFirst?_eq_some_iff : splitAtFirst? c cs = some (front, rest) ↔
    cs = front ++ c :: rest ∧ c ∉ front := by
  constructor
  case mpr => rintro ⟨rfl, h⟩; exact splitAtFirst?_append h
  case mp  =>
    intro h
    by_cases hc : c ∈ cs
    case pos =>
      obtain ⟨front, rest, rfl, hf⟩ := List.eq_append_cons_of_mem hc
      cases (splitAtFirst?_append hf).symm.trans h
      exact ⟨rfl, hf⟩
    case neg =>
      have hd : cs.dropWhile (· ≠ c) = [] :=
        List.dropWhile_eq_nil_iff.mpr fun d hd => decide_eq_true fun e => hc (e ▸ hd)
      rw [splitAtFirst?, hd] at h
      cases h

theorem splitAtFirst?_eq_none_iff : splitAtFirst? c cs = none ↔ c ∉ cs := by
  constructor
  case mp  =>
    intro h hc
    obtain ⟨front, rest, rfl, hf⟩ := List.eq_append_cons_of_mem hc
    cases (splitAtFirst?_append hf).symm.trans h
  case mpr =>
    intro h
    refine Option.eq_none_iff_forall_ne_some.mpr fun ⟨front, rest⟩ hs => h ?_
    exact (splitAtFirst?_eq_some_iff.mp hs).left ▸ List.mem_append_right front List.mem_cons_self

end Text

namespace NameTable

structure Significant (line : List Char) : Prop where
  notBlank   : ∃ c ∈ line, ¬Text.isBlank c
  notComment : line.head? ≠ some '#'

-- A line with an id and a name. Blanks around the id do not count, and all that follows the first
-- tab is the name.
def IsEntry (line : List Char) (id : Int32) (name : String) : Prop :=
  ∃ front, line = front ++ '\t' :: name.toList ∧ '\t' ∉ front ∧
    Text.Decimal (Text.trim front) id.toInt

inductive Faulty (line : List Char) : LineFault → Prop
  | noTab (h : '\t' ∉ line) : Faulty line .noTab
  | badId {front rest} (h : line = front ++ '\t' :: rest) (hf : '\t' ∉ front)
    (hi : Text.readInt32 (Text.trim front) = .error fault) :
    Faulty line (.badId (String.ofList front) fault)

-- What is said of a line without an entry: the number of the line, and what is wrong with it.
inductive Complains (line : List Char) (n : Nat) : String → Prop
  | noTab (h : '\t' ∉ line) :
    Complains line n ("line " ++ toString n ++ ": expected `id<TAB>name`")
  | badId {front rest} (h : line = front ++ '\t' :: rest) (hf : '\t' ∉ front)
    (hi : Text.readInt32 (Text.trim front) = .error fault) :
    Complains line n ("line " ++ toString n ++ ": bad id " ++ Text.quoted (String.ofList front) ++
      ": " ++ fault.message)

structure Gives (line : List Char) (id : Int32) (name : String) : Prop where
  significant : Significant line
  entry       : IsEntry line id name

variable {line : List Char} {lines : List (List Char)} {id : Int32} {name : String}
variable {cause : LineFault} {t : NameTable} {kind k : NameKind} {entries : List (Int32 × String)}

theorem isSignificant_iff : isSignificant line ↔ Significant line := by
  simp only [isSignificant, Bool.and_eq_true, Bool.not_eq_true', List.all_eq_false, bne_iff_ne]
  exact ⟨fun h => ⟨h.left, h.right⟩, fun h => ⟨h.notBlank, h.notComment⟩⟩

theorem readEntry_eq_ok_iff : readEntry line = .ok (id, name) ↔ IsEntry line id name := by
  constructor
  case mp  =>
    intro h
    rw [readEntry] at h
    split at h
    case h_1 => cases h
    case h_2 front rest hs =>
      obtain ⟨hl, hf⟩ := Text.splitAtFirst?_eq_some_iff.mp hs
      split at h
      case h_1 n hn =>
        cases h
        exact ⟨front, by rwa [String.toList_ofList], hf, Text.readInt32_eq_ok_iff.mp hn⟩
      case h_2 => cases h
  case mpr =>
    rintro ⟨front, rfl, hf, hd⟩
    rw [readEntry, Text.splitAtFirst?_append hf]
    dsimp only
    rw [Text.readInt32_eq_ok_iff.mpr hd, String.ofList_toList]

theorem readEntry_eq_error_iff : readEntry line = .error cause ↔ Faulty line cause := by
  constructor
  case mp  =>
    intro h
    rw [readEntry] at h
    split at h
    case h_1 hs =>
      cases h
      exact .noTab (Text.splitAtFirst?_eq_none_iff.mp hs)
    case h_2 front rest hs =>
      obtain ⟨hl, hf⟩ := Text.splitAtFirst?_eq_some_iff.mp hs
      split at h
      case h_1 => cases h
      case h_2 hn =>
        cases h
        exact .badId hl hf hn
  case mpr =>
    intro h
    cases h
    case noTab h      => rw [readEntry, Text.splitAtFirst?_eq_none_iff.mpr h]
    case badId h hf hi =>
      subst h
      rw [readEntry, Text.splitAtFirst?_append hf]
      dsimp only
      rw [hi]

theorem Faulty.not_isEntry (h : Faulty line cause) : ¬IsEntry line id name := by
  rw [← readEntry_eq_ok_iff, readEntry_eq_error_iff.mpr h]
  nofun

theorem Faulty.complains (h : Faulty line cause) (n : Nat) :
    Complains line n (TableFault.message { line := n, cause }) := by
  cases h
  case noTab h       =>
    have hm : ": expected `id<TAB>name`" = ": " ++ "expected `id<TAB>name`" := by decide +kernel
    have hc := Complains.noTab (n := n) h
    rwa [hm, ← String.append_assoc] at hc
  case badId h hf hi =>
    have hm : ": bad id " = ": " ++ "bad id " := by decide +kernel
    have hc := Complains.badId (n := n) h hf hi
    rw [hm] at hc
    simpa only [TableFault.message, LineFault.message, String.append_assoc] using hc

def entryOf? (line : List Char) : Option (Int32 × String) :=
  if isSignificant line then (readEntry line).toOption else none

def faultOf? (line : List Char) : Option LineFault :=
  if isSignificant line then
    match readEntry line with
    | .ok _        => none
    | .error cause => some cause
  else none

theorem entryOf?_eq_some_iff :
    entryOf? line = some (id, name) ↔ Gives line id name := by
  have hg : Gives line id name ↔ Significant line ∧ IsEntry line id name :=
    ⟨fun h => ⟨h.significant, h.entry⟩, fun h => ⟨h.left, h.right⟩⟩
  rw [hg, ← isSignificant_iff, ← readEntry_eq_ok_iff, entryOf?]
  cases readEntry line <;> simp [Except.toOption]

theorem faultOf?_eq_some_iff :
    faultOf? line = some cause ↔ Significant line ∧ Faulty line cause := by
  rw [← isSignificant_iff, ← readEntry_eq_error_iff, faultOf?]
  cases readEntry line <;> simp

theorem faultOf?_eq_none_iff :
    faultOf? line = none ↔ (Significant line → ∃ id name, IsEntry line id name) := by
  simp only [← isSignificant_iff, ← readEntry_eq_ok_iff, faultOf?]
  cases readEntry line
  case error cause => simp
  case ok e        => simpa using fun _ => ⟨e.1, e.2, rfl⟩

def faultsFrom (n : Nat) (lines : List (List Char)) : List TableFault :=
  (lines.zipIdx n).filterMap fun l => (faultOf? l.1).map (TableFault.mk l.2)

def insertAll (kind : NameKind) (entries : List (Int32 × String)) (t : NameTable) : NameTable :=
  entries.foldl (fun t e => t.insert kind e.1 e.2) t

-- The lines of a table. A carriage return at the end of a line does not belong to it.
def tableLines (text : String) : List (List Char) :=
  (Text.lines text.toList).map Text.dropReturns

def Proper (lines : List (List Char)) : Prop :=
  ∀ line ∈ lines, Significant line → ∃ id name, IsEntry line id name

theorem faultsFrom_cons : faultsFrom n (line :: lines) =
    (faultOf? line).toList.map (TableFault.mk n) ++ faultsFrom (n + 1) lines := by
  rw [faultsFrom, List.zipIdx_cons, List.filterMap_cons]
  cases faultOf? line <;> rfl

theorem readLines_eq : readLines kind n lines t =
    barring (faultsFrom n lines) (t.insertAll kind (lines.filterMap entryOf?)) := by
  induction lines generalizing n t
  case nil                => rfl
  case cons line lines hi =>
    rw [readLines, faultsFrom_cons, List.filterMap_cons, faultOf?, entryOf?]
    by_cases hs : isSignificant line
    case neg => rw [if_neg hs, if_neg hs, if_neg hs]; exact hi
    case pos =>
      rw [if_pos hs, if_pos hs, if_pos hs]
      cases readEntry line
      case error cause => rfl
      case ok e        => exact hi

theorem read_eq : read kind text t = barring (faultsFrom 1 (tableLines text))
    (t.insertAll kind ((tableLines text).filterMap entryOf?)) :=
  readLines_eq

theorem faultsFrom_eq_nil_iff : faultsFrom n lines = [] ↔ Proper lines := by
  induction lines generalizing n
  case nil                => exact iff_of_true rfl (List.forall_mem_nil _)
  case cons line lines hi =>
    rw [faultsFrom_cons, List.append_eq_nil_iff, hi, List.map_eq_nil_iff, Option.toList_eq_nil_iff,
      faultOf?_eq_none_iff]
    simp only [Proper, List.forall_mem_cons]

-- The first fault is the one of the first bad line, with its number.
theorem exists_of_head?_faultsFrom (h : (faultsFrom n lines).head? = some fault) :
    ∃ before line after, lines = before ++ line :: after ∧ Proper before ∧ Significant line ∧
      Faulty line fault.cause ∧ fault.line = n + before.length := by
  induction lines generalizing n
  case nil                => cases h
  case cons line lines hi =>
    rw [faultsFrom_cons, List.head?_append] at h
    cases hf : faultOf? line
    case none       =>
      obtain ⟨before, bad, after, rfl, hp, hs, hb, hn⟩ := hi (by simpa [hf] using h)
      refine ⟨line :: before, bad, after, rfl, ?_, hs, hb, ?_⟩
      case refine_1 => exact List.forall_mem_cons.mpr ⟨faultOf?_eq_none_iff.mp hf, hp⟩
      case refine_2 => rw [hn, List.length_cons]; omega
    case some cause =>
      obtain ⟨hs, hb⟩ := faultOf?_eq_some_iff.mp hf
      obtain rfl : ⟨n, cause⟩ = fault := by simpa [hf] using h
      exact ⟨[], line, lines, rfl, List.forall_mem_nil _, hs, hb, rfl⟩

theorem names_insertAll : (t.insertAll kind entries).names k id =
    if kind = k then (entries.reverse.lookup id).or (t.names k id) else t.names k id := by
  induction entries generalizing t
  case nil               => simp [insertAll]
  case cons e entries hi =>
    refine hi.trans ?_
    simp only [names_insert]
    by_cases hk : kind = k
    case neg => simp only [hk, false_and, if_false]
    case pos =>
      subst hk
      rw [if_pos rfl, if_pos rfl, List.reverse_cons, List.lookup_append, Option.or_assoc,
        List.lookup_cons]
      by_cases he : e.1 = id
      case pos => simp [he]
      case neg => simp [he, beq_false_of_ne (Ne.symm he)]

theorem exists_keys (t : NameTable) : ∃ keys : List (NameKind × Int32), keys.Nodup ∧
    (∀ kind id, (kind, id) ∈ keys ↔ ∃ name, t.names kind id = some name) ∧
    t.size = keys.length := by
  refine ⟨t.entries.keys, Std.HashMap.nodup_keys, fun kind id => ?_, Std.HashMap.length_keys.symm⟩
  rw [Std.HashMap.mem_keys, ← Option.isSome_iff_exists, names, Std.HashMap.isSome_getElem?_iff_mem]

theorem lookup_filterMap {f : α → Option (Int32 × String)} {as : List α} :
    (as.filterMap f).lookup id =
      as.findSome? fun a => (f a).bind fun e => if e.1 = id then some e.2 else none := by
  induction as
  case nil          => rfl
  case cons a as hi =>
    rw [List.filterMap_cons, List.findSome?_cons]
    cases f a
    case none   => exact hi
    case some e =>
      rw [List.lookup_cons, hi]
      by_cases he : e.1 = id
      case pos => simp [he]
      case neg => simp [he, beq_false_of_ne (Ne.symm he)]

def GivesLast (lines : List (List Char)) (id : Int32) (name : String) : Prop :=
  ∃ before line after, lines = before ++ line :: after ∧ Gives line id name ∧
    ∀ l ∈ after, ∀ other, ¬Gives l id other

theorem lookup_entries_eq_some_iff :
    (lines.filterMap entryOf?).reverse.lookup id = some name ↔ GivesLast lines id name := by
  have hg (l : List Char) (other) : ((entryOf? l).bind fun e =>
      if e.1 = id then some e.2 else none) = some other ↔ Gives l id other := by
    rw [← entryOf?_eq_some_iff, Option.bind_eq_some_iff]
    constructor
    case mp  =>
      rintro ⟨⟨i, n⟩, he, h⟩
      dsimp only at h
      split at h
      case isTrue hi => cases h; exact hi ▸ he
      case isFalse   => cases h
    case mpr => exact fun he => ⟨_, he, if_pos rfl⟩
  rw [← List.filterMap_reverse, lookup_filterMap, List.findSome?_eq_some_iff]
  constructor
  case mp  =>
    rintro ⟨after, line, before, hl, hn, ha⟩
    refine ⟨before.reverse, line, after.reverse, by simpa using congrArg List.reverse hl,
      (hg _ _).mp hn, fun l h other ho => ?_⟩
    cases (ha l (List.mem_reverse.mp h)).symm.trans ((hg l other).mpr ho)
  case mpr =>
    rintro ⟨before, line, after, rfl, hn, ha⟩
    refine ⟨after.reverse, line, before.reverse, by simp, (hg _ _).mpr hn, fun l h => ?_⟩
    exact Option.eq_none_iff_forall_ne_some.mpr fun other ho =>
      ha l (List.mem_reverse.mp h) other ((hg l other).mp ho)

theorem lookup_entries_eq_none_iff : (lines.filterMap entryOf?).reverse.lookup id = none ↔
    ∀ line ∈ lines, ∀ name, ¬Gives line id name := by
  simp only [List.lookup_eq_none_iff, List.mem_reverse, List.mem_filterMap, bne_iff_ne]
  constructor
  case mp  =>
    intro h line hl name hg
    exact h (id, name) ⟨line, hl, entryOf?_eq_some_iff.mpr hg⟩ rfl
  case mpr =>
    rintro h ⟨i, name⟩ ⟨line, hl, he⟩ rfl
    exact h line hl name (entryOf?_eq_some_iff.mp he)

end NameTable
end ClientScript
