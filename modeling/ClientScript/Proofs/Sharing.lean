import ClientScript.Proofs.CommandLine.Emission
import ClientScript.Proofs.Dump.Expression
import ClientScript.Proofs.Emission.Rendering
import Mathlib.Data.Set.Card

namespace ClientScript

namespace Names

variable {names : Names} {i j : Int32}

def slashless (name : String) : List Char :=
  name.toList.map fun c => if c = '/' ∨ c = '\\' then '_' else c

theorem slashless_of_forall {name : String} (h : ∀ c ∈ name.toList, ¬(c = '/' ∨ c = '\\')) :
    slashless name = name.toList :=
  (List.map_congr_left fun c hc => if_neg (h c hc)).trans (List.map_id _)

theorem slashless_unnamed (n : Int) :
    slashless ("script" ++ toString n) = ("script" ++ toString n).toList := by
  refine slashless_of_forall fun c hc hs => ?_
  rcases List.mem_append.mp (String.toList_append ▸ hc) with hc | hc
  case inl => rcases hs with rfl | rfl <;> exact absurd hc (by decide)
  case inr =>
    have hi := Text.isIntChar_of_mem_toString hc
    rcases hs with rfl | rfl <;> exact absurd hi (by decide)

-- Different scripts whose files have one name. Two scripts without names do not share a file.
inductive Shares (names : Names) (i j : Int32) : Prop
  | named (first : names .script i = some a) (second : names .script j = some b)
    (same : slashless a = slashless b)
  | first (first : names .script i = some a) (second : names .script j = none)
    (same : slashless a = ("script" ++ toString j.toInt).toList)
  | second (first : names .script i = none) (second : names .script j = some b)
    (same : slashless b = ("script" ++ toString i.toInt).toList)

theorem fileName_eq_iff :
    names.fileName i = names.fileName j ↔
      slashless (names.script i) = slashless (names.script j) := by
  rw [← String.toList_inj, toList_fileName, toList_fileName, List.append_cancel_right_eq]
  rfl

theorem shares_iff (h : i ≠ j) : names.fileName i = names.fileName j ↔ names.Shares i j := by
  rw [fileName_eq_iff, script, script]
  constructor
  case mp  =>
    intro hs
    cases hi : names .script i <;> cases hj : names .script j <;>
      simp only [hi, hj, Option.getD_none, Option.getD_some, slashless_unnamed] at hs
    case none.none =>
      rw [String.toList_inj, String.append_right_inj] at hs
      exact absurd (Int32.toInt_inj.mp (Text.toString_int_injective hs)) h
    case none.some => exact .second hi hj hs.symm
    case some.none => exact .first hi hj hs
    case some.some => exact .named hi hj hs
  case mpr =>
    rintro (⟨hi, hj, hs⟩ | ⟨hi, hj, hs⟩ | ⟨hi, hj, hs⟩)
    case named  => simpa [hi, hj] using hs
    case first  => rw [hi, hj, Option.getD_some, Option.getD_none, slashless_unnamed, hs]
    case second => rw [hi, hj, Option.getD_some, Option.getD_none, slashless_unnamed, hs]

end Names

theorem Script.id_eq_of_emit {r s : Script} {names : Names} {unit text : String}
    (hr : r.emit names unit = .ok text) (hs : s.emit names unit = .ok text) : r.id = s.id := by
  obtain ⟨_, _, _, rfl, _⟩ := emit_renders hr
  obtain ⟨_, _, _, ht, _⟩ := emit_renders hs
  have ends (rest : List Char) : Text.Ends Text.isIntChar ("\n".toList ++ rest) := .cons rfl
  simp only [← String.toList_inj, String.toList_append, List.append_assoc,
    List.append_cancel_left_eq] at ht
  exact (separates_int r.id _ _ _ (ends _) (ends _) ht).left

namespace Output

variable {names : Names} {unit : String} {t : FileTree} {here d : List String} {p : Path}
variable {r s : Script} {ss : List Script}

-- A script whose file is not written again for a later one.
def Stays (names : Names) (ss : List Script) (s : Script) : Prop :=
  ∃ before after, ss = before ++ s :: after ∧ ∀ r ∈ after, names.fileName r.id ≠ names.fileName s.id

theorem stays_cons_iff : Stays names (r :: ss) s ↔
    Stays names ss s ∨ s = r ∧ ∀ q ∈ ss, names.fileName q.id ≠ names.fileName r.id := by
  constructor
  case mp  =>
    rintro ⟨before, after, he, ha⟩
    cases before
    case nil           =>
      obtain ⟨rfl, rfl⟩ := List.cons.inj he
      exact .inr ⟨rfl, ha⟩
    case cons q before =>
      obtain ⟨rfl, rfl⟩ := List.cons.inj he
      exact .inl ⟨before, after, rfl, ha⟩
  case mpr =>
    rintro (⟨before, after, rfl, ha⟩ | ⟨rfl, ha⟩)
    case inl => exact ⟨r :: before, after, rfl, ha⟩
    case inr => exact ⟨[], ss, rfl, ha⟩

theorem lookup_texts_eq_none_iff (he : ∀ s ∈ ss, Succeeds (s.emit names unit)) {f : String} :
    (texts names unit ss).reverse.lookup f = none ↔ ∀ s ∈ ss, names.fileName s.id ≠ f := by
  rw [List.lookup_eq_none_iff]
  simp only [List.mem_reverse, texts, List.mem_filterMap, Option.map_eq_some_iff]
  constructor
  case mp  =>
    intro h s hs hf
    obtain ⟨text, ht⟩ := he s hs
    have hm := h (names.fileName s.id, text) ⟨s, hs, text, by rw [ht]; rfl, rfl⟩
    exact absurd hf.symm (bne_iff_ne.mp hm)
  case mpr =>
    rintro h _ ⟨s, hs, text, -, rfl⟩
    exact bne_iff_ne.mpr (h s hs).symm

theorem lookup_texts_iff (he : ∀ s ∈ ss, Succeeds (s.emit names unit)) {f text : String} :
    (texts names unit ss).reverse.lookup f = some text ↔
      ∃ s, Stays names ss s ∧ names.fileName s.id = f ∧ s.emit names unit = .ok text := by
  induction ss
  case nil          =>
    refine iff_of_false nofun ?_
    rintro ⟨s, ⟨before, after, h, -⟩, -⟩
    simp at h
  case cons r ss hi =>
    obtain ⟨⟨first, hr⟩, hs⟩ := List.forall_mem_cons.mp he
    rw [texts_cons_ok hr, List.reverse_cons, List.lookup_append, Option.or_eq_some_iff, hi hs,
      lookup_texts_eq_none_iff hs]
    simp only [stays_cons_iff, or_and_right, exists_or]
    refine or_congr_right ⟨?_, ?_⟩
    case refine_1 =>
      rintro ⟨ha, hl⟩
      rw [List.lookup_cons] at hl
      split at hl
      case h_1 hf =>
        obtain rfl := beq_iff_eq.mp hf
        exact ⟨r, ⟨rfl, ha⟩, rfl, Option.some.inj hl ▸ hr⟩
      case h_2    => cases hl
    case refine_2 =>
      rintro ⟨_, ⟨rfl, ha⟩, rfl, ht⟩
      obtain rfl := Except.ok.inj (hr.symm.trans ht)
      exact ⟨ha, by simp⟩

theorem run_writeScripts_of_ok (h : t.Leads here p d) (hd : t.Writable d)
    (hr : ((writeScripts (FileTree.files here) p names unit ss).run t).1.value = .ok 0) :
    (writeScripts (FileTree.files here) p names unit ss).run t =
      ({ log := [], value := .ok 0 }, t.store d (texts names unit ss)) ∧
    ∀ s ∈ ss, Succeeds (s.emit names unit) := by
  induction ss generalizing t
  case nil          => exact ⟨rfl, nofun⟩
  case cons s ss hi =>
    cases he : s.emit names unit
    case error e =>
      rw [run_writeScripts_error he] at hr
      dsimp only at hr
      cases hv : ((writeScripts (FileTree.files here) p names unit ss).run t).1.value <;>
        rw [hv] at hr <;> simp [Except.map] at hr
    case ok text =>
      rw [run_writeScripts_ok he] at hr ⊢
      cases hw : t.writeText here (.inside p (names.fileName s.id)) text <;> rw [hw] at hr
      case error fault => cases hr
      case ok u        =>
        have hs := FileTree.writeText_inside h (names.fileName_plain s.id).right.right hd
          (hw ▸ FailsOnly.ok u)
        rw [hw] at hs
        split at hs
        case isTrue  => cases hs
        case isFalse =>
          obtain rfl := Except.ok.inj hs
          obtain ⟨hr, ha⟩ := hi (h.put (hd.ne_directory _) _) (hd.put _ _) hr
          rw [texts_cons_ok he]
          exact ⟨hr, List.forall_mem_cons.mpr ⟨⟨text, he⟩, ha⟩⟩

variable {tree made : FileTree} {source : Module}

open CommandLine (MakesNew)

theorem run_writeModule_of_ok (h : MakesNew tree here p made d)
    (done : ((writeModule (FileTree.files here) p names unit source).run tree).1.value = .ok ()) :
    (writeModule (FileTree.files here) p names unit source).run tree =
      ({ log := [summaryLine source.scripts.length source.scripts.length p], value := .ok () },
        made.store d (texts names unit source.scripts)) ∧
    ∀ s ∈ source.scripts, Succeeds (s.emit names unit) := by
  have hd : made.Writable d := FileTree.writable_of_new h.new
  rw [writeModule, FileTree.run_bind, h.makes] at done ⊢
  dsimp only at done ⊢
  rw [FileTree.run_bind] at done ⊢
  cases hv : ((writeScripts (FileTree.files here) p names unit source.scripts).run made).1.value <;>
    rw [hv] at done
  case error fault => cases done
  case ok failed   =>
    by_cases hf : failed = 0
    case neg => cases (if_neg hf).symm.trans done
    case pos =>
      subst hf
      obtain ⟨hr, he⟩ := run_writeScripts_of_ok h.leads hd hv
      rw [hr]
      exact ⟨rfl, he⟩

theorem nodup_fileNames_iff (h : (ss.map (·.id)).Nodup) :
    (ss.map fun s => names.fileName s.id).Nodup ↔
      ss.Pairwise fun r s => ¬names.Shares r.id s.id := by
  rw [List.Nodup, List.pairwise_map] at h ⊢
  constructor
  case mp  => exact fun hn => (h.and hn).imp fun h => mt (Names.shares_iff h.left).mpr h.right
  case mpr => exact fun hn => (h.and hn).imp fun h => mt (Names.shares_iff h.left).mp h.right

theorem stays_of_nodup (h : (ss.map fun s => names.fileName s.id).Nodup) (hs : s ∈ ss) :
    Stays names ss s := by
  obtain ⟨before, after, rfl⟩ := List.append_of_mem hs
  rw [List.Nodup, List.pairwise_map, List.pairwise_append, List.pairwise_cons] at h
  exact ⟨before, after, rfl, fun r hr => (h.right.left.left r hr).symm⟩

theorem node?_store_texts_iff (h : MakesNew tree here p made d)
    (he : ∀ s ∈ ss, Succeeds (s.emit names unit)) {rest : List String} {content : Content} :
    (made.store d (texts names unit ss)).node? (d ++ rest) = some (.file content) ↔
      ∃ s text, Stays names ss s ∧ s.emit names unit = .ok text ∧ rest = [names.fileName s.id] ∧
        content = .text text := by
  by_cases hr : rest = []
  case pos =>
    subst hr
    rw [List.append_nil, FileTree.node?_store_of_ne (by simp), h.leads.there]
    simp
  case neg =>
    rw [FileTree.node?_store_eq_some_iff h.new hr]
    simp only [lookup_texts_iff he]
    constructor
    case mp  =>
      rintro ⟨f, text, rfl, hc, s, hs, rfl, ht⟩
      exact ⟨s, text, hs, ht, rfl, Node.file.inj hc⟩
    case mpr =>
      rintro ⟨s, text, hs, ht, rfl, rfl⟩
      exact ⟨_, text, rfl, rfl, s, hs, rfl, ht⟩

theorem files_store_texts (h : MakesNew tree here p made d)
    (he : ∀ s ∈ ss, Succeeds (s.emit names unit)) :
    {rest | ∃ content,
      (made.store d (texts names unit ss)).node? (d ++ rest) = some (.file content)} =
      (fun f => [f]) '' ↑(ss.map fun s => names.fileName s.id).toFinset := by
  ext rest
  simp only [Set.mem_ofPred_eq, Set.mem_image, List.coe_toFinset, List.mem_map]
  constructor
  case mp  =>
    rintro ⟨content, hc⟩
    obtain ⟨s, _, ⟨before, after, rfl, -⟩, -, rfl, -⟩ := (node?_store_texts_iff h he).mp hc
    exact ⟨_, ⟨s, by simp, rfl⟩, rfl⟩
  case mpr =>
    rintro ⟨_, ⟨s, hs, rfl⟩, rfl⟩
    cases hl : (texts names unit ss).reverse.lookup (names.fileName s.id)
    case none      => exact absurd rfl ((lookup_texts_eq_none_iff he).mp hl s hs)
    case some text =>
      refine ⟨.text text, ?_⟩
      rw [FileTree.node?_store_eq_some_iff h.new (List.cons_ne_nil _ _)]
      exact ⟨_, text, rfl, rfl, hl⟩

-- After a run without a fault each file holds the text of the last script that has it. Only where no two
-- scripts share a file there is one for each of them, and only there each script finds its own text in
-- its file, though all of them are reported as written.
theorem writeModule_keeps_iff (h : MakesNew tree here p made d)
    (done : ((writeModule (FileTree.files here) p names unit source).run tree).1.value = .ok ()) :
    let log := ((writeModule (FileTree.files here) p names unit source).run tree).1.log
    let after := ((writeModule (FileTree.files here) p names unit source).run tree).2
    let files := {rest | ∃ content, after.node? (d ++ rest) = some (.file content)}
    let called := source.scripts.map fun s => names.fileName s.id
    log = [summaryLine source.scripts.length source.scripts.length p] ∧
    (∀ s ∈ source.scripts, Succeeds (s.emit names unit)) ∧
    (∀ rest content, after.node? (d ++ rest) = some (.file content) ↔
      ∃ s text, Stays names source.scripts s ∧ s.emit names unit = .ok text ∧
        rest = [names.fileName s.id] ∧ content = .text text) ∧
    files.ncard = called.toFinset.card ∧
    (files.ncard = source.scripts.length ↔ called.Nodup) ∧
    ((source.scripts.map (·.id)).Nodup →
      ((∀ s ∈ source.scripts, ∀ text, s.emit names unit = .ok text →
          after.node? (d ++ [names.fileName s.id]) = some (.file (.text text))) ↔ called.Nodup) ∧
      (called.Nodup ↔ source.scripts.Pairwise fun r s => ¬names.Shares r.id s.id)) := by
  obtain ⟨hr, he⟩ := run_writeModule_of_ok h done
  rw [hr]
  intro log after files called
  have hn : files.ncard = called.toFinset.card := by
    rw [show files = _ from files_store_texts h he,
      Set.ncard_image_of_injective _ fun _ _ => List.singleton_inj.mp, Set.ncard_coe_finset]
  refine ⟨rfl, he, fun rest content => node?_store_texts_iff h he, hn, ?number,
    fun hi => ⟨⟨fun ho => ?own, fun hd => ?kept⟩, nodup_fileNames_iff hi⟩⟩
  case number =>
    rw [hn]
    simpa [called] using Multiset.toFinset_card_eq_card_iff_nodup (m := (called : Multiset String))
  case own    =>
    refine hi.of_map.map_on fun r hr s hs hf => List.inj_on_of_nodup_map hi hr hs ?_
    obtain ⟨t, ht⟩ := he r hr
    obtain ⟨u, hu⟩ := he s hs
    have hto := ho r hr t ht
    rw [hf, ho s hs u hu] at hto
    obtain rfl : u = t := by simpa using hto
    exact Script.id_eq_of_emit ht hu
  case kept   =>
    exact fun s hs text ht =>
      (node?_store_texts_iff h he).mpr ⟨s, text, stays_of_nodup hd hs, ht, rfl, rfl⟩

def namesakes : Names
  | .script, 1 => some "x"
  | .script, 2 => some "x"
  | _, _       => none

def pair : Module where
  name    := "pair"
  scripts := [{ id := 1, body := .last (.seq []) }, { id := 2, body := .last (.seq []) }]

theorem writeModule_loses_one :
    let made : FileTree := { nodes := [(["out"], .directory)] }
    let run := (writeModule (FileTree.files []) (.given "out") namesakes "    " pair).run {}
    MakesNew {} [] (.given "out") made ["out"] ∧ run.1.value = .ok () ∧
      (pair.scripts.map (·.id)).Nodup ∧
      run.1.log = ["[strict] wrote 2 of 2 scripts to out"] ∧
      {rest | ∃ content, run.2.node? (["out"] ++ rest) = some (.file content)}.ncard = 1 ∧
      run.2.node? ["out", "x.cs2"] = some (.file (.text "// 2\nx\n")) := by
  intro made run
  have h : MakesNew {} [] (.given "out") made ["out"] := ⟨rfl, rfl, fun rest hr => by
    obtain ⟨f, rest, rfl⟩ := List.exists_cons_of_ne_nil hr
    rfl⟩
  have done : run.1.value = .ok () := by decide +kernel
  obtain ⟨hl, _, _, hn, _⟩ := writeModule_keeps_iff h done
  exact ⟨h, done, by decide, hl.trans (by decide +kernel), hn.trans (by decide +kernel),
    by decide +kernel⟩

end Output
end ClientScript
