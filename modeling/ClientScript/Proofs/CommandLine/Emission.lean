import ClientScript.Proofs.CommandLine.Loading
import ClientScript.Proofs.CommandLine.Report
import ClientScript.Proofs.Encoding.Depth
import ClientScript.Proofs.Output
import ClientScript.Proofs.Pipeline

namespace ClientScript

theorem length_le_utf8ByteSize (cs : List Char) : cs.length ≤ (String.ofList cs).utf8ByteSize := by
  induction cs
  case nil          => exact Nat.zero_le _
  case cons c cs hi =>
    have := c.utf8Size_pos
    rw [String.ofList_cons, String.utf8ByteSize_append, String.utf8ByteSize_singleton,
      List.length_cons]
    omega

namespace Module

def emittable (names : Names) (unit : String) (m : Module) : Module :=
  { m with scripts := Output.emitting names unit m.scripts }

variable {names : Names} {unit : String} {m : Module} {id : Int32}

theorem mapError_eq_ok_iff {x : Except EmitError String} :
    x.mapError (id, ·) = .ok text ↔ x = .ok text := by
  cases x <;> simp [Except.mapError]

theorem mapError_eq_error_iff {x : Except EmitError String} {other : Int32} :
    x.mapError (id, ·) = .error (other, e) ↔ id = other ∧ x = .error e := by
  cases x <;> simp [Except.mapError]

theorem emit_eq_ok_iff : m.emit names unit = .ok text ↔
    ∃ texts, List.Forall₂ (fun s text => s.emit names unit = .ok text) m.scripts texts ∧
      "\n".intercalate texts = text := by
  rw [emit, bind_eq_ok_iff]
  simp only [mapM_eq_ok_iff, mapError_eq_ok_iff, pure, Except.pure, Except.ok.injEq]

theorem emit_eq_error_iff : m.emit names unit = .error (id, e) ↔
    ∃ before s after, m.scripts = before ++ s :: after ∧
      (∀ s ∈ before, Succeeds (s.emit names unit)) ∧ s.id = id ∧ s.emit names unit = .error e := by
  have hm (x : Except (Int32 × EmitError) (List String)) :
      (x >>= fun texts => pure ("\n".intercalate texts)) = .error (id, e) ↔ x = .error (id, e) := by
    cases x <;> simp [pure, Except.pure]
  rw [emit, hm, mapM_eq_error_iff]
  simp only [Succeeds, mapError_eq_ok_iff, mapError_eq_error_iff]

theorem succeeds_emit_iff_forall :
    Succeeds (m.emit names unit) ↔ ∀ s ∈ m.scripts, Succeeds (s.emit names unit) := by
  rw [emit, succeeds_bind_pure, succeeds_mapM]
  simp only [Succeeds, mapError_eq_ok_iff]

end Module

namespace Output

variable {names : Names} {unit : String} {t : FileTree} {here : List String} {p : Path}
variable {ss : List Script} {source : Module}

theorem failures_eq_zero_iff :
    failures names unit ss = 0 ↔ ∀ s ∈ ss, Succeeds (s.emit names unit) := by
  rw [failures, List.countP_eq_zero]
  refine forall₂_congr fun s _ => ?_
  cases s.emit names unit <;> simp [Except.isOk, Except.toBool]

theorem emitted_emitting : List.Forall₂ (fun s text => s.emit names unit = .ok text)
    (emitting names unit ss) (ss.filterMap fun s => (s.emit names unit).toOption) := by
  induction ss
  case nil          => exact .nil
  case cons s ss hi =>
    rw [emitting, List.filter_cons, List.filterMap_cons]
    cases he : s.emit names unit
    case error e => exact hi
    case ok text => exact .cons he hi

theorem text_print : (print names unit source).2 =
    "\n".intercalate (source.scripts.filterMap fun s => (s.emit names unit).toOption) := by
  dsimp only [print]
  rw [List.filterMap_map]
  rfl

theorem emit_emittable :
    (source.emittable names unit).emit names unit = .ok (print names unit source).2 :=
  Module.emit_eq_ok_iff.mpr ⟨_, emitted_emitting, text_print.symm⟩

theorem length_log_print :
    (print names unit source).1.log.length = failures names unit source.scripts := by
  rw [print, List.filterMap_map, List.length_filterMap_eq_countP, failures]
  refine List.countP_congr fun s _ => ?_
  cases he : s.emit names unit <;> simp [he, Except.isOk, Except.toBool]

theorem value_print : (print names unit source).1.value =
    if failures names unit source.scripts = 0 then .ok ()
    else .error (.scripts (failures names unit source.scripts) source.scripts.length) := by
  simp only [← length_log_print, ← List.isEmpty_iff_length_eq_zero]
  rfl

theorem verdict_of_no_nul (h : ∀ s ∈ ss, '\x00' ∉ (names.fileName s.id).toList) :
    verdict names unit ss =
      if failures names unit ss = 0 then .ok ()
      else .error (.scripts (failures names unit ss) ss.length) := by
  have hb : ¬ss.any (blocks names unit) := by
    rw [List.any_eq_true]
    rintro ⟨s, hs, hb⟩
    rw [blocks, Bool.and_eq_true, List.contains_iff_mem] at hb
    exact h s hs hb.right
  rw [verdict, if_neg hb]

theorem tree_writeScripts_emitting :
    ((writeScripts (FileTree.files here) p names unit (emitting names unit ss)).run t).2 =
      ((writeScripts (FileTree.files here) p names unit ss).run t).2 := by
  induction ss generalizing t
  case nil          => rfl
  case cons s ss hi =>
    cases he : s.emit names unit
    case error e =>
      rw [emitting, List.filter_cons_of_neg (by rw [he]; exact Bool.false_ne_true),
        run_writeScripts_error he]
      exact hi
    case ok text =>
      rw [emitting, List.filter_cons_of_pos (by rw [he]; rfl), ← emitting, run_writeScripts_ok he,
        run_writeScripts_ok he]
      cases t.writeText here (.inside p (names.fileName s.id)) text
      case error fault => rfl
      case ok u        => exact hi

theorem tree_writeModule : ((writeModule (FileTree.files here) p names unit source).run t).2 =
    match (FileTree.files here).makeDirectories p |>.run t with
    | (.ok (), u)   => ((writeScripts (FileTree.files here) p names unit source.scripts).run u).2
    | (.error _, u) => u := by
  rw [writeModule, FileTree.run_bind]
  cases (FileTree.files here).makeDirectories p |>.run t
  case mk result u =>
    cases result
    case error fault => rfl
    case ok          =>
      dsimp only
      rw [FileTree.run_bind]
      cases ((writeScripts (FileTree.files here) p names unit source.scripts).run u).1.value <;> rfl

theorem tree_writeModule_emittable :
    ((writeModule (FileTree.files here) p names unit (source.emittable names unit)).run t).2 =
      ((writeModule (FileTree.files here) p names unit source).run t).2 := by
  rw [tree_writeModule, tree_writeModule]
  simp only [Module.emittable, tree_writeScripts_emitting]

end Output

namespace CommandLine

def transformed (o : EmitOptions) (source : Module) : Module :=
  if Pass.deleteNops.name ∈ o.skipped then source else source.prune.rest

-- A run succeeds if all scripts have a text. Otherwise it ends with how many have none.
structure Concludes (names : Names) (unit : String) (ss : List Script) (outcome : Outcome) :
    Prop where
  success : (∀ s ∈ ss, Succeeds (s.emit names unit)) → outcome.code = 0
  failure : (∃ s ∈ ss, ¬Succeeds (s.emit names unit)) → outcome.code = 1 ∧
    ∃ log, outcome.stderr = linesText log ++ ("Error: " ++
      toString (Output.failures names unit ss) ++ " of " ++ toString ss.length ++
      " scripts failed to emit\n")

variable {tree : FileTree} {here : List String} {config : Option String} {o : EmitOptions}
variable {names : Names} {unit : String} {ss : List Script} {source : Module}

theorem rest_run_standard :
    ((Pipeline.standard o.skipped).run source).1 = transformed o source := by
  rw [Pipeline.rest_run, transformed]
  exact if_congr Pipeline.standard_eq_nil_iff rfl rfl

theorem stdout_ofEmission {done : Logged (Except OutputFault Unit)} :
    (Outcome.ofEmission log stdout done).stdout = stdout := by
  rw [Outcome.ofEmission]
  cases done.value <;> rfl

theorem code_ofEmission {done : Logged (Except OutputFault Unit)} :
    (Outcome.ofEmission log stdout done).code = if done.value.isOk then 0 else 1 := by
  rw [Outcome.ofEmission]
  cases done.value <;> rfl

theorem report_scripts {failed total : Nat} : (Failure.output (.scripts failed total)).report =
    "Error: " ++ toString failed ++ " of " ++ toString total ++ " scripts failed to emit\n" := by
  have h := (Failure.output (.scripts failed total)).reports
  generalize (Failure.output (.scripts failed total)).report = report at h ⊢
  cases h
  rfl

theorem concludes_ofEmission {done : Logged (Except OutputFault Unit)}
    (h : done.value =
      if Output.failures names unit ss = 0 then .ok ()
      else .error (.scripts (Output.failures names unit ss) ss.length)) :
    Concludes names unit ss (.ofEmission log stdout done) := by
  rw [Outcome.ofEmission, h]
  constructor
  case success =>
    intro hs
    rw [if_pos (Output.failures_eq_zero_iff.mpr hs)]
  case failure =>
    rintro ⟨s, hs, hn⟩
    rw [if_neg fun hz => hn (Output.failures_eq_zero_iff.mp hz s hs)]
    exact ⟨rfl, log ++ done.log, congrArg (linesText (log ++ done.log) ++ ·) report_scripts⟩

theorem run_emitLoaded_none (tree : FileTree) (here : List String) (h : o.output = none) :
    ∃ log, (emitLoaded (FileTree.files here) o before names source).run tree =
      (.ofEmission log (Output.print names o.unit (transformed o source)).2
        (Output.print names o.unit (transformed o source)).1, tree) := by
  refine ⟨before ++ passLog o names ((Pipeline.standard o.skipped).run source).2
    (transformed o source), ?_⟩
  rw [← rest_run_standard, emitLoaded, h]
  rfl

theorem run_emitLoaded_some (tree : FileTree) (here : List String) (h : o.output = some path) :
    ∃ log, (emitLoaded (FileTree.files here) o before names source).run tree =
      let done := (Output.writeModule (FileTree.files here) (.given path) names o.unit
        (transformed o source)).run tree
      (.ofEmission log "" done.1, done.2) := by
  refine ⟨before ++ passLog o names ((Pipeline.standard o.skipped).run source).2
    (transformed o source), ?_⟩
  rw [← rest_run_standard, emitLoaded, h]
  rfl

structure MakesNew (tree : FileTree) (here : List String) (p : Path) (made : FileTree)
    (d : List String) : Prop where
  makes : ((FileTree.files here).makeDirectories p).run tree = (.ok (), made)
  place : made.walk (FileTree.start here p) p.steps = .ok d
  new   : ∀ rest, rest ≠ [] → made.node? (d ++ rest) = none

variable {p : Path}

theorem MakesNew.leads (h : MakesNew tree here p made d) : made.Leads here p d := by
  obtain ⟨d', hd⟩ := FileTree.leads_of_makeDirectories h.makes
  obtain rfl : d = d' := Except.ok.inj (h.place.symm.trans hd.way)
  exact hd

theorem MakesNew.value_writeModule (h : MakesNew tree here p made d)
    (plain : ∀ s ∈ source.scripts, '\x00' ∉ (names.fileName s.id).toList)
    (short : Output.NoneTooLong here p names unit source.scripts) :
    ((Output.writeModule (FileTree.files here) p names unit source).run tree).1.value =
      if Output.failures names unit source.scripts = 0 then .ok ()
      else .error (.scripts (Output.failures names unit source.scripts) source.scripts.length) := by
  have hn : made.Writable d := FileTree.writable_of_new h.new
  obtain ⟨log, hr⟩ := Output.run_writeModule h.makes h.leads hn short
  rw [hr, Output.verdict_of_no_nul plain]

theorem MakesNew.writeModule_tooLong (h : MakesNew tree here p made d)
    (hs : s.emit names unit = .ok text) (hn : '\x00' ∉ (names.fileName s.id).toList)
    (hb : 255 < (names.fileName s.id).utf8ByteSize) :
    (Output.writeModule (FileTree.files here) p names unit
      { source with scripts := s :: ss } |>.run tree).1.value = .error (.file .tooLong) := by
  rw [Output.writeModule, FileTree.run_bind, h.makes]
  dsimp only
  rw [FileTree.run_bind, Output.run_writeScripts_ok hs, FileTree.writeText_tooLong h.leads hn hb]
  rfl

-- A module has a text if all of its scripts have one, and otherwise the first one without a text
-- decides. Runs leave such scripts out: what they print is the text of the module without them, and
-- what they write are the files of that module. Whether they succeed depends on all scripts.
theorem run_emit_of_ready :
    (∀ (m : Module) (names : Names) (unit : String),
      (Succeeds (m.emit names unit) ↔ ∀ s ∈ m.scripts, Succeeds (s.emit names unit)) ∧
      (∀ text, m.emit names unit = .ok text ↔
        ∃ texts, List.Forall₂ (fun s text => s.emit names unit = .ok text) m.scripts texts ∧
          "\n".intercalate texts = text) ∧
      ∀ id e, m.emit names unit = .error (id, e) ↔
        ∃ before s after, m.scripts = before ++ s :: after ∧
          (∀ s ∈ before, Succeeds (s.emit names unit)) ∧ s.id = id ∧
          s.emit names unit = .error e) ∧
    ∀ (tree : FileTree) (here : List String) (config : Option String)
      (complaint : String → String) (arguments : List String) (o : EmitOptions) (source : Module),
      readArguments arguments = some (.emit o) → Ready tree here config o →
      Loads tree here o.input source →
      let names := (tables tree here config o).names
      let m := transformed o source
      ∃ outcome after,
        (run (FileTree.files here) config arguments complaint).run tree = (outcome, after) ∧
        (o.output = none → after = tree ∧
          (m.emittable names o.unit).emit names o.unit = .ok outcome.stdout ∧
          Concludes names o.unit m.scripts outcome) ∧
        ∀ path, o.output = some path → outcome.stdout = "" ∧
          after = ((Output.writeModule (FileTree.files here) (.given path) names o.unit
            (m.emittable names o.unit)).run tree).2 ∧
          ∀ made d, MakesNew tree here (.given path) made d →
            (∀ s ∈ m.scripts, '\x00' ∉ (names.fileName s.id).toList) →
            Output.NoneTooLong here (.given path) names o.unit m.scripts →
            Concludes names o.unit m.scripts outcome := by
  refine ⟨fun m names unit => ⟨Module.succeeds_emit_iff_forall, fun text => Module.emit_eq_ok_iff,
    fun id e => Module.emit_eq_error_iff⟩, ?_⟩
  intro tree here config complaint arguments o source asked ready loads names m
  obtain ⟨before, hr⟩ := run_emit_of_ready_of_loads asked ready loads
  rw [hr]
  cases ho : o.output
  case none      =>
    obtain ⟨log, hp⟩ := run_emitLoaded_none tree here ho
    refine ⟨_, _, hp, fun _ => ⟨rfl, ?_, concludes_ofEmission Output.value_print⟩, nofun⟩
    rw [stdout_ofEmission, Output.emit_emittable]
  case some path =>
    obtain ⟨log, hw⟩ := run_emitLoaded_some tree here ho
    refine ⟨_, _, hw, nofun, ?_⟩
    rintro _ ⟨⟩
    refine ⟨stdout_ofEmission, Output.tree_writeModule_emittable.symm, ?_⟩
    intro made d new plain short
    exact concludes_ofEmission (new.value_writeModule plain short)

def halfEmittable : Module where
  name    := "half"
  scripts := [
    { id := 1, body := .last (.seq [.assign [] (.var ⟨.stack, .int, 0⟩)]) },
    { id := 2, body := .last (.seq []) }]

def halfTree : FileTree where
  nodes := [(["m.json"], .file (.text halfEmittable.toJson.write))]

def halfOptions : EmitOptions where
  input   := "m.json"
  output  := some "out"
  skipped := ["delete-nops"]

theorem run_emit_half :
    let arguments := ["emit", "m.json", "-o", "out", "--skip-pass", "delete-nops"]
    let made := halfTree.put ["out"] .directory
    readArguments arguments = some (.emit halfOptions) ∧ Ready halfTree [] none halfOptions ∧
      Loads halfTree [] "m.json" halfEmittable ∧
      MakesNew halfTree [] (.given "out") made ["out"] ∧
      Output.NoneTooLong [] (.given "out") Names.unknown "    " halfEmittable.scripts ∧
      ∃ outcome after log, (run (FileTree.files []) none arguments).run halfTree =
        (outcome, after) ∧ outcome.code = 1 ∧
        outcome.stderr = linesText log ++ "Error: 1 of 2 scripts failed to emit\n" := by
  intro arguments made
  have asked : readArguments arguments = some (.emit halfOptions) := by decide +kernel
  have loads : Loads halfTree [] "m.json" halfEmittable :=
    ⟨_, rfl, (Module.ofText?_write _).trans (if_pos (by decide +kernel))⟩
  have ready : Ready halfTree [] none halfOptions :=
    { passes := by decide, source := ⟨_, loads⟩,
      directory := by rintro _ ⟨⟩,
      tables := by rintro _ ⟨⟩ }
  have new : MakesNew halfTree [] (.given "out") made ["out"] :=
    { makes := rfl, place := rfl, new := by rintro (_ | ⟨f, rest⟩) h; exacts [absurd rfl h, rfl] }
  have names : (tables halfTree [] none halfOptions).names = Names.unknown := by
    funext kind id
    simp [tables, tablesDirectory?, halfOptions, NameTable.names, Names.unknown]
  have short : Output.NoneTooLong [] (.given "out") Names.unknown "    " halfEmittable.scripts :=
    Output.noneTooLong "    " (by decide +kernel)
  obtain ⟨outcome, after, hr, _, hw⟩ :=
    run_emit_of_ready.right halfTree [] none _ arguments halfOptions halfEmittable asked ready loads
  rw [names] at hw
  obtain ⟨_, _, hc⟩ := hw "out" rfl
  have hn : ¬Succeeds (halfEmittable.scripts[0].emit Names.unknown "    ") := by
    rintro ⟨_, h⟩; cases h
  obtain ⟨hc, log, hs⟩ := (hc made ["out"] new (by decide +kernel) short).failure
    ⟨_, List.mem_cons_self, hn⟩
  exact ⟨asked, ready, loads, new, short, outcome, after, log, hr, hc, hs⟩

-- A name that no file can have, because ".cs2" makes it too long.
def longName : String :=
  String.ofList (List.replicate 252 'n')

theorem toList_longName : longName.toList = List.replicate 252 'n' :=
  String.toList_ofList

def longScript : Script :=
  { id := 1, body := .last (.seq []) }

def longModule : Module where
  name    := "long"
  scripts := [longScript]

def longTexts : NameKind → Option String
  | .script => some ("1\t" ++ longName)
  | _       => none

def longTree : FileTree where
  nodes := [
    (["m.json"], .file (.text longModule.toJson.write)),
    (["names"], .directory),
    (["names", "scripts.tsv"], .file (.text ("1\t" ++ longName)))]

def longOptions : EmitOptions where
  input  := "m.json"
  names  := some "names"
  output := some "out"

theorem holds_longTree : NameTable.Holds longTree [] (.given "names") longTexts := by
  constructor
  case present => intro kind text ht; cases kind <;> cases ht; rfl
  case absent  => intro kind ht; cases kind <;> cases ht <;> rfl

theorem linesOf_longTexts (kind : NameKind) : NameTable.linesOf longTexts kind =
    if kind = .script then ['1' :: '\t' :: longName.toList] else [] := by
  cases kind
  case script =>
    rw [NameTable.linesOf, longTexts, Option.elim_some, NameTable.tableLines, String.toList_append,
      toList_longName]
    decide +kernel
  all_goals rfl

theorem gives_longName : NameTable.Gives ('1' :: '\t' :: longName.toList) 1 longName where
  significant := {
    notBlank   := ⟨'1', List.mem_cons_self, by decide⟩
    notComment := fun h => absurd (Option.some.inj h) (by decide) }
  entry       := ⟨['1'], rfl, by decide, .bare { nonempty := nofun, digits := List.all_eq_true.mp rfl }⟩

theorem tablesDirectory?_longTree :
    tablesDirectory? longTree [] none longOptions = some (.given "names") :=
  rfl

theorem names_longTree :
    (tables longTree [] none longOptions).names .script 1 = some longName := by
  have hn : (NameTable.names {}) .script 1 = none := by simp [NameTable.names]
  rw [tables, tablesDirectory?_longTree, Option.elim_some,
    holds_longTree.names_foldl_insertAll {} .script 1 hn, NameTable.lookup_entries_eq_some_iff,
    linesOf_longTexts, if_pos rfl]
  exact ⟨[], _, [], rfl, gives_longName, List.forall_mem_nil _⟩

theorem fileName_longScript (h : names .script 1 = some longName) :
    '\x00' ∉ (names.fileName longScript.id).toList ∧
      255 < (names.fileName longScript.id).utf8ByteSize := by
  have hl : (names.fileName longScript.id).toList =
      List.replicate 252 'n' ++ ['.', 'c', 's', '2'] := by
    rw [Names.toList_fileName, Names.script, show longScript.id = 1 from rfl, h, Option.getD_some,
      toList_longName, List.map_replicate]
    rfl
  refine ⟨by rw [hl, List.mem_append, List.mem_replicate]; decide, ?_⟩
  have hb := length_le_utf8ByteSize (names.fileName longScript.id).toList
  rw [String.ofList_toList, hl, List.length_append, List.length_replicate] at hb
  exact Nat.lt_of_lt_of_le (by decide) hb

theorem run_emit_of_long_name :
    let arguments := ["emit", "m.json", "--names", "names", "-o", "out"]
    let names := (tables longTree [] none longOptions).names
    let made := longTree.put ["out"] .directory
    readArguments arguments = some (.emit longOptions) ∧ Ready longTree [] none longOptions ∧
      Loads longTree [] "m.json" longModule ∧
      MakesNew longTree [] (.given "out") made ["out"] ∧
      (∀ s ∈ (transformed longOptions longModule).scripts,
        Succeeds (s.emit names longOptions.unit) ∧ '\x00' ∉ (names.fileName s.id).toList) ∧
      ((run (FileTree.files []) none arguments).run longTree).1.code = 1 := by
  intro arguments names made
  have asked : readArguments arguments = some (.emit longOptions) := by decide +kernel
  have loads : Loads longTree [] "m.json" longModule :=
    ⟨_, rfl, (Module.ofText?_write _).trans (if_pos (by decide +kernel))⟩
  have ready : Ready longTree [] none longOptions :=
    { passes := nofun, source := ⟨_, loads⟩,
      directory := by rintro _ ⟨⟩; rfl,
      tables := by
        rintro _ h kind
        obtain rfl := Option.some.inj (tablesDirectory?_longTree.symm.trans h)
        rw [← NameTable.faultsOf_eq_nil_iff, holds_longTree.faultsOf_eq_nil_iff,
          linesOf_longTexts]
        split
        case isTrue  =>
          exact List.forall_mem_singleton.mpr fun _ => ⟨1, longName, gives_longName.entry⟩
        case isFalse => exact List.forall_mem_nil _ }
  have new : MakesNew longTree [] (.given "out") made ["out"] :=
    { makes := rfl, place := rfl, new := by rintro (_ | ⟨f, rest⟩) h; exacts [absurd rfl h, rfl] }
  have emitted : Succeeds (longScript.emit names longOptions.unit) := ⟨_, rfl⟩
  obtain ⟨plain, hb⟩ := fileName_longScript names_longTree
  refine ⟨asked, ready, loads, new, List.forall_mem_singleton.mpr ⟨emitted, plain⟩, ?_⟩
  obtain ⟨before, hr⟩ := run_emit_of_ready_of_loads asked ready loads
  obtain ⟨log, hw⟩ := run_emitLoaded_some longTree [] (show longOptions.output = _ from rfl)
  obtain ⟨text, hs⟩ := emitted
  have hv : ((Output.writeModule (FileTree.files []) (.given "out") names longOptions.unit
      (transformed longOptions longModule)).run longTree).1.value = .error (.file .tooLong) :=
    new.writeModule_tooLong hs plain hb
  rw [hr, hw, code_ofEmission]
  exact congrArg (fun v => if v.isOk then 0 else 1) hv

end CommandLine

end ClientScript
