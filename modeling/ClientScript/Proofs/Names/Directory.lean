import ClientScript.Names.Directory
import ClientScript.Proofs.FileTree
import ClientScript.Proofs.Names.Table

namespace ClientScript

namespace FileTree

variable {tree : FileTree} {here : List String} {p : Path}

theorem run_isFile : ((files here).isFile p).run tree = (tree.isFile here p, tree) :=
  rfl

theorem run_readText : ((files here).readText p).run tree = (tree.readText here p, tree) :=
  rfl

theorem isFile_of_find? (h : tree.find? here p = .ok (.file content)) : tree.isFile here p := by
  rw [isFile, h]
  rfl

theorem readText_of_find? (h : tree.find? here p = .ok (.file (.text text))) :
    tree.readText here p = .ok text := by
  rw [readText, h]
  rfl

end FileTree

@[simp]
theorem NameKind.mem_all (kind : NameKind) : kind ∈ all := by
  cases kind <;> decide

namespace NameTable

section

variable (tree : FileTree) (here : List String) (directory : Path)

-- The text of the table of a kind, if it can be read. A table that is no file is not there.
def tableOf? (kind : NameKind) : Option (Except FileFault String) :=
  if tree.isFile here (path directory kind) then some (tree.readText here (path directory kind))
  else none

def faultsOf (kind : NameKind) : List NamesFault :=
  match tableOf? tree here directory kind with
  | none                => []
  | some (.error fault) => [.file fault]
  | some (.ok text)     => (faultsFrom 1 (tableLines text)).map (.table (path directory kind))

def entriesOf (kind : NameKind) : List (Int32 × String) :=
  match tableOf? tree here directory kind with
  | some (.ok text) => (tableLines text).filterMap entryOf?
  | _               => []

structure Holds (texts : NameKind → Option String) : Prop where
  present : texts kind = some text →
    tree.find? here (path directory kind) = .ok (.file (.text text))
  absent  : texts kind = none → tree.isFile here (path directory kind) = false

end

variable {tree : FileTree} {here : List String} {directory : Path} {kinds : List NameKind}
variable {kind : NameKind} {id : Int32} {t : NameTable}

theorem faultsOf_eq_nil_iff : faultsOf tree here directory kind = [] ↔
    (tree.isFile here (path directory kind) → ∃ text,
      tree.readText here (path directory kind) = .ok text ∧ Proper (tableLines text)) := by
  rw [faultsOf, tableOf?]
  by_cases hf : tree.isFile here (path directory kind)
  case neg => simp [hf]
  case pos => cases tree.readText here (path directory kind) <;> simp [hf, faultsFrom_eq_nil_iff]

theorem run_loadKinds_cons :
    (loadKinds (FileTree.files here) directory (kind :: kinds) t).run tree =
      match barring (faultsOf tree here directory kind)
        (t.insertAll kind (entriesOf tree here directory kind)) with
      | .error fault => (.error fault, tree)
      | .ok t        => (loadKinds (FileTree.files here) directory kinds t).run tree := by
  rw [loadKinds, FileTree.run_bind, FileTree.run_isFile, faultsOf, entriesOf, tableOf?]
  by_cases hf : tree.isFile here (path directory kind)
  case neg => rw [if_neg hf, if_neg hf]; rfl
  case pos =>
    rw [if_pos hf, if_pos hf, FileTree.run_bind, FileTree.run_readText]
    cases tree.readText here (path directory kind)
    case error fault => rfl
    case ok text     =>
      dsimp only
      rw [read_eq]
      cases faultsFrom 1 (tableLines text)
      case nil               => rfl
      case cons fault faults => rfl

theorem run_loadKinds : (loadKinds (FileTree.files here) directory kinds t).run tree =
    (barring (kinds.flatMap (faultsOf tree here directory))
      (kinds.foldl (fun t kind => t.insertAll kind (entriesOf tree here directory kind)) t),
      tree) := by
  induction kinds generalizing t
  case nil                => rfl
  case cons kind kinds hi =>
    rw [run_loadKinds_cons, List.flatMap_cons, barring_append, List.foldl_cons]
    cases faultsOf tree here directory kind
    case nil               => exact hi
    case cons fault faults => rfl

theorem names_foldl_insertAll {entries : NameKind → List (Int32 × String)} :
    (kinds.foldl (fun t kind => t.insertAll kind (entries kind)) t).names k id =
      if k ∈ kinds then ((entries k).reverse.lookup id).or (t.names k id) else t.names k id := by
  induction kinds generalizing t
  case nil                => rfl
  case cons kind kinds hi =>
    rw [List.foldl_cons, hi, names_insertAll]
    by_cases hk : kind = k
    case neg => simp [hk, Ne.symm hk]
    case pos =>
      subst hk
      rw [if_pos rfl, if_pos List.mem_cons_self, ← Option.or_assoc, Option.or_self]
      split <;> rfl

def linesOf (texts : NameKind → Option String) (kind : NameKind) : List (List Char) :=
  (texts kind).elim [] tableLines

section

variable {texts : NameKind → Option String} (h : Holds tree here directory texts)
include h

theorem Holds.tableOf?_eq : tableOf? tree here directory kind = (texts kind).map .ok := by
  rw [tableOf?]
  cases ht : texts kind
  case none      => rw [h.absent ht]; rfl
  case some text =>
    have hf := h.present ht
    rw [if_pos (FileTree.isFile_of_find? hf), FileTree.readText_of_find? hf, Option.map_some]

theorem Holds.faultsOf_eq : faultsOf tree here directory kind =
    (faultsFrom 1 (linesOf texts kind)).map (.table (path directory kind)) := by
  rw [faultsOf, h.tableOf?_eq, linesOf]
  cases texts kind <;> rfl

theorem Holds.entriesOf_eq :
    entriesOf tree here directory kind = (linesOf texts kind).filterMap entryOf? := by
  rw [entriesOf, h.tableOf?_eq, linesOf]
  cases texts kind <;> rfl

theorem Holds.faultsOf_eq_nil_iff :
    faultsOf tree here directory kind = [] ↔ Proper (linesOf texts kind) := by
  rw [h.faultsOf_eq, List.map_eq_nil_iff, faultsFrom_eq_nil_iff]

theorem Holds.flatMap_faultsOf_eq_nil_iff :
    NameKind.all.flatMap (faultsOf tree here directory) = [] ↔
      ∀ kind, Proper (linesOf texts kind) := by
  simp [h.faultsOf_eq_nil_iff]

theorem Holds.exists_of_head?_faultsOf
    (hf : (NameKind.all.flatMap (faultsOf tree here directory)).head? = some fault) :
    ∃ earlier kind later before line after bad, NameKind.all = earlier ++ kind :: later ∧
      (∀ k ∈ earlier, Proper (linesOf texts k)) ∧
      linesOf texts kind = before ++ line :: after ∧ Proper before ∧
      Significant line ∧ Faulty line bad.cause ∧ bad.line = before.length + 1 ∧
      fault = .table (path directory kind) bad := by
  rw [List.head?_flatMap, List.findSome?_eq_some_iff] at hf
  obtain ⟨earlier, kind, later, ha, hk, he⟩ := hf
  rw [h.faultsOf_eq, List.head?_map, Option.map_eq_some_iff] at hk
  obtain ⟨bad, hk, rfl⟩ := hk
  obtain ⟨before, line, after, hl, hb, hs, hc, hn⟩ := exists_of_head?_faultsFrom hk
  exact ⟨earlier, kind, later, before, line, after, bad, ha,
    fun k hm => h.faultsOf_eq_nil_iff.mp (List.head?_eq_none_iff.mp (he k hm)), hl, hb, hs, hc,
    hn.trans (Nat.add_comm 1 _), rfl⟩

theorem Holds.names_foldl_insertAll (t : NameTable) (kind : NameKind) (id : Int32)
    (ht : t.names kind id = none) :
    (NameKind.all.foldl
      (fun t kind => t.insertAll kind (entriesOf tree here directory kind)) t).names kind id =
      ((linesOf texts kind).filterMap entryOf?).reverse.lookup id := by
  rw [NameTable.names_foldl_insertAll, if_pos kind.mem_all, ht, Option.or_none, h.entriesOf_eq]

end

-- The tables of a directory can be read exactly if every line that counts has an entry. Then the
-- last one of a symbol in the table of its kind is its name. Otherwise the first bad line is reported
-- with its number, in the first table that has one.
theorem run_load_of_holds (tree : FileTree) (here : List String) (directory : Path)
    (texts : NameKind → Option String) (h : Holds tree here directory texts) :
    ∃ result, (load (FileTree.files here) directory).run tree = (result, tree) ∧
      (Succeeds result ↔ ∀ kind, Proper (linesOf texts kind)) ∧
      (∀ t, result = .ok t →
        (∀ kind id name, t.names kind id = some name ↔ GivesLast (linesOf texts kind) id name) ∧
        (∀ kind id, t.names kind id = none ↔
          ∀ line ∈ linesOf texts kind, ∀ name, ¬Gives line id name) ∧
        ∃ keys : List (NameKind × Int32), keys.Nodup ∧ t.size = keys.length ∧
          ∀ kind id, (kind, id) ∈ keys ↔ ∃ line ∈ linesOf texts kind, ∃ name, Gives line id name) ∧
      ∀ fault, result = .error fault →
        ∃ earlier kind later before line after bad, NameKind.all = earlier ++ kind :: later ∧
          (∀ k ∈ earlier, Proper (linesOf texts k)) ∧
          linesOf texts kind = before ++ line :: after ∧ Proper before ∧
          Significant line ∧ (∀ id name, ¬IsEntry line id name) ∧ Faulty line bad.cause ∧
          bad.line = before.length + 1 ∧ Complains line (before.length + 1) bad.message ∧
          fault = .table (path directory kind) bad := by
  refine ⟨_, run_loadKinds, ?_, fun t ht => ?_, fun fault hf => ?_⟩
  case refine_1 =>
    simp only [Succeeds, barring_eq_ok_iff, exists_and_left, exists_eq', and_true]
    exact h.flatMap_faultsOf_eq_nil_iff
  case refine_2 =>
    obtain ⟨_, rfl⟩ := barring_eq_ok_iff.mp ht
    have hn (kind id) := h.names_foldl_insertAll {} kind id (by simp [names])
    obtain ⟨keys, hd, hk, hs⟩ := exists_keys _
    refine ⟨fun kind id name => ?_, fun kind id => ?_, keys, hd, hs, fun kind id => ?_⟩
    case refine_1 => rw [hn, lookup_entries_eq_some_iff]
    case refine_2 => rw [hn, lookup_entries_eq_none_iff]
    case refine_3 =>
      rw [hk, ← Option.ne_none_iff_exists', hn, ne_eq, lookup_entries_eq_none_iff]
      simp
  case refine_3 =>
    obtain ⟨earlier, kind, later, before, line, after, bad, ha, he, hl, hb, hs, hc, hn, rfl⟩ :=
      h.exists_of_head?_faultsOf (barring_eq_error_iff.mp hf)
    exact ⟨earlier, kind, later, before, line, after, bad, ha, he, hl, hb, hs,
      fun id name => hc.not_isEntry, hc, hn, hn ▸ hc.complains bad.line, rfl⟩

def sampleText : String :=
  "# ids\n 1 \ta\n\n+1\tb\tc\r\n"

def sampleTree : FileTree where
  nodes := [
    (["names"], .directory),
    (["names", "scripts.tsv"], .file (.text sampleText)),
    (["names", "stats.tsv"], .file (.text " \n-07\t\n"))]

def sampleTexts : NameKind → Option String
  | .script => some sampleText
  | .stat   => some " \n-07\t\n"
  | _       => none

-- The third line has no id, and a later line and a later table are bad as well.
def brokenText : String :=
  "0\tattack\n# melee\n1x\tstrength\nrange\n"

def brokenTree : FileTree where
  nodes := [
    (["names"], .directory),
    (["names", "stats.tsv"], .file (.text brokenText)),
    (["names", "objs.tsv"], .file (.text "coins"))]

def brokenTexts : NameKind → Option String
  | .stat => some brokenText
  | .obj  => some "coins"
  | _     => none

theorem run_load_sample :
    (Holds sampleTree [] (.given "names") sampleTexts ∧
      ∃ t, (load (FileTree.files []) (.given "names")).run sampleTree = (.ok t, sampleTree) ∧
        t.names .script 1 = some "b\tc" ∧ t.names .stat (-7) = some "" ∧ t.names .obj 1 = none) ∧
    Holds brokenTree [] (.given "names") brokenTexts ∧
      ∃ before line after bad, (load (FileTree.files []) (.given "names")).run brokenTree =
          (.error (.table (path (.given "names") .stat) bad), brokenTree) ∧
        linesOf brokenTexts .stat = before ++ line :: after ∧ before.length = 2 ∧
        Complains line 3 bad.message ∧
        bad.message = "line 3: bad id \"1x\": invalid digit found in string" := by
  constructor
  case left  =>
    have h : Holds sampleTree [] (.given "names") sampleTexts := by
      constructor
      case present => intro kind text ht; cases kind <;> cases ht <;> decide +kernel
      case absent  => intro kind ht; cases kind <;> cases ht <;> decide +kernel
    obtain ⟨result, hr, hs, hn, _⟩ := run_load_of_holds sampleTree [] (.given "names") sampleTexts h
    have hp : ∀ kind, Proper (linesOf sampleTexts kind) := by
      intro kind
      rw [← faultsFrom_eq_nil_iff (n := 1)]
      cases kind <;> decide +kernel
    obtain ⟨t, rfl⟩ := hs.mpr hp
    obtain ⟨hn, ho, _⟩ := hn t rfl
    refine ⟨h, t, hr, (hn _ _ _).mpr ?_, (hn _ _ _).mpr ?_, (ho _ _).mpr nofun⟩
    all_goals
      rw [← lookup_entries_eq_some_iff]
      decide +kernel
  case right =>
    have h : Holds brokenTree [] (.given "names") brokenTexts := by
      constructor
      case present => intro kind text ht; cases kind <;> cases ht <;> decide +kernel
      case absent  => intro kind ht; cases kind <;> cases ht <;> decide +kernel
    obtain ⟨result, hr, _, _, he⟩ := run_load_of_holds brokenTree [] (.given "names") brokenTexts h
    have hv : result = .error (.table (path (.given "names") .stat)
        { line := 3, cause := .badId "1x" .invalidDigit }) := by
      rw [show result = _ from congrArg Prod.fst (hr.symm.trans run_loadKinds),
        barring_eq_error_iff]
      decide +kernel
    obtain ⟨_, kind, _, before, line, after, bad, _, _, hl, _, _, _, _, hn, hc, hf⟩ := he _ hv
    obtain ⟨hk, rfl⟩ := NamesFault.table.inj hf
    obtain rfl : kind = .stat := by
      revert hk
      cases kind <;> decide +kernel
    obtain hn : before.length = 2 := (Nat.succ.inj hn).symm
    rw [hn] at hc
    exact ⟨h, before, line, after, _, hv ▸ hr, hl, hn, hc, by decide +kernel⟩

end NameTable
end ClientScript
