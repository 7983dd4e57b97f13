import ClientScript.CommandLine.Arguments

namespace ClientScript.CommandLine

def EmitOptions.undumped (o : EmitOptions) : EmitOptions :=
  { o with dump := false, filter := none }

namespace Word

def setting? : Word → Option (String × String)
  | option name (some value)  => some (name, value)
  | letters ('o' :: '=' :: v) => some ("output", String.ofList v)
  | letters ('o' :: c :: v)   => some ("output", String.ofList (c :: v))
  | _                         => none

def awaiting? : Word → Option String
  | option name none => if Draft.takesValue name then some name else none
  | letters ['o']    => some "output"
  | _                => none

def asksForDumps : Word → Bool
  | option name _ => name = "dump-ir" ∨ name = "filter"
  | _             => false

end Word

-- Arguments without those that say what to dump. Where the options have ended, there are none.
def withoutDumps : List String → List String
  | []        => []
  | s :: rest =>
    let word := Word.ofArgument s
    if word = .ending then s :: rest
    else if word.asksForDumps then
      match word.awaiting?, rest with
      | some _, _ :: rest => withoutDumps rest
      | _, rest           => withoutDumps rest
    else s :: withoutDumps rest

namespace Draft

def undumped (d : Draft) : Draft :=
  { d with dump := false, filter := none }

variable {d e : Draft}

theorem set_undumped (d : Draft) (value : String) (h : name ≠ "filter") :
    d.undumped.set name value = (d.set name value).map undumped := by
  unfold set
  split
  case h_4 => exact absurd rfl h
  case h_1 | h_2 => rw [apply_ite (Option.map undumped)]; rfl
  all_goals rfl

theorem undumped_of_set_filter (h : d.set "filter" value = some e) : e.undumped = d.undumped := by
  have h : (if d.filter.isNone then some { d with filter := value } else none) = some e := h
  split at h <;> cases h
  rfl

theorem raise_undumped (d : Draft) (h : name ≠ "dump-ir") :
    d.undumped.raise name = (d.raise name).map undumped := by
  unfold raise
  split
  case h_1 => exact absurd rfl h
  case h_2 => rw [apply_ite (Option.map undumped)]; rfl
  case h_3 => rfl

theorem undumped_of_raise_dump (h : d.raise "dump-ir" = some e) : e.undumped = d.undumped := by
  have h : (if d.dump then none else some { d with dump := true }) = some e := h
  split at h <;> cases h
  rfl

theorem place_undumped (d : Draft) (input : String) :
    d.undumped.place input = (d.place input).map undumped := by
  rw [place, place, apply_ite (Option.map undumped)]
  rfl

theorem foldlM_place_undumped (d : Draft) (inputs : List String) :
    inputs.foldlM place d.undumped = (inputs.foldlM place d).map undumped := by
  induction inputs generalizing d
  case nil                  => rfl
  case cons input inputs hi =>
    rw [List.foldlM_cons, List.foldlM_cons, place_undumped]
    cases d.place input
    case none   => rfl
    case some e => exact hi e

theorem finish_undumped (h : d.finish = some (.emit o)) :
    d.undumped.finish = some (.emit o.undumped) := by
  obtain ⟨input, hi, ho⟩ := Option.map_eq_some_iff.mp h
  cases ho
  exact Option.map_eq_some_iff.mpr ⟨input, hi, rfl⟩

end Draft

namespace Word

variable {w : Word}

theorem setting_of_letters (hn : cs ≠ []) (he : ∀ v, cs ≠ '=' :: v) :
    (letters ('o' :: cs)).setting? = some ("output", String.ofList cs) := by
  obtain ⟨c, v, rfl⟩ := List.exists_cons_of_ne_nil hn
  have hc : c = '=' → False := by
    rintro rfl
    exact he v rfl
  simp only [setting?]

theorem ne_ending_of_setting (h : w.setting? = some (name, value)) : w ≠ .ending := by
  rintro rfl
  cases h

theorem ne_ending_of_awaiting (h : w.awaiting? = some name) : w ≠ .ending := by
  rintro rfl
  cases h

theorem awaiting_of_setting (h : w.setting? = some (name, value)) : w.awaiting? = none := by
  unfold setting? at h
  split at h <;> cases h <;> rfl

theorem asksForDumps_of_setting (h : w.setting? = some (name, value)) :
    w.asksForDumps ↔ name = "dump-ir" ∨ name = "filter" := by
  unfold setting? at h
  split at h <;> cases h <;> simp [asksForDumps]

theorem takesValue_of_awaiting (h : w.awaiting? = some name) : Draft.takesValue name := by
  unfold awaiting? at h
  split at h
  case h_1 =>
    obtain ⟨hv, ⟨⟩⟩ := Option.ite_none_right_eq_some.mp h
    exact hv
  case h_2 =>
    cases h
    rfl
  case h_3 => cases h

theorem asksForDumps_of_awaiting (h : w.awaiting? = some name) :
    w.asksForDumps ↔ name = "filter" := by
  have hd : name ≠ "dump-ir" := by
    rintro rfl
    cases takesValue_of_awaiting h
  unfold awaiting? at h
  split at h
  case h_1 => simp_all [asksForDumps]
  case h_2 =>
    cases h
    simp [asksForDumps]
  case h_3 => cases h

end Word

section

variable {s v : String} {rest : List String} {d e : Draft}

theorem value?_eq_some_iff : value? s = some v ↔ Word.ofArgument s = .plain v := by
  rw [value?]
  split <;> simp_all

theorem readEmit_plain (h : Word.ofArgument s = .plain input) :
    readEmit d (s :: rest) = (d.place input).bind (readEmit · rest) := by
  rw [readEmit.eq_def]
  simp only [h]
  rfl

theorem readEmit_ending (h : Word.ofArgument s = .ending) :
    readEmit d (s :: rest) = (rest.foldlM Draft.place d).bind Draft.finish := by
  rw [readEmit.eq_def]
  simp only [h]
  rfl

theorem readEmit_setting (h : (Word.ofArgument s).setting? = some (name, value)) :
    readEmit d (s :: rest) = (d.set name value).bind (readEmit · rest) := by
  rw [readEmit.eq_def]
  dsimp only
  generalize Word.ofArgument s = w at h
  unfold Word.setting? at h
  split at h <;> cases h
  case h_1.refl => rfl
  case h_2.refl => rfl
  case h_3.refl c v hc =>
    have he : ∀ u, c :: v = '=' :: u → False := by
      rintro u ⟨⟩
      exact hc rfl
    -- The letter is not followed by an equals sign, and `he` says so of all that follows it.
    simp only
    rfl

theorem readEmit_awaiting (h : (Word.ofArgument s).awaiting? = some name) :
    readEmit d (s :: v :: rest) =
      (value? v).bind fun value => (d.set name value).bind (readEmit · rest) := by
  have hv := Word.takesValue_of_awaiting h
  have hn : name ≠ "help" := by
    rintro rfl
    cases hv
  rw [readEmit.eq_def]
  dsimp only
  generalize Word.ofArgument s = w at h
  unfold Word.awaiting? at h
  split at h
  case h_1 =>
    obtain ⟨-, ⟨⟩⟩ := Option.ite_none_right_eq_some.mp h
    simp only [if_neg hn, if_pos hv]
    rfl
  case h_2 =>
    cases h
    rfl
  case h_3 => cases h

theorem readEmit_raising (h : Word.ofArgument s = .option name none) (hn : name ≠ "help")
    (hv : ¬Draft.takesValue name) :
    readEmit d (s :: rest) = (d.raise name).bind (readEmit · rest) := by
  rw [readEmit.eq_def]
  simp only [h, if_neg hn, if_neg hv]
  rfl

theorem withoutDumps_ending (h : Word.ofArgument s = .ending) :
    withoutDumps (s :: rest) = s :: rest := by
  rw [withoutDumps.eq_def]
  exact if_pos h

theorem withoutDumps_kept (hs : Word.ofArgument s ≠ .ending)
    (hd : ¬(Word.ofArgument s).asksForDumps) :
    withoutDumps (s :: rest) = s :: withoutDumps rest := by
  rw [withoutDumps.eq_def]
  exact (if_neg hs).trans (if_neg hd)

theorem withoutDumps_dropped (hs : Word.ofArgument s ≠ .ending)
    (hd : (Word.ofArgument s).asksForDumps) (hw : (Word.ofArgument s).awaiting? = none) :
    withoutDumps (s :: rest) = withoutDumps rest := by
  rw [withoutDumps.eq_def]
  simp only [if_neg hs, if_pos hd, hw]

theorem withoutDumps_dropped_value (hs : Word.ofArgument s ≠ .ending)
    (hd : (Word.ofArgument s).asksForDumps) (hw : (Word.ofArgument s).awaiting? = some name) :
    withoutDumps (s :: v :: rest) = withoutDumps rest := by
  rw [withoutDumps.eq_def]
  simp only [if_neg hs, if_pos hd, hw]

theorem withoutDumps_plain (h : Word.ofArgument s = .plain input) :
    withoutDumps (s :: rest) = s :: withoutDumps rest :=
  withoutDumps_kept (by rw [h]; nofun) (by rw [h]; nofun)

-- An option that asks for dumps changes nothing else. Any other stays, and sets what it did.
theorem readEmit_withoutDumps_setting (h : (Word.ofArgument s).setting? = some (name, value))
    (he : d.set name value = some e) :
    readEmit d.undumped (withoutDumps (s :: rest)) = readEmit e.undumped (withoutDumps rest) := by
  have hs := Word.ne_ending_of_setting h
  have hd : name ≠ "dump-ir" := by
    rintro rfl
    cases he
  have ha : (Word.ofArgument s).asksForDumps ↔ name = "filter" := by
    rw [Word.asksForDumps_of_setting h, or_iff_right hd]
  by_cases hf : name = "filter"
  case pos =>
    rw [withoutDumps_dropped hs (ha.mpr hf) (Word.awaiting_of_setting h)]
    subst hf
    rw [Draft.undumped_of_set_filter he]
  case neg =>
    rw [withoutDumps_kept hs (mt ha.mp hf), readEmit_setting h, Draft.set_undumped d value hf, he]
    rfl

theorem readEmit_withoutDumps_awaiting (h : (Word.ofArgument s).awaiting? = some name)
    (hv : value? v = some value) (he : d.set name value = some e) :
    readEmit d.undumped (withoutDumps (s :: v :: rest)) =
      readEmit e.undumped (withoutDumps rest) := by
  have hs := Word.ne_ending_of_awaiting h
  have ha := Word.asksForDumps_of_awaiting h
  by_cases hf : name = "filter"
  case pos =>
    rw [withoutDumps_dropped_value hs (ha.mpr hf) h]
    subst hf
    rw [Draft.undumped_of_set_filter he]
  case neg =>
    rw [withoutDumps_kept hs (mt ha.mp hf), withoutDumps_plain (value?_eq_some_iff.mp hv),
      readEmit_awaiting h, hv, Option.bind_some, Draft.set_undumped d value hf, he]
    rfl

theorem readEmit_withoutDumps_raising (h : Word.ofArgument s = .option name none)
    (hn : name ≠ "help") (hv : ¬Draft.takesValue name) (he : d.raise name = some e) :
    readEmit d.undumped (withoutDumps (s :: rest)) = readEmit e.undumped (withoutDumps rest) := by
  have hs : Word.ofArgument s ≠ .ending := by
    rw [h]
    nofun
  have hw : (Word.ofArgument s).awaiting? = none := by
    rw [h]
    exact if_neg hv
  have hf : name ≠ "filter" := by
    rintro rfl
    exact hv rfl
  have ha : (Word.ofArgument s).asksForDumps ↔ name = "dump-ir" := by
    simp [h, Word.asksForDumps, hf]
  by_cases hd : name = "dump-ir"
  case pos =>
    rw [withoutDumps_dropped hs (ha.mpr hd) hw]
    subst hd
    rw [Draft.undumped_of_raise_dump he]
  case neg =>
    rw [withoutDumps_kept hs (mt ha.mp hd), readEmit_raising h hn hv, Draft.raise_undumped d hd, he]
    rfl

end

theorem readEmit_withoutDumps (h : readEmit d arguments = some (.emit o)) :
    readEmit d.undumped (withoutDumps arguments) = some (.emit o.undumped) := by
  fun_induction readEmit d arguments
  case case1 => exact Draft.finish_undumped h
  case case2 d s rest input hs hi =>
    obtain ⟨e, he, hr⟩ := Option.bind_eq_some_iff.mp h
    rw [withoutDumps_plain hs, readEmit_plain hs, Draft.place_undumped, he]
    exact hi e hr
  case case3 d s rest hs =>
    obtain ⟨e, he, hr⟩ := Option.bind_eq_some_iff.mp h
    rw [withoutDumps_ending hs, readEmit_ending hs, Draft.foldlM_place_undumped, he]
    exact Draft.finish_undumped hr
  case case4 d s rest name value hs hi =>
    obtain ⟨e, he, hr⟩ := Option.bind_eq_some_iff.mp h
    rw [readEmit_withoutDumps_setting (by rw [hs]; rfl) he]
    exact hi e hr
  case case6 d s name hs hn hv v rest hi =>
    obtain ⟨value, hp, hb⟩ := Option.bind_eq_some_iff.mp h
    obtain ⟨e, he, hr⟩ := Option.bind_eq_some_iff.mp hb
    rw [readEmit_withoutDumps_awaiting (by rw [hs]; exact if_pos hv) hp he]
    exact hi e hr
  case case8 d s rest name hs hn hv hi =>
    obtain ⟨e, he, hr⟩ := Option.bind_eq_some_iff.mp h
    rw [readEmit_withoutDumps_raising hs hn hv he]
    exact hi e hr
  case case10 d s hs v rest hi =>
    obtain ⟨value, hp, hb⟩ := Option.bind_eq_some_iff.mp h
    obtain ⟨e, he, hr⟩ := Option.bind_eq_some_iff.mp hb
    rw [readEmit_withoutDumps_awaiting (by rw [hs]; rfl) hp he]
    exact hi e hr
  case case12 d s rest cs hs hi =>
    obtain ⟨e, he, hr⟩ := Option.bind_eq_some_iff.mp h
    rw [readEmit_withoutDumps_setting (by rw [hs]; rfl) he]
    exact hi e hr
  case case13 d s rest cs hn hc hs hi =>
    obtain ⟨e, he, hr⟩ := Option.bind_eq_some_iff.mp h
    have hw : (Word.ofArgument s).setting? = some ("output", String.ofList cs) := by
      rw [hs]
      exact Word.setting_of_letters hn hc
    rw [readEmit_withoutDumps_setting hw he]
    exact hi e hr
  all_goals cases h

theorem readPasses_ne_emit (arguments : List String) (o : EmitOptions) :
    readPasses arguments ≠ some (.emit o) := by
  unfold readPasses
  split
  case h_1 => simp
  case h_2 =>
    split
    case h_3 => split <;> simp
    all_goals simp

theorem readHelp_ne_emit (arguments : List String) (o : EmitOptions) :
    readHelp arguments ≠ some (.emit o) := by
  unfold readHelp
  split <;> simp

theorem exists_of_readArguments (h : readArguments arguments = some (.emit o)) :
    ∃ rest, arguments = "emit" :: rest ∧ readEmit {} rest = some (.emit o) := by
  unfold readArguments at h
  split at h
  case h_2 rest => exact ⟨rest, rfl, h⟩
  case h_3 rest => exact absurd h (readPasses_ne_emit rest o)
  case h_4 rest => exact absurd h (readHelp_ne_emit rest o)
  case h_5 => split at h <;> cases h
  case h_1 => cases h

-- Without the arguments about dumps, a run is asked for the same without dumps.
theorem readArguments_withoutDumps (h : readArguments arguments = some (.emit o)) :
    readArguments (withoutDumps arguments) = some (.emit o.undumped) := by
  obtain ⟨rest, rfl, hr⟩ := exists_of_readArguments h
  rw [withoutDumps_plain (show Word.ofArgument "emit" = .plain "emit" from rfl)]
  exact readEmit_withoutDumps hr

end ClientScript.CommandLine
