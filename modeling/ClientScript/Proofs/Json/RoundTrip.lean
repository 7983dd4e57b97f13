import ClientScript.Proofs.Json.Numbers
import ClientScript.Proofs.Json.Texts

namespace ClientScript.Json

open Text (Ends)

-- A value whose text says all about it: no number is too large or no integer, nothing is broken.
inductive Plain : Json → Prop
  | null                                   : Plain null
  | bool                                   : Plain (bool b)
  | int (h : n.natAbs < 0x20000000000000)  : Plain (int n)
  | str                                    : Plain (str s)
  | arr (h : ∀ e ∈ es, Plain e)            : Plain (arr es)
  | obj (h : ∀ m ∈ ms, Plain m.snd)        : Plain (obj ms)

def writeMember (m : String × Json) : String :=
  writeText m.fst ++ ":" ++ m.snd.write

theorem writeElements_eq_map (es : List Json) : writeElements es = es.map write := by
  induction es
  case nil          => rfl
  case cons e es hi => rw [writeElements, hi, List.map_cons]

theorem writeMembers_eq_map (ms : List (String × Json)) : writeMembers ms = ms.map writeMember := by
  induction ms
  case nil          => rfl
  case cons m ms hi => rw [writeMembers, hi, List.map_cons, writeMember]

theorem toList_write_arr (es : List Json) :
    (arr es).write.toList = '[' :: ([','].intercalate (es.map (·.write.toList)) ++ [']']) := by
  simp [write, writeElements_eq_map, String.toList_intercalate, Function.comp_def]

theorem toList_write_obj (ms : List (String × Json)) :
    (obj ms).write.toList =
      '\x7b' :: ([','].intercalate (ms.map (writeMember · |>.toList)) ++ ['\x7d']) := by
  simp [write, writeMembers_eq_map, String.toList_intercalate, Function.comp_def]

theorem toList_writeMember (m : String × Json) :
    (writeMember m).toList =
      '"' :: (m.fst.toList.flatMap writeChar ++ '"' :: ':' :: m.snd.write.toList) := by
  simp [writeMember, toList_writeText]

theorem skipSpace_cons (h : isSpace c = false) : skipSpace (c :: cs) = c :: cs := by
  simp [skipSpace, h]

theorem isSpace_eq_false (h : isNumberChar c) : isSpace c = false := by
  cases hs : isSpace c
  case false => rfl
  case true  =>
    have hc : c ∈ [' ', '\t', '\n', '\r'] := by simpa [isSpace, or_assoc] using hs
    have hn : [' ', '\t', '\n', '\r'].all fun c => !isNumberChar c := rfl
    exact absurd h (by simpa using List.all_eq_true.mp hn c hc)

theorem Plain.head_write (h : Plain j) :
    ∃ c cs, j.write.toList = c :: cs ∧ isSpace c = false ∧ c ≠ ']' := by
  cases h
  case null   => exact ⟨_, _, rfl, by decide, by decide⟩
  case bool b => cases b <;> exact ⟨_, _, rfl, by decide, by decide⟩
  case str    => exact ⟨_, _, toList_writeText _, by decide, by decide⟩
  case arr    => exact ⟨_, _, toList_write_arr _, by decide, by decide⟩
  case obj    => exact ⟨_, _, toList_write_obj _, by decide, by decide⟩
  case int n _ =>
    have ⟨c, cs, ht, hi⟩ := Text.exists_toList_toString_int n
    have hc := isNumberChar_of_isIntChar hi
    refine ⟨c, cs, ht, isSpace_eq_false hc, ?_⟩
    rintro rfl
    exact absurd hc (by decide)

theorem Plain.skipSpace_write (h : Plain j) (rest : List Char) :
    skipSpace (j.write.toList ++ rest) = j.write.toList ++ rest := by
  have ⟨c, cs, ht, hs, _⟩ := h.head_write
  rw [ht, List.cons_append, skipSpace_cons hs]

theorem readValue_eq_readNumber (h : isNumberChar c) :
    readValue (n + 1) (c :: cs) = readNumber (c :: cs) := by
  rw [readValue.eq_def]
  split
  case h_1 => contradiction
  case h_2 hn =>
    cases hn
    simp only
    split
    case h_7 => rfl
    all_goals
      rename_i hc
      cases hc
      exact absurd h (by decide)

-- A value is read from any text that begins with it, if the steps are not fewer than its characters.
def Readable (j : Json) : Prop :=
  ∀ n rest, j.write.toList.length ≤ n → Ends isNumberChar rest →
    readValue n (j.write.toList ++ rest) = some (j, rest)

theorem readElements_intercalate (rest : List Char) (h : ∀ j ∈ e :: es, Plain j ∧ Readable j)
    (hn : ([','].intercalate ((e :: es).map (·.write.toList))).length < n) :
    readElements n ([','].intercalate ((e :: es).map (·.write.toList)) ++ ']' :: rest) =
      some (e :: es, rest) := by
  have ⟨⟨he, hr⟩, ht⟩ := List.forall_mem_cons.mp h
  obtain ⟨n, rfl⟩ := Nat.exists_eq_add_one.mpr (Nat.zero_lt_of_lt hn)
  induction es generalizing e n
  case nil =>
    simp only [List.map_cons, List.map_nil, List.intercalate_singleton] at hn ⊢
    rw [readElements, he.skipSpace_write, hr _ _ (by omega) (.cons (by decide))]
    rfl
  case cons e' es hi =>
    have ⟨⟨he', hr'⟩, ht'⟩ := List.forall_mem_cons.mp ht
    simp only [List.map_cons, List.intercalate_cons_cons, List.length_append, List.length_cons,
      List.append_assoc, List.cons_append, List.nil_append] at hn hi ⊢
    obtain ⟨n, rfl⟩ := Nat.exists_eq_add_one.mpr (show 0 < n by omega)
    rw [readElements, he.skipSpace_write, hr _ _ (by omega) (.cons (by decide))]
    simp only [skipSpace_cons (show isSpace ',' = false by decide)]
    rw [hi ht he' hr' ht' n (by omega)]
    rfl

theorem readMembers_intercalate {m : String × Json} (rest : List Char)
    (h : ∀ x ∈ m :: ms, Plain x.snd ∧ Readable x.snd)
    (hn : ([','].intercalate ((m :: ms).map fun x => (writeMember x).toList)).length < n) :
    readMembers n
        ([','].intercalate ((m :: ms).map fun x => (writeMember x).toList) ++ '\x7d' :: rest) =
      some ((m :: ms).map fun (k, v) => (some k, v), rest) := by
  have ⟨⟨hp, hr⟩, ht⟩ := List.forall_mem_cons.mp h
  obtain ⟨n, rfl⟩ := Nat.exists_eq_add_one.mpr (Nat.zero_lt_of_lt hn)
  induction ms generalizing m n
  case nil =>
    simp only [List.map_cons, List.map_nil, List.intercalate_singleton, toList_writeMember,
      List.cons_append, List.append_assoc, List.length_cons, List.length_append] at hn ⊢
    rw [readMembers, skipSpace_cons (by decide)]
    simp only [readText_flatMap_writeChar, skipSpace_cons (show isSpace ':' = false by decide)]
    rw [hp.skipSpace_write, hr _ _ (by omega) (.cons (by decide))]
    rfl
  case cons m' ms hi =>
    have ⟨⟨hp', hr'⟩, ht'⟩ := List.forall_mem_cons.mp ht
    simp only [List.map_cons, List.intercalate_cons_cons, List.length_append, List.length_cons,
      List.append_assoc, List.cons_append, List.nil_append] at hn hi ⊢
    rw [toList_writeMember] at hn ⊢
    simp only [List.length_append, List.length_cons, List.cons_append, List.append_assoc] at hn ⊢
    obtain ⟨n, rfl⟩ := Nat.exists_eq_add_one.mpr (show 0 < n by omega)
    rw [readMembers, skipSpace_cons (by decide)]
    simp only [readText_flatMap_writeChar, skipSpace_cons (show isSpace ':' = false by decide)]
    rw [hp.skipSpace_write, hr _ _ (by omega) (.cons (by decide))]
    simp only [skipSpace_cons (show isSpace ',' = false by decide)]
    rw [hi ht hp' hr' ht' n (by omega)]
    rfl

theorem mapM_map_some (ms : List (String × Json)) :
    (ms.map fun (k, v) => (some k, v)).mapM (fun (key, value) => key.map (·, value)) =
      some ms := by
  induction ms
  case nil          => rfl
  case cons m ms hi => rw [List.map_cons, List.mapM_cons, hi]; rfl

theorem ofMembers_map (ms : List (String × Json)) :
    ofMembers (ms.map fun (k, v) => (some k, v)) = obj ms := by
  rw [ofMembers, mapM_map_some]

-- A text is never empty, so there is always a step for its first character.
theorem Plain.readable_of_succ (h : Plain j)
    (hr : ∀ n rest, j.write.toList.length ≤ n + 1 → Ends isNumberChar rest →
      readValue (n + 1) (j.write.toList ++ rest) = some (j, rest)) : Readable j := by
  intro n rest hn
  have ⟨c, cs, ht, _⟩ := h.head_write
  obtain ⟨n, rfl⟩ := Nat.exists_eq_add_one.mpr (Nat.lt_of_lt_of_le (by simp [ht]) hn)
  exact hr n rest hn

theorem readable_int (h : n.natAbs < 0x20000000000000) : Readable (int n) := by
  apply (Plain.int h).readable_of_succ
  intro k rest _ hr
  have ⟨c, cs, ht, hi⟩ := Text.exists_toList_toString_int n
  have hc := isNumberChar_of_isIntChar hi
  rw [write, ht, List.cons_append, readValue_eq_readNumber hc, ← List.cons_append, ← ht,
    readNumber_toString h hr]

theorem readable_str (s : String) : Readable (str s) := by
  apply Plain.str.readable_of_succ
  intro k rest _ _
  rw [write, toList_writeText, List.cons_append, List.append_assoc, readValue]
  simp only [List.cons_append, List.nil_append, readText_flatMap_writeChar]
  rfl

theorem readable_arr (h : ∀ e ∈ es, Plain e ∧ Readable e) : Readable (arr es) := by
  apply (Plain.arr fun e he => (h e he).left).readable_of_succ
  intro k rest hn _
  rw [toList_write_arr] at hn ⊢
  simp only [List.length_cons, List.length_append, List.cons_append, List.append_assoc,
    List.nil_append] at hn ⊢
  cases es
  case nil => rfl
  case cons e es =>
    have ⟨c, cs, ht, hs, hc⟩ := (h e List.mem_cons_self).left.head_write
    have he := readElements_intercalate rest h (n := k) (by omega)
    rw [List.map_cons, ht, List.intercalate_cons_cons_left, List.cons_append] at he ⊢
    simp only [readValue, skipSpace_cons hs]
    split
    case h_1 hb => exact absurd (List.cons.inj hb).left hc
    case h_2    => rw [he]; rfl

theorem readable_obj {ms : List (String × Json)} (h : ∀ m ∈ ms, Plain m.snd ∧ Readable m.snd) :
    Readable (obj ms) := by
  apply (Plain.obj fun m hm => (h m hm).left).readable_of_succ
  intro k rest hn _
  rw [toList_write_obj] at hn ⊢
  simp only [List.length_cons, List.length_append, List.cons_append, List.append_assoc,
    List.nil_append] at hn ⊢
  cases ms
  case nil => rfl
  case cons m ms =>
    have hm := readMembers_intercalate rest h (n := k) (by omega)
    rw [List.map_cons, toList_writeMember, List.intercalate_cons_cons_left, List.cons_append] at hm ⊢
    simp only [readValue, skipSpace_cons (show isSpace '"' = false by decide)]
    split
    case h_1 hb => exact absurd (List.cons.inj hb).left (by decide)
    case h_2    => rw [hm]; exact congrArg (fun j => some (j, rest)) (ofMembers_map (m :: ms))

theorem Plain.readable (h : Plain j) : Readable j := by
  induction h
  case null       => exact Plain.null.readable_of_succ fun _ _ _ _ => rfl
  case bool b     => exact Plain.bool.readable_of_succ fun _ _ _ _ => by cases b <;> rfl
  case int h      => exact readable_int h
  case str s      => exact readable_str s
  case arr es h i => exact readable_arr fun e he => ⟨h e he, i e he⟩
  case obj ms h i => exact readable_obj fun m hm => ⟨h m hm, i m hm⟩

theorem Plain.read_write (h : Plain j) : read j.write = some j := by
  have hl : j.write.toList.length ≤ j.write.length + 1 :=
    Nat.le_succ_of_le (Nat.le_of_eq String.length_toList)
  have hr := h.readable (j.write.length + 1) [] hl .nil
  have hs := h.skipSpace_write []
  rw [List.append_nil] at hr hs
  rw [read, hs, hr]
  rfl

end ClientScript.Json
