import ClientScript.Literal
import ClientScript.Proofs.Dump.Expression
import ClientScript.Proofs.Text.Hexadecimal
import Mathlib.Data.List.Nodup

namespace ClientScript

open Text (isIntChar)

theorem intercalate_toDigits_inj {c : Char} (hc : c.isDigit = false) {m n : Nat} {ms ns : List Nat}
    (h : [c].intercalate ((m :: ms).map (Nat.toDigits 10)) =
      [c].intercalate ((n :: ns).map (Nat.toDigits 10))) : m :: ms = n :: ns := by
  have hs (k : Nat) (ks : List Nat) :
      ([c].intercalate ((k :: ks).map (Nat.toDigits 10))).splitOn c =
        (k :: ks).map (Nat.toDigits 10) := by
    apply List.splitOn_intercalate
    case hx  =>
      intro ds hd hm
      obtain ⟨k, _, rfl⟩ := List.mem_map.mp hd
      exact absurd (Text.isDigit_of_mem_toDigits hm) (by simp [hc])
    case hls => exact List.cons_ne_nil _ _
  have hj : (Nat.toDigits 10).Injective := Text.toDigits_injective (by decide) (by decide)
  apply hj.list_map
  rw [← hs m ms, h, hs n ns]

theorem mem_of_lookup [BEq α] [LawfulBEq α] {l : List (α × β)} (h : l.lookup a = some b) :
    (a, b) ∈ l := by
  obtain ⟨before, after, rfl, _⟩ := List.lookup_eq_some_iff.mp h
  exact List.mem_append_right before List.mem_cons_self

theorem toNat_toUInt32 (n : Int32) : (n.toUInt32.toNat : Int) = n.toInt % 4294967296 := by
  have hn : n.toInt = n.toBitVec.toInt := rfl
  have hu : n.toUInt32.toNat = n.toBitVec.toNat := rfl
  have hl := n.toBitVec.isLt
  rw [hn, hu, BitVec.toInt_eq_toNat_cond]
  split <;> omega

theorem eq_of_toNat_toUInt32_eq {m n : Int32} (h : m.toUInt32.toNat = n.toUInt32.toNat) : m = n :=
  Int32.toBitVec_inj.mp (BitVec.eq_of_toNat_eq h)

def Names.Distinct (names : Names) (kind : NameKind) : Prop :=
  ∀ m n name, names kind m = some name → names kind n = some name → m = n

-- No name of a kind can be taken for a missing symbol or for a number.
def Names.Wordy (names : Names) (kind : NameKind) : Prop :=
  ∀ n name, names kind n = some name → name ≠ "null" ∧ ∀ m : Int32, name ≠ toString m.toInt

namespace Ty

variable {ty t : Ty} {m n : Int32}

theorem ofDescriptor?_eq_some (h : ofDescriptor? n = some t) :
    ∃ c, t.descriptor? = some c ∧ n.toInt = c.toNat := by
  obtain ⟨u, _, hu⟩ := List.mem_filterMap.mp (mem_of_lookup h)
  obtain ⟨c, hc, he⟩ := Option.map_eq_some_iff.mp hu
  obtain ⟨hn, rfl⟩ := Prod.mk.inj he
  exact ⟨c, hc, hn.symm⟩

theorem eq_of_ofDescriptor?_eq (hm : ofDescriptor? m = some t) (hn : ofDescriptor? n = some t) :
    m = n := by
  obtain ⟨c, hc, hm⟩ := ofDescriptor?_eq_some hm
  obtain ⟨d, hd, hn⟩ := ofDescriptor?_eq_some hn
  obtain rfl : c = d := Option.some.inj (hc.symm.trans hd)
  exact Int32.toInt_inj.mp (hm.trans hn.symm)

end Ty

namespace Spelling

-- What names have to be like so that different numbers are spelled differently. Names in quotes
-- cannot be taken for anything but names.
def Clear (names : Names) : Spelling → Prop
  | symbol kind       => names.Distinct kind ∧ names.Wordy kind
  | quotedSymbol kind => names.Distinct kind
  | _                 => True

variable {names : Names} {s : Spelling} {m n : Int32} {text : String} {kind : NameKind}

theorem clear_unknown (s : Spelling) : s.Clear Names.unknown := by
  cases s
  case symbol       => exact ⟨nofun, nofun⟩
  case quotedSymbol => exact nofun
  all_goals trivial

theorem toList_componentText (n : Nat) :
    (componentText n).toList = [':'].intercalate ([n / 65536, n % 65536].map (Nat.toDigits 10)) := by
  simp [componentText]

theorem toList_coordText (n : Nat) : (coordText n).toList = ['_'].intercalate
    ([n / 268435456, n / 16384 % 16384 / 64, n % 16384 / 64, n / 16384 % 16384 % 64,
      n % 16384 % 64].map (Nat.toDigits 10)) := by
  simp [coordText]

theorem componentText_injective : componentText.Injective := by
  intro m n h
  have h := congrArg String.toList h
  rw [toList_componentText, toList_componentText] at h
  have h := intercalate_toDigits_inj (by decide) h
  simp only [List.cons.injEq] at h
  omega

theorem coordText_injective : coordText.Injective := by
  intro m n h
  have h := congrArg String.toList h
  rw [toList_coordText, toList_coordText] at h
  have h := intercalate_toDigits_inj (by decide) h
  simp only [List.cons.injEq] at h
  omega

def colourDigits (n : Nat) : List Char :=
  (padded 6 (hex n)).toList

theorem colourDigits_eq (n : Nat) : colourDigits n =
    List.replicate (6 - (Nat.toDigits 16 n).length) '0' ++ Nat.toDigits 16 n := by
  simp [colourDigits, padded, hex]

theorem length_colourDigits (n : Nat) : 6 ≤ (colourDigits n).length := by
  rw [colourDigits_eq, List.length_append, List.length_replicate]
  omega

theorem mem_hexDigits_of_mem_colourDigits {n : Nat} (h : c ∈ colourDigits n) : c ∈ Text.hexDigits := by
  rw [colourDigits_eq] at h
  rcases List.mem_append.mp h with h | h
  case inl => exact (List.mem_replicate.mp h).right ▸ (by decide)
  case inr => exact Text.isHex_of_mem_toDigits h

theorem ofHex_colourDigits (n : Nat) : Text.ofHex (colourDigits n) = n := by
  rw [colourDigits_eq, Text.ofHex_zeros_append, Text.ofHex_toDigits]

theorem colourDigits_injective : colourDigits.Injective :=
  Function.LeftInverse.injective ofHex_colourDigits

theorem eq_of_getD_eq {f : String → String} (hf : f.Injective) (distinct : names.Distinct kind)
    (apart : ∀ n name, names kind n = some name → ∀ m : Int32, f name ≠ toString m.toInt)
    (h : ((names kind m).map f).getD (toString m.toInt) =
      ((names kind n).map f).getD (toString n.toInt)) : m = n := by
  cases hm : names kind m <;> cases hn : names kind n <;> rw [hm, hn] at h
  case none.none      => exact Int32.toInt_inj.mp (Text.toString_int_injective h)
  case none.some name => exact absurd h.symm (apart n name hn m)
  case some.none name => exact absurd h (apart m name hm n)
  case some.some a b  => exact distinct m n a hm (hf h ▸ hn)

theorem quotes_injective : (fun name : String => "\"" ++ name ++ "\"").Injective := by
  intro a b h
  simpa [String.append_assoc] using h

theorem quotes_ne_toString (name : String) (n : Int32) :
    "\"" ++ name ++ "\"" ≠ toString n.toInt := by
  intro h
  have h := congrArg String.toList h
  simp only [String.toList_append] at h
  exact toString_int_append_ne_quote (r := []) n (by rw [List.append_nil, ← h]; rfl)

theorem eq_of_text?_eq (clear : s.Clear names) (hm : s.text? names m = some text)
    (hn : s.text? names n = some text) : m = n := by
  have hh := hm.trans hn.symm
  cases s
  case closed            => cases hm
  case number            =>
    exact Int32.toInt_inj.mp (Text.toString_int_injective (Option.some.inj hh))
  case counted word      =>
    have hh := (String.append_right_inj _).mp (Option.some.inj hh)
    exact Int32.toInt_inj.mp (Text.toString_int_injective hh)
  case symbol kind       =>
    apply eq_of_getD_eq (f := id) Function.injective_id clear.left
      (fun n name hn => (clear.right n name hn).right)
    simpa using Option.some.inj hh
  case quotedSymbol kind =>
    exact eq_of_getD_eq quotes_injective clear (fun _ name _ => quotes_ne_toString name)
      (Option.some.inj hh)
  case descriptor        =>
    obtain ⟨t, ht, hl⟩ := Option.map_eq_some_iff.mp hm
    obtain ⟨u, hu, rfl⟩ := Option.map_eq_some_iff.mp hn
    exact Ty.eq_of_ofDescriptor?_eq (Ty.literal_injective hl ▸ ht) hu
  case component         =>
    exact eq_of_toNat_toUInt32_eq (componentText_injective (Option.some.inj hh))
  case coord             =>
    exact eq_of_toNat_toUInt32_eq (coordText_injective (Option.some.inj hh))
  case colour            =>
    have hh := (String.append_right_inj _).mp (Option.some.inj hh)
    exact eq_of_toNat_toUInt32_eq (colourDigits_injective (congrArg String.toList hh))

theorem exists_text?_eq_cons (hd : s ≠ .descriptor) (hc : ∀ word, s ≠ .counted word)
    (hk : ∀ kind, s ≠ .symbol kind) (h : s.text? names n = some text) :
    ∃ c cs, text.toList = c :: cs ∧ (c = '"' ∨ isIntChar c) := by
  have number (k : Int) : ∃ c cs, (toString k).toList = c :: cs ∧ (c = '"' ∨ isIntChar c) := by
    obtain ⟨c, cs, h, hc⟩ := Text.exists_toList_toString_int k
    exact ⟨c, cs, h, .inr hc⟩
  have digits (k : Nat) (rest : List Char) :
      ∃ c cs, Nat.toDigits 10 k ++ rest = c :: cs ∧ (c = '"' ∨ isIntChar c) := by
    obtain ⟨c, cs, h, hc⟩ := Text.exists_toDigits_eq_cons k
    exact ⟨c, cs ++ rest, congrArg (· ++ rest) h, .inr (by simp [isIntChar, hc])⟩
  cases s
  case closed            => cases h
  case counted word      => exact absurd rfl (hc word)
  case symbol kind       => exact absurd rfl (hk kind)
  case descriptor        => exact absurd rfl hd
  case number            => exact Option.some.inj h ▸ number n.toInt
  case quotedSymbol kind =>
    obtain rfl := Option.some.inj h
    cases names kind n
    case none      => exact number n.toInt
    case some name =>
      refine ⟨'"', name.toList ++ ['"'], ?_, .inl rfl⟩
      rw [Option.map_some, Option.getD_some, String.toList_append, String.toList_append]
      rfl
  case component         =>
    obtain rfl := Option.some.inj h
    rw [toList_componentText]
    exact digits _ _
  case coord             =>
    obtain rfl := Option.some.inj h
    rw [toList_coordText]
    exact digits _ _
  case colour            =>
    obtain rfl := Option.some.inj h
    exact ⟨'0', 'x' :: colourDigits n.toUInt32.toNat, by rw [String.toList_append]; rfl, .inr rfl⟩

end Spelling

namespace Ty

variable {ty : Ty} {names : Names} {m n : Int32} {text : String}

theorem nodup_keywords (ty : Ty) : (ty.keywords.map Prod.snd).Nodup := by
  cases ty <;> decide +kernel

theorem exists_keyword_eq_cons (h : e ∈ ty.keywords) :
    ∃ c cs, e.2.toList = c :: cs ∧ c ≠ '"' ∧ isIntChar c = false := by
  have ha : ty.keywords.all fun e => e.2.toList.head?.any fun c => c ≠ '"' && !isIntChar c := by
    cases ty <;> decide +kernel
  have he := List.all_eq_true.mp ha e h
  cases hs : e.2.toList
  case nil       => simp [hs] at he
  case cons c cs => exact ⟨c, cs, rfl, by simpa [hs] using he⟩

theorem keywords_of_symbol (h : ty.spelling = .symbol kind) : ty.keywords = [(-1, "null")] := by
  cases ty <;> first | rfl | cases h

theorem keywords_eq_nil (h : ty.spelling = .descriptor ∨ ∃ word, ty.spelling = .counted word) :
    ty.keywords = [] := by
  cases ty <;> first | rfl | simp [spelling] at h

theorem text?_ne_keyword (clear : ty.spelling.Clear names) (hk : e ∈ ty.keywords) :
    ty.spelling.text? names n ≠ some e.2 := by
  intro ht
  obtain ⟨c, cs, he, hq, hc⟩ := exists_keyword_eq_cons hk
  by_cases hs : ∃ kind, ty.spelling = .symbol kind
  case pos =>
    obtain ⟨kind, hs⟩ := hs
    rw [keywords_of_symbol hs, List.mem_singleton] at hk
    subst hk
    rw [hs] at clear ht
    have ht := Option.some.inj ht
    cases hn : names kind n <;> rw [hn] at ht
    case some name => exact (clear.right n name hn).left ht
    case none      =>
      obtain ⟨d, ds, hd, hi⟩ := Text.exists_toList_toString_int n.toInt
      have hh : d :: ds = c :: cs := hd.symm.trans ((congrArg String.toList ht).trans he)
      rw [(List.cons.inj hh).left, hc] at hi
      cases hi
  case neg =>
    have hd : ty.spelling ≠ .descriptor := fun h => by simp [keywords_eq_nil (.inl h)] at hk
    have hw (word : String) : ty.spelling ≠ .counted word := fun h => by
      simp [keywords_eq_nil (.inr ⟨word, h⟩)] at hk
    obtain ⟨d, ds, ht, hf⟩ := Spelling.exists_text?_eq_cons hd hw (not_exists.mp hs) ht
    obtain rfl := (List.cons.inj (ht.symm.trans he)).left
    simp [hq, hc] at hf

theorem intText_eq_ok_iff : ty.intText names n = .ok text ↔
    ty.keywords.lookup n.toInt = some text ∨
      ty.keywords.lookup n.toInt = none ∧ ty.spelling.text? names n = some text := by
  rw [intText, intText?]
  cases ty.keywords.lookup n.toInt <;> cases ty.spelling.text? names n <;> simp

theorem eq_of_lookup_eq (hm : ty.keywords.lookup m.toInt = some text)
    (hn : ty.keywords.lookup n.toInt = some text) : m = n := by
  have he := List.inj_on_of_nodup_map ty.nodup_keywords (mem_of_lookup hm) (mem_of_lookup hn) rfl
  exact Int32.toInt_inj.mp (Prod.mk.inj he).left

theorem lookup_ne_text? (clear : ty.spelling.Clear names)
    (hm : ty.keywords.lookup m.toInt = some text) : ty.spelling.text? names n ≠ some text :=
  text?_ne_keyword clear (mem_of_lookup hm)

theorem eq_of_intText_eq (clear : ty.spelling.Clear names) (hm : ty.intText names m = .ok text)
    (hn : ty.intText names n = .ok text) : m = n := by
  rcases intText_eq_ok_iff.mp hm with hm | ⟨_, hm⟩ <;>
    rcases intText_eq_ok_iff.mp hn with hn | ⟨_, hn⟩
  case inl.inl => exact eq_of_lookup_eq hm hn
  case inl.inr => exact absurd hn (lookup_ne_text? clear hm)
  case inr.inl => exact absurd hm (lookup_ne_text? clear hn)
  case inr.inr => exact Spelling.eq_of_text?_eq clear hm hn

theorem intText_of_not_keyword (h : n.toInt ∉ ty.keywords.map Prod.fst)
    (ht : ty.spelling.text? names n = some text) : ty.intText names n = .ok text := by
  refine intText_eq_ok_iff.mpr (.inr ⟨List.lookup_eq_none_iff.mpr fun e he => ?_, ht⟩)
  exact bne_iff_ne.mpr fun hn => h (hn ▸ List.mem_map_of_mem he)

theorem exists_intText_component (h : n.toInt ∉ [-1, -2147483645, -2147483642]) :
    ∃ high low : Nat,
      component.intText names n = .ok (toString high ++ ":" ++ toString low) ∧
        high ≤ 65535 ∧ low ≤ 65535 ∧ (high * 65536 + low : Int) = n.toInt % 4294967296 := by
  have hl := n.toUInt32.toNat_lt
  refine ⟨_, _, intText_of_not_keyword h rfl, ?_⟩
  rw [← toNat_toUInt32]
  omega

theorem exists_intText_coord (h : n.toInt ≠ -1) :
    ∃ plane squareX squareY x y : Nat,
      coord.intText names n =
        .ok ("_".intercalate ([plane, squareX, squareY, x, y].map toString)) ∧
      plane < 16 ∧ squareX < 256 ∧ squareY < 256 ∧ x < 64 ∧ y < 64 ∧
      ((plane * 16384 + (64 * squareX + x)) * 16384 + (64 * squareY + y) : Int) =
        n.toInt % 4294967296 := by
  have hl := n.toUInt32.toNat_lt
  have hk : n.toInt ∉ coord.keywords.map Prod.fst := by simpa [keywords] using h
  have ht : coord.spelling.text? names n = some (Spelling.coordText n.toUInt32.toNat) := rfl
  have ht := intText_of_not_keyword hk ht
  rw [← toNat_toUInt32]
  generalize n.toUInt32.toNat = u at ht hl ⊢
  rw [Spelling.coordText] at ht
  refine ⟨u / 268435456, u / 16384 % 16384 / 64, u % 16384 / 64, u / 16384 % 16384 % 64,
    u % 16384 % 64, ht, ?_⟩
  omega

theorem exists_intText_colour (h : n.toInt ∉
    [0xff0000, 0x00ff00, 0x0000ff, 0xffff00, 0xff00ff, 0x00ffff, 0xffffff, 0x000000]) :
    ∃ digits : List Char, colour.intText names n = .ok ("0x" ++ String.ofList digits) ∧
      6 ≤ digits.length ∧ (∀ c ∈ digits, c ∈ Text.hexDigits) ∧
      (Text.ofHex digits : Int) = n.toInt % 4294967296 := by
  refine ⟨Spelling.colourDigits n.toUInt32.toNat, ?_, Spelling.length_colourDigits _,
    fun _ => Spelling.mem_hexDigits_of_mem_colourDigits, ?_⟩
  case refine_1 =>
    rw [Spelling.colourDigits, String.ofList_toList]
    exact intText_of_not_keyword h rfl
  case refine_2 => rw [Spelling.ofHex_colourDigits, toNat_toUInt32]

end Ty

theorem stringText_injective : stringText.Injective := by
  have hq (s : String) : "event_opbase" ≠ "\"" ++ s ++ "\"" := by
    intro h
    have h := congrArg String.toList h
    simp only [String.toList_append] at h
    cases (List.cons.inj h).left
  intro s t h
  rw [stringText, stringText] at h
  split at h <;> split at h
  case isTrue.isTrue hs ht => exact hs.trans ht.symm
  case isTrue.isFalse hs _ => exact absurd (hs ▸ h) (hq t)
  case isFalse.isTrue ht   => exact absurd (ht ▸ h.symm) (hq s)
  case isFalse.isFalse     => exact Spelling.quotes_injective h

-- What is written for a constant tells which one it is.
theorem literals_tell :
    (∀ (ty : Ty) (m n : Int32) (text : String),
      ty.intText .unknown m = .ok text → ty.intText .unknown n = .ok text → m = n) ∧
    (∀ (names : Names) (ty : Ty), ty.spelling.Clear names → ∀ (m n : Int32) (text : String),
      ty.intText names m = .ok text → ty.intText names n = .ok text → m = n) ∧
    (∀ (names : Names) (n : Int32), n.toInt ∉ [-1, -2147483645, -2147483642] →
      ∃ high low : Nat,
        Ty.component.intText names n = .ok (toString high ++ ":" ++ toString low) ∧
        high ≤ 65535 ∧ low ≤ 65535 ∧ (high * 65536 + low : Int) = n.toInt % 4294967296) ∧
    (∀ (names : Names) (n : Int32), n.toInt ≠ -1 →
      ∃ plane squareX squareY x y : Nat,
        Ty.coord.intText names n =
          .ok ("_".intercalate ([plane, squareX, squareY, x, y].map toString)) ∧
        plane < 16 ∧ squareX < 256 ∧ squareY < 256 ∧ x < 64 ∧ y < 64 ∧
        ((plane * 16384 + (64 * squareX + x)) * 16384 + (64 * squareY + y) : Int) =
          n.toInt % 4294967296) ∧
    (∀ (names : Names) (n : Int32), n.toInt ∉
        [0xff0000, 0x00ff00, 0x0000ff, 0xffff00, 0xff00ff, 0x00ffff, 0xffffff, 0x000000] →
      ∃ digits : List Char, Ty.colour.intText names n = .ok ("0x" ++ String.ofList digits) ∧
        6 ≤ digits.length ∧ (∀ c ∈ digits, c ∈ Text.hexDigits) ∧
        (Text.ofHex digits : Int) = n.toInt % 4294967296) ∧
    ∀ s t : String, stringText s = stringText t → s = t :=
  ⟨fun _ _ _ _ => Ty.eq_of_intText_eq (Spelling.clear_unknown _),
    fun _ _ clear _ _ _ => Ty.eq_of_intText_eq clear, fun _ _ => Ty.exists_intText_component,
    fun _ _ => Ty.exists_intText_coord, fun _ _ => Ty.exists_intText_colour,
    fun _ _ h => stringText_injective h⟩

def skilled : Names
  | .stat, 0 => some "attack"
  | _,     _ => none

theorem clear_skilled : (Ty.spelling .stat).Clear skilled := by
  have named {n : Int32} {name : String} (h : skilled .stat n = some name) :
      n = 0 ∧ name = "attack" := by
    rw [skilled.eq_def] at h
    split at h
    case h_1 => exact ⟨rfl, (Option.some.inj h).symm⟩
    case h_2 => cases h
  constructor
  case left  => exact fun m n _ hm hn => (named hm).left.trans (named hn).left.symm
  case right =>
    intro n name h
    obtain ⟨_, rfl⟩ := named h
    refine ⟨by decide, fun m hm => ?_⟩
    obtain ⟨c, cs, hc, hi⟩ := Text.exists_toList_toString_int m.toInt
    obtain rfl := (List.cons.inj ((congrArg String.toList hm).trans hc)).left
    cases hi

theorem literals_tell_skilled :
    (∀ n, Ty.boolean.intText .unknown n = .ok "true" → n = 1) ∧
    ((Ty.spelling .stat).Clear skilled ∧
      ∀ n, Ty.stat.intText skilled n = .ok "attack" → n = 0) ∧
    (∃ high low : Nat, Ty.component.intText skilled 10551299 =
      .ok (toString high ++ ":" ++ toString low) ∧ high * 65536 + low = 10551299) ∧
    ∃ digits, Ty.colour.intText skilled (-1) = .ok ("0x" ++ String.ofList digits) ∧
      Text.ofHex digits = 4294967295 := by
  obtain ⟨unnamed, named, component, _, colour, _⟩ := literals_tell
  refine ⟨fun n h => unnamed .boolean n 1 "true" h rfl, ⟨clear_skilled, fun n h =>
    named skilled .stat clear_skilled n 0 "attack" h rfl⟩, ?_, ?_⟩
  case refine_1 =>
    obtain ⟨high, low, h, _, _, hn⟩ := component skilled 10551299 (by decide)
    have hk : (10551299 : Int32).toInt = 10551299 := rfl
    exact ⟨high, low, h, by omega⟩
  case refine_2 =>
    obtain ⟨digits, h, _, _, hn⟩ := colour skilled (-1) (by decide)
    have hk : (-1 : Int32).toInt = -1 := rfl
    exact ⟨digits, h, by omega⟩

end ClientScript
