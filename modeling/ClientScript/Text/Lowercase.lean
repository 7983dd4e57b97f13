import ClientScript.Text.Case

namespace ClientScript.Text

-- One letter grows when it gets its lower-case form: the dotted capital I keeps its dot.
def lowerChar (c : Char) : List Char :=
  if c = '\u0130' then ['i', '\u0307']
  else
    match caseRanges.find? (·.has c.toNat) with
    | some r => [Char.ofNat (c.toNat + r.shift).toNat]
    | none   => [c]

def letterFollows (cs : List Char) : Bool :=
  match cs.dropWhile caseIgnorableRanges.has with
  | []     => false
  | c :: _ => casedRanges.has c

-- `before` holds what stands left of the rest, nearest first. A capital sigma is the only character
-- whose form depends on its place: at the end of a word it is written differently.
def lowerAfter (before : List Char) : List Char → List Char
  | []        => []
  | c :: rest =>
    let form :=
      if c = '\u03a3' then
        if letterFollows before && !letterFollows rest then ['\u03c2'] else ['\u03c3']
      else lowerChar c
    form ++ lowerAfter (c :: before) rest

def lower (cs : List Char) : List Char :=
  lowerAfter [] cs

theorem lowerAfter_of_no_sigma {cs : List Char} (before : List Char) (h : '\u03a3' ∉ cs) :
    lowerAfter before cs = cs.flatMap lowerChar := by
  induction cs generalizing before with
  | nil => rfl
  | cons c cs ih =>
    simp only [List.mem_cons, not_or] at h
    simp [lowerAfter, Ne.symm h.1, ih (c :: before) h.2]

end ClientScript.Text
