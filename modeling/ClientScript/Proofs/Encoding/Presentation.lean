import ClientScript.Encoding.Reader
import ClientScript.Encoding.Writer
import Mathlib.Data.List.Forall2

namespace ClientScript

namespace Encoding

-- What may be written where a JSON form has a name. Whether a value is held makes a difference.
structure Dialect where
  word  : Bool → String → Json → Prop                  -- the name of a case without content
  mark  : Bool → String → Json → Prop                  -- the tag of an expression
  tag   : Bool → List String → String → Json → Prop    -- the tag of a record, one of some names
  holds : Json → Prop                                  -- whether a value can be held

namespace Dialect

-- Names are texts, and only that of a type may also be a member without a value.
def written : Dialect where
  word _ s j  := j = .str s ∨ j = .obj [(s, .null)]
  mark _ s j  := j = .str s
  tag _ _ s j := j = .str s
  holds _     := True

-- What is read besides: other names as members, where the value may be an empty object if it is
-- held, and the numbers of tags. But values that are not sound cannot be held.
def accepted : Dialect where
  word held s j      := j = .str s ∨ j = .obj [(s, .null)] ∨ held ∧ j = .obj [(s, .obj [])]
  mark held s j      := j = .str s ∨ j = .obj [(s, .null)] ∨ held ∧ j = .obj [(s, .obj [])]
  tag held names s j := j = .str s ∨ held ∧ ∃ n : Nat, names[n]? = some s ∧ j = .int n
  holds j            := j.isSound

end Dialect

-- A record with the fields of some names. As an object it has them in any order, each of them once,
-- and any other members. As an array it has them in their order, and only the last ones may be
-- missing.
def Record (names : List String) (vs : List (Option Json)) : Json → Prop
  | .obj ms => List.Forall₂ (fun name v => Json.valuesOf name ms = v.toList) names vs
  | .arr es => vs.length = names.length ∧ ∃ n, vs = es.map some ++ List.replicate n none
  | _       => False

def valueFirst : Json → Bool
  | .obj ms => (ms.map (·.1)).idxOf "value" < (ms.map (·.1)).idxOf "expr"
  | _       => false

def Listed (P : α → Json → Prop) (as : List α) (j : Json) : Prop :=
  ∃ js, j = .arr js ∧ List.Forall₂ P as js

def Defaulted (P : α → Json → Prop) (as : List α) : Option Json → Prop
  | some j => Listed P as j
  | none   => as = []

def Absent (j : Option Json) : Prop :=
  j = none ∨ j = some .null

def Optional (P : α → Json → Prop) : Option α → Option Json → Prop
  | some a => fun j => ∃ k, j = some k ∧ P a k
  | none   => Absent

namespace Dialect

variable (d : Dialect) (held : Bool)

def Tagged (key : String) (tags : List String) (name : String) (fields : List String)
    (vs : List (Option Json)) (j : Json) : Prop :=
  ∃ tag, Record (key :: fields) (some tag :: vs) j ∧ d.tag held tags name tag

-- A record with a tag and a value. The value is held if it stands in front of the tag.
def Marked (name : String) (content : Bool → Json → Prop) (j : Json) : Prop :=
  ∃ tag value, Record ["expr", "value"] [some tag, some value] j ∧ d.mark held name tag ∧
    (held ∨ ¬valueFirst j ∨ d.holds value) ∧ content (held || valueFirst j) value

end Dialect
end Encoding

open Encoding

section

variable (d : Dialect)

def Ty.Presents (held : Bool) (t : Ty) (j : Json) : Prop :=
  d.word held t.literal j

def Variable.Presents (held : Bool) (v : Variable) (j : Json) : Prop :=
  (held ∨ d.holds j) ∧ ∃ ty, d.Tagged held "kind" (Kind.all.map Kind.literal) v.kind.literal
    ["ty", "id"] [some ty, some (.int v.id.toNat)] j ∧ v.ty.Presents d true ty

def Constant.Presents (held : Bool) (c : Constant) (j : Json) : Prop :=
  ∃ ty, Record ["ty", "value"] [some ty, some c.payload.toJson] j ∧ c.ty.Presents d held ty

mutual

def Expression.Presents : Bool → Expression → Json → Prop
  | held, .var v, j         =>
    d.Marked held "variable" (fun held value => v.Presents d held value) j
  | held, .const c, j       =>
    d.Marked held "constant" (fun held value => c.Presents d held value) j
  | held, .op code ts es, j => d.Marked held "operation" (fun held value =>
      ∃ ms types arguments, value = .obj ms ∧ Record ["opcode", "types", "arguments"]
        [some (.int code.code.toNat), types, some (.arr arguments)] value ∧
        Defaulted (Ty.Presents d held) ts types ∧ Expression.AllPresent held es arguments) j
  | held, .compound es, j   => d.Marked held "compound" (fun held value =>
      ∃ js, value = .arr js ∧ Expression.AllPresent held es js) j

def Expression.AllPresent : Bool → List Expression → List Json → Prop
  | _,    [],      js => js = []
  | held, e :: es, js =>
    ∃ j rest, js = j :: rest ∧ Expression.Presents held e j ∧ Expression.AllPresent held es rest

end

def Instruction.Presents : Bool → Instruction → Json → Prop
  | held, .assign vs e, j => (held ∨ d.holds j) ∧ ∃ targets value,
      d.Tagged held "insn" ["assignment", "return"] "assignment"
        ["definitions", "expression"] [targets, some value] j ∧
      Defaulted (Variable.Presents d true) vs targets ∧ e.Presents d true value
  | held, .ret e, j       => (held ∨ d.holds j) ∧ ∃ value,
      d.Tagged held "insn" ["assignment", "return"] "return" ["expression"] [some value] j ∧
      e.Presents d true value

mutual

def Chain.Presents : Bool → Chain → Json → Prop
  | held, .last c, j      => (held ∨ d.holds j) ∧ Construct.Presents held c Absent j
  | held, .link c rest, j => (held ∨ d.holds j) ∧
      Construct.Presents held c (fun next => ∃ k, next = some k ∧ Chain.Presents true rest k) j

def Construct.Presents : Bool → Construct → (Option Json → Prop) → Json → Prop
  | held, .seq is, follows, j           => ∃ list next,
      d.Tagged held "construct" ["seq", "if", "while", "switch"] "seq" ["instructions", "next"]
        [some list, next] j ∧
      Listed (Instruction.Presents d true) is list ∧ follows next
  | held, .cond bs, follows, j          => ∃ branches elze next,
      d.Tagged held "construct" ["seq", "if", "while", "switch"] "if" ["branches", "elze", "next"]
        [some (.arr branches), elze, next] j ∧
      Branches.Presents bs branches elze ∧ follows next
  | held, .loop condition body, follows, j  => ∃ k b next,
      d.Tagged held "construct" ["seq", "if", "while", "switch"] "while"
        ["condition", "body", "next"] [some k, some b, next] j ∧
      condition.Presents d true k ∧ Chain.Presents true body b ∧ follows next
  | held, .switch scrutinee cs, follows, j => ∃ k cases elze next,
      d.Tagged held "construct" ["seq", "if", "while", "switch"] "switch"
        ["scrutinee", "cases", "elze", "next"] [some k, some (.arr cases), elze, next] j ∧
      scrutinee.Presents d true k ∧ Cases.Presents cs cases elze ∧ follows next

def Branches.Presents : Branches → List Json → Option Json → Prop
  | .done, js, elze                       => js = [] ∧ Absent elze
  | .otherwise body, js, elze             => js = [] ∧ ∃ k, elze = some k ∧ Chain.Presents true body k
  | .branch condition body rest, js, elze => ∃ j js', js = j :: js' ∧
      (∃ k b, Record ["condition", "body"] [some k, some b] j ∧ condition.Presents d true k ∧
        Chain.Presents true body b) ∧
      Branches.Presents rest js' elze

def Cases.Presents : Cases → List Json → Option Json → Prop
  | .done, js, elze                  => js = [] ∧ Absent elze
  | .otherwise body, js, elze        => js = [] ∧ ∃ k, elze = some k ∧ Chain.Presents true body k
  | .case labels body rest, js, elze => ∃ j js', js = j :: js' ∧
      (∃ list b, Record ["labels", "body"] [some list, some b] j ∧
        Listed (fun n k => k = .int n.toInt) labels list ∧ Chain.Presents true body b) ∧
      Cases.Presents rest js' elze

end

def Script.Presents (s : Script) (j : Json) : Prop :=
  ∃ arguments returns body, Record ["id", "arguments", "return_types", "body"]
      [some (.int s.id.toInt), arguments, returns, some body] j ∧
    Defaulted (Variable.Presents d false) s.arguments arguments ∧
    Defaulted (Ty.Presents d false) s.returns returns ∧ s.body.Presents d false body

def Module.Presents (m : Module) (j : Json) : Prop :=
  ∃ scripts, Record ["name", "functions"] [some (.str m.name), some scripts] j ∧
    Listed (Script.Presents d) m.scripts scripts

end

end ClientScript
