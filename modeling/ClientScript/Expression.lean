import ClientScript.Ty
import ClientScript.Opcode

namespace ClientScript

namespace Variable

inductive Kind
  | frame    -- local to the script, arguments included
  | varp     -- kept for the player
  | varbit   -- some bits of a player variable
  | varc     -- kept by the client
  | stack    -- a nameless slot of the evaluation stack
  deriving DecidableEq, Repr

namespace Kind

def all : List Kind :=
  [frame, varp, varbit, varc, stack]

def literal : Kind → String
  | frame  => "local"
  | varp   => "varp"
  | varbit => "varbit"
  | varc   => "varc"
  | stack  => "stack"

end Kind
end Variable

structure Variable where
  kind : Variable.Kind
  ty   : Ty
  id   : UInt32
  deriving DecidableEq, Repr

inductive Payload
  | int (n : Int32)
  | text (s : String)
  deriving DecidableEq, Repr

-- A constant's type says how it is spelled. Nothing here ties the payload to it.
structure Constant where
  ty      : Ty
  payload : Payload
  deriving DecidableEq, Repr

def Constant.int? (c : Constant) : Option Int32 :=
  match c.payload with
  | .int n  => some n
  | .text _ => none

def Constant.text? (c : Constant) : Option String :=
  match c.payload with
  | .int _  => none
  | .text s => some s

-- `types` are the types of the values that an operation leaves on the stack. A compound stands for
-- the list of its elements.
inductive Expression
  | var (v : Variable)
  | const (c : Constant)
  | op (opcode : Opcode) (types : List Ty) (arguments : List Expression)
  | compound (elements : List Expression)
  deriving Repr

namespace Expression

mutual

def types : Expression → List Ty
  | var v          => [v.ty]
  | const c        => [c.ty]
  | op _ types _   => types
  | compound es    => typesOf es

def typesOf : List Expression → List Ty
  | []      => []
  | e :: es => e.types ++ typesOf es

end

-- The elements of a compound, and any other expression alone. Only the outermost compound is opened.
def toList : Expression → List Expression
  | compound es => es
  | e           => [e]

def constant? : Expression → Option Constant
  | const c => some c
  | _       => none

@[elab_as_elim, induction_eliminator]
theorem induct {motive : Expression → Prop}
    (var : ∀ v, motive (var v)) (const : ∀ c, motive (const c))
    (op : ∀ code ts es, (∀ e ∈ es, motive e) → motive (op code ts es))
    (compound : ∀ es, (∀ e ∈ es, motive e) → motive (compound es)) : ∀ e, motive e
  | .var v         => var v
  | .const c       => const c
  | .op code ts es => op code ts es fun e _ => induct var const op compound e
  | .compound es   => compound es fun e _ => induct var const op compound e

theorem typesOf_eq_flatMap (es : List Expression) : typesOf es = es.flatMap types := by
  induction es with
  | nil          => simp [typesOf]
  | cons e es ih => simp [typesOf, ih]

end Expression
end ClientScript
