import RoleRules.Value.Equality
/-!
# Objects

A condition's path starts at a plain value, but reading attributes leads further: to kinds,
to what kinds hold, to methods bound to the object they were read from, and to the tuples
and read-only mappings that describe kinds. An `Object` is any of these.

A required value is plain data, and only plain values and documentation texts can equal
it: a tuple of kinds equals only the empty tuple, and only when it is empty itself, and
everything else equals nothing.
-/
namespace RoleRules

/-- What a path can reach. -/
inductive Object where
  /-- a plain value -/
  | data (v : Value)
  /-- a documentation text, known by its digest -/
  | doc (d : Digest)
  /-- a kind -/
  | kind (k : Kind)
  /-- a tuple of objects -/
  | tuple (items : List Object)
  /-- the read-only mapping of a kind's own slots -/
  | slots (k : Kind)
  /-- what a kind's slot holds, as the kind holds it -/
  | slot (k : Kind) (name : String)
  /-- a kind's method, slot method or class method, bound to an object -/
  | bound (k : Kind) (name : String) (self : Object)
  /-- the function of a kind's static method -/
  | function (k : Kind) (name : String)
deriving Inhabited

/-- The kind of the object a slot holds, as the kind holds it. -/
def Slot.objectKind : Slot → Kind
  | .method .. => .methodDescriptor
  | .wrapper .. => .wrapperDescriptor
  | .classMethod .. => .classMethodDescriptor
  | .computed _ => .getSetDescriptor
  | .member _ => .memberDescriptor
  | .static .. => .staticMethod
  | .text _ => .str
  | .builtin .. | .none => .builtinFunction

namespace Object

/-- The kind of an object. Bound slot methods are method-wrappers; every other bound or
static method is a built-in function. -/
def kindOf : Object → Kind
  | data v => v.kind
  | doc _ => .str
  | kind _ => .type
  | tuple _ => .tuple
  | slots _ => .mappingProxy
  | slot k n => ((k.slot? n).map Slot.objectKind).getD .builtinFunction
  | bound k n _ =>
    match k.slot? n with
    | some (.wrapper ..) => .methodWrapper
    | _ => .builtinFunction
  | function _ _ => .builtinFunction

mutual
/-- Equality with a required value, as items of containers compare: plain values as data,
documentation texts by their digest, tuples item by item. -/
def eqv : Object → Value → Bool
  | data a, e => a.eqv e
  | doc d, .str t => t.digest == d
  | tuple xs, .tuple es => eqvItems xs es
  | _, _ => false

/-- Equal items in the same places. -/
def eqvItems : List Object → List Value → Bool
  | [], [] => true
  | x :: xs, e :: es => eqv x e && eqvItems xs es
  | _, _ => false
end

/-- Membership in a list of required values. -/
def memberOf (o : Object) (es : List Value) : Bool :=
  match o with
  | data a => a.memberOf es
  | o => es.any o.eqv

/-- Equality with a required value compared directly: a plain value as
`Value.eqDirect` has it, anything else as data. -/
def eqDirect : Object → Value → Bool
  | data a, e => a.eqDirect e
  | o, e => o.eqv e

theorem eqDirect_of_not_data (o : Object) (e : Value) (h : ∀ a, o ≠ data a) :
    o.eqDirect e = o.eqv e := by
  cases o with
  | data a => exact absurd rfl (h a)
  | _ => rfl

example : (tuple []).eqv (.tuple []) = true := rfl
example : (kind .int).eqv (.str (Text.ofString "int")) = false := rfl

end Object

end RoleRules
