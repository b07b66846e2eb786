import RoleRules.Object.Basic
/-!
# Reading attributes

An attribute of an object is looked up by name along the resolution order of the object's
kind (`Kind.find?`), and what is found decides:

* an attribute computed from the object or stored in it (`Slot.overrides`) is read from
  the object (`read`), whatever the object holds itself;
* otherwise an object's own entry wins (only objects with attributes have any);
* otherwise what the slot holds is bound to the object (`boundTo`): methods and slot
  methods to the object, class methods to its kind; a static method gives its function;
  documentation and nothing are themselves.

A kind is read differently (`kindAttr?`): computed attributes of kinds themselves (their
names, documentation, bases, resolution order, slots and sizes) come first; then what the
kind's own resolution order holds, taken as the kind holds it (`held`: descriptors are
themselves, class methods are bound to the kind); and last what kinds in general hold,
bound to the kind.

The computed and stored attributes are these:

* every object has its kind under `__class__`;
* an integer (or truth value) has `real` and `numerator` (itself as an integer), `imag`
  (`0`) and `denominator` (`1`); a double has `real` (itself) and `imag` (`0.0`);
* an object with attributes has all of them, as a mapping, under `__dict__`;
* a built-in function has its `__name__`, `__qualname__` (the qualified name of the kind
  it is bound to, or of the kind of the object it is bound to, then its name),
  `__doc__`, `__text_signature__`, `__self__` (nothing for a static method) and
  `__module__` (nothing);
* a method-wrapper has its `__self__`, the kind it comes from under `__objclass__`, and
  its names, documentation and signature; so do the descriptors for their kind and name;
* a static method has its function under `__func__` and `__wrapped__`, `False` under
  `__isabstractmethod__`, and an empty mapping under `__dict__`.

A name with no code point form (a lone surrogate) names no slot; only an object's own
entries can match it.
-/
namespace RoleRules.Object

/-- A text object. -/
def text (s : String) : Object := data (.str (Text.ofString s))

/-- An optional text, or nothing. -/
def textOrNull : Option String → Object
  | some s => text s
  | none => data .null

/-- An optional documentation text, or nothing. -/
def docOrNull : Option Digest → Object
  | some d => doc d
  | none => data .null

/-- The qualified name of a kind's entry. -/
def qualified (k : Kind) (n : String) : Object := text (k.info.qualname ++ "." ++ n)

/-- What a slot holds, taken as the kind `k` holds it: the descriptor itself, except that
a class method is bound to the kind it is read from (`owner` holds it, `k` inherits it), a
static method gives its function, and documentation and nothing are themselves. -/
def held (owner : Kind) (n : String) (s : Slot) (k : Kind) : Object :=
  match s with
  | .classMethod .. => bound owner n (kind k)
  | .static .. => function owner n
  | .text d => doc d
  | .none => data .null
  | _ => slot owner n

/-- What a slot holds, bound to an object that inherits it. -/
def boundTo (owner : Kind) (n : String) (s : Slot) (o : Object) : Object :=
  match s with
  | .method .. | .wrapper .. => bound owner n o
  | .classMethod .. => bound owner n (kind o.kindOf)
  | .static .. => function owner n
  | .text d => doc d
  | .none => data .null
  | _ => slot owner n

/-- A kind's documentation: its own text, or else what its own `__doc__` slot holds. -/
def kindDoc (k : Kind) : Object :=
  match k.info.doc with
  | some d => doc d
  | none =>
    match k.slot? "__doc__" with
    | some s => held k "__doc__" s k
    | none => data .null

/-- The computed attributes of a kind. -/
def described (k : Kind) (n : String) : Option Object :=
  let i := k.info
  match n with
  | "__name__" => some (text i.name)
  | "__qualname__" => some (text i.qualname)
  | "__module__" => some (text i.module)
  | "__doc__" => some (kindDoc k)
  | "__text_signature__" => some (textOrNull i.signature)
  | "__base__" => some ((i.base.map kind).getD (data .null))
  | "__bases__" => some (tuple (i.bases.map kind))
  | "__mro__" => some (tuple (i.mro.map kind))
  | "__dict__" => some (slots k)
  | "__basicsize__" => some (data (.int i.basicSize))
  | "__itemsize__" => some (data (.int i.itemSize))
  | "__flags__" => some (data (.int i.flags))
  | "__weakrefoffset__" => some (data (.int i.weakrefOffset))
  | "__dictoffset__" => some (data (.int i.dictOffset))
  | _ => none

/-- The parts of an integer: itself as real part and numerator, `0` and `1`. -/
def integerPart (i : Int) (n : String) : Option Object :=
  match n with
  | "real" | "numerator" => some (data (.int i))
  | "imag" => some (data (.int 0))
  | "denominator" => some (data (.int 1))
  | _ => none

/-- A function's kind and name, what it is bound to, and the qualified name of the kind
it is read through. -/
def functionParts : Object → Option (Kind × String × Object × String)
  | bound k m self =>
    let q := match self with
      | kind c => c.info.qualname
      | s => s.kindOf.info.qualname
    some (k, m, self, q)
  | slot k m => some (k, m, kind k, k.info.qualname)
  | function k m => some (k, m, data .null, k.info.qualname)
  | _ => none

/-- The names, documentation and signature of a kind's entry. -/
def entryAttr (k : Kind) (m : String) (n : String) : Option Object :=
  match n with
  | "__name__" => some (text m)
  | "__qualname__" => some (qualified k m)
  | "__doc__" => some (docOrNull ((k.slot? m).bind Slot.doc?))
  | "__text_signature__" => some (textOrNull ((k.slot? m).bind Slot.signature?))
  | "__objclass__" => some (kind k)
  | _ => none

/-- The attributes of a built-in function. -/
def functionAttr (f : Object) (n : String) : Option Object :=
  match functionParts f with
  | none => none
  | some (k, m, self, q) =>
    match n with
    | "__name__" => some (text m)
    | "__qualname__" => some (text (q ++ "." ++ m))
    | "__doc__" => some (docOrNull ((k.slot? m).bind Slot.doc?))
    | "__text_signature__" => some (textOrNull ((k.slot? m).bind Slot.signature?))
    | "__self__" => some self
    | "__module__" => some (data .null)
    | _ => none

/-- Read a computed or stored attribute that `owner` defines under `n` from an object. -/
def read (owner : Kind) (n : String) (o : Object) : Option Object :=
  match owner, o with
  | .object, _ => if n == "__class__" then some (kind o.kindOf) else none
  | .type, kind k => described k n
  | .int, data (.int i) => integerPart i n
  | .int, data (.bool b) => integerPart (if b then 1 else 0) n
  | .float, data (.float x) =>
    if n == "real" then some (data (.float x))
    else if n == "imag" then some (data (.float 0)) else none
  | .namespace, data (.object attrs) => if n == "__dict__" then some (data (.dict attrs)) else none
  | .builtinFunction, f => functionAttr f n
  | .methodWrapper, bound k m self => if n == "__self__" then some self else entryAttr k m n
  | .methodDescriptor, slot k m | .wrapperDescriptor, slot k m
  | .classMethodDescriptor, slot k m | .getSetDescriptor, slot k m
  | .memberDescriptor, slot k m => entryAttr k m n
  | .staticMethod, slot k m =>
    match n with
    | "__func__" | "__wrapped__" => some (function k m)
    | "__isabstractmethod__" => some (data (.bool false))
    | "__dict__" => some (data (.dict []))
    | _ => none
  | _, _ => none

/-- An object's own entry: only objects with attributes have them. -/
def ownAttr? (o : Object) (part : Text) : Option Object :=
  match o with
  | data (.object attrs) => (Value.lookup part attrs).map data
  | _ => none

/-- An attribute of a kind (see the module note). -/
def kindAttr? (k : Kind) (n : String) : Option Object :=
  let general := Kind.type.find? n
  let own := match k.find? n with
    | some (owner, s) => some (held owner n s k)
    | none => general.map fun (g, s) => boundTo g n s (kind k)
  match general with
  | some (g, s) => if s.overrides then read g n (kind k) else own
  | none => own

/-- An attribute of an object (see the module note). -/
def attr? (o : Object) (part : Text) : Option Object :=
  match o, part.toString? with
  | kind k, some n => kindAttr? k n
  | kind _, none => none
  | o, none => ownAttr? o part
  | o, some n =>
    match o.kindOf.find? n with
    | some (owner, s) =>
      if s.overrides then read owner n o
      else (ownAttr? o part).or (some (boundTo owner n s o))
    | none => ownAttr? o part

end RoleRules.Object
