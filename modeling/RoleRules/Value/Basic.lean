import RoleRules.Kind.Table
/-!
# Loose values

Rules arrive as loose records, and conditions are checked against loose instances. A
`Value` is what such data is made of: nothing, a truth value, an integer of any size, a
double, a text, a list, a frozen list (a *tuple*, the read-only form that conditions keep),
a mapping from texts to values, and an *object* whose attributes are read by name.

Mappings and objects keep their entries in insertion order, with each key once.

This module gives the kind of a value, its elements when it is walked through, and the
frozen and thawed copies that conditions keep and show.
-/
namespace RoleRules

/-- A loose value. -/
inductive Value where
  | null
  | bool (b : Bool)
  | int (n : Int)
  | float (x : Float)
  | str (s : Text)
  | list (items : List Value)
  | tuple (items : List Value)
  | dict (entries : List (Text × Value))
  | object (attrs : List (Text × Value))
deriving Inhabited

namespace Value

/-- The kind of a value. -/
def kind : Value → Kind
  | null => .none
  | bool _ => .bool
  | int _ => .int
  | float _ => .float
  | str _ => .str
  | list _ => .list
  | tuple _ => .tuple
  | dict _ => .dict
  | object _ => .namespace

/-- The name of the kind of a value, as messages show it. -/
def kindName (v : Value) : String := v.kind.name

/-- Whether a value counts as true: everything but nothing, false, zero and the empty
text, list, tuple and mapping. -/
def truthy : Value → Bool
  | null => false
  | bool b => b
  | int n => n != 0
  | float x => x != 0
  | str s => !s.isEmpty
  | list xs => !xs.isEmpty
  | tuple xs => !xs.isEmpty
  | dict es => !es.isEmpty
  | object _ => true

/-- The elements met when walking through a value: the items of a list or tuple, the
code points of a text, the keys of a mapping. Nothing else can be walked through. -/
def elements? : Value → Option (List Value)
  | str s => some (s.points.map fun p => str (Text.singleton p))
  | list xs => some xs
  | tuple xs => some xs
  | dict es => some (es.map fun e => str e.1)
  | _ => none

/-- The kind of the first part of a value that cannot serve as a key: lists, mappings and
objects cannot, and a tuple only through one of its items. -/
def unhashableKind? : Value → Option String
  | list _ => some "list"
  | dict _ => some "dict"
  | object _ => some "types.SimpleNamespace"
  | tuple xs => go xs
  | _ => none
where
  go : List Value → Option String
    | [] => none
    | x :: rest => match unhashableKind? x with
      | some k => some k
      | none => go rest

/-- The text held by a value, if it is one. -/
def text? : Value → Option Text
  | str s => some s
  | _ => none

/-- Whether a value is the text `s`. -/
def isText (s : Text) : Value → Bool
  | str t => t == s
  | _ => false

/-- The entry of a mapping under `key`. -/
def lookup (key : Text) (es : List (Text × Value)) : Option Value :=
  (es.find? fun e => e.1 == key).map Prod.snd

/-- Put an entry into a mapping: a key met again takes the new value in its first place. -/
def putEntry (k : Text) (v : Value) : List (Text × Value) → List (Text × Value)
  | [] => [(k, v)]
  | (k', w) :: rest => if k' = k then (k, v) :: rest else (k', w) :: putEntry k v rest

/-- The read-only copy that conditions keep: lists become tuples, all the way down. -/
def freeze : Value → Value
  | list xs => tuple (freezeAll xs)
  | tuple xs => tuple (freezeAll xs)
  | dict es => dict (freezeEntries es)
  | v => v
where
  freezeAll : List Value → List Value
    | [] => []
    | x :: rest => freeze x :: freezeAll rest
  freezeEntries : List (Text × Value) → List (Text × Value)
    | [] => []
    | (k, x) :: rest => (k, freeze x) :: freezeEntries rest

/-- The plain copy of frozen data: tuples become lists again, all the way down. -/
def thaw : Value → Value
  | tuple xs => list (thawAll xs)
  | list xs => list (thawAll xs)
  | dict es => dict (thawEntries es)
  | v => v
where
  thawAll : List Value → List Value
    | [] => []
    | x :: rest => thaw x :: thawAll rest
  thawEntries : List (Text × Value) → List (Text × Value)
    | [] => []
    | (k, x) :: rest => (k, thaw x) :: thawEntries rest

end Value

end RoleRules
