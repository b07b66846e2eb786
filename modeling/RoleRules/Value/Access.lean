import RoleRules.Fault
/-!
# Reading loose values

Requests are loose values, read the way the interpreter reads them, and every way of
reading has its own refusal:

* walking through a value (`Value.iterate`) gives the elements of `Value.elements?`, and
  refuses anything else as not iterable;
* reading by name (`Value.entriesForGet`) needs a mapping: nothing else has the `get`
  method;
* reading at a position (`Value.index`) gives a code point of a text or an item of a list,
  refuses a position past the end, refuses a mapping that has no such key (its keys are
  texts, and a position is a number), and refuses every other value as having no
  positions.
-/
namespace RoleRules

namespace Value

/-- The elements of a value walked through, or the refusal of one that cannot be. -/
def iterate (v : Value) : Except Fault (List Value) :=
  match v.elements? with
  | some xs => .ok xs
  | none => .error (.notIterable v)

/-- The entries of a value read by name through its `get` method: only mappings have it. -/
def entriesForGet : Value → Except Fault (List (Text × Value))
  | dict es => .ok es
  | v => .error (.noAttribute v "get")

/-- The element of a value at position `i` (see the module note). -/
def index (v : Value) (i : Nat) : Except Fault Value :=
  match v with
  | str s =>
    match s.points[i]? with
    | some p => .ok (str (Text.singleton p))
    | none => .error (.indexOutOfRange v)
  | list xs =>
    match xs[i]? with
    | some x => .ok x
    | none => .error (.indexOutOfRange v)
  | tuple xs =>
    match xs[i]? with
    | some x => .ok x
    | none => .error (.indexOutOfRange v)
  | dict _ => .error (.missingKey (int i))
  | _ => .error (.notSubscriptable v)

end Value

end RoleRules
