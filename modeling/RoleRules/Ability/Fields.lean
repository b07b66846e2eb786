import RoleRules.Ability.Basic
import RoleRules.Text.Order
/-!
# Permitted fields

Which fields of a subject an ability may use for an action. The rules concerning the
request contribute in declaration order, skipping those whose conditions the instance does
not meet:

* a grant adds its fields, or every default field when it has none;
* a denial with fields removes them;
* a denial without fields clears everything granted so far.

Fields form a set: values equal as data count once, and the first one added stays. The
ordered form lists the permitted default fields in their given order, each once, then the
other permitted fields in code-point order.
-/
namespace RoleRules

/-- Add a field to a set; a value that cannot be a key is refused. -/
def addField (s : List Value) (x : Value) : Except Fault (List Value) :=
  match x.unhashableKind? with
  | some k => .error (.unhashable k)
  | none => .ok (if x.memberOf s then s else s ++ [x])

/-- Add fields to a set, in order. -/
def addFields (s : List Value) (xs : List Value) : Except Fault (List Value) :=
  xs.foldlM addField s

/-- The elements of the default fields; a value without elements is refused. -/
def defaultElements (defaults : Value) : Except Fault (List Value) :=
  match defaults.elements? with
  | some xs => .ok xs
  | none => .error (.notIterable defaults)

/-- One rule's contribution to the permitted set. -/
def Rule.grantFields (r : Rule) (defaults : Value) (s : List Value) : Except Fault (List Value) :=
  if !r.inverted then
    match r.fields with
    | some fs => addFields s (fs.map .str)
    | none => do addFields s (← defaultElements defaults)
  else
    match r.fields with
    | none => .ok []
    | some fs => .ok (s.filter fun x => !x.memberOf (fs.map .str))

namespace Ability

/-- The fields the ability may use for `action` on `subject`. -/
def permittedFields (a : Ability) (action subject defaults inst : Value) :
    Except Fault (List Value) := do
  let ps ← a.rulesFor action subject
  ps.foldlM (fun s p =>
    match a.index.rule? p with
    | some r => if r.fitsConditions inst then r.grantFields defaults s else .ok s
    | none => .ok s) []

/-- Keys of a list, each once in first-occurrence order; a value that cannot be a key is
refused. -/
def distinctKeys (xs : List Value) : Except Fault (List Value) :=
  addFields [] xs

/-- The permitted fields in the order of the defaults, then the others in code-point order. -/
def orderedFields (a : Ability) (action subject defaults inst : Value) :
    Except Fault (List Value) := do
  let permitted ← a.permittedFields action subject defaults inst
  let keys ← distinctKeys (← defaultElements defaults)
  let ordered := keys.filter (·.memberOf permitted)
  let extra := permitted.filter fun x => !x.memberOf ordered
  pure (ordered ++ (Text.sortTexts (extra.filterMap Value.text?)).map .str ++
    extra.filter fun x => (Value.text? x).isNone)

end Ability

end RoleRules
