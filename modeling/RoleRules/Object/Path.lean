import RoleRules.Object.Attribute
/-!
# Paths through objects

A condition names what it checks by a dotted path from the instance. Each name of the path
is looked up in what the names before it reached:

* in a mapping (a plain one, or the read-only mapping of a kind's slots) it is the entry
  under that key, and nothing else;
* anything else is asked for the attribute of that name (`Object.attr?`).

A name that finds nothing ends the path with nothing.
-/
namespace RoleRules.Object

/-- What a kind's mapping holds under a name: documentation and nothing are themselves,
anything else is the descriptor of the slot. -/
def stored (k : Kind) (n : String) : Slot → Object
  | .text d => doc d
  | .none => data .null
  | _ => slot k n

/-- What one name of a path reaches from what the names before it reached. -/
def step (o : Object) (part : Text) : Option Object :=
  match o with
  | data (.dict es) => (Value.lookup part es).map data
  | slots k => part.toString?.bind fun n => (k.slot? n).map (stored k n)
  | o => o.attr? part

/-- What a path of names reaches from a value, if every name finds something. -/
def resolve (v : Value) (path : List Text) : Option Object :=
  path.foldlM step (data v)

theorem resolve_nil (v : Value) : resolve v [] = some (data v) := rfl

theorem resolve_cons (v : Value) (p : Text) (ps : List Text) :
    resolve v (p :: ps) = (step (data v) p).bind fun o => ps.foldlM step o := rfl

end RoleRules.Object
