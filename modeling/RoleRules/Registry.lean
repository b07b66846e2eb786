import RoleRules.Ability.Basic
import RoleRules.Text.Order
/-!
# Ability registries

A registry gives each role name its ability. It is built from a table of roles, each with
its rule list, compiled in table order: the first name that is not a non-empty text, or
the first bad rule list, refuses the whole table. Reloading compiles a whole new table first and replaces the registry only
when that succeeds.

`lookupOrDefault` gives the ability of a role, else that of a fallback role, else refuses
with both names; a missing fallback (`null`) is not tried.
-/
namespace RoleRules

/-- The roles and rule lists a registry is built from: a table, or a value that is not
one. -/
inductive RoleSource where
  | table (entries : List (Value × RuleSource))
  | loose (v : Value)

/-- Role names with their abilities, in table order, and the message they share. -/
structure Registry where
  abilities : List (Text × Ability) := []
  /-- the default message as given, before any fallback -/
  defaultMessage : Value := .null

namespace Registry

/-- Compile a table of roles in order, each rule list compiled `depth` steps deep; a name
that is not a non-empty text or a bad rule list refuses it. -/
def compileTable (depth : Nat) (message : Value) :
    List (Value × RuleSource) → Except Fault (List (Text × Ability))
  | [] => .ok []
  | (name, src) :: rest =>
    match name with
    | .str n =>
      if n.isEmpty then .error (.blankRole name)
      else do
        let index ← RuleIndex.compile depth src
        let more ← compileTable depth message rest
        pure ((n, Ability.ofIndex index message) :: more)
    | v => .error (.blankRole v)

/-- The abilities of a table of roles compiled by a reload `depth` steps deep: the reload
compiles the table in a helper one step deeper, which compiles each list. -/
def abilitiesOf (depth : Nat) (src : RoleSource) (message : Value) :
    Except Fault (List (Text × Ability)) :=
  match src with
  | .table es => compileTable (depth + 2) message es
  | .loose v => .error (.noAttribute v "items")

/-- The registry of a table of roles built `depth` steps deep, every ability with the given
default message: the builder makes an empty registry and reloads it one step deeper. -/
def build (depth : Nat) (src : RoleSource) (message : Value) : Except Fault Registry :=
  (abilitiesOf (depth + 1) src message).map fun abilities => { abilities, defaultMessage := message }

/-- The registry of a new table reloaded `depth` steps deep, with the same default message,
or the refusal; the registry itself is unchanged either way. -/
def reload (depth : Nat) (r : Registry) (src : RoleSource) : Except Fault Registry :=
  (abilitiesOf depth src r.defaultMessage).map fun abilities => { r with abilities }

/-- Reload from a new table: the new registry, or the refusal and the registry unchanged. -/
def reloadOrKeep (depth : Nat) (r : Registry) (src : RoleSource) : Registry × Except Fault Unit :=
  match r.reload depth src with
  | .ok r' => (r', .ok ())
  | .error e => (r, .error e)

/-- The role names in code-point order. -/
def roles (r : Registry) : List Text :=
  Text.sortTexts (r.abilities.map Prod.fst)

/-- The number of roles. -/
def size (r : Registry) : Nat := r.abilities.length

/-- The entry of a role name; names that are not texts have none. -/
def find? (r : Registry) (role : Value) : Option (Text × Ability) :=
  r.abilities.find? fun e => role.isText e.1

/-- A role name is a key of the lookup: lists and mappings are refused. -/
def asKey (role : Value) : Except Fault Unit :=
  match role.unhashableKind? with
  | some k => .error (.unhashable k)
  | none => .ok ()

/-- Whether a role is registered. -/
def contains (r : Registry) (role : Value) : Except Fault Bool := do
  asKey role
  pure (r.find? role).isSome

/-- The ability of a role, with its name. -/
def lookup (r : Registry) (role : Value) : Except Fault (Option (Text × Ability)) := do
  asKey role
  pure (r.find? role)

/-- The ability of a role, else of the fallback, else a refusal naming both. -/
def lookupOrDefault (r : Registry) (role fallback : Value) : Except Fault (Text × Ability) := do
  let own ← match role with
    | .null => pure none
    | _ => r.lookup role
  match own with
  | some e => pure e
  | none =>
    match ← r.lookup fallback with
    | some e => pure e
    | none => .error (.unknownRole (role.orElse (.str (Text.ofString ""))) fallback)

/-- The text of a registry: `<AbilityRegistry roles=['a', 'b']>`. -/
def display (r : Registry) : Text :=
  Text.ofString "<AbilityRegistry roles=" ++ Value.displayTexts r.roles ++ Text.ofString ">"

end Registry

end RoleRules
