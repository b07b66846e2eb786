import RoleRules.Rule.Basic
import RoleRules.Store.Column
/-!
# The tables of the role store

Roles, their permissions and users live in four tables. A role row has a unique name; a
permission row holds one rule; a link row ties a role to one of its permissions at a
position, positions of a role counting up from `0` in the order its rules were added; a
user row has a unique e-mail address. Identifiers come from one counter.

Names and descriptions are kept as their column text (`Store.columnText`): uniqueness,
look-ups and order go by that text. A role row also remembers the values it was given, as
the session holds them until it reloads the row from the table (`RoleRow.reload`).

Writes that would give two roles one name, a role no name, or two users one address are
refused as integrity faults; so are writes of values that cannot be bound. A refused write
leaves the tables as they were.
-/
namespace RoleRules.Store

/-- A role. -/
structure RoleRow where
  id : Nat
  /-- the name as the table keeps it -/
  key : Text
  /-- the name as the session holds it -/
  name : Value
  /-- the description as the table keeps it -/
  note : Option Text
  /-- the description as the session holds it -/
  description : Value

/-- The row as read back from the table: its values are the kept texts. -/
def RoleRow.reload (r : RoleRow) : RoleRow :=
  { r with name := .str r.key, description := (r.note.map Value.str).getD .null }

/-- A stored rule. -/
structure PermissionRow where
  id : Nat
  rule : Rule

/-- A role's use of a permission, at a position of the role's rule list. -/
structure LinkRow where
  role : Nat
  permission : Nat
  position : Nat

/-- A user account. -/
structure UserRow where
  id : Nat
  email : Text

/-- The four tables and the identifier counter. -/
structure Tables where
  roles : List RoleRow := []
  permissions : List PermissionRow := []
  links : List LinkRow := []
  users : List UserRow := []
  nextId : Nat := 0

namespace Tables

/-- The tables as read back: every role row reloaded. -/
def reload (t : Tables) : Tables :=
  { t with roles := t.roles.map RoleRow.reload }

/-- The role kept under a name. -/
def roleNamed? (t : Tables) (key : Text) : Option RoleRow :=
  t.roles.find? fun r => r.key == key

/-- The role a requested name finds: the name is bound and compared as column text, and
nothing finds no role. -/
def roleOf? (t : Tables) (name : Value) : Except Fault (Option RoleRow) :=
  (columnText name).map fun key? => key?.bind t.roleNamed?

/-- The links of a role, in position order. -/
def linksOf (t : Tables) (role : Nat) : List LinkRow :=
  t.links.filter fun l => l.role == role

/-- The rule of a permission. -/
def ruleOf? (t : Tables) (permission : Nat) : Option Rule :=
  (t.permissions.find? fun p => p.id == permission).map (·.rule)

/-- The rules of a role, in position order. -/
def rulesOf (t : Tables) (role : Nat) : List Rule :=
  (t.linksOf role).filterMap fun l => t.ruleOf? l.permission

/-- A rule checked for the store: its action, subject and reason must have UTF-8 forms. -/
def checkRule (r : Rule) : Except Fault Unit := do
  checkText r.action
  checkText r.subject
  match r.reason with
  | some s => checkText s
  | none => pure ()

/-- Store rules as new permissions of a role, at positions from `start` on. -/
def addPermissions (t : Tables) (role start : Nat) : List Rule → Tables
  | [] => t
  | r :: rest =>
    let pid := t.nextId
    addPermissions { t with
      permissions := t.permissions ++ [⟨pid, r⟩]
      links := t.links ++ [⟨role, pid, start⟩]
      nextId := pid + 1 } role (start + 1) rest

/-- Add a role with its rules, giving its identifier. The permissions are written before
the role: the rules are checked first, then the name and description are bound, then the
name must be present and free. -/
def insertRole (t : Tables) (name description : Value) (rules : List Rule) :
    Except Fault (Tables × Nat) := do
  rules.forM checkRule
  let key? ← columnText name
  let note ← columnText description
  let key ← match key? with
    | none => .error .integrity
    | some k => if (t.roleNamed? k).isSome then .error .integrity else pure k
  let id := t.nextId
  let row : RoleRow := ⟨id, key, name, note, description⟩
  pure (addPermissions { t with roles := t.roles ++ [row], nextId := id + 1 } id 0 rules, id)

/-- Append rules to the end of a role's list; they are checked first. -/
def appendRules (t : Tables) (role : Nat) (rules : List Rule) : Except Fault Tables := do
  rules.forM checkRule
  pure (t.addPermissions role (t.linksOf role).length rules)

/-- Remove a role, its links, and the permissions it used that no other role links to. -/
def deleteRole (t : Tables) (role : Nat) : Tables :=
  let owned := (t.linksOf role).map (·.permission)
  let links := t.links.filter fun l => l.role != role
  { t with
    roles := t.roles.filter fun r => r.id != role
    links
    permissions := t.permissions.filter fun p =>
      !owned.contains p.id || links.any fun l => l.permission == p.id }

/-- The user kept under an address. -/
def userByEmail? (t : Tables) (email : Text) : Option UserRow :=
  t.users.find? fun u => u.email == email

/-- The user a requested address finds, compared as column text. -/
def userOf? (t : Tables) (email : Value) : Except Fault (Option UserRow) :=
  (columnText email).map fun key? => key?.bind t.userByEmail?

/-- Add a user; an address that cannot be bound, a missing one or a taken one is
refused. -/
def insertUser (t : Tables) (email : Value) : Except Fault (Tables × Unit) := do
  match ← columnText email with
  | none => .error .integrity
  | some e =>
    if (t.userByEmail? e).isSome then .error .integrity
    else pure ({ t with users := t.users ++ [⟨t.nextId, e⟩], nextId := t.nextId + 1 }, ())

end Tables

end RoleRules.Store
