import RoleRules.Store.Session
import RoleRules.Registry
import RoleRules.Text.Order
import RoleRules.Value.Order
/-!
# Roles in the store

The store keeps each role's rules in the order they were added. A rule list given to the
store is compiled, and the record of every rule made for its permission, before anything
is written, so a malformed list writes nothing; a missing or empty list holds no rules.
Deleting a role also deletes the permissions only it used.

`loadRoleRules` reads every role with its rules, in code-point order of the kept names,
as a mapping from the names the session holds: the table a registry is built from. Every
rule is read back from its permission (`Rule.readBack`), deeper than the service was
called, so conditions that froze where the rule was built may be too deep there, and the
first such rule fails the whole load. Names equal as data (`1` and `1.0`) share one
entry, and the names must be sortable among themselves (`Value.sortAll`): texts and
numbers mixed are refused. `seedDefaults` creates the demonstration data, an
administrator who may manage everything, a guest who may read users' e-mail addresses,
and one user, but only in a store without roles.
-/
namespace RoleRules.Store

/-- A role as the store shows it: its rules and their positions, in order. -/
structure RoleView where
  name : Value
  description : Value
  rules : List Rule
  positions : List Nat

/-- The view of a role row. -/
def Tables.view (t : Tables) (r : RoleRow) : RoleView :=
  ⟨r.name, r.description, t.rulesOf r.id, (t.linksOf r.id).map (·.position)⟩

/-- A rule list as the store takes it: a missing or empty one holds no rules. -/
def RuleSource.given : RuleSource → RuleSource
  | .loose v => if v.truthy then .loose v else .items []
  | s => s

/-- The rules a rule list stores, for a service called `depth` steps deep: the list compiled
one step deeper, then the record of each rule made for its permission two steps deeper
(`Rule.thaws`), which refuses conditions too deep to thaw there. -/
def storedRules (depth : Nat) (src : RuleSource) : Except Fault (List Rule) := do
  let ix ← RuleIndex.compile (depth + 1) src
  if ix.rules.all (·.thaws (depth + 2)) then pure ix.rules else .error (.recursion .comparison)

/-- Create a role with its rules, which are compiled and made into permissions before
anything is written; the service is called `depth` steps deep. -/
def createRole (depth : Nat) (name : Value) (src : RuleSource) (description : Value) :
    Step RoleView := fun s =>
  match storedRules depth (RuleSource.given src) with
  | .error e => (s, .error e)
  | .ok rules =>
    Session.write (fun t => (t.insertRole name description rules).map fun (t', id) =>
      (t', match t'.roles.find? (·.id == id) with
        | some r => t'.view r
        | none => ⟨name, description, rules, (List.range rules.length)⟩)) s

/-- The role of a name. -/
def getRole (name : Value) : Step (Option RoleView) :=
  Session.query fun t => (t.roleOf? name).map (·.map t.view)

/-- Every role, in code-point order of the kept names. -/
def listRoles : Step (List RoleView) :=
  Session.read fun t => (Text.sortOn RoleRow.key t.roles).map t.view

/-- Delete a role and the permissions only it used; whether there was one. -/
def deleteRole (name : Value) : Step Bool := fun s =>
  match Session.query (fun t => t.roleOf? name) s with
  | (s, .error e) => (s, .error e)
  | (s, .ok none) => (s, .ok false)
  | (s, .ok (some r)) => Session.write (fun t => .ok (t.deleteRole r.id, true)) s

/-- Append the rules of one item to a role; nothing for a role that does not exist. The
service is called `depth` steps deep. The rules of one item share their conditions, so
either every record is made or the first is refused, and nothing is appended. -/
def addRule (depth : Nat) (name : Value) (item : RuleItem) : Step (Option RoleView) := fun s =>
  match Session.query (fun t => t.roleOf? name) s with
  | (s, .error e) => (s, .error e)
  | (s, .ok none) => (s, .ok none)
  | (s, .ok (some r)) =>
    match storedRules depth (.items [item]) with
    | .error e => (s, .error e)
    | .ok rules =>
      Session.write (fun t => (t.appendRules r.id rules).map fun t' => (t', some (t'.view r))) s

/-- Put an entry into a mapping keyed by values: a key equal as data to one there keeps
the first key's place and name and takes the new value. -/
def putByValue {α : Type} (k : Value) (v : α) : List (Value × α) → List (Value × α)
  | [] => [(k, v)]
  | (k', w) :: rest => if k'.eqv k then (k', v) :: rest else (k', w) :: putByValue k v rest

/-- The rules of a role as reading its permissions back gives them, each rule's constructor
called `depth` steps deep (`Rule.readBack`); the first that does not read back is the
fault. -/
def Tables.readRules (t : Tables) (depth role : Nat) : Except Fault (List Rule) :=
  ((t.rulesOf role).mapM (Rule.readBack depth)).mapError Fault.ofRule

/-- Every role with its rules (see the module note). The service is called `depth` steps
deep and reads every rule back five steps deeper. -/
def loadRoleRules (depth : Nat) : Step (List (Value × List Rule)) :=
  Session.query fun t => do
    let read ← (Text.sortOn RoleRow.key t.roles).mapM fun r =>
      (t.readRules (depth + 5) r.id).map fun rules => (r.name, rules)
    let entries := read.foldl (fun acc e => putByValue e.1 e.2 acc) []
    let _ ← Value.sortAll (entries.map Prod.fst)
    pure entries

/-- The registry of the stored roles, built `depth` steps deep. -/
def registryOf (depth : Nat) (roles : List (Value × List Rule)) (message : Value) :
    Except Fault Registry :=
  Registry.build depth (.table (roles.map fun e => (e.1, .items (e.2.map .rule)))) message

/-- The registry of the roles in the store, built `depth` steps deep with the given default
message. -/
def loadRegistry (depth : Nat) (message : Value) : Step Registry := fun s =>
  match loadRoleRules depth s with
  | (s, .error e) => (s, .error e)
  | (s, .ok roles) => (s, registryOf depth roles message)

/-- The demonstration roles: an administrator and a guest. -/
def defaultRoles : List (Text × List Rule) :=
  [(Text.ofString "admin", [{ action := Text.ofString "manage", subject := Text.ofString "all" }]),
   (Text.ofString "guest",
    [{ action := Text.ofString "read"
       subject := Text.ofString "User"
       fields := some [Text.ofString "email"] }])]

/-- The demonstration user's address. -/
def defaultUser : Text := Text.ofString "user@example.org"

/-- Create the demonstration data in a store without roles; whether it did. The service
is called `depth` steps deep and creates each role one step deeper. -/
def seedDefaults (depth : Nat) : Step Bool := fun s =>
  let s := s.opened
  match s.tables with
  | .error e => (s, .error e)
  | .ok t =>
    if !t.roles.isEmpty then (s, .ok false)
    else
      let rec create : List (Text × List Rule) → Step Unit
        | [] => fun s => (s, .ok ())
        | (n, rs) :: rest => fun s =>
          match createRole (depth + 1) (.str n) (.items (rs.map .rule)) .null s with
          | (s, .error e) => (s, .error e)
          | (s, .ok _) => create rest s
      match create defaultRoles s with
      | (s, .error e) => (s, .error e)
      | (s, .ok ()) =>
        match Session.write (fun t => t.insertUser (.str defaultUser)) s with
        | (s, .error e) => (s, .error e)
        | (s, .ok ()) => (s, .ok true)

end RoleRules.Store
