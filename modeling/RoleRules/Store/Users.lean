import RoleRules.Store.Session
import RoleRules.Text.Order
/-!
# Users in the store

Users have an identifier and a unique e-mail address, kept as column text. A projection
lists every user, ordered by address, with only the requested columns that exist (`id`,
`email`), in the requested order; every repetition of a column is labelled with `_1`
after its name (`email_1`), so repetitions after the first share one label. With no
existing column requested there is nothing to show, and the store is not consulted.
-/
namespace RoleRules.Store

/-- Add a user. -/
def addUser (email : Value) : Step Unit :=
  Session.write fun t => t.insertUser email

/-- The user of an address. -/
def getUser (email : Value) : Step (Option UserRow) :=
  Session.query fun t => t.userOf? email

/-- The columns of the users table. -/
def userColumns : List Text := ["id", "email"].map Text.ofString

/-- A cell of a projected row. -/
inductive Cell where
  | id (n : Nat)
  | text (s : Text)

/-- The cell of a column of a user. -/
def UserRow.cell (u : UserRow) (column : Text) : Cell :=
  if column == Text.ofString "id" then .id u.id else .text u.email

/-- The requested columns that exist, in order; a request that cannot be walked through, or
a name that cannot be a key, is refused. -/
def selectColumns (fields : Value) : Except Fault (List Text) :=
  match fields.elements? with
  | none => .error (.notIterable fields)
  | some xs => xs.foldlM (fun cols x =>
      match x.unhashableKind? with
      | some k => .error (.unhashable k)
      | none => .ok (match x with
        | .str c => if c ∈ userColumns then cols ++ [c] else cols
        | _ => cols)) []

/-- The label of a column after the columns `before` it: its name the first time, its name
with `_1` after. -/
def labelAfter (before : List Text) (c : Text) : Text :=
  if c ∈ before then c ++ Text.ofString "_1" else c

/-- Labels of the columns, in order. -/
def labels (cols : List Text) : List Text :=
  (List.range cols.length).zipWith (fun i c => labelAfter (cols.take i) c) cols

/-- Every user with the requested columns, ordered by address. -/
def project (fields : Value) : Step (List (List (Text × Cell))) := fun s =>
  match selectColumns fields with
  | .error e => (s, .error e)
  | .ok [] => (s, .ok [])
  | .ok cols =>
    Session.read (fun t => (Text.sortOn UserRow.email t.users).map fun u =>
      (labels cols).zip (cols.map u.cell)) s

end RoleRules.Store
