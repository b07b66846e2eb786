import RoleRules.Store.Tables
/-!
# Store sessions

A session works on the tables of the last commit. Writes and reads go to its current
tables, and the first of them after a commit or rollback opens a transaction, even when it
is refused. A refused write leaves the session *failed*: every later read or write is
refused until a rollback. A refused read leaves the session as it was.

A commit makes the current tables the committed ones and closes the transaction; the
session keeps the values it holds. A rollback closes the transaction and returns to the
tables of the last commit, read back from the tables (`Tables.reload`), so that the
values the session held are replaced by what the tables keep. With no transaction open, a
rollback does nothing at all.
-/
namespace RoleRules.Store

/-- The committed tables, the current ones, whether a transaction is open and whether a
rollback is due. -/
structure Session where
  committed : Tables := {}
  current : Tables := {}
  active : Bool := false
  failed : Bool := false

/-- A step on a session: the session after it, and its answer or fault. -/
abbrev Step (α : Type) := Session → Session × Except Fault α

namespace Session

/-- The current tables, unless a rollback is due. -/
def tables (s : Session) : Except Fault Tables :=
  if s.failed then .error .pendingRollback else .ok s.current

/-- The session with its transaction open. -/
def opened (s : Session) : Session := { s with active := true }

/-- Read the current tables. -/
def read {α : Type} (f : Tables → α) : Step α := fun s =>
  (s.opened, (s.tables).map f)

/-- Read the current tables with a look-up that may be refused; a refusal changes
nothing but the open transaction. -/
def query {α : Type} (f : Tables → Except Fault α) : Step α := fun s =>
  (s.opened, s.tables >>= f)

/-- Write to the current tables; a refused write fails the session. -/
def write {α : Type} (f : Tables → Except Fault (Tables × α)) : Step α := fun s =>
  match s.tables with
  | .error e => (s, .error e)
  | .ok t =>
    match f t with
    | .ok (t', a) => ({ s.opened with current := t' }, .ok a)
    | .error e => ({ s.opened with failed := true }, .error e)

/-- Make the current tables the committed ones, closing the transaction. -/
def commit : Step Unit := fun s =>
  match s.tables with
  | .error e => (s, .error e)
  | .ok t => ({ s with committed := t, active := false }, .ok ())

/-- Return to the committed tables, read back, clearing a failure; nothing without an
open transaction. -/
def rollback : Step Unit := fun s =>
  if s.active || s.failed then
    ({ s with current := s.committed.reload, active := false, failed := false }, .ok ())
  else (s, .ok ())

theorem rollback_idle (s : Session) (ha : s.active = false) (hf : s.failed = false) :
    rollback s = (s, .ok ()) := by
  simp [rollback, ha, hf]

end Session

end RoleRules.Store
