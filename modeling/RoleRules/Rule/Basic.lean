import RoleRules.Value.Depth
import RoleRules.Value.Hash
import RoleRules.Fault
/-!
# Rules

A rule grants, or when it is inverted revokes, one action on one subject type. The action
`manage` stands for every action and the subject `all` for every subject. A rule may be
narrowed to a list of fields, and to the instances whose attributes have given values
(its *conditions*, kept frozen: lists in them are tuples). A revoking rule may carry the
reason shown when it decides.

A rule's *record* is its plain form: the six parts under their names, with the conditions
thawed back into lists. Two rules are the same when their parts are, the conditions
compared as data (`Value.eqv`), so that their order does not matter. A rule's hash is that
of its parts (`Rule.hash`): rules that are the same share it, and so may some that are
not.
-/
namespace RoleRules

/-- The action that stands for every action. -/
def manageAction : Text := Text.ofString "manage"

/-- The subject that stands for every subject. -/
def allSubjects : Text := Text.ofString "all"

/-- A grant or a denial of one action on one subject type. -/
structure Rule where
  action : Text
  subject : Text
  /-- the fields the rule is narrowed to; never an empty list (`Rule.Formed`) -/
  fields : Option (List Text) := none
  /-- the attribute values an instance must have, frozen; never an empty mapping (`Rule.Formed`) -/
  conditions : Option (List (Text × Value)) := none
  inverted : Bool := false
  reason : Option Text := none

namespace Rule

/-- The names of the parts of a rule, in the order of a record. -/
def partNames : List Text :=
  ["action", "subject", "fields", "conditions", "inverted", "reason"].map Text.ofString

/-- The plain record of a rule. -/
def toRecord (r : Rule) : Value :=
  .dict [(Text.ofString "action", .str r.action), (Text.ofString "subject", .str r.subject),
    (Text.ofString "fields", match r.fields with
      | some fs => .list (fs.map .str)
      | none => .null),
    (Text.ofString "conditions", match r.conditions with
      | some cs => (Value.dict cs).thaw
      | none => .null),
    (Text.ofString "inverted", .bool r.inverted),
    (Text.ofString "reason", match r.reason with
      | some s => .str s
      | none => .null)]

/-- Conditions compared as data. -/
def sameConditions : Option (List (Text × Value)) → Option (List (Text × Value)) → Bool
  | none, none => true
  | some a, some b => Value.eqv (.dict a) (.dict b)
  | _, _ => false

/-- Two rules are the same: equal names, fields, flag and reason, and conditions equal
as data. -/
def same (a b : Rule) : Bool :=
  a.action == b.action && a.subject == b.subject && a.fields == b.fields &&
    sameConditions a.conditions b.conditions && a.inverted == b.inverted && a.reason == b.reason

/-- The six parts of a rule as an equality test compares them, in order: fields as a
tuple, conditions as a mapping, absent parts as nothing. -/
def parts (r : Rule) : List Value :=
  [.str r.action, .str r.subject,
    (match r.fields with
      | some fs => .tuple (fs.map .str)
      | none => .null),
    (match r.conditions with
      | some cs => .dict cs
      | none => .null),
    .bool r.inverted,
    (match r.reason with
      | some s => .str s
      | none => .null)]

/-- Whether two rules are the same, found out as the interpreter does it for a test made
`depth` steps deep: the test is a comparison, which enters the rules' equality method,
which compares the tuples of their parts (`Value.comparison`); refused when that goes
past `recursionLimit`. -/
def equals (depth : Nat) (a b : Rule) : Except Fault Bool :=
  let r := Value.comparison (.tuple a.parts) (.tuple b.parts)
  if depth + 2 + r.2 ≤ recursionLimit then .ok r.1 else .error (.recursion .comparison)

/-- The hash of a rule: the tuple of its six parts, with the conditions hashed as a set
of key and value pairs, nested mappings alike, and absent parts as nothing. -/
def hash (r : Rule) : UInt64 :=
  tupleHash [r.action.hash, r.subject.hash,
    (match r.fields with
      | some fs => tupleHash (fs.map Text.hash)
      | none => noneHash),
    (match r.conditions with
      | some cs => (Value.dict cs).hash
      | none => noneHash),
    (Value.bool r.inverted).hash,
    (match r.reason with
      | some s => s.hash
      | none => noneHash)]

/-- Two rules share a hash. -/
def sameHash (a b : Rule) : Bool := a.hash == b.hash

end Rule

end RoleRules
