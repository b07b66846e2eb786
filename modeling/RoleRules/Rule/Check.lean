import RoleRules.Rule.Basic
import RoleRules.Fault
import RoleRules.Text.Blank
import RoleRules.Text.Order
/-!
# Checking rules

A rule is built from six loose parts (`Draft`), checked in the order action, subject,
fields, conditions, inversion flag, reason; the first part that fails names the error.

* action and subject are texts that hold something besides blanks (`Text.isBlank`);
  they are kept as given, blanks included;
* fields are nothing, or a list of non-empty texts; an empty list is the same as nothing;
* conditions are nothing, or a mapping, kept frozen; an empty mapping is the same as
  nothing, and a mapping too deep to freeze where the rule is built (`Draft.freezes`)
  is refused;
* the inversion flag is a truth value, and the reason nothing or a text.

A record (`Rule.ofRecord`) is a mapping with no keys but the six part names; a missing
part is nothing, and a missing flag is false. A record may also name several actions and
subjects: `Rule.expand` builds one rule per pair, every subject of the first action
first. `Rule.ofParts` builds a rule from named parts, where action and subject are
required.

Freezing recurses through the conditions, so whether it succeeds depends on how deep in
the interpreter's stack the rule is built. Every builder here takes that depth: the number
of nested steps in use where it is called (see `recursionLimit`).
-/
namespace RoleRules

/-- The six parts of a rule as loose values, before they are checked. -/
structure Draft where
  action : Value
  subject : Value
  fields : Value := .null
  conditions : Value := .null
  inverted : Value := .bool false
  reason : Value := .null

namespace Draft

/-- An action or subject name. -/
def checkName (slot : NameSlot) : Value → Except RuleError Text
  | .str s => if s.isBlank then .error (.blankName slot (.str s)) else .ok s
  | v => .error (.blankName slot v)

/-- Field names, each a non-empty text. -/
def checkFieldNames : List Value → Except RuleError (List Text)
  | [] => .ok []
  | .str s :: rest =>
    if s.isEmpty then .error (.badFieldName (.str s))
    else (checkFieldNames rest).map (s :: ·)
  | v :: _ => .error (.badFieldName v)

/-- A field scope: nothing, or a non-empty list of names. -/
def checkFields : Value → Except RuleError (Option (List Text))
  | .null => .ok none
  | .list xs => (checkFieldNames xs).map fun ns => if ns.isEmpty then none else some ns
  | .tuple xs => (checkFieldNames xs).map fun ns => if ns.isEmpty then none else some ns
  | v => .error (.fieldsNotList v)

/-- Whether a rule built `depth` steps deep can freeze the conditions `v`: the rule's
constructor, its initializer and its check take three steps, freezing the mapping takes
the fourth, every container that holds something two more, and the test whether the
innermost value is a mapping reaches four steps past the call that freezes it. -/
def freezes (depth : Nat) (v : Value) : Bool :=
  depth + 4 + 2 * v.height + 4 ≤ recursionLimit

/-- Conditions: nothing, or a non-empty mapping, frozen, when it is not too deep to freeze
`depth` steps deep. -/
def checkConditions (depth : Nat) : Value → Except RuleError (Option (List (Text × Value)))
  | .null => .ok none
  | .dict [] => .ok none
  | .dict es =>
    if freezes depth (.dict es) then .ok (some (Value.freeze.freezeEntries es))
    else .error .conditionsTooDeep
  | v => .error (.conditionsNotMapping v)

/-- The inversion flag. -/
def checkInverted : Value → Except RuleError Bool
  | .bool b => .ok b
  | v => .error (.invertedNotFlag v)

/-- The reason. -/
def checkReason : Value → Except RuleError (Option Text)
  | .null => .ok none
  | .str s => .ok (some s)
  | v => .error (.reasonNotText v)

/-- The rule of a draft whose constructor is called `depth` steps deep, or the error of its
first bad part. -/
def build (depth : Nat) (d : Draft) : Except RuleError Rule := do
  let action ← checkName .action d.action
  let subject ← checkName .subject d.subject
  let fields ← checkFields d.fields
  let conditions ← checkConditions depth d.conditions
  let inverted ← checkInverted d.inverted
  let reason ← checkReason d.reason
  pure { action, subject, fields, conditions, inverted, reason }

/-- The draft of named parts; missing parts take their defaults. -/
def ofEntries (es : List (Text × Value)) : Draft where
  action := (Value.lookup (Text.ofString "action") es).getD .null
  subject := (Value.lookup (Text.ofString "subject") es).getD .null
  fields := (Value.lookup (Text.ofString "fields") es).getD .null
  conditions := (Value.lookup (Text.ofString "conditions") es).getD .null
  inverted := (Value.lookup (Text.ofString "inverted") es).getD (.bool false)
  reason := (Value.lookup (Text.ofString "reason") es).getD .null

end Draft

namespace Rule

/-- The rule of a record, read `depth` steps deep: the reader calls the constructor one
step deeper. -/
def ofRecord (depth : Nat) : Value → Except RuleError Rule
  | .dict es =>
    let unknown := Text.sortTexts ((es.map Prod.fst).filter (· ∉ partNames))
    if unknown.isEmpty then (Draft.ofEntries es).build (depth + 1) else .error (.unknownKeys unknown)
  | v => .error (.recordNotMapping v)

/-- The names a record gives for one slot: one text, or the items of a list. -/
def namesOf (slot : NameSlot) : Value → Except RuleError (List Value)
  | .str s => .ok [.str s]
  | .list xs => .ok xs
  | .tuple xs => .ok xs
  | v => .error (.namesNotList slot v)

/-- Every (action, subject) pair, every subject of the first action first. -/
def pairs (actions subjects : List Value) : List (Value × Value) :=
  actions.flatMap fun a => subjects.map fun s => (a, s)

/-- The rules of a record whose action and subject may be lists: one per pair. The rules
are made one at a time for a caller `depth` steps deep, each read one step deeper. -/
def expand (depth : Nat) : Value → Except RuleError (List Rule)
  | .dict es => do
    let actions ← namesOf .action ((Value.lookup (Text.ofString "action") es).getD .null)
    let subjects ← namesOf .subject ((Value.lookup (Text.ofString "subject") es).getD .null)
    if actions.isEmpty || subjects.isEmpty then .error (.noPairs es)
    else (pairs actions subjects).mapM fun p =>
      ofRecord (depth + 1) (.dict (Value.putEntry (Text.ofString "subject") p.2
        (Value.putEntry (Text.ofString "action") p.1 es)))
  | v => .error (.recordNotMapping v)

/-- The name by which a rule refers to itself while it is built from named parts. -/
def selfName : Text := Text.ofString "self"

/-- The fault of one named part: a name the rule does not have, or the rule's own. -/
def partFault? (name : Text) : Option Fault :=
  if name == selfName then some (.repeatedArgument name)
  else if name ∈ partNames then none
  else some (.unexpectedKeyword name)

/-- The rule of named parts, its constructor called `depth` steps deep: the first name, in
order, that is not a part (or names the rule itself) is refused first, then missing action
and subject, then the parts as a draft. -/
def ofParts (depth : Nat) (es : List (Text × Value)) : Except Fault Rule :=
  match es.findSome? (fun e => partFault? e.1) with
  | some f => .error f
  | none =>
    let missing := ["action", "subject"].filter fun k => (Value.lookup (Text.ofString k) es).isNone
    if missing.isEmpty then ((Draft.ofEntries es).build depth).mapError Fault.ofRule
    else .error (.missingArguments missing)

/-- The rule of the named parts a value spreads into the constructor: only a mapping can
be spread. -/
def ofKeywords (depth : Nat) : Value → Except Fault Rule
  | .dict es => ofParts depth es
  | v => .error (.partsNotMapping v)

/-- The loose parts a stored permission keeps of a rule, one column each: the parts of the rule's record. -/
def columns (r : Rule) : Draft where
  action := .str r.action
  subject := .str r.subject
  fields := match r.fields with
    | some fs => .list (fs.map .str)
    | none => .null
  conditions := match r.conditions with
    | some cs => (Value.dict cs).thaw
    | none => .null
  inverted := .bool r.inverted
  reason := match r.reason with
    | some s => .str s
    | none => .null

/-- A stored rule read back from its permission's columns, its constructor called `depth` steps deep: the columns are
checked again as loose parts. The store keeps the rule itself, which is what reading back gives wherever the rule is
read no deeper than it was built. -/
def readBack (depth : Nat) (r : Rule) : Except RuleError Rule := r.columns.build depth

/-- Whether the record of a rule can be made for a caller `depth` steps deep: making it thaws
the conditions, which recurses as freezing does; the record's maker and the thaw take two
steps, every container two more, and the test whether the innermost value is a mapping
reaches four steps past the last. -/
def thaws (depth : Nat) (r : Rule) : Bool :=
  r.conditions.all fun cs => depth + 2 + 2 * (Value.dict cs).height + 4 ≤ recursionLimit

/-- What the constructor makes sure of in a rule it builds `depth` steps deep: action and
subject hold something besides blanks, fields are nothing or a non-empty list of names that
pass their check, and conditions are nothing or a non-empty mapping, frozen, that freezes
`depth` steps deep. -/
structure Formed (depth : Nat) (r : Rule) : Prop where
  action : r.action.isBlank = false
  subject : r.subject.isBlank = false
  fields : ∀ fs, r.fields = some fs → fs ≠ [] ∧ Draft.checkFieldNames (fs.map .str) = .ok fs
  conditions : ∀ cs, r.conditions = some cs →
    cs ≠ [] ∧ Value.freeze.freezeEntries cs = cs ∧ Draft.freezes depth (.dict cs) = true

end Rule

end RoleRules
