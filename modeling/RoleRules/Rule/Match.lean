import RoleRules.Rule.Basic
import RoleRules.Object.Path
/-!
# When a rule applies

* A rule *concerns* an action on a subject when its action is `manage` or that action,
  and its subject is `all` or that subject. Only the rule's side is a wildcard, and names
  are compared exactly.
* An instance *fits* a rule's conditions when, for each condition, the value found along
  the condition's dotted path (`Object.resolve`) exists and equals the required value
  (`Object.eqDirect`); a list of required values asks for one of them
  (`Object.memberOf`). A rule without conditions fits every instance.
* With no instance at all (`null`), a conditioned grant applies and a conditioned denial
  does not: a denial only revokes access to the instances it names.
* The same holds one level down for fields: a rule without fields applies to every
  field; with no field, a field-scoped grant applies and a field-scoped denial does not;
  otherwise the field must be one of the rule's.
-/
namespace RoleRules.Rule

/-- The rule concerns `action` on `subject`. -/
def concerns (r : Rule) (action subject : Value) : Bool :=
  (r.action == manageAction || action.isText r.action) &&
    (r.subject == allSubjects || subject.isText r.subject)

/-- What a path found satisfies one condition: one of a list, or equal to the value. -/
def satisfies (actual : Object) (expected : Value) : Bool :=
  match expected with
  | .tuple xs => actual.memberOf xs
  | .list xs => actual.memberOf xs
  | e => actual.eqDirect e

/-- The instance meets every condition. -/
def fitsInstance (r : Rule) (inst : Value) : Bool :=
  match r.conditions with
  | none => true
  | some cs => cs.all fun c =>
    match Object.resolve inst (c.1.splitOn 0x2e) with
    | some actual => satisfies actual c.2
    | none => false

/-- The rule applies to the instance, or to no instance. -/
def fitsConditions (r : Rule) (inst : Value) : Bool :=
  match r.conditions, inst with
  | none, _ => true
  | some _, .null => !r.inverted
  | some _, i => r.fitsInstance i

/-- The rule applies to the field, or to no field. -/
def fitsField (r : Rule) (field : Value) : Bool :=
  match r.fields, field with
  | none, _ => true
  | some _, .null => !r.inverted
  | some fs, f => f.memberOf (fs.map .str)

/-- The rule applies to the instance and the field. -/
def appliesTo (r : Rule) (inst field : Value) : Bool :=
  r.fitsConditions inst && r.fitsField field

end RoleRules.Rule
