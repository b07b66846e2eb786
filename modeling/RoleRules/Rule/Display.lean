import RoleRules.Rule.Basic
import RoleRules.Value.Display
/-!
# How a rule is shown

`<Rule grant read User fields=['email'] conditions={'status': 'draft'}>`: the kind
(`grant` or `deny`), action and subject as they are, then the fields and the thawed
conditions, each only when the rule has them.
-/
namespace RoleRules.Rule

/-- The text of a rule. -/
def display (r : Rule) : Text :=
  let kind := Text.ofString (if r.inverted then "deny" else "grant")
  let fields := match r.fields with
    | some fs => Text.ofString " fields=" ++ Value.displayTexts fs
    | none => Text.ofString ""
  let conditions := match r.conditions with
    | some cs => Text.ofString " conditions=" ++ (Value.dict cs).thaw.display
    | none => Text.ofString ""
  Text.ofString "<Rule " ++ kind ++ Text.ofString " " ++ r.action ++ Text.ofString " " ++ r.subject ++
    fields ++ conditions ++ Text.ofString ">"

end RoleRules.Rule
