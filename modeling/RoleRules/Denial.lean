import RoleRules.Value.Display
/-!
# Denials

A denial says that an action on a subject (and perhaps one of its fields) was refused.
Its message is the reason of the rule that refused when that reason counts as true, and
otherwise the default message; a default message that counts as false is replaced by
`Not authorized`. Reasons and default messages are usually texts, but any value may
stand in their place and is then shown as that value.
-/
namespace RoleRules

/-- The message of a denial when nothing more specific is known. -/
def notAuthorized : Text := Text.ofString "Not authorized"

/-- A default message as given: one that counts as false falls back to `Not authorized`. -/
def defaultMessageOf (m : Value) : Value :=
  if m.truthy then m else .str notAuthorized

/-- A value, or the fallback when the value counts as false. -/
def Value.orElse (v fallback : Value) : Value :=
  if v.truthy then v else fallback

/-- A refused request. -/
structure Denial where
  action : Value
  subject : Value
  /-- the reason of the deciding rule, as that rule gives it -/
  reason : Value := .null
  field : Value := .null
  /-- the default message, already fallen back to `Not authorized` -/
  defaultMessage : Value := .str notAuthorized

namespace Denial

/-- The message: the reason when it counts as true, else the default message. -/
def message (d : Denial) : Value :=
  d.reason.orElse d.defaultMessage

/-- The text of a denial: `<AuthorizationError read User.email: 'message'>`, the field only
when it counts as true. -/
def display (d : Denial) : Text :=
  let target := if d.field.truthy then d.subject.asName ++ Text.ofString "." ++ d.field.asName
    else d.subject.asName
  Text.ofString "<AuthorizationError " ++ d.action.asName ++ Text.ofString " " ++ target ++
    Text.ofString ": " ++ d.message.display ++ Text.ofString ">"

end Denial

end RoleRules
