import RoleRules.Index
import RoleRules.Denial
/-!
# Abilities

An ability is the compiled rule list of one role, with the message it gives when it
refuses without a reason. Among the rules that concern a request, the last one that
applies to the instance and the field decides (`Ability.relevant`): a grant allows, a
denial refuses with its reason (when not empty) or the default message, and when no rule
applies the request is refused with the default message.
-/
namespace RoleRules

/-- The compiled rules of one role and its default message. -/
structure Ability where
  index : RuleIndex
  /-- the message of a refusal without a reason; it counts as true -/
  defaultMessage : Value := .str notAuthorized

/-- What a check decides, and which rule decided it. -/
structure Decision where
  allowed : Bool
  /-- the reason of a refusal; `null` when allowed -/
  reason : Value
  /-- the position of the deciding rule -/
  rule : Option Nat

namespace Ability

/-- The ability of an index; a message that counts as false falls back to
`Not authorized`. -/
def ofIndex (index : RuleIndex) (message : Value) : Ability :=
  { index, defaultMessage := defaultMessageOf message }

/-- The ability of a rule list, made `depth` steps deep: the constructor is a call of the
class and its initializer compiles the list. -/
def build (depth : Nat) (src : RuleSource) (message : Value) : Except Fault Ability :=
  (RuleIndex.compile (depth + 2) src).map (ofIndex · message)

/-- The ability of a rule list made by the class's own factory `depth` steps deep, which
compiles the list itself. -/
def fromRules (depth : Nat) (src : RuleSource) (message : Value) : Except Fault Ability :=
  (RuleIndex.compile (depth + 1) src).map (ofIndex · message)

/-- The compiled rules, in declaration order. -/
def rules (a : Ability) : List Rule := a.index.rules

/-- The positions of the rules concerning a request. -/
def rulesFor (a : Ability) (action subject : Value) : Except Fault (List Nat) :=
  a.index.matching action subject

/-- The rule at a position applies to the instance and the field. -/
def appliesAt (a : Ability) (inst field : Value) (p : Nat) : Bool :=
  match a.index.rule? p with
  | some r => r.appliesTo inst field
  | none => false

/-- The position of the deciding rule: the last one concerning the request that applies. -/
def relevant (a : Ability) (action subject inst field : Value) : Except Fault (Option Nat) := do
  let ps ← a.rulesFor action subject
  pure (ps.reverse.find? (a.appliesAt inst field))

/-- The decision on a request. -/
def check (a : Ability) (action subject inst field : Value) : Except Fault Decision := do
  let p? ← a.relevant action subject inst field
  pure <| match p? with
    | none => ⟨false, a.defaultMessage, none⟩
    | some p =>
      match a.index.rule? p with
      | some r =>
        if r.inverted then
          ⟨false, (match r.reason with
            | some s => if s.isEmpty then a.defaultMessage else .str s
            | none => a.defaultMessage), some p⟩
        else ⟨true, .null, some p⟩
      | none => ⟨false, a.defaultMessage, none⟩

/-- The request is allowed: some rule decides it, and that rule is not inverted. -/
def can (a : Ability) (action subject inst field : Value) : Except Fault Bool := do
  let p? ← a.relevant action subject inst field
  pure <| match p?.bind a.index.rule? with
    | some r => !r.inverted
    | none => false

/-- `can` allows exactly when `check` does. -/
theorem can_eq_map_check (a : Ability) (action subject inst field : Value) :
    a.can action subject inst field = (a.check action subject inst field).map (·.allowed) := by
  unfold can check
  cases a.relevant action subject inst field with
  | error e => rfl
  | ok p? =>
    cases p? with
    | none => rfl
    | some p =>
      cases hr : a.index.rule? p with
      | none => simp [hr, Bind.bind, Except.bind, pure, Except.pure, Except.map]
      | some r => cases hi : r.inverted <;> simp [hr, hi, Bind.bind, Except.bind, pure, Except.pure, Except.map]

/-- The request is refused. -/
def cannot (a : Ability) (action subject inst field : Value) : Except Fault Bool :=
  (a.can action subject inst field).map (!·)

/-- The denial of a refused request, carrying the deciding rule's own reason; nothing when
the request is allowed. -/
def denial? (a : Ability) (action subject inst field : Value) : Except Fault (Option Denial) := do
  let d ← a.check action subject inst field
  if d.allowed then pure none
  else
    let reason : Value := match d.rule.bind a.index.rule? with
      | some r => match r.reason with
        | some s => .str s
        | none => .null
      | none => .null
    pure (some { action, subject, reason, field, defaultMessage := a.defaultMessage })

/-- The text of an ability: `<Ability rules=N>`. -/
def display (a : Ability) : Text :=
  Text.ofString ("<Ability rules=" ++ toString a.index.size ++ ">")

end Ability

end RoleRules
