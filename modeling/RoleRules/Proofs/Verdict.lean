import RoleRules.Ability.Basic
/-!
# Verdict — `check`, `can`, `cannot` and the denial answer alike

Four answers of an ability are read off the rule it finds deciding a request (`Ability.decidingRule`), each by code of
its own: `can` (a grant decides), `cannot`, `check` (a decision naming the deciding position, with a reason that falls
back on the default message), and the denial raised for a refused request (`denial?`), whose message falls back a
second time, through `Value.orElse`.

Main statement (`check_paths_agree`): for every index, every default message given as a text or as nothing, and every
request, the answers fail alike or agree. `check` allows exactly when `can` does and `cannot` does not, and names the
deciding position. It gives no reason when it allows, and otherwise a non-empty text: the deciding rule's reason when
that is a non-empty text, else the default message, which is `Not authorized` for nothing or the empty text. The denial
is raised exactly on refusal; its message and its text are that reason, and it carries the rule's own reason and the
request's action, subject and field.
-/
namespace RoleRules

/-- The reason the deciding rule gives, as a value: its text, or nothing (also when no rule decides). -/
def Rule.reasonOf : Option Rule → Value
  | some r => match r.reason with
    | some t => .str t
    | none => .null
  | none => .null

@[simp] theorem Value.orElse_null (fallback : Value) : Value.null.orElse fallback = fallback := rfl

theorem Value.orElse_str (t : Text) (fallback : Value) :
    (Value.str t).orElse fallback = if t.isEmpty then fallback else .str t := by
  cases h : t.isEmpty <;> simp [Value.orElse, Value.truthy, h]

namespace Ability

/-- The rule an ability finds deciding a request, if any. -/
def decidingRule (ab : Ability) (a s i f : Value) : Except Fault (Option Rule) :=
  (ab.relevant a s i f).map (·.bind ab.index.rule?)

section Request

variable (ab : Ability) (a s i f : Value)

/-- A position the search returns holds a rule, and that rule applies. -/
theorem rule?_of_relevant {p : Nat} (h : ab.relevant a s i f = .ok (some p)) :
    ∃ r, ab.index.rule? p = some r ∧ r.appliesTo i f = true := by
  unfold relevant at h
  cases hm : ab.rulesFor a s with
  | error e => simp [hm, Bind.bind, Except.bind] at h
  | ok ps =>
    simp only [hm, Bind.bind, Except.bind, pure, Except.pure, Except.ok.injEq] at h
    have happ := List.find?_some h
    unfold appliesAt at happ
    cases hr : ab.index.rule? p with
    | none => rw [hr] at happ; cases happ
    | some r => rw [hr] at happ; exact ⟨r, rfl, happ⟩

/-- **The decision of a request, read off its deciding rule**: allowed exactly when a grant decides, the deciding
position, and on refusal the rule's reason when it is a non-empty text, else the default message. -/
theorem check_of_relevant {p? : Option Nat} (h : ab.relevant a s i f = .ok p?) :
    ab.check a s i f = .ok ⟨(p?.bind ab.index.rule?).any (!·.inverted),
      if (p?.bind ab.index.rule?).any (!·.inverted) then .null
      else (Rule.reasonOf (p?.bind ab.index.rule?)).orElse ab.defaultMessage, p?⟩ := by
  unfold check
  rw [h]
  cases p? with
  | none => rfl
  | some p =>
    obtain ⟨r, hr, -⟩ := rule?_of_relevant ab a s i f h
    simp only [Bind.bind, Except.bind, pure, Except.pure, hr, Option.bind_some, Option.any_some]
    -- a denial shows its reason unless it is empty; a grant shows none
    cases hinv : r.inverted with
    | false => rfl
    | true =>
      cases hreason : r.reason with
      | none => simp [Rule.reasonOf, hreason]
      | some t => simp [Rule.reasonOf, hreason, Value.orElse_str]

theorem check_of_relevant_error {e : Fault} (h : ab.relevant a s i f = .error e) :
    ab.check a s i f = .error e := by
  unfold check
  rw [h]
  rfl

theorem denial?_of_check {d : Decision} (h : ab.check a s i f = .ok d) :
    ab.denial? a s i f = .ok (if d.allowed then none
      else some ⟨a, s, Rule.reasonOf (d.rule.bind ab.index.rule?), f, ab.defaultMessage⟩) := by
  unfold denial?
  rw [h]
  simp only [Bind.bind, Except.bind, pure, Except.pure]
  cases d.allowed with
  | true => rfl
  | false =>
    simp only [Bool.false_eq_true, if_false]
    cases d.rule.bind ab.index.rule? with
    | none => rfl
    | some r => cases r.reason <;> rfl

/-- The denial's message falls back on the default message just as the decision's reason does. -/
theorem message_reasonOf (r? : Option Rule) (dm : Value) :
    (Denial.mk a s (Rule.reasonOf r?) f dm).message = (Rule.reasonOf r?).orElse dm := rfl

end Request

/-- The default message of an ability made with a text or with nothing: that text when it is not empty, else
`Not authorized`. -/
theorem defaultMessage_ofIndex (ix : RuleIndex) (message : Option Text) :
    (ofIndex ix (message.elim .null .str)).defaultMessage =
      .str ((message.filter fun t => !t.isEmpty).getD notAuthorized) := by
  cases message with
  | none => rfl
  | some t =>
    cases h : t.isEmpty <;> simp [ofIndex, defaultMessageOf, Value.truthy, Option.filter, h]

/-- A refusal's reason, the rule's non-empty reason or a default message that is a non-empty text, is a non-empty
text. -/
theorem reasonOf_orElse_text (r? : Option Rule) {m : Text} (hm : m.isEmpty = false) :
    ∃ t, (Rule.reasonOf r?).orElse (.str m) = .str t ∧ t.isEmpty = false := by
  cases r? with
  | none => exact ⟨m, rfl, hm⟩
  | some r =>
    cases hreason : r.reason with
    | none => exact ⟨m, by simp [Rule.reasonOf, hreason], hm⟩
    | some u =>
      simp only [Rule.reasonOf, hreason, Value.orElse_str]
      cases hu : u.isEmpty with
      | true => exact ⟨m, rfl, hm⟩
      | false => exact ⟨u, rfl, hu⟩

theorem filter_getD_notAuthorized (message : Option Text) :
    ((message.filter fun t => !t.isEmpty).getD notAuthorized).isEmpty = false := by
  cases message with
  | none => rfl
  | some t =>
    cases h : t.isEmpty with
    | false => simp only [Option.filter, h, Bool.not_false, if_true, Option.getD_some]
    | true =>
      simp only [Option.filter, h, Bool.not_true, Bool.false_eq_true, if_false, Option.getD_none]
      rfl

/-- **Every way of asking an ability answers alike.** For every index, every default message given as a text or as
nothing, and every request: `can` allows exactly when the deciding rule is a grant, `cannot` is its negation, and
`check` allows exactly when `can` does and names the deciding position; they fail alike when the search fails. The
default message is the text given, or `Not authorized` for nothing or the empty text. A check that refuses gives a
non-empty text as its reason: the deciding rule's reason when that is a non-empty text, else the default message; one
that allows gives none. The denial is raised exactly when the check refuses; it carries the request's action, subject
and field and the deciding rule's own reason (nothing when no rule decides), and its message and its text are the
check's reason. -/
theorem check_paths_agree (ix : RuleIndex) (message : Option Text) (a s i f : Value) :
    let ab := ofIndex ix (message.elim .null .str)
    ab.can a s i f = (ab.decidingRule a s i f).map (·.any (!·.inverted)) ∧
    ab.cannot a s i f = (ab.can a s i f).map (!·) ∧
    (ab.check a s i f).map (·.allowed) = ab.can a s i f ∧
    (ab.check a s i f).map (·.rule) = ab.relevant a s i f ∧
    ab.defaultMessage = .str ((message.filter fun t => !t.isEmpty).getD notAuthorized) ∧
    (ab.check a s i f).map (·.reason) = (ab.decidingRule a s i f).map (fun r? =>
      if r?.any (!·.inverted) then .null else (Rule.reasonOf r?).orElse ab.defaultMessage) ∧
    ab.denial? a s i f = (ab.decidingRule a s i f).map (fun r? =>
      if r?.any (!·.inverted) then none else some ⟨a, s, Rule.reasonOf r?, f, ab.defaultMessage⟩) ∧
    ∀ d, ab.check a s i f = .ok d → d.allowed = false →
      ∃ t dn, d.reason = .str t ∧ t.isEmpty = false ∧ ab.denial? a s i f = .ok (some dn) ∧
        dn.message = d.reason ∧ dn.message.asName = t := by
  intro ab
  have hdm := defaultMessage_ofIndex ix message
  cases hrel : ab.relevant a s i f with
  | error e =>
    -- the search failed: every answer fails with its fault
    have hcheck := check_of_relevant_error ab a s i f hrel
    have hdeciding : ab.decidingRule a s i f = .error e := by simp [decidingRule, hrel, Except.map]
    refine ⟨?_, ?_, ?_, ?_, hdm, ?_, ?_, fun d hd => ?_⟩
    · simp [can_eq_map_check, hcheck, hdeciding, Except.map]
    · simp [cannot, can_eq_map_check, hcheck, Except.map]
    · exact (can_eq_map_check ab a s i f).symm
    · simp [hcheck, Except.map]
    · simp [hcheck, hdeciding, Except.map]
    · simp [denial?, hcheck, hdeciding, Bind.bind, Except.bind, Except.map]
    · rw [hcheck] at hd
      cases hd
  | ok p? =>
    have hcheck := check_of_relevant ab a s i f hrel
    have hdeciding : ab.decidingRule a s i f = .ok (p?.bind ab.index.rule?) := by
      simp [decidingRule, hrel, Except.map]
    have hdenial := denial?_of_check ab a s i f hcheck
    refine ⟨?_, ?_, (can_eq_map_check ab a s i f).symm, ?_, hdm, ?_, ?_, fun d hd hrefused => ?_⟩
    · simp [can_eq_map_check, hcheck, hdeciding, Except.map]
    · rfl
    · simp [hcheck, Except.map]
    · simp [hcheck, hdeciding, Except.map]
    · simp only [hdenial, hdeciding, Except.map]
    · rw [hcheck, Except.ok.injEq] at hd
      subst hd
      simp only at hrefused
      simp only [hrefused, Bool.false_eq_true, if_false] at hdenial ⊢
      -- the reason is the rule's non-empty reason or the default message, both non-empty texts
      rw [hdm] at hdenial ⊢
      obtain ⟨t, ht, hne⟩ := reasonOf_orElse_text (p?.bind ab.index.rule?) (filter_getD_notAuthorized message)
      refine ⟨t, _, ht, hne, hdenial, ?_, ?_⟩
      · rw [message_reasonOf]
      · rw [message_reasonOf, ht]
        rfl

end Ability

end RoleRules
