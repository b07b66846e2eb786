import RoleRules.Proofs.FieldAccess
import RoleRules.Proofs.Verdict
/-!
# Reordering — two moves of rules that no answer notices

Precedence is positional, so moving a rule can change what an ability answers. Two moves never do:

* exchanging two neighbouring rules of one polarity (two grants, or two denials): where both are picked, the later one
  decides, and it decides as the other would have;
* writing a rule twice in a row: the second copy is picked exactly where the first is.

The first keeps every verdict (`Ability.SameVerdicts`): `can`, `cannot`, whether `check` allows, and the permitted
fields as a set; which of the two rules decides may change. The second also keeps the deciding rule itself, and with it
the whole decision (`Ability.SameDecisions`). Both follow from the last picked rule, `R.reverse.find? sel`: the
last-wins fold reads only its polarity, and the deciding rule is that rule.

Main statement (`reorder_and_repeat_agree`).
-/
namespace RoleRules

section Picks

variable (sel : Rule → Bool) (P Q : List Rule)

/-- **The last-wins fold is the verdict of the last rule picked**, or its start when none is. -/
theorem lastWins_eq_find?_reverse : ∀ (b : Bool) (R : List Rule),
    lastWins sel b R = ((R.reverse.find? sel).map (!·.inverted)).getD b
  | _, [] => rfl
  | b, r :: R => by
    rw [lastWins_cons, lastWins_eq_find?_reverse _ R, List.reverse_cons, List.find?_append]
    cases R.reverse.find? sel with
    | some x => rfl
    | none => cases hr : sel r <;> simp [hr]

theorem lastWins_swap_pair (b : Bool) {r1 r2 : Rule} (h : r1.inverted = r2.inverted) :
    lastWins sel b [r1, r2] = lastWins sel b [r2, r1] := by
  -- where both are picked the later decides, with the same verdict in either order
  cases h1 : sel r1 <;> cases h2 : sel r2 <;> simp [h1, h2, h]

theorem lastWins_swap (b : Bool) {r1 r2 : Rule} (h : r1.inverted = r2.inverted) :
    lastWins sel b (P ++ [r1, r2] ++ Q) = lastWins sel b (P ++ [r2, r1] ++ Q) := by
  simp only [lastWins_append]
  rw [lastWins_swap_pair sel _ h]

theorem find?_reverse_repeat (r : Rule) :
    (P ++ [r, r] ++ Q).reverse.find? sel = (P ++ [r] ++ Q).reverse.find? sel := by
  simp only [List.reverse_append, List.find?_append, List.reverse_cons, List.reverse_nil, List.nil_append]
  cases hr : sel r <;> simp [hr]

end Picks

/-- The position found by searching from the top, read in the list, is the last rule picked. -/
theorem find?_reverse_range_bind (sel : Rule → Bool) (R : List Rule) :
    ((List.range R.length).reverse.find? fun p => (R[p]?).any sel).bind (R[·]?) = R.reverse.find? sel := by
  induction R using List.reverseRecOn with
  | nil => rfl
  | append_singleton R r ih =>
    have hlt : ∀ p, p < R.length → (R ++ [r])[p]? = R[p]? := fun p hp => List.getElem?_append_left hp
    have hr : (R ++ [r])[R.length]? = some r := by simp
    rw [List.length_append, List.length_singleton, List.range_succ, List.reverse_append, List.reverse_singleton,
      List.singleton_append, List.find?_cons, hr, Option.any_some, List.reverse_append, List.reverse_singleton,
      List.singleton_append, List.find?_cons]
    cases hs : sel r with
    | true => simp
    | false =>
      dsimp only
      rw [← ih, find?_reverse_range_congr fun p hp => by rw [hlt p hp]]
      -- the position found is below the new rule's, where both lists hold the same rule
      cases hf : (List.range R.length).reverse.find? (fun p => (R[p]?).any sel) with
      | none => rfl
      | some p => exact hlt p (find?_reverse_range_eq_some.1 hf).1

namespace RuleIndex

/-- A request refused for its names is refused alike by every index. -/
theorem matching_of_unhashable {a s : Value} (h : ¬ (a.unhashableKind? = none ∧ s.unhashableKind? = none)) :
    ∃ e, ∀ ix : RuleIndex, ix.matching a s = .error e := by
  unfold matching
  cases ha : a.unhashableKind? with
  | some k => exact ⟨.unhashable k, fun ix => rfl⟩
  | none =>
    cases hs : s.unhashableKind? with
    | some k => exact ⟨.unhashable k, fun ix => rfl⟩
    | none => exact absurd ⟨ha, hs⟩ h

end RuleIndex

/-- A decision with the deciding rule itself in place of its position, so that decisions of different rule lists can
be compared. -/
def Decision.resolve (ix : RuleIndex) (d : Decision) : Bool × Value × Option Rule :=
  (d.allowed, d.reason, d.rule.bind ix.rule?)

/-- Two answers of permitted fields agree: both fail with the same fault, or both give the same set of names. -/
def SameFieldSet : Except Fault (List Value) → Except Fault (List Value) → Prop
  | .ok P, .ok P' => ∀ x, x ∈ P ↔ x ∈ P'
  | .error e, .error e' => e = e'
  | _, _ => False

namespace Ability

/-- Two abilities give the same verdicts: `can`, `cannot` and whether `check` allows, for every request, and the same
permitted fields for every request, list of default fields and instance. -/
structure SameVerdicts (ab ab' : Ability) : Prop where
  can : ∀ a s i f, ab.can a s i f = ab'.can a s i f
  cannot : ∀ a s i f, ab.cannot a s i f = ab'.cannot a s i f
  allowed : ∀ a s i f, (ab.check a s i f).map (·.allowed) = (ab'.check a s i f).map (·.allowed)
  fields : ∀ a s (D : List Text) i,
    SameFieldSet (ab.permittedFields a s (.list (D.map .str)) i) (ab'.permittedFields a s (.list (D.map .str)) i)

/-- Two abilities give the same decisions: the same verdicts, the same deciding rule for every request, and the same
decision, the deciding rule itself in place of its position. -/
structure SameDecisions (ab ab' : Ability) : Prop extends SameVerdicts ab ab' where
  deciding : ∀ a s i f, ab.decidingRule a s i f = ab'.decidingRule a s i f
  check : ∀ a s i f, (ab.check a s i f).map (·.resolve ab.index) = (ab'.check a s i f).map (·.resolve ab'.index)

section Request

variable (ab : Ability) {a s : Value} (i f : Value) {e : Fault}

theorem decidingRule_eq (ha : a.unhashableKind? = none) (hs : s.unhashableKind? = none) :
    ab.decidingRule a s i f = .ok (ab.rules.reverse.find? (·.applicable a s i f)) := by
  unfold decidingRule
  rw [relevant_eq ab i f ha hs]
  exact congrArg Except.ok (find?_reverse_range_bind _ ab.rules)

theorem relevant_of_rulesFor_error (h : ab.rulesFor a s = .error e) : ab.relevant a s i f = .error e := by
  unfold relevant
  rw [h]
  rfl

theorem permittedFields_of_rulesFor_error (h : ab.rulesFor a s = .error e) (defaults : Value) :
    ab.permittedFields a s defaults i = .error e := by
  unfold permittedFields
  rw [h]
  rfl

theorem can_of_rulesFor_error (h : ab.rulesFor a s = .error e) : ab.can a s i f = .error e := by
  rw [can_eq_map_check, check_of_relevant_error ab a s i f (relevant_of_rulesFor_error ab i f h)]
  rfl

theorem decidingRule_of_rulesFor_error (h : ab.rulesFor a s = .error e) : ab.decidingRule a s i f = .error e := by
  unfold decidingRule
  rw [relevant_of_rulesFor_error ab i f h]
  rfl

/-- **A decision is read off its deciding rule**: allowed when a grant decides, no reason then, and otherwise the rule's
reason falling back on the default message. -/
theorem check_resolve_eq :
    (ab.check a s i f).map (·.resolve ab.index) = (ab.decidingRule a s i f).map fun r? =>
      (r?.any (!·.inverted), if r?.any (!·.inverted) then .null else (Rule.reasonOf r?).orElse ab.defaultMessage, r?) := by
  unfold decidingRule
  cases hr : ab.relevant a s i f with
  | error e => rw [check_of_relevant_error ab a s i f hr]; rfl
  | ok p? => rw [check_of_relevant ab a s i f hr]; rfl

end Request

/-- **Rule lists with the same last-wins folds give the same verdicts.** -/
theorem sameVerdicts_of_lastWins {ab ab' : Ability} (h : ∀ sel b, lastWins sel b ab.rules = lastWins sel b ab'.rules) :
    SameVerdicts ab ab' := by
  have hcan : ∀ a s i f, ab.can a s i f = ab'.can a s i f := by
    intro a s i f
    by_cases hk : a.unhashableKind? = none ∧ s.unhashableKind? = none
    · rw [can_eq_lastWins ab i f hk.1 hk.2, can_eq_lastWins ab' i f hk.1 hk.2, h]
    · obtain ⟨e, he⟩ := RuleIndex.matching_of_unhashable hk
      rw [can_of_rulesFor_error ab i f (he ab.index), can_of_rulesFor_error ab' i f (he ab'.index)]
  refine ⟨hcan, fun a s i f => by simp only [cannot, hcan], fun a s i f => by simp only [← can_eq_map_check, hcan],
    fun a s D i => ?_⟩
  by_cases hk : a.unhashableKind? = none ∧ s.unhashableKind? = none
  · -- membership of every name is a last-wins fold over the rules
    obtain ⟨P, hP, hmem⟩ := permittedFields_mem ab D i hk.1 hk.2
    obtain ⟨P', hP', hmem'⟩ := permittedFields_mem ab' D i hk.1 hk.2
    rw [hP, hP']
    intro x
    rw [hmem, hmem', h]
  · obtain ⟨e, he⟩ := RuleIndex.matching_of_unhashable hk
    rw [permittedFields_of_rulesFor_error ab i (he ab.index), permittedFields_of_rulesFor_error ab' i (he ab'.index)]
    rfl

/-- **Rule lists with the same last picked rule for every choice of picks give the same decisions**, under the same
default message. -/
theorem sameDecisions_of_find? {ab ab' : Ability} (hm : ab.defaultMessage = ab'.defaultMessage)
    (h : ∀ sel, ab.rules.reverse.find? sel = ab'.rules.reverse.find? sel) : SameDecisions ab ab' := by
  have hdec : ∀ a s i f, ab.decidingRule a s i f = ab'.decidingRule a s i f := by
    intro a s i f
    by_cases hk : a.unhashableKind? = none ∧ s.unhashableKind? = none
    · rw [decidingRule_eq ab i f hk.1 hk.2, decidingRule_eq ab' i f hk.1 hk.2, h]
    · obtain ⟨e, he⟩ := RuleIndex.matching_of_unhashable hk
      rw [decidingRule_of_rulesFor_error ab i f (he ab.index), decidingRule_of_rulesFor_error ab' i f (he ab'.index)]
  refine ⟨sameVerdicts_of_lastWins fun sel b => ?_, hdec, fun a s i f => ?_⟩
  · rw [lastWins_eq_find?_reverse, lastWins_eq_find?_reverse, h]
  · rw [check_resolve_eq, check_resolve_eq, hdec, hm]

/-- **Neighbouring rules of one polarity commute, and a rule written twice in a row counts once.** For every default
message: the abilities of `P ++ [r1, r2] ++ Q` and `P ++ [r2, r1] ++ Q`, where `r1` and `r2` are both grants or both
denials, give the same `can`, `cannot` and `check` verdict for every request, and the same set of permitted fields for
every request, list of default fields and instance. The abilities of `P ++ [r, r] ++ Q` and `P ++ [r] ++ Q` agree on
all of these, and also on the deciding rule and on the whole decision. -/
theorem reorder_and_repeat_agree (P Q : List Rule) (r1 r2 : Rule) (h : r1.inverted = r2.inverted) (r : Rule)
    (m : Value) :
    SameVerdicts (ofIndex (.ofRules (P ++ [r1, r2] ++ Q)) m) (ofIndex (.ofRules (P ++ [r2, r1] ++ Q)) m) ∧
    SameDecisions (ofIndex (.ofRules (P ++ [r, r] ++ Q)) m) (ofIndex (.ofRules (P ++ [r] ++ Q)) m) :=
  ⟨sameVerdicts_of_lastWins fun sel b => lastWins_swap sel P Q b h,
    sameDecisions_of_find? rfl fun sel => find?_reverse_repeat sel P Q r⟩

/-- A grant of reading posts and a grant of reading their titles, exchanged after a denial of reading drafts. -/
theorem reorder_and_repeat_agree_grants :
    (⟨"read", "Post", none, none, false, none⟩ : Rule).inverted =
      (⟨"read", "Post", some ["title"], none, false, none⟩ : Rule).inverted ∧
    SameVerdicts
      (ofIndex (.ofRules ([⟨"read", "Post", none, some [("status", .str "draft")], true, none⟩] ++
        [⟨"read", "Post", none, none, false, none⟩, ⟨"read", "Post", some ["title"], none, false, none⟩] ++ []))
        .null)
      (ofIndex (.ofRules ([⟨"read", "Post", none, some [("status", .str "draft")], true, none⟩] ++
        [⟨"read", "Post", some ["title"], none, false, none⟩, ⟨"read", "Post", none, none, false, none⟩] ++ []))
        .null) ∧
    SameDecisions
      (ofIndex (.ofRules ([⟨"read", "Post", none, some [("status", .str "draft")], true, none⟩] ++
        [⟨"manage", "all", none, none, false, none⟩, ⟨"manage", "all", none, none, false, none⟩] ++ [])) .null)
      (ofIndex (.ofRules ([⟨"read", "Post", none, some [("status", .str "draft")], true, none⟩] ++
        [⟨"manage", "all", none, none, false, none⟩] ++ [])) .null) :=
  ⟨rfl, reorder_and_repeat_agree _ _ _ _ (by rfl) _ _⟩

end Ability

end RoleRules
