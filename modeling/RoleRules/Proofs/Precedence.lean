import RoleRules.Proofs.Matching
import RoleRules.Ability.Basic
import Mathlib.Data.List.Induction
/-!
# Precedence — the last applicable rule decides

Among the rules that concern a request, an ability looks for the last one that applies to the instance and the
field, scanning the index's answer backwards (`Ability.relevant`). Read without the index, that is a fold over the
rules in declaration order: starting from a refusal, every rule that concerns the request and applies sets the answer
to its own, `true` for a grant and `false` for a denial (`lastWins`).

Main statement (`relevant_is_last_applicable`): for every rule list and every request whose names can be keys, the
deciding rule is at the greatest position whose rule concerns the request and applies, there is none exactly when no
position does, and `can` is the last-wins fold.
-/
namespace RoleRules

/-- A rule is applicable to a request when it concerns its action and subject and applies to its instance and
field. -/
def Rule.applicable (r : Rule) (a s i f : Value) : Bool := r.concerns a s && r.appliesTo i f

/-- The last-wins reading of a rule list: from `b`, every rule that `sel` picks sets the answer to its own, `true`
for a grant and `false` for a denial. -/
def lastWins (sel : Rule → Bool) (b : Bool) (R : List Rule) : Bool :=
  R.foldl (fun acc r => if sel r then !r.inverted else acc) b

section LastWins

variable {sel : Rule → Bool} {b : Bool}

@[simp] theorem lastWins_nil : lastWins sel b [] = b := rfl

@[simp] theorem lastWins_cons (r : Rule) (R : List Rule) :
    lastWins sel b (r :: R) = lastWins sel (if sel r then !r.inverted else b) R := rfl

theorem lastWins_append (R R' : List Rule) : lastWins sel b (R ++ R') = lastWins sel (lastWins sel b R) R' :=
  List.foldl_append

@[simp] theorem lastWins_concat (R : List Rule) (r : Rule) :
    lastWins sel b (R ++ [r]) = if sel r then !r.inverted else lastWins sel b R := by
  rw [lastWins_append]; rfl

end LastWins

/-- **One fold never ends above another** from a start that is not above, when wherever their pickers differ on a
rule, the first picks it only if it is a denial and the second only if it is a grant. -/
theorem lastWins_le_of_picks {sel sel' : Rule → Bool}
    (h : ∀ r, (sel r = true → sel' r = false → r.inverted = true) ∧
      (sel' r = true → sel r = false → r.inverted = false)) :
    ∀ (R : List Rule) {b b' : Bool}, (b = true → b' = true) → lastWins sel b R = true → lastWins sel' b' R = true
  | [], _, _, hb => hb
  | r :: R, b, b', hb => by
    rw [lastWins_cons, lastWins_cons]
    refine lastWins_le_of_picks h R ?_
    obtain ⟨h1, h2⟩ := h r
    -- one step: both pick (the same verdict), one picks (a denial below, a grant above), or neither
    cases hs : sel r <;> cases hs' : sel' r
    · simpa using hb
    · simp [h2 hs' hs]
    · simp [h1 hs hs']
    · simp

theorem lastWins_mono_start (sel : Rule → Bool) (R : List Rule) {b b' : Bool} (hb : b = true → b' = true)
    (h : lastWins sel b R = true) : lastWins sel b' R = true := by
  refine lastWins_le_of_picks (fun r => ⟨fun h1 h2 => ?_, fun h1 h2 => ?_⟩) R hb h
  · rw [h1] at h2; cases h2
  · rw [h1] at h2; cases h2

/-! ## Searching positions from the top -/

/-- **Searching a range from the top finds its greatest member that passes.** -/
theorem find?_reverse_range_eq_some {B : Nat → Bool} : ∀ {n p : Nat},
    (List.range n).reverse.find? B = some p ↔ p < n ∧ B p = true ∧ ∀ q, p < q → q < n → B q = false
  | 0, p => by simp
  | n + 1, p => by
    rw [List.range_succ, List.reverse_append, List.reverse_singleton, List.singleton_append, List.find?_cons]
    cases hn : B n with
    | true =>
      simp only [Option.some.injEq]
      constructor
      · rintro rfl
        exact ⟨by omega, hn, fun q h1 h2 => by omega⟩
      · rintro ⟨hp, hBp, hlast⟩
        by_contra hne
        have := hlast n (by omega) (by omega)
        rw [hn] at this
        cases this
    | false =>
      rw [find?_reverse_range_eq_some]
      constructor
      · rintro ⟨hp, hBp, hlast⟩
        refine ⟨by omega, hBp, fun q h1 h2 => ?_⟩
        by_cases hq : q = n
        · subst hq; exact hn
        · exact hlast q h1 (by omega)
      · rintro ⟨hp, hBp, hlast⟩
        have hpn : p ≠ n := by rintro rfl; rw [hn] at hBp; cases hBp
        exact ⟨by omega, hBp, fun q h1 h2 => hlast q h1 (by omega)⟩

theorem find?_reverse_range_congr {B B' : Nat → Bool} {n : Nat} (h : ∀ p, p < n → B p = B' p) :
    (List.range n).reverse.find? B = (List.range n).reverse.find? B' := by
  rw [← List.head?_filter, ← List.head?_filter, List.filter_congr]
  intro p hp
  exact h p (by simpa using hp)

/-- **The last-wins fold is the verdict of the last rule picked**, found by searching positions from the top. -/
theorem lastWins_eq_find? (sel : Rule → Bool) (b : Bool) (R : List Rule) :
    lastWins sel b R = match (List.range R.length).reverse.find? (fun p => (R[p]?).any sel) with
      | some p => (R[p]?).any (!·.inverted)
      | none => b := by
  -- from the right: the rule appended last is the first one the search meets
  induction R using List.reverseRecOn with
  | nil => rfl
  | append_singleton R r ih =>
    have hlt : ∀ p, p < R.length → (R ++ [r])[p]? = R[p]? := fun p hp => List.getElem?_append_left hp
    have hr : (R ++ [r])[R.length]? = some r := by simp
    rw [lastWins_concat, List.length_append, List.length_singleton, List.range_succ, List.reverse_append,
      List.reverse_singleton, List.singleton_append, List.find?_cons, hr, Option.any_some]
    cases hs : sel r with
    | true => simp
    | false =>
      simp only [Bool.false_eq_true, if_false]
      have hsearch : (List.range R.length).reverse.find? (fun p => ((R ++ [r])[p]?).any sel) =
          (List.range R.length).reverse.find? (fun p => (R[p]?).any sel) :=
        find?_reverse_range_congr fun p hp => by rw [hlt p hp]
      rw [hsearch, ih]
      cases hf : (List.range R.length).reverse.find? (fun p => (R[p]?).any sel) with
      | none => rfl
      | some p =>
        have hp : p < R.length := (find?_reverse_range_eq_some.1 hf).1
        simp only
        rw [hlt p hp]

/-- A fold whose last picked rule is at `p` ends at that rule's verdict. -/
theorem lastWins_eq_of_last (sel : Rule → Bool) (b : Bool) {R : List Rule} {p : Nat} {r : Rule} (hr : R[p]? = some r)
    (hp : sel r = true) (hlast : ∀ q, p < q → ∀ r', R[q]? = some r' → sel r' = false) :
    lastWins sel b R = !r.inverted := by
  have hlt : p < R.length := (List.getElem?_eq_some_iff.1 hr).1
  have hfind : (List.range R.length).reverse.find? (fun p => (R[p]?).any sel) = some p := by
    rw [find?_reverse_range_eq_some]
    refine ⟨hlt, by simp [hr, hp], fun q hq hqn => ?_⟩
    rw [List.getElem?_eq_getElem hqn, Option.any_some]
    exact hlast q hq _ (List.getElem?_eq_getElem hqn)
  rw [lastWins_eq_find?, hfind]
  simp only
  rw [hr]
  rfl

/-! ## The deciding rule -/

/-- Position `p` of `R` holds a rule that concerns the request and applies to its instance and field. -/
def Applicable (R : List Rule) (a s i f : Value) (p : Nat) : Prop :=
  ∃ r, R[p]? = some r ∧ r.concerns a s = true ∧ r.appliesTo i f = true

theorem applicable_iff (R : List Rule) (a s i f : Value) (p : Nat) :
    Applicable R a s i f p ↔ (R[p]?).any (·.applicable a s i f) = true := by
  unfold Applicable Rule.applicable
  cases R[p]? <;> simp

theorem lt_length_of_applicable {R : List Rule} {a s i f : Value} {p : Nat} (h : Applicable R a s i f p) :
    p < R.length := by
  obtain ⟨r, hr, -⟩ := h
  exact (List.getElem?_eq_some_iff.1 hr).1

namespace Ability

theorem relevant_eq (ab : Ability) {a s : Value} (i f : Value) (ha : a.unhashableKind? = none)
    (hs : s.unhashableKind? = none) :
    ab.relevant a s i f =
      .ok ((List.range ab.rules.length).reverse.find? fun p => (ab.rules[p]?).any (·.applicable a s i f)) := by
  unfold relevant rulesFor
  rw [RuleIndex.matching_eq_ok _ ha hs, RuleIndex.positions_eq_filter]
  refine congrArg Except.ok ?_
  -- the index's answer filtered by `concerns`, searched for `appliesTo`: one search for both
  rw [← List.filter_reverse, List.find?_filter]
  congr 1
  funext p
  unfold appliesAt RuleIndex.rule? Rule.applicable
  simp only [rules]
  cases ab.index.rules[p]? <;> simp

/-- **`can` is the last-wins fold over the rules** for every request whose names can be keys. -/
theorem can_eq_lastWins (ab : Ability) {a s : Value} (i f : Value) (ha : a.unhashableKind? = none)
    (hs : s.unhashableKind? = none) :
    ab.can a s i f = .ok (lastWins (·.applicable a s i f) false ab.rules) := by
  rw [can_eq_map_check]
  unfold check
  rw [relevant_eq ab i f ha hs, lastWins_eq_find?]
  refine congrArg Except.ok ?_
  cases (List.range ab.rules.length).reverse.find? fun p => (ab.rules[p]?).any (·.applicable a s i f) with
  | none => rfl
  | some p =>
    unfold RuleIndex.rule?
    simp only [rules]
    cases ab.index.rules[p]? with
    | none => rfl
    | some r => cases h : r.inverted <;> simp [h]

/-- An allowed request is decided by a grant at the greatest position whose rule is applicable. -/
theorem deciding_grant_of_lastWins (ab : Ability) {a s : Value} (i f : Value) (ha : a.unhashableKind? = none)
    (hs : s.unhashableKind? = none) (h : lastWins (·.applicable a s i f) false ab.rules = true) :
    ∃ p r, ab.relevant a s i f = .ok (some p) ∧ ab.rules[p]? = some r ∧ r.inverted = false ∧
      r.applicable a s i f = true ∧
      ∀ q, p < q → q < ab.rules.length → (ab.rules[q]?).any (·.applicable a s i f) = false := by
  rw [relevant_eq ab i f ha hs]
  rw [lastWins_eq_find?] at h
  cases hfind : (List.range ab.rules.length).reverse.find? fun p => (ab.rules[p]?).any (·.applicable a s i f) with
  | none => rw [hfind] at h; cases h
  | some p =>
    rw [hfind] at h
    simp only at h
    obtain ⟨-, happ, hlast⟩ := find?_reverse_range_eq_some.1 hfind
    cases hr : ab.rules[p]? with
    | none => rw [hr] at h; cases h
    | some r =>
      rw [hr, Option.any_some, Bool.not_eq_true'] at h
      rw [hr, Option.any_some] at happ
      exact ⟨p, r, rfl, hr, h, happ, hlast⟩

/-- **The last applicable rule decides.** For every request whose names can be keys, the deciding rule is at the
greatest position whose rule concerns the request and applies to its instance and field (none when no position
does), and `can` is the fold over the rules in declaration order that starts from a refusal and lets every such rule
set the answer to its own. -/
theorem relevant_is_last_applicable (ab : Ability) (a s i f : Value)
    (ha : a.unhashableKind? = none) (hs : s.unhashableKind? = none) :
    (∃ p?, ab.relevant a s i f = .ok p? ∧
      ∀ p, p? = some p ↔ Applicable ab.rules a s i f p ∧ ∀ q, p < q → ¬ Applicable ab.rules a s i f q) ∧
    ab.can a s i f =
      .ok (ab.rules.foldl (fun acc r => if r.concerns a s && r.appliesTo i f then !r.inverted else acc) false) := by
  refine ⟨⟨_, relevant_eq ab i f ha hs, fun p => ?_⟩, can_eq_lastWins ab i f ha hs⟩
  rw [find?_reverse_range_eq_some, applicable_iff]
  constructor
  · rintro ⟨-, happ, hlast⟩
    refine ⟨happ, fun q hq h => ?_⟩
    have hqn : q < ab.rules.length := lt_length_of_applicable h
    rw [applicable_iff, hlast q hq hqn] at h
    cases h
  · rintro ⟨happ, hlast⟩
    have hp : p < ab.rules.length := lt_length_of_applicable ((applicable_iff _ _ _ _ _ _).2 happ)
    refine ⟨hp, happ, fun q hq _ => ?_⟩
    have := hlast q hq
    rw [applicable_iff] at this
    simpa using this

theorem relevant_is_last_applicable_draft_post :
    (Value.str "read").unhashableKind? = none ∧ (Value.str "Post").unhashableKind? = none ∧
    ((∃ p?, (⟨.ofRules [⟨"read", "Post", none, none, false, none⟩,
          ⟨"read", "Post", none, some [("status", .str "draft")], true, none⟩], .null⟩ : Ability).relevant
          (.str "read") (.str "Post") (.dict [("status", .str "draft")]) .null = .ok p? ∧
        ∀ p, p? = some p ↔
          Applicable [⟨"read", "Post", none, none, false, none⟩,
            ⟨"read", "Post", none, some [("status", .str "draft")], true, none⟩]
            (.str "read") (.str "Post") (.dict [("status", .str "draft")]) .null p ∧
          ∀ q, p < q → ¬ Applicable [⟨"read", "Post", none, none, false, none⟩,
            ⟨"read", "Post", none, some [("status", .str "draft")], true, none⟩]
            (.str "read") (.str "Post") (.dict [("status", .str "draft")]) .null q) ∧
      (⟨.ofRules [⟨"read", "Post", none, none, false, none⟩,
          ⟨"read", "Post", none, some [("status", .str "draft")], true, none⟩], .null⟩ : Ability).can
          (.str "read") (.str "Post") (.dict [("status", .str "draft")]) .null =
        .ok ([(⟨"read", "Post", none, none, false, none⟩ : Rule),
            ⟨"read", "Post", none, some [("status", .str "draft")], true, none⟩].foldl
          (fun acc r => if r.concerns (.str "read") (.str "Post") &&
            r.appliesTo (.dict [("status", .str "draft")]) .null then !r.inverted else acc) false)) :=
  ⟨rfl, rfl, relevant_is_last_applicable _ _ _ _ _ rfl rfl⟩

end Ability

end RoleRules
