import RoleRules.Proofs.FieldAccess
/-!
# Monotonicity — a grant never revokes, a denial never grants

Inserting a rule anywhere in an ability's list changes the last-wins fold by one step. A grant's step only raises the
verdict and a denial's only lowers it, and every later step is monotone in what it starts from (`lastWins_mono_start`),
so a grant inserted anywhere keeps every allowed request allowed and every permitted field permitted, and a denial
inserted anywhere allows and permits nothing new. The permitted set also grows with the default fields: a larger
default list only makes grants without fields decide about more fields.

Main statement: `insertRule_monotone`.
-/
namespace RoleRules

/-- The ability with `g` inserted before position `k` of its rules, or after all of them when `k` is past the end. -/
def Ability.insertRule (ab : Ability) (k : Nat) (g : Rule) : Ability :=
  { ab with index := .ofRules (ab.rules.take k ++ g :: ab.rules.drop k) }

@[simp] theorem Ability.insertRule_rules (ab : Ability) (k : Nat) (g : Rule) :
    (ab.insertRule k g).rules = ab.rules.take k ++ g :: ab.rules.drop k := rfl

/-! ## One inserted step -/

section Insert

variable (sel : Rule → Bool) (R : List Rule) (k : Nat) {g : Rule} {b : Bool}

/-- An inserted grant never lowers the fold. -/
theorem lastWins_insert_grant (hg : g.inverted = false) (h : lastWins sel b R = true) :
    lastWins sel b (R.take k ++ g :: R.drop k) = true := by
  rw [← List.take_append_drop k R, lastWins_append] at h
  rw [lastWins_append, lastWins_cons]
  refine lastWins_mono_start sel _ (fun hb => ?_) h
  cases sel g <;> simp [hg, hb]

/-- An inserted denial never raises the fold. -/
theorem lastWins_insert_denial (hg : g.inverted = true) (h : lastWins sel b (R.take k ++ g :: R.drop k) = true) :
    lastWins sel b R = true := by
  rw [lastWins_append, lastWins_cons] at h
  rw [← List.take_append_drop k R, lastWins_append]
  refine lastWins_mono_start sel _ (fun hb => ?_) h
  cases hs : sel g
  · simpa [hs] using hb
  · simp [hs, hg] at hb

end Insert

/-! ## Default fields -/

theorem touchesField_mono (r : Rule) {D D2 : List Text} (hD : ∀ t ∈ D, t ∈ D2) (x : Value)
    (h : r.touchesField (D.map .str) x = true) : r.touchesField (D2.map .str) x = true := by
  unfold Rule.touchesField at h ⊢
  cases hfs : r.fields with
  | some fs => simpa [hfs] using h
  | none =>
    simp only [hfs] at h ⊢
    rw [Bool.or_eq_true, Value.memberOf_map_str] at h ⊢
    rcases h with h | h
    · exact Or.inl h
    · obtain ⟨t, ht, rfl⟩ := List.mem_map.1 h
      exact Or.inr (List.mem_map_of_mem (hD t ht))

theorem grant_of_touchesField_ne (r : Rule) (D D2 : List Value) (x : Value) (h2 : r.touchesField D2 x = true)
    (h : r.touchesField D x = false) : r.inverted = false := by
  unfold Rule.touchesField at h h2
  cases hfs : r.fields with
  | some fs =>
    simp only [hfs] at h h2
    rw [h] at h2
    cases h2
  | none =>
    simp only [hfs, Bool.or_eq_false_iff] at h
    exact h.1

namespace Ability

theorem hashable_of_can_eq_ok {ab : Ability} {a s i f : Value} {b : Bool} (h : ab.can a s i f = .ok b) :
    a.unhashableKind? = none ∧ s.unhashableKind? = none := by
  rw [can_eq_map_check] at h
  unfold check relevant rulesFor at h
  cases hm : ab.index.matching a s with
  | error e => rw [hm] at h; cases h
  | ok ps =>
    obtain ⟨ha, hs, -⟩ := RuleIndex.eq_positions_of_matching_eq_ok hm
    exact ⟨ha, hs⟩

variable (ab : Ability) (k : Nat) {g : Rule}

theorem can_insertRule_grant (hg : g.inverted = false) {a s i f : Value} (h : ab.can a s i f = .ok true) :
    (ab.insertRule k g).can a s i f = .ok true := by
  obtain ⟨ha, hs⟩ := hashable_of_can_eq_ok h
  rw [can_eq_lastWins _ _ _ ha hs, Except.ok.injEq] at h ⊢
  exact lastWins_insert_grant _ _ k hg h

theorem can_insertRule_denial (hg : g.inverted = true) {a s i f : Value}
    (h : (ab.insertRule k g).can a s i f = .ok true) : ab.can a s i f = .ok true := by
  obtain ⟨ha, hs⟩ := hashable_of_can_eq_ok h
  rw [can_eq_lastWins _ _ _ ha hs, Except.ok.injEq] at h ⊢
  exact lastWins_insert_denial _ _ k hg h

theorem permittedFields_insertRule_grant (hg : g.inverted = false) {a s i : Value} {D : List Text} {P : List Value}
    (hP : ab.permittedFields a s (.list (D.map .str)) i = .ok P) :
    ∃ P', (ab.insertRule k g).permittedFields a s (.list (D.map .str)) i = .ok P' ∧ ∀ x ∈ P, x ∈ P' := by
  obtain ⟨ha, hs⟩ := hashable_of_permittedFields_eq_ok hP
  obtain ⟨P', hP', hmem'⟩ := permittedFields_mem (ab.insertRule k g) D i ha hs
  exact ⟨P', hP', fun x hx => (hmem' x).2 (lastWins_insert_grant _ _ k hg ((mem_permittedFields_iff hP x).1 hx))⟩

theorem permittedFields_insertRule_denial (hg : g.inverted = true) {a s i : Value} {D : List Text}
    {P' : List Value} (hP' : (ab.insertRule k g).permittedFields a s (.list (D.map .str)) i = .ok P') :
    ∃ P, ab.permittedFields a s (.list (D.map .str)) i = .ok P ∧ ∀ x ∈ P', x ∈ P := by
  obtain ⟨ha, hs⟩ := hashable_of_permittedFields_eq_ok hP'
  obtain ⟨P, hP, hmem⟩ := permittedFields_mem ab D i ha hs
  exact ⟨P, hP, fun x hx => (hmem x).2 (lastWins_insert_denial _ _ k hg ((mem_permittedFields_iff hP' x).1 hx))⟩

/-- **The permitted set grows with the default fields.** -/
theorem permittedFields_mono_defaults {a s i : Value} {D D2 : List Text} (hD : ∀ t ∈ D, t ∈ D2) {P : List Value}
    (hP : ab.permittedFields a s (.list (D.map .str)) i = .ok P) :
    ∃ P2, ab.permittedFields a s (.list (D2.map .str)) i = .ok P2 ∧ ∀ x ∈ P, x ∈ P2 := by
  obtain ⟨ha, hs⟩ := hashable_of_permittedFields_eq_ok hP
  obtain ⟨P2, hP2, hmem2⟩ := permittedFields_mem ab D2 i ha hs
  refine ⟨P2, hP2, fun x hx => (hmem2 x).2 ?_⟩
  -- the two folds differ only where the larger defaults make a grant without fields decide about `x`
  refine lastWins_le_of_picks (fun r => ⟨fun h1 h2 => ?_, fun h1 h2 => ?_⟩) _ id ((mem_permittedFields_iff hP x).1 hx)
  · simp only [Bool.and_eq_true] at h1
    obtain ⟨⟨hc, hfit⟩, ht⟩ := h1
    rw [hc, hfit, touchesField_mono r hD x ht] at h2
    cases h2
  · simp only [Bool.and_eq_true] at h1
    obtain ⟨⟨hc, hfit⟩, ht⟩ := h1
    rw [hc, hfit, Bool.true_and, Bool.true_and] at h2
    exact grant_of_touchesField_ne r _ _ x ht h2

/-- **A grant never revokes, a denial never grants, and more defaults never permit less.** Inserting a grant at any
position of an ability's rules keeps every allowed request allowed and every permitted field permitted; inserting a
denial at any position allows no request and permits no field that was not already so; and the permitted fields
under some default fields are among those under any default fields that include them. -/
theorem insertRule_monotone (ab : Ability) (k : Nat) (g : Rule) :
    (g.inverted = false →
      (∀ a s i f, ab.can a s i f = .ok true → (ab.insertRule k g).can a s i f = .ok true) ∧
      ∀ a s i (D : List Text) P, ab.permittedFields a s (.list (D.map .str)) i = .ok P →
        ∃ P', (ab.insertRule k g).permittedFields a s (.list (D.map .str)) i = .ok P' ∧ ∀ x ∈ P, x ∈ P') ∧
    (g.inverted = true →
      (∀ a s i f, (ab.insertRule k g).can a s i f = .ok true → ab.can a s i f = .ok true) ∧
      ∀ a s i (D : List Text) P', (ab.insertRule k g).permittedFields a s (.list (D.map .str)) i = .ok P' →
        ∃ P, ab.permittedFields a s (.list (D.map .str)) i = .ok P ∧ ∀ x ∈ P', x ∈ P) ∧
    (∀ a s i (D D2 : List Text) P, (∀ t ∈ D, t ∈ D2) → ab.permittedFields a s (.list (D.map .str)) i = .ok P →
      ∃ P2, ab.permittedFields a s (.list (D2.map .str)) i = .ok P2 ∧ ∀ x ∈ P, x ∈ P2) :=
  ⟨fun hg => ⟨fun _ _ _ _ => can_insertRule_grant ab k hg, fun _ _ _ _ _ => permittedFields_insertRule_grant ab k hg⟩,
    fun hg => ⟨fun _ _ _ _ => can_insertRule_denial ab k hg, fun _ _ _ _ _ => permittedFields_insertRule_denial ab k hg⟩,
    fun _ _ _ _ _ _ hD => permittedFields_mono_defaults ab hD⟩

theorem insertRule_monotone_read_posts :
    (⟨"update", "Post", none, none, false, none⟩ : Rule).inverted = false ∧
    ({ index := .ofRules [⟨"read", "Post", none, none, false, none⟩], defaultMessage := .null } : Ability).can
      (.str "read") (.str "Post") .null .null = .ok true ∧
    (({ index := .ofRules [⟨"read", "Post", none, none, false, none⟩], defaultMessage := .null } : Ability).insertRule
      0 ⟨"update", "Post", none, none, false, none⟩).can (.str "read") (.str "Post") .null .null = .ok true :=
  ⟨rfl, rfl, ((insertRule_monotone _ 0 _).1 rfl).1 _ _ _ _ rfl⟩

end Ability

end RoleRules
