import RoleRules.Proofs.Monotonicity
/-!
# Specificity — a query that says less is refused no more often

A query may leave out the instance or the field (`null`). Without an instance a conditioned grant still applies and a
conditioned denial does not; without a field a field-scoped grant still applies and a field-scoped denial does not.
So leaving either out only adds grants to the rules that apply and only takes denials away, and by
`lastWins_le_of_picks` the last-wins verdict can only rise. The permitted fields grow the same way when the instance
is left out.

Main statement (`allowed_without_instance_or_field`): a request allowed for an instance and a field is allowed for
that instance with no field, for that field with no instance, and with neither; and the fields permitted for an
instance are among those permitted with no instance.
-/
namespace RoleRules

/-- The second query says at most what the first says: each part is kept or left out. -/
def Coarser (v v' : Value) : Prop := v' = v ∨ v' = .null

theorem coarser_refl (v : Value) : Coarser v v := .inl rfl

theorem coarser_null (v : Value) : Coarser v .null := .inr rfl

/-- **Picks that keep every grant and add no denial never lower the last-wins verdict.** -/
theorem lastWins_le_of_grants_kept {sel sel' : Rule → Bool}
    (hgrant : ∀ r, r.inverted = false → sel r = true → sel' r = true)
    (hdenial : ∀ r, r.inverted = true → sel' r = true → sel r = true)
    (R : List Rule) {b b' : Bool} (hb : b = true → b' = true) (h : lastWins sel b R = true) :
    lastWins sel' b' R = true := by
  refine lastWins_le_of_picks (fun r => ⟨fun h1 h2 => ?_, fun h1 h2 => ?_⟩) R hb h
  · -- picked only by the first: were it a grant, the second would pick it too
    cases hinv : r.inverted
    · rw [hgrant r hinv h1] at h2; cases h2
    · rfl
  · -- picked only by the second: were it a denial, the first would pick it too
    cases hinv : r.inverted
    · rfl
    · rw [hdenial r hinv h1] at h2; cases h2

namespace Rule

variable (r : Rule) {i i' f f' : Value}

theorem fitsConditions_coarser_grant (hi : Coarser i i') (hg : r.inverted = false)
    (h : r.fitsConditions i = true) : r.fitsConditions i' = true := by
  rcases hi with rfl | rfl
  · exact h
  · unfold fitsConditions
    cases r.conditions <;> simp [hg]

theorem fitsConditions_coarser_denial (hi : Coarser i i') (hd : r.inverted = true)
    (h : r.fitsConditions i' = true) : r.fitsConditions i = true := by
  rcases hi with rfl | rfl
  · exact h
  · -- a denial applies to no instance only when it has no conditions
    unfold fitsConditions at h ⊢
    cases hc : r.conditions
    · rfl
    · simp [hc, hd] at h

theorem fitsField_coarser_grant (hf : Coarser f f') (hg : r.inverted = false)
    (h : r.fitsField f = true) : r.fitsField f' = true := by
  rcases hf with rfl | rfl
  · exact h
  · unfold fitsField
    cases r.fields <;> simp [hg]

theorem fitsField_coarser_denial (hf : Coarser f f') (hd : r.inverted = true)
    (h : r.fitsField f' = true) : r.fitsField f = true := by
  rcases hf with rfl | rfl
  · exact h
  · unfold fitsField at h ⊢
    cases hfs : r.fields
    · rfl
    · simp [hfs, hd] at h

/-- A grant applicable to a query is applicable to a coarser one. -/
theorem applicable_coarser_grant {a s : Value} (hi : Coarser i i') (hf : Coarser f f') (hg : r.inverted = false)
    (h : r.applicable a s i f = true) : r.applicable a s i' f' = true := by
  simp only [applicable, appliesTo, Bool.and_eq_true] at h ⊢
  obtain ⟨hc, hfit, hff⟩ := h
  exact ⟨hc, r.fitsConditions_coarser_grant hi hg hfit, r.fitsField_coarser_grant hf hg hff⟩

/-- A denial applicable to a coarser query is applicable to the finer one. -/
theorem applicable_coarser_denial {a s : Value} (hi : Coarser i i') (hf : Coarser f f') (hd : r.inverted = true)
    (h : r.applicable a s i' f' = true) : r.applicable a s i f = true := by
  simp only [applicable, appliesTo, Bool.and_eq_true] at h ⊢
  obtain ⟨hc, hfit, hff⟩ := h
  exact ⟨hc, r.fitsConditions_coarser_denial hi hd hfit, r.fitsField_coarser_denial hf hd hff⟩

end Rule

namespace Ability

variable (ab : Ability) {a s i i' f f' : Value}

/-- **A coarser query is allowed whenever the finer one is.** -/
theorem can_coarser (hi : Coarser i i') (hf : Coarser f f') (h : ab.can a s i f = .ok true) :
    ab.can a s i' f' = .ok true := by
  obtain ⟨ha, hs⟩ := hashable_of_can_eq_ok h
  rw [can_eq_lastWins _ _ _ ha hs, Except.ok.injEq] at h ⊢
  exact lastWins_le_of_grants_kept (fun r hg => r.applicable_coarser_grant hi hf hg)
    (fun r hd => r.applicable_coarser_denial hi hf hd) _ id h

/-- **The fields permitted for an instance are among those permitted for a coarser one.** -/
theorem permittedFields_coarser (hi : Coarser i i') {D : List Text} {P : List Value}
    (hP : ab.permittedFields a s (.list (D.map .str)) i = .ok P) :
    ∃ P', ab.permittedFields a s (.list (D.map .str)) i' = .ok P' ∧ ∀ x ∈ P, x ∈ P' := by
  obtain ⟨ha, hs⟩ := hashable_of_permittedFields_eq_ok hP
  obtain ⟨P', hP', hmem'⟩ := permittedFields_mem ab D i' ha hs
  refine ⟨P', hP', fun x hx => (hmem' x).2 ?_⟩
  -- only whether a rule's conditions fit changes: a grant keeps fitting, a denial fits only if it did
  refine lastWins_le_of_grants_kept (fun r hg h => ?_) (fun r hd h => ?_) _ id ((mem_permittedFields_iff hP x).1 hx)
  · simp only [Bool.and_eq_true] at h ⊢
    exact ⟨⟨h.1.1, r.fitsConditions_coarser_grant hi hg h.1.2⟩, h.2⟩
  · simp only [Bool.and_eq_true] at h ⊢
    exact ⟨⟨h.1.1, r.fitsConditions_coarser_denial hi hd h.1.2⟩, h.2⟩

/-- **Leaving out the instance or the field never turns an allowance into a refusal.** A request allowed for an
instance and a field is allowed for the instance with no field, for the field with no instance, and with neither;
and for every list of default fields, the fields permitted for an instance are among those permitted with no
instance. -/
theorem allowed_without_instance_or_field (ab : Ability) (a s i f : Value) :
    (ab.can a s i f = .ok true →
      ab.can a s i .null = .ok true ∧ ab.can a s .null f = .ok true ∧ ab.can a s .null .null = .ok true) ∧
    ∀ (D : List Text) (P : List Value), ab.permittedFields a s (.list (D.map .str)) i = .ok P →
      ∃ P', ab.permittedFields a s (.list (D.map .str)) .null = .ok P' ∧ ∀ x ∈ P, x ∈ P' :=
  ⟨fun h => ⟨ab.can_coarser (coarser_refl i) (coarser_null f) h, ab.can_coarser (coarser_null i) (coarser_refl f) h,
      ab.can_coarser (coarser_null i) (coarser_null f) h⟩,
    fun _ _ hP => ab.permittedFields_coarser (coarser_null i) hP⟩

/-- Posts may be read except drafts: a published post's title may be read, and so may a title, a post and posts in
general; its permitted fields, `title`, are permitted with no instance too. -/
theorem allowed_without_instance_or_field_published_post :
    ({ index := .ofRules [⟨"read", "Post", none, none, false, none⟩,
        ⟨"read", "Post", none, some [("status", .str "draft")], true, none⟩], defaultMessage := .null } : Ability).can
      (.str "read") (.str "Post") (.dict [("status", .str "published")]) (.str "title") = .ok true ∧
    (({ index := .ofRules [⟨"read", "Post", none, none, false, none⟩,
        ⟨"read", "Post", none, some [("status", .str "draft")], true, none⟩], defaultMessage := .null } : Ability).can
        (.str "read") (.str "Post") (.dict [("status", .str "published")]) .null = .ok true ∧
      ({ index := .ofRules [⟨"read", "Post", none, none, false, none⟩,
        ⟨"read", "Post", none, some [("status", .str "draft")], true, none⟩], defaultMessage := .null } : Ability).can
        (.str "read") (.str "Post") .null (.str "title") = .ok true ∧
      ({ index := .ofRules [⟨"read", "Post", none, none, false, none⟩,
        ⟨"read", "Post", none, some [("status", .str "draft")], true, none⟩], defaultMessage := .null } : Ability).can
        (.str "read") (.str "Post") .null .null = .ok true) ∧
    ({ index := .ofRules [⟨"read", "Post", none, none, false, none⟩,
        ⟨"read", "Post", none, some [("status", .str "draft")], true, none⟩], defaultMessage := .null } : Ability).permittedFields
      (.str "read") (.str "Post") (.list (([("title" : Text)]).map .str))
        (.dict [("status", .str "published")]) = .ok [.str "title"] ∧
    ∃ P', ({ index := .ofRules [⟨"read", "Post", none, none, false, none⟩,
        ⟨"read", "Post", none, some [("status", .str "draft")], true, none⟩], defaultMessage := .null } : Ability).permittedFields
        (.str "read") (.str "Post") (.list (([("title" : Text)]).map .str)) .null = .ok P' ∧
      ∀ x ∈ [Value.str "title"], x ∈ P' :=
  ⟨rfl, (allowed_without_instance_or_field _ _ _ _ _).1 rfl, rfl,
    (allowed_without_instance_or_field _ (.str "read") (.str "Post") (.dict [("status", .str "published")])
      (.str "title")).2 _ _ rfl⟩

end Ability

end RoleRules
