import RoleRules.Proofs.FieldAccess
import RoleRules.Proofs.RoleStore
/-!
# FieldOrder — the permitted fields listed in the order of the defaults

`orderedFields` lists the permitted set: first the default fields that the set holds, each once and in the place of
its first occurrence among the defaults, then the other names of the set in ascending code-point order.

For default fields that are texts the permitted set is itself a list of distinct texts (`permittedFields_texts`):
each step of its fold adds a text only when it is not there yet (`addFields_texts`, read through `List.eraseDups`),
clears the set, or keeps a part of it. The ordered list is then computed from the set and the defaults alone
(`orderedFields_of_texts`).

Main statement (`orderedFields_defaults_first`): for every ability, request whose names can be keys, list of default
fields (repeats allowed) and instance, both are computed, the ordered list holds each permitted name exactly once and
nothing else, and it is the permitted defaults by first occurrence followed by the other permitted names, ascending.
-/
namespace RoleRules

/-! ## First occurrences -/

section FirstOccurrences

variable {α : Type} [DecidableEq α]

theorem eraseDups_nodup : ∀ xs : List α, xs.eraseDups.Nodup
  | [] => List.nodup_nil
  | x :: xs => by
    rw [List.eraseDups_cons, List.nodup_cons]
    exact ⟨by simp, eraseDups_nodup (xs.filter fun y => !y == x)⟩
termination_by xs => xs.length
decreasing_by exact Nat.lt_succ_of_le (List.length_filter_le _ _)

theorem eraseDups_of_nodup : ∀ {xs : List α}, xs.Nodup → xs.eraseDups = xs
  | [], _ => rfl
  | x :: xs, h => by
    rw [List.nodup_cons] at h
    -- no later item equals the head, so the filter keeps the tail
    have hkeep : xs.filter (fun y => !y == x) = xs :=
      List.filter_eq_self.2 fun y hy => by simpa using fun hyx : y = x => h.1 (hyx ▸ hy)
    rw [List.eraseDups_cons, hkeep, eraseDups_of_nodup h.2]

/-- An item already met adds nothing to the first occurrences. -/
theorem eraseDups_append_cons_of_mem {xs ys : List α} {y : α} (hy : y ∈ xs) :
    (xs ++ y :: ys).eraseDups = (xs ++ ys).eraseDups := by
  rw [List.eraseDups_append, List.eraseDups_append, List.removeAll, List.removeAll, List.filter_cons]
  simp [hy]

end FirstOccurrences

/-! ## The permitted set is a list of distinct texts -/

theorem Value.memberOf_str_texts (t : Text) (Q : List Text) :
    (Value.str t).memberOf (Q.map .str) = decide (t ∈ Q) := by
  rw [Bool.eq_iff_iff, Value.memberOf_map_str, decide_eq_true_iff]
  simp

theorem addField_texts (Q : List Text) (t : Text) :
    addField (Q.map .str) (.str t) = .ok ((if t ∈ Q then Q else Q ++ [t]).map .str) := by
  simp only [addField, Value.unhashableKind?, Value.memberOf_str_texts, decide_eq_true_eq]
  split <;> simp

/-- **Adding texts keeps first occurrences**: added to distinct texts, the set becomes the first occurrences of the
texts it held followed by the added ones. -/
theorem addFields_texts (ts : List Text) : ∀ {Q : List Text}, Q.Nodup →
    addFields (Q.map .str) (ts.map .str) = .ok ((Q ++ ts).eraseDups.map .str) := by
  induction ts with
  | nil =>
    intro Q hQ
    rw [List.append_nil, eraseDups_of_nodup hQ]
    rfl
  | cons t ts ih =>
    intro Q hQ
    simp only [addFields, List.map_cons, List.foldlM_cons, addField_texts]
    by_cases ht : t ∈ Q
    · -- a text already held: the set is unchanged
      rw [if_pos ht, eraseDups_append_cons_of_mem ht]
      exact ih hQ
    · have hQ' : (Q ++ [t]).Nodup := List.Nodup.append hQ (List.nodup_singleton t) (by simpa using ht)
      rw [if_neg ht, show Q ++ t :: ts = Q ++ [t] ++ ts by simp]
      exact ih hQ'

theorem distinctKeys_texts (D : List Text) : Ability.distinctKeys (D.map .str) = .ok (D.eraseDups.map .str) := by
  have h := addFields_texts D (Q := []) List.nodup_nil
  rw [List.nil_append] at h
  exact h

/-- One rule's contribution to a set of distinct texts, with texts as the default fields, is again such a set. -/
theorem grantFields_texts (r : Rule) (D : List Text) {Q : List Text} (hQ : Q.Nodup) :
    ∃ Q' : List Text, r.grantFields (.list (D.map .str)) (Q.map .str) = .ok (Q'.map .str) ∧ Q'.Nodup := by
  unfold Rule.grantFields
  cases r.inverted with
  | false =>
    cases r.fields with
    | some fs => exact ⟨_, addFields_texts fs hQ, eraseDups_nodup _⟩
    | none => exact ⟨_, addFields_texts D hQ, eraseDups_nodup _⟩
  | true =>
    cases r.fields with
    | none => exact ⟨[], rfl, List.nodup_nil⟩
    | some fs =>
      -- a denial with fields keeps the texts it does not name
      refine ⟨Q.filter (· ∉ fs), ?_, hQ.filter _⟩
      simp [List.filter_map, Function.comp_def, Value.memberOf_str_texts]

/-- A fold whose every step keeps an invariant, and never fails from a state that has it, succeeds with a state that
has it. -/
theorem foldlM_invariant {σ : Type} {step : σ → Rule → Except Fault σ} {I : σ → Prop}
    (hstep : ∀ S r, I S → ∃ S', step S r = .ok S' ∧ I S') :
    ∀ (R : List Rule) (S : σ), I S → ∃ S', R.foldlM step S = .ok S' ∧ I S'
  | [], S, hS => ⟨S, rfl, hS⟩
  | r :: R, S, hS => by
    obtain ⟨S1, h1, hI1⟩ := hstep S r hS
    rw [List.foldlM_cons, h1]
    exact foldlM_invariant hstep R S1 hI1

namespace Ability

/-- **The permitted set is a list of distinct texts.** For a request whose names can be keys and default fields that
are texts, the permitted set is computed, and it is a list of texts without repeats. -/
theorem permittedFields_texts (ab : Ability) {a s : Value} (D : List Text) (i : Value)
    (ha : a.unhashableKind? = none) (hs : s.unhashableKind? = none) :
    ∃ Q : List Text, ab.permittedFields a s (.list (D.map .str)) i = .ok (Q.map .str) ∧ Q.Nodup := by
  rw [permittedFields_eq_foldlM ab _ i ha hs]
  -- a rule that does not concern the request, or whose conditions fail, keeps the set
  have hstep : ∀ (S : List Value) (r : Rule), (∃ Q : List Text, S = Q.map Value.str ∧ Q.Nodup) →
      ∃ S', (if r.concerns a s then (if r.fitsConditions i then r.grantFields (.list (D.map .str)) S else pure S)
        else pure S) = .ok S' ∧ ∃ Q : List Text, S' = Q.map Value.str ∧ Q.Nodup := by
    rintro S r ⟨Q, rfl, hQ⟩
    split
    · split
      · obtain ⟨Q', h', hQ'⟩ := grantFields_texts r D hQ
        exact ⟨_, h', Q', rfl, hQ'⟩
      · exact ⟨_, rfl, Q, rfl, hQ⟩
    · exact ⟨_, rfl, Q, rfl, hQ⟩
  obtain ⟨S, hfold, Q, rfl, hQ⟩ := foldlM_invariant hstep ab.rules [] ⟨[], rfl, List.nodup_nil⟩
  exact ⟨Q, hfold, hQ⟩

/-! ## The ordered list -/

/-- **The ordered list of a set of texts**: the permitted defaults by first occurrence, then the other permitted
texts in code-point order. -/
theorem orderedFields_of_texts {ab : Ability} {a s i : Value} {D Q : List Text}
    (hP : ab.permittedFields a s (.list (D.map .str)) i = .ok (Q.map .str)) :
    ab.orderedFields a s (.list (D.map .str)) i =
      .ok ((D.eraseDups.filter (· ∈ Q) ++ Text.sortTexts (Q.filter (· ∉ D))).map .str) := by
  have hordered : (D.eraseDups.map Value.str).filter (fun x => x.memberOf (Q.map .str)) =
      (D.eraseDups.filter (· ∈ Q)).map .str := by
    simp [List.filter_map, Function.comp_def, Value.memberOf_str_texts]
  -- a permitted text is a first occurrence of a default exactly when it is a default
  have hextra : (Q.map Value.str).filter (fun x => !x.memberOf ((D.eraseDups.filter (· ∈ Q)).map .str)) =
      (Q.filter (· ∉ D)).map .str := by
    simp only [List.filter_map, Function.comp_def, Value.memberOf_str_texts]
    exact congrArg _ (List.filter_congr fun t ht => by simp [ht])
  have htexts : ((Q.filter (· ∉ D)).map .str).filterMap Value.text? = Q.filter (· ∉ D) := by
    simp [List.filterMap_map, Function.comp_def, Value.text?]
  have hnone : ((Q.filter (· ∉ D)).map .str).filter (fun x => (Value.text? x).isNone) = [] := by
    simp [List.filter_map, Function.comp_def, Value.text?]
  simp only [orderedFields, hP, defaultElements, Value.elements?, distinctKeys_texts, bind, Except.bind, pure,
    Except.pure, hordered, hextra, htexts, hnone, List.append_nil, List.map_append]

/-- **The ordered fields list the permitted set in the order of the defaults.** For every ability, request whose
names can be keys, list of default fields (repeats allowed) and instance, the permitted set and the ordered list are
computed. The list holds every permitted name exactly once and nothing else: first the permitted defaults in the order
of their first occurrence, then the permitted names that are not defaults in ascending code-point order. -/
theorem orderedFields_defaults_first (ab : Ability) (a s i : Value) (D : List Text) (ha : a.unhashableKind? = none)
    (hs : s.unhashableKind? = none) :
    ∃ Q L : List Text, ab.permittedFields a s (.list (D.map .str)) i = .ok (Q.map .str) ∧
      ab.orderedFields a s (.list (D.map .str)) i = .ok (L.map .str) ∧ L.Nodup ∧ (∀ t, t ∈ L ↔ t ∈ Q) ∧
      ∃ rest, L = D.eraseDups.filter (· ∈ Q) ++ rest ∧ rest.Pairwise (· < ·) ∧ ∀ t, t ∈ rest ↔ t ∈ Q ∧ t ∉ D := by
  obtain ⟨Q, hP, hQ⟩ := permittedFields_texts ab D i ha hs
  have hperm := Text.perm_sortOn id (Q.filter (· ∉ D))
  -- the front holds the permitted defaults, the rest the permitted names that are not defaults
  have hfront : ∀ t, t ∈ D.eraseDups.filter (· ∈ Q) ↔ t ∈ Q ∧ t ∈ D := fun t => by
    simp [and_comm]
  have hrest : ∀ t, t ∈ Text.sortTexts (Q.filter (· ∉ D)) ↔ t ∈ Q ∧ t ∉ D := fun t => by
    rw [Text.sortTexts, hperm.mem_iff]
    simp
  refine ⟨Q, _, hP, orderedFields_of_texts hP, ?_, fun t => ?_, _, rfl, ?_, hrest⟩
  · refine List.Nodup.append ((eraseDups_nodup D).filter _) (hperm.nodup_iff.2 (hQ.filter _)) ?_
    intro t h1 h2
    exact ((hrest t).1 h2).2 ((hfront t).1 h1).2
  · rw [List.mem_append, hfront, hrest]
    tauto
  · simpa [Text.sortTexts] using Text.sortOn_strictly_sorted id (Q.filter (· ∉ D)) (by simpa using hQ.filter _)

/-- A grant of reading users' `name`, `zeta`, `id` and `alpha`, with the defaults `id`, `email`, `id` and `name`: the
permitted defaults `id` and `name` come first, then `alpha` and `zeta`. -/
theorem orderedFields_defaults_first_users :
    (Value.str "read").unhashableKind? = none ∧ (Value.str "User").unhashableKind? = none ∧
    ∃ Q L : List Text,
      (Ability.mk (.ofRules [⟨"read", "User", some ["name", "zeta", "id", "alpha"], none, false, none⟩]) .null
        ).permittedFields (.str "read") (.str "User") (.list ((["id", "email", "id", "name"] : List Text).map .str))
        .null = .ok (Q.map .str) ∧
      (Ability.mk (.ofRules [⟨"read", "User", some ["name", "zeta", "id", "alpha"], none, false, none⟩]) .null
        ).orderedFields (.str "read") (.str "User") (.list ((["id", "email", "id", "name"] : List Text).map .str))
        .null = .ok (L.map .str) ∧
      L.Nodup ∧ (∀ t, t ∈ L ↔ t ∈ Q) ∧
      ∃ rest, L = (["id", "email", "id", "name"] : List Text).eraseDups.filter (· ∈ Q) ++ rest ∧
        rest.Pairwise (· < ·) ∧ ∀ t, t ∈ rest ↔ t ∈ Q ∧ t ∉ (["id", "email", "id", "name"] : List Text) :=
  ⟨rfl, rfl, orderedFields_defaults_first _ _ _ _ _ rfl rfl⟩

example :
    (Ability.mk (.ofRules [⟨"read", "User", some ["name", "zeta", "id", "alpha"], none, false, none⟩]) .null
      ).orderedFields (.str "read") (.str "User") (.list ((["id", "email", "id", "name"] : List Text).map .str))
      .null = .ok ((["id", "name", "alpha", "zeta"] : List Text).map .str) := by
  rfl

end Ability

end RoleRules
