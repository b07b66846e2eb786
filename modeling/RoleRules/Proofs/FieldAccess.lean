import RoleRules.Proofs.Precedence
import RoleRules.Ability.Fields
/-!
# FieldAccess — the permitted set and `can` agree on fields

The permitted fields are built by a fold over the rules concerning a request whose conditions the instance meets: a
grant adds its fields (the default fields when it has none), a denial removes its fields (everything when it has
none). Whether one value `x` ends up in the set is then a last-wins fold (`permittedFields_mem`): the rules that
decide about `x` are those whose contribution mentions it (`Rule.touchesField`).

Main statement (`permittedFields_agrees_with_can`): a permitted field may be used (`can` with that field allows), and
for a default field the converse holds too. Outside the defaults a grant without fields allows every field but adds
only the defaults, so the converse can fail there.
-/
namespace RoleRules

namespace Value

theorem eqv_str_right (y : Value) (t : Text) : y.eqv (.str t) = true ↔ y = .str t := by
  cases y <;> simp [eqv, number?]

theorem eqv_str_left (t : Text) (x : Value) : (Value.str t).eqv x = true ↔ x = .str t := by
  cases x with
  | str u =>
    simp only [eqv, beq_iff_eq, str.injEq]
    exact ⟨Eq.symm, Eq.symm⟩
  | _ => simp [eqv, number?]

theorem memberOf_map_str (x : Value) (ts : List Text) : x.memberOf (ts.map .str) = true ↔ x ∈ ts.map .str := by
  simp only [memberOf, List.any_map, List.any_eq_true, Function.comp_apply, eqv_str_left, List.mem_map]
  exact ⟨fun ⟨t, ht, hx⟩ => ⟨t, ht, hx.symm⟩, fun ⟨t, ht, hx⟩ => ⟨t, ht, hx.symm⟩⟩

end Value

theorem addFields_map_str : ∀ (ts : List Text) (S : List Value),
    ∃ S', addFields S (ts.map .str) = .ok S' ∧ ∀ x, x ∈ S' ↔ x ∈ S ∨ x ∈ ts.map .str
  | [], S => ⟨S, rfl, by simp⟩
  | t :: ts, S => by
    obtain ⟨S', hS', hmem⟩ := addFields_map_str ts (if (Value.str t).memberOf S then S else S ++ [.str t])
    refine ⟨S', hS', fun x => ?_⟩
    rw [hmem]
    by_cases ht : (Value.str t).memberOf S = true
    · -- a text already there as data is there as itself
      obtain ⟨y, hy, hyt⟩ := List.any_eq_true.1 ht
      rw [Value.eqv_str_right] at hyt
      subst hyt
      simp only [ht, if_true, List.map_cons, List.mem_cons]
      constructor
      · rintro (h | h) <;> simp [h]
      · rintro (h | h | h)
        · exact Or.inl h
        · exact Or.inl (h ▸ hy)
        · exact Or.inr h
    · simp only [ht, Bool.false_eq_true, if_false, List.mem_append, List.map_cons, List.mem_cons]
      tauto

/-- Whether a rule's contribution to the permitted set decides about `x`: a grant adds its fields, or the defaults
when it has none; a denial removes its fields, or everything when it has none. -/
def Rule.touchesField (r : Rule) (defaults : List Value) (x : Value) : Bool :=
  match r.fields with
  | some fs => x.memberOf (fs.map .str)
  | none => r.inverted || x.memberOf defaults

/-! ## One rule, then the whole fold -/

/-- **One rule's contribution**: for default fields that are texts it never fails, and a value is in the new set
exactly when the rule decides about it and grants, or it does not decide about it and the value was there. -/
theorem grantFields_mem (r : Rule) (D : List Text) {S : List Value} {m : Value → Bool}
    (hS : ∀ x, x ∈ S ↔ m x = true) :
    ∃ S', r.grantFields (.list (D.map .str)) S = .ok S' ∧
      ∀ x, x ∈ S' ↔ (if r.touchesField (D.map .str) x then !r.inverted else m x) = true := by
  unfold Rule.grantFields Rule.touchesField
  cases hinv : r.inverted with
  | false =>
    have hadd : ∀ ts : List Text, ∃ S', addFields S (ts.map .str) = .ok S' ∧
        ∀ x, x ∈ S' ↔ (if x.memberOf (ts.map .str) then true else m x) = true := by
      intro ts
      obtain ⟨S', hS', hmem⟩ := addFields_map_str ts S
      refine ⟨S', hS', fun x => ?_⟩
      rw [hmem, hS, ← Value.memberOf_map_str]
      cases x.memberOf (ts.map .str) <;> simp
    cases r.fields with
    | some fs => exact hadd fs
    | none =>
      obtain ⟨S', hS', hmem⟩ := hadd D
      exact ⟨S', hS', fun x => by rw [hmem]; simp⟩
  | true =>
    cases r.fields with
    | none => exact ⟨[], rfl, by simp⟩
    | some fs =>
      refine ⟨_, rfl, fun x => ?_⟩
      rw [List.mem_filter, hS]
      cases h : x.memberOf (fs.map .str) <;> simp [h]

/-- **A fold of steps that each keep membership last-wins keeps it last-wins over the whole list.** -/
theorem foldlM_mem {step : List Value → Rule → Except Fault (List Value)} {sel : Value → Rule → Bool}
    (hstep : ∀ (S : List Value) (m : Value → Bool) (r : Rule), (∀ x, x ∈ S ↔ m x = true) →
      ∃ S', step S r = .ok S' ∧ ∀ x, x ∈ S' ↔ (if sel x r then !r.inverted else m x) = true) :
    ∀ (R : List Rule) (S : List Value) (m : Value → Bool), (∀ x, x ∈ S ↔ m x = true) →
      ∃ S', R.foldlM step S = .ok S' ∧ ∀ x, x ∈ S' ↔ lastWins (sel x) (m x) R = true
  | [], S, m, hS => ⟨S, rfl, hS⟩
  | r :: R, S, m, hS => by
    obtain ⟨S1, h1, hmem1⟩ := hstep S m r hS
    obtain ⟨S', h', hmem'⟩ := foldlM_mem hstep R S1 _ hmem1
    refine ⟨S', ?_, fun x => by rw [hmem', lastWins_cons]⟩
    rw [List.foldlM_cons, h1]
    exact h'

/-! ## Deciding about a field and deciding a request -/

theorem touchesField_str_of_mem (r : Rule) {D : List Text} {f : Text} (hf : f ∈ D) :
    r.touchesField (D.map .str) (.str f) = r.fitsField (.str f) := by
  unfold Rule.touchesField Rule.fitsField
  cases r.fields with
  | some fs => rfl
  | none =>
    have : (Value.str f).memberOf (D.map .str) = true := (Value.memberOf_map_str _ _).2 (List.mem_map_of_mem hf)
    simp [this]

theorem fitsField_str_of_touchesField (r : Rule) (D : List Value) (f : Text)
    (h : r.touchesField D (.str f) = true) : r.fitsField (.str f) = true := by
  unfold Rule.touchesField at h
  unfold Rule.fitsField
  cases hfs : r.fields with
  | some fs => simpa [hfs] using h
  | none => rfl

theorem grant_of_fitsField_str (r : Rule) (D : List Value) (f : Text)
    (h : r.fitsField (.str f) = true) (hn : r.touchesField D (.str f) = false) : r.inverted = false := by
  unfold Rule.touchesField at hn
  unfold Rule.fitsField at h
  cases hfs : r.fields with
  | some fs =>
    simp only [hfs] at hn h
    rw [hn] at h
    cases h
  | none =>
    simp only [hfs, Bool.or_eq_false_iff] at hn
    exact hn.1

/-- The last rule that applies to a field, when it is scoped, is also the last rule that decides about the field. -/
theorem lastWins_touchesField_of_last {R : List Rule} {a s i : Value} (D : List Value) (f : Text) {p : Nat} {r : Rule}
    (hr : R[p]? = some r) (happ : r.applicable a s i (.str f) = true) (hfs : r.fields ≠ none)
    (hlast : ∀ q, p < q → q < R.length → (R[q]?).any (·.applicable a s i (.str f)) = false) :
    lastWins (fun r => r.concerns a s && r.fitsConditions i && r.touchesField D (.str f)) false R = !r.inverted := by
  simp only [Rule.applicable, Rule.appliesTo, Bool.and_eq_true] at happ
  obtain ⟨hc, hfit, hff⟩ := happ
  have htouch : r.touchesField D (.str f) = true := by
    unfold Rule.touchesField
    unfold Rule.fitsField at hff
    cases hf : r.fields with
    | none => exact absurd hf hfs
    | some fs => simpa [hf] using hff
  refine lastWins_eq_of_last _ _ hr (by simp [hc, hfit, htouch]) fun q hq r' hr' => ?_
  -- a later rule deciding about the field would apply to it
  have hq := hlast q hq (List.getElem?_eq_some_iff.1 hr').1
  rw [hr', Option.any_some] at hq
  cases ht : r'.concerns a s && r'.fitsConditions i && r'.touchesField D (.str f)
  · rfl
  · simp only [Bool.and_eq_true] at ht
    obtain ⟨⟨hc', hfit'⟩, htf⟩ := ht
    simp [Rule.applicable, Rule.appliesTo, hc', hfit', fitsField_str_of_touchesField r' _ f htf] at hq

namespace Ability

theorem permittedFields_eq_foldlM (ab : Ability) {a s : Value} (defaults i : Value) (ha : a.unhashableKind? = none)
    (hs : s.unhashableKind? = none) :
    ab.permittedFields a s defaults i = ab.rules.foldlM (fun S r =>
      if r.concerns a s then (if r.fitsConditions i then r.grantFields defaults S else pure S) else pure S) [] := by
  unfold permittedFields rulesFor
  rw [RuleIndex.matching_eq_ok _ ha hs, RuleIndex.positions_eq_filter, ← List.foldlM_filter,
    ← RuleIndex.filterMap_getElem?_range_filter (·.concerns a s) ab.rules, List.foldlM_filterMap]
  show List.foldlM _ [] _ = _
  congr 1
  funext S p
  unfold RuleIndex.rule?
  simp only [rules]
  cases ab.index.rules[p]? <;> rfl

/-- **Membership in the permitted set is a last-wins fold.** For default fields that are texts the set is always
computed, and a value is in it exactly when the last rule that concerns the request, whose conditions the instance
meets and that decides about the value, is a grant. -/
theorem permittedFields_mem (ab : Ability) {a s : Value} (D : List Text) (i : Value) (ha : a.unhashableKind? = none)
    (hs : s.unhashableKind? = none) :
    ∃ P, ab.permittedFields a s (.list (D.map .str)) i = .ok P ∧ ∀ x, x ∈ P ↔
      lastWins (fun r => r.concerns a s && r.fitsConditions i && r.touchesField (D.map .str) x) false ab.rules =
        true := by
  rw [permittedFields_eq_foldlM ab _ i ha hs]
  refine foldlM_mem (fun S m r hS => ?_) ab.rules [] (fun _ => false) (by simp)
  cases hc : r.concerns a s with
  | false => exact ⟨S, rfl, fun x => by simp [hS]⟩
  | true =>
    cases hfit : r.fitsConditions i with
    | false => exact ⟨S, rfl, fun x => by simp [hS]⟩
    | true => simpa using grantFields_mem r D hS

theorem hashable_of_permittedFields_eq_ok {ab : Ability} {a s defaults i : Value} {P : List Value}
    (h : ab.permittedFields a s defaults i = .ok P) : a.unhashableKind? = none ∧ s.unhashableKind? = none := by
  unfold permittedFields rulesFor at h
  cases hm : ab.index.matching a s with
  | error e => rw [hm] at h; cases h
  | ok ps =>
    obtain ⟨ha, hs, -⟩ := RuleIndex.eq_positions_of_matching_eq_ok hm
    exact ⟨ha, hs⟩

theorem mem_permittedFields_iff {ab : Ability} {a s i : Value} {D : List Text} {P : List Value}
    (hP : ab.permittedFields a s (.list (D.map .str)) i = .ok P) (x : Value) :
    x ∈ P ↔
      lastWins (fun r => r.concerns a s && r.fitsConditions i && r.touchesField (D.map .str) x) false ab.rules =
        true := by
  obtain ⟨ha, hs⟩ := hashable_of_permittedFields_eq_ok hP
  obtain ⟨P', hP', hmem⟩ := permittedFields_mem ab D i ha hs
  rw [hP, Except.ok.injEq] at hP'
  rw [hP']
  exact hmem x

/-- **A permitted field may be used, and a default field is permitted exactly when it may be used.** A field that
may be used but is not permitted is decided by a grant without fields: such a grant adds only the defaults. -/
theorem permittedFields_agrees_with_can (ab : Ability) (a s i : Value) (D : List Text) (f : Text) (P : List Value)
    (hP : ab.permittedFields a s (.list (D.map .str)) i = .ok P) :
    (Value.str f ∈ P → ab.can a s i (.str f) = .ok true) ∧
    (f ∈ D → (Value.str f ∈ P ↔ ab.can a s i (.str f) = .ok true)) ∧
    (Value.str f ∉ P → ab.can a s i (.str f) = .ok true →
      ∃ p r, ab.relevant a s i (.str f) = .ok (some p) ∧ ab.rules[p]? = some r ∧ r.inverted = false ∧
        r.fields = none) := by
  obtain ⟨ha, hs⟩ := hashable_of_permittedFields_eq_ok hP
  rw [can_eq_lastWins ab i _ ha hs, Except.ok.injEq, mem_permittedFields_iff hP]
  refine ⟨lastWins_le_of_picks (fun r => ⟨fun h1 h2 => ?_, fun h1 h2 => ?_⟩) _ id, fun hf => ?_, fun hnot hcan => ?_⟩
  · -- a rule that decides about the field decides the request
    simp only [Bool.and_eq_true] at h1
    obtain ⟨⟨hc, hfit⟩, ht⟩ := h1
    have : r.applicable a s i (.str f) = true := by
      simp [Rule.applicable, Rule.appliesTo, hc, hfit, fitsField_str_of_touchesField r _ f ht]
    rw [this] at h2
    cases h2
  · -- a rule that decides the request but not about the field is a grant without fields
    simp only [Rule.applicable, Rule.appliesTo, Bool.and_eq_true] at h1
    obtain ⟨hc, hfit, hff⟩ := h1
    simp only [hc, hfit, Bool.true_and] at h2
    exact grant_of_fitsField_str r _ f hff h2
  · -- for a default field both folds pick the same rules
    have hsel : (fun r : Rule => r.concerns a s && r.fitsConditions i && r.touchesField (D.map .str) (.str f)) =
        (fun r : Rule => r.applicable a s i (.str f)) := by
      funext r
      rw [touchesField_str_of_mem r hf, Rule.applicable, Rule.appliesTo, Bool.and_assoc]
    rw [hsel]
  · -- the deciding rule is a grant; were it scoped, it would also be the last to decide about the field
    obtain ⟨p, r, hrel, hr, hgrant, happ, hlast⟩ := deciding_grant_of_lastWins ab i _ ha hs hcan
    refine ⟨p, r, hrel, hr, hgrant, ?_⟩
    by_contra hfs
    apply hnot
    rw [lastWins_touchesField_of_last _ f hr happ hfs hlast, hgrant]
    rfl

/-- A grant of reading users and a denial of reading their passwords, with the defaults `email` and `password`: the
field `name` may be read but is not permitted, and the grant without fields decides. -/
theorem permittedFields_agrees_with_can_users :
    ({ index := .ofRules [⟨"read", "User", none, none, false, none⟩, ⟨"read", "User", some ["password"], none, true,
        none⟩], defaultMessage := .null } : Ability).permittedFields (.str "read") (.str "User")
        (.list ((["email", "password"] : List Text).map .str)) .null = .ok [.str "email"] ∧
    ((Value.str "name" ∈ [Value.str "email"] →
        ({ index := .ofRules [⟨"read", "User", none, none, false, none⟩, ⟨"read", "User", some ["password"], none,
          true, none⟩], defaultMessage := .null } : Ability).can (.str "read") (.str "User") .null (.str "name") =
          .ok true) ∧
      ((("name" : String) : Text) ∈ (["email", "password"] : List Text) →
        (Value.str "name" ∈ [Value.str "email"] ↔
          ({ index := .ofRules [⟨"read", "User", none, none, false, none⟩, ⟨"read", "User", some ["password"], none,
            true, none⟩], defaultMessage := .null } : Ability).can (.str "read") (.str "User") .null
            (.str "name") = .ok true)) ∧
      (Value.str "name" ∉ [Value.str "email"] →
        ({ index := .ofRules [⟨"read", "User", none, none, false, none⟩, ⟨"read", "User", some ["password"], none,
          true, none⟩], defaultMessage := .null } : Ability).can (.str "read") (.str "User") .null (.str "name") =
          .ok true →
        ∃ p r, ({ index := .ofRules [⟨"read", "User", none, none, false, none⟩, ⟨"read", "User", some ["password"],
            none, true, none⟩], defaultMessage := .null } : Ability).relevant (.str "read") (.str "User") .null
            (.str "name") = .ok (some p) ∧
          [(⟨"read", "User", none, none, false, none⟩ : Rule), ⟨"read", "User", some ["password"], none, true,
            none⟩][p]? = some r ∧ r.inverted = false ∧ r.fields = none)) :=
  ⟨rfl, permittedFields_agrees_with_can _ _ _ _ _ _ _ rfl⟩

end Ability

end RoleRules
