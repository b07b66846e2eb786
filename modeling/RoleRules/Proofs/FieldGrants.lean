import RoleRules.Proofs.FieldAccess
/-!
# FieldGrants — a permitted field is granted and not revoked since

The permitted set is folded over the rules concerning a request (what `rulesFor` finds, `RuleIndex.matching_eq_filter`),
skipping those whose conditions the instance does not meet. Read one name at a time, the fold keeps a name exactly when
some grant among those rules contributes it (it names the field, or has no fields and the field is a default) and no
later denial among them revokes it (it names the field, or has no fields at all).

Main statement (`mem_permittedFields_iff_granted`): for every ability, request whose names can be keys, list of default
fields and instance, the permitted set is computed and holds exactly those names; so it holds only defaults and fields
that a grant concerning the request names.
-/
namespace RoleRules

/-- A grant contributes `x` to the permitted set: one of its fields, or one of the defaults when it has none. -/
def Rule.contributes (r : Rule) (D : List Text) (x : Value) : Prop :=
  match r.fields with
  | some fs => x ∈ fs.map .str
  | none => x ∈ D.map .str

/-- A denial revokes `x`: one of its fields, or anything when it has none. -/
def Rule.revokes (r : Rule) (x : Value) : Prop :=
  match r.fields with
  | some fs => x ∈ fs.map .str
  | none => True

theorem touchesField_grant {r : Rule} (hg : r.inverted = false) (D : List Text) (x : Value) :
    r.touchesField (D.map .str) x = true ↔ r.contributes D x := by
  unfold Rule.touchesField Rule.contributes
  cases r.fields with
  | some fs => exact Value.memberOf_map_str x fs
  | none => simpa [hg] using Value.memberOf_map_str x D

theorem touchesField_denial {r : Rule} (hd : r.inverted = true) (D : List Value) (x : Value) :
    r.touchesField D x = true ↔ r.revokes x := by
  unfold Rule.touchesField Rule.revokes
  cases r.fields with
  | some fs => exact Value.memberOf_map_str x fs
  | none => simp [hd]

/-! ## Last wins, read as "granted and not revoked since" -/

section LastWins

variable {sel : Rule → Bool}

theorem lastWins_and_filter (p : Rule → Bool) (b : Bool) (R : List Rule) :
    lastWins (fun r => p r && sel r) b R = lastWins sel b (R.filter p) := by
  induction R generalizing b with
  | nil => rfl
  | cons r R ih =>
    cases hp : p r <;> simp [hp, ih]

/-- **A last-wins fold from a refusal allows exactly when some picked grant has no picked denial after it.** -/
theorem lastWins_false_iff (R : List Rule) :
    lastWins sel false R = true ↔ ∃ (j : Nat) (g : Rule), R[j]? = some g ∧ sel g = true ∧ g.inverted = false ∧
      ∀ (k : Nat) (r : Rule), j < k → R[k]? = some r → sel r = true → r.inverted = false := by
  rw [lastWins_eq_find?]
  cases hfind : (List.range R.length).reverse.find? (fun p => (R[p]?).any sel) with
  | none =>
    -- nothing is picked, so there is no grant to find
    simp only [Bool.false_eq_true, false_iff, not_exists, not_and]
    intro j g hg hsel _
    have hj : j < R.length := (List.getElem?_eq_some_iff.1 hg).1
    have := List.find?_eq_none.1 hfind j (List.mem_reverse.2 (List.mem_range.2 hj))
    simp [hg, hsel] at this
  | some p =>
    obtain ⟨hp, hpick, hlast⟩ := find?_reverse_range_eq_some.1 hfind
    obtain ⟨g, hg⟩ : ∃ g, R[p]? = some g := ⟨R[p], List.getElem?_eq_getElem hp⟩
    rw [hg, Option.any_some] at hpick
    simp only [hg, Option.any_some, Bool.not_eq_true']
    constructor
    · -- the last picked rule is a grant, with nothing picked after it
      intro hgrant
      refine ⟨p, g, hg, hpick, hgrant, fun k r hk hr hsel => ?_⟩
      have := hlast k hk (List.getElem?_eq_some_iff.1 hr).1
      rw [hr, Option.any_some, hsel] at this
      cases this
    · -- a grant with no picked denial after it is at or before the last picked rule
      rintro ⟨j, g', hg', hsel', hgrant', hafter⟩
      have hj : j < R.length := (List.getElem?_eq_some_iff.1 hg').1
      by_cases hjp : j = p
      · subst hjp
        rw [hg] at hg'
        cases hg'
        exact hgrant'
      · have hlt : j < p := by
          by_contra hle
          have := hlast j (by omega) hj
          rw [hg', Option.any_some, hsel'] at this
          cases this
        exact hafter p g hlt hg hpick

end LastWins

namespace Ability

/-- **A name is permitted exactly when a grant contributes it and no denial revokes it since.** For every request
whose names can be keys, every list of default fields and every instance, the permitted set is computed; among the rules
concerning the request whose conditions the instance meets, a name is in it exactly when some grant contributes it and
no later denial revokes it. So every permitted name is a default or a field named by a grant concerning the request. -/
theorem mem_permittedFields_iff_granted (ab : Ability) (a s i : Value) (D : List Text) (ha : a.unhashableKind? = none)
    (hs : s.unhashableKind? = none) :
    ∃ P, ab.permittedFields a s (.list (D.map .str)) i = .ok P ∧
      (∀ x, x ∈ P ↔ ∃ (j : Nat) (g : Rule), (ab.rules.filter (·.concerns a s))[j]? = some g ∧ g.fitsConditions i = true ∧
        g.inverted = false ∧ g.contributes D x ∧
        ∀ (k : Nat) (r : Rule), j < k → (ab.rules.filter (·.concerns a s))[k]? = some r → r.fitsConditions i = true →
          r.inverted = true → ¬ r.revokes x) ∧
      ∀ x ∈ P, x ∈ D.map .str ∨
        ∃ g ∈ ab.rules, g.concerns a s = true ∧ g.inverted = false ∧ ∃ fs, g.fields = some fs ∧ x ∈ fs.map .str := by
  obtain ⟨P, hP, hmem⟩ := permittedFields_mem ab D i ha hs
  -- membership as "granted and not revoked since" over the rules concerning the request
  have hiff : ∀ x, x ∈ P ↔ ∃ (j : Nat) (g : Rule), (ab.rules.filter (·.concerns a s))[j]? = some g ∧
      g.fitsConditions i = true ∧ g.inverted = false ∧ g.contributes D x ∧
      ∀ (k : Nat) (r : Rule), j < k → (ab.rules.filter (·.concerns a s))[k]? = some r → r.fitsConditions i = true →
        r.inverted = true → ¬ r.revokes x := by
    intro x
    have hsel : (fun r : Rule => r.concerns a s && r.fitsConditions i && r.touchesField (D.map .str) x) =
        fun r => r.concerns a s && (r.fitsConditions i && r.touchesField (D.map .str) x) := by
      funext r
      rw [Bool.and_assoc]
    rw [hmem, hsel, lastWins_and_filter, lastWins_false_iff]
    refine exists_congr fun j => exists_congr fun g => and_congr_right fun _ => ?_
    simp only [Bool.and_eq_true]
    constructor
    · rintro ⟨⟨hfit, htouch⟩, hgrant, hafter⟩
      refine ⟨hfit, hgrant, (touchesField_grant hgrant D x).1 htouch, fun k r hk hr hfit' hden hrev => ?_⟩
      have := hafter k r hk hr ⟨hfit', (touchesField_denial hden _ x).2 hrev⟩
      rw [hden] at this
      cases this
    · rintro ⟨hfit, hgrant, hcontrib, hafter⟩
      refine ⟨⟨hfit, (touchesField_grant hgrant D x).2 hcontrib⟩, hgrant, fun k r hk hr ⟨hfit', htouch⟩ => ?_⟩
      cases hinv : r.inverted with
      | false => rfl
      | true => exact absurd ((touchesField_denial hinv _ x).1 htouch) (hafter k r hk hr hfit' hinv)
  refine ⟨P, hP, hiff, fun x hx => ?_⟩
  -- the grant that keeps a name is a default-taking grant or one that names the field
  obtain ⟨j, g, hg, -, hgrant, hcontrib, -⟩ := (hiff x).1 hx
  have hgmem := List.mem_filter.1 (List.mem_of_getElem? hg)
  unfold Rule.contributes at hcontrib
  cases hfs : g.fields with
  | none => rw [hfs] at hcontrib; exact .inl hcontrib
  | some fs =>
    rw [hfs] at hcontrib
    exact .inr ⟨g, hgmem.1, hgmem.2, hgrant, fs, hfs, hcontrib⟩

/-- A grant of reading users with the defaults `email` and `name`, then a denial of their `name`: only `email` is
permitted, granted by the first rule and not revoked by the second. -/
theorem mem_permittedFields_iff_granted_users :
    (Value.str "read").unhashableKind? = none ∧ (Value.str "User").unhashableKind? = none ∧
    ∃ P, ({ index := .ofRules [⟨"read", "User", none, none, false, none⟩, ⟨"read", "User", some ["name"], none, true,
        none⟩], defaultMessage := .null } : Ability).permittedFields (.str "read") (.str "User")
        (.list ((["email", "name"] : List Text).map .str)) .null = .ok P ∧
      (∀ x, x ∈ P ↔ ∃ (j : Nat) (g : Rule), ([(⟨"read", "User", none, none, false, none⟩ : Rule),
          ⟨"read", "User", some ["name"], none, true, none⟩].filter (·.concerns (.str "read") (.str "User")))[j]? =
            some g ∧ g.fitsConditions .null = true ∧ g.inverted = false ∧ g.contributes ["email", "name"] x ∧
        ∀ (k : Nat) (r : Rule), j < k → ([(⟨"read", "User", none, none, false, none⟩ : Rule),
          ⟨"read", "User", some ["name"], none, true, none⟩].filter (·.concerns (.str "read") (.str "User")))[k]? =
            some r → r.fitsConditions .null = true → r.inverted = true → ¬ r.revokes x) ∧
      ∀ x ∈ P, x ∈ (["email", "name"] : List Text).map .str ∨
        ∃ g ∈ [(⟨"read", "User", none, none, false, none⟩ : Rule), ⟨"read", "User", some ["name"], none, true, none⟩],
          g.concerns (.str "read") (.str "User") = true ∧ g.inverted = false ∧ ∃ fs, g.fields = some fs ∧
            x ∈ fs.map .str :=
  ⟨rfl, rfl, mem_permittedFields_iff_granted _ _ _ _ _ rfl rfl⟩

end Ability

end RoleRules
