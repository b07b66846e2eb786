import RoleRules.Proofs.RecordRoundTrip
/-!
# RecordChecks — which records make a rule, and which check refuses the others

A rule is made from a record (`Rule.ofRecord`): a mapping whose keys are among the six part names, whose action and
subject are texts with something besides blanks, whose fields are nothing or a list of non-empty texts, whose conditions
are nothing or a mapping, whose inversion flag is absent or a truth value, and whose reason is nothing or a text
(`Draft.Documented`). The checks run in that order and the first that fails names the error (`Draft.Refused`,
`Rule.RecordRefused`).

One more condition is not written in any check: conditions are frozen where the rule is built, recursively, so a
non-empty mapping nested deeper than the interpreter's stack allows is refused at the conditions step, by the
interpreter and not by a check (`Draft.FreezesAt`, `record_refused_though_documented`).

Main statement (`record_checks_in_order`): a record makes a rule exactly when it passes every documented check and its
conditions freeze where the rule is built; otherwise the first failing check gives the error. A rule made holds the
record's parts as the checks leave them (`Rule.Represents`): fields nothing or a non-empty list of non-empty names,
conditions nothing or the given non-empty mapping frozen, and the given flag.
-/
namespace RoleRules

section Except

variable {ε α : Type}

/-- A computation whose only error is `e₀` fails exactly when it does not succeed, and then with `e₀`. -/
theorem eq_error_iff {x : Except ε α} {P : Prop} {e e₀ : ε} (hok : (∃ a, x = .ok a) ↔ P)
    (herr : ∀ e', x = .error e' → e' = e₀) : x = .error e ↔ ¬ P ∧ e = e₀ := by
  cases x with
  | error e' =>
    rw [← hok, herr e' rfl, Except.error.injEq]
    refine ⟨fun h => ⟨?_, h.symm⟩, fun h => h.2.symm⟩
    rintro ⟨_, ha⟩
    cases ha
  | ok a =>
    simp only [reduceCtorEq, false_iff, not_and]
    exact fun hn => absurd (hok.1 ⟨a, rfl⟩) hn

end Except

namespace Draft

/-! ## What each check accepts -/

/-- An action or subject that passes: a text with something besides blanks. -/
def NameOk (v : Value) : Prop := ∃ t, v = .str t ∧ t.isBlank = false

/-- A field name that passes: a non-empty text. -/
def FieldNameOk (v : Value) : Prop := ∃ t, v = .str t ∧ t.isEmpty = false

/-- A field scope that passes: nothing, or a list (or tuple) of names that pass. -/
def FieldsOk (v : Value) : Prop := v = .null ∨ ∃ xs, (v = .list xs ∨ v = .tuple xs) ∧ ∀ x ∈ xs, FieldNameOk x

/-- Conditions of the documented shape: nothing, or a mapping. -/
def ConditionsShape (v : Value) : Prop := v = .null ∨ ∃ es, v = .dict es

/-- An inversion flag that passes: a truth value. -/
def FlagOk (v : Value) : Prop := ∃ b, v = .bool b

/-- A reason that passes: nothing, or a text. -/
def ReasonOk (v : Value) : Prop := v = .null ∨ ∃ t, v = .str t

/-- The documented checks of a draft's six parts. -/
structure Documented (dr : Draft) : Prop where
  action : NameOk dr.action
  subject : NameOk dr.subject
  fields : FieldsOk dr.fields
  conditions : ConditionsShape dr.conditions
  inverted : FlagOk dr.inverted
  reason : ReasonOk dr.reason

/-- The draft's conditions, when they are a non-empty mapping, freeze `d` steps deep. -/
def FreezesAt (d : Nat) (dr : Draft) : Prop :=
  ∀ es, dr.conditions = .dict es → es ≠ [] → freezes d (.dict es) = true

/-! ## What each check refuses, and with which error -/

/-- How a field scope is refused: not a list at all, or at its first name that does not pass. -/
inductive FieldsRefused : Value → RuleError → Prop where
  | notList {v : Value} : v ≠ .null → (∀ xs, v ≠ .list xs) → (∀ xs, v ≠ .tuple xs) → FieldsRefused v (.fieldsNotList v)
  | badName {v x : Value} {pre post : List Value} : (v = .list (pre ++ x :: post) ∨ v = .tuple (pre ++ x :: post)) →
      (∀ y ∈ pre, FieldNameOk y) → ¬ FieldNameOk x → FieldsRefused v (.badFieldName x)

/-- How conditions are refused `d` steps deep: not a mapping, or a non-empty mapping too deep to freeze there. -/
inductive ConditionsRefused (d : Nat) : Value → RuleError → Prop where
  | notMapping {v : Value} : v ≠ .null → (∀ es, v ≠ .dict es) → ConditionsRefused d v (.conditionsNotMapping v)
  | tooDeep {es : List (Text × Value)} : es ≠ [] → freezes d (.dict es) = false →
      ConditionsRefused d (.dict es) .conditionsTooDeep

/-- How a draft is refused `d` steps deep: by the first part, in the order action, subject, fields, conditions, flag,
reason, that does not pass. -/
inductive Refused (d : Nat) (dr : Draft) : RuleError → Prop where
  | action : ¬ NameOk dr.action → Refused d dr (.blankName .action dr.action)
  | subject : NameOk dr.action → ¬ NameOk dr.subject → Refused d dr (.blankName .subject dr.subject)
  | fields {e : RuleError} : NameOk dr.action → NameOk dr.subject → FieldsRefused dr.fields e → Refused d dr e
  | conditions {e : RuleError} : NameOk dr.action → NameOk dr.subject → FieldsOk dr.fields →
      ConditionsRefused d dr.conditions e → Refused d dr e
  | inverted : NameOk dr.action → NameOk dr.subject → FieldsOk dr.fields → ConditionsShape dr.conditions →
      dr.FreezesAt d → ¬ FlagOk dr.inverted → Refused d dr (.invertedNotFlag dr.inverted)
  | reason : NameOk dr.action → NameOk dr.subject → FieldsOk dr.fields → ConditionsShape dr.conditions →
      dr.FreezesAt d → FlagOk dr.inverted → ¬ ReasonOk dr.reason → Refused d dr (.reasonNotText dr.reason)

/-! ## Each check against its predicates -/

theorem checkName_succeeds {slot : NameSlot} {v : Value} : (∃ t, checkName slot v = .ok t) ↔ NameOk v :=
  exists_congr fun _ => checkName_eq_ok

theorem checkName_eq_error {slot : NameSlot} {v : Value} {e : RuleError} :
    checkName slot v = .error e ↔ ¬ NameOk v ∧ e = .blankName slot v := by
  refine eq_error_iff checkName_succeeds fun e' h => ?_
  cases v with
  | str s =>
    cases hb : s.isBlank with
    | true => simpa [checkName, hb, eq_comm] using h
    | false => simp [checkName, hb] at h
  | _ => simpa [checkName, eq_comm] using h

theorem checkFieldNames_eq_ok {xs : List Value} {ns : List Text} :
    checkFieldNames xs = .ok ns ↔ xs = ns.map .str ∧ ∀ t ∈ ns, t.isEmpty = false := by
  induction xs generalizing ns with
  | nil => cases ns <;> simp [checkFieldNames]
  | cons x rest ih =>
    cases x with
    | str s =>
      cases hs : s.isEmpty with
      | true =>
        simp only [checkFieldNames, hs, if_true, reduceCtorEq, false_iff, not_and]
        intro hx
        cases ns with
        | nil => cases hx
        | cons n ns =>
          simp only [List.map_cons, List.cons.injEq, Value.str.injEq] at hx
          rw [← hx.1]
          simp [hs]
      | false =>
        cases hrest : checkFieldNames rest with
        | error e =>
          simp only [checkFieldNames, hs, Bool.false_eq_true, if_false, hrest, Except.map, reduceCtorEq, false_iff,
            not_and]
          intro hx hne
          cases ns with
          | nil => cases hx
          | cons n ns =>
            simp only [List.map_cons, List.cons.injEq] at hx
            have := ih.2 ⟨hx.2, fun t ht => hne t (List.mem_cons_of_mem n ht)⟩
            rw [hrest] at this
            cases this
        | ok ms =>
          simp only [checkFieldNames, hs, Bool.false_eq_true, if_false, hrest, Except.map, Except.ok.injEq]
          obtain ⟨hms, hne⟩ := ih.1 hrest
          constructor
          · rintro rfl
            refine ⟨by simp [hms], fun t ht => ?_⟩
            rcases List.mem_cons.1 ht with rfl | ht
            · exact hs
            · exact hne t ht
          · rintro ⟨hx, -⟩
            cases ns with
            | nil => cases hx
            | cons n ns =>
              simp only [List.map_cons, List.cons.injEq, Value.str.injEq] at hx
              obtain ⟨rfl, hrest'⟩ := hx
              rw [hms, List.map_inj_right (fun _ _ h => Value.str.inj h)] at hrest'
              rw [hrest']
    | _ =>
      simp only [checkFieldNames, reduceCtorEq, false_iff, not_and]
      intro hx
      cases ns with
      | nil => cases hx
      | cons n ns => cases hx

/-- The first element of `y :: xs` that fails `p` is `y`, or it is the first of `xs` and `y` passes. -/
theorem firstBad_cons {α : Type} {p : α → Prop} {y x : α} {xs : List α} :
    (∃ pre post, y :: xs = pre ++ x :: post ∧ (∀ z ∈ pre, p z) ∧ ¬ p x) ↔
      (¬ p y ∧ x = y) ∨ (p y ∧ ∃ pre post, xs = pre ++ x :: post ∧ (∀ z ∈ pre, p z) ∧ ¬ p x) := by
  constructor
  · rintro ⟨pre, post, h, hpre, hx⟩
    cases pre with
    | nil =>
      simp only [List.nil_append, List.cons.injEq] at h
      exact .inl ⟨h.1 ▸ hx, h.1.symm⟩
    | cons z pre =>
      simp only [List.cons_append, List.cons.injEq] at h
      obtain ⟨rfl, h⟩ := h
      exact .inr ⟨hpre y List.mem_cons_self, pre, post, h, fun z hz => hpre z (List.mem_cons_of_mem y hz), hx⟩
  · rintro (⟨hy, rfl⟩ | ⟨hy, pre, post, h, hpre, hx⟩)
    · exact ⟨[], xs, rfl, by simp, hy⟩
    · refine ⟨y :: pre, post, by rw [h]; rfl, fun z hz => ?_, hx⟩
      rcases List.mem_cons.1 hz with rfl | hz
      · exact hy
      · exact hpre z hz

/-- Field names are refused at the first one that does not pass. -/
theorem checkFieldNames_eq_error {xs : List Value} {e : RuleError} :
    checkFieldNames xs = .error e ↔
      ∃ x, (∃ pre post, xs = pre ++ x :: post ∧ (∀ y ∈ pre, FieldNameOk y) ∧ ¬ FieldNameOk x) ∧
        e = .badFieldName x := by
  induction xs with
  | nil => simp [checkFieldNames]
  | cons y rest ih =>
    simp only [firstBad_cons]
    -- a head that passes hands the question to the rest; any other head is the error
    by_cases hy : FieldNameOk y
    · obtain ⟨s, rfl, hs⟩ := hy
      simp only [checkFieldNames, hs, Bool.false_eq_true, if_false]
      cases hrest : checkFieldNames rest with
      | error e' =>
        rw [hrest, Except.error.injEq] at ih
        simp only [Except.map, Except.error.injEq]
        rw [ih]
        constructor
        · rintro ⟨x, hx, he⟩
          exact ⟨x, .inr ⟨⟨s, rfl, hs⟩, hx⟩, he⟩
        · rintro ⟨x, (⟨hn, -⟩ | ⟨-, hx⟩), he⟩
          · exact absurd ⟨s, rfl, hs⟩ hn
          · exact ⟨x, hx, he⟩
      | ok ms =>
        rw [hrest] at ih
        simp only [Except.map, reduceCtorEq, false_iff, not_exists, not_and]
        intro x hx he
        rcases hx with ⟨hn, -⟩ | ⟨-, hx⟩
        · exact hn ⟨s, rfl, hs⟩
        · cases ih.2 ⟨x, hx, he⟩
    · have herr : checkFieldNames (y :: rest) = .error (.badFieldName y) := by
        cases y with
        | str s =>
          have hs : s.isEmpty = true := by
            cases h : s.isEmpty with
            | true => rfl
            | false => exact absurd ⟨s, rfl, h⟩ hy
          simp [checkFieldNames, hs]
        | _ => rfl
      rw [herr, Except.error.injEq]
      constructor
      · rintro rfl
        exact ⟨y, .inl ⟨hy, rfl⟩, rfl⟩
      · rintro ⟨x, (⟨-, rfl⟩ | ⟨hy', -⟩), rfl⟩
        · rfl
        · exact absurd hy' hy

theorem checkFieldNames_succeeds {xs : List Value} : (∃ ns, checkFieldNames xs = .ok ns) ↔ ∀ x ∈ xs, FieldNameOk x := by
  constructor
  · rintro ⟨ns, h⟩ x hx
    obtain ⟨rfl, hne⟩ := checkFieldNames_eq_ok.1 h
    obtain ⟨t, ht, rfl⟩ := List.mem_map.1 hx
    exact ⟨t, rfl, hne t ht⟩
  · intro hall
    cases h : checkFieldNames xs with
    | ok ns => exact ⟨ns, rfl⟩
    | error e =>
      obtain ⟨x, ⟨pre, post, rfl, -, hx⟩, -⟩ := checkFieldNames_eq_error.1 h
      exact absurd (hall x (by simp)) hx

/-- The scope made from checked names: nothing for no names. -/
theorem checkFields_seq {xs : List Value} :
    (checkFieldNames xs).map (fun ns => if ns.isEmpty then none else some ns) =
      match checkFieldNames xs with
      | .ok ns => .ok (if ns.isEmpty then none else some ns)
      | .error e => .error e := by
  cases checkFieldNames xs <;> rfl

theorem checkFields_succeeds {v : Value} : (∃ f, checkFields v = .ok f) ↔ FieldsOk v := by
  have hseq : ∀ xs, (∃ f, (checkFieldNames xs).map (fun ns => if ns.isEmpty then none else some ns) = .ok f) ↔
      ∀ x ∈ xs, FieldNameOk x := fun xs => by
    rw [← checkFieldNames_succeeds, checkFields_seq]
    cases checkFieldNames xs <;> simp
  unfold FieldsOk
  cases v with
  | null => simp [checkFields]
  | list xs => simpa [checkFields] using hseq xs
  | tuple xs => simpa [checkFields] using hseq xs
  | _ => simp [checkFields]

theorem checkFields_eq_error {v : Value} {e : RuleError} : checkFields v = .error e ↔ FieldsRefused v e := by
  -- a list or tuple is refused at its first bad name, anything else but nothing at once
  have hseq : ∀ xs, (checkFieldNames xs).map (fun ns => if ns.isEmpty then none else some ns) = .error e ↔
      checkFieldNames xs = .error e := fun xs => by
    rw [checkFields_seq]
    cases checkFieldNames xs <;> simp
  constructor
  · intro h
    cases v with
    | null => cases h
    | list xs =>
      obtain ⟨x, ⟨pre, post, rfl, hpre, hx⟩, rfl⟩ := checkFieldNames_eq_error.1 ((hseq xs).1 h)
      exact .badName (.inl rfl) hpre hx
    | tuple xs =>
      obtain ⟨x, ⟨pre, post, rfl, hpre, hx⟩, rfl⟩ := checkFieldNames_eq_error.1 ((hseq xs).1 h)
      exact .badName (.inr rfl) hpre hx
    | _ =>
      simp only [checkFields, Except.error.injEq] at h
      subst h
      exact .notList (by simp) (by simp) (by simp)
  · intro h
    cases h with
    | notList hn hl ht =>
      cases v with
      | null => exact absurd rfl hn
      | list xs => exact absurd rfl (hl xs)
      | tuple xs => exact absurd rfl (ht xs)
      | _ => rfl
    | badName hv hpre hx =>
      rcases hv with rfl | rfl
      · exact (hseq _).2 (checkFieldNames_eq_error.2 ⟨_, ⟨_, _, rfl, hpre, hx⟩, rfl⟩)
      · exact (hseq _).2 (checkFieldNames_eq_error.2 ⟨_, ⟨_, _, rfl, hpre, hx⟩, rfl⟩)

theorem checkConditions_succeeds {d : Nat} {v : Value} :
    (∃ c, checkConditions d v = .ok c) ↔
      ConditionsShape v ∧ ∀ es, v = .dict es → es ≠ [] → freezes d (.dict es) = true := by
  unfold ConditionsShape
  cases v with
  | null => simp [checkConditions]
  | dict es =>
    cases es with
    | nil => simp [checkConditions]
    | cons e rest =>
      rw [checkConditions_dict_of_ne_nil d (List.cons_ne_nil e rest)]
      cases hf : freezes d (.dict (e :: rest)) <;> simp [hf]
  | _ => simp [checkConditions]

theorem checkConditions_eq_error {d : Nat} {v : Value} {e : RuleError} :
    checkConditions d v = .error e ↔ ConditionsRefused d v e := by
  constructor
  · intro h
    cases v with
    | null => cases h
    | dict es =>
      cases es with
      | nil => cases h
      | cons x rest =>
        rw [checkConditions_dict_of_ne_nil d (List.cons_ne_nil x rest)] at h
        cases hf : freezes d (.dict (x :: rest)) with
        | true => rw [if_pos hf] at h; cases h
        | false =>
          rw [hf, if_neg Bool.false_ne_true, Except.error.injEq] at h
          subst h
          exact .tooDeep (List.cons_ne_nil x rest) hf
    | _ =>
      simp only [checkConditions, Except.error.injEq] at h
      subst h
      exact .notMapping (by simp) (by simp)
  · intro h
    cases h with
    | notMapping hn hd =>
      cases v with
      | null => exact absurd rfl hn
      | dict es => exact absurd rfl (hd es)
      | _ => rfl
    | tooDeep hne hf =>
      rw [checkConditions_dict_of_ne_nil d hne, hf, if_neg Bool.false_ne_true]

theorem checkInverted_succeeds {v : Value} : (∃ b, checkInverted v = .ok b) ↔ FlagOk v := by
  unfold FlagOk
  cases v <;> simp [checkInverted]

theorem checkInverted_eq_error {v : Value} {e : RuleError} :
    checkInverted v = .error e ↔ ¬ FlagOk v ∧ e = .invertedNotFlag v :=
  eq_error_iff checkInverted_succeeds fun e' h => by cases v <;> simp_all [checkInverted, eq_comm]

theorem checkReason_succeeds {v : Value} : (∃ m, checkReason v = .ok m) ↔ ReasonOk v := by
  unfold ReasonOk
  cases v <;> simp [checkReason]

theorem checkReason_eq_error {v : Value} {e : RuleError} :
    checkReason v = .error e ↔ ¬ ReasonOk v ∧ e = .reasonNotText v :=
  eq_error_iff checkReason_succeeds fun e' h => by cases v <;> simp_all [checkReason, eq_comm]

/-! ## A whole draft -/

/-- **A draft builds exactly when it passes the documented checks and its conditions freeze where it is built.** -/
theorem build_succeeds_iff {d : Nat} {dr : Draft} : (∃ r, dr.build d = .ok r) ↔ dr.Documented ∧ dr.FreezesAt d := by
  constructor
  · rintro ⟨r, h⟩
    obtain ⟨ha, hs, hf, hc, hi, hm⟩ := build_eq_ok.1 h
    obtain ⟨hshape, hfreeze⟩ := checkConditions_succeeds.1 ⟨_, hc⟩
    exact ⟨⟨checkName_succeeds.1 ⟨_, ha⟩, checkName_succeeds.1 ⟨_, hs⟩, checkFields_succeeds.1 ⟨_, hf⟩, hshape,
      checkInverted_succeeds.1 ⟨_, hi⟩, checkReason_succeeds.1 ⟨_, hm⟩⟩, hfreeze⟩
  · rintro ⟨hdoc, hfreeze⟩
    obtain ⟨a, ha⟩ := checkName_succeeds.2 hdoc.action
    obtain ⟨s, hs⟩ := checkName_succeeds.2 hdoc.subject
    obtain ⟨f, hf⟩ := checkFields_succeeds.2 hdoc.fields
    obtain ⟨c, hc⟩ := checkConditions_succeeds.2 ⟨hdoc.conditions, hfreeze⟩
    obtain ⟨i, hi⟩ := checkInverted_succeeds.2 hdoc.inverted
    obtain ⟨m, hm⟩ := checkReason_succeeds.2 hdoc.reason
    exact ⟨⟨a, s, f, c, i, m⟩, build_eq_ok.2 ⟨ha, hs, hf, hc, hi, hm⟩⟩

section Steps

variable {ε α β : Type} {x : Except ε α} {f : α → Except ε β}

theorem bind_of_ok {a : α} (h : x = .ok a) : x >>= f = f a := by rw [h]; rfl

theorem bind_of_error {e : ε} (h : x = .error e) : x >>= f = .error e := by rw [h]; rfl

end Steps

/-- **A draft is refused with the error of its first part that does not pass.** -/
theorem build_eq_error_iff {d : Nat} {dr : Draft} {e : RuleError} : dr.build d = .error e ↔ dr.Refused d e := by
  constructor
  · intro h
    unfold build at h
    -- take the parts in order; the first that fails is the error, and if none fails the draft builds
    cases ha : checkName .action dr.action with
    | error e' =>
      rw [bind_of_error ha, Except.error.injEq] at h
      obtain ⟨hn, rfl⟩ := checkName_eq_error.1 ha
      exact h ▸ .action hn
    | ok a =>
      have hA := checkName_succeeds.1 ⟨a, ha⟩
      rw [bind_of_ok ha] at h
      cases hs : checkName .subject dr.subject with
      | error e' =>
        rw [bind_of_error hs, Except.error.injEq] at h
        obtain ⟨hn, rfl⟩ := checkName_eq_error.1 hs
        exact h ▸ .subject hA hn
      | ok s =>
        have hS := checkName_succeeds.1 ⟨s, hs⟩
        rw [bind_of_ok hs] at h
        cases hf : checkFields dr.fields with
        | error e' =>
          rw [bind_of_error hf, Except.error.injEq] at h
          exact h ▸ .fields hA hS (checkFields_eq_error.1 hf)
        | ok fs =>
          have hF := checkFields_succeeds.1 ⟨fs, hf⟩
          rw [bind_of_ok hf] at h
          cases hc : checkConditions d dr.conditions with
          | error e' =>
            rw [bind_of_error hc, Except.error.injEq] at h
            exact h ▸ .conditions hA hS hF (checkConditions_eq_error.1 hc)
          | ok cs =>
            obtain ⟨hC, hZ⟩ := checkConditions_succeeds.1 ⟨cs, hc⟩
            rw [bind_of_ok hc] at h
            cases hi : checkInverted dr.inverted with
            | error e' =>
              rw [bind_of_error hi, Except.error.injEq] at h
              obtain ⟨hn, rfl⟩ := checkInverted_eq_error.1 hi
              exact h ▸ .inverted hA hS hF hC hZ hn
            | ok b =>
              rw [bind_of_ok hi] at h
              cases hm : checkReason dr.reason with
              | error e' =>
                rw [bind_of_error hm, Except.error.injEq] at h
                obtain ⟨hn, rfl⟩ := checkReason_eq_error.1 hm
                exact h ▸ .reason hA hS hF hC hZ (checkInverted_succeeds.1 ⟨b, hi⟩) hn
              | ok m =>
                rw [bind_of_ok hm] at h
                cases h
  · intro h
    unfold build
    cases h with
    | action hn => rw [bind_of_error (checkName_eq_error.2 ⟨hn, rfl⟩)]
    | subject hA hn =>
      obtain ⟨a, ha⟩ := checkName_succeeds.2 hA
      rw [bind_of_ok ha, bind_of_error (checkName_eq_error.2 ⟨hn, rfl⟩)]
    | fields hA hS hF =>
      obtain ⟨a, ha⟩ := checkName_succeeds.2 hA
      obtain ⟨s, hs⟩ := checkName_succeeds.2 hS
      rw [bind_of_ok ha, bind_of_ok hs, bind_of_error (checkFields_eq_error.2 hF)]
    | conditions hA hS hF hC =>
      obtain ⟨a, ha⟩ := checkName_succeeds.2 hA
      obtain ⟨s, hs⟩ := checkName_succeeds.2 hS
      obtain ⟨fs, hf⟩ := checkFields_succeeds.2 hF
      rw [bind_of_ok ha, bind_of_ok hs, bind_of_ok hf, bind_of_error (checkConditions_eq_error.2 hC)]
    | inverted hA hS hF hC hZ hn =>
      obtain ⟨a, ha⟩ := checkName_succeeds.2 hA
      obtain ⟨s, hs⟩ := checkName_succeeds.2 hS
      obtain ⟨fs, hf⟩ := checkFields_succeeds.2 hF
      obtain ⟨cs, hc⟩ := checkConditions_succeeds.2 ⟨hC, hZ⟩
      rw [bind_of_ok ha, bind_of_ok hs, bind_of_ok hf, bind_of_ok hc, bind_of_error (checkInverted_eq_error.2 ⟨hn, rfl⟩)]
    | reason hA hS hF hC hZ hI hn =>
      obtain ⟨a, ha⟩ := checkName_succeeds.2 hA
      obtain ⟨s, hs⟩ := checkName_succeeds.2 hS
      obtain ⟨fs, hf⟩ := checkFields_succeeds.2 hF
      obtain ⟨cs, hc⟩ := checkConditions_succeeds.2 ⟨hC, hZ⟩
      obtain ⟨b, hi⟩ := checkInverted_succeeds.2 hI
      rw [bind_of_ok ha, bind_of_ok hs, bind_of_ok hf, bind_of_ok hc, bind_of_ok hi,
        bind_of_error (checkReason_eq_error.2 ⟨hn, rfl⟩)]

end Draft

namespace Rule

open Draft

/-- The keys of a record that name no part of a rule, sorted, as the refusal lists them. -/
def unknownKeys (es : List (Text × Value)) : List Text :=
  Text.sortTexts ((es.map Prod.fst).filter (· ∉ partNames))

theorem ofRecord_dict (d : Nat) (es : List (Text × Value)) :
    ofRecord d (.dict es) =
      if (unknownKeys es).isEmpty then (Draft.ofEntries es).build (d + 1) else .error (.unknownKeys (unknownKeys es)) :=
  rfl

/-- How a record is refused when its rule is read `d` steps deep: not a mapping, keys that name no part, or the first
part that does not pass where the rule is built, one step deeper. -/
inductive RecordRefused (d : Nat) : Value → RuleError → Prop where
  | notMapping {v : Value} : (∀ es, v ≠ .dict es) → RecordRefused d v (.recordNotMapping v)
  | unknownKeys {es : List (Text × Value)} : unknownKeys es ≠ [] → RecordRefused d (.dict es) (.unknownKeys (unknownKeys es))
  | parts {es : List (Text × Value)} {e : RuleError} : unknownKeys es = [] → (Draft.ofEntries es).Refused (d + 1) e →
      RecordRefused d (.dict es) e

/-- A rule holds a draft's parts as the checks leave them: the names as given, fields nothing (for none or no names)
or the given non-empty list of non-empty names, conditions nothing (for none or an empty mapping) or the given non-empty
mapping frozen, the given flag and the given reason. -/
structure Represents (dr : Draft) (r : Rule) : Prop where
  action : dr.action = .str r.action
  subject : dr.subject = .str r.subject
  fields : (r.fields = none ∧ (dr.fields = .null ∨ dr.fields = .list [] ∨ dr.fields = .tuple [])) ∨
    ∃ fs, r.fields = some fs ∧ fs ≠ [] ∧ (∀ t ∈ fs, t.isEmpty = false) ∧
      (dr.fields = .list (fs.map .str) ∨ dr.fields = .tuple (fs.map .str))
  conditions : (r.conditions = none ∧ (dr.conditions = .null ∨ dr.conditions = .dict [])) ∨
    ∃ es, dr.conditions = .dict es ∧ es ≠ [] ∧ r.conditions = some (Value.freeze.freezeEntries es)
  inverted : dr.inverted = .bool r.inverted
  reason : (dr.reason = .null ∧ r.reason = none) ∨ ∃ t, dr.reason = .str t ∧ r.reason = some t

theorem fields_of_checkFields {v : Value} {f : Option (List Text)} (h : checkFields v = .ok f) :
    (f = none ∧ (v = .null ∨ v = .list [] ∨ v = .tuple [])) ∨
      ∃ fs, f = some fs ∧ fs ≠ [] ∧ (∀ t ∈ fs, t.isEmpty = false) ∧ (v = .list (fs.map .str) ∨ v = .tuple (fs.map .str)) := by
  -- names that pass become the scope; no names, no scope
  have hseq : ∀ xs, (checkFieldNames xs).map (fun ns => if ns.isEmpty then none else some ns) = .ok f →
      (f = none ∧ xs = []) ∨ ∃ fs, f = some fs ∧ fs ≠ [] ∧ (∀ t ∈ fs, t.isEmpty = false) ∧ xs = fs.map .str := by
    intro xs hxs
    rw [checkFields_seq] at hxs
    cases hn : checkFieldNames xs with
    | error e => rw [hn] at hxs; cases hxs
    | ok ns =>
      rw [hn, Except.ok.injEq] at hxs
      obtain ⟨rfl, hne⟩ := checkFieldNames_eq_ok.1 hn
      cases ns with
      | nil => exact .inl ⟨hxs.symm, rfl⟩
      | cons n ns => exact .inr ⟨n :: ns, hxs.symm, List.cons_ne_nil n ns, hne, rfl⟩
  cases v with
  | null => exact .inl ⟨by simpa [checkFields] using h.symm, .inl rfl⟩
  | list xs =>
    rcases hseq xs h with ⟨hf, rfl⟩ | ⟨fs, hf, hne, hnames, rfl⟩
    · exact .inl ⟨hf, .inr (.inl rfl)⟩
    · exact .inr ⟨fs, hf, hne, hnames, .inl rfl⟩
  | tuple xs =>
    rcases hseq xs h with ⟨hf, rfl⟩ | ⟨fs, hf, hne, hnames, rfl⟩
    · exact .inl ⟨hf, .inr (.inr rfl)⟩
    · exact .inr ⟨fs, hf, hne, hnames, .inr rfl⟩
  | _ => cases h

theorem conditions_of_checkConditions {d : Nat} {v : Value} {c : Option (List (Text × Value))}
    (h : checkConditions d v = .ok c) :
    (c = none ∧ (v = .null ∨ v = .dict [])) ∨ ∃ es, v = .dict es ∧ es ≠ [] ∧ c = some (Value.freeze.freezeEntries es) := by
  cases v with
  | null => exact .inl ⟨by simpa [checkConditions] using h.symm, .inl rfl⟩
  | dict es =>
    cases es with
    | nil => exact .inl ⟨by simpa [checkConditions] using h.symm, .inr rfl⟩
    | cons x rest =>
      rw [checkConditions_dict_of_ne_nil d (List.cons_ne_nil x rest)] at h
      split at h
      · cases h
        exact .inr ⟨x :: rest, rfl, List.cons_ne_nil x rest, rfl⟩
      · cases h
  | _ => cases h

/-- **A built rule holds its draft's parts as the checks leave them.** -/
theorem represents_of_build {d : Nat} {dr : Draft} {r : Rule} (h : dr.build d = .ok r) : Represents dr r := by
  obtain ⟨ha, hs, hf, hc, hi, hm⟩ := build_eq_ok.1 h
  refine ⟨(checkName_eq_ok.1 ha).1, (checkName_eq_ok.1 hs).1, fields_of_checkFields hf,
    conditions_of_checkConditions hc, ?_, ?_⟩
  · cases hv : dr.inverted <;> simp_all [checkInverted]
  · cases hv : dr.reason <;> simp_all [checkReason]

/-- **A record makes a rule exactly when it passes every documented check and its conditions freeze where the rule is
built; otherwise the first check that fails gives the error.** For every value read `d` steps deep: it makes a rule
exactly when it is a mapping whose keys all name parts of a rule, whose parts pass their documented checks (names with
something besides blanks, fields nothing or a list of non-empty names, conditions nothing or a mapping, the flag a
truth value, the reason nothing or a text), and whose conditions, when a non-empty mapping, freeze one step deeper,
where the rule is built. It is refused exactly as `RecordRefused` says: not a mapping, then keys naming no part (sorted),
then action, subject, fields (not a list, or the first bad name), conditions (not a mapping, or too deep to freeze),
flag and reason, the first that fails. A rule it makes holds the record's parts as the checks leave them. -/
theorem record_checks_in_order (d : Nat) (v : Value) :
    ((∃ r, ofRecord d v = .ok r) ↔
      ∃ es, v = .dict es ∧ unknownKeys es = [] ∧ (Draft.ofEntries es).Documented ∧
        (Draft.ofEntries es).FreezesAt (d + 1)) ∧
    (∀ e, ofRecord d v = .error e ↔ RecordRefused d v e) ∧
    (∀ r, ofRecord d v = .ok r → ∃ es, v = .dict es ∧ Represents (Draft.ofEntries es) r) := by
  cases v with
  | dict es =>
    rw [ofRecord_dict]
    by_cases hk : unknownKeys es = []
    · -- no unknown keys: the record is its draft, built one step deeper
      have hk' : (unknownKeys es).isEmpty = true := by rw [hk]; rfl
      rw [if_pos hk']
      refine ⟨?_, fun e => ?_, fun r h => ⟨es, rfl, represents_of_build h⟩⟩
      · rw [build_succeeds_iff]
        constructor
        · exact fun h => ⟨es, rfl, hk, h⟩
        · rintro ⟨es', he, -, h⟩
          cases he
          exact h
      · rw [build_eq_error_iff]
        constructor
        · exact fun h => .parts hk h
        · intro h
          cases h with
          | notMapping hn => exact absurd rfl (hn es)
          | unknownKeys hne => exact absurd hk hne
          | parts _ h => exact h
    · have hk' : (unknownKeys es).isEmpty = false := by
        cases h : unknownKeys es with
        | nil => exact absurd h hk
        | cons k ks => rfl
      rw [if_neg (by rw [hk']; exact Bool.false_ne_true)]
      refine ⟨?_, fun e => ?_, fun r h => by cases h⟩
      · simp only [reduceCtorEq, exists_false, false_iff, not_exists, not_and]
        intro es' he hk''
        cases he
        exact absurd hk'' hk
      · rw [Except.error.injEq]
        constructor
        · rintro rfl
          exact .unknownKeys hk
        · intro h
          cases h with
          | notMapping hn => exact absurd rfl (hn es)
          | unknownKeys _ => rfl
          | parts hk'' _ => exact absurd hk'' hk
  | _ =>
    refine ⟨by simp [ofRecord], fun e => ⟨fun h => ?_, fun h => ?_⟩, fun r h => by cases h⟩
    · simp only [ofRecord, Except.error.injEq] at h
      subst h
      exact .notMapping (by simp)
    · cases h
      rfl

/-- **A record that passes every documented check can still be refused.** At the depth of a request's handler, a
record whose conditions are 494 mappings nested under one key passes every documented check, yet making its rule fails:
the conditions are too deep to freeze where the rule is built, which the interpreter reports as a recursion fault and
not as a refused rule. -/
theorem record_refused_though_documented :
    unknownKeys [("action", .str "a"), ("subject", .str "s"), ("conditions", nestedCondition 494)] = [] ∧
    (Draft.ofEntries [("action", .str "a"), ("subject", .str "s"), ("conditions", nestedCondition 494)]).Documented ∧
    ofRecord 4 (.dict [("action", .str "a"), ("subject", .str "s"), ("conditions", nestedCondition 494)]) =
      .error .conditionsTooDeep ∧
    Fault.ofRule .conditionsTooDeep = .recursion .comparison := by
  have hdoc : (Draft.ofEntries [("action", .str "a"), ("subject", .str "s"),
      ("conditions", nestedCondition 494)]).Documented :=
    ⟨⟨"a", rfl, by decide⟩, ⟨"s", rfl, by decide⟩, .inl rfl, .inr ⟨_, nestedCondition_succ 493⟩, ⟨false, rfl⟩, .inl rfl⟩
  have hk : unknownKeys [("action", .str "a"), ("subject", .str "s"), ("conditions", nestedCondition 494)] = [] := rfl
  refine ⟨hk, hdoc, ?_, rfl⟩
  rw [ofRecord_dict, hk, List.isEmpty_nil, if_pos rfl, build_eq_error_iff]
  refine .conditions hdoc.action hdoc.subject hdoc.fields ?_
  -- one step below the handler the conditions no longer freeze
  show ConditionsRefused 5 (nestedCondition 494) .conditionsTooDeep
  rw [nestedCondition_succ]
  refine .tooDeep (List.cons_ne_nil _ _) ?_
  rw [← nestedCondition_succ]
  simp [freezes, height_nestedCondition, recursionLimit]

end Rule

end RoleRules
