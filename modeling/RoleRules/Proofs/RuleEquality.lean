import RoleRules.Proofs.DataEquality
import RoleRules.Proofs.Reordering
import RoleRules.Proofs.RecordRoundTrip
/-!
# RuleEquality — equal rules are interchangeable

Two rules are the same when their names, fields, flag and reason are equal and their conditions are equal as data
(`Rule.same`). Built from data read from JSON, a rule's conditions are frozen (`Rule.Sound`, `Rule.sound_of_build`),
and for such rules that sameness is everything an ability sees:

* comparing two rules, as the interpreter does, answers whether they are the same (`Rule.equals_eq`), which is whether
  their records are equal as data (`Rule.eqv_toRecord`);
* the same rules share a hash (`Rule.hash_eq_of_same`);
* the same rules are *interchangeable* (`Rule.interchangeable_of_same`): what a condition's path finds satisfies equal
  required values alike, so every matching question gets one answer; and abilities of interchangeable rules in the
  same places answer every question alike (`Ability.sameAnswers_of_forall₂`);
* rules written differently, keys of their conditions in another order at any level and numbers of one magnitude
  written differently, are the same (`Rule.same_of_rearranged`).

Main statement (`Rule.equal_rules_interchangeable`).
-/

namespace RoleRules

namespace Value

/-- Two equal mappings of frozen data pass a test of every entry alike, when the test gives the same answer to equal
values under one key. -/
theorem all_congr_of_eqv {cs cs' : List (Text × Value)} (hcs : Frozen (.dict cs)) (hcs' : Frozen (.dict cs'))
    (h : eqv (.dict cs) (.dict cs') = true) (P : Text × Value → Bool)
    (hP : ∀ k x y, Frozen x → Frozen y → eqv x y = true → P (k, x) = P (k, y)) : cs.all P = cs'.all P := by
  cases hcs with
  | dict hk hes =>
  cases hcs' with
  | dict hk' hes' =>
  have hrel := lookup_rel_of_eqv hk h
  rw [Bool.eq_iff_iff, List.all_eq_true, List.all_eq_true]
  -- each entry of one side has an equal value under its key on the other
  constructor
  · rintro hall ⟨k, y⟩ hy
    have hr := hrel k
    rw [(lookup_eq_some_iff_mem hk').2 hy] at hr
    obtain ⟨x, hx, hxy⟩ := rel_some_right hr
    rw [← hP k x y (hes _ (mem_of_lookup hx)) (hes' _ hy) hxy]
    exact hall (k, x) (mem_of_lookup hx)
  · rintro hall ⟨k, x⟩ hx
    have hr := hrel k
    rw [(lookup_eq_some_iff_mem hk).2 hx] at hr
    obtain ⟨y, hy, hxy⟩ := rel_some_left hr
    rw [hP k x y (hes _ hx) (hes' _ (mem_of_lookup hy)) hxy]
    exact hall (k, y) (mem_of_lookup hy)

end Value

namespace Object

open Value (Frozen)

theorem eqv_of_number {v : Value} {p : Value.Number} (hv : v.number? = some p) (o : Object) (ho : ∀ a, o ≠ data a) :
    o.eqv v = false := by
  cases v <;> simp only [Value.number?, reduceCtorEq] at hv <;> cases o <;> first | rfl | exact absurd rfl (ho _)

theorem eqvItems_congr {xs ys : List Value} (h : List.Forall₂ (fun x y => ∀ o : Object, o.eqv x = o.eqv y) xs ys) :
    ∀ os : List Object, eqvItems os xs = eqvItems os ys := by
  induction h with
  | nil => intro os; rfl
  | cons hxy _ ih =>
    intro os
    cases os with
    | nil => rfl
    | cons o os => simp only [eqvItems, hxy o, ih os]

/-- **Every object answers two equal frozen values alike.** -/
theorem eqv_congr {e : Value} (he : Frozen e) :
    ∀ {e'}, Frozen e' → e.eqv e' = true → ∀ o : Object, o.eqv e = o.eqv e' := by
  have hnum : ∀ {e e' : Value} {p : Value.Number}, Frozen e → Frozen e' → e.eqv e' = true → e.number? = some p →
      ∀ o : Object, o.eqv e = o.eqv e' := by
    intro e e' p he he' h hp o
    obtain ⟨q, hq, -⟩ := (Value.eqv_number_left hp).1 h
    cases o with
    | data a => exact ((Value.alike_of_eqv he he' h) a).1
    | _ =>
      rw [eqv_of_number hp, eqv_of_number hq]
      all_goals exact fun _ h => by cases h
  induction he with
  | null => intro e' _ h; rw [Value.eqv_null_left.1 h]; exact fun _ => rfl
  | bool b => intro e' he' h; exact hnum (.bool b) he' h rfl
  | int n => intro e' he' h; exact hnum (.int n) he' h rfl
  | float hx => intro e' he' h; exact hnum (.float hx) he' h rfl
  | str s => intro e' _ h; rw [(Value.eqv_str_left s e').1 h]; exact fun _ => rfl
  | @tuple xs hxs ih =>
    intro e' he' h o
    obtain ⟨ys, rfl, hxy⟩ := Value.eqv_tuple_left.1 h
    cases he' with
    | tuple hys =>
    cases o with
    | data a => exact ((Value.alike_of_eqv (.tuple hxs) (.tuple hys) h) a).1
    | tuple os => exact eqvItems_congr (Value.forall₂_of_eqvItems hxy fun x hx y hy hxy => ih x hx (hys y hy) hxy) os
    | _ => rfl
  | @dict es hk hes _ =>
    intro e' he' h o
    obtain ⟨fs, rfl, -⟩ := Value.eqv_dict_left.1 h
    cases o with
    | data a => exact ((Value.alike_of_eqv (.dict hk hes) he' h) a).1
    | _ => rfl

theorem eqDirect_of_frozen {e : Value} (he : Frozen e) (o : Object) : o.eqDirect e = o.eqv e := by
  cases o with
  | data a => exact Value.eqDirect_of_frozen he a
  | _ => rfl

theorem memberOf_congr {es es' : List Value}
    (h : List.Forall₂ (fun e e' => Frozen e ∧ Frozen e' ∧ e.eqv e' = true) es es') (o : Object) :
    o.memberOf es = o.memberOf es' := by
  induction h with
  | nil => cases o <;> rfl
  | @cons e e' es es' hee _ ih =>
    obtain ⟨he, he', hee⟩ := hee
    cases o with
    | data a =>
      simp only [memberOf, Value.memberOf, List.any_cons] at ih ⊢
      rw [((Value.alike_of_eqv he he' hee) a).2, ih]
    | _ =>
      simp only [memberOf, List.any_cons] at ih ⊢
      rw [eqv_congr he he' hee, ih]

end Object

namespace Rule

open Value (Frozen)

theorem satisfies_of_frozen {e : Value} (he : Frozen e) (hne : ∀ xs, e ≠ .tuple xs) (o : Object) :
    satisfies o e = o.eqv e := by
  have hsat : satisfies o e = o.eqDirect e := by
    cases e with
    | tuple xs => exact absurd rfl (hne xs)
    | list xs => cases he
    | _ => rfl
  rw [hsat, Object.eqDirect_of_frozen he]

/-- **What a path finds satisfies two equal frozen required values alike.** -/
theorem satisfies_congr {e e' : Value} (he : Frozen e) (he' : Frozen e') (h : e.eqv e' = true) (o : Object) :
    satisfies o e = satisfies o e' := by
  by_cases ht : ∃ xs, e = .tuple xs
  · -- a tuple asks for one of its items, and the items pair off in order
    obtain ⟨xs, rfl⟩ := ht
    obtain ⟨ys, rfl, hxy⟩ := Value.eqv_tuple_left.1 h
    cases he with
    | tuple hxs =>
    cases he' with
    | tuple hys =>
    exact Object.memberOf_congr (Value.forall₂_of_eqvItems hxy fun x hx y hy hxy => ⟨hxs x hx, hys y hy, hxy⟩) o
  · have hne : ∀ xs, e ≠ .tuple xs := fun xs he => ht ⟨xs, he⟩
    have hne' : ∀ ys, e' ≠ .tuple ys := by
      rintro ys rfl
      obtain ⟨zs, rfl, -⟩ := Value.eqv_tuple_right.1 h
      exact hne zs rfl
    rw [satisfies_of_frozen he hne, satisfies_of_frozen he' hne', Object.eqv_congr he he' h]

/-! ## The parts of a rule -/

/-- A rule whose conditions, if it has any, are frozen data (`Value.Frozen`): no lists, no NaN, distinct keys at every
level. The constructor leaves conditions without lists (`Rule.Formed`); from data read from JSON, whose keys are
distinct and whose numbers are never NaN, the rule it builds is sound (`sound_of_build`). -/
def Sound (r : Rule) : Prop := ∀ cs, r.conditions = some cs → Frozen (.dict cs)

theorem parts_eq (r : Rule) :
    r.parts = [.str r.action, .str r.subject, r.fields.elim .null fun fs => .tuple (fs.map .str),
      r.conditions.elim .null .dict, .bool r.inverted, r.reason.elim .null .str] := by
  obtain ⟨a, s, f, c, i, m⟩ := r
  cases f <;> cases c <;> cases m <;> rfl

theorem toRecord_eq (r : Rule) :
    r.toRecord = .dict [(Text.ofString "action", .str r.action), (Text.ofString "subject", .str r.subject),
      (Text.ofString "fields", r.fields.elim .null fun fs => .list (fs.map .str)),
      (Text.ofString "conditions", r.conditions.elim .null fun cs => (Value.dict cs).thaw),
      (Text.ofString "inverted", .bool r.inverted), (Text.ofString "reason", r.reason.elim .null .str)] := by
  obtain ⟨a, s, f, c, i, m⟩ := r
  cases f <;> cases c <;> cases m <;> rfl

section PartEquality

open Value

theorem eqv_str (s t : Text) : eqv (.str s) (.str t) = (s == t) := rfl

theorem eqv_tuple (xs ys : List Value) : eqv (.tuple xs) (.tuple ys) = eqvItems xs ys := rfl

theorem eqv_dict (es fs : List (Text × Value)) :
    eqv (.dict es) (.dict fs) = (es.length == fs.length && eqvEntries es fs) := rfl

theorem eqvItems_map_str (fs gs : List Text) : eqvItems (fs.map .str) (gs.map .str) = (fs == gs) := by
  induction fs generalizing gs with
  | nil => cases gs <;> rfl
  | cons f fs ih => cases gs <;> simp [eqvItems, eqv, ih]

theorem eqv_bool (x y : Bool) : eqv (.bool x) (.bool y) = (x == y) := by
  cases x <;> cases y <;> decide

theorem eqv_fields_part (f g : Option (List Text)) :
    eqv (f.elim .null fun fs => .tuple (fs.map .str)) (g.elim .null fun fs => .tuple (fs.map .str)) = (f == g) := by
  cases f <;> cases g <;> simp [eqv, number?, eqvItems_map_str]

theorem eqv_fields_record (f g : Option (List Text)) :
    eqv (f.elim .null fun fs => .list (fs.map .str)) (g.elim .null fun fs => .list (fs.map .str)) = (f == g) := by
  cases f <;> cases g <;> simp [eqv, number?, eqvItems_map_str]

theorem eqv_conditions_part (c c' : Option (List (Text × Value))) :
    eqv (c.elim .null .dict) (c'.elim .null .dict) = sameConditions c c' := by
  cases c <;> cases c' <;> simp [eqv, number?, sameConditions]

theorem eqv_conditions_record {c c' : Option (List (Text × Value))} (hc : ∀ cs, c = some cs → Frozen (.dict cs))
    (hc' : ∀ cs, c' = some cs → Frozen (.dict cs)) :
    eqv (c.elim .null fun cs => (Value.dict cs).thaw) (c'.elim .null fun cs => (Value.dict cs).thaw) =
      sameConditions c c' := by
  cases c with
  | none => cases c' <;> simp [eqv, number?, sameConditions, thaw]
  | some cs =>
    cases c' with
    | none => simp [eqv, number?, sameConditions, thaw]
    | some cs' => exact eqv_thaw (hc cs rfl) (hc' cs' rfl)

theorem eqv_reason_part (m m' : Option Text) : eqv (m.elim .null .str) (m'.elim .null .str) = (m == m') := by
  cases m <;> cases m' <;> simp [eqv, number?]

end PartEquality

/-- **The parts of two rules are equal as data exactly when the rules are the same.** -/
theorem eqv_parts (a b : Rule) : Value.eqv (.tuple a.parts) (.tuple b.parts) = a.same b := by
  simp only [parts_eq, eqv_tuple, Value.eqvItems, eqv_str, eqv_fields_part, eqv_conditions_part, eqv_bool,
    eqv_reason_part, same, Bool.and_true, Bool.and_assoc]

/-- **The records of two sound rules are equal as data exactly when the rules are the same.** -/
theorem eqv_toRecord {a b : Rule} (ha : a.Sound) (hb : b.Sound) : Value.eqv a.toRecord b.toRecord = a.same b := by
  simp +decide only [toRecord_eq, eqv_dict, List.length_cons, beq_self_eq_true, Bool.true_and, Value.eqvEntries,
    Value.lookup_cons, ↓reduceIte, eqv_str, eqv_fields_record,
    eqv_conditions_record ha hb, eqv_bool, eqv_reason_part, same, Bool.and_true, Bool.and_assoc]

theorem same_eq_true {a b : Rule} : a.same b = true ↔ a.action = b.action ∧ a.subject = b.subject ∧
    a.fields = b.fields ∧ sameConditions a.conditions b.conditions = true ∧ a.inverted = b.inverted ∧
    a.reason = b.reason := by
  simp [same, and_assoc]

theorem sameConditions_eq_true {c c' : Option (List (Text × Value))} :
    sameConditions c c' = true ↔
      (c = none ∧ c' = none) ∨ ∃ cs cs', c = some cs ∧ c' = some cs' ∧ Value.eqv (.dict cs) (.dict cs') = true := by
  cases c <;> cases c' <;> simp [sameConditions]

theorem frozen_parts {r : Rule} (hr : r.Sound) : Frozen (.tuple r.parts) := by
  rw [parts_eq]
  refine .tuple fun x hx => ?_
  simp only [List.mem_cons, List.not_mem_nil, or_false] at hx
  rcases hx with rfl | rfl | rfl | rfl | rfl | rfl
  · exact .str _
  · exact .str _
  · cases r.fields with
    | none => exact .null
    | some fs => exact .tuple fun x hx => by obtain ⟨f, -, rfl⟩ := List.mem_map.1 hx; exact .str f
  · cases hc : r.conditions with
    | none => exact .null
    | some cs => exact hr cs hc
  · exact .bool _
  · cases r.reason with
    | none => exact .null
    | some m => exact .str m

/-- **Comparing two sound rules tells whether they are the same**, unless the comparison goes past the recursion
limit. -/
theorem equals_eq {a b : Rule} (ha : a.Sound) (hb : b.Sound) (d : Nat) :
    a.equals d b = if d + 2 + (Value.comparison (.tuple a.parts) (.tuple b.parts)).2 ≤ recursionLimit then
      .ok (a.same b) else .error (.recursion .comparison) := by
  rw [equals, (Value.comparison_fst (frozen_parts ha) (frozen_parts hb)).1, eqv_parts]

theorem equals_eq_ok {a b : Rule} (ha : a.Sound) (hb : b.Sound) {d : Nat} {t : Bool} (h : a.equals d b = .ok t) :
    t = a.same b := by
  rw [equals_eq ha hb] at h
  split at h
  · exact (Except.ok.inj h).symm
  · cases h

/-- **Two sound rules that are the same have one hash**: their conditions are equal as data. -/
theorem hash_eq_of_same {a b : Rule} (ha : a.Sound) (hb : b.Sound) (h : a.same b = true) : a.hash = b.hash := by
  obtain ⟨hact, hsub, hfld, hcond, hinv, hrsn⟩ := same_eq_true.1 h
  obtain ⟨aa, as, af, ac, ai, ar⟩ := a
  obtain ⟨ba, bs, bf, bc, bi, br⟩ := b
  dsimp only at hact hsub hfld hcond hinv hrsn
  subst hact hsub hfld hinv hrsn
  -- the other parts are equal; conditions are both absent, or equal as data
  rcases sameConditions_eq_true.1 hcond with ⟨rfl, rfl⟩ | ⟨cs, cs', rfl, rfl, hcs⟩
  · rfl
  · simp only [hash, Value.hash_eq_of_eqv (ha cs rfl) (hb cs' rfl) hcs]

/-! ## Rules that answer alike -/

/-- Two rules of which every question an ability asks gets the same answer: the same names, fields, flag and reason,
conditions on both or on neither, and the same instances fitting them. -/
structure Interchangeable (a b : Rule) : Prop where
  action : a.action = b.action
  subject : a.subject = b.subject
  fields : a.fields = b.fields
  inverted : a.inverted = b.inverted
  reason : a.reason = b.reason
  conditioned : a.conditions.isSome = b.conditions.isSome
  fitsInstance : ∀ i, a.fitsInstance i = b.fitsInstance i

namespace Interchangeable

variable {a b : Rule}

theorem refl (r : Rule) : Interchangeable r r := ⟨rfl, rfl, rfl, rfl, rfl, rfl, fun _ => rfl⟩

theorem concerns (h : Interchangeable a b) (x y : Value) : a.concerns x y = b.concerns x y := by
  simp only [Rule.concerns, h.action, h.subject]

theorem fitsConditions (h : Interchangeable a b) (i : Value) : a.fitsConditions i = b.fitsConditions i := by
  have hc := h.conditioned
  unfold Rule.fitsConditions
  -- rules without conditions fit everything; with them, the flag decides for no instance and the conditions otherwise
  cases hca : a.conditions <;> cases hcb : b.conditions <;> rw [hca, hcb] at hc <;> cases hc
  cases i <;> simp only [h.inverted, h.fitsInstance]

theorem fitsField (h : Interchangeable a b) (f : Value) : a.fitsField f = b.fitsField f := by
  simp only [Rule.fitsField, h.fields, h.inverted]

theorem appliesTo (h : Interchangeable a b) (i f : Value) : a.appliesTo i f = b.appliesTo i f := by
  simp only [Rule.appliesTo, h.fitsConditions, h.fitsField]

theorem applicable (h : Interchangeable a b) (x y i f : Value) : a.applicable x y i f = b.applicable x y i f := by
  simp only [Rule.applicable, h.concerns, h.appliesTo]

theorem grantFields (h : Interchangeable a b) (defaults : Value) (S : List Value) :
    a.grantFields defaults S = b.grantFields defaults S := by
  simp only [Rule.grantFields, h.inverted, h.fields]

theorem reasonOf (h : Interchangeable a b) : Rule.reasonOf (some a) = Rule.reasonOf (some b) := by
  simp only [Rule.reasonOf, h.reason]

end Interchangeable

/-- What two lists of interchangeable rules hold at one position: nothing in both, or two interchangeable rules. -/
theorem getElem?_interchangeable {R R' : List Rule} (h : List.Forall₂ Interchangeable R R') (p : Nat) :
    (R[p]? = none ∧ R'[p]? = none) ∨ ∃ a b, R[p]? = some a ∧ R'[p]? = some b ∧ Interchangeable a b := by
  induction h generalizing p with
  | nil => exact .inl ⟨rfl, rfl⟩
  | @cons a b R R' hab _ ih =>
    cases p with
    | zero => exact .inr ⟨a, b, rfl, rfl, hab⟩
    | succ p => simpa only [List.getElem?_cons_succ] using ih p

/-- **Two sound rules that are the same are interchangeable**: an instance fits the conditions of one exactly when it
fits those of the other. -/
theorem interchangeable_of_same {a b : Rule} (ha : a.Sound) (hb : b.Sound) (h : a.same b = true) :
    Interchangeable a b := by
  obtain ⟨hact, hsub, hfld, hcond, hinv, hrsn⟩ := same_eq_true.1 h
  rcases sameConditions_eq_true.1 hcond with ⟨hca, hcb⟩ | ⟨cs, cs', hca, hcb, hcs⟩
  · exact ⟨hact, hsub, hfld, hinv, hrsn, by rw [hca, hcb], fun i => by simp only [fitsInstance, hca, hcb]⟩
  refine ⟨hact, hsub, hfld, hinv, hrsn, by rw [hca, hcb]; rfl, fun i => ?_⟩
  simp only [fitsInstance, hca, hcb]
  -- a condition's path is its key, and what the path finds satisfies equal required values alike
  refine Value.all_congr_of_eqv (ha _ hca) (hb _ hcb) hcs _ fun k x y hx hy hxy => ?_
  cases Object.resolve i (k.splitOn 0x2e) with
  | none => rfl
  | some o => exact satisfies_congr hx hy hxy o

end Rule

theorem foldlM_forall₂ {m : Type → Type} [Monad m] {α β σ : Type} {R : α → β → Prop} {f : σ → α → m σ}
    {g : σ → β → m σ} (hfg : ∀ s a b, R a b → f s a = g s b) {l : List α} {l' : List β} (h : List.Forall₂ R l l') :
    ∀ s, l.foldlM f s = l'.foldlM g s := by
  induction h with
  | nil => intro s; rfl
  | cons hab _ ih => intro s; simp only [List.foldlM_cons, hfg s _ _ hab, ih]

namespace Ability

/-- Two abilities that answer every question alike: the deciding position, the decision, `can`, `cannot` and the
permitted fields, for every request, instance, field and list of default fields. -/
structure SameAnswers (ab ab' : Ability) : Prop where
  relevant : ∀ a s i f, ab.relevant a s i f = ab'.relevant a s i f
  check : ∀ a s i f, ab.check a s i f = ab'.check a s i f
  can : ∀ a s i f, ab.can a s i f = ab'.can a s i f
  cannot : ∀ a s i f, ab.cannot a s i f = ab'.cannot a s i f
  permittedFields : ∀ a s defaults i, ab.permittedFields a s defaults i = ab'.permittedFields a s defaults i

section Pointwise

variable {ab ab' : Ability} (h : List.Forall₂ Rule.Interchangeable ab.rules ab'.rules)
include h

theorem relevant_of_forall₂ (a s i f : Value) : ab.relevant a s i f = ab'.relevant a s i f := by
  by_cases hk : a.unhashableKind? = none ∧ s.unhashableKind? = none
  · rw [relevant_eq ab i f hk.1 hk.2, relevant_eq ab' i f hk.1 hk.2, h.length_eq]
    -- the search reads at each position only whether the rule there is applicable
    congr 2
    funext p
    rcases Rule.getElem?_interchangeable h p with ⟨hx, hy⟩ | ⟨r, r', hx, hy, hr⟩
    · rw [hx, hy]
    · rw [hx, hy, Option.any_some, Option.any_some, hr.applicable]
  · obtain ⟨e, he⟩ := RuleIndex.matching_of_unhashable hk
    rw [relevant_of_rulesFor_error ab i f (he ab.index), relevant_of_rulesFor_error ab' i f (he ab'.index)]

theorem check_of_forall₂ (hm : ab.defaultMessage = ab'.defaultMessage) (a s i f : Value) :
    ab.check a s i f = ab'.check a s i f := by
  have hrel := relevant_of_forall₂ h a s i f
  cases hr : ab.relevant a s i f with
  | error e => rw [check_of_relevant_error ab a s i f hr, check_of_relevant_error ab' a s i f (hrel ▸ hr)]
  | ok p? =>
    rw [check_of_relevant ab a s i f hr, check_of_relevant ab' a s i f (hrel ▸ hr), hm]
    -- the decision reads of the deciding rule only its flag and its reason
    cases p? with
    | none => rfl
    | some p =>
      simp only [Option.bind_some, RuleIndex.rule?]
      rcases Rule.getElem?_interchangeable h p with ⟨hx, hy⟩ | ⟨r, r', hx, hy, hr⟩
      · simp only [rules] at hx hy
        simp only [hx, hy]
      · simp only [rules] at hx hy
        simp only [hx, hy, Option.any_some, hr.inverted, hr.reasonOf]

theorem permittedFields_of_forall₂ (a s defaults i : Value) :
    ab.permittedFields a s defaults i = ab'.permittedFields a s defaults i := by
  by_cases hk : a.unhashableKind? = none ∧ s.unhashableKind? = none
  · rw [permittedFields_eq_foldlM ab defaults i hk.1 hk.2, permittedFields_eq_foldlM ab' defaults i hk.1 hk.2]
    refine foldlM_forall₂ (fun S r r' hr => ?_) h []
    rw [hr.concerns, hr.fitsConditions, hr.grantFields]
  · obtain ⟨e, he⟩ := RuleIndex.matching_of_unhashable hk
    rw [permittedFields_of_rulesFor_error ab i (he ab.index), permittedFields_of_rulesFor_error ab' i (he ab'.index)]

/-- **Abilities of interchangeable rules, in the same places, answer alike.** -/
theorem sameAnswers_of_forall₂ (hm : ab.defaultMessage = ab'.defaultMessage) : SameAnswers ab ab' := by
  have hcheck := check_of_forall₂ h hm
  refine ⟨relevant_of_forall₂ h, hcheck, fun a s i f => ?_, fun a s i f => ?_, permittedFields_of_forall₂ h⟩
  · simp only [can_eq_map_check, hcheck]
  · simp only [cannot, can_eq_map_check, hcheck]

end Pointwise

end Ability

namespace Value

/-! ## Data read from JSON -/

/-- Data as JSON gives it, with no NaN: nothing, truth values, numbers, texts, lists (or tuples) of data, and
mappings with each key once. -/
inductive Plain : Value → Prop
  | null : Plain .null
  | bool (b : Bool) : Plain (.bool b)
  | int (n : Int) : Plain (.int n)
  | float {x : Float} (h : x.isNaN = false) : Plain (.float x)
  | str (s : Text) : Plain (.str s)
  | list {xs : List Value} (h : ∀ x ∈ xs, Plain x) : Plain (.list xs)
  | tuple {xs : List Value} (h : ∀ x ∈ xs, Plain x) : Plain (.tuple xs)
  | dict {es : List (Text × Value)} (hk : (es.map Prod.fst).Nodup) (h : ∀ e ∈ es, Plain e.2) : Plain (.dict es)

theorem freezeAll_eq_map (xs : List Value) : freeze.freezeAll xs = xs.map freeze := by
  induction xs with
  | nil => rfl
  | cons x xs ih => simp only [freeze.freezeAll, List.map_cons, ih]

theorem freezeEntries_eq_map (es : List (Text × Value)) :
    freeze.freezeEntries es = es.map fun e => (e.1, e.2.freeze) := by
  induction es with
  | nil => rfl
  | cons e es ih => simp only [freeze.freezeEntries, List.map_cons, ih]

theorem frozen_freezeAll {xs : List Value} (h : ∀ x ∈ xs, Frozen x.freeze) : ∀ x ∈ freeze.freezeAll xs, Frozen x := by
  intro x hx
  rw [freezeAll_eq_map] at hx
  obtain ⟨y, hy, rfl⟩ := List.mem_map.1 hx
  exact h y hy

/-- **Freezing data read from JSON gives frozen data.** -/
theorem frozen_freeze {v : Value} (h : Plain v) : Frozen v.freeze := by
  induction h with
  | null => exact .null
  | bool b => exact .bool b
  | int n => exact .int n
  | float h => exact .float h
  | str s => exact .str s
  | list _ ih => exact .tuple (frozen_freezeAll ih)
  | tuple _ ih => exact .tuple (frozen_freezeAll ih)
  | @dict es hk _ ih =>
    rw [freeze_dict, freezeEntries_eq_map]
    -- freezing keeps every key and freezes every value
    refine .dict (by simpa [List.map_map, Function.comp_def] using hk) fun e he => ?_
    obtain ⟨e', he', rfl⟩ := List.mem_map.1 he
    exact ih e' he'

end Value

namespace Rule

theorem eq_dict_of_checkConditions {d : Nat} {v : Value} {cs : List (Text × Value)}
    (h : Draft.checkConditions d v = .ok (some cs)) : ∃ es, v = .dict es ∧ cs = Value.freeze.freezeEntries es := by
  cases v with
  | dict es =>
    cases es with
    | nil => cases h
    | cons e rest =>
      rw [Draft.checkConditions_dict_of_ne_nil d (List.cons_ne_nil e rest)] at h
      split at h
      · cases h
        exact ⟨_, rfl, rfl⟩
      · cases h
  | _ => cases h

/-- **A rule built from data read from JSON is sound.** -/
theorem sound_of_build {d : Nat} {dr : Draft} {r : Rule} (hr : dr.build d = .ok r) (hp : dr.conditions.Plain) :
    r.Sound := by
  intro cs hcs
  obtain ⟨-, -, -, hc, -, -⟩ := Draft.build_eq_ok.1 hr
  rw [hcs] at hc
  obtain ⟨es, hes, rfl⟩ := eq_dict_of_checkConditions hc
  rw [hes] at hp
  exact Value.frozen_freeze hp

/-! ## Rules written differently -/

/-- Two rules that say the same, written differently: the same names, fields, flag and reason, and conditions on both
or on neither that hold the same data, keys in any order at every level and numbers of one magnitude written as
integers, doubles or truth values alike (`Value.Rearranged`). -/
structure Rearranged (a b : Rule) : Prop where
  action : a.action = b.action
  subject : a.subject = b.subject
  fields : a.fields = b.fields
  inverted : a.inverted = b.inverted
  reason : a.reason = b.reason
  conditions : Option.Rel (fun cs cs' => Value.Rearranged (.dict cs) (.dict cs')) a.conditions b.conditions

theorem same_of_rearranged {a b : Rule} (h : Rearranged a b) : a.same b = true := by
  refine same_eq_true.2 ⟨h.action, h.subject, h.fields, ?_, h.inverted, h.reason⟩
  refine sameConditions_eq_true.2 ?_
  rcases Value.rel_cases h.conditions with ⟨hca, hcb⟩ | ⟨cs, cs', hca, hcb, hr⟩
  · exact .inl ⟨hca, hcb⟩
  · exact .inr ⟨cs, cs', hca, hcb, Value.eqv_of_rearranged hr⟩

/-- **Equal rules are interchangeable.** For two sound rules, conditions frozen from data read from JSON:

* whenever comparing them answers, it answers whether their records are equal as data;
* when it answers that they are equal, they share a hash, every question of matching (concerning a request, fitting an
  instance, the conditions, a field, applying to both) gets the same answer of each, and replacing one by the other
  anywhere in a rule list changes no answer of the ability: no deciding position, decision, `can`, `cannot` or
  permitted fields;
* two rules written differently (`Rule.Rearranged`), the keys of their conditions in another order at any level and
  numbers of one magnitude written as integers, doubles or truth values, compare equal, unless the comparison goes
  past the recursion limit. -/
theorem equal_rules_interchangeable {a b : Rule} (ha : a.Sound) (hb : b.Sound) :
    (∀ d t, a.equals d b = .ok t → t = Value.eqv a.toRecord b.toRecord) ∧
    (∀ d, a.equals d b = .ok true →
      a.hash = b.hash ∧ (∀ x y, a.concerns x y = b.concerns x y) ∧ (∀ i, a.fitsInstance i = b.fitsInstance i) ∧
      (∀ i, a.fitsConditions i = b.fitsConditions i) ∧ (∀ f, a.fitsField f = b.fitsField f) ∧
      (∀ i f, a.appliesTo i f = b.appliesTo i f) ∧
      ∀ (P Q : List Rule) (m : Value),
        Ability.SameAnswers (.ofIndex (.ofRules (P ++ a :: Q)) m) (.ofIndex (.ofRules (P ++ b :: Q)) m)) ∧
    (Rearranged a b → ∀ d, a.equals d b = .ok true ∨ a.equals d b = .error (.recursion .comparison)) := by
  refine ⟨fun d t h => (equals_eq_ok ha hb h).trans (eqv_toRecord ha hb).symm, fun d h => ?_, fun hr d => ?_⟩
  · have hsame : a.same b = true := (equals_eq_ok ha hb h).symm
    have hi := interchangeable_of_same ha hb hsame
    refine ⟨hash_eq_of_same ha hb hsame, hi.concerns, hi.fitsInstance, hi.fitsConditions, hi.fitsField, hi.appliesTo,
      fun P Q m => Ability.sameAnswers_of_forall₂ ?_ rfl⟩
    -- the two lists differ only in the one place, where the rules are interchangeable
    have hrefl : ∀ R : List Rule, List.Forall₂ Interchangeable R R := fun R =>
      List.forall₂_same.2 fun r _ => Interchangeable.refl r
    exact List.rel_append (hrefl P) (.cons hi (hrefl Q))
  · rw [equals_eq ha hb, same_of_rearranged hr]
    split
    · exact .inl rfl
    · exact .inr rfl

/-- A rule asking that `x` be `1` and `y` be `"z"`, and the same rule with the keys the other way round and `x` asked
to be `true`: they compare equal, share a hash, and either may stand in a rule list for the other. -/
theorem equal_rules_interchangeable_reordered :
    Rearranged ⟨"read", "Post", none, some [("x", .int 1), ("y", .str "z")], false, none⟩
      ⟨"read", "Post", none, some [("y", .str "z"), ("x", .bool true)], false, none⟩ ∧
    Rule.equals 0 ⟨"read", "Post", none, some [("x", .int 1), ("y", .str "z")], false, none⟩
      ⟨"read", "Post", none, some [("y", .str "z"), ("x", .bool true)], false, none⟩ = .ok true ∧
    Rule.hash ⟨"read", "Post", none, some [("x", .int 1), ("y", .str "z")], false, none⟩ =
      Rule.hash ⟨"read", "Post", none, some [("y", .str "z"), ("x", .bool true)], false, none⟩ ∧
    ∀ (P Q : List Rule) (m : Value),
      Ability.SameAnswers
        (.ofIndex (.ofRules (P ++ ⟨"read", "Post", none, some [("x", .int 1), ("y", .str "z")], false, none⟩ :: Q)) m)
        (.ofIndex (.ofRules (P ++
          ⟨"read", "Post", none, some [("y", .str "z"), ("x", .bool true)], false, none⟩ :: Q)) m) := by
  have ha : Rule.Sound ⟨"read", "Post", none, some [("x", .int 1), ("y", .str "z")], false, none⟩ := by
    rintro cs ⟨⟩
    exact .dict (by decide) (by simp only [List.forall_mem_cons]; exact ⟨.int 1, .str _, nofun⟩)
  have hb : Rule.Sound ⟨"read", "Post", none, some [("y", .str "z"), ("x", .bool true)], false, none⟩ := by
    rintro cs ⟨⟩
    exact .dict (by decide) (by simp only [List.forall_mem_cons]; exact ⟨.str _, .bool true, nofun⟩)
  have he : Rule.equals 0 ⟨"read", "Post", none, some [("x", .int 1), ("y", .str "z")], false, none⟩
      ⟨"read", "Post", none, some [("y", .str "z"), ("x", .bool true)], false, none⟩ = .ok true := by
    simp +decide [equals, parts, Value.comparison, Value.comparisonItems, Value.comparisonItem,
      Value.comparisonEntries_cons, Value.comparisonEntries, Value.sameObject, Value.lookup_cons, recursionLimit,
      Value.eqv, Value.number?, Value.Number.eq]
  obtain ⟨hh, -, -, -, -, -, hab⟩ := (equal_rules_interchangeable ha hb).2.1 0 he
  refine ⟨⟨rfl, rfl, rfl, rfl, rfl, .some (.dict (by decide) (by decide) fun k x y hx hy => ?_)⟩, he, hh, hab⟩
  -- the two keys hold the same text and the numbers `1` and `true`
  by_cases hkx : k = Text.ofString "x"
  · subst hkx
    simp +decide only [Value.lookup_cons, ↓reduceIte, Option.some.injEq] at hx hy
    subst hx hy
    exact .number rfl rfl rfl
  · by_cases hky : k = Text.ofString "y"
    · subst hky
      simp +decide only [Value.lookup_cons, ↓reduceIte, Option.some.injEq] at hx hy
      subst hx hy
      exact .str _
    · simp [Value.lookup, Ne.symm hkx, Ne.symm hky] at hx

end Rule

end RoleRules
