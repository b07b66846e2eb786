import RoleRules.Rule.Check
/-!
# RecordRoundTrip — a rule read back from its record is the same rule

A rule is kept and shown as its record (`Rule.toRecord`), or as the same parts in the columns of a stored permission
(`Rule.columns`); reading either back builds the rule again from loose parts. The parts come back as the checks left
them: names as they are, fields as a non-empty list, conditions thawed and frozen again. Freezing a thawed copy gives
the frozen value back (`Value.freeze_thaw`, `Value.freeze_freeze`), and thawing or freezing changes no height, so the
only way reading back can fail is the depth at which the conditions are frozen again.

Main statement (`record_round_trip`): for a rule built anywhere, reading it back fails exactly when its conditions are
too deep to freeze where it is read (`Draft.freezes`), and otherwise gives the same rule. So it gives the same rule
wherever it is read no deeper than it was built, and reading a record and writing it again is idempotent. Reading back
one step deeper can fail (`record_round_trip_too_deep`): the constructor accepts conditions nested 494 mappings deep at
the depth of a request's handler, but reading their record there freezes them one step deeper.
-/
namespace RoleRules

section Except

variable {ε α β : Type}

/-- A bind succeeds exactly when both halves do. -/
theorem bind_eq_ok {x : Except ε α} {f : α → Except ε β} {b : β} :
    x >>= f = .ok b ↔ ∃ a, x = .ok a ∧ f a = .ok b := by
  cases x with
  | error e => simp [Bind.bind, Except.bind]
  | ok a => simp [Bind.bind, Except.bind]

theorem pure_eq_ok {a b : α} : (pure a : Except ε α) = .ok b ↔ a = b := by
  simp [pure, Except.pure]

end Except

namespace Value

/-! ## Freezing, thawing and height -/

mutual
/-- Freezing a thawed copy freezes the value itself. -/
theorem freeze_thaw : (v : Value) → (thaw v).freeze = v.freeze
  | .null | .bool _ | .int _ | .float _ | .str _ | .object _ => rfl
  | .list xs => by simp only [thaw, freeze, freezeAll_thawAll xs]
  | .tuple xs => by simp only [thaw, freeze, freezeAll_thawAll xs]
  | .dict es => by simp only [thaw, freeze, freezeEntries_thawEntries es]

theorem freezeAll_thawAll : (xs : List Value) → freeze.freezeAll (thaw.thawAll xs) = freeze.freezeAll xs
  | [] => rfl
  | x :: rest => by simp only [thaw.thawAll, freeze.freezeAll, freeze_thaw x, freezeAll_thawAll rest]

theorem freezeEntries_thawEntries :
    (es : List (Text × Value)) → freeze.freezeEntries (thaw.thawEntries es) = freeze.freezeEntries es
  | [] => rfl
  | (k, x) :: rest => by
    simp only [thaw.thawEntries, freeze.freezeEntries, freeze_thaw x, freezeEntries_thawEntries rest]
end

mutual
/-- Freezing a frozen value changes nothing. -/
theorem freeze_freeze : (v : Value) → v.freeze.freeze = v.freeze
  | .null | .bool _ | .int _ | .float _ | .str _ | .object _ => rfl
  | .list xs => by simp only [freeze, freezeAll_freezeAll xs]
  | .tuple xs => by simp only [freeze, freezeAll_freezeAll xs]
  | .dict es => by simp only [freeze, freezeEntries_freezeEntries es]

theorem freezeAll_freezeAll : (xs : List Value) → freeze.freezeAll (freeze.freezeAll xs) = freeze.freezeAll xs
  | [] => rfl
  | x :: rest => by simp only [freeze.freezeAll, freeze_freeze x, freezeAll_freezeAll rest]

theorem freezeEntries_freezeEntries :
    (es : List (Text × Value)) → freeze.freezeEntries (freeze.freezeEntries es) = freeze.freezeEntries es
  | [] => rfl
  | (k, x) :: rest => by simp only [freeze.freezeEntries, freeze_freeze x, freezeEntries_freezeEntries rest]
end

theorem freeze_dict (es : List (Text × Value)) : (dict es).freeze = dict (freeze.freezeEntries es) := rfl

mutual
theorem height_thaw : (v : Value) → (thaw v).height = v.height
  | .null | .bool _ | .int _ | .float _ | .str _ | .object _ => rfl
  | .list [] | .tuple [] | .dict [] => rfl
  | .list (x :: xs) | .tuple (x :: xs) => congrArg (· + 1) (heightItems_thawAll (x :: xs))
  | .dict ((k, x) :: es) => congrArg (· + 1) (heightEntries_thawEntries ((k, x) :: es))

theorem heightItems_thawAll : (xs : List Value) → heightItems (thaw.thawAll xs) = heightItems xs
  | [] => rfl
  | x :: rest => by simp only [thaw.thawAll, heightItems, height_thaw x, heightItems_thawAll rest]

theorem heightEntries_thawEntries : (es : List (Text × Value)) → heightEntries (thaw.thawEntries es) = heightEntries es
  | [] => rfl
  | (k, x) :: rest => by simp only [thaw.thawEntries, heightEntries, height_thaw x, heightEntries_thawEntries rest]
end

mutual
theorem height_freeze : (v : Value) → v.freeze.height = v.height
  | .null | .bool _ | .int _ | .float _ | .str _ | .object _ => rfl
  | .list [] | .tuple [] | .dict [] => rfl
  | .list (x :: xs) | .tuple (x :: xs) => congrArg (· + 1) (heightItems_freezeAll (x :: xs))
  | .dict ((k, x) :: es) => congrArg (· + 1) (heightEntries_freezeEntries ((k, x) :: es))

theorem heightItems_freezeAll : (xs : List Value) → heightItems (freeze.freezeAll xs) = heightItems xs
  | [] => rfl
  | x :: rest => by simp only [freeze.freezeAll, heightItems, height_freeze x, heightItems_freezeAll rest]

theorem heightEntries_freezeEntries :
    (es : List (Text × Value)) → heightEntries (freeze.freezeEntries es) = heightEntries es
  | [] => rfl
  | (k, x) :: rest => by
    simp only [freeze.freezeEntries, heightEntries, height_freeze x, heightEntries_freezeEntries rest]
end

end Value

namespace Draft

/-! ## The checks a rule's parts passed, passed again -/

theorem freezes_thaw (d : Nat) (v : Value) : freezes d v.thaw = freezes d v := by
  simp only [freezes, Value.height_thaw]

theorem freezes_freeze (d : Nat) (v : Value) : freezes d v.freeze = freezes d v := by
  simp only [freezes, Value.height_freeze]

/-- What freezes deep in the stack freezes higher up. -/
theorem freezes_of_le {d d' : Nat} (hle : d' ≤ d) {v : Value} (h : freezes d v = true) : freezes d' v = true := by
  simp only [freezes, decide_eq_true_eq] at h ⊢
  omega

/-- **A draft builds exactly when each of its six parts passes its check**, and the rule holds what the checks give. -/
theorem build_eq_ok {d : Nat} {dr : Draft} {r : Rule} :
    dr.build d = .ok r ↔ checkName .action dr.action = .ok r.action ∧ checkName .subject dr.subject = .ok r.subject ∧
      checkFields dr.fields = .ok r.fields ∧ checkConditions d dr.conditions = .ok r.conditions ∧
      checkInverted dr.inverted = .ok r.inverted ∧ checkReason dr.reason = .ok r.reason := by
  simp only [build, bind_eq_ok, pure_eq_ok]
  constructor
  · rintro ⟨a, ha, s, hs, f, hf, c, hc, i, hi, m, hm, rfl⟩
    exact ⟨ha, hs, hf, hc, hi, hm⟩
  · rintro ⟨ha, hs, hf, hc, hi, hm⟩
    exact ⟨_, ha, _, hs, _, hf, _, hc, _, hi, _, hm, rfl⟩

theorem checkName_eq_ok {slot : NameSlot} {v : Value} {t : Text} :
    checkName slot v = .ok t ↔ v = .str t ∧ t.isBlank = false := by
  cases v with
  | str s =>
    cases h : s.isBlank with
    | true =>
      simp only [checkName, h, if_true, reduceCtorEq, false_iff, not_and, Value.str.injEq]
      rintro rfl
      simp [h]
    | false =>
      simp only [checkName, h, Bool.false_eq_true, if_false, Except.ok.injEq, Value.str.injEq]
      constructor
      · rintro rfl
        exact ⟨rfl, h⟩
      · rintro ⟨rfl, -⟩
        rfl
  | _ => simp [checkName]

/-- Names that passed their check pass it again, written as texts. -/
theorem checkFieldNames_map_str {xs : List Value} {ns : List Text} (h : checkFieldNames xs = .ok ns) :
    checkFieldNames (ns.map .str) = .ok ns := by
  induction xs generalizing ns with
  | nil =>
    cases h
    rfl
  | cons x rest ih =>
    cases x with
    | str s =>
      cases hs : s.isEmpty with
      | true => simp [checkFieldNames, hs] at h
      | false =>
        cases hrest : checkFieldNames rest with
        | error e => simp [checkFieldNames, hs, hrest, Except.map] at h
        | ok ms =>
          simp only [checkFieldNames, hs, Bool.false_eq_true, if_false, hrest, Except.map, Except.ok.injEq] at h
          subst h
          simp [checkFieldNames, hs, ih hrest, Except.map]
    | _ => simp [checkFieldNames] at h

/-- A field scope that passed its check is a non-empty list of names that pass theirs. -/
theorem checkFields_eq_ok_some {v : Value} {fs : List Text} (h : checkFields v = .ok (some fs)) :
    fs ≠ [] ∧ checkFieldNames (fs.map .str) = .ok fs := by
  have hlist : ∀ xs, (checkFieldNames xs).map (fun ns => if ns.isEmpty then none else some ns) = .ok (some fs) →
      fs ≠ [] ∧ checkFieldNames (fs.map .str) = .ok fs := by
    intro xs hxs
    cases hn : checkFieldNames xs with
    | error e => simp [hn, Except.map] at hxs
    | ok ns =>
      cases hns : ns.isEmpty with
      | true => simp [hn, hns, Except.map] at hxs
      | false =>
        simp only [hn, hns, Except.map, Bool.false_eq_true, if_false, Except.ok.injEq, Option.some.injEq] at hxs
        subst hxs
        exact ⟨by simpa using hns, checkFieldNames_map_str hn⟩
  cases v with
  | list xs => exact hlist xs h
  | tuple xs => exact hlist xs h
  | _ => simp [checkFields] at h

theorem checkConditions_dict_of_ne_nil (d : Nat) {es : List (Text × Value)} (hne : es ≠ []) :
    checkConditions d (.dict es) =
      if freezes d (.dict es) then .ok (some (Value.freeze.freezeEntries es)) else .error .conditionsTooDeep := by
  cases es with
  | nil => exact absurd rfl hne
  | cons e rest => rfl

/-- Conditions that passed their check are a non-empty mapping, frozen, that freezes where it was checked. -/
theorem checkConditions_eq_ok_some {d : Nat} {v : Value} {cs : List (Text × Value)}
    (h : checkConditions d v = .ok (some cs)) :
    cs ≠ [] ∧ Value.freeze.freezeEntries cs = cs ∧ freezes d (.dict cs) = true := by
  cases v with
  | dict es =>
    cases es with
    | nil => cases h
    | cons e rest =>
      rw [checkConditions_dict_of_ne_nil d (List.cons_ne_nil e rest)] at h
      split at h
      · next hfz =>
        cases h
        refine ⟨by simp [Value.freeze.freezeEntries], Value.freezeEntries_freezeEntries _, ?_⟩
        rw [← freezes_freeze] at hfz
        exact hfz
      · cases h
  | _ => simp [checkConditions] at h

/-- Frozen conditions, thawed, pass their check again exactly where they still freeze, and freeze back to themselves. -/
theorem checkConditions_thaw (d : Nat) {cs : List (Text × Value)} (hne : cs ≠ [])
    (hfrozen : Value.freeze.freezeEntries cs = cs) :
    checkConditions d (Value.dict cs).thaw =
      if freezes d (.dict cs) then .ok (some cs) else .error .conditionsTooDeep := by
  have hne' : Value.thaw.thawEntries cs ≠ [] := by
    cases cs with
    | nil => exact absurd rfl hne
    | cons e rest => simp [Value.thaw.thawEntries]
  have hthaw : freezes d (.dict (Value.thaw.thawEntries cs)) = freezes d (.dict cs) := freezes_thaw d (.dict cs)
  rw [show (Value.dict cs).thaw = .dict (Value.thaw.thawEntries cs) from rfl, checkConditions_dict_of_ne_nil d hne',
    hthaw, Value.freezeEntries_thawEntries, hfrozen]

end Draft

namespace Rule

open Draft

/-- **The constructor forms every rule it builds**: the invariants of `Rule.Formed` hold where the rule was built. -/
theorem formed_of_build {b : Nat} {dr : Draft} {r : Rule} (hr : dr.build b = .ok r) : r.Formed b := by
  obtain ⟨ha, hs, hf, hc, -, -⟩ := build_eq_ok.1 hr
  refine ⟨(checkName_eq_ok.1 ha).2, (checkName_eq_ok.1 hs).2, fun fs hfs => ?_, fun cs hcs => ?_⟩
  · rw [hfs] at hf
    exact checkFields_eq_ok_some hf
  · rw [hcs] at hc
    exact checkConditions_eq_ok_some hc

section Formed

variable {b : Nat} {r : Rule}

/-- The columns of a formed rule pass every check again but the conditions', which is done where the rule is read. -/
theorem build_columns (hf : r.Formed b) (d : Nat) :
    r.columns.build d = (checkConditions d r.columns.conditions).map fun cs => { r with conditions := cs } := by
  have hfields : checkFields r.columns.fields = .ok r.fields := by
    cases hfs : r.fields with
    | none => simp [columns, hfs, checkFields]
    | some fs =>
      obtain ⟨hne, hnames⟩ := hf.fields fs hfs
      have hfs' : fs.isEmpty = false := by simpa using hne
      simp [columns, hfs, checkFields, hnames, hfs', Except.map]
  have hreason : checkReason r.columns.reason = .ok r.reason := by
    cases hm : r.reason <;> simp [columns, hm, checkReason]
  have hname : ∀ slot (t : Text), t.isBlank = false → checkName slot (.str t) = .ok t :=
    fun slot t h => checkName_eq_ok.2 ⟨rfl, h⟩
  simp only [build, columns] at hfields hreason ⊢
  rw [hname _ _ hf.action, hname _ _ hf.subject, hfields, hreason]
  cases checkConditions d _ <;> rfl

/-- The conditions of a formed rule, as its columns keep them, pass their check exactly where they freeze. -/
theorem checkConditions_columns (hf : r.Formed b) (d : Nat) :
    checkConditions d r.columns.conditions =
      if r.conditions.all (fun cs => freezes d (.dict cs)) then .ok r.conditions else .error .conditionsTooDeep := by
  cases hcs : r.conditions with
  | none => simp [columns, hcs, checkConditions]
  | some cs =>
    obtain ⟨hne, hfrozen, -⟩ := hf.conditions cs hcs
    simp only [columns, hcs, Option.all_some]
    exact checkConditions_thaw d hne hfrozen

/-- The conditions of a formed rule freeze where it was built. -/
theorem Formed.conditions_freeze (hf : r.Formed b) : r.conditions.all (fun cs => freezes b (.dict cs)) = true := by
  cases hcs : r.conditions with
  | none => rfl
  | some cs => exact (hf.conditions cs hcs).2.2

/-- **Reading a formed rule back from its columns** gives the rule itself, unless its conditions are too deep to
freeze where it is read. -/
theorem readBack_eq (hf : r.Formed b) (d : Nat) :
    r.readBack d = if r.conditions.all (fun cs => freezes d (.dict cs)) then .ok r else .error .conditionsTooDeep := by
  rw [readBack, build_columns hf, checkConditions_columns hf]
  split <;> rfl

theorem readBack_of_le (hf : r.Formed b) {d : Nat} (hle : d ≤ b) : r.readBack d = .ok r := by
  rw [readBack_eq hf, if_pos]
  cases hcs : r.conditions with
  | none => rfl
  | some cs =>
    have := hf.conditions_freeze
    rw [hcs] at this
    rw [Option.all_some] at this ⊢
    exact freezes_of_le hle this

end Formed

/-- Reading a rule's record is reading its columns one step deeper: the record has the six part names only. -/
theorem ofRecord_toRecord (r : Rule) (d : Nat) : ofRecord d r.toRecord = r.readBack (d + 1) := rfl

/-- A record read into a rule was built one step deeper. -/
theorem build_of_ofRecord {d : Nat} {v : Value} {r : Rule} (h : ofRecord d v = .ok r) :
    ∃ dr : Draft, dr.build (d + 1) = .ok r := by
  cases v with
  | dict es =>
    unfold ofRecord at h
    dsimp only at h
    split at h
    · exact ⟨_, h⟩
    · cases h
  | _ => cases h

/-- **A rule read back is the same rule, wherever it is read no deeper than it was built.** For a rule built `b` steps
deep: reading its record `d` steps deep is reading its columns `d + 1` steps deep. Reading its columns fails exactly
when its conditions are too deep to freeze there, and otherwise gives the rule itself; so it gives the rule wherever it
is read no deeper than `b`, and its record wherever the record is read less deep than `b`. Reading any record and
writing the rule again gives a record that reads back to itself. -/
theorem record_round_trip (b : Nat) (dr : Draft) (r : Rule) (hr : dr.build b = .ok r) :
    (∀ d, ofRecord d r.toRecord = r.readBack (d + 1)) ∧
    (∀ d, r.readBack d =
      if r.conditions.all (fun cs => freezes d (.dict cs)) then .ok r else .error .conditionsTooDeep) ∧
    (∀ d, d ≤ b → r.readBack d = .ok r) ∧
    (∀ d, d + 1 ≤ b → ofRecord d r.toRecord = .ok r) ∧
    ∀ d v w, (ofRecord d v).map toRecord = .ok w → (ofRecord d w).map toRecord = .ok w := by
  have hf := formed_of_build hr
  refine ⟨ofRecord_toRecord r, readBack_eq hf, fun d hle => readBack_of_le hf hle,
    fun d hle => (ofRecord_toRecord r d).trans (readBack_of_le hf hle), ?_⟩
  -- a record that reads is read one step deeper, so its rule's record reads back at the same depth
  intro d v w h
  cases hv : ofRecord d v with
  | error e => simp [hv, Except.map] at h
  | ok r' =>
    simp only [hv, Except.map, Except.ok.injEq] at h
    subst h
    obtain ⟨dr', hr'⟩ := build_of_ofRecord hv
    rw [ofRecord_toRecord, readBack_of_le (formed_of_build hr') (Nat.le_refl _)]
    rfl

/-- A rule narrowed to one field and conditioned on a list, built at the depth of a request's handler. -/
theorem record_round_trip_tagged :
    ({ action := .str "read", subject := .str "Post", fields := .list [.str "title"],
        conditions := .dict [("tags", .list [.str "x"])] } : Draft).build 4 =
      .ok ⟨"read", "Post", some ["title"], some [("tags", .tuple [.str "x"])], false, none⟩ ∧
    (∀ d, ofRecord d (⟨"read", "Post", some ["title"], some [("tags", .tuple [.str "x"])], false, none⟩ : Rule).toRecord =
      (⟨"read", "Post", some ["title"], some [("tags", .tuple [.str "x"])], false, none⟩ : Rule).readBack (d + 1)) ∧
    (∀ d, (⟨"read", "Post", some ["title"], some [("tags", .tuple [.str "x"])], false, none⟩ : Rule).readBack d =
      if (some [((Text.ofString "tags"), Value.tuple [.str "x"])]).all (fun cs => freezes d (.dict cs)) then
        .ok ⟨"read", "Post", some ["title"], some [("tags", .tuple [.str "x"])], false, none⟩
      else .error .conditionsTooDeep) ∧
    (∀ d, d ≤ 4 → (⟨"read", "Post", some ["title"], some [("tags", .tuple [.str "x"])], false, none⟩ : Rule).readBack d =
      .ok ⟨"read", "Post", some ["title"], some [("tags", .tuple [.str "x"])], false, none⟩) ∧
    (∀ d, d + 1 ≤ 4 →
      ofRecord d (⟨"read", "Post", some ["title"], some [("tags", .tuple [.str "x"])], false, none⟩ : Rule).toRecord =
        .ok ⟨"read", "Post", some ["title"], some [("tags", .tuple [.str "x"])], false, none⟩) ∧
    ∀ d v w, (ofRecord d v).map toRecord = .ok w → (ofRecord d w).map toRecord = .ok w :=
  ⟨rfl, record_round_trip 4
    { action := .str "read", subject := .str "Post", fields := .list [.str "title"],
      conditions := .dict [("tags", .list [.str "x"])] } _ rfl⟩

/-- Conditions nested `n` mappings deep, each under the key `k`. -/
def nestedCondition : Nat → Value
  | 0 => .dict []
  | n + 1 => .dict [("k", nestedCondition n)]

theorem nestedCondition_succ (n : Nat) : nestedCondition (n + 1) = .dict [("k", nestedCondition n)] := rfl

theorem height_nestedCondition (n : Nat) : (nestedCondition n).height = n := by
  induction n with
  | zero => rfl
  | succ n ih => simp [nestedCondition, Value.height, Value.heightEntries, ih]

/-- The draft of the action `a`, the subject `s` and conditions nested `n + 1` mappings deep builds, `d` steps deep
where those conditions freeze. -/
theorem build_nestedCondition {d n : Nat} (h : freezes d (nestedCondition (n + 1)) = true) :
    (Draft.ofEntries [("action", .str "a"), ("subject", .str "s"), ("conditions", nestedCondition (n + 1))]).build d =
      .ok ⟨"a", "s", none, some (Value.freeze.freezeEntries [("k", nestedCondition n)]), false, none⟩ := by
  have hcond : checkConditions d (nestedCondition (n + 1)) =
      .ok (some (Value.freeze.freezeEntries [("k", nestedCondition n)])) := by
    rw [nestedCondition_succ, checkConditions_dict_of_ne_nil d (List.cons_ne_nil _ _), if_pos]
    rw [← nestedCondition_succ]
    exact h
  exact build_eq_ok.2 ⟨checkName_eq_ok.2 ⟨rfl, rfl⟩, checkName_eq_ok.2 ⟨rfl, rfl⟩, rfl, hcond, rfl, rfl⟩

/-- The same rule built from named parts. -/
theorem ofParts_nestedCondition {d n : Nat} (h : freezes d (nestedCondition (n + 1)) = true) :
    ofParts d [("action", .str "a"), ("subject", .str "s"), ("conditions", nestedCondition (n + 1))] =
      .ok ⟨"a", "s", none, some (Value.freeze.freezeEntries [("k", nestedCondition n)]), false, none⟩ := by
  unfold ofParts
  rw [show ([("action", .str "a"), ("subject", .str "s"), ("conditions", nestedCondition (n + 1))] :
      List (Text × Value)).findSome? (fun e => partFault? e.1) = none from rfl]
  simp only
  split
  · rw [build_nestedCondition h]
    rfl
  · -- action and subject are both given
    next hmissing => exact absurd rfl hmissing

/-- The conditions of `build_nestedCondition` are as high as they are deep. -/
theorem height_freezeEntries_nestedCondition (n : Nat) :
    (Value.dict (Value.freeze.freezeEntries [("k", nestedCondition n)])).height = n + 1 := by
  rw [← Value.freeze_dict, ← nestedCondition_succ, Value.height_freeze, height_nestedCondition]

/-- Reading a record one step deeper than its rule was built can fail: at the depth of a request's handler the
constructor accepts conditions nested 494 mappings deep, and reading the rule's record there refuses them, since the
reader builds the rule one step deeper. -/
theorem record_round_trip_too_deep :
    ∃ r, ofParts 4 [("action", .str "a"), ("subject", .str "s"), ("conditions", nestedCondition 494)] = .ok r ∧
      ofRecord 4 r.toRecord = .error .conditionsTooDeep := by
  have hfreezes : freezes 4 (nestedCondition (493 + 1)) = true := by
    simp [freezes, height_nestedCondition, recursionLimit]
  refine ⟨_, ofParts_nestedCondition hfreezes, ?_⟩
  -- one step deeper the conditions no longer freeze
  rw [ofRecord_toRecord, readBack_eq (formed_of_build (build_nestedCondition hfreezes)), if_neg]
  simp [freezes, height_freezeEntries_nestedCondition, recursionLimit]

end Rule

end RoleRules
