import RoleRules.Proofs.RecordRoundTrip
import RoleRules.Index
import Mathlib.Data.List.Forall2
/-!
# Compilation — a rule list compiles to its items' rules, in order

Compiling a rule list takes its items one after the other: a rule already built is kept, and a record is expanded into
one rule per (action, subject) pair it names (`Rule.expand`). A record names its actions and its subjects each as one
text or as a list; the pairs run through every subject of the first action, then of the next, and each pair is read as
the record with that action and subject put in place.

Main statement (`compile_concatenates_expansions`): compiling succeeds exactly when every item gives its rules, and then
gives their concatenation in item order, the first item that fails deciding the fault. A record with `|A|` actions and
`|S|` subjects gives exactly `|A| · |S|` rules, the one at `i · |S| + j` read from the `i`-th action and the `j`-th
subject. So compiling two lists joined is compiling them apart and joining the rules, and fails when either part fails.
-/
namespace RoleRules

section Except

variable {ε α β : Type}

/-- A traversal succeeds exactly when every element gives the result in the same place. -/
theorem mapM_eq_ok_iff (f : α → Except ε β) : ∀ (xs : List α) (ys : List β),
    xs.mapM f = .ok ys ↔ List.Forall₂ (fun x y => f x = .ok y) xs ys
  | [], ys => by cases ys <;> simp [pure, Except.pure]
  | x :: xs, ys => by
    simp only [List.mapM_cons, bind_eq_ok, pure_eq_ok, mapM_eq_ok_iff f xs]
    cases ys with
    | nil => simp
    | cons y ys => simp [List.forall₂_cons]

/-- A traversal succeeds exactly when every element gives a result. -/
theorem mapM_succeeds_iff (f : α → Except ε β) : ∀ xs : List α,
    (∃ ys, xs.mapM f = .ok ys) ↔ ∀ x ∈ xs, ∃ y, f x = .ok y
  | [] => by simp [pure, Except.pure]
  | x :: xs => by
    simp only [List.mapM_cons, bind_eq_ok, pure_eq_ok]
    constructor
    · rintro ⟨-, y, hy, ys, hys, -⟩ z hz
      rcases List.mem_cons.1 hz with rfl | hz
      · exact ⟨y, hy⟩
      · exact (mapM_succeeds_iff f xs).1 ⟨ys, hys⟩ z hz
    · intro h
      obtain ⟨y, hy⟩ := h x List.mem_cons_self
      obtain ⟨ys, hys⟩ := (mapM_succeeds_iff f xs).2 fun z hz => h z (List.mem_cons_of_mem x hz)
      exact ⟨y :: ys, y, hy, ys, hys, rfl⟩

/-- Every result of a traversal that succeeds is the result of some element. -/
theorem exists_of_mapM_eq_ok {f : α → Except ε β} {xs : List α} {ys : List β} (h : xs.mapM f = .ok ys) :
    ∀ y ∈ ys, ∃ x ∈ xs, f x = .ok y := by
  have hrel := (mapM_eq_ok_iff f xs ys).1 h
  clear h
  induction hrel with
  | nil => exact fun y hy => absurd hy List.not_mem_nil
  | cons hxy _ ih =>
    intro y hy
    rcases List.mem_cons.1 hy with rfl | hy
    · exact ⟨_, List.mem_cons_self, hxy⟩
    · obtain ⟨x, hx, hfx⟩ := ih y hy
      exact ⟨x, List.mem_cons_of_mem _ hx, hfx⟩

/-- A traversal in which every element gives either its own result or one common fault: all the results when every
element gives its own, and otherwise that fault. -/
theorem mapM_eq_ite (f : α → Except ε β) (g : α → β) (p : α → Bool) (e : ε) :
    ∀ xs : List α, (∀ x ∈ xs, f x = if p x then .ok (g x) else .error e) →
      xs.mapM f = if xs.all p then .ok (xs.map g) else .error e
  | [], _ => rfl
  | x :: xs, h => by
    rw [List.mapM_cons, h x List.mem_cons_self,
      mapM_eq_ite f g p e xs fun y hy => h y (List.mem_cons_of_mem x hy)]
    by_cases hx : p x <;> by_cases hxs : xs.all p <;> simp [hx, hxs, Bind.bind, Except.bind, pure, Except.pure]

end Except

/-- Two lists related place by place: equally long, and related wherever both have an element. -/
theorem forall₂_iff_getElem? {α β : Type} {R : α → β → Prop} {xs : List α} {ys : List β} :
    List.Forall₂ R xs ys ↔ xs.length = ys.length ∧ ∀ (k : Nat) x y, xs[k]? = some x → ys[k]? = some y → R x y := by
  rw [List.forall₂_iff_get]
  refine and_congr_right fun hlen => ⟨fun h k x y hx hy => ?_, fun h k h1 h2 => ?_⟩
  · obtain ⟨hk, rfl⟩ := List.getElem?_eq_some_iff.1 hx
    obtain ⟨hk', rfl⟩ := List.getElem?_eq_some_iff.1 hy
    exact h k hk hk'
  · exact h k _ _ (List.getElem?_eq_getElem h1) (List.getElem?_eq_getElem h2)

namespace Rule

/-! ## The pairs of a record -/

theorem length_pairs (A S : List Value) : (pairs A S).length = A.length * S.length := by
  induction A with
  | nil => simp [pairs]
  | cons a A ih =>
    simp only [pairs, List.flatMap_cons, List.length_append, List.length_map] at ih ⊢
    rw [ih, List.length_cons, Nat.succ_mul]
    omega

/-- **The pairs run action by action**: the pair at `i · |S| + j` is the `i`-th action with the `j`-th subject. -/
theorem getElem?_pairs (S : List Value) {j : Nat} (hj : j < S.length) : ∀ (A : List Value) (i : Nat),
    (pairs A S)[i * S.length + j]? = A[i]?.bind fun x => S[j]?.map fun y => (x, y)
  | [], i => by simp [pairs]
  | a :: A, 0 => by
    have hlt : j < (S.map fun y => (a, y)).length := by simpa using hj
    simp only [pairs, List.flatMap_cons, Nat.zero_mul, Nat.zero_add] at hlt ⊢
    rw [List.getElem?_append_left hlt, List.getElem?_map]
    rfl
  | a :: A, i + 1 => by
    have hidx : (i + 1) * S.length + j = (S.map fun y => (a, y)).length + (i * S.length + j) := by
      rw [List.length_map, Nat.succ_mul]
      omega
    have hrest := getElem?_pairs S hj A i
    simp only [pairs] at hrest
    simp only [pairs, List.flatMap_cons, hidx]
    rw [List.getElem?_append_right (Nat.le_add_right _ _), Nat.add_sub_cancel_left, hrest]
    rfl

/-- Every place of the pairs is an action's place times the number of subjects, plus a subject's place. -/
theorem getElem?_pairs_of_lt {A S : List Value} {k : Nat} (hk : k < A.length * S.length) :
    ∃ i j x y, k = i * S.length + j ∧ A[i]? = some x ∧ S[j]? = some y ∧ (pairs A S)[k]? = some (x, y) := by
  have hS : 0 < S.length := Nat.pos_of_mul_pos_left (Nat.lt_of_le_of_lt (Nat.zero_le k) hk)
  have hj : k % S.length < S.length := Nat.mod_lt k hS
  have hi : k / S.length < A.length := Nat.div_lt_of_lt_mul (by rwa [Nat.mul_comm])
  have hk' : k = k / S.length * S.length + k % S.length := by
    rw [Nat.mul_comm]
    exact (Nat.div_add_mod k S.length).symm
  obtain ⟨x, hx⟩ : ∃ x, A[k / S.length]? = some x := ⟨_, List.getElem?_eq_getElem hi⟩
  obtain ⟨y, hy⟩ : ∃ y, S[k % S.length]? = some y := ⟨_, List.getElem?_eq_getElem hj⟩
  refine ⟨k / S.length, k % S.length, x, y, hk', hx, hy, ?_⟩
  have hp := getElem?_pairs S hj A (k / S.length)
  rw [hx, hy, ← hk'] at hp
  exact hp

/-! ## Expanding one record -/

/-- The record of one pair: the given record with the pair's action and subject put in place. -/
def pairRecord (es : List (Text × Value)) (x y : Value) : Value :=
  .dict (Value.putEntry (Text.ofString "subject") y (Value.putEntry (Text.ofString "action") x es))

/-- **A record expands exactly when its actions and subjects are given, neither empty, and every pair reads as a
rule**; it then gives one rule per pair, the rule at `i · |S| + j` read from the `i`-th action and `j`-th subject. -/
theorem expand_eq_ok_iff {n : Nat} {es : List (Text × Value)} {rs : List Rule} :
    expand n (.dict es) = .ok rs ↔
      ∃ A S, namesOf .action ((Value.lookup (Text.ofString "action") es).getD .null) = .ok A ∧
        namesOf .subject ((Value.lookup (Text.ofString "subject") es).getD .null) = .ok S ∧
        A ≠ [] ∧ S ≠ [] ∧ rs.length = A.length * S.length ∧
        ∀ i j x y, A[i]? = some x → S[j]? = some y →
          ∃ r, rs[i * S.length + j]? = some r ∧ ofRecord (n + 1) (pairRecord es x y) = .ok r := by
  unfold expand
  simp only [bind_eq_ok]
  constructor
  · rintro ⟨A, hA, S, hS, h⟩
    -- neither list is empty, or the record has no pairs
    cases hne : (A.isEmpty || S.isEmpty) with
    | true => rw [hne] at h; cases h
    | false =>
      rw [hne, if_neg Bool.false_ne_true, mapM_eq_ok_iff, forall₂_iff_getElem?, length_pairs] at h
      obtain ⟨hlen, hrel⟩ := h
      simp only [Bool.or_eq_false_iff, List.isEmpty_eq_false_iff] at hne
      refine ⟨A, S, hA, hS, hne.1, hne.2, hlen.symm, fun i j x y hx hy => ?_⟩
      have hj : j < S.length := (List.getElem?_eq_some_iff.1 hy).1
      have hp : (pairs A S)[i * S.length + j]? = some (x, y) := by
        rw [getElem?_pairs S hj, hx, hy]
        rfl
      have hk : i * S.length + j < rs.length := by
        rw [← hlen, ← length_pairs]
        exact (List.getElem?_eq_some_iff.1 hp).1
      exact ⟨rs[i * S.length + j], List.getElem?_eq_getElem hk, hrel _ _ _ hp (List.getElem?_eq_getElem hk)⟩
  · rintro ⟨A, S, hA, hS, hAne, hSne, hlen, hrel⟩
    have hne : (A.isEmpty || S.isEmpty) = false := by
      simp [List.isEmpty_eq_false_iff, hAne, hSne]
    refine ⟨A, hA, S, hS, ?_⟩
    rw [hne, if_neg Bool.false_ne_true, mapM_eq_ok_iff, forall₂_iff_getElem?, length_pairs]
    refine ⟨hlen.symm, fun k p r hp hr => ?_⟩
    -- a place of the pairs is a place of an action and of a subject
    have hk : k < A.length * S.length := by
      rw [← length_pairs]
      exact (List.getElem?_eq_some_iff.1 hp).1
    obtain ⟨i, j, x, y, rfl, hx, hy, hxy⟩ := getElem?_pairs_of_lt hk
    rw [hxy] at hp
    cases hp
    obtain ⟨r', hr', hread⟩ := hrel i j x y hx hy
    rw [hr] at hr'
    cases hr'
    exact hread

example : (expand 4 (.dict [("action", .list [.str "read", .str "update"]),
    ("subject", .list [.str "Post", .str "Comment"]), ("fields", .list [.str "title"])])).map
      (·.map fun r => (r.action, r.subject)) =
    .ok [("read", "Post"), ("read", "Comment"), ("update", "Post"), ("update", "Comment")] := rfl

end Rule

/-! ## Compiling a list of items -/

theorem compileItems_eq_mapM (d : Nat) : ∀ L : List RuleItem,
    compileItems d L = (L.mapM (RuleItem.rules d)).map List.flatten
  | [] => rfl
  | x :: L => by
    rw [compileItems, compileItems_eq_mapM d L, List.mapM_cons]
    cases x.rules d with
    | error e => rfl
    | ok rs =>
      cases L.mapM (RuleItem.rules d) with
      | error e => rfl
      | ok rss => rfl

theorem compileItems_append (d : Nat) (L1 L2 : List RuleItem) :
    compileItems d (L1 ++ L2) =
      compileItems d L1 >>= fun r1 => compileItems d L2 >>= fun r2 => pure (r1 ++ r2) := by
  induction L1 with
  | nil =>
    rw [List.nil_append]
    cases compileItems d L2 <;> rfl
  | cons x L1 ih =>
    rw [List.cons_append, compileItems, compileItems, ih]
    cases x.rules d with
    | error e => rfl
    | ok rs =>
      cases compileItems d L1 with
      | error e => rfl
      | ok r1 =>
        cases compileItems d L2 with
        | error e => rfl
        | ok r2 => simp [Bind.bind, Except.bind, pure, Except.pure]

theorem rules_eq_ok_iff {d : Nat} {x : RuleItem} {rs : List Rule} :
    x.rules d = .ok rs ↔ (∃ r, x = .rule r ∧ rs = [r]) ∨ ∃ es, x = .record (.dict es) ∧ Rule.expand d (.dict es) = .ok rs := by
  cases x with
  | rule r => simp [RuleItem.rules, eq_comm]
  | record v =>
    cases v with
    | dict es =>
      simp only [RuleItem.rules, reduceCtorEq, false_and, exists_false, RuleItem.record.injEq, Value.dict.injEq,
        exists_eq_left', false_or]
      cases Rule.expand d (.dict es) <;> simp [Except.mapError]
    | _ => simp [RuleItem.rules]

namespace RuleIndex

theorem compile_items (d : Nat) (L : List RuleItem) :
    compile d (.items L) = (compileItems (d + 2) L).map ofRules := by
  simp only [compile, RuleSource.toItems, Bind.bind, Except.bind]
  cases compileItems (d + 2) L <;> rfl

/-- **A rule list compiles to the concatenation of its items' rules.** Compiling succeeds exactly when every item is a
rule or a mapping that expands, and its rules are then the items' rules joined in item order: a rule gives itself, a
mapping its expansion. A mapping expands into one rule per pair of its actions and subjects (one text counting as a
list of one), every subject of the first action first, each read from the mapping with the pair put in; so into
`|A| · |S|` rules. Compiling two lists joined gives their rules joined when both compile, and fails when either
fails. -/
theorem compile_concatenates_expansions (d : Nat) (L L1 L2 : List RuleItem) :
    (∀ ix, compile d (.items L) = .ok ix ↔
      ∃ rss, List.Forall₂ (fun x rs => (∃ r, x = .rule r ∧ rs = [r]) ∨
        ∃ es, x = .record (.dict es) ∧ Rule.expand (d + 2) (.dict es) = .ok rs) L rss ∧ ix.rules = rss.flatten) ∧
    ((∃ ix, compile d (.items L) = .ok ix) ↔
      ∀ x ∈ L, (∃ r, x = .rule r) ∨ ∃ es rs, x = .record (.dict es) ∧ Rule.expand (d + 2) (.dict es) = .ok rs) ∧
    (∀ n es rs, Rule.expand n (.dict es) = .ok rs ↔
      ∃ A S, Rule.namesOf .action ((Value.lookup (Text.ofString "action") es).getD .null) = .ok A ∧
        Rule.namesOf .subject ((Value.lookup (Text.ofString "subject") es).getD .null) = .ok S ∧
        A ≠ [] ∧ S ≠ [] ∧ rs.length = A.length * S.length ∧
        ∀ i j x y, A[i]? = some x → S[j]? = some y →
          ∃ r, rs[i * S.length + j]? = some r ∧ Rule.ofRecord (n + 1) (Rule.pairRecord es x y) = .ok r) ∧
    (∀ ix1 ix2, compile d (.items L1) = .ok ix1 → compile d (.items L2) = .ok ix2 →
      ∃ ix, compile d (.items (L1 ++ L2)) = .ok ix ∧ ix.rules = ix1.rules ++ ix2.rules) ∧
    ((∃ e, compile d (.items L1) = .error e) ∨ (∃ e, compile d (.items L2) = .error e) →
      ∃ e, compile d (.items (L1 ++ L2)) = .error e) := by
  -- success and failure of a compile are those of its rule list
  have hok : ∀ L, (∃ ix, compile d (.items L) = .ok ix) ↔ ∃ rs, compileItems (d + 2) L = .ok rs := fun L => by
    rw [compile_items]
    cases compileItems (d + 2) L <;> simp [Except.map]
  have herr : ∀ L, (∃ e, compile d (.items L) = .error e) ↔ ∃ e, compileItems (d + 2) L = .error e := fun L => by
    rw [compile_items]
    cases compileItems (d + 2) L <;> simp [Except.map]
  refine ⟨fun ix => ?_, ?_, fun n es rs => Rule.expand_eq_ok_iff, fun ix1 ix2 h1 h2 => ?_, fun h => ?_⟩
  · rw [compile_items, compileItems_eq_mapM]
    constructor
    · intro h
      cases hm : L.mapM (RuleItem.rules (d + 2)) with
      | error e => rw [hm] at h; cases h
      | ok rss =>
        rw [hm] at h
        cases h
        exact ⟨rss, ((mapM_eq_ok_iff _ L rss).1 hm).imp fun x rs => rules_eq_ok_iff.1, rfl⟩
    · rintro ⟨rss, hrel, hix⟩
      rw [(mapM_eq_ok_iff _ L rss).2 (hrel.imp fun x rs => rules_eq_ok_iff.2)]
      cases ix
      simp only at hix
      rw [hix]
      rfl
  · have hflat : (∃ rs, (L.mapM (RuleItem.rules (d + 2))).map List.flatten = .ok rs) ↔
        ∃ rss, L.mapM (RuleItem.rules (d + 2)) = .ok rss := by
      cases L.mapM (RuleItem.rules (d + 2)) <;> simp [Except.map]
    rw [hok, compileItems_eq_mapM, hflat, mapM_succeeds_iff]
    -- an item gives rules exactly when it is a rule or a mapping that expands
    refine forall₂_congr fun x _ => ⟨fun ⟨rs, hrs⟩ => ?_, fun h => ?_⟩
    · rcases rules_eq_ok_iff.1 hrs with ⟨r, rfl, -⟩ | ⟨es, rfl, he⟩
      · exact .inl ⟨r, rfl⟩
      · exact .inr ⟨es, rs, rfl, he⟩
    · rcases h with ⟨r, rfl⟩ | ⟨es, rs, rfl, he⟩
      · exact ⟨[r], rfl⟩
      · exact ⟨rs, rules_eq_ok_iff.2 (.inr ⟨es, rfl, he⟩)⟩
  · rw [compile_items] at h1 h2 ⊢
    rw [compileItems_append]
    cases hc1 : compileItems (d + 2) L1 with
    | error e => rw [hc1] at h1; cases h1
    | ok r1 =>
      cases hc2 : compileItems (d + 2) L2 with
      | error e => rw [hc2] at h2; cases h2
      | ok r2 =>
        rw [hc1] at h1
        rw [hc2] at h2
        cases h1
        cases h2
        exact ⟨ofRules (r1 ++ r2), rfl, rfl⟩
  · rw [herr, compileItems_append]
    rcases h with h | h <;> rw [herr] at h <;> obtain ⟨e, he⟩ := h
    · exact ⟨e, by rw [he]; rfl⟩
    · cases compileItems (d + 2) L1 with
      | error e1 => exact ⟨e1, rfl⟩
      | ok r1 => exact ⟨e, by simp [he, Bind.bind, Except.bind]⟩

end RuleIndex

end RoleRules
