import RoleRules.Index
/-!
# The index finds exactly the rules that concern a request

`RuleIndex.matching` looks a request up in four buckets of positions, filed by exact
(action, subject) pair, and merges them. Main statement (`matching_eq_filter`): for every
rule list and every request whose names can be keys, the answer is the list of the
positions, in increasing order, of the rules that concern the request, and reading the rules
at those positions gives the plain filter of the rule list, whether or not the request
names `manage` or `all` itself.
-/
namespace RoleRules.RuleIndex

/-- What is filed under a key after one more position: what was there, and the new position
under its own key. -/
theorem mem_filedUnder_fileUnder (key k : Pair) (q p : Nat) (bs : List (Pair × List Nat)) :
    p ∈ filedUnder (fileUnder key q bs) k ↔ p ∈ filedUnder bs k ∨ (k = key ∧ p = q) := by
  induction bs with
  | nil =>
    by_cases h : k = key
    · subst h; simp [fileUnder, filedUnder, List.lookup_nil]
    · have : (k == key) = false := by simpa using h
      simp [fileUnder, filedUnder, List.lookup_cons, List.lookup_nil, this, h]
  | cons b rest ih =>
    obtain ⟨k', ps⟩ := b
    unfold fileUnder
    by_cases hk : k' = key
    · subst hk
      rw [if_pos rfl]
      by_cases h : k = k'
      · subst h; simp [filedUnder]
      · have : (k == k') = false := by simpa using h
        simp [filedUnder, List.lookup_cons, this, h]
    · rw [if_neg hk]
      by_cases h : k = k'
      · subst h
        simp [filedUnder, hk]
      · have hne : (k == k') = false := by simpa using h
        have := ih
        simp only [filedUnder, List.lookup_cons, hne] at this ⊢
        exact this

/-- What is filed after filing a list of rules with their positions. -/
theorem mem_filedUnder_foldl (k : Pair) (p : Nat) :
    ∀ (L : List (Rule × Nat)) (bs : List (Pair × List Nat)),
    p ∈ filedUnder (L.foldl (fun bs rp => fileUnder (rp.1.action, rp.1.subject) rp.2 bs) bs) k ↔
      p ∈ filedUnder bs k ∨ ∃ r, (r, p) ∈ L ∧ (r.action, r.subject) = k
  | [], bs => by simp
  | rp :: L, bs => by
    rw [List.foldl_cons, mem_filedUnder_foldl k p L, mem_filedUnder_fileUnder]
    constructor
    · rintro ((h | ⟨rfl, rfl⟩) | ⟨r, hr, hk⟩)
      · exact Or.inl h
      · exact Or.inr ⟨rp.1, List.mem_cons_self, rfl⟩
      · exact Or.inr ⟨r, List.mem_cons_of_mem _ hr, hk⟩
    · rintro (h | ⟨r, hr, hk⟩)
      · exact Or.inl (Or.inl h)
      · rcases List.mem_cons.1 hr with h | h
        · cases h; exact Or.inl (Or.inr ⟨hk.symm, rfl⟩)
        · exact Or.inr ⟨r, h, hk⟩

/-- A position is filed under a key exactly when the rule there has that exact pair. -/
theorem mem_filedUnder_bucketsOf (R : List Rule) (k : Pair) (p : Nat) :
    p ∈ filedUnder (bucketsOf R) k ↔ ∃ r, R[p]? = some r ∧ (r.action, r.subject) = k := by
  unfold bucketsOf
  rw [mem_filedUnder_foldl]
  simp [filedUnder, List.lookup_nil, List.mem_zipIdx_iff_getElem?]

/-- A position is in the bucket of a request exactly when the rule there has the request's
names as its exact pair. -/
theorem mem_bucket (R : List Rule) (a s : Value) (p : Nat) :
    p ∈ (ofRules R).bucket a s ↔
      ∃ r, R[p]? = some r ∧ a.isText r.action = true ∧ s.isText r.subject = true := by
  unfold bucket
  split
  · rename_i x y
    rw [buckets, mem_filedUnder_bucketsOf]
    simp only [ofRules, Value.isText, beq_iff_eq, Prod.mk.injEq]
    constructor
    · rintro ⟨r, hr, h1, h2⟩; exact ⟨r, hr, h1.symm, h2.symm⟩
    · rintro ⟨r, hr, h1, h2⟩; exact ⟨r, hr, h1.symm, h2.symm⟩
  · rename_i hne
    simp only [List.not_mem_nil, false_iff, not_exists, not_and]
    intro r _ h1 h2
    cases a <;> cases s <;> simp_all [Value.isText]

/-- The position of a rule is among those merged from the four buckets exactly when the rule
concerns the request. -/
theorem mem_merged (R : List Rule) (a s : Value) (p : Nat) :
    (p ∈ (ofRules R).bucket a s ++ (ofRules R).bucket (.str manageAction) s ++
      (ofRules R).bucket a (.str allSubjects) ++
      (ofRules R).bucket (.str manageAction) (.str allSubjects)) ↔
      ∃ r, R[p]? = some r ∧ r.concerns a s = true := by
  simp only [List.mem_append, mem_bucket]
  constructor
  · rintro (((⟨r, hr, h1, h2⟩ | ⟨r, hr, h1, h2⟩) | ⟨r, hr, h1, h2⟩) | ⟨r, hr, h1, h2⟩) <;>
      exact ⟨r, hr, by simp_all [Rule.concerns, Value.isText]⟩
  · rintro ⟨r, hr, h⟩
    simp only [Rule.concerns, Bool.and_eq_true, Bool.or_eq_true, beq_iff_eq] at h
    rcases h with ⟨h1 | h1, h2 | h2⟩
    · exact Or.inr ⟨r, hr, by simp [Value.isText, h1], by simp [Value.isText, h2]⟩
    · exact Or.inl (Or.inl (Or.inr ⟨r, hr, by simp [Value.isText, h1], h2⟩))
    · exact Or.inl (Or.inr ⟨r, hr, h1, by simp [Value.isText, h2]⟩)
    · exact Or.inl (Or.inl (Or.inl ⟨r, hr, h1, h2⟩))

/-- The positions looked up for a request are those of the rules that concern it, in increasing
order, whatever the request names. -/
theorem positions_eq_filter (ix : RuleIndex) (a s : Value) :
    ix.positions a s = (List.range ix.rules.length).filter fun p => (ix.rules[p]?).any (·.concerns a s) := by
  obtain ⟨R⟩ := ix
  apply List.filter_congr
  intro p _
  rw [Bool.eq_iff_iff, decide_eq_true_iff]
  refine (mem_merged R a s p).trans ?_
  cases R[p]? <;> simp

/-- The index answers every request whose names can be keys with the looked-up positions. -/
theorem matching_eq_ok (ix : RuleIndex) {a s : Value} (ha : a.unhashableKind? = none)
    (hs : s.unhashableKind? = none) : ix.matching a s = .ok (ix.positions a s) := by
  simp only [matching, ha, hs]

/-- An answer of the index is to a request whose names can be keys, and it is the looked-up
positions. -/
theorem eq_positions_of_matching_eq_ok {ix : RuleIndex} {a s : Value} {ps : List Nat}
    (h : ix.matching a s = .ok ps) :
    a.unhashableKind? = none ∧ s.unhashableKind? = none ∧ ps = ix.positions a s := by
  unfold matching at h
  split at h
  · cases h
  · cases h
  · rename_i ha hs
    cases h
    exact ⟨ha, hs, rfl⟩

/-- Reading the rules at the positions whose rule satisfies `f` gives the rules satisfying
`f`, in order. -/
theorem filterMap_getElem?_range_filter {α : Type} (f : α → Bool) :
    ∀ (R : List α), ((List.range R.length).filter (fun p => (R[p]?).any f)).filterMap (fun p => R[p]?) =
      R.filter f
  | [] => rfl
  | x :: R => by
    have ih := filterMap_getElem?_range_filter f R
    rw [List.length_cons, List.range_succ_eq_map, List.filter_cons, List.filter_map]
    -- past the head, position `p + 1` of `x :: R` is position `p` of `R`
    have hcomp : ((fun p => (x :: R)[p]?.any f) ∘ Nat.succ) = fun p => R[p]?.any f := by
      funext p; simp
    have hget : ((fun p => (x :: R)[p]?) ∘ Nat.succ) = fun p => R[p]? := by
      funext p; simp
    rw [hcomp]
    by_cases hx : f x = true
    · rw [if_pos (by simpa using hx), List.filterMap_cons, List.filterMap_map, hget, ih]
      simp [hx]
    · rw [if_neg (by simpa using hx), List.filterMap_map, hget, ih]
      simp [hx]

/-- For every rule list and every request whose names can be keys, the index answers the
positions, in increasing order, of exactly the rules that concern the request, and the rules
at those positions are the plain filter of the list. -/
theorem matching_eq_filter (R : List Rule) (a s : Value)
    (ha : a.unhashableKind? = none) (hs : s.unhashableKind? = none) :
    (ofRules R).matching a s =
        .ok ((List.range R.length).filter fun p => (R[p]?).any (·.concerns a s)) ∧
      ((List.range R.length).filter fun p => (R[p]?).any (·.concerns a s)).filterMap
          (fun p => R[p]?) = R.filter (·.concerns a s) ∧
      ((List.range R.length).filter fun p => (R[p]?).any (·.concerns a s)).Pairwise (· < ·) := by
  refine ⟨?_, filterMap_getElem?_range_filter _ R, (List.pairwise_lt_range).filter _⟩
  rw [matching_eq_ok _ ha hs, positions_eq_filter]
  rfl

/-- A request naming both wildcards, where all four looked-up pairs coincide: the index still
answers each concerning rule once, in order. -/
theorem matching_eq_filter_manage_all :
    (Value.str "manage").unhashableKind? = none ∧ (Value.str "all").unhashableKind? = none ∧
      ((ofRules [⟨"manage", "all", none, none, false, none⟩, ⟨"read", "User", none, none, false, none⟩,
          ⟨"manage", "User", none, none, true, none⟩]).matching (.str "manage") (.str "all") =
        .ok ((List.range 3).filter fun p =>
          ([(⟨"manage", "all", none, none, false, none⟩ : Rule), ⟨"read", "User", none, none, false, none⟩,
            ⟨"manage", "User", none, none, true, none⟩][p]?).any (·.concerns (.str "manage") (.str "all")))) :=
  ⟨rfl, rfl, (matching_eq_filter [⟨"manage", "all", none, none, false, none⟩,
    ⟨"read", "User", none, none, false, none⟩, ⟨"manage", "User", none, none, true, none⟩]
    (.str "manage") (.str "all") rfl rfl).1⟩

end RoleRules.RuleIndex
