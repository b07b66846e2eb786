import RoleRules.Proofs.RoleTables
import RoleRules.Proofs.Compilation
import Mathlib.Data.List.Sort
import Mathlib.Logic.Relation
/-!
# RoleStore — the stored roles follow the service calls

A run of the role service's calls on a fresh store (`Call.runAll`) is read against a plain list of role names with
their rule lists (`Call.plan`): creating a role appends its name with its stored rules, appending a rule item to a
role extends that role's rules with the item's stored rules, deleting a role drops it, and seeding a store without
roles gives the administrator and the guest. A call whose rules do not compile or whose records cannot be made
(`storedRules`), or that names a role that does not exist, changes nothing.

Every call is said once (`createRole_spec`, `addRule_spec`, `deleteRole_spec`, `seedCreate_spec`), and from that
once what it does to a healthy session (`Refines`): the session stays healthy, its tables follow by the service's
writes (`Tables.Written`), its roles follow the plan, and its transaction is open unless nothing happened.

Loading reads every stored rule back five steps deeper than the service (`Rule.readBack`). A rule the constructor
built (`Rule.Formed`) reads back as itself exactly where its conditions still freeze (`Rule.freezesAt`).

Main statement (`load_follows_service_calls`): when no call of the run fails with a fault of the store and every rule
given already built was formed by the constructor, the names of the plan are distinct, and loading the role rules
reads back exactly the plan, names in ascending code-point order, when every planned rule still freezes at the depth
of the load; otherwise it fails with the interpreter's recursion fault (`load_refuses_rule_built_shallower`: a rule
built as a `$rule` item, two steps shallower than loading reads it back, can be stored and then not loaded).
-/
namespace RoleRules

/-! ## Sorting by a text key -/

namespace Text

section Key

variable {α γ β : Type} [LT β] [DecidableRel (α := β) (· < ·)]

theorem insertOn_eq_orderedInsert (key : α → β) (x : α) (ys : List α) :
    insertOn key x ys = ys.orderedInsert (fun a b => ¬ key b < key a) x := by
  induction ys with
  | nil => rfl
  | cons y ys ih =>
    rw [insertOn, List.orderedInsert_cons, ih]
    by_cases h : key y < key x <;> simp [h]

/-- **Sorting by a key is insertion sort by the order "not above"**: each item goes before every later one whose key
is not below its own. -/
theorem sortOn_eq_insertionSort (key : α → β) (xs : List α) :
    sortOn key xs = xs.insertionSort (fun a b => ¬ key b < key a) := by
  induction xs with
  | nil => rfl
  | cons x xs ih =>
    rw [sortOn, List.foldr_cons, ← sortOn, ih, insertOn_eq_orderedInsert, List.insertionSort_cons]

/-- Sorting by a key and then taking a part of each item is sorting the parts by the same key. -/
theorem map_sortOn (key : γ → β) (g : α → γ) (xs : List α) :
    (sortOn (fun a => key (g a)) xs).map g = sortOn key (xs.map g) := by
  rw [sortOn_eq_insertionSort, sortOn_eq_insertionSort]
  exact List.map_insertionSort _ _ g xs fun _ _ _ _ => Iff.rfl

end Key

variable {α : Type}

/-- Sorting by a text key lists the keys in code-point order. -/
theorem sortOn_sorted (key : α → Text) (xs : List α) :
    (sortOn key xs).Pairwise fun a b => key a ≤ key b := by
  -- "not above" is total and transitive on texts
  have : Std.Total fun a b : α => ¬ key b < key a :=
    ⟨fun a b => by simpa only [Std.not_lt] using Std.le_total⟩
  have : IsTrans α fun a b => ¬ key b < key a :=
    ⟨fun a b c hab hbc => Std.not_lt.2 (Std.le_trans (Std.not_lt.1 hab) (Std.not_lt.1 hbc))⟩
  rw [sortOn_eq_insertionSort]
  exact (List.pairwise_insertionSort _ xs).imp Std.not_lt.1

/-- Sorting by distinct text keys lists them in strictly increasing order. -/
theorem sortOn_strictly_sorted (key : α → Text) (xs : List α) (h : (xs.map key).Nodup) :
    ((sortOn key xs).map key).Pairwise (· < ·) := by
  have hnd : ((sortOn key xs).map key).Nodup := ((perm_sortOn key xs).map key).nodup_iff.2 h
  rw [List.Nodup, List.pairwise_map] at hnd
  rw [List.pairwise_map]
  exact ((sortOn_sorted key xs).and hnd).imp fun hab => Std.lt_of_le_of_ne hab.1 hab.2

end Text

/-! ## Sorting texts never fails -/

namespace Value

/-- Every item is a text. -/
def AllTexts (xs : List Value) : Prop := ∀ x ∈ xs, ∃ t, x = .str t

theorem runLength_texts (descending : Bool) :
    ∀ (ys : List Value) (t : Text), AllTexts ys → ∃ k, runLength descending ys (.str t) = .ok k
  | [], _, _ => ⟨0, rfl⟩
  | y :: ys, t, h => by
    obtain ⟨u, rfl⟩ := h y List.mem_cons_self
    obtain ⟨k, hk⟩ := runLength_texts descending ys u fun x hx => h x (List.mem_cons_of_mem _ hx)
    -- two texts always compare
    simp only [runLength, lessThan, Bind.bind, Except.bind, hk, pure, Except.pure]
    split <;> exact ⟨_, rfl⟩

theorem leadingRun_texts (xs : List Value) (h : AllTexts xs) :
    ∃ run rest, leadingRun xs = .ok (run, rest) ∧ AllTexts run ∧ AllTexts rest := by
  match xs, h with
  | [], _ => exact ⟨[], [], rfl, by simp [AllTexts], by simp [AllTexts]⟩
  | [x], h => exact ⟨[x], [], rfl, h, by simp [AllTexts]⟩
  | x :: y :: rest, h =>
    obtain ⟨a, rfl⟩ := h x List.mem_cons_self
    obtain ⟨b, rfl⟩ := h y (List.mem_cons_of_mem _ List.mem_cons_self)
    have hrest : AllTexts rest := fun z hz => h z (List.mem_cons_of_mem _ (List.mem_cons_of_mem _ hz))
    obtain ⟨k, hk⟩ := runLength_texts (decide (b < a)) rest b hrest
    have htake : AllTexts ((Value.str a :: .str b :: rest).take (k + 2)) := fun z hz => h z (List.mem_of_mem_take hz)
    refine ⟨_, _, by simp only [leadingRun, lessThan, Bind.bind, Except.bind, hk, pure, Except.pure]; rfl, ?_,
      fun z hz => hrest z (List.mem_of_mem_drop hz)⟩
    split
    · exact fun z hz => htake z (List.mem_reverse.1 hz)
    · exact htake

theorem insertionPoint_texts (pivot : Text) (sorted : Array Value) (hs : AllTexts sorted.toList) (l r : Nat)
    (hr : r ≤ sorted.size) : ∃ i, insertionPoint (.str pivot) sorted l r = .ok i := by
  fun_induction insertionPoint (.str pivot) sorted l r with
  | case1 l r hlt p ih2 ih1 =>
    -- the middle item is in range, so it is a text and the comparison succeeds
    have hp : p < sorted.size := by omega
    obtain ⟨t, ht⟩ := hs _ (Array.getElem_mem_toList hp)
    rw [Array.getElem?_eq_getElem hp, Option.getD_some, ht]
    simp only [lessThan, Bind.bind, Except.bind]
    split
    · exact ih2 (by omega)
    · exact ih1 hr
  | case2 l r _ => exact ⟨l, rfl⟩

/-- **A list of texts is always sorted without a fault.** -/
theorem sortAll_texts (xs : List Value) (h : AllTexts xs) : ∃ ys, sortAll xs = .ok ys := by
  obtain ⟨run, rest, hlead, hrun, hrest⟩ := leadingRun_texts xs h
  -- every insertion finds its place among texts, and leaves texts
  have hfold : ∀ (zs sorted : List Value), AllTexts zs → AllTexts sorted →
      ∃ ys, zs.foldlM (fun sorted x => do
        let i ← insertionPoint x sorted.toArray 0 sorted.length
        pure (sorted.take i ++ x :: sorted.drop i)) sorted = .ok ys := by
    intro zs
    induction zs with
    | nil => exact fun sorted _ _ => ⟨sorted, rfl⟩
    | cons z zs ih =>
      intro sorted hz hsorted
      obtain ⟨u, rfl⟩ := hz z List.mem_cons_self
      obtain ⟨i, hi⟩ := insertionPoint_texts u sorted.toArray (by simpa using hsorted) 0 sorted.length (by simp)
      have hnext : AllTexts (sorted.take i ++ .str u :: sorted.drop i) := by
        intro w hw
        rcases List.mem_append.1 hw with hw | hw
        · exact hsorted w (List.mem_of_mem_take hw)
        · rcases List.mem_cons.1 hw with rfl | hw
          · exact ⟨u, rfl⟩
          · exact hsorted w (List.mem_of_mem_drop hw)
      obtain ⟨ys, hys⟩ := ih _ (fun w hw => hz w (List.mem_cons_of_mem _ hw)) hnext
      exact ⟨ys, by simp only [List.foldlM_cons, hi, Bind.bind, Except.bind, pure, Except.pure]; exact hys⟩
  obtain ⟨ys, hys⟩ := hfold rest run hrest hrun
  exact ⟨ys, by simp only [sortAll, hlead, Bind.bind, Except.bind]; exact hys⟩

end Value

/-! ## Rules the service is given, stores and reads back -/

namespace Rule

/-- Whether a rule's conditions, if any, still freeze `depth` steps deep: there a formed rule reads back as itself
(`Rule.readBack_eq`). -/
def freezesAt (depth : Nat) (r : Rule) : Bool :=
  r.conditions.all fun cs => Draft.freezes depth (.dict cs)

/-- A rule narrowed to no fields and no conditions, whose names hold something besides blanks, is formed at every
depth. -/
theorem formed_of_plain {r : Rule} (ha : r.action.isBlank = false) (hs : r.subject.isBlank = false)
    (hf : r.fields = none) (hc : r.conditions = none) (b : Nat) : r.Formed b :=
  ⟨ha, hs, fun _ h => absurd (hf.symm.trans h) nofun, fun _ h => absurd (hc.symm.trans h) nofun⟩

/-- Every rule a record expands into was built by the constructor. -/
theorem formed_of_expand {n : Nat} {v : Value} {rs : List Rule} (h : expand n v = .ok rs) :
    ∀ r ∈ rs, ∃ b, r.Formed b := by
  cases v with
  | dict es =>
    unfold expand at h
    simp only [bind_eq_ok] at h
    obtain ⟨A, -, S, -, h⟩ := h
    split at h
    · cases h
    · intro r hr
      obtain ⟨p, -, hp⟩ := exists_of_mapM_eq_ok h r hr
      obtain ⟨dr, hdr⟩ := build_of_ofRecord hp
      exact ⟨_, formed_of_build hdr⟩
  | _ => cases h

/-- Formed rules read back as themselves, all of them, exactly when each still freezes where it is read. -/
theorem mapM_readBack {d : Nat} {rs : List Rule} (h : ∀ r ∈ rs, ∃ b, r.Formed b) :
    rs.mapM (readBack d) = if rs.all (freezesAt d) then .ok rs else .error .conditionsTooDeep := by
  have hall := mapM_eq_ite (readBack d) id (freezesAt d) .conditionsTooDeep rs fun r hr => by
    obtain ⟨b, hb⟩ := h r hr
    exact readBack_eq hb d
  simpa using hall

end Rule

/-- An item given to the service: a rule built by the constructor, formed where it was built, or a record. -/
def RuleItem.Formed : RuleItem → Prop
  | .rule r => ∃ b, r.Formed b
  | .record _ => True

/-- A rule list given to the service: items given one by one, each formed, or a loose value. -/
def RuleSource.Formed : RuleSource → Prop
  | .items xs => ∀ x ∈ xs, x.Formed
  | .loose _ => True

theorem RuleItem.formed_of_rules {d : Nat} {x : RuleItem} {rs : List Rule} (hx : x.Formed) (h : x.rules d = .ok rs) :
    ∀ r ∈ rs, ∃ b, r.Formed b := by
  rcases rules_eq_ok_iff.1 h with ⟨r, rfl, rfl⟩ | ⟨es, rfl, he⟩
  · intro r' hr'
    rw [List.mem_singleton.1 hr']
    exact hx
  · exact Rule.formed_of_expand he

namespace Store

theorem RuleSource.formed_given {src : RuleSource} (h : src.Formed) : (RuleSource.given src).Formed := by
  cases src with
  | items xs => exact h
  | loose v => cases hv : v.truthy <;> simp [RuleSource.given, hv, RuleSource.Formed]

/-! ## Steps on a session -/

/-- A session that is not failed and holds well-formed tables. -/
def Healthy (s : Session) : Prop := s.failed = false ∧ s.current.WF

section Session

variable {s : Session}

@[simp] theorem Session.opened_current (s : Session) : s.opened.current = s.current := rfl

theorem Session.opened_of_active (h : s.active = true) : s.opened = s := by
  cases s
  simp_all [Session.opened]

theorem write_of_ok {α : Type} {f : Tables → Except Fault (Tables × α)} {t' : Tables} {a : α}
    (hs : s.failed = false) (hf : f s.current = .ok (t', a)) :
    Session.write f s = ({ s.opened with current := t' }, .ok a) := by
  simp [Session.write, Session.tables, hs, hf]

theorem write_of_error {α : Type} {f : Tables → Except Fault (Tables × α)} {e : Fault}
    (hs : s.failed = false) (hf : f s.current = .error e) :
    Session.write f s = ({ s.opened with failed := true }, .error e) := by
  simp [Session.write, Session.tables, hs, hf]

theorem query_healthy {α : Type} (f : Tables → Except Fault α) (hs : s.failed = false) :
    Session.query f s = (s.opened, f s.current) := by
  simp [Session.query, Session.tables, hs, Bind.bind, Except.bind]

end Session

/-! ## Stored rules -/

/-- **The service stores only formed rules**, when every rule it is given already built was formed. -/
theorem storedRules_formed {d : Nat} {src : RuleSource} {rules : List Rule} (h : storedRules d src = .ok rules)
    (hsrc : src.Formed) : ∀ r ∈ rules, ∃ b, r.Formed b := by
  simp only [storedRules, bind_eq_ok] at h
  obtain ⟨ix, hc, hst⟩ := h
  have hrules : ix.rules = rules := by
    split at hst
    · exact pure_eq_ok.1 hst
    · cases hst
  simp only [RuleIndex.compile, bind_eq_ok, pure_eq_ok] at hc
  obtain ⟨items, hitems, rs, hcomp, rfl⟩ := hc
  rw [← hrules]
  -- the items of a formed source are formed: records of a loose value are records
  have hformed : ∀ x ∈ items, x.Formed := by
    cases src with
    | items ys =>
      cases hitems
      exact hsrc
    | loose v =>
      simp only [RuleSource.toItems] at hitems
      cases hv : v.elements? with
      | none =>
        rw [hv] at hitems
        cases hitems
      | some ys =>
        rw [hv] at hitems
        cases hitems
        intro x hx
        obtain ⟨w, -, rfl⟩ := List.mem_map.1 hx
        trivial
  rw [compileItems_eq_mapM] at hcomp
  cases hm : items.mapM (RuleItem.rules (d + 1 + 2)) with
  | error e => rw [hm] at hcomp; cases hcomp
  | ok rss =>
    rw [hm] at hcomp
    cases hcomp
    intro r hr
    obtain ⟨rs', hrs', hr'⟩ := List.mem_flatten.1 hr
    obtain ⟨x, hx, hxr⟩ := exists_of_mapM_eq_ok hm rs' hrs'
    exact RuleItem.formed_of_rules (hformed x hx) hxr r hr'

theorem compileItems_rules (d : Nat) (rs : List Rule) : compileItems d (rs.map .rule) = .ok rs := by
  induction rs with
  | nil => rfl
  | cons r rest ih => simp [compileItems, RuleItem.rules, ih, Bind.bind, Except.bind, pure, Except.pure]

/-- Rules given as rules compile to their own index, at every depth. -/
theorem compile_rules (d : Nat) (rs : List Rule) :
    RuleIndex.compile d (RuleSource.given (.items (rs.map .rule))) = .ok (RuleIndex.ofRules rs) := by
  simp [RuleIndex.compile, RuleSource.given, RuleSource.toItems, compileItems_rules, Bind.bind, Except.bind,
    pure, Except.pure]

/-- Rules given as rules whose records can be made are stored as they are. -/
theorem storedRules_rules (d : Nat) (rs : List Rule) (h : rs.all (·.thaws (d + 2)) = true) :
    storedRules d (RuleSource.given (.items (rs.map .rule))) = .ok rs := by
  simp [storedRules, compile_rules, RuleIndex.ofRules, h, Bind.bind, Except.bind, pure, Except.pure]

/-- A rule of an action and a subject that are not blank, and nothing else, is formed. -/
theorem RuleItem.formed_plain {a s : Text} {i : Bool} (ha : a.isBlank = false) (hs : s.isBlank = false) :
    (RuleItem.rule ⟨a, s, none, none, i, none⟩).Formed :=
  ⟨0, Rule.formed_of_plain ha hs rfl rfl 0⟩

/-! ## Reading the roles back -/

theorem putByValue_fresh {α : Type} (k : Text) (v : α) :
    ∀ acc : List (Value × α), (∀ e ∈ acc, ∃ t, e.1 = .str t ∧ t ≠ k) → putByValue (.str k) v acc = acc ++ [(.str k, v)]
  | [], _ => rfl
  | (k', w) :: rest, h => by
    obtain ⟨t, rfl, hne⟩ := h _ List.mem_cons_self
    have hrest := putByValue_fresh k v rest fun e he => h e (List.mem_cons_of_mem _ he)
    simp [putByValue, Value.eqv, hne, hrest]

/-- Rows with distinct text names go into the mapping one after the other. -/
theorem foldl_putByValue_rows (t : Tables) : ∀ (rows : List RoleRow) (done : List (Text × List Rule)),
    (∀ r ∈ rows, r.name = .str r.key) → (done.map Prod.fst ++ rows.map RoleRow.key).Nodup →
    rows.foldl (fun acc r => putByValue r.name (t.rulesOf r.id) acc) (done.map fun e => (.str e.1, e.2)) =
      (done ++ rows.map fun r => (r.key, t.rulesOf r.id)).map fun e => (.str e.1, e.2)
  | [], done, _, _ => by simp
  | r :: rows, done, hnames, hnd => by
    have hfresh : ∀ e ∈ done.map (fun e => ((Value.str e.1), e.2)), ∃ k, e.1 = .str k ∧ k ≠ r.key := by
      intro e he
      obtain ⟨d, hd, rfl⟩ := List.mem_map.1 he
      refine ⟨d.1, rfl, fun hk => ?_⟩
      rw [List.nodup_append] at hnd
      exact hnd.2.2 d.1 (List.mem_map_of_mem hd) r.key List.mem_cons_self hk
    rw [List.foldl_cons, hnames r List.mem_cons_self, putByValue_fresh _ _ _ hfresh]
    have hstep := foldl_putByValue_rows t rows (done ++ [(r.key, t.rulesOf r.id)])
      (fun x hx => hnames x (List.mem_cons_of_mem _ hx)) (by simpa using hnd)
    simpa using hstep

/-- The rules of a role whose stored rules are formed read back, all of them, exactly when each still freezes. -/
theorem Tables.readRules_formed {t : Tables} {d role : Nat} (h : ∀ r ∈ t.rulesOf role, ∃ b, r.Formed b) :
    t.readRules d role =
      if (t.rulesOf role).all (Rule.freezesAt d) then .ok (t.rulesOf role) else .error (.recursion .comparison) := by
  rw [Tables.readRules, Rule.mapM_readBack h]
  split <;> rfl

/-- **A healthy session whose stored rules are formed reads its roles back** in code-point order of their names, each
with its rules, when every stored rule still freezes five steps deeper than the service; otherwise loading fails with
the interpreter's recursion fault. -/
theorem loadRoleRules_healthy (depth : Nat) {s : Session} (hs : s.failed = false) (hwf : s.current.WF)
    (hformed : ∀ e ∈ s.current.roleMap, ∀ r ∈ e.2, ∃ b, r.Formed b) :
    (loadRoleRules depth s).2 =
      if s.current.roleMap.all (fun e => e.2.all (Rule.freezesAt (depth + 5))) then
        .ok ((Text.sortOn Prod.fst s.current.roleMap).map fun e => (.str e.1, e.2))
      else .error (.recursion .comparison) := by
  have hperm := Text.perm_sortOn RoleRow.key s.current.roles
  -- reading every role's rules back succeeds for all of them, or fails alike
  have hread := mapM_eq_ite (fun r => (s.current.readRules (depth + 5) r.id).map fun rules => (r.name, rules))
    (fun r => (r.name, s.current.rulesOf r.id)) (fun r => (s.current.rulesOf r.id).all (Rule.freezesAt (depth + 5)))
    (.recursion .comparison) (Text.sortOn RoleRow.key s.current.roles) fun r hr => by
      have hmem : (r.key, s.current.rulesOf r.id) ∈ s.current.roleMap :=
        List.mem_map.2 ⟨r, hperm.mem_iff.1 hr, rfl⟩
      rw [Tables.readRules_formed (hformed _ hmem)]
      split <;> rfl
  have hall : (Text.sortOn RoleRow.key s.current.roles).all
      (fun r => (s.current.rulesOf r.id).all (Rule.freezesAt (depth + 5))) =
      s.current.roleMap.all (fun e => e.2.all (Rule.freezesAt (depth + 5))) := by
    rw [Tables.roleMap, List.all_map, Bool.eq_iff_iff]
    simp only [List.all_eq_true, hperm.mem_iff, Function.comp_def]
  rw [hall] at hread
  simp only [loadRoleRules, query_healthy _ hs, hread]
  split
  · -- the sorted rows still carry distinct text names
    have hnames : ∀ r ∈ Text.sortOn RoleRow.key s.current.roles, r.name = .str r.key :=
      fun r hr => hwf.names r (hperm.mem_iff.1 hr)
    have hnd : ((Text.sortOn RoleRow.key s.current.roles).map RoleRow.key).Nodup :=
      (hperm.map _).nodup_iff.2 hwf.keys_nodup
    have hentries := foldl_putByValue_rows s.current (Text.sortOn RoleRow.key s.current.roles) [] hnames
      (by simpa using hnd)
    have hsorted : (Text.sortOn RoleRow.key s.current.roles).map (fun r => (r.key, s.current.rulesOf r.id)) =
        Text.sortOn Prod.fst s.current.roleMap :=
      Text.map_sortOn Prod.fst (fun r => (r.key, s.current.rulesOf r.id)) s.current.roles
    simp only [List.map_nil, List.nil_append, hsorted] at hentries
    obtain ⟨ys, hys⟩ := Value.sortAll_texts
      (((Text.sortOn Prod.fst s.current.roleMap).map fun e => ((Value.str e.1), e.2)).map Prod.fst)
      (fun x hx => by obtain ⟨e, -, rfl⟩ := List.mem_map.1 (List.map_map ▸ hx); exact ⟨e.1, rfl⟩)
    simp only [Bind.bind, Except.bind, List.foldl_map, hentries, hys, pure, Except.pure]
  · rfl

/-! ## Service calls and their plan -/

/-- A call of the role service with a text as the role's name. -/
inductive Call where
  /-- create a role with a rule list and a description -/
  | create (name : Text) (rules : RuleSource) (description : Value)
  /-- append the rules of one item to a role -/
  | addRule (name : Text) (item : RuleItem)
  /-- delete a role -/
  | delete (name : Text)
  /-- create the demonstration data in a store without roles -/
  | seed

/-- The session after a step, and the fault it answered, if any. -/
def outcome {α : Type} (r : Session × Except Fault α) : Session × Option Fault :=
  (r.1, match r.2 with
    | .error e => some e
    | .ok _ => none)

/-- A call made `depth` steps deep: the session after it, and its fault if it failed. -/
def Call.exec (depth : Nat) (c : Call) (s : Session) : Session × Option Fault :=
  match c with
  | .create name rules description => outcome (createRole depth (.str name) rules description s)
  | .addRule name item => outcome (Store.addRule depth (.str name) item s)
  | .delete name => outcome (deleteRole (.str name) s)
  | .seed => outcome (seedDefaults depth s)

/-- A run of calls, each with the depth it is made at: the last session, and the faults of the calls that failed. -/
def Call.runAll : Session → List (Nat × Call) → Session × List Fault
  | s, [] => (s, [])
  | s, (d, c) :: cs =>
    let r := c.exec d s
    let rest := runAll r.1 cs
    (rest.1, r.2.toList ++ rest.2)

/-- What a call made `depth` steps deep does to the list of roles: creating appends the name with the stored rules;
appending to a role that exists extends its rules with the item's stored rules; deleting drops the name; seeding a
store without roles gives the demonstration roles. Rules that are not stored, or a role that does not exist, change
nothing. -/
def Call.plan (depth : Nat) (m : List (Text × List Rule)) : Call → List (Text × List Rule)
  | .create name rules _ =>
    match storedRules depth (RuleSource.given rules) with
    | .ok rs => m ++ [(name, rs)]
    | .error _ => m
  | .addRule name item =>
    if name ∈ m.map Prod.fst then
      match storedRules depth (.items [item]) with
      | .ok rs => m.map fun e => if e.1 = name then (e.1, e.2 ++ rs) else e
      | .error _ => m
    else m
  | .delete name => m.filter fun e => e.1 != name
  | .seed => if m.isEmpty then defaultRoles else m

/-- The plan of a run of calls. -/
def Call.planAll (m : List (Text × List Rule)) : List (Nat × Call) → List (Text × List Rule)
  | [] => m
  | (d, c) :: cs => planAll (c.plan d m) cs

/-- Every rule a call is given already built was formed by the constructor. -/
def Call.Formed : Call → Prop
  | .create _ rules _ => rules.Formed
  | .addRule _ item => item.Formed
  | .delete _ => True
  | .seed => True

/-- What every call of a run keeps of the list of roles, the plan of the run keeps. -/
theorem Call.planAll_invariant (P : List (Text × List Rule) → Prop) :
    ∀ (cs : List (Nat × Call)) (m : List (Text × List Rule)),
      (∀ dc ∈ cs, ∀ m, P m → P (dc.2.plan dc.1 m)) → P m → P (Call.planAll m cs)
  | [], _, _, hm => hm
  | (d, c) :: cs, m, hstep, hm =>
    planAll_invariant P cs _ (fun dc hdc => hstep dc (List.mem_cons_of_mem _ hdc)) (hstep (d, c) List.mem_cons_self m hm)

/-- The demonstration rules, built from their records. -/
theorem defaultRoles_formed : ∀ e ∈ defaultRoles, ∀ r ∈ e.2, ∃ b, r.Formed b := by
  have hadmin : (({ action := .str "manage", subject := .str "all" } : Draft).build 0) =
      .ok { action := Text.ofString "manage", subject := Text.ofString "all" } := rfl
  have hguest : (({ action := .str "read", subject := .str "User", fields := .list [.str "email"] } : Draft).build 0) =
      .ok { action := Text.ofString "read", subject := Text.ofString "User", fields := some [Text.ofString "email"] } :=
    rfl
  simp only [defaultRoles, List.mem_cons, List.mem_nil_iff, or_false, forall_eq_or_imp, forall_eq]
  exact ⟨⟨0, Rule.formed_of_build hadmin⟩, ⟨0, Rule.formed_of_build hguest⟩⟩

theorem defaultRoles_thaw (d : Nat) : ∀ e ∈ defaultRoles, e.2.all (·.thaws d) = true := by
  simp [defaultRoles, Rule.thaws]

/-- **Along a run whose calls are given formed rules, the plan holds formed rules only**: each call's plan adds the
rules it stores, which are formed (`storedRules_formed`), or the demonstration rules. -/
theorem planAll_formed (cs : List (Nat × Call)) (hcs : ∀ dc ∈ cs, dc.2.Formed) :
    ∀ e ∈ Call.planAll [] cs, ∀ r ∈ e.2, ∃ b, r.Formed b := by
  refine Call.planAll_invariant (fun m => ∀ e ∈ m, ∀ r ∈ e.2, ∃ b, r.Formed b) cs [] (fun dc hdc m hm => ?_) nofun
  obtain ⟨d, c⟩ := dc
  have hc := hcs _ hdc
  cases c with
  | create n src desc =>
    simp only [Call.plan]
    split
    · next rs hst =>
      intro e he r hr
      rcases List.mem_append.1 he with he | he
      · exact hm e he r hr
      · rw [List.mem_singleton.1 he] at hr
        exact storedRules_formed hst (RuleSource.formed_given hc) r hr
    · exact hm
  | addRule n item =>
    simp only [Call.plan]
    split
    · split
      · next rs hst =>
        intro e he r hr
        obtain ⟨e', he', rfl⟩ := List.mem_map.1 he
        split at hr
        · rcases List.mem_append.1 hr with hr | hr
          · exact hm e' he' r hr
          · exact storedRules_formed hst (fun x hx => by rw [List.mem_singleton.1 hx]; exact hc) r hr
        · exact hm e' he' r hr
      · exact hm
    · exact hm
  | delete n => exact fun e he => hm e (List.mem_filter.1 he).1
  | seed =>
    simp only [Call.plan]
    split
    · exact defaultRoles_formed
    · exact hm

/-! ## The writes of the service -/

/-- One write the role service makes to the tables. -/
inductive Tables.Written : Tables → Tables → Prop
  | insertRole {t t' : Tables} {n : Text} {description : Value} {rules : List Rule} {id : Nat} :
      t.insertRole (.str n) description rules = .ok (t', id) → Written t t'
  | appendRules {t t' : Tables} {r : RoleRow} {rules : List Rule} :
      r ∈ t.roles → t.appendRules r.id rules = .ok t' → Written t t'
  | deleteRole {t : Tables} {r : RoleRow} : r ∈ t.roles → Written t (t.deleteRole r.id)
  | insertUser {t t' : Tables} {v : Value} : t.insertUser v = .ok (t', ()) → Written t t'

/-- Inserting roles without description one after the other, each under its name with its rules. -/
inductive Tables.InsertsRoles : Tables → List (Text × List Rule) → Tables → Prop
  | nil (t : Tables) : InsertsRoles t [] t
  | cons {t t1 t' : Tables} {n : Text} {rs : List Rule} {L : List (Text × List Rule)} {id : Nat} :
      t.insertRole (.str n) .null rs = .ok (t1, id) → InsertsRoles t1 L t' → InsertsRoles t ((n, rs) :: L) t'

@[simp] theorem Tables.addPermissions_users (t : Tables) (role start : Nat) (rules : List Rule) :
    (t.addPermissions role start rules).users = t.users := by
  induction rules generalizing t start with
  | nil => rfl
  | cons r rest ih => exact ih _ _

/-- The names of the roles read back are the keys of the role rows. -/
theorem Tables.roleMap_keys (t : Tables) : t.roleMap.map Prod.fst = t.roles.map RoleRow.key := by
  simp [Tables.roleMap, Function.comp_def]

/-- Inserting a role keeps the users. -/
theorem Tables.users_insertRole {t t' : Tables} {n : Text} {description : Value} {rules : List Rule} {id : Nat}
    (h : t.insertRole (.str n) description rules = .ok (t', id)) : t'.users = t.users := by
  obtain ⟨-, -, note, rfl⟩ := insertRole_eq_ok h
  simp

theorem Tables.roleNamed?_of_not_mem {t : Tables} {n : Text} (h : n ∉ t.roleMap.map Prod.fst) :
    t.roleNamed? n = none := by
  refine List.find?_eq_none.2 fun r hr hkey => h ?_
  rw [Tables.roleMap_keys]
  exact List.mem_map.2 ⟨r, hr, by simpa using hkey⟩

/-- A role without description, under a free name that has a UTF-8 form, whose rules pass their checks, is
inserted. -/
theorem Tables.insertRole_ok {t : Tables} {n : Text} {rules : List Rule} (hc : rules.forM checkRule = .ok ())
    (hn : surrogateRun? n = none) (hfree : t.roleNamed? n = none) :
    ∃ t' id, t.insertRole (.str n) .null rules = .ok (t', id) := by
  simp [insertRole, hc, columnText, bind, hn, hfree, Bind.bind, Except.bind, Except.map, Bound.columnText, pure,
    Except.pure]

theorem insertRole_error {t : Tables} {name description : Value} {rules : List Rule} {e : Fault}
    (h : t.insertRole name description rules = .error e) : e.fromStore = true := by
  unfold Tables.insertRole at h
  cases hc : rules.forM Tables.checkRule with
  | error e' => rw [hc] at h; cases h; exact Tables.checkRules_error hc
  | ok u =>
    cases hk : columnText name with
    | error e' => rw [hc, hk] at h; cases h; exact columnText_error hk
    | ok key? =>
      cases hd : columnText description with
      | error e' => rw [hc, hk, hd] at h; cases h; exact columnText_error hd
      | ok note =>
        -- what is left to refuse is a missing or taken name
        rw [hc, hk, hd] at h
        simp only [Bind.bind, Except.bind] at h
        split at h
        · cases h; rfl
        · split at h
          · cases h; rfl
          · cases h

theorem appendRules_error {t : Tables} {role : Nat} {rules : List Rule} {e : Fault}
    (h : t.appendRules role rules = .error e) : e.fromStore = true := by
  unfold Tables.appendRules at h
  cases hc : rules.forM Tables.checkRule with
  | error e' => rw [hc] at h; cases h; exact Tables.checkRules_error hc
  | ok u => rw [hc] at h; cases h

theorem insertUser_error {t : Tables} {v : Value} {e : Fault} (h : t.insertUser v = .error e) :
    e.fromStore = true := by
  unfold Tables.insertUser at h
  cases hc : columnText v with
  | error e' =>
    simp only [hc, Bind.bind, Except.bind, Except.error.injEq] at h
    exact h ▸ columnText_error hc
  | ok o =>
    cases o with
    | none => simp only [hc, Bind.bind, Except.bind, Except.error.injEq] at h; exact h ▸ rfl
    | some a =>
      simp only [hc, Bind.bind, Except.bind] at h
      split at h
      · cases h; rfl
      · cases h

/-- Adding a user touches neither roles nor rules. -/
theorem insertUser_spec {t t' : Tables} {v : Value} {u : Unit} (hwf : t.WF) (h : t.insertUser v = .ok (t', u)) :
    t'.WF ∧ t'.roleMap = t.roleMap := by
  obtain ⟨e, rfl⟩ := Tables.insertUser_eq_ok h
  -- the new user takes a fresh identifier; every other table is kept
  refine ⟨⟨fun r hr => ?_, fun l hl => ?_, fun p hp => ?_, hwf.ids_nodup, hwf.keys_nodup, hwf.names⟩, rfl⟩
  · exact Nat.lt_succ_of_lt (hwf.role_lt r hr)
  · exact ⟨Nat.lt_succ_of_lt (hwf.link_lt l hl).1, Nat.lt_succ_of_lt (hwf.link_lt l hl).2⟩
  · exact Nat.lt_succ_of_lt (hwf.permission_lt p hp)

/-- **Roles inserted one after the other** keep `WF`, append their names with their rules, keep the users, and are a
chain of the service's writes. -/
theorem Tables.InsertsRoles.spec {t t' : Tables} {L : List (Text × List Rule)} (h : InsertsRoles t L t')
    (hwf : t.WF) : t'.WF ∧ t'.roleMap = t.roleMap ++ L ∧ t'.users = t.users ∧ Relation.ReflTransGen Written t t' := by
  induction h with
  | nil t => exact ⟨hwf, by simp, rfl, .refl⟩
  | cons hi _ ih =>
    obtain ⟨hwf1, -, hmap1⟩ := roleMap_insertRole hwf hi
    obtain ⟨hwf', hmap', husers', hw'⟩ := ih hwf1
    refine ⟨hwf', by rw [hmap', hmap1, List.append_assoc]; rfl, husers'.trans (users_insertRole hi),
      .head (.insertRole hi) hw'⟩

/-! ## One call -/

/-- What a call that raises no fault of the store does to a healthy session `s`, leaving `s'`: `s'` is healthy, its
tables follow from those of `s` by the service's writes, its roles are the plan of the call on those of `s`, and it is
`s` itself or has its transaction open. -/
structure Refines (d : Nat) (c : Call) (s s' : Session) : Prop where
  healthy : Healthy s'
  written : Relation.ReflTransGen Tables.Written s.current s'.current
  plan : s'.current.roleMap = c.plan d s.current.roleMap
  opened : s' = s ∨ s'.active = true

section Steps

variable {s : Session}

/-- **What creating a role does** on a session that is not failed: rules that are not stored write nothing and leave
the session as it was; stored rules are inserted with the role, and the session then fails with the insertion's fault
or holds the new tables. -/
theorem createRole_spec (d : Nat) (n : Text) (src : RuleSource) (desc : Value) (hs : s.failed = false) :
    (∃ e, storedRules d (RuleSource.given src) = .error e ∧ createRole d (.str n) src desc s = (s, .error e)) ∨
    ∃ rules, storedRules d (RuleSource.given src) = .ok rules ∧
      ((∃ e, s.current.insertRole (.str n) desc rules = .error e ∧
          createRole d (.str n) src desc s = ({ s.opened with failed := true }, .error e)) ∨
        ∃ t' id v, s.current.insertRole (.str n) desc rules = .ok (t', id) ∧
          createRole d (.str n) src desc s = ({ s.opened with current := t' }, .ok v)) := by
  cases hst : storedRules d (RuleSource.given src) with
  | error e => exact .inl ⟨e, rfl, by simp only [createRole, hst]⟩
  | ok rules =>
    refine .inr ⟨rules, rfl, ?_⟩
    cases hi : s.current.insertRole (.str n) desc rules with
    | error e =>
      refine .inl ⟨e, rfl, ?_⟩
      simp only [createRole, hst]
      rw [write_of_error hs]
      rw [hi]; rfl
    | ok r =>
      obtain ⟨t', id⟩ := r
      have hrun : ∃ v, createRole d (.str n) src desc s = ({ s.opened with current := t' }, .ok v) := by
        simp only [createRole, hst]
        rw [write_of_ok hs]
        · exact ⟨_, rfl⟩
        · rw [hi]; rfl
      obtain ⟨v, hv⟩ := hrun
      exact .inr ⟨t', id, v, rfl, hv⟩

theorem create_refines (d : Nat) (n : Text) (src : RuleSource) (desc : Value) (h : Healthy s)
    (hstore : ∀ e, ((Call.create n src desc).exec d s).2 = some e → e.fromStore = false) :
    Refines d (.create n src desc) s ((Call.create n src desc).exec d s).1 := by
  rcases createRole_spec d n src desc h.1 with ⟨e, hst, hrun⟩ | ⟨rules, hst, ⟨e, hi, hrun⟩ | ⟨t', id, v, hi, hrun⟩⟩
  · -- rules that are not stored write nothing
    have hexec : (Call.create n src desc).exec d s = (s, some e) := by simp [Call.exec, outcome, hrun]
    rw [hexec]
    exact ⟨h, .refl, by simp [Call.plan, hst], .inl rfl⟩
  · exact absurd (hstore e (by simp [Call.exec, outcome, hrun])) (by simp [insertRole_error hi])
  · obtain ⟨hwf', -, hmap⟩ := Tables.roleMap_insertRole h.2 hi
    have hexec : (Call.create n src desc).exec d s = ({ s.opened with current := t' }, none) := by
      simp [Call.exec, outcome, hrun]
    rw [hexec]
    exact ⟨⟨h.1, hwf'⟩, .single (.insertRole hi), by simp [Call.plan, hst, hmap], .inr rfl⟩

/-- Looking a text up among the roles fails with a fault of the store, finds no role and the name is not taken, or
finds the row kept under that name. -/
theorem Tables.roleOf?_str_cases (t : Tables) (n : Text) :
    (∃ e, t.roleOf? (.str n) = .error e ∧ e.fromStore = true) ∨
    (t.roleOf? (.str n) = .ok none ∧ n ∉ t.roleMap.map Prod.fst) ∨
    ∃ r, t.roleOf? (.str n) = .ok (some r) ∧ r ∈ t.roles ∧ r.key = n := by
  cases hr : t.roleOf? (.str n) with
  | error e => exact .inl ⟨e, rfl, Tables.roleOf?_error hr⟩
  | ok k =>
    have hk := Tables.roleOf?_str hr
    cases k with
    | none => exact .inr (.inl ⟨rfl, Tables.roleNamed?_eq_none hk.symm⟩)
    | some r => exact .inr (.inr ⟨r, rfl, Tables.roleNamed?_eq_some hk.symm⟩)

/-- **What adding a rule by name does** on a session that is not failed: a fault of the store, nothing written (no
role of that name, or rules that are not stored), or the stored rules appended to the role kept under that name. -/
theorem addRule_spec (d : Nat) (n : Text) (item : RuleItem) (hs : s.failed = false) :
    (∃ e, ((Call.addRule n item).exec d s).2 = some e ∧ e.fromStore = true) ∨
    (((Call.addRule n item).exec d s).1 = s.opened ∧ (n ∉ s.current.roleMap.map Prod.fst ∨
      ∃ r ∈ s.current.roles, r.key = n ∧ ∃ e, storedRules d (.items [item]) = .error e)) ∨
    ∃ r ∈ s.current.roles, r.key = n ∧ ∃ rules t', storedRules d (.items [item]) = .ok rules ∧
      s.current.appendRules r.id rules = .ok t' ∧
      ((Call.addRule n item).exec d s).1 = { s.opened.opened with current := t' } := by
  have hq := query_healthy (fun t => t.roleOf? (.str n)) hs
  rcases Tables.roleOf?_str_cases s.current n with ⟨e, hr, hfs⟩ | ⟨hr, hout⟩ | ⟨r, hr, hmem, hkey⟩
  · have hrun : (Call.addRule n item).exec d s = (s.opened, some e) := by
      simp only [Call.exec, Store.addRule, hq, hr]; rfl
    exact .inl ⟨e, by rw [hrun], hfs⟩
  · -- no role of that name
    have hrun : (Call.addRule n item).exec d s = (s.opened, none) := by
      simp only [Call.exec, Store.addRule, hq, hr]; rfl
    exact .inr (.inl ⟨by rw [hrun], .inl hout⟩)
  · cases hst : storedRules d (.items [item]) with
    | error e =>
      have hrun : (Call.addRule n item).exec d s = (s.opened, some e) := by
        simp only [Call.exec, Store.addRule, hq, hr, hst]; rfl
      exact .inr (.inl ⟨by rw [hrun], .inr ⟨r, hmem, hkey, e, rfl⟩⟩)
    | ok rules =>
      cases ha : s.current.appendRules r.id rules with
      | error e =>
        have hrun : (Call.addRule n item).exec d s = ({ s.opened.opened with failed := true }, some e) := by
          simp only [Call.exec, Store.addRule, hq, hr, hst]
          rw [write_of_error (s := s.opened) hs]
          · rfl
          · simp [Session.opened, ha]; rfl
        exact .inl ⟨e, by rw [hrun], appendRules_error ha⟩
      | ok t' =>
        have hrun : ((Call.addRule n item).exec d s).1 = { s.opened.opened with current := t' } := by
          simp only [Call.exec, Store.addRule, hq, hr, hst]
          rw [write_of_ok (s := s.opened) hs]
          · rfl
          · simp [Session.opened, ha]; rfl
        exact .inr (.inr ⟨r, hmem, hkey, rules, t', rfl, ha, hrun⟩)

theorem addRule_refines (d : Nat) (n : Text) (item : RuleItem) (h : Healthy s)
    (hstore : ∀ e, ((Call.addRule n item).exec d s).2 = some e → e.fromStore = false) :
    Refines d (.addRule n item) s ((Call.addRule n item).exec d s).1 := by
  rcases addRule_spec d n item h.1 with ⟨e, he, hfs⟩ | ⟨hrun, hout | ⟨r, hmem, hkey, e, hst⟩⟩ |
      ⟨r, hmem, hkey, rules, t', hst, ha, hrun⟩
  · exact absurd (hstore e he) (by simp [hfs])
  · rw [hrun]
    exact ⟨h, .refl, by simp [Call.plan, hout], .inr rfl⟩
  · have hin : n ∈ s.current.roleMap.map Prod.fst := by
      rw [Tables.roleMap_keys, ← hkey]
      exact List.mem_map_of_mem hmem
    rw [hrun]
    exact ⟨h, .refl, by simp [Call.plan, hin, hst], .inr rfl⟩
  · have hin : n ∈ s.current.roleMap.map Prod.fst := by
      rw [Tables.roleMap_keys, ← hkey]
      exact List.mem_map_of_mem hmem
    obtain ⟨hwf', hmap⟩ := Tables.roleMap_appendRules h.2 hmem ha
    rw [hrun]
    exact ⟨⟨h.1, hwf'⟩, .single (.appendRules hmem ha), by simp [Call.plan, hin, hst, hmap, hkey], .inr rfl⟩

/-- **What deleting a text name does** on a session that is not failed: a fault of the store, no role of that name
(nothing changes), or the role kept under that name, deleted. -/
theorem deleteRole_spec (n : Text) (hs : s.failed = false) :
    (∃ e, (deleteRole (.str n) s).2 = .error e ∧ e.fromStore = true) ∨
    ((deleteRole (.str n) s) = (s.opened, .ok false) ∧ ∀ r ∈ s.current.roles, r.key ≠ n) ∨
    ∃ r ∈ s.current.roles, r.key = n ∧
      deleteRole (.str n) s = ({ s.opened.opened with current := s.current.deleteRole r.id }, .ok true) := by
  have hq := query_healthy (fun t => t.roleOf? (.str n)) hs
  rcases Tables.roleOf?_str_cases s.current n with ⟨e, hr, hfs⟩ | ⟨hr, hout⟩ | ⟨r, hr, hmem, hkey⟩
  · exact .inl ⟨e, by simp only [deleteRole, hq, hr], hfs⟩
  · refine .inr (.inl ⟨by simp only [deleteRole, hq, hr], fun r hrm hkey => hout ?_⟩)
    rw [Tables.roleMap_keys]
    exact List.mem_map.2 ⟨r, hrm, hkey⟩
  · refine .inr (.inr ⟨r, hmem, hkey, ?_⟩)
    simp only [deleteRole, hq, hr]
    rw [write_of_ok (s := s.opened) hs]
    rfl

theorem delete_refines (d : Nat) (n : Text) (h : Healthy s)
    (hstore : ∀ e, ((Call.delete n).exec d s).2 = some e → e.fromStore = false) :
    Refines d (.delete n) s ((Call.delete n).exec d s).1 := by
  rcases deleteRole_spec n h.1 with ⟨e, he, hfs⟩ | ⟨hrun, hout⟩ | ⟨r, hmem, hkey, hrun⟩
  · exact absurd (hstore e (by simp [Call.exec, outcome, he])) (by simp [hfs])
  · simp only [Call.exec, outcome, hrun]
    refine ⟨h, .refl, ?_, .inr rfl⟩
    -- no entry carries the name, so dropping it keeps the list
    refine (List.filter_eq_self.2 fun e he => ?_).symm
    obtain ⟨r, hr, rfl⟩ := List.mem_map.1 he
    simpa using hout r hr
  · obtain ⟨hwf', hmap⟩ := Tables.roleMap_deleteRole h.2 hmem
    simp only [Call.exec, outcome, hrun]
    exact ⟨⟨h.1, hwf'⟩, .single (.deleteRole hmem), by simp [Call.plan, hmap, hkey], .inr rfl⟩

/-- **What seeding's creations do** on an open session that is not failed, for roles whose rules' records can be
made: the roles are inserted one after the other, and the first insertion that fails stops with its fault, failing the
session. -/
theorem seedCreate_spec (d : Nat) (L : List (Text × List Rule)) (hs : s.failed = false) (ha : s.active = true)
    (hL : ∀ e ∈ L, e.2.all (·.thaws (d + 1 + 2)) = true) :
    (∃ L1 n rs L2 t1 e, L = L1 ++ (n, rs) :: L2 ∧ Tables.InsertsRoles s.current L1 t1 ∧
        t1.insertRole (.str n) .null rs = .error e ∧
        seedDefaults.create d L s = ({ s with current := t1, failed := true }, .error e)) ∨
    ∃ t', Tables.InsertsRoles s.current L t' ∧ seedDefaults.create d L s = ({ s with current := t' }, .ok ()) := by
  induction L generalizing s with
  | nil => exact .inr ⟨s.current, .nil _, rfl⟩
  | cons e rest ih =>
    obtain ⟨n, rs⟩ := e
    have hst : storedRules (d + 1) (RuleSource.given (.items (rs.map .rule))) = .ok rs :=
      storedRules_rules (d + 1) rs (hL _ List.mem_cons_self)
    have hopen := Session.opened_of_active ha
    rcases createRole_spec (d + 1) n (.items (rs.map .rule)) .null hs with ⟨e, he, -⟩ | ⟨rules, hst', hins⟩
    · rw [hst] at he
      cases he
    · rw [hst] at hst'
      cases hst'
      rcases hins with ⟨e, hi, hrun⟩ | ⟨t1, id, v, hi, hrun⟩
      · refine .inl ⟨[], n, rs, rest, s.current, e, rfl, .nil _, hi, ?_⟩
        simp [seedDefaults.create, hrun, hopen]
      · -- the first role is inserted; the rest follow on the new tables
        have hstep : seedDefaults.create d ((n, rs) :: rest) s = seedDefaults.create d rest { s with current := t1 } := by
          simp [seedDefaults.create, hrun, hopen]
        rw [hstep]
        rcases ih (s := { s with current := t1 }) hs ha (fun e he => hL e (List.mem_cons_of_mem _ he)) with
          ⟨L1, n', rs', L2, t2, e, hL1, hins, hi', hrun'⟩ | ⟨t', hins, hrun'⟩
        · exact .inl ⟨(n, rs) :: L1, n', rs', L2, t2, e, by rw [hL1]; rfl, .cons hi hins, hi', hrun'⟩
        · exact .inr ⟨t', .cons hi hins, hrun'⟩

theorem seed_refines (d : Nat) (h : Healthy s) (hstore : ∀ e, (Call.seed.exec d s).2 = some e → e.fromStore = false) :
    Refines d .seed s (Call.seed.exec d s).1 := by
  have htab : s.opened.tables = .ok s.current := by simp [Session.tables, Session.opened, h.1]
  by_cases hr : s.current.roles.isEmpty
  · -- an empty store: the default roles are created, then the default user
    have hm : s.current.roleMap = [] := by simp [Tables.roleMap, List.isEmpty_iff.1 hr]
    rcases seedCreate_spec (s := s.opened) d defaultRoles h.1 rfl (defaultRoles_thaw _) with
      ⟨L1, n, rs, L2, t1, e, -, -, hi, hcr⟩ | ⟨t', hins, hcr⟩
    · have hrun : Call.seed.exec d s = ({ s.opened with current := t1, failed := true }, some e) := by
        simp [Call.exec, outcome, seedDefaults, htab, hr, hcr]
      exact absurd (hstore e (by rw [hrun])) (by simp [insertRole_error hi])
    · obtain ⟨hwf1, hmap1, -, hw1⟩ := hins.spec h.2
      have hopen : ({ s.opened with current := t' } : Session).opened = { s.opened with current := t' } :=
        Session.opened_of_active rfl
      cases hu : t'.insertUser (.str defaultUser) with
      | error e =>
        have hrun : Call.seed.exec d s = ({ s.opened with current := t', failed := true }, some e) := by
          simp [Call.exec, outcome, seedDefaults, htab, hr, hcr, hopen,
            write_of_error (f := fun t => t.insertUser (.str defaultUser)) (s := { s.opened with current := t' }) h.1 hu]
        exact absurd (hstore e (by rw [hrun])) (by simp [insertUser_error hu])
      | ok p =>
        obtain ⟨t'', ⟨⟩⟩ := p
        obtain ⟨hwf2, hmap2⟩ := insertUser_spec hwf1 hu
        have hrun : (Call.seed.exec d s).1 = { s.opened with current := t'' } := by
          simp [Call.exec, outcome, seedDefaults, htab, hr, hcr, hopen,
            write_of_ok (f := fun t => t.insertUser (.str defaultUser)) (s := { s.opened with current := t' }) h.1 hu]
        rw [hrun]
        exact ⟨⟨h.1, hwf2⟩, hw1.tail (.insertUser hu), by simp [Call.plan, hm, hmap2, hmap1], .inr rfl⟩
  · -- roles already present: nothing is written
    have hrun : Call.seed.exec d s = (s.opened, none) := by
      simp [Call.exec, outcome, seedDefaults, htab, hr]
    have hm : s.current.roleMap.isEmpty = false := by simpa [Tables.roleMap] using hr
    rw [hrun]
    exact ⟨h, .refl, by simp [Call.plan, hm], .inr rfl⟩

/-- **One call refines its plan**: from a healthy session, a call that raises no fault of the store leaves a session
that refines the call (`Refines`). -/
theorem exec_refines (d : Nat) (c : Call) (h : Healthy s)
    (hstore : ∀ e, (c.exec d s).2 = some e → e.fromStore = false) : Refines d c s (c.exec d s).1 := by
  cases c with
  | create n src desc => exact create_refines d n src desc h hstore
  | addRule n item => exact addRule_refines d n item h hstore
  | delete n => exact delete_refines d n h hstore
  | seed => exact seed_refines d h hstore

end Steps

/-! ## A run of calls -/

/-- **A run refines the plan of its calls**, by induction on the run with `Healthy` as the invariant: the last session
is healthy, its tables follow from the first's by the service's writes, and its roles are the plan of the run. -/
theorem runAll_refines (cs : List (Nat × Call)) {s : Session} (h : Healthy s)
    (hstore : ∀ e ∈ (Call.runAll s cs).2, e.fromStore = false) :
    Healthy (Call.runAll s cs).1 ∧ Relation.ReflTransGen Tables.Written s.current (Call.runAll s cs).1.current ∧
      (Call.runAll s cs).1.current.roleMap = Call.planAll s.current.roleMap cs := by
  induction cs generalizing s with
  | nil => exact ⟨h, .refl, rfl⟩
  | cons dc cs ih =>
    obtain ⟨d, c⟩ := dc
    -- the faults of the run are those of its first call, then those of the rest
    have hfirst : ∀ e, (c.exec d s).2 = some e → e.fromStore = false :=
      fun e he => hstore e (by simp [Call.runAll, he])
    have hrest : ∀ e ∈ (Call.runAll (c.exec d s).1 cs).2, e.fromStore = false :=
      fun e he => hstore e (by simp [Call.runAll, he])
    have hc := exec_refines d c h hfirst
    obtain ⟨hh, hw, hmap⟩ := ih hc.healthy hrest
    rw [hc.plan] at hmap
    exact ⟨hh, hc.written.trans hw, hmap⟩

theorem roleMap_keys_nodup {t : Tables} (hwf : t.WF) : (t.roleMap.map Prod.fst).Nodup := by
  rw [Tables.roleMap_keys]
  exact hwf.keys_nodup

/-- Loading the roles after a run on a fresh store without faults of the store, whose calls are given formed rules:
the plan of the run, when all its rules still freeze where loading reads them back. -/
theorem loadRoleRules_runAll (depth : Nat) (cs : List (Nat × Call)) (hformed : ∀ dc ∈ cs, dc.2.Formed)
    (hstore : ∀ e ∈ (Call.runAll {} cs).2, e.fromStore = false) :
    (loadRoleRules depth (Call.runAll {} cs).1).2 =
      if (Call.planAll [] cs).all (fun e => e.2.all (Rule.freezesAt (depth + 5))) then
        .ok ((Text.sortOn Prod.fst (Call.planAll [] cs)).map fun e => (.str e.1, e.2))
      else .error (.recursion .comparison) := by
  obtain ⟨hh, -, hmap⟩ := runAll_refines cs ⟨rfl, Tables.wf_empty⟩ hstore
  have hplan : (Call.runAll {} cs).1.current.roleMap = Call.planAll [] cs := hmap
  rw [loadRoleRules_healthy depth hh.1 hh.2 (by rw [hplan]; exact planAll_formed cs hformed), hplan]

/-- The names planned along a run without faults of the store are distinct: they are the keys of the role rows. -/
theorem planAll_keys_nodup (cs : List (Nat × Call)) (hstore : ∀ e ∈ (Call.runAll {} cs).2, e.fromStore = false) :
    ((Call.planAll [] cs).map Prod.fst).Nodup := by
  obtain ⟨hh, -, hmap⟩ := runAll_refines cs ⟨rfl, Tables.wf_empty⟩ hstore
  have hplan : (Call.runAll {} cs).1.current.roleMap = Call.planAll [] cs := hmap
  rw [← hplan]
  exact roleMap_keys_nodup hh.2

end Store

end RoleRules
