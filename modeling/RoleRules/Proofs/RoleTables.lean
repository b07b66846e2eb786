import RoleRules.Store.Roles
import Mathlib.Data.List.Nodup
import Mathlib.Data.List.Find
/-!
# RoleTables — the role tables read as a list of named rule lists

The role service keeps roles, permissions and the links between them in tables, with every identifier taken from one
counter. Read through the links, the tables are a list of roles in the order they were created, each name with its
rules in position order (`Tables.roleMap`). This module says what each write of the service does to that list:

* adding a role with its rules appends the name with the rules (`roleMap_insertRole`);
* appending rules to a role extends that role's rules and keeps the others (`roleMap_appendRules`);
* deleting a role drops its name and keeps the others, although deleting also removes permissions
  (`roleMap_deleteRole`).

Each holds of tables that satisfy `Tables.WF` (identifiers below the counter, role identifiers and names distinct,
names kept as texts), and each write keeps `Tables.WF`. A write or look-up the store refuses fails with a fault of the
store (`Fault.fromStore`).
-/
namespace RoleRules

/-- The faults that come from the store: constraint failures, a session that must be rolled back, and values a
column cannot take. -/
def Fault.fromStore : Fault → Bool
  | .integrity | .pendingRollback | .unbindable | .overflow | .unencodable .. => true
  | _ => false

namespace Store

theorem checkText_error {t : Text} {e : Fault} (h : checkText t = .error e) : e.fromStore = true := by
  unfold checkText at h
  split at h
  · cases h; rfl
  · cases h

theorem columnText_error {v : Value} {e : Fault} (h : columnText v = .error e) : e.fromStore = true := by
  unfold columnText at h
  cases hb : bind v with
  | error e' =>
    rw [hb] at h
    cases h
    -- binding refuses a value too large, unencodable or of no column kind
    unfold bind at hb
    split at hb <;> (try split at hb) <;> cases hb <;> rfl
  | ok b => rw [hb] at h; cases h

theorem surrogateRun?_of_columnText {n : Text} {k : Option Text} (h : columnText (.str n) = .ok k) :
    surrogateRun? n = none ∧ k = some n := by
  unfold columnText bind at h
  cases hs : surrogateRun? n with
  | none =>
    simp only [hs, Except.map, Except.ok.injEq, Bound.columnText] at h
    exact ⟨rfl, h.symm⟩
  | some ab => simp [hs, Except.map] at h

namespace Tables

/-- The roles of the tables in the order they were created, each name with its rules in position order. -/
def roleMap (t : Tables) : List (Text × List Rule) :=
  t.roles.map fun r => (r.key, t.rulesOf r.id)

/-- What the role service's writes keep: identifiers come from the counter, so every row and link refers to
identifiers below it; role identifiers and role names are distinct; every role's name is the text the table keeps. -/
structure WF (t : Tables) : Prop where
  role_lt : ∀ r ∈ t.roles, r.id < t.nextId
  link_lt : ∀ l ∈ t.links, l.role < t.nextId ∧ l.permission < t.nextId
  permission_lt : ∀ p ∈ t.permissions, p.id < t.nextId
  ids_nodup : (t.roles.map (·.id)).Nodup
  keys_nodup : (t.roles.map (·.key)).Nodup
  names : ∀ r ∈ t.roles, r.name = .str r.key

theorem wf_empty : WF {} where
  role_lt := by simp
  link_lt := by simp
  permission_lt := by simp
  ids_nodup := by simp
  keys_nodup := by simp
  names := by simp

@[simp] theorem roleMap_empty : roleMap {} = [] := rfl

theorem checkRules_error {rules : List Rule} {e : Fault} (h : rules.forM checkRule = .error e) :
    e.fromStore = true := by
  induction rules with
  | nil => cases h
  | cons r rest ih =>
    simp only [List.forM] at h
    cases hr : checkRule r with
    | error e' =>
      rw [hr] at h
      cases h
      -- the rule's action, subject or reason has no UTF-8 form
      unfold checkRule at hr
      cases ha : checkText r.action with
      | error e'' => rw [ha] at hr; cases hr; exact checkText_error ha
      | ok _ =>
        cases hs : checkText r.subject with
        | error e'' => rw [ha, hs] at hr; cases hr; exact checkText_error hs
        | ok _ =>
          cases hreason : r.reason with
          | none =>
            simp only [ha, hs, hreason] at hr
            cases hr
          | some s =>
            simp only [ha, hs, hreason] at hr
            exact checkText_error hr
    | ok u => rw [hr] at h; exact ih h

/-! ## Storing rules as permissions of a role -/

section Permissions

variable (t : Tables) (role : Nat)

@[simp] theorem addPermissions_roles (start : Nat) (rules : List Rule) :
    (t.addPermissions role start rules).roles = t.roles := by
  induction rules generalizing t start with
  | nil => rfl
  | cons r rest ih => exact ih _ _

@[simp] theorem addPermissions_nextId (start : Nat) (rules : List Rule) :
    (t.addPermissions role start rules).nextId = t.nextId + rules.length := by
  induction rules generalizing t start with
  | nil => rfl
  | cons r rest ih => simp only [addPermissions, ih, List.length_cons]; omega

/-- A permission identifier below the counter finds what it found before a fresh permission is added. -/
theorem ruleOf?_append_fresh {ps : List PermissionRow} {pid q : Nat} (hps : ∀ p ∈ ps, p.id < pid) (r : Rule) :
    ((ps ++ [(⟨pid, r⟩ : PermissionRow)]).find? fun p => p.id == q).map (·.rule) =
      if q = pid then some r else (ps.find? fun p => p.id == q).map (·.rule) := by
  rw [List.find?_append]
  by_cases hq : q = pid
  · subst hq
    have hnone : ps.find? (fun p => p.id == q) = none :=
      List.find?_eq_none.2 fun p hp => by simpa using Nat.ne_of_lt (hps p hp)
    simp [hnone]
  · have hne : (pid == q) = false := beq_false_of_ne (Ne.symm hq)
    cases ps.find? (fun p => p.id == q) <;> simp [hq, hne]

/-- **Storing rules for a role appends them to that role's rules and to no other's**, and keeps `WF` when the role's
identifier is below the counter. -/
theorem addPermissions_spec (rules : List Rule) :
    ∀ (t : Tables) (start : Nat), t.WF → role < t.nextId →
      (t.addPermissions role start rules).WF ∧
      ∀ x, (t.addPermissions role start rules).rulesOf x = t.rulesOf x ++ if x = role then rules else [] := by
  induction rules with
  | nil => intro t start hwf _; exact ⟨hwf, fun x => by simp [addPermissions]⟩
  | cons r rest ih =>
    intro t start hwf hrole
    -- one permission and its link, then the rest from the next identifier on
    let t1 : Tables := { t with
      permissions := t.permissions ++ [⟨t.nextId, r⟩]
      links := t.links ++ [⟨role, t.nextId, start⟩]
      nextId := t.nextId + 1 }
    have hwf1 : t1.WF := {
      role_lt := fun x hx => Nat.lt_succ_of_lt (hwf.role_lt x hx)
      link_lt := by
        intro l hl
        rcases List.mem_append.1 hl with hl | hl
        · exact ⟨Nat.lt_succ_of_lt (hwf.link_lt l hl).1, Nat.lt_succ_of_lt (hwf.link_lt l hl).2⟩
        · simp only [List.mem_singleton] at hl
          subst hl
          exact ⟨Nat.lt_succ_of_lt hrole, Nat.lt_succ_self _⟩
      permission_lt := by
        intro p hp
        rcases List.mem_append.1 hp with hp | hp
        · exact Nat.lt_succ_of_lt (hwf.permission_lt p hp)
        · simp only [List.mem_singleton] at hp
          subst hp
          exact Nat.lt_succ_self _
      ids_nodup := hwf.ids_nodup
      keys_nodup := hwf.keys_nodup
      names := hwf.names }
    have hrules1 : ∀ x, t1.rulesOf x = t.rulesOf x ++ if x = role then [r] else [] := by
      intro x
      have hold : ∀ l ∈ t.linksOf x, t1.ruleOf? l.permission = t.ruleOf? l.permission := by
        intro l hl
        have hlt := (hwf.link_lt l (List.mem_of_mem_filter hl)).2
        simp only [ruleOf?, t1]
        rw [ruleOf?_append_fresh hwf.permission_lt r, if_neg (Nat.ne_of_lt hlt)]
      have hnew : t1.ruleOf? t.nextId = some r := by
        simp only [ruleOf?, t1]
        rw [ruleOf?_append_fresh hwf.permission_lt r, if_pos rfl]
      have hlinks : t1.linksOf x = t.linksOf x ++ if x = role then [⟨role, t.nextId, start⟩] else [] := by
        unfold linksOf
        simp only [t1, List.filter_append]
        by_cases hx : x = role
        · subst hx; simp
        · simp [hx, beq_false_of_ne (Ne.symm hx)]
      show (t1.linksOf x).filterMap (fun l => t1.ruleOf? l.permission) =
        (t.linksOf x).filterMap (fun l => t.ruleOf? l.permission) ++ _
      rw [hlinks, List.filterMap_append, List.filterMap_congr hold]
      by_cases hx : x = role
      · simp [hx, hnew]
      · simp [hx]
    obtain ⟨hwf', hrules'⟩ := ih t1 (start + 1) hwf1 (Nat.lt_succ_of_lt hrole)
    refine ⟨hwf', fun x => ?_⟩
    show (t1.addPermissions role (start + 1) rest).rulesOf x = _
    rw [hrules', hrules1]
    by_cases hx : x = role <;> simp [hx]

end Permissions

/-! ## The three writes -/

theorem rulesOf_eq_nil {t : Tables} {x : Nat} (h : ∀ l ∈ t.links, l.role ≠ x) : t.rulesOf x = [] := by
  have : t.linksOf x = [] := List.filter_eq_nil_iff.2 fun l hl => by simpa using h l hl
  simp [rulesOf, this]

/-- What inserting a role under a text name did: the name was free, and the new row took the next identifier before
its rules were stored for it. -/
theorem insertRole_eq_ok {t t' : Tables} {n : Text} {description : Value} {rules : List Rule} {id : Nat}
    (h : t.insertRole (.str n) description rules = .ok (t', id)) :
    t.roleNamed? n = none ∧ id = t.nextId ∧ ∃ note, t' = addPermissions
      { t with roles := t.roles ++ [⟨t.nextId, n, .str n, note, description⟩], nextId := t.nextId + 1 } t.nextId 0 rules := by
  unfold insertRole at h
  cases hc : rules.forM checkRule with
  | error e => simp [hc, Bind.bind, Except.bind] at h
  | ok u =>
    cases hk : columnText (.str n) with
    | error e => simp [hc, hk, Bind.bind, Except.bind] at h
    | ok key? =>
      obtain ⟨-, rfl⟩ := surrogateRun?_of_columnText hk
      cases hd : columnText description with
      | error e => simp [hc, hk, hd, Bind.bind, Except.bind] at h
      | ok note =>
        cases hnamed : t.roleNamed? n with
        | some r => simp [hc, hk, hd, hnamed, Bind.bind, Except.bind] at h
        | none =>
          simp only [hc, hk, hd, hnamed, Bind.bind, Except.bind, pure, Except.pure, Option.isSome_none,
            Bool.false_eq_true, if_false, Except.ok.injEq, Prod.mk.injEq] at h
          obtain ⟨rfl, rfl⟩ := h
          exact ⟨rfl, rfl, note, rfl⟩

/-- Appending rules that passed their checks stores them after the role's links. -/
theorem appendRules_eq_ok {t t' : Tables} {role : Nat} {rules : List Rule} (h : t.appendRules role rules = .ok t') :
    t' = t.addPermissions role (t.linksOf role).length rules := by
  unfold appendRules at h
  cases hc : rules.forM checkRule with
  | error e => rw [hc] at h; cases h
  | ok u =>
    rw [hc] at h
    cases h
    rfl

/-- Adding a user appends a row under the next identifier and touches no other table. -/
theorem insertUser_eq_ok {t t' : Tables} {v : Value} {u : Unit} (h : t.insertUser v = .ok (t', u)) :
    ∃ e, t' = { t with users := t.users ++ [⟨t.nextId, e⟩], nextId := t.nextId + 1 } := by
  unfold insertUser at h
  cases hc : columnText v with
  | error e' => simp [hc, Bind.bind, Except.bind] at h
  | ok o =>
    cases o with
    | none => simp [hc, Bind.bind, Except.bind] at h
    | some a =>
      simp only [hc, Bind.bind, Except.bind] at h
      split at h
      · cases h
      · cases h
        exact ⟨a, rfl⟩

/-- **Adding a role appends its name with its rules.** The name was not taken, and `WF` is kept. -/
theorem roleMap_insertRole {t t' : Tables} {n : Text} {description : Value} {rules : List Rule} {id : Nat}
    (hwf : t.WF) (h : t.insertRole (.str n) description rules = .ok (t', id)) :
    t'.WF ∧ n ∉ t.roleMap.map Prod.fst ∧ t'.roleMap = t.roleMap ++ [(n, rules)] := by
  obtain ⟨hnamed, rfl, note, rfl⟩ := insertRole_eq_ok h
  -- the new row first, then its permissions
  have hfree : ∀ r ∈ t.roles, r.key ≠ n := fun r hr hrk => by
    have := List.find?_eq_none.1 hnamed r hr
    simp [hrk] at this
  let t0 : Tables := { t with
    roles := t.roles ++ [⟨t.nextId, n, .str n, note, description⟩], nextId := t.nextId + 1 }
  have hwf0 : t0.WF := {
    role_lt := by
      intro r hr
      rcases List.mem_append.1 hr with hr | hr
      · exact Nat.lt_succ_of_lt (hwf.role_lt r hr)
      · simp only [List.mem_singleton] at hr; subst hr; exact Nat.lt_succ_self _
    link_lt := fun l hl =>
      ⟨Nat.lt_succ_of_lt (hwf.link_lt l hl).1, Nat.lt_succ_of_lt (hwf.link_lt l hl).2⟩
    permission_lt := fun p hp => Nat.lt_succ_of_lt (hwf.permission_lt p hp)
    ids_nodup := by
      rw [List.map_append, List.nodup_append]
      refine ⟨hwf.ids_nodup, by simp, ?_⟩
      intro a ha b hb
      obtain ⟨r, hr, rfl⟩ := List.mem_map.1 ha
      simp only [List.map_cons, List.map_nil, List.mem_singleton] at hb
      subst hb
      exact (Nat.ne_of_lt (hwf.role_lt r hr))
    keys_nodup := by
      rw [List.map_append, List.nodup_append]
      refine ⟨hwf.keys_nodup, by simp, ?_⟩
      intro a ha b hb
      obtain ⟨r, hr, rfl⟩ := List.mem_map.1 ha
      simp only [List.map_cons, List.map_nil, List.mem_singleton] at hb
      subst hb
      exact hfree r hr
    names := by
      intro r hr
      rcases List.mem_append.1 hr with hr | hr
      · exact hwf.names r hr
      · simp only [List.mem_singleton] at hr; subst hr; rfl }
  obtain ⟨hwf', hrules'⟩ := addPermissions_spec t.nextId rules t0 0 hwf0 (Nat.lt_succ_self _)
  refine ⟨hwf', fun hn => ?_, ?_⟩
  · obtain ⟨e, he, hen⟩ := List.mem_map.1 hn
    obtain ⟨r, hr, rfl⟩ := List.mem_map.1 he
    exact hfree r hr hen
  · have hold : ∀ r ∈ t.roles, (t0.addPermissions t.nextId 0 rules).rulesOf r.id = t.rulesOf r.id := by
      intro r hr
      rw [hrules' r.id, if_neg (Nat.ne_of_lt (hwf.role_lt r hr)), List.append_nil]
      rfl
    have hnew : (t0.addPermissions t.nextId 0 rules).rulesOf t.nextId = rules := by
      rw [hrules' t.nextId, if_pos rfl]
      show t.rulesOf t.nextId ++ rules = rules
      rw [rulesOf_eq_nil fun l hl => (Nat.ne_of_lt (hwf.link_lt l hl).1), List.nil_append]
    unfold roleMap
    rw [addPermissions_roles, List.map_append, List.map_congr_left fun r hr => by rw [hold r hr]]
    simp [t0, hnew]

theorem id_eq_iff_key_eq {t : Tables} (hwf : t.WF) {r r' : RoleRow} (hr : r ∈ t.roles) (hr' : r' ∈ t.roles) :
    r'.id = r.id ↔ r'.key = r.key := by
  constructor
  · intro h; rw [List.inj_on_of_nodup_map hwf.ids_nodup hr' hr h]
  · intro h; rw [List.inj_on_of_nodup_map hwf.keys_nodup hr' hr h]

/-- **Appending rules to a role extends that role's rules and keeps every other role's**, and keeps `WF`. -/
theorem roleMap_appendRules {t t' : Tables} {r : RoleRow} {rules : List Rule} (hwf : t.WF) (hr : r ∈ t.roles)
    (h : t.appendRules r.id rules = .ok t') :
    t'.WF ∧ t'.roleMap = t.roleMap.map fun e => if e.1 = r.key then (e.1, e.2 ++ rules) else e := by
  obtain rfl := appendRules_eq_ok h
  obtain ⟨hwf', hrules'⟩ := addPermissions_spec r.id rules t (t.linksOf r.id).length hwf (hwf.role_lt r hr)
  refine ⟨hwf', ?_⟩
  unfold roleMap
  rw [addPermissions_roles, List.map_map]
  refine List.map_congr_left fun r' hr' => ?_
  -- only the row with the role's identifier, which is the row with its name, gains the rules
  rw [hrules' r'.id]
  by_cases hk : r'.key = r.key
  · simp [hk, (id_eq_iff_key_eq hwf hr hr').2 hk]
  · have hid : r'.id ≠ r.id := fun hid => hk ((id_eq_iff_key_eq hwf hr hr').1 hid)
    simp [hk, hid]

theorem linksOf_deleteRole_of_ne {t : Tables} {x y : Nat} (hne : y ≠ x) : (t.deleteRole x).linksOf y = t.linksOf y := by
  unfold linksOf
  show (t.links.filter fun l => l.role != x).filter (fun l => l.role == y) = _
  rw [List.filter_filter]
  refine List.filter_congr fun l _ => ?_
  by_cases hl : l.role = y
  · simp [hl, hne]
  · simp [hl]

/-- Deleting a role keeps every other role's rules: its links stay, and so does each permission they use. -/
theorem rulesOf_deleteRole_of_ne {t : Tables} {x y : Nat} (hne : y ≠ x) : (t.deleteRole x).rulesOf y = t.rulesOf y := by
  unfold rulesOf
  rw [linksOf_deleteRole_of_ne hne]
  refine List.filterMap_congr fun l hl => ?_
  have hl' : l ∈ t.links.filter fun l => l.role != x := by
    have := List.mem_filter.1 hl
    exact List.mem_filter.2 ⟨this.1, by simpa [beq_iff_eq.1 this.2] using hne⟩
  unfold ruleOf?
  show ((t.permissions.filter _).find? _).map _ = _
  rw [List.find?_filter]
  congr 1
  refine List.find?_congr fun p _ => ?_
  by_cases hp : p.id = l.permission
  · simp only [hp, beq_self_eq_true, Bool.or_eq_true, Bool.not_eq_true', decide_eq_true_eq]
    exact ⟨.inr (List.any_eq_true.2 ⟨l, hl', beq_self_eq_true _⟩), trivial⟩
  · simp [hp]

/-- **Deleting a role drops its name and keeps every other role's rules**, although it also deletes the permissions
only that role used; `WF` is kept. -/
theorem roleMap_deleteRole {t : Tables} {r : RoleRow} (hwf : t.WF) (hr : r ∈ t.roles) :
    (t.deleteRole r.id).WF ∧ (t.deleteRole r.id).roleMap = t.roleMap.filter fun e => e.1 != r.key := by
  have hroles : (t.deleteRole r.id).roles = t.roles.filter fun r' => r'.id != r.id := rfl
  have hkeep : ∀ r' ∈ t.roles, r'.id ≠ r.id → (t.deleteRole r.id).rulesOf r'.id = t.rulesOf r'.id :=
    fun _ _ hne => rulesOf_deleteRole_of_ne hne
  refine ⟨⟨?_, ?_, ?_, ?_, ?_, ?_⟩, ?_⟩
  · intro r' hr'
    rw [hroles] at hr'
    exact hwf.role_lt r' (List.mem_of_mem_filter hr')
  · intro l hl
    exact hwf.link_lt l (List.mem_of_mem_filter hl)
  · intro p hp
    exact hwf.permission_lt p (List.mem_of_mem_filter hp)
  · rw [hroles]
    exact hwf.ids_nodup.sublist (List.filter_sublist.map _)
  · rw [hroles]
    exact hwf.keys_nodup.sublist (List.filter_sublist.map _)
  · intro r' hr'
    rw [hroles] at hr'
    exact hwf.names r' (List.mem_of_mem_filter hr')
  · unfold roleMap
    rw [hroles, List.filter_map]
    have hsel : ∀ r' ∈ t.roles, (r'.id != r.id) = ((fun e : Text × List Rule => e.1 != r.key) ∘
        fun r' => (r'.key, t.rulesOf r'.id)) r' := by
      intro r' hr'
      by_cases h : r'.id = r.id
      · simp [h, (id_eq_iff_key_eq hwf hr hr').1 h]
      · have hk : r'.key ≠ r.key := fun hk => h ((id_eq_iff_key_eq hwf hr hr').2 hk)
        rw [Function.comp_apply, bne_iff_ne.2 h, bne_iff_ne.2 hk]
    rw [List.filter_congr hsel]
    refine List.map_congr_left fun r' hr' => ?_
    have hne : r'.id ≠ r.id := by
      have := (List.mem_filter.1 hr').2
      simpa [Function.comp_apply, (id_eq_iff_key_eq hwf hr (List.mem_of_mem_filter hr')).symm] using this
    rw [hkeep r' (List.mem_of_mem_filter hr') hne]

theorem roleNamed?_eq_some {t : Tables} {n : Text} {r : RoleRow} (h : t.roleNamed? n = some r) :
    r ∈ t.roles ∧ r.key = n :=
  ⟨List.mem_of_find?_eq_some h, by simpa using List.find?_some h⟩

theorem roleNamed?_eq_none {t : Tables} {n : Text} (h : t.roleNamed? n = none) : n ∉ t.roleMap.map Prod.fst := by
  intro hn
  obtain ⟨e, he, rfl⟩ := List.mem_map.1 hn
  obtain ⟨r, hr, rfl⟩ := List.mem_map.1 he
  have := List.find?_eq_none.1 h r hr
  simp at this

/-- The role a text finds is the one kept under that text; a text that cannot be bound is a fault of the store. -/
theorem roleOf?_str {t : Tables} {n : Text} {k : Option RoleRow} (h : t.roleOf? (.str n) = .ok k) :
    k = t.roleNamed? n := by
  unfold roleOf? at h
  cases hc : columnText (.str n) with
  | error e => rw [hc] at h; cases h
  | ok key? =>
    obtain ⟨-, rfl⟩ := surrogateRun?_of_columnText hc
    rw [hc] at h
    simp only [Except.map, Except.ok.injEq, Option.bind_some] at h
    exact h.symm

theorem roleOf?_error {t : Tables} {name : Value} {e : Fault} (h : t.roleOf? name = .error e) :
    e.fromStore = true := by
  unfold roleOf? at h
  cases hc : columnText name with
  | error e' => rw [hc] at h; cases h; exact columnText_error hc
  | ok key? => rw [hc] at h; cases h

end Tables

end Store

end RoleRules
