import RoleRules.Proofs.RoleStore
/-!
# StoreIntegrity — every permission belongs to one link, and positions count up

Besides the roles read back through their links, the role service keeps the link table consistent with the other two
(`Tables.Linked`): every permission is used by exactly one link, every link names a role and a permission that exist,
and the links of each role carry the positions `0, 1, …` in the order the role's rules are read.

A service call writes the tables by a few kinds of write (`Tables.Written`): adding a role with its permissions,
appending permissions to a role, deleting a role, adding a user. Each keeps `WF` and `Linked` (`Written.sound`), and a
run without faults of the store is a chain of such writes (`runAll_refines`).

Main statement (`links_consistent_along_runs`): after every run of calls on a fresh store in which no call fails with a
fault of the store, the tables are `Linked`, and deleting any role there removes it, its links and exactly its
permissions, leaving every other role's links and rules as they were (`Tables.Deleted`).
-/
namespace RoleRules.Store

namespace Tables

/-- The link table agrees with the others: every permission is used by exactly one link, every link names a role and a
permission that exist, and the links of a role carry the positions `0, 1, …` in their order. -/
structure Linked (t : Tables) : Prop where
  permission_ids : (t.permissions.map (·.id)).Nodup
  linked_once : ∀ p ∈ t.permissions, t.links.countP (·.permission == p.id) = 1
  link_role : ∀ l ∈ t.links, ∃ r ∈ t.roles, r.id = l.role
  link_permission : ∀ l ∈ t.links, ∃ p ∈ t.permissions, p.id = l.permission
  positions : ∀ r ∈ t.roles, (t.linksOf r.id).map (·.position) = List.range (t.linksOf r.id).length

/-- What deleting the role `r` from `t` left: the other roles, the links of the other roles, the permissions that `r`
did not use, and every other role with the links and rules it had. -/
structure Deleted (t t' : Tables) (r : RoleRow) : Prop where
  roles : t'.roles = t.roles.filter fun r' => r'.id != r.id
  links : t'.links = t.links.filter fun l => l.role != r.id
  permissions : t'.permissions = t.permissions.filter fun p => p.id ∉ (t.linksOf r.id).map (·.permission)
  others : ∀ r' ∈ t.roles, r'.id ≠ r.id → t'.linksOf r'.id = t.linksOf r'.id ∧ t'.rulesOf r'.id = t.rulesOf r'.id

theorem linked_empty : Linked {} where
  permission_ids := by simp
  linked_once := by simp
  link_role := by simp
  link_permission := by simp
  positions := by simp [linksOf]

/-- Every link finds its permission, so a role has one rule per link. -/
theorem Linked.rulesOf_length {t : Tables} (hl : t.Linked) (x : Nat) : (t.rulesOf x).length = (t.linksOf x).length := by
  unfold rulesOf
  rw [List.filterMap_length_eq_length]
  intro l hlx
  obtain ⟨p, hp, hid⟩ := hl.link_permission l (List.mem_of_mem_filter hlx)
  have hfind : (t.permissions.find? fun q => q.id == l.permission).isSome :=
    List.find?_isSome.2 ⟨p, hp, by simp [hid]⟩
  simpa [ruleOf?] using hfind

/-- The one link that uses a permission: any two links using it are the same. -/
theorem Linked.link_unique {t : Tables} (hl : t.Linked) {p : PermissionRow} (hp : p ∈ t.permissions) {l l' : LinkRow}
    (hlm : l ∈ t.links) (hl'm : l' ∈ t.links) (h : l.permission = p.id) (h' : l'.permission = p.id) : l = l' := by
  have hone := hl.linked_once p hp
  rw [List.countP_eq_length_filter, List.length_eq_one_iff] at hone
  obtain ⟨y, hy⟩ := hone
  have hmem : ∀ z ∈ t.links, z.permission = p.id → z = y := fun z hz hzp =>
    List.mem_singleton.1 (hy ▸ List.mem_filter.2 ⟨hz, by simp [hzp]⟩)
  rw [hmem l hlm h, hmem l' hl'm h']

/-! ## Storing rules for a role -/

section Permissions

variable {role : Nat}

/-- Adding one permission with a fresh identifier and its link at the end of the role's links keeps `Linked`. -/
theorem linked_addPermission {t : Tables} (hp : ∀ p ∈ t.permissions, p.id < t.nextId)
    (hlp : ∀ l ∈ t.links, l.permission < t.nextId) (hl : t.Linked) (hrole : ∃ x ∈ t.roles, x.id = role)
    (r : Rule) :
    Linked { t with
      permissions := t.permissions ++ [⟨t.nextId, r⟩]
      links := t.links ++ [⟨role, t.nextId, (t.linksOf role).length⟩]
      nextId := t.nextId + 1 } where
  permission_ids := by
    rw [List.map_append, List.nodup_append]
    refine ⟨hl.permission_ids, by simp, fun a ha b hb => ?_⟩
    obtain ⟨p, hp', rfl⟩ := List.mem_map.1 ha
    simp only [List.map_cons, List.map_nil, List.mem_singleton] at hb
    subst hb
    exact Nat.ne_of_lt (hp p hp')
  linked_once := by
    intro p hpm
    rw [List.countP_append, List.countP_singleton]
    rcases List.mem_append.1 hpm with hpm | hpm
    · -- an old permission keeps its one link: the new link uses the fresh identifier
      have hne : (t.nextId == p.id) = false := beq_false_of_ne (Nat.ne_of_gt (hp p hpm))
      simp [hl.linked_once p hpm, hne]
    · -- the new permission is used by the new link alone
      simp only [List.mem_singleton] at hpm
      subst hpm
      have hnone : t.links.countP (·.permission == t.nextId) = 0 :=
        List.countP_eq_zero.2 fun l hlm => by simpa using Nat.ne_of_lt (hlp l hlm)
      simp [hnone]
  link_role := by
    intro l hlm
    rcases List.mem_append.1 hlm with hlm | hlm
    · exact hl.link_role l hlm
    · simp only [List.mem_singleton] at hlm
      subst hlm
      exact hrole
  link_permission := by
    intro l hlm
    rcases List.mem_append.1 hlm with hlm | hlm
    · obtain ⟨p, hp', hid⟩ := hl.link_permission l hlm
      exact ⟨p, List.mem_append_left _ hp', hid⟩
    · simp only [List.mem_singleton] at hlm
      subst hlm
      exact ⟨⟨t.nextId, r⟩, List.mem_append_right _ List.mem_cons_self, rfl⟩
  positions := by
    intro x hx
    show ((t.links ++ _).filter fun l => l.role == x.id).map (·.position) =
      List.range ((t.links ++ _).filter fun l => l.role == x.id).length
    rw [List.filter_append]
    by_cases hxr : x.id = role
    · -- the role's links gain one at the next position
      subst hxr
      have hpos := hl.positions x hx
      unfold linksOf at hpos ⊢
      simp [hpos, List.range_succ]
    · have hne : (role == x.id) = false := beq_false_of_ne (Ne.symm hxr)
      simpa [hne, linksOf] using hl.positions x hx

/-- **Storing rules for an existing role keeps `Linked`**, when they start at the position after the role's links. -/
theorem linked_addPermissions (rules : List Rule) : ∀ (t : Tables) (start : Nat),
    (∀ p ∈ t.permissions, p.id < t.nextId) → (∀ l ∈ t.links, l.permission < t.nextId) → t.Linked →
    (∃ x ∈ t.roles, x.id = role) → start = (t.linksOf role).length → (t.addPermissions role start rules).Linked := by
  induction rules with
  | nil => intro t start _ _ hl _ _; exact hl
  | cons r rest ih =>
    intro t start hp hlp hl hrole hstart
    subst hstart
    -- one permission and its link, then the rest from the next identifier and position on
    refine ih _ _ ?_ ?_ (linked_addPermission hp hlp hl hrole r) hrole ?_
    · intro p hpm
      rcases List.mem_append.1 hpm with hpm | hpm
      · exact Nat.lt_succ_of_lt (hp p hpm)
      · simp only [List.mem_singleton] at hpm
        subst hpm
        exact Nat.lt_succ_self _
    · intro l hlm
      rcases List.mem_append.1 hlm with hlm | hlm
      · exact Nat.lt_succ_of_lt (hlp l hlm)
      · simp only [List.mem_singleton] at hlm
        subst hlm
        exact Nat.lt_succ_self _
    · simp [linksOf, List.filter_append]

end Permissions

/-! ## The four writes -/

theorem linked_insertRole {t t' : Tables} {n : Text} {description : Value} {rules : List Rule} {id : Nat}
    (hwf : t.WF) (hl : t.Linked) (h : t.insertRole (.str n) description rules = .ok (t', id)) : t'.Linked := by
  obtain ⟨-, rfl, note, rfl⟩ := insertRole_eq_ok h
  -- the new row has no links yet: every link names an older role
  have hnolinks : t.linksOf t.nextId = [] :=
    List.filter_eq_nil_iff.2 fun l hlm => by simpa using Nat.ne_of_lt (hwf.link_lt l hlm).1
  refine linked_addPermissions rules _ 0 (fun p hp => Nat.lt_succ_of_lt (hwf.permission_lt p hp))
    (fun l hlm => Nat.lt_succ_of_lt (hwf.link_lt l hlm).2) ⟨hl.permission_ids, hl.linked_once, ?_,
      hl.link_permission, ?_⟩ ⟨_, List.mem_append_right _ List.mem_cons_self, rfl⟩
    (by show 0 = (t.linksOf t.nextId).length; rw [hnolinks]; rfl)
  · intro l hlm
    obtain ⟨r, hr, hid⟩ := hl.link_role l hlm
    exact ⟨r, List.mem_append_left _ hr, hid⟩
  · intro x hx
    rcases List.mem_append.1 hx with hx | hx
    · exact hl.positions x hx
    · simp only [List.mem_singleton] at hx
      subst hx
      show (t.linksOf t.nextId).map (·.position) = List.range (t.linksOf t.nextId).length
      rw [hnolinks]
      rfl

theorem linked_appendRules {t t' : Tables} {r : RoleRow} {rules : List Rule} (hwf : t.WF) (hl : t.Linked)
    (hr : r ∈ t.roles) (h : t.appendRules r.id rules = .ok t') : t'.Linked := by
  obtain rfl := appendRules_eq_ok h
  exact linked_addPermissions rules t _ hwf.permission_lt (fun l hlm => (hwf.link_lt l hlm).2) hl ⟨r, hr, rfl⟩ rfl

/-- A permission the deleted role used goes with it: its one link is that role's. -/
theorem not_any_of_owned {t : Tables} (hl : t.Linked) {r : RoleRow} {p : PermissionRow} (hp : p ∈ t.permissions)
    (hown : p.id ∈ (t.linksOf r.id).map (·.permission)) :
    ((t.links.filter fun l => l.role != r.id).any fun l => l.permission == p.id) = false := by
  obtain ⟨l, hl0, hlp⟩ := List.mem_map.1 hown
  have hlr := List.mem_filter.1 hl0
  refine List.any_eq_false.2 fun l' hl' hl'p => ?_
  have hl'r := List.mem_filter.1 hl'
  have := hl.link_unique hp hlr.1 hl'r.1 hlp (by simpa using hl'p)
  subst this
  simp [beq_iff_eq.1 hlr.2] at hl'r

/-- **Deleting a role removes it, its links and exactly its permissions, and keeps the rest linked.** -/
theorem deleted_deleteRole {t : Tables} (hl : t.Linked) {r : RoleRow} :
    Deleted t (t.deleteRole r.id) r ∧ (t.deleteRole r.id).Linked := by
  have hperms : (t.deleteRole r.id).permissions =
      t.permissions.filter fun p => p.id ∉ (t.linksOf r.id).map (·.permission) := by
    show t.permissions.filter _ = _
    refine List.filter_congr fun p hp => ?_
    by_cases hown : p.id ∈ (t.linksOf r.id).map (·.permission)
    · simp [hown, not_any_of_owned hl hp hown]
    · simp [hown]
  have hdel : Deleted t (t.deleteRole r.id) r :=
    ⟨rfl, rfl, hperms, fun _ _ hne => ⟨linksOf_deleteRole_of_ne hne, rulesOf_deleteRole_of_ne hne⟩⟩
  refine ⟨hdel, ⟨?_, ?_, ?_, ?_, ?_⟩⟩
  · rw [hperms]
    exact hl.permission_ids.sublist (List.filter_sublist.map _)
  · -- a kept permission was not the deleted role's, so its one link stays
    intro p hp
    rw [hperms] at hp
    obtain ⟨hp, hnot⟩ := List.mem_filter.1 hp
    show (t.links.filter _).countP _ = 1
    rw [List.countP_filter, ← hl.linked_once p hp]
    refine List.countP_congr fun l hlm => ?_
    simp only [Bool.and_eq_true, beq_iff_eq, bne_iff_ne, ne_eq]
    refine ⟨fun h => h.1, fun h => ⟨h, fun hrole => ?_⟩⟩
    exact (decide_eq_true_iff.1 hnot) (List.mem_map.2 ⟨l, List.mem_filter.2 ⟨hlm, by simp [hrole]⟩, h⟩)
  · intro l hlm
    obtain ⟨hlm, hne⟩ := List.mem_filter.1 hlm
    obtain ⟨r', hr', hid⟩ := hl.link_role l hlm
    refine ⟨r', List.mem_filter.2 ⟨hr', ?_⟩, hid⟩
    simpa [hid] using hne
  · intro l hlm
    obtain ⟨hlm', hne⟩ := List.mem_filter.1 hlm
    obtain ⟨p, hp, hid⟩ := hl.link_permission l hlm'
    refine ⟨p, ?_, hid⟩
    rw [hperms]
    refine List.mem_filter.2 ⟨hp, decide_eq_true fun hown => ?_⟩
    have := not_any_of_owned hl hp hown
    rw [List.any_eq_false] at this
    exact this l hlm (by simp [hid])
  · intro r' hr'
    have hne : r'.id ≠ r.id := by simpa using (List.mem_filter.1 hr').2
    rw [linksOf_deleteRole_of_ne hne]
    exact hl.positions r' (List.mem_of_mem_filter hr')

theorem linked_insertUser {t t' : Tables} {v : Value} (hl : t.Linked) (h : t.insertUser v = .ok (t', ())) :
    t'.Linked := by
  obtain ⟨e, rfl⟩ := insertUser_eq_ok h
  exact ⟨hl.permission_ids, hl.linked_once, hl.link_role, hl.link_permission, hl.positions⟩

/-- **Every write of the service keeps `WF` and `Linked`.** -/
theorem Written.sound {t t' : Tables} (h : Written t t') (hwf : t.WF) (hl : t.Linked) : t'.WF ∧ t'.Linked := by
  cases h with
  | insertRole h => exact ⟨(roleMap_insertRole hwf h).1, linked_insertRole hwf hl h⟩
  | appendRules hr h => exact ⟨(roleMap_appendRules hwf hr h).1, linked_appendRules hwf hl hr h⟩
  | deleteRole hr => exact ⟨(roleMap_deleteRole hwf hr).1, (deleted_deleteRole hl).2⟩
  | insertUser h => exact ⟨(insertUser_spec hwf h).1, linked_insertUser hl h⟩

theorem written_sound {t t' : Tables} (h : Relation.ReflTransGen Written t t') (hwf : t.WF) (hl : t.Linked) :
    t'.WF ∧ t'.Linked := by
  induction h with
  | refl => exact ⟨hwf, hl⟩
  | tail _ hstep ih => exact hstep.sound ih.1 ih.2

end Tables

/-- **A run keeps the tables linked**: its tables follow from the first ones by the service's writes
(`runAll_refines`), and each write keeps them linked. -/
theorem runAll_linked (cs : List (Nat × Call)) {s : Session} (h : Healthy s) (hl : s.current.Linked)
    (hstore : ∀ e ∈ (Call.runAll s cs).2, e.fromStore = false) :
    Healthy (Call.runAll s cs).1 ∧ (Call.runAll s cs).1.current.Linked := by
  obtain ⟨hh, hw, -⟩ := runAll_refines cs h hstore
  exact ⟨hh, (Tables.written_sound hw h.2 hl).2⟩

/-- **The link table stays consistent along every run.** After any run of calls on a fresh store in which no call
raises a fault of the store: every permission is used by exactly one link, every link names an existing role and an
existing permission, and the links of each role carry the positions `0, 1, …, n - 1` in the order its `n` rules are
read. Deleting a role by name there then fails only with a fault of the store, finds no role and changes nothing, or
removes the role, its links and exactly the permissions it used, keeping every other role's links and rules and the
tables linked. -/
theorem links_consistent_along_runs (cs : List (Nat × Call))
    (hstore : ∀ e ∈ (Call.runAll {} cs).2, e.fromStore = false) :
    let s := (Call.runAll {} cs).1
    s.current.Linked ∧
    (∀ r ∈ s.current.roles, (s.current.linksOf r.id).map (·.position) = List.range (s.current.rulesOf r.id).length) ∧
    ∀ n : Text, (∃ e, (deleteRole (.str n) s).2 = .error e ∧ e.fromStore = true) ∨
      ((deleteRole (.str n) s).2 = .ok false ∧ (deleteRole (.str n) s).1.current = s.current ∧
        ∀ r ∈ s.current.roles, r.key ≠ n) ∨
      ∃ r ∈ s.current.roles, r.key = n ∧ (deleteRole (.str n) s).2 = .ok true ∧
        Tables.Deleted s.current (deleteRole (.str n) s).1.current r ∧ (deleteRole (.str n) s).1.current.Linked := by
  intro s
  obtain ⟨hh, hl⟩ := runAll_linked cs ⟨rfl, Tables.wf_empty⟩ Tables.linked_empty hstore
  refine ⟨hl, fun r hr => by rw [hl.rulesOf_length]; exact hl.positions r hr, fun n => ?_⟩
  rcases deleteRole_spec n hh.1 with hfault | ⟨hrun, hout⟩ | ⟨r, hmem, hkey, hrun⟩
  · exact .inl hfault
  · exact .inr (.inl ⟨by rw [hrun], by rw [hrun]; rfl, hout⟩)
  · obtain ⟨hdel, hl'⟩ := Tables.deleted_deleteRole hl (r := r)
    refine .inr (.inr ⟨r, hmem, hkey, by rw [hrun], ?_, ?_⟩)
    · rw [hrun]; exact hdel
    · rw [hrun]; exact hl'

/-- An editor with a rule, a second rule appended to it, an administrator, and the deletion of the editor: the tables
stay linked throughout. -/
theorem links_consistent_along_runs_editor_deleted :
    (∀ e ∈ (Call.runAll {}
        [(0, .create "editor" (.items [.rule ⟨"read", "Post", none, none, false, none⟩]) .null),
          (0, .addRule "editor" (.rule ⟨"update", "Post", none, none, false, none⟩)),
          (0, .create "admin" (.items [.rule ⟨"manage", "all", none, none, false, none⟩]) .null),
          (0, .delete "editor")]).2, e.fromStore = false) ∧
    (Call.runAll {}
        [(0, .create "editor" (.items [.rule ⟨"read", "Post", none, none, false, none⟩]) .null),
          (0, .addRule "editor" (.rule ⟨"update", "Post", none, none, false, none⟩)),
          (0, .create "admin" (.items [.rule ⟨"manage", "all", none, none, false, none⟩]) .null),
          (0, .delete "editor")]).1.current.Linked :=
  ⟨by decide, (links_consistent_along_runs
    [(0, .create "editor" (.items [.rule ⟨"read", "Post", none, none, false, none⟩]) .null),
      (0, .addRule "editor" (.rule ⟨"update", "Post", none, none, false, none⟩)),
      (0, .create "admin" (.items [.rule ⟨"manage", "all", none, none, false, none⟩]) .null),
      (0, .delete "editor")] (by decide)).1⟩

end RoleRules.Store
