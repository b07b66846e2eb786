import RoleRules.Proofs.RoleStore
/-!
# Seeding — the demonstration data on a store reached by service calls

`seedDefaults` decides from the roles alone: a store with a role is left as it is, and a store without roles gets
the administrator, the guest and the demonstration user. The user's address is unique, though, and deleting roles
never deletes users. A store whose demonstration roles were deleted after an earlier seeding has no role but still
holds the user, so seeding it again writes both roles and then fails on the user.

Main statements: `seedDefaults_on_reachable`, on every session reached from a fresh store by calls that all
succeeded (`Reachable`), seeding with a role present answers `false` and changes nothing; without roles and without
the demonstration user it answers `true`, leaves exactly the two demonstration roles and one user with the
demonstration address, and seeding again then changes nothing; without roles but with that user it writes both roles
and fails with an integrity fault. `seed_after_deleting_defaults_fails`: seeding, then deleting the administrator and
the guest, reaches such a session.
-/
namespace RoleRules.Store

/-! ## The sessions calls reach -/

/-- The sessions reached from a fresh store by calls of the role service that all succeeded. -/
inductive Reachable : Session → Prop where
  | fresh : Reachable {}
  | call {s : Session} (d : Nat) (c : Call) : Reachable s → (c.exec d s).2 = none → Reachable (c.exec d s).1

/-- A run of calls that all succeeded, from a reachable session, reaches a session. -/
theorem Reachable.runAll {s : Session} (hs : Reachable s) :
    ∀ cs : List (Nat × Call), (Call.runAll s cs).2 = [] → Reachable (Call.runAll s cs).1
  | [], _ => hs
  | (d, c) :: cs, h => by
    simp only [Call.runAll, List.append_eq_nil_iff, Option.toList_eq_nil_iff] at h
    exact Reachable.runAll (hs.call d c h.1) cs h.2

/-! ## Writes that succeed -/

/-- Adding the demonstration user fails exactly when a user already has its address. -/
theorem Tables.insertUser_defaultUser (t : Tables) :
    t.insertUser (.str defaultUser) = if (t.userByEmail? defaultUser).isSome then .error .integrity
      else .ok ({ t with users := t.users ++ [⟨t.nextId, defaultUser⟩], nextId := t.nextId + 1 }, ()) := by
  have hcol : columnText (.str defaultUser) = .ok (some defaultUser) := rfl
  simp only [insertUser, hcol, Bind.bind, Except.bind]
  split <;> rfl

section Steps

variable {s : Session}

/-- **Creating roles under distinct free names succeeds**: an insertion could only fail under a name that is taken,
and each name is neither in the store nor among the names inserted before it. -/
theorem seedCreate_ok (d : Nat) (L : List (Text × List Rule)) (h : Healthy s) (ha : s.active = true)
    (hnames : (L.map Prod.fst).Nodup) (hfree : ∀ e ∈ L, e.1 ∉ s.current.roleMap.map Prod.fst)
    (henc : ∀ e ∈ L, surrogateRun? e.1 = none) (hcheck : ∀ e ∈ L, e.2.forM Tables.checkRule = .ok ())
    (hthaw : ∀ e ∈ L, e.2.all (·.thaws (d + 1 + 2)) = true) :
    ∃ t', Tables.InsertsRoles s.current L t' ∧ seedDefaults.create d L s = ({ s with current := t' }, .ok ()) := by
  rcases seedCreate_spec d L h.1 ha hthaw with ⟨L1, n, rs, L2, t1, e, rfl, hins, hi, -⟩ | hok
  · have hmem : (n, rs) ∈ L1 ++ (n, rs) :: L2 := List.mem_append_right _ List.mem_cons_self
    -- the names before `n` are distinct from it
    have hearlier : n ∉ L1.map Prod.fst := by
      rw [List.map_append, List.map_cons, List.nodup_middle, List.nodup_cons] at hnames
      exact fun hn => hnames.1 (List.mem_append_left _ hn)
    have hnew : n ∉ t1.roleMap.map Prod.fst := by
      rw [(hins.spec h.2).2.1, List.map_append, List.mem_append, not_or]
      exact ⟨hfree _ hmem, hearlier⟩
    obtain ⟨t', id, hok⟩ := Tables.insertRole_ok (hcheck _ hmem) (henc _ hmem) (Tables.roleNamed?_of_not_mem hnew)
    rw [hok] at hi
    cases hi
  · exact hok

/-! ## One seeding -/

theorem seedDefaults_of_roles (d : Nat) (hs : s.failed = false) (hr : s.current.roles ≠ []) :
    seedDefaults d s = (s.opened, .ok false) := by
  have htab : s.opened.tables = .ok s.current := by simp [Session.tables, Session.opened, hs]
  simp [seedDefaults, htab, hr]

/-- **Seeding a store without roles** writes the two demonstration roles, then adds the demonstration user: this
answers `true` when no user has its address, and fails the session with an integrity fault when one has. -/
theorem seedDefaults_without_roles (d : Nat) (h : Healthy s) (hr : s.current.roles = []) :
    ∃ s1, Healthy s1 ∧ s1.active = true ∧ s1.current.roleMap = defaultRoles ∧
      s1.current.users = s.current.users ∧
      ((s.current.userByEmail? defaultUser).isSome = false →
        seedDefaults d s = ({ s1 with current := { s1.current with
          users := s1.current.users ++ [⟨s1.current.nextId, defaultUser⟩], nextId := s1.current.nextId + 1 } },
          .ok true)) ∧
      ((s.current.userByEmail? defaultUser).isSome = true →
        seedDefaults d s = ({ s1 with failed := true }, .error .integrity)) := by
  have htab : s.opened.tables = .ok s.current := by simp [Session.tables, Session.opened, h.1]
  have hm : s.current.roleMap = [] := by simp [Tables.roleMap, hr]
  -- both demonstration roles pass the store's checks
  have hcheck : ∀ e ∈ defaultRoles, e.2.forM Tables.checkRule = .ok () := by
    intro e he
    rcases List.mem_cons.1 he with rfl | he
    · rfl
    rcases List.mem_cons.1 he with rfl | he
    · rfl
    cases he
  obtain ⟨t', hins, hcreate⟩ := seedCreate_ok (s := s.opened) d defaultRoles h rfl (by decide)
    (fun e _ => by simp [hm]) (by decide) hcheck (defaultRoles_thaw _)
  obtain ⟨hwf1, hmap1, husers1, -⟩ := hins.spec h.2
  set s1 : Session := { s.opened with current := t' } with hs1
  have hh1 : Healthy s1 := ⟨h.1, hwf1⟩
  have ha1 : s1.active = true := rfl
  -- the roles are written first, and leave the users as they were
  have hsame : s1.current.userByEmail? defaultUser = s.current.userByEmail? defaultUser := by
    simp only [Tables.userByEmail?, hs1, husers1, Session.opened_current]
  refine ⟨s1, hh1, ha1, by simpa [hm] using hmap1, by simpa using husers1, fun hnone => ?_, fun hsome => ?_⟩
  · have hu : s1.current.insertUser (.str defaultUser) = .ok ({ s1.current with
        users := s1.current.users ++ [⟨s1.current.nextId, defaultUser⟩], nextId := s1.current.nextId + 1 }, ()) := by
      rw [Tables.insertUser_defaultUser, hsame, hnone]
      rfl
    simp [seedDefaults, htab, hr, hcreate, write_of_ok (f := fun t => t.insertUser (.str defaultUser)) hh1.1 hu,
      Session.opened_of_active ha1]
  · have hu : s1.current.insertUser (.str defaultUser) = .error .integrity := by
      rw [Tables.insertUser_defaultUser, hsame, hsome]
      rfl
    simp [seedDefaults, htab, hr, hcreate, write_of_error (f := fun t => t.insertUser (.str defaultUser)) hh1.1 hu,
      Session.opened_of_active ha1]

/-! ## Every reachable session -/

/-- What every reachable session satisfies: it is healthy, and its transaction is open unless it is the fresh
store. -/
structure Settled (s : Session) : Prop where
  healthy : Healthy s
  opened : s.active = true ∨ s = {}

/-- A call that succeeds keeps a session settled. -/
theorem Settled.exec (hs : Settled s) (d : Nat) (c : Call) (hok : (c.exec d s).2 = none) :
    Settled (c.exec d s).1 := by
  have hc := exec_refines d c hs.healthy fun e he => by rw [hok] at he; cases he
  refine ⟨hc.healthy, ?_⟩
  rcases hc.opened with hsame | ha
  · rw [hsame]
    exact hs.opened
  · exact .inl ha

/-- A session with a role is not the fresh store, so its transaction is open. -/
theorem Settled.active_of_roles (hs : Settled s) (hr : s.current.roles ≠ []) : s.active = true := by
  rcases hs.opened with ha | rfl
  · exact ha
  · exact absurd rfl hr

end Steps

/-- Every reachable session is settled, by induction on the calls that reach it. -/
theorem Reachable.settled {s : Session} (hs : Reachable s) : Settled s := by
  induction hs with
  | fresh => exact ⟨⟨rfl, Tables.wf_empty⟩, .inr rfl⟩
  | call d c _ hok ih => exact ih.exec d c hok

/-- With its transaction open and a role present, seeding answers `false` and changes nothing at all. -/
theorem seedDefaults_keeps {s : Session} (d : Nat) (hs : s.failed = false) (ha : s.active = true)
    (hr : s.current.roles ≠ []) : seedDefaults d s = (s, .ok false) := by
  rw [seedDefaults_of_roles d hs hr, Session.opened_of_active ha]

theorem userByEmail?_isSome_iff (t : Tables) (e : Text) :
    (t.userByEmail? e).isSome = true ↔ ∃ u ∈ t.users, u.email = e := by
  simp [Tables.userByEmail?, List.find?_isSome]

/-- **Seeding a reachable session.** On every session reached from a fresh store by calls that all succeeded:

* with a role present, seeding answers `false` and changes nothing;
* without roles and without a user of the demonstration address, it answers `true`; the store then holds exactly
  the administrator, who may manage everything, and the guest, who may read users' `email`, and exactly one user of
  that address, and seeding again answers `false` and changes nothing;
* without roles but with a user of that address (the demonstration roles were deleted after an earlier seeding), it
  writes both roles and fails with an integrity fault, leaving the session failed. -/
theorem seedDefaults_on_reachable {s : Session} (hs : Reachable s) (d : Nat) :
    (s.current.roles ≠ [] → seedDefaults d s = (s, .ok false)) ∧
    (s.current.roles = [] → (∀ u ∈ s.current.users, u.email ≠ ("user@example.org" : Text)) →
      ∃ s', seedDefaults d s = (s', .ok true) ∧
        s'.current.roleMap = ([("admin", [⟨"manage", "all", none, none, false, none⟩]),
          ("guest", [⟨"read", "User", some ["email"], none, false, none⟩])] : List (Text × List Rule)) ∧
        (s'.current.users.filter fun u => u.email = ("user@example.org" : Text)).length = 1 ∧
        ∀ d', seedDefaults d' s' = (s', .ok false)) ∧
    (s.current.roles = [] → (∃ u ∈ s.current.users, u.email = ("user@example.org" : Text)) →
      ∃ s', seedDefaults d s = (s', .error .integrity) ∧ s'.failed = true ∧
        s'.current.roleMap = ([("admin", [⟨"manage", "all", none, none, false, none⟩]),
          ("guest", [⟨"read", "User", some ["email"], none, false, none⟩])] : List (Text × List Rule))) := by
  have hset := hs.settled
  refine ⟨fun hr => seedDefaults_keeps d hset.healthy.1 (hset.active_of_roles hr) hr, fun hr hnone => ?_,
    fun hr hsome => ?_⟩
  · obtain ⟨s1, hh1, ha1, hmap1, husers1, hok, -⟩ := seedDefaults_without_roles d hset.healthy hr
    have hfree : (s.current.userByEmail? defaultUser).isSome = false := by
      rw [Bool.eq_false_iff, ne_eq, userByEmail?_isSome_iff]
      rintro ⟨u, hu, heq⟩
      exact hnone u hu heq
    have hnone' : s.current.users.filter (fun u => u.email = ("user@example.org" : Text)) = [] :=
      List.filter_eq_nil_iff.2 fun u hu => by simpa using hnone u hu
    refine ⟨_, hok hfree, hmap1, ?_, fun d' => seedDefaults_keeps d' hh1.1 ha1 ?_⟩
    · simp only [husers1, List.filter_append, hnone']
      simp [defaultUser]
    · -- the seeded tables hold the two roles
      intro hnil
      have hempty : s1.current.roleMap = [] := by simp [Tables.roleMap, show s1.current.roles = [] from hnil]
      rw [hmap1] at hempty
      cases hempty
  · obtain ⟨s1, -, -, hmap1, -, -, herr⟩ := seedDefaults_without_roles d hset.healthy hr
    exact ⟨_, herr ((userByEmail?_isSome_iff _ _).2 hsome), rfl, hmap1⟩

/-- Seeding a fresh store, then seeding again: the second seeding changes nothing. -/
theorem seedDefaults_on_reachable_seeded :
    Reachable (Call.seed.exec 0 {}).1 ∧
    ((Call.seed.exec 0 {}).1.current.roles ≠ [] → seedDefaults 0 (Call.seed.exec 0 {}).1 =
      ((Call.seed.exec 0 {}).1, .ok false)) ∧
    ((Call.seed.exec 0 {}).1.current.roles = [] →
      (∀ u ∈ (Call.seed.exec 0 {}).1.current.users, u.email ≠ ("user@example.org" : Text)) →
      ∃ s', seedDefaults 0 (Call.seed.exec 0 {}).1 = (s', .ok true) ∧
        s'.current.roleMap = ([("admin", [⟨"manage", "all", none, none, false, none⟩]),
          ("guest", [⟨"read", "User", some ["email"], none, false, none⟩])] : List (Text × List Rule)) ∧
        (s'.current.users.filter fun u => u.email = ("user@example.org" : Text)).length = 1 ∧
        ∀ d', seedDefaults d' s' = (s', .ok false)) ∧
    ((Call.seed.exec 0 {}).1.current.roles = [] →
      (∃ u ∈ (Call.seed.exec 0 {}).1.current.users, u.email = ("user@example.org" : Text)) →
      ∃ s', seedDefaults 0 (Call.seed.exec 0 {}).1 = (s', .error .integrity) ∧ s'.failed = true ∧
        s'.current.roleMap = ([("admin", [⟨"manage", "all", none, none, false, none⟩]),
          ("guest", [⟨"read", "User", some ["email"], none, false, none⟩])] : List (Text × List Rule))) :=
  ⟨.call 0 .seed .fresh rfl, seedDefaults_on_reachable (.call 0 .seed .fresh rfl) 0⟩

/-- **Seeding again after the demonstration roles were deleted fails.** Seeding a fresh store, then deleting the
administrator and the guest, raises nothing and leaves no role; seeding again then fails with an integrity fault on
the demonstration user, where answering `true` was documented. -/
theorem seed_after_deleting_defaults_fails :
    Reachable (Call.runAll {} [(0, .seed), (0, .delete "admin"), (0, .delete "guest")]).1 ∧
    (Call.runAll {} [(0, .seed), (0, .delete "admin"), (0, .delete "guest")]).1.current.roles = [] ∧
    (seedDefaults 0 (Call.runAll {} [(0, .seed), (0, .delete "admin"), (0, .delete "guest")]).1).2 =
      .error .integrity :=
  ⟨Reachable.fresh.runAll _ rfl, rfl, rfl⟩


end RoleRules.Store
