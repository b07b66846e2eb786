import RoleRules.Registry
import Mathlib.Data.List.Forall2
/-!
# Reloading — a registry serves the last table that compiled

A registry is built from a table of roles and then reloaded any number of times. A reload compiles the whole new
table before it replaces anything: a reload that fails (a role name that is not a non-empty text, a rule list that
does not compile, or no table at all) leaves the registry exactly as it was, and one that succeeds replaces every
ability at once. Look-ups are functions of the registry and change nothing.

Main statement (`reload_run_serves_last_table`): after a build and any run of reloads, the registry holds exactly
the compilation of the last table whose build or reload succeeded (its role names sorted, each name's ability
compiled from that name's rule list with the registry's default message); a failed reload names its cause and
changes nothing; and `lookupOrDefault` serves the role's own ability, else the fallback's, else refuses with both
names.
-/
namespace RoleRules

namespace Registry

/-- The registry after a run of reloads, each called at its own depth with its own table; a reload that fails keeps
the registry. -/
def reloadAll (r : Registry) : List (Nat × RoleSource) → Registry
  | [] => r
  | (d, m) :: ms => (r.reloadOrKeep d m).1.reloadAll ms

/-- An entry of a table compiled into an entry of a registry: a role name that is a non-empty text, and its ability,
the rule list compiled `depth` steps deep with the default message `message`. -/
def CompiledEntry (depth : Nat) (message : Value) (e : Value × RuleSource) (a : Text × Ability) : Prop :=
  e.1 = .str a.1 ∧ a.1.isEmpty = false ∧ ∃ ix, RuleIndex.compile depth e.2 = .ok ix ∧ a.2 = Ability.ofIndex ix message

/-- What a registry shows of a table compiled `depth` steps deep: every role name is a non-empty text, the roles
are those names sorted, there are as many abilities as entries, and the look-up of a name gives the ability compiled
from the first rule list under that name, or nothing when no entry has it. -/
structure Serves (R : Registry) (depth : Nat) (es : List (Value × RuleSource)) : Prop where
  entries : List.Forall₂ (CompiledEntry depth R.defaultMessage) es R.abilities
  names : ∀ e ∈ es, ∃ n, e.1 = .str n ∧ n.isEmpty = false
  roles : R.roles = Text.sortTexts (es.filterMap (·.1.text?))
  size : R.size = es.length
  found : ∀ n k src, es.find? (·.1.isText n) = some (k, src) →
    ∃ ix, RuleIndex.compile depth src = .ok ix ∧ R.lookup (.str n) = .ok (some (n, Ability.ofIndex ix R.defaultMessage))
  missing : ∀ n, es.find? (·.1.isText n) = none → R.lookup (.str n) = .ok none

/-- Why a reload `depth` steps deep refuses a table: it is no mapping, or some entry has a role name that is not a
non-empty text, or a rule list that does not compile. -/
def Refusal (depth : Nat) (m : RoleSource) (e : Fault) : Prop :=
  (∃ v, m = .loose v ∧ e = .noAttribute v "items") ∨
  ∃ es k src, m = .table es ∧ (k, src) ∈ es ∧
    ((e = .blankRole k ∧ ∀ n, k = .str n → n.isEmpty = true) ∨ RuleIndex.compile (depth + 2) src = .error e)

/-- A failed reload changes nothing and names its cause. -/
def KeepsOnRefusal (R : Registry) : Prop :=
  ∀ d m R' e, R.reloadOrKeep d m = (R', .error e) → R' = R ∧ Refusal d m e

/-- The reloads of a run that fail, for a registry with default message `message`. -/
def AllRefused (message : Value) (ms : List (Nat × RoleSource)) : Prop :=
  ∀ x ∈ ms, ∃ e, abilitiesOf x.1 x.2 message = .error e

/-- After a build from `m0` made `depth` steps deep and the run of reloads `ms`, the registry `R` serves the table of
the last reload that succeeded, every later one refused, or the build's own table when every reload was refused. -/
def ServesLastTable (depth : Nat) (m0 : RoleSource) (message : Value) (ms : List (Nat × RoleSource))
    (R : Registry) : Prop :=
  (∃ es, m0 = .table es ∧ AllRefused message ms ∧ R.Serves (depth + 3) es) ∨
  ∃ pre d es post, ms = pre ++ (d, .table es) :: post ∧ AllRefused message post ∧ R.Serves (d + 2) es

/-- How `lookupOrDefault` answers: the role's own entry when the role is given and registered, else the fallback's
when it is registered, else a refusal naming both. -/
def ServesFallback (R : Registry) : Prop :=
  ∀ (role fb : Value) (e : Text × Ability), role.unhashableKind? = none →
    (role ≠ .null → R.find? role = some e → R.lookupOrDefault role fb = .ok e) ∧
    ((role = .null ∨ R.find? role = none) → fb.unhashableKind? = none →
      (R.find? fb = some e → R.lookupOrDefault role fb = .ok e) ∧
      (R.find? fb = none → R.lookupOrDefault role fb = .error (.unknownRole (role.orElse (.str (Text.ofString ""))) fb)))

/-! ## Compiling one table -/

section Table

variable {depth : Nat} {message : Value}

theorem compileTable_eq_ok_iff : ∀ {es : List (Value × RuleSource)} {A : List (Text × Ability)},
    compileTable depth message es = .ok A ↔ List.Forall₂ (CompiledEntry depth message) es A
  | [], A => by cases A <;> simp [compileTable]
  | (k, src) :: es, A => by
    constructor
    · intro h
      cases k with
      | str n =>
        unfold compileTable at h
        cases hn : n.isEmpty
        · cases hix : RuleIndex.compile depth src with
          | error e => simp [hn, hix, bind, Except.bind] at h
          | ok ix =>
            cases hmore : compileTable depth message es with
            | error e => simp [hn, hix, hmore, bind, Except.bind] at h
            | ok more =>
              simp only [hn, hix, hmore, bind, Except.bind, pure, Except.pure, Bool.false_eq_true, if_false,
                Except.ok.injEq] at h
              subst h
              exact .cons ⟨rfl, hn, ix, hix, rfl⟩ (compileTable_eq_ok_iff.1 hmore)
        · simp [hn] at h
      | _ => simp [compileTable] at h
    · intro h
      cases h with
      | @cons _ b _ A' hea hrest =>
        obtain ⟨n, ab⟩ := b
        obtain ⟨hk, hn, ix, hix, ha⟩ := hea
        simp only at hk hn hix ha
        subst hk ha
        simp [compileTable, hn, hix, compileTable_eq_ok_iff.2 hrest, bind, Except.bind, pure, Except.pure]

/-- **A refused table names its cause**: the first entry whose name is not a non-empty text, or whose rule list
does not compile. -/
theorem compileTable_error_cause : ∀ {es : List (Value × RuleSource)} {e : Fault},
    compileTable depth message es = .error e → ∃ k src, (k, src) ∈ es ∧
      ((e = .blankRole k ∧ ∀ n, k = .str n → n.isEmpty = true) ∨ RuleIndex.compile depth src = .error e)
  | [], e, h => by simp [compileTable] at h
  | (k, src) :: es, e, h => by
    cases k with
    | str n =>
      unfold compileTable at h
      cases hn : n.isEmpty
      · cases hix : RuleIndex.compile depth src with
        | error e' =>
          simp only [hn, hix, bind, Except.bind, Bool.false_eq_true, if_false, Except.error.injEq] at h
          exact ⟨.str n, src, List.mem_cons_self, .inr (h ▸ hix)⟩
        | ok ix =>
          cases hmore : compileTable depth message es with
          | error e' =>
            simp only [hn, hix, hmore, bind, Except.bind, Bool.false_eq_true, if_false, Except.error.injEq] at h
            obtain ⟨k, src', hmem, hcause⟩ := compileTable_error_cause (h ▸ hmore)
            exact ⟨k, src', List.mem_cons_of_mem _ hmem, hcause⟩
          | ok more => simp [hn, hix, hmore, bind, Except.bind, pure, Except.pure] at h
      · simp only [hn, if_true, Except.error.injEq] at h
        exact ⟨.str n, src, List.mem_cons_self, .inl ⟨h.symm, fun m hm => by cases hm; exact hn⟩⟩
    | _ =>
      simp only [compileTable, Except.error.injEq] at h
      exact ⟨_, src, List.mem_cons_self, .inl ⟨h.symm, fun _ hm => by cases hm⟩⟩

theorem abilitiesOf_eq_ok {d : Nat} {m : RoleSource} {A : List (Text × Ability)}
    (h : abilitiesOf d m message = .ok A) :
    ∃ es, m = .table es ∧ List.Forall₂ (CompiledEntry (d + 2) message) es A := by
  cases m with
  | table es => exact ⟨es, rfl, compileTable_eq_ok_iff.1 h⟩
  | loose v => cases h

theorem abilitiesOf_error_refusal {d : Nat} {m : RoleSource} {e : Fault} (h : abilitiesOf d m message = .error e) :
    Refusal d m e := by
  cases m with
  | table es =>
    obtain ⟨k, src, hmem, hcause⟩ := compileTable_error_cause h
    exact .inr ⟨es, k, src, rfl, hmem, hcause⟩
  | loose v =>
    simp only [abilitiesOf, Except.error.injEq] at h
    exact .inl ⟨v, rfl, h.symm⟩

end Table

/-! ## What a compiled table shows -/

/-- Searching a table and its compilation for one name meet corresponding entries. -/
theorem find?_compiled {depth : Nat} {message : Value} (n : Text) : ∀ {es : List (Value × RuleSource)}
    {A : List (Text × Ability)}, List.Forall₂ (CompiledEntry depth message) es A →
    (es.find? (·.1.isText n) = none → A.find? (fun a => (Value.str n).isText a.1) = none) ∧
    ∀ k src, es.find? (·.1.isText n) = some (k, src) →
      ∃ ix, RuleIndex.compile depth src = .ok ix ∧
        A.find? (fun a => (Value.str n).isText a.1) = some (n, Ability.ofIndex ix message)
  | [], [], .nil => ⟨fun _ => rfl, fun _ _ h => by cases h⟩
  | (k, src) :: es, (m, ab) :: A, .cons ⟨hk, _, ix, hix, hab⟩ hrest => by
    simp only at hk hab
    subst hk hab
    obtain ⟨hnone, hsome⟩ := find?_compiled n hrest
    by_cases hmn : m = n
    · -- the head carries the name on both sides
      subst hmn
      refine ⟨fun h => by simp [Value.isText] at h, fun k' src' h => ?_⟩
      simp only [List.find?_cons, Value.isText, beq_self_eq_true, Option.some.injEq, Prod.mk.injEq] at h
      obtain ⟨-, rfl⟩ := h
      exact ⟨ix, hix, by simp [Value.isText]⟩
    · have hmn' : (m == n) = false := beq_false_of_ne hmn
      have hnm' : (n == m) = false := beq_false_of_ne (Ne.symm hmn)
      simp only [List.find?_cons, Value.isText, hmn', hnm']
      exact ⟨hnone, hsome⟩

theorem lookup_str (R : Registry) (n : Text) : R.lookup (.str n) = .ok (R.find? (.str n)) := rfl

/-- The keys of a compiled table are non-empty texts, the names of its compilation. -/
theorem keys_of_compiled {depth : Nat} {message : Value} {es : List (Value × RuleSource)}
    {A : List (Text × Ability)} (h : List.Forall₂ (CompiledEntry depth message) es A) :
    (∀ e ∈ es, ∃ n, e.1 = .str n ∧ n.isEmpty = false) ∧ A.map Prod.fst = es.filterMap (·.1.text?) := by
  induction h with
  | nil => exact ⟨by simp, rfl⟩
  | @cons e a es A hea _ ih =>
    obtain ⟨hk, hn, -⟩ := hea
    refine ⟨fun x hx => ?_, by simp [hk, Value.text?, ih.2]⟩
    rcases List.mem_cons.1 hx with rfl | hx
    · exact ⟨a.1, hk, hn⟩
    · exact ih.1 x hx

/-- **A registry whose abilities are a compiled table serves that table.** -/
theorem serves_of_compiled {R : Registry} {depth : Nat} {es : List (Value × RuleSource)}
    (h : List.Forall₂ (CompiledEntry depth R.defaultMessage) es R.abilities) : R.Serves depth es where
  entries := h
  names := (keys_of_compiled h).1
  roles := congrArg Text.sortTexts (keys_of_compiled h).2
  size := h.length_eq.symm
  found := fun n k src hf => by
    obtain ⟨ix, hix, hA⟩ := (find?_compiled n h).2 k src hf
    exact ⟨ix, hix, by rw [lookup_str]; exact congrArg Except.ok hA⟩
  missing := fun n hf => by
    rw [lookup_str]
    exact congrArg Except.ok ((find?_compiled n h).1 hf)

/-! ## Runs of reloads -/

@[simp] theorem reloadAll_nil (r : Registry) : r.reloadAll [] = r := rfl

theorem reloadOrKeep_fst_of_error {r : Registry} {d : Nat} {m : RoleSource} {e : Fault}
    (h : abilitiesOf d m r.defaultMessage = .error e) : (r.reloadOrKeep d m).1 = r := by
  simp [reloadOrKeep, reload, h, Except.map]

theorem reloadOrKeep_fst_of_ok {r : Registry} {d : Nat} {m : RoleSource} {A : List (Text × Ability)}
    (h : abilitiesOf d m r.defaultMessage = .ok A) : (r.reloadOrKeep d m).1 = { r with abilities := A } := by
  simp [reloadOrKeep, reload, h, Except.map]

/-- **A failed reload changes nothing and names its cause.** -/
theorem keepsOnRefusal (r : Registry) : r.KeepsOnRefusal := by
  intro d m r' e h
  unfold reloadOrKeep reload at h
  cases hA : abilitiesOf d m r.defaultMessage with
  | error e' =>
    simp only [hA, Except.map, Prod.mk.injEq, Except.error.injEq] at h
    obtain ⟨rfl, rfl⟩ := h
    exact ⟨rfl, abilitiesOf_error_refusal hA⟩
  | ok A => simp [hA, Except.map] at h

/-- **A run of reloads leaves the compilation of the last reload that succeeded**, or the registry it started from
when every reload failed; the default message never changes. -/
theorem reloadAll_last_success (r : Registry) (ms : List (Nat × RoleSource)) :
    (r.reloadAll ms).defaultMessage = r.defaultMessage ∧
    ((r.reloadAll ms = r ∧ AllRefused r.defaultMessage ms) ∨
      ∃ pre d es post, ms = pre ++ (d, .table es) :: post ∧ AllRefused r.defaultMessage post ∧
        List.Forall₂ (CompiledEntry (d + 2) r.defaultMessage) es (r.reloadAll ms).abilities) := by
  induction ms generalizing r with
  | nil => exact ⟨rfl, .inl ⟨rfl, fun _ h => by cases h⟩⟩
  | cons x ms ih =>
    obtain ⟨d, m⟩ := x
    cases hA : abilitiesOf d m r.defaultMessage with
    | error e =>
      -- the registry is kept, and the rest of the run starts from it
      have hkeep := reloadOrKeep_fst_of_error hA
      obtain ⟨hmsg, hlast⟩ := ih r
      simp only [reloadAll, hkeep]
      refine ⟨hmsg, ?_⟩
      rcases hlast with ⟨hr, hall⟩ | ⟨pre, d', es, post, rfl, hpost, hes⟩
      · refine .inl ⟨hr, fun y hy => ?_⟩
        rcases List.mem_cons.1 hy with rfl | hy
        · exact ⟨e, hA⟩
        · exact hall y hy
      · exact .inr ⟨(d, m) :: pre, d', es, post, rfl, hpost, hes⟩
    | ok A =>
      -- the registry is replaced, with the same default message
      have hrep := reloadOrKeep_fst_of_ok hA
      obtain ⟨hmsg, hlast⟩ := ih { r with abilities := A }
      simp only [reloadAll, hrep]
      refine ⟨hmsg, .inr ?_⟩
      rcases hlast with ⟨hr, hall⟩ | ⟨pre, d', es, post, rfl, hpost, hes⟩
      · obtain ⟨es, rfl, hes⟩ := abilitiesOf_eq_ok hA
        exact ⟨[], d, es, ms, rfl, hall, by rw [hr]; exact hes⟩
      · exact ⟨(d, m) :: pre, d', es, post, rfl, hpost, hes⟩

theorem build_eq_ok {depth : Nat} {m0 : RoleSource} {message : Value} {R0 : Registry}
    (h : build depth m0 message = .ok R0) :
    R0.defaultMessage = message ∧ ∃ es, m0 = .table es ∧
      List.Forall₂ (CompiledEntry (depth + 3) message) es R0.abilities := by
  unfold build at h
  cases hA : abilitiesOf (depth + 1) m0 message with
  | error e => simp [hA, Except.map] at h
  | ok A =>
    simp only [hA, Except.map, Except.ok.injEq] at h
    subst h
    exact ⟨rfl, abilitiesOf_eq_ok hA⟩

/-! ## Falling back -/

theorem lookupOrDefault_serves_fallback (R : Registry) : R.ServesFallback := by
  intro role fb e hr
  refine ⟨fun hne hfind => ?_, fun hmiss hf => ⟨fun hfind => ?_, fun hfind => ?_⟩⟩
  · -- the role is given and registered: the fallback is not looked at
    cases role with
    | null => exact absurd rfl hne
    | _ => simp [lookupOrDefault, lookup, asKey, hr, hfind, bind, Except.bind, pure, Except.pure]
  -- otherwise the answer is the fallback's look-up
  all_goals
    rcases hmiss with rfl | hnone
    · simp [lookupOrDefault, lookup, asKey, hf, hfind, bind, Except.bind, pure, Except.pure]
    · cases role with
      | null => simp [lookupOrDefault, lookup, asKey, hf, hfind, bind, Except.bind, pure, Except.pure]
      | _ => simp [lookupOrDefault, lookup, asKey, hr, hnone, hf, hfind, bind, Except.bind, pure, Except.pure]

/-! ## The whole run -/

/-- **A registry serves the last table that compiled.** After a build from `m0` and any run of reloads: the default
message is the one given to the build; the registry serves the table of the last reload that succeeded, with every
later reload refused, or the build's own table when every reload was refused; any further reload that fails names
its cause and changes nothing; and `lookupOrDefault` serves the role's own ability, else the fallback's, else refuses
naming both. -/
theorem reload_run_serves_last_table (depth : Nat) (m0 : RoleSource) (message : Value) (R0 : Registry)
    (ms : List (Nat × RoleSource)) (h0 : build depth m0 message = .ok R0) :
    (R0.reloadAll ms).defaultMessage = message ∧ ServesLastTable depth m0 message ms (R0.reloadAll ms) ∧
    (R0.reloadAll ms).KeepsOnRefusal ∧ (R0.reloadAll ms).ServesFallback := by
  obtain ⟨hmsg0, es0, rfl, hes0⟩ := build_eq_ok h0
  obtain ⟨hmsg, hlast⟩ := reloadAll_last_success R0 ms
  rw [hmsg0] at hmsg hlast
  refine ⟨hmsg, ?_, keepsOnRefusal _, lookupOrDefault_serves_fallback _⟩
  rcases hlast with ⟨hr, hall⟩ | ⟨pre, d, es, post, hms, hpost, hes⟩
  · refine .inl ⟨es0, rfl, hall, serves_of_compiled ?_⟩
    rw [hr, hmsg0]
    exact hes0
  · exact .inr ⟨pre, d, es, post, hms, hpost, serves_of_compiled (by rw [hmsg]; exact hes)⟩

/-- An empty registry reloaded with an administrator's table, then refused a reload from nothing: it serves the
administrator's table. -/
theorem reload_run_serves_last_table_admin :
    build 0 (.table []) .null = .ok {} ∧
    (({} : Registry).reloadAll [(0, .table [(.str "admin", .items [])]), (0, .loose .null)]).defaultMessage = .null ∧
    ServesLastTable 0 (.table []) .null [(0, .table [(.str "admin", .items [])]), (0, .loose .null)]
      (({} : Registry).reloadAll [(0, .table [(.str "admin", .items [])]), (0, .loose .null)]) ∧
    (({} : Registry).reloadAll [(0, .table [(.str "admin", .items [])]), (0, .loose .null)]).KeepsOnRefusal ∧
    (({} : Registry).reloadAll [(0, .table [(.str "admin", .items [])]), (0, .loose .null)]).ServesFallback :=
  ⟨rfl, reload_run_serves_last_table 0 _ _ _ _ rfl⟩

end Registry

end RoleRules
