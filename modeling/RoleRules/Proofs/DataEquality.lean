import RoleRules.Proofs.NumberMagnitude
import RoleRules.Proofs.FieldAccess
/-!
# DataEquality — equality as data on frozen values

A rule keeps its conditions frozen (`Value.Frozen`): every list a tuple, every mapping with each key once, no NaN. On
such values equality as data (`Value.eqv`) behaves as an equality should, and everything that reads conditions
respects it:

* it is an equivalence, and equal values are *alike*: no test, with anything on its other side, tells them apart
  (`alike_of_eqv`);
* the interpreter's comparison, which takes a mapping's entries in the order of the other side and short-cuts values
  that are the same object, answers the same (`comparison_fst`);
* thawing keeps every answer (`eqv_thaw`), and equal values hash alike (`hash_eq_of_eqv`): a mapping hashes as the set
  of its entries, a number by its magnitude;
* data written differently, the keys of its mappings in another order at any level and `1`, `1.0` and `true` for one
  another, is equal (`eqv_of_rearranged`).
-/

namespace RoleRules

namespace Value

/-! ## Mappings with each key once -/

section Entries

variable {es fs gs : List (Text × Value)} {k : Text} {x y : Value}

theorem lookup_cons (k k' : Text) (x : Value) (es : List (Text × Value)) :
    lookup k ((k', x) :: es) = if k' = k then some x else lookup k es := by
  by_cases h : k' = k <;> simp [lookup, h]

theorem mem_of_lookup : lookup k es = some x → (k, x) ∈ es := by
  induction es with
  | nil => simp [lookup]
  | cons e es ih =>
    obtain ⟨k', x'⟩ := e
    rw [lookup_cons]
    split_ifs with h
    · rintro ⟨⟩; subst h; exact List.mem_cons_self
    · exact fun hl => List.mem_cons_of_mem _ (ih hl)

theorem lookup_eq_none_iff : lookup k es = none ↔ k ∉ es.map Prod.fst := by
  induction es with
  | nil => simp [lookup]
  | cons e es ih =>
    obtain ⟨k', x'⟩ := e
    rw [lookup_cons]
    split_ifs with h
    · simp [h]
    · simp [ih, Ne.symm h]

theorem lookup_eq_some_iff_mem (hk : (es.map Prod.fst).Nodup) : lookup k es = some x ↔ (k, x) ∈ es := by
  refine ⟨mem_of_lookup, fun hm => ?_⟩
  induction es with
  | nil => simp at hm
  | cons e es ih =>
    obtain ⟨k', x'⟩ := e
    rw [List.map_cons, List.nodup_cons] at hk
    rw [lookup_cons]
    rcases List.mem_cons.1 hm with h | h
    · simp only [Prod.mk.injEq] at h
      obtain ⟨rfl, rfl⟩ := h
      simp
    · have hne : k' ≠ k := fun he => hk.1 (by rw [he]; exact List.mem_map.2 ⟨(k, x), h, rfl⟩)
      rw [if_neg hne]
      exact ih hk.2 h

/-- A property of every entry of a mapping with each key once is a property of what each key looks up. -/
theorem forall_mem_iff_lookup (hk : (es.map Prod.fst).Nodup) (P : Text → Value → Prop) :
    (∀ e ∈ es, P e.1 e.2) ↔ ∀ k x, lookup k es = some x → P k x := by
  constructor
  · intro h k x hl
    exact h (k, x) (mem_of_lookup hl)
  · intro h e he
    exact h e.1 e.2 ((lookup_eq_some_iff_mem hk).2 he)

/-- Two mappings of one size, the first with each key once, and the keys of one among those of the other: they have
the same keys. -/
theorem mem_keys_of_subset (hes : (es.map Prod.fst).Nodup)
    (hlen : es.length = fs.length) (hsub : ∀ k ∈ es.map Prod.fst, k ∈ fs.map Prod.fst) :
    ∀ k ∈ fs.map Prod.fst, k ∈ es.map Prod.fst := by
  have hp : (es.map Prod.fst).Perm (fs.map Prod.fst) :=
    (hes.subperm hsub).perm_of_length_le (by simp [hlen])
  exact fun k hk => hp.mem_iff.2 hk

theorem eqvEntries_eq_true :
    eqvEntries es gs = true ↔ ∀ e ∈ es, ∃ w, lookup e.1 gs = some w ∧ eqv e.2 w = true := by
  induction es with
  | nil => simp [eqvEntries]
  | cons e es ih =>
    obtain ⟨k, x⟩ := e
    simp only [eqvEntries, Bool.and_eq_true, ih, List.forall_mem_cons]
    cases hl : lookup k gs <;> simp

section Related

variable {α β : Type} {R : α → β → Prop} {o : Option α} {o' : Option β} {x : α} {y : β}

/-- Two related lookups find nothing on both sides, or related values. -/
theorem rel_cases (h : Option.Rel R o o') : (o = none ∧ o' = none) ∨ ∃ x y, o = some x ∧ o' = some y ∧ R x y := by
  cases h with
  | none => exact .inl ⟨rfl, rfl⟩
  | some h => exact .inr ⟨_, _, rfl, rfl, h⟩

theorem rel_some_right {o : Option α} (h : Option.Rel R o (some y)) : ∃ x, o = some x ∧ R x y := by
  cases h with
  | some h => exact ⟨_, rfl, h⟩

theorem rel_some_left {o : Option β} (h : Option.Rel R (some x) o) : ∃ y, o = some y ∧ R x y := by
  cases h with
  | some h => exact ⟨_, rfl, h⟩

end Related

end Entries

/-! ## Frozen data -/

/-- Data as a rule's conditions keep it: read from JSON and frozen. Lists have become tuples, every mapping has each
key once, no number is the NaN, and there are no objects. -/
inductive Frozen : Value → Prop
  | null : Frozen .null
  | bool (b : Bool) : Frozen (.bool b)
  | int (n : Int) : Frozen (.int n)
  | float {x : Float} (h : x.isNaN = false) : Frozen (.float x)
  | str (s : Text) : Frozen (.str s)
  | tuple {xs : List Value} (h : ∀ x ∈ xs, Frozen x) : Frozen (.tuple xs)
  | dict {es : List (Text × Value)} (hk : (es.map Prod.fst).Nodup) (h : ∀ e ∈ es, Frozen e.2) : Frozen (.dict es)

/-! ## The shapes of an equality test -/

section Shapes

variable {a v : Value} {p : Number} {xs ys : List Value} {es : List (Text × Value)}

theorem eqv_null_left : eqv .null a = true ↔ a = .null := by
  cases a <;> simp [eqv, number?]

theorem eqv_number_right (hv : v.number? = some p) : eqv a v = true ↔ ∃ q, a.number? = some q ∧ q.eq p = true := by
  cases v <;> simp only [number?, reduceCtorEq, Option.some.injEq] at hv <;> subst hv <;>
    cases a <;> simp [eqv, number?]

theorem eqv_number_left (hv : v.number? = some p) : eqv v a = true ↔ ∃ q, a.number? = some q ∧ p.eq q = true := by
  cases v <;> simp only [number?, reduceCtorEq, Option.some.injEq] at hv <;> subst hv <;>
    cases a <;> simp [eqv, number?]

theorem eqv_tuple_right : eqv a (.tuple xs) = true ↔ ∃ zs, a = .tuple zs ∧ eqvItems zs xs = true := by
  cases a <;> simp [eqv, number?]

theorem eqv_tuple_left : eqv (.tuple xs) a = true ↔ ∃ zs, a = .tuple zs ∧ eqvItems xs zs = true := by
  cases a <;> simp [eqv, number?]

theorem eqv_dict_left :
    eqv (.dict es) a = true ↔ ∃ gs, a = .dict gs ∧ es.length = gs.length ∧ eqvEntries es gs = true := by
  cases a <;> simp [eqv, number?]

theorem eqvItems_iff_forall₂ : eqvItems xs ys = true ↔ List.Forall₂ (fun x y => eqv x y = true) xs ys := by
  induction xs generalizing ys with
  | nil => cases ys <;> simp [eqvItems]
  | cons x xs ih => cases ys <;> simp [eqvItems, ih]

/-- Items equal in order pair off under any relation that equal items of the two lists stand in. -/
theorem forall₂_of_eqvItems {R : Value → Value → Prop} (h : eqvItems xs ys = true)
    (hR : ∀ x ∈ xs, ∀ y ∈ ys, eqv x y = true → R x y) : List.Forall₂ R xs ys := by
  obtain ⟨hlen, hzip⟩ := List.forall₂_iff_zip.1 (eqvItems_iff_forall₂.1 h)
  refine List.forall₂_iff_zip.2 ⟨hlen, fun hp => ?_⟩
  exact hR _ (List.of_mem_zip hp).1 _ (List.of_mem_zip hp).2 (hzip hp)

end Shapes

/-! ## Equality of frozen data is an equivalence -/

/-- Two values that no equality test tells apart, on either side. -/
def Alike (x y : Value) : Prop := ∀ a, eqv a x = eqv a y ∧ eqv x a = eqv y a

theorem alike_of_number {v w : Value} {p q : Number} (hv : v.number? = some p) (hw : w.number? = some q)
    (h : p.eq q = true) : Alike v w := by
  rw [Number.eq_iff_magnitude] at h
  intro a
  constructor <;> rw [Bool.eq_iff_iff]
  · simp only [eqv_number_right hv, eqv_number_right hw, Number.eq_iff_magnitude, h]
  · simp only [eqv_number_left hv, eqv_number_left hw, Number.eq_iff_magnitude, h]

theorem eqvItems_alike {xs ys : List Value} (h : List.Forall₂ Alike xs ys) (zs : List Value) :
    eqvItems zs xs = eqvItems zs ys ∧ eqvItems xs zs = eqvItems ys zs := by
  induction h generalizing zs with
  | nil => exact ⟨rfl, rfl⟩
  | cons hxy _ ih =>
    cases zs with
    | nil => exact ⟨rfl, rfl⟩
    | cons z zs =>
      constructor
      · simp only [eqvItems, (hxy z).1, (ih zs).1]
      · simp only [eqvItems, (hxy z).2, (ih zs).2]

theorem eqvEntries_alike_right {es fs : List (Text × Value)} (h : ∀ k, Option.Rel Alike (lookup k es) (lookup k fs))
    (gs : List (Text × Value)) : eqvEntries gs es = eqvEntries gs fs := by
  induction gs with
  | nil => rfl
  | cons g gs ih =>
    obtain ⟨k, z⟩ := g
    simp only [eqvEntries, ih]
    rcases rel_cases (h k) with ⟨hx, hy⟩ | ⟨x, y, hx, hy, hxy⟩
    · rw [hx, hy]
    · simp only [hx, hy, (hxy z).1]

theorem eqvEntries_alike_left {es fs : List (Text × Value)} (hes : (es.map Prod.fst).Nodup)
    (hfs : (fs.map Prod.fst).Nodup) (h : ∀ k, Option.Rel Alike (lookup k es) (lookup k fs))
    (gs : List (Text × Value)) : eqvEntries es gs = eqvEntries fs gs := by
  rw [Bool.eq_iff_iff, eqvEntries_eq_true, eqvEntries_eq_true,
    forall_mem_iff_lookup hes (fun k x => ∃ w, lookup k gs = some w ∧ eqv x w = true),
    forall_mem_iff_lookup hfs (fun k x => ∃ w, lookup k gs = some w ∧ eqv x w = true)]
  constructor
  · intro hl k y hy
    obtain ⟨x, hx, hxy⟩ := rel_some_right (hy ▸ h k)
    simpa only [(hxy _).2] using hl k x hx
  · intro hl k x hx
    obtain ⟨y, hy, hxy⟩ := rel_some_left (hx ▸ h k)
    simpa only [(hxy _).2] using hl k y hy

/-- Two equal mappings with each key once have the same keys, and equal values under each. -/
theorem lookup_rel_of_eqv {es fs : List (Text × Value)} (hes : (es.map Prod.fst).Nodup)
    (h : eqv (.dict es) (.dict fs) = true) (k : Text) :
    Option.Rel (fun x y => eqv x y = true) (lookup k es) (lookup k fs) := by
  obtain ⟨gs, ⟨⟩, hlen, hent⟩ := eqv_dict_left.1 h
  rw [eqvEntries_eq_true] at hent
  cases hx : lookup k es with
  | some x =>
    obtain ⟨y, hy, hxy⟩ := hent (k, x) (mem_of_lookup hx)
    rw [hy]
    exact .some hxy
  | none =>
    have hsub : ∀ k ∈ es.map Prod.fst, k ∈ fs.map Prod.fst := by
      intro k hk
      obtain ⟨e, he, rfl⟩ := List.mem_map.1 hk
      obtain ⟨y, hy, -⟩ := hent e he
      exact List.mem_map.2 ⟨(e.1, y), mem_of_lookup hy, rfl⟩
    have hk := mem_keys_of_subset hes hlen hsub k
    rw [lookup_eq_none_iff] at hx
    rw [lookup_eq_none_iff.2 (fun hm => hx (hk hm))]
    exact .none

/-- Two equal mappings with each key once pair their values off by key, in any relation that equal values under one key
stand in. -/
theorem lookup_rel {R : Value → Value → Prop} {es fs : List (Text × Value)} (hes : (es.map Prod.fst).Nodup)
    (h : eqv (.dict es) (.dict fs) = true) (hR : ∀ k x y, (k, x) ∈ es → (k, y) ∈ fs → eqv x y = true → R x y)
    (k : Text) : Option.Rel R (lookup k es) (lookup k fs) := by
  rcases rel_cases (lookup_rel_of_eqv hes h k) with ⟨hx, hy⟩ | ⟨x, y, hx, hy, hxy⟩
  · rw [hx, hy]
    exact .none
  · rw [hx, hy]
    exact .some (hR k x y (mem_of_lookup hx) (mem_of_lookup hy) hxy)

/-- **Equal frozen values are alike**: no equality test, with anything on its other side, tells them apart. -/
theorem alike_of_eqv {e : Value} (he : Frozen e) : ∀ {e'}, Frozen e' → eqv e e' = true → Alike e e' := by
  induction he with
  | null =>
    intro e' _ h
    rw [eqv_null_left.1 h]
    exact fun a => ⟨rfl, rfl⟩
  | bool b =>
    intro e' _ h
    obtain ⟨q, hq, hpq⟩ := (eqv_number_left rfl).1 h
    exact alike_of_number rfl hq hpq
  | int n =>
    intro e' _ h
    obtain ⟨q, hq, hpq⟩ := (eqv_number_left rfl).1 h
    exact alike_of_number rfl hq hpq
  | float _ =>
    intro e' _ h
    obtain ⟨q, hq, hpq⟩ := (eqv_number_left rfl).1 h
    exact alike_of_number rfl hq hpq
  | str s =>
    intro e' _ h
    rw [(eqv_str_left s e').1 h]
    exact fun a => ⟨rfl, rfl⟩
  | @tuple xs hxs ih =>
    intro e' he' h
    obtain ⟨ys, rfl, hxy⟩ := eqv_tuple_left.1 h
    cases he' with
    | tuple hys =>
    -- the items pair off in order, each pair alike by induction
    have hitems : List.Forall₂ Alike xs ys :=
      forall₂_of_eqvItems hxy fun x hx y hy hxy => ih x hx (hys y hy) hxy
    intro a
    cases a <;> simp [eqv, number?, (eqvItems_alike hitems _).1, (eqvItems_alike hitems _).2]
  | @dict es hk _ ih =>
    intro e' he' h
    obtain ⟨fs, rfl, hlen, -⟩ := eqv_dict_left.1 h
    cases he' with
    | dict hfk hfs =>
    -- the entries pair off by key, each pair alike by induction
    have hrel : ∀ k, Option.Rel Alike (lookup k es) (lookup k fs) :=
      lookup_rel hk h fun k x y hx hy hxy => ih (k, x) hx (hfs (k, y) hy) hxy
    intro a
    cases a <;> simp [eqv, number?, eqvEntries_alike_right hrel, eqvEntries_alike_left hk hfk hrel, hlen]

theorem eqvItems_self {xs : List Value} (h : ∀ x ∈ xs, eqv x x = true) : eqvItems xs xs = true := by
  induction xs with
  | nil => rfl
  | cons x xs ih =>
    simp only [eqvItems, Bool.and_eq_true]
    exact ⟨h x List.mem_cons_self, ih fun y hy => h y (List.mem_cons_of_mem _ hy)⟩

theorem eqv_refl {e : Value} (he : Frozen e) : eqv e e = true := by
  induction he with
  | null => rfl
  | bool b => exact (eqv_number_left rfl).2 ⟨_, rfl, (Number.eq_iff_magnitude _ _).2 rfl⟩
  | int n => exact (eqv_number_left rfl).2 ⟨_, rfl, (Number.eq_iff_magnitude _ _).2 rfl⟩
  | float _ => exact (eqv_number_left rfl).2 ⟨_, rfl, (Number.eq_iff_magnitude _ _).2 rfl⟩
  | str s => simp [eqv]
  | tuple _ ih => exact eqvItems_self ih
  | @dict es hk _ ih =>
    simp only [eqv, beq_self_eq_true, Bool.true_and, eqvEntries_eq_true]
    exact fun e he => ⟨e.2, (lookup_eq_some_iff_mem hk).2 he, ih e he⟩

theorem eqv_symm {e e' : Value} (he : Frozen e) (he' : Frozen e') (h : eqv e e' = true) : eqv e' e = true := by
  rw [((alike_of_eqv he he' h) e').1]
  exact eqv_refl he'

theorem eqv_comm {e e' : Value} (he : Frozen e) (he' : Frozen e') : eqv e e' = eqv e' e := by
  rw [Bool.eq_iff_iff]
  exact ⟨eqv_symm he he', eqv_symm he' he⟩

theorem eqv_trans {e e' e'' : Value} (he' : Frozen e') (he'' : Frozen e'')
    (h1 : eqv e e' = true) (h2 : eqv e' e'' = true) : eqv e e'' = true := by
  rw [← ((alike_of_eqv he' he'' h2) e).1]
  exact h1

/-! ## The interpreter's comparison -/

theorem eqv_of_sameObject {a b : Value} (h : sameObject a b = true) : eqv a b = true := by
  cases a <;> cases b
  case float.float x y =>
    simp only [sameObject, Bool.or_eq_true, Bool.and_eq_true] at h
    simp only [eqv, number?, Number.eq, Bool.or_eq_true, Bool.and_eq_true]
    rcases h with h | h
    · exact .inr h
    · exact .inl h.2
  case tuple.tuple xs ys => cases xs <;> cases ys <;> simp_all [sameObject, eqvItems, eqv]
  all_goals simp_all [sameObject, eqv, number?, Number.eq]

theorem comparisonItem_fst {a b : Value} (h : (comparison a b).1 = eqv a b) : (comparisonItem a b).1 = eqv a b := by
  unfold comparisonItem
  split_ifs with hs
  · exact (eqv_of_sameObject hs).symm
  · exact h

theorem comparisonItems_fst {xs ys : List Value}
    (h : ∀ x ∈ xs, ∀ y ∈ ys, (comparisonItem x y).1 = eqv x y) : (comparisonItems xs ys).1 = eqvItems xs ys := by
  induction xs generalizing ys with
  | nil => cases ys <;> simp [comparisonItems, eqvItems]
  | cons x xs ih =>
    cases ys with
    | nil => simp [comparisonItems, eqvItems]
    | cons y ys =>
      have hxy := h x List.mem_cons_self y List.mem_cons_self
      have ih' := ih (fun x' hx' y' hy' => h x' (List.mem_cons_of_mem _ hx') y' (List.mem_cons_of_mem _ hy'))
      rw [comparisonItems, eqvItems, ← hxy, ← ih']
      cases (comparisonItem x y).1 <;> rfl

/-- One step of comparing entries, looking the key up on the other side. -/
theorem comparisonEntries_cons (k : Text) (x : Value) (rest other : List (Text × Value)) :
    comparisonEntries ((k, x) :: rest) other = (lookup k other).elim (false, 0) fun y =>
      if (comparisonItem x y).1 then
        ((comparisonEntries rest other).1, max (comparisonItem x y).2 (comparisonEntries rest other).2)
      else (false, (comparisonItem x y).2) := by
  rw [comparisonEntries]
  split <;> rename_i h <;> simp [h]

theorem comparisonEntries_fst {bs as : List (Text × Value)}
    (h : ∀ e ∈ bs, ∀ y, lookup e.1 as = some y → (comparisonItem e.2 y).1 = eqv e.2 y) :
    (comparisonEntries bs as).1 = eqvEntries bs as := by
  induction bs with
  | nil => simp [comparisonEntries, eqvEntries]
  | cons b bs ih =>
    obtain ⟨k, x⟩ := b
    have ih' := ih fun e he => h e (List.mem_cons_of_mem _ he)
    rw [comparisonEntries, eqvEntries]
    split
    · rename_i hl
      rw [hl]
      rfl
    · rename_i y hl
      have hx : (comparisonItem x y).1 = eqv x y := h (k, x) List.mem_cons_self y hl
      rw [hl]
      dsimp only
      rw [← hx, ← ih']
      cases (comparisonItem x y).1 <;> rfl

/-- **The interpreter's comparison of frozen data answers as equality as data**, although it takes the entries of a
mapping in the order of the other side and short-cuts values that are the same object. -/
theorem comparison_fst {a : Value} (ha : Frozen a) :
    ∀ {b}, Frozen b → (comparison a b).1 = eqv a b ∧ (comparison b a).1 = eqv b a := by
  induction ha with
  | null => intro b _; cases b <;> simp [comparison, eqv, number?]
  | bool _ => intro b _; cases b <;> simp [comparison, eqv, number?]
  | int _ => intro b _; cases b <;> simp [comparison, eqv, number?]
  | float _ => intro b _; cases b <;> simp [comparison, eqv, number?]
  | str _ => intro b _; cases b <;> simp [comparison, eqv, number?]
  | @tuple xs _ ih =>
    intro b hb
    cases hb with
    | @tuple ys hys =>
      constructor
      · simp only [comparison, eqv]
        exact comparisonItems_fst fun x hx y hy => comparisonItem_fst (ih x hx (hys y hy)).1
      · simp only [comparison, eqv]
        exact comparisonItems_fst fun y hy x hx => comparisonItem_fst (ih x hx (hys y hy)).2
    | _ => simp [comparison, eqv, number?]
  | @dict es hk hes ih =>
    intro b hb
    cases hb with
    | @dict fs hfk hfs =>
      have hcomm := eqv_comm (.dict hk hes) (.dict hfk hfs)
      -- the comparison takes the entries of the other side, so it answers the equality the other way round
      have h1 : (comparisonEntries fs es).1 = eqvEntries fs es := comparisonEntries_fst fun f hf x hl =>
        comparisonItem_fst (ih (f.1, x) (mem_of_lookup hl) (hfs f hf)).2
      have h2 : (comparisonEntries es fs).1 = eqvEntries es fs := comparisonEntries_fst fun e he y hl =>
        comparisonItem_fst (ih e he (hfs (e.1, y) (mem_of_lookup hl))).1
      simp only [comparison, eqv] at hcomm ⊢
      by_cases hlen : es.length = fs.length
      · simp only [hlen, bne_self_eq_false, Bool.false_eq_true, if_false, beq_self_eq_true, Bool.true_and, h1, h2]
          at hcomm ⊢
        exact ⟨hcomm.symm, hcomm⟩
      · have hlen' : fs.length ≠ es.length := Ne.symm hlen
        simp [hlen, hlen']
    | _ => simp [comparison, eqv, number?]

/-! ## Thawing -/

theorem thawAll_eq_map (xs : List Value) : thaw.thawAll xs = xs.map thaw := by
  induction xs with
  | nil => rfl
  | cons x xs ih => simp only [thaw.thawAll, List.map_cons, ih]

/-- Items changed alike on both sides compare as before, when each change keeps the answer for every pair. -/
theorem eqvItems_map {f : Value → Value} {xs ys : List Value} (h : ∀ x ∈ xs, ∀ y ∈ ys, eqv (f x) (f y) = eqv x y) :
    eqvItems (xs.map f) (ys.map f) = eqvItems xs ys := by
  induction xs generalizing ys with
  | nil => cases ys <;> rfl
  | cons x xs ih =>
    cases ys with
    | nil => rfl
    | cons y ys =>
      simp only [List.map_cons, eqvItems, h x List.mem_cons_self y List.mem_cons_self]
      rw [ih fun x hx y hy => h x (List.mem_cons_of_mem _ hx) y (List.mem_cons_of_mem _ hy)]

theorem length_thawEntries (es : List (Text × Value)) : (thaw.thawEntries es).length = es.length := by
  induction es with
  | nil => rfl
  | cons e es ih => simp [thaw.thawEntries, ih]

theorem lookup_thawEntries (k : Text) (es : List (Text × Value)) :
    lookup k (thaw.thawEntries es) = (lookup k es).map thaw := by
  induction es with
  | nil => rfl
  | cons e es ih =>
    obtain ⟨k', x⟩ := e
    simp only [thaw.thawEntries, lookup_cons, ih]
    split_ifs <;> rfl

/-- **Thawing frozen data keeps its equalities**: the lists a record shows compare as the tuples the rule keeps. -/
theorem eqv_thaw {a : Value} (ha : Frozen a) : ∀ {b}, Frozen b → eqv a.thaw b.thaw = eqv a b := by
  induction ha with
  | null => intro b hb; cases hb <;> simp [thaw, eqv, number?]
  | bool _ => intro b hb; cases hb <;> simp [thaw, eqv, number?]
  | int _ => intro b hb; cases hb <;> simp [thaw, eqv, number?]
  | float _ => intro b hb; cases hb <;> simp [thaw, eqv, number?]
  | str _ => intro b hb; cases hb <;> simp [thaw, eqv, number?]
  | @tuple xs _ ih =>
    intro b hb
    cases hb with
    | @tuple ys hys =>
      simp only [thaw, eqv, thawAll_eq_map]
      exact eqvItems_map fun x hx y hy => ih x hx (hys y hy)
    | _ => simp [thaw, eqv, number?]
  | @dict es hk hes ih =>
    intro b hb
    clear hk hes
    cases hb with
    | @dict fs _ hfs =>
      simp only [thaw, eqv, length_thawEntries]
      congr 1
      induction es with
      | nil => rfl
      | cons e es ihe =>
        obtain ⟨k, x⟩ := e
        simp only [thaw.thawEntries, eqvEntries, lookup_thawEntries]
        rw [ihe (fun e he => ih e (List.mem_cons_of_mem _ he))]
        cases hl : lookup k fs with
        | none => rfl
        | some y => simp only [Option.map_some, ih (k, x) List.mem_cons_self (hfs (k, y) (mem_of_lookup hl))]
    | _ => simp [thaw, eqv, number?]

/-! ## Hashes -/

theorem hash_number {v : Value} {p : Number} (hv : v.number? = some p) : v.hash = p.hash := by
  cases v <;> simp only [number?, reduceCtorEq, Option.some.injEq] at hv <;> subst hv
  case bool b => cases b <;> rfl
  all_goals rfl

theorem setHash_perm {hs hs' : List UInt64} (h : hs.Perm hs') : setHash hs = setHash hs' := by
  unfold setHash
  rw [h.length_eq, h.foldl_eq' (fun x _ y _ z => by rw [UInt64.xor_assoc, UInt64.xor_comm (shuffleBits x),
    ← UInt64.xor_assoc])]

theorem hashItems_congr {xs ys : List Value} (h : List.Forall₂ (fun x y => x.hash = y.hash) xs ys) :
    hashItems xs = hashItems ys := by
  induction h with
  | nil => rfl
  | cons hxy _ ih => simp only [hashItems, hxy, ih]

/-- The hashes of the entries of a mapping with each key once, key by key. -/
theorem hashEntries_eq_map_keys {es : List (Text × Value)} (hk : (es.map Prod.fst).Nodup) :
    hashEntries es = (es.map Prod.fst).map fun k => tupleHash [k.hash, ((lookup k es).getD .null).hash] := by
  induction es with
  | nil => rfl
  | cons e es ih =>
    obtain ⟨k, x⟩ := e
    rw [List.map_cons, List.nodup_cons] at hk
    simp only [hashEntries, List.map_cons, lookup_cons, ih hk.2, List.cons.injEq]
    refine ⟨by simp, List.map_congr_left fun k' hk' => ?_⟩
    rw [if_neg (fun h : k = k' => hk.1 (h ▸ hk'))]

/-- **Equal frozen values hash alike.** -/
theorem hash_eq_of_eqv {a : Value} (ha : Frozen a) : ∀ {b}, Frozen b → eqv a b = true → a.hash = b.hash := by
  induction ha with
  | null => intro b _ h; rw [eqv_null_left.1 h]
  | bool _ =>
    intro b _ h
    obtain ⟨q, hq, hpq⟩ := (eqv_number_left rfl).1 h
    rw [hash_number rfl, hash_number hq, Number.hash_eq_of_eq hpq]
  | int _ =>
    intro b _ h
    obtain ⟨q, hq, hpq⟩ := (eqv_number_left rfl).1 h
    rw [hash_number rfl, hash_number hq, Number.hash_eq_of_eq hpq]
  | float _ =>
    intro b _ h
    obtain ⟨q, hq, hpq⟩ := (eqv_number_left rfl).1 h
    rw [hash_number rfl, hash_number hq, Number.hash_eq_of_eq hpq]
  | str s => intro b _ h; rw [(eqv_str_left s b).1 h]
  | @tuple xs _ ih =>
    intro b hb h
    obtain ⟨ys, rfl, hxy⟩ := eqv_tuple_left.1 h
    cases hb with
    | tuple hys =>
    simp only [hash]
    exact congrArg tupleHash (hashItems_congr (forall₂_of_eqvItems hxy fun x hx y hy hxy => ih x hx (hys y hy) hxy))
  | @dict es hk _ ih =>
    intro b hb h
    obtain ⟨fs, rfl, -, -⟩ := eqv_dict_left.1 h
    cases hb with
    | dict hfk hfs =>
    have hrel : ∀ k, Option.Rel (fun x y => x.hash = y.hash) (lookup k es) (lookup k fs) :=
      lookup_rel hk h fun k x y hx hy hxy => ih (k, x) hx (hfs (k, y) hy) hxy
    -- the keys are one set, and each key's value hashes alike on both sides
    have hkeys : (es.map Prod.fst).Perm (fs.map Prod.fst) := by
      rw [List.perm_ext_iff_of_nodup hk hfk]
      intro k
      rw [← not_iff_not, ← lookup_eq_none_iff, ← lookup_eq_none_iff]
      rcases rel_cases (hrel k) with ⟨hx, hy⟩ | ⟨x, y, hx, hy, -⟩ <;> simp [hx, hy]
    have hval : ∀ k ∈ es.map Prod.fst,
        ((lookup k es).getD .null).hash = ((lookup k fs).getD .null).hash := by
      intro k _
      rcases rel_cases (hrel k) with ⟨hx, hy⟩ | ⟨x, y, hx, hy, hxy⟩
      · rw [hx, hy]
      · rw [hx, hy, Option.getD_some, Option.getD_some, hxy]
    simp only [hash]
    apply setHash_perm
    rw [hashEntries_eq_map_keys hk, hashEntries_eq_map_keys hfk, List.map_congr_left fun k hk' => by rw [hval k hk']]
    exact hkeys.map _

theorem eqDirect_of_frozen {e : Value} (he : Frozen e) (a : Value) : a.eqDirect e = a.eqv e := by
  cases he with
  | float h => cases a <;> simp only [eqDirect, eqv, number?, Number.eq, h, Bool.and_false, Bool.or_false]
  | _ => cases a <;> rfl

/-! ## The same data, written differently -/

/-- Two values that hold the same data written differently: the keys of every mapping, at every level, in another
order, and numbers of one magnitude written as integers, doubles or truth values. -/
inductive Rearranged : Value → Value → Prop
  | null : Rearranged .null .null
  | str (s : Text) : Rearranged (.str s) (.str s)
  | number {v w : Value} {p q : Number} (hv : v.number? = some p) (hw : w.number? = some q)
      (h : p.magnitude = q.magnitude) : Rearranged v w
  | tuple {xs ys : List Value} (hlen : xs.length = ys.length) (h : ∀ p ∈ xs.zip ys, Rearranged p.1 p.2) :
      Rearranged (.tuple xs) (.tuple ys)
  | dict {es fs : List (Text × Value)} (hk : (es.map Prod.fst).Nodup)
      (hperm : (es.map Prod.fst).Perm (fs.map Prod.fst))
      (h : ∀ k x y, lookup k es = some x → lookup k fs = some y → Rearranged x y) : Rearranged (.dict es) (.dict fs)

/-- **Data written differently is equal as data.** -/
theorem eqv_of_rearranged {v w : Value} (h : Rearranged v w) : eqv v w = true := by
  induction h with
  | null => rfl
  | str s => simp [eqv]
  | number hv hw h => exact (eqv_number_left hv).2 ⟨_, hw, (Number.eq_iff_magnitude _ _).2 h⟩
  | tuple hlen _ ih => exact eqvItems_iff_forall₂.2 (List.forall₂_iff_zip.2 ⟨hlen, fun hp => ih _ hp⟩)
  | @dict es fs hk hperm _ ih =>
    simp only [eqv, Bool.and_eq_true, beq_iff_eq]
    refine ⟨by simpa using hperm.length_eq, eqvEntries_eq_true.2 fun e he => ?_⟩
    -- every key of the one is a key of the other, under the value its own entry holds
    have hmem : e.1 ∈ fs.map Prod.fst := hperm.mem_iff.1 (List.mem_map_of_mem he)
    obtain ⟨y, hy⟩ := Option.ne_none_iff_exists'.1 (mt lookup_eq_none_iff.1 (not_not.2 hmem))
    exact ⟨y, hy, ih e.1 e.2 y ((lookup_eq_some_iff_mem hk).2 he) hy⟩

end Value

end RoleRules
