import RoleRules.Text.Basic
/-!
# Sorting by a key

Names of roles, keys of mappings and members of sets are listed in the order of a key:
the code-point order of a text, or of the JSON text of a value. Texts are linearly ordered
by their code points (`Std.IsLinearOrder Text`, with `<` the strict part of `≤`).
`sortOn key` is a stable insertion sort by that key: an item goes before every later item
whose key is not below its own, so items with equal keys keep their order. The main
statement: sorting keeps every item.
-/
namespace RoleRules.Text

theorem points_injective : Function.Injective points := fun a b h => by
  cases a
  cases b
  cases h
  rfl

/-- `a ≤ b` when `b` is not below `a` in code-point order. -/
instance : LE Text := ⟨fun a b => ¬ b < a⟩

instance (a b : Text) : Decidable (a ≤ b) := inferInstanceAs (Decidable (¬ b < a))

/-- Texts in code-point order, the first difference deciding: a linear order, whose strict
part is `<`. -/
instance : Std.IsLinearOrder Text where
  le_refl a := List.le_refl a.points
  le_trans _ _ _ := List.le_trans
  le_antisymm _ _ h h' := points_injective (List.le_antisymm h h')
  le_total a b := List.le_total a.points b.points

instance : Std.LawfulOrderLT Text where
  lt_iff _ _ := ⟨fun h => ⟨List.lt_asymm h, not_not_intro h⟩, fun h => Decidable.of_not_not h.2⟩

variable {α β : Type} [LT β] [DecidableRel (α := β) (· < ·)]

/-- Put `x` before the first item whose key is not below its key. -/
def insertOn (key : α → β) (x : α) : List α → List α
  | [] => [x]
  | y :: ys => if key y < key x then y :: insertOn key x ys else x :: y :: ys

/-- The items in the order of their keys, equal keys in their first order. -/
def sortOn (key : α → β) (xs : List α) : List α :=
  xs.foldr (insertOn key) []

/-- Texts in code-point order. -/
def sortTexts (xs : List Text) : List Text :=
  sortOn id xs

theorem perm_insertOn (key : α → β) (x : α) (ys : List α) :
    (insertOn key x ys).Perm (x :: ys) := by
  induction ys with
  | nil => exact List.Perm.refl _
  | cons y ys ih =>
    simp only [insertOn]
    split
    · exact (List.Perm.cons y ih).trans (List.Perm.swap x y ys)
    · exact List.Perm.refl _

theorem perm_sortOn (key : α → β) (xs : List α) : (sortOn key xs).Perm xs := by
  induction xs with
  | nil => exact List.Perm.refl _
  | cons x xs ih =>
    simp only [sortOn, List.foldr_cons] at ih ⊢
    exact (perm_insertOn key x _).trans (List.Perm.cons x ih)

example : sortTexts (["b", "a", "￿", "😀", "B"].map ofString) =
    ["B", "a", "b", "￿", "😀"].map ofString := by decide +kernel
example : sortTexts [⟨[0x1f600]⟩, ⟨[0xe000]⟩, ⟨[0xdc00]⟩, ⟨[0x7a]⟩] =
    [⟨[0x7a]⟩, ⟨[0xdc00]⟩, ⟨[0xe000]⟩, ⟨[0x1f600]⟩] := by decide +kernel
example : sortOn Prod.fst [(ofString "b", 1), (ofString "a", 2), (ofString "b", 3)] =
    [(ofString "a", 2), (ofString "b", 1), (ofString "b", 3)] := by decide +kernel

end RoleRules.Text
