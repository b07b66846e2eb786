import RoleRules.Value.Equality
/-!
# Recursion depth

Freezing conditions, comparing them and reading loose input all recurse through the data,
and the interpreter that runs rules allows `recursionLimit` nested steps at most, counting
together the functions entered and the guarded steps of its own (comparisons, calls of
objects that are not plain functions). A computation that would go deeper is stopped at
the first step past the limit, and the message names that step (`Guard`). This module
measures how deep such computations go, so that they can be refused exactly where the
interpreter gives up.

* `Value.height` counts the containers along the deepest path of a value that hold
  something: a leaf and an empty container count nothing. Walks that take two nested
  steps per container reach twice the height past where they start, and a little more at
  the bottom.
* `Value.comparison` runs an equality test of two frozen values the way the interpreter
  does (items in order up to the first difference, mappings of different sizes at once
  unequal, a mapping's entries in the order of the right-hand one, and the sides swapped on
  every level of mappings) and counts the nested comparisons at its deepest point: one per
  tuple level, three per mapping level (the read-only views and their mappings compare
  twice over), two for a mapping and something else (the view hands the question on to
  its mapping), one for any other pair of leaves. Two values that are the same object
  compare without any (`Value.sameObject`).
-/
namespace RoleRules

/-- The most nested steps the interpreter allows, functions entered and guarded steps
together. -/
def recursionLimit : Nat := 1000

namespace Value

mutual
/-- The containers along the deepest path of a value that hold something (see the module
note); objects are leaves, since no walk here looks inside them. -/
def height : Value → Nat
  | list (x :: xs) => heightItems (x :: xs) + 1
  | tuple (x :: xs) => heightItems (x :: xs) + 1
  | dict (e :: es) => heightEntries (e :: es) + 1
  | _ => 0

/-- The greatest height among items. -/
def heightItems : List Value → Nat
  | [] => 0
  | x :: rest => max (height x) (heightItems rest)

/-- The greatest height among the values of entries. -/
def heightEntries : List (Text × Value) → Nat
  | [] => 0
  | (_, x) :: rest => max (height x) (heightEntries rest)
end

/-- Two values read from one JSON text that are the same object: nothing, truth values,
integers from `-5` to `256`, the empty text and the texts of one code point below `U+0100`
are shared, the reader gives its one NaN and its two infinities wherever they are written,
and every empty tuple is the one empty tuple. -/
def sameObject : Value → Value → Bool
  | null, null => true
  | bool a, bool b => a == b
  | int a, int b => a == b && -5 ≤ a && a ≤ 256
  | str s, str t => s == t && (s.points.isEmpty || (s.length == 1 && s.points.all (· < 256)))
  | float x, float y => (x.isNaN && y.isNaN) || (x.isInf && x == y)
  | tuple [], tuple [] => true
  | _, _ => false

/-- The value found under a key is smaller than the entries it was found in. -/
theorem sizeOf_lookup_lt {k : Text} {y : Value} :
    ∀ {es : List (Text × Value)}, lookup k es = some y → sizeOf y < sizeOf es
  | [], h => by simp [lookup] at h
  | (k', x) :: rest, h => by
    simp only [lookup, List.find?_cons] at h
    by_cases hk : k' == k
    · simp only [hk, Option.map_some, Option.some.injEq] at h
      subst h
      simp
      omega
    · simp only [hk] at h
      have := @sizeOf_lookup_lt k y rest (by simpa [lookup] using h)
      simp
      omega

mutual
/-- Compare two values that are not the same object: whether they are equal, and how many
comparisons are nested at the deepest point, this one included. -/
def comparison : Value → Value → Bool × Nat
  | tuple xs, tuple ys =>
    let r := comparisonItems xs ys
    (r.1, r.2 + 1)
  | dict as, dict bs =>
    if as.length != bs.length then (false, 3)
    else
      let r := comparisonEntries bs as
      (r.1, r.2 + 3)
  | dict _, _ => (false, 2)
  | _, dict _ => (false, 2)
  | a, b => (eqv a b, 1)
termination_by a b => sizeOf a + sizeOf b

/-- Compare two items: the same object is equal at once. -/
def comparisonItem (a b : Value) : Bool × Nat :=
  if sameObject a b then (true, 0) else comparison a b
termination_by sizeOf a + sizeOf b + 1

/-- Compare items in order up to the first that differ, then the lengths. -/
def comparisonItems : List Value → List Value → Bool × Nat
  | [], [] => (true, 0)
  | x :: xs, y :: ys =>
    let r := comparisonItem x y
    if r.1 then
      let s := comparisonItems xs ys
      (s.1, max r.2 s.2)
    else (false, r.2)
  | _, _ => (false, 0)
termination_by xs ys => sizeOf xs + sizeOf ys

/-- Compare the entries of the first mapping, in its order, with those of the second under
the same keys, up to the first key missing or value different. -/
def comparisonEntries : List (Text × Value) → List (Text × Value) → Bool × Nat
  | [], _ => (true, 0)
  | (k, x) :: rest, other =>
    match _h : lookup k other with
    | none => (false, 0)
    | some y =>
      let r := comparisonItem x y
      if r.1 then
        let s := comparisonEntries rest other
        (s.1, max r.2 s.2)
      else (false, r.2)
termination_by es other => sizeOf es + sizeOf other
decreasing_by
  all_goals simp_wf
  all_goals first
    | omega
    | have := sizeOf_lookup_lt _h
      omega
end

end Value

end RoleRules
