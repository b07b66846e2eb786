/-!
# Texts

A text is a sequence of Unicode code points. Names, keys, reasons and messages are texts.
Unlike a `String`, a text may hold a surrogate code point (U+D800 to U+DFFF) on its own:
a JSON escape can write one, and it is then part of a name like any other character.

Texts are equal when their code points are, and ordered by their code points, the first
difference deciding; so a text sorts before every longer text that it begins.
-/
namespace RoleRules

/-- A sequence of code points; a surrogate may stand alone. -/
structure Text where
  points : List Nat
deriving DecidableEq, Inhabited

namespace Text

/-- The text of a string, character by character. -/
def ofString (s : String) : Text := ⟨s.toList.map Char.toNat⟩

instance : Coe String Text := ⟨ofString⟩

instance : Append Text := ⟨fun a b => ⟨a.points ++ b.points⟩⟩

instance : LT Text := ⟨fun a b => a.points < b.points⟩

instance (a b : Text) : Decidable (a < b) := inferInstanceAs (Decidable (a.points < b.points))

/-- The text of one code point. -/
def singleton (p : Nat) : Text := ⟨[p]⟩

/-- Whether the text has no code point. -/
def isEmpty (t : Text) : Bool := t.points.isEmpty

/-- The number of code points. -/
def length (t : Text) : Nat := t.points.length

/-- Whether a code point is a surrogate, which no string can hold. -/
def isSurrogate (p : Nat) : Bool := 0xD800 ≤ p && p ≤ 0xDFFF

/-- The string of a text without surrogates. -/
def toString? (t : Text) : Option String :=
  if t.points.any isSurrogate then none else some (String.ofList (t.points.map Char.ofNat))

/-- The pieces of a text between the occurrences of the code point `sep`; a text without
it is one piece, and the empty text is one empty piece. -/
def splitOn (sep : Nat) (t : Text) : List Text :=
  (t.points.splitOn sep).map Text.mk

/-- Texts joined with `sep` between neighbours. -/
def intercalate (sep : Text) : List Text → Text
  | [] => ⟨[]⟩
  | [t] => t
  | t :: rest => t ++ sep ++ intercalate sep rest

@[simp] theorem points_append (a b : Text) : (a ++ b).points = a.points ++ b.points := rfl

theorem ofString_points (s : String) : (ofString s).points = s.toList.map Char.toNat := rfl

example : splitOn 46 (ofString "a..b") = [ofString "a", ofString "", ofString "b"] := by decide
example : ofString "b" < ofString "ba" ∧ ¬ ofString "b" < ofString "a" := by decide

end Text

end RoleRules
