import RoleRules.Text.Basic
/-!
# Blank characters

Names of actions and subjects must hold something besides blanks. A blank is a code point
that trimming removes from either end of a text: the Unicode white space characters
together with the four ASCII information separators (`\x1c` to `\x1f`). The zero width
space and the byte order mark are not blank, and neither is a surrogate.

The main statements: every character that core calls white space is blank, and a text is
blank exactly when all of its code points are.
-/
namespace RoleRules.Text

/-- The blank code points, as inclusive ranges in increasing order. -/
def blankRanges : List (Nat × Nat) :=
  [(9, 13), (28, 32), (133, 133), (160, 160), (5760, 5760), (8192, 8202), (8232, 8233),
   (8239, 8239), (8287, 8287), (12288, 12288)]

/-- Whether trimming removes the code point `p`. -/
def isBlankPoint (p : Nat) : Bool :=
  blankRanges.any fun r => r.1 ≤ p && p ≤ r.2

/-- A text is blank when trimming leaves nothing of it: every code point is blank. -/
def isBlank (t : Text) : Bool :=
  t.points.all isBlankPoint

theorem isBlankPoint_of_isWhitespace (c : Char) (h : c.isWhitespace = true) :
    isBlankPoint c.toNat = true := by
  simp only [Char.isWhitespace, Bool.or_eq_true, decide_eq_true_eq] at h
  rcases h with ((h | h) | h) | h <;> subst h <;> decide

theorem isBlank_iff (t : Text) : t.isBlank = true ↔ ∀ p ∈ t.points, isBlankPoint p = true := by
  simp [isBlank]

example : isBlankPoint 0x1c = true ∧ isBlankPoint 0x200b = false ∧ isBlankPoint 0xfeff = false := by
  decide

end RoleRules.Text
