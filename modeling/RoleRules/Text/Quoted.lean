import RoleRules.Text.Basic
import RoleRules.Text.Printable
/-!
# Quoted text

Messages show a text between quotes, so that blanks and invisible characters can be seen.
The quote is `'`, or `"` when the text holds `'` but no `"`. Inside, the chosen quote and
the backslash are escaped with a backslash, tab, line feed and carriage return are
written `\t`, `\n` and `\r`, printable code points stand as they are, and every other
code point (a lone surrogate too) is written by its code in lower-case hexadecimal:
`\xNN` below 256, `\uNNNN` below 65536 and `\UNNNNNNNN` above.
-/
namespace RoleRules.Text

/-- `n` in lower-case hexadecimal, padded with zeros to `width` digits. -/
def hexPadded (width n : Nat) : String :=
  let digits := Nat.toDigits 16 n
  String.ofList (List.replicate (width - digits.length) '0' ++ digits)

/-- How one code point is written between the quote `q`. -/
def escapePoint (q p : Nat) : Text :=
  if p = q ∨ p = 0x5c then ⟨[0x5c, p]⟩
  else if p = 0x09 then ofString "\\t"
  else if p = 0x0a then ofString "\\n"
  else if p = 0x0d then ofString "\\r"
  else if p < 0x7f then
    if p < 0x20 then ofString ("\\x" ++ hexPadded 2 p) else singleton p
  else if isPrintable p then singleton p
  else if p < 0x100 then ofString ("\\x" ++ hexPadded 2 p)
  else if p < 0x10000 then ofString ("\\u" ++ hexPadded 4 p)
  else ofString ("\\U" ++ hexPadded 8 p)

/-- The quote chosen for `t`: a double quote only to avoid escaping single ones. -/
def quoteFor (t : Text) : Nat :=
  if t.points.contains 0x27 && !t.points.contains 0x22 then 0x22 else 0x27

/-- `t` between quotes, with its code points escaped as the module says. -/
def quote (t : Text) : Text :=
  let q := quoteFor t
  ⟨q :: (t.points.flatMap fun p => (escapePoint q p).points) ++ [q]⟩

example : quote (ofString "it's") = ofString "\"it's\"" := by decide +kernel
example : quote (ofString "a'b\"c") = ofString "'a\\'b\"c'" := by decide +kernel
example : quote (ofString "\x00\x7f\x85​") = ofString "'\\x00\\x7f\\x85\\u200b'" := by decide +kernel
example : quote ⟨[0xd800, 0x41]⟩ = ofString "'\\ud800A'" := by decide +kernel

end RoleRules.Text
