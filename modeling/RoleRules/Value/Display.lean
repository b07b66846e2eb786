import RoleRules.Value.Basic
import RoleRules.Text.Quoted
import RoleRules.Decimal.Shortest
/-!
# How messages show a value

A message shows the value it complains about: `None`, `True` and `False`, integers in
decimal, doubles by their shortest text, texts quoted (`RoleRules.Text.Quoted`), lists as
`[a, b]`, tuples as `(a, b)` (one item as `(a,)`), mappings as `{'k': v}` in their order,
and objects as `namespace(k=v)` with the names as they are.

`Value.asName` is the plain text of a value where a message wants a name: a text as it
is, anything else as shown.
-/
namespace RoleRules.Value

/-- Doubles in messages: positional from `1e-4` up to below `1e16`, an exponent of at
least two digits with its sign (`1e+16`, `1e-05`), and `inf` and `nan`. -/
def shownFloat : Decimal.Layout := ⟨-4, 16, 2, "inf", "nan"⟩

/-- The text of a value in a message. -/
def display : Value → Text
  | null => Text.ofString "None"
  | bool b => Text.ofString (if b then "True" else "False")
  | int n => Text.ofString (toString n)
  | float x => Text.ofString (shownFloat.render x)
  | str s => Text.quote s
  | list xs => Text.ofString "[" ++ Text.intercalate (Text.ofString ", ") (displayAll xs) ++
      Text.ofString "]"
  | tuple [x] => Text.ofString "(" ++ display x ++ Text.ofString ",)"
  | tuple xs => Text.ofString "(" ++ Text.intercalate (Text.ofString ", ") (displayAll xs) ++
      Text.ofString ")"
  | dict es => Text.ofString "\x7b" ++ Text.intercalate (Text.ofString ", ") (displayEntries es) ++
      Text.ofString "\x7d"
  | object es => Text.ofString "namespace(" ++
      Text.intercalate (Text.ofString ", ") (displayAttrs es) ++ Text.ofString ")"
where
  displayAll : List Value → List Text
    | [] => []
    | x :: rest => display x :: displayAll rest
  displayEntries : List (Text × Value) → List Text
    | [] => []
    | (k, x) :: rest => (Text.quote k ++ Text.ofString ": " ++ display x) :: displayEntries rest
  displayAttrs : List (Text × Value) → List Text
    | [] => []
    | (k, x) :: rest => (k ++ Text.ofString "=" ++ display x) :: displayAttrs rest

/-- A list of texts as messages show it. -/
def displayTexts (xs : List Text) : Text :=
  display (list (xs.map str))

/-- The plain text of a value where a name is expected: a text as it is, anything else as
shown in messages. -/
def asName : Value → Text
  | str s => s
  | v => v.display

example : display (dict [(Text.ofString "a", list [int 1, float 1.5, null])]) =
    Text.ofString "\x7b'a': [1, 1.5, None]\x7d" := by
  decide +kernel

end RoleRules.Value
