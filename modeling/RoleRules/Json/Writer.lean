import RoleRules.Value.Basic
import RoleRules.Text.Quoted
import RoleRules.Decimal.Shortest
import RoleRules.Text.Order
/-!
# Writing values as JSON text

Values are written as JSON with `, ` between items and `: ` after keys. Texts are pure
ASCII: `"` and `\` are escaped, the usual controls get their short escapes, and every
other code point outside the printable ASCII range is written `\uXXXX` in lower-case
hexadecimal, as a pair of surrogates above the basic plane (a lone surrogate as itself).
Tuples are written as lists and objects as mappings.

Strict JSON has no NaN and no infinities: `Json.finite` tells whether a value is free of
them, and so can be written for a strict reader.

With `sortKeys` the entries of every mapping are written in the code-point order of their
keys; that text orders values that are not texts (`Json.orderKey`).
-/
namespace RoleRules.Json

/-- Doubles in JSON: as in messages, but the infinities are `Infinity` and a NaN `NaN`. -/
def floatLayout : Decimal.Layout := ⟨-4, 16, 2, "Infinity", "NaN"⟩

/-- How one code point is written inside a JSON text. -/
def escapePoint (p : Nat) : String :=
  if p = 0x22 then "\\\""
  else if p = 0x5c then "\\\\"
  else if p = 0x0a then "\\n"
  else if p = 0x0d then "\\r"
  else if p = 0x09 then "\\t"
  else if p = 8 then "\\b"
  else if p = 12 then "\\f"
  else if 0x20 ≤ p ∧ p ≤ 0x7e then String.singleton (Char.ofNat p)
  else if p < 0x10000 then "\\u" ++ Text.hexPadded 4 p
  else
    let v := p - 0x10000
    "\\u" ++ Text.hexPadded 4 (0xD800 + v / 0x400) ++ "\\u" ++ Text.hexPadded 4 (0xDC00 + v % 0x400)

/-- A text as a JSON string. -/
def quote (t : Text) : String :=
  "\"" ++ String.join (t.points.map escapePoint) ++ "\""

/-- A JSON object from its keys and the texts of their values; with `sortKeys` in the
code-point order of the keys. -/
def object (sortKeys : Bool) (ps : List (Text × String)) : String :=
  let ps := if sortKeys then Text.sortOn Prod.fst ps else ps
  "\x7b" ++ ", ".intercalate (ps.map fun p => quote p.1 ++ ": " ++ p.2) ++ "\x7d"

/-- The JSON text of a value. -/
def write (sortKeys : Bool) : Value → String
  | .null => "null"
  | .bool b => if b then "true" else "false"
  | .int n => toString n
  | .float x => floatLayout.render x
  | .str s => quote s
  | .list xs => "[" ++ ", ".intercalate (writeAll xs) ++ "]"
  | .tuple xs => "[" ++ ", ".intercalate (writeAll xs) ++ "]"
  | .dict es => object sortKeys (writeEntries es)
  | .object es => object sortKeys (writeEntries es)
where
  writeAll : List Value → List String
    | [] => []
    | x :: rest => write sortKeys x :: writeAll rest
  writeEntries : List (Text × Value) → List (Text × String)
    | [] => []
    | (k, x) :: rest => (k, write sortKeys x) :: writeEntries rest

/-- The text of a value as the key of a JSON object: a text as it is, anything else as its
JSON text. -/
def keyText : Value → Text
  | .str t => t
  | v => Text.ofString (write false v)

/-- Whether no double in the value is a NaN or infinite. -/
def finite : Value → Bool
  | .float x => !(x.isNaN || x.isInf)
  | .list xs => finiteAll xs
  | .tuple xs => finiteAll xs
  | .dict es => finiteEntries es
  | .object es => finiteEntries es
  | _ => true
where
  finiteAll : List Value → Bool
    | [] => true
    | x :: rest => finite x && finiteAll rest
  finiteEntries : List (Text × Value) → Bool
    | [] => true
    | (_, x) :: rest => finite x && finiteEntries rest

/-- The order key of a value that is not a text: its JSON text with sorted keys. -/
def orderKey (v : Value) : String := write true v

/-- Values in the order of a written set: texts first, by code point, then the others by
`orderKey`. -/
def setOrder (xs : List Value) : List Value :=
  let texts := Text.sortTexts (xs.filterMap Value.text?)
  let others := Text.sortOn orderKey (xs.filter fun x => (Value.text? x).isNone)
  texts.map .str ++ others

example : write true (.dict [(Text.ofString "b", .int 1),
    (Text.ofString "a", .list [.float 1e30, .str (Text.ofString "é")])]) =
    "\x7b\"a\": [1e+30, \"\\u00e9\"], \"b\": 1\x7d" := by decide +kernel

end RoleRules.Json
