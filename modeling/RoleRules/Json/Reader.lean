import RoleRules.Value.Basic
/-!
# Reading JSON text into values

A JSON number without a fraction or an exponent is an integer of any size; any other
number is the nearest double. `NaN`, `Infinity` and `-Infinity` are read as doubles too.
Texts may hold any character but the controls below `0x20`; a `\uXXXX` escape of a high
surrogate directly followed by one of a low surrogate gives the code point of the pair,
and a surrogate without its partner is kept as it is.
When a mapping repeats a key, the last value wins and the key keeps its first place.

The reader descends with a budget of steps that grows with the text, so that it is a
total function; `parse?` gives it enough for any text.
-/
namespace RoleRules.Json

/-- Skip blanks between tokens. -/
def skipBlank : List Char → List Char
  | [] => []
  | c :: rest => if c = ' ' ∨ c = '\t' ∨ c = '\n' ∨ c = '\r' then skipBlank rest else c :: rest

/-- The value of one hexadecimal digit. -/
def hexDigit? (c : Char) : Option Nat :=
  if '0' ≤ c ∧ c ≤ '9' then some (c.toNat - '0'.toNat)
  else if 'a' ≤ c ∧ c ≤ 'f' then some (c.toNat - 'a'.toNat + 10)
  else if 'A' ≤ c ∧ c ≤ 'F' then some (c.toNat - 'A'.toNat + 10)
  else none

/-- The value of four hexadecimal digits. -/
def hex4? (a b c d : Char) : Option Nat := do
  let a ← hexDigit? a
  let b ← hexDigit? b
  let c ← hexDigit? c
  let d ← hexDigit? d
  pure (((a * 16 + b) * 16 + c) * 16 + d)

/-- The character of a simple escape `\c`. -/
def simpleEscape? (c : Char) : Option Char :=
  if c = '"' then some '"'
  else if c = '\\' then some '\\'
  else if c = '/' then some '/'
  else if c = 'b' then some (Char.ofNat 8)
  else if c = 'f' then some (Char.ofNat 12)
  else if c = 'n' then some '\n'
  else if c = 'r' then some '\r'
  else if c = 't' then some '\t'
  else none

/-- Whether a code is a high (leading) surrogate. -/
def isHighSurrogate (n : Nat) : Bool := 0xD800 ≤ n && n ≤ 0xDBFF

/-- Whether a code is a low (trailing) surrogate. -/
def isLowSurrogate (n : Nat) : Bool := 0xDC00 ≤ n && n ≤ 0xDFFF

/-- The code point of a high and a low surrogate. -/
def joinSurrogates (hi lo : Nat) : Nat := 0x10000 + (hi - 0xD800) * 0x400 + (lo - 0xDC00)

/-- The rest of a text after its opening quote; `acc` holds the code points read, reversed. -/
def readText (acc : List Nat) : List Char → Option (Text × List Char)
  | [] => none
  | '"' :: rest => some (⟨acc.reverse⟩, rest)
  | '\\' :: 'u' :: a :: b :: c :: d :: rest =>
    match hex4? a b c d with
    | none => none
    | some n =>
      if isHighSurrogate n then
        match _hr : rest with
        | '\\' :: 'u' :: e :: f :: g :: h :: more =>
          match hex4? e f g h with
          | some lo => if isLowSurrogate lo then readText (joinSurrogates n lo :: acc) more
              else readText (n :: acc) rest
          | none => none
        | _ => readText (n :: acc) rest
      else readText (n :: acc) rest
  | '\\' :: c :: rest =>
    match simpleEscape? c with
    | some e => readText (e.toNat :: acc) rest
    | none => none
  | c :: rest => if c.toNat < 0x20 then none else readText (c.toNat :: acc) rest
termination_by cs => cs.length
decreasing_by all_goals simp_all <;> omega

/-- The value of a run of decimal digits. -/
def digitsValue (ds : List Char) : Nat :=
  ds.foldl (fun n d => n * 10 + (d.toNat - '0'.toNat)) 0

/-- The double nearest to `m * 10^e`; far outside the range of doubles the answer is
known without computing the power. -/
def scaled (m : Nat) (e : Int) : Float :=
  if m = 0 then 0
  else if e > 400 then Float.ofScientific 1 false 400
  else if e + (Nat.toDigits 10 m).length < -400 then 0
  else if e < 0 then Float.ofScientific m true e.natAbs
  else Float.ofScientific m false e.toNat

/-- A number: an optional minus, an integer part without leading zeros, an optional
fraction and an optional exponent. -/
def readNumber (cs : List Char) : Option (Value × List Char) := do
  let (neg, cs) := match cs with
    | '-' :: rest => (true, rest)
    | rest => (false, rest)
  let (whole, cs) ← match cs with
    | '0' :: rest => some (['0'], rest)
    | c :: rest =>
      if '1' ≤ c ∧ c ≤ '9' then some (c :: rest.takeWhile Char.isDigit, rest.dropWhile Char.isDigit)
      else none
    | [] => none
  let (frac, cs) : Option (List Char) × List Char := match cs with
    | '.' :: d :: rest =>
      if d.isDigit then (some (d :: rest.takeWhile Char.isDigit), rest.dropWhile Char.isDigit)
      else (none, cs)
    | _ => (none, cs)
  let expPart : Option (Int × List Char) := match cs with
    | e :: rest =>
      if e = 'e' ∨ e = 'E' then
        let (sign, rest) : Int × List Char := match rest with
          | '+' :: r => (1, r)
          | '-' :: r => (-1, r)
          | r => (1, r)
        match rest with
        | d :: r => if d.isDigit then
            some (sign * (digitsValue (d :: r.takeWhile Char.isDigit) : Int), r.dropWhile Char.isDigit)
          else none
        | [] => none
      else none
    | [] => none
  match frac, expPart with
  | none, none =>
    let n : Int := digitsValue whole
    pure (.int (if neg then -n else n), cs)
  | _, _ =>
    let fracDigits := frac.getD []
    let (e, rest) := expPart.getD (0, cs)
    let x := scaled (digitsValue (whole ++ fracDigits)) (e - fracDigits.length)
    pure (.float (if neg then -x else x), rest)

mutual
/-- One value, after blanks. -/
def readValue : Nat → List Char → Option (Value × List Char)
  | 0, _ => none
  | fuel + 1, cs =>
    match skipBlank cs with
    | '{' :: rest =>
      match skipBlank rest with
      | '}' :: rest => some (.dict [], rest)
      | rest => readEntries fuel [] rest
    | '[' :: rest =>
      match skipBlank rest with
      | ']' :: rest => some (.list [], rest)
      | rest => readItems fuel [] rest
    | '"' :: rest => (readText [] rest).map fun (s, r) => (.str s, r)
    | 'n' :: 'u' :: 'l' :: 'l' :: rest => some (.null, rest)
    | 't' :: 'r' :: 'u' :: 'e' :: rest => some (.bool true, rest)
    | 'f' :: 'a' :: 'l' :: 's' :: 'e' :: rest => some (.bool false, rest)
    | 'N' :: 'a' :: 'N' :: rest => some (.float (0 / 0), rest)
    | 'I' :: 'n' :: 'f' :: 'i' :: 'n' :: 'i' :: 't' :: 'y' :: rest => some (.float (1 / 0), rest)
    | '-' :: 'I' :: 'n' :: 'f' :: 'i' :: 'n' :: 'i' :: 't' :: 'y' :: rest =>
      some (.float (-1 / 0), rest)
    | cs => readNumber cs

/-- The items of a list from the next item on; `acc` holds those read, reversed. -/
def readItems : Nat → List Value → List Char → Option (Value × List Char)
  | 0, _, _ => none
  | fuel + 1, acc, cs =>
    match readValue fuel cs with
    | none => none
    | some (v, rest) =>
      match skipBlank rest with
      | ',' :: rest => readItems fuel (v :: acc) rest
      | ']' :: rest => some (.list (v :: acc).reverse, rest)
      | _ => none

/-- The entries of a mapping from the next key on. -/
def readEntries : Nat → List (Text × Value) → List Char → Option (Value × List Char)
  | 0, _, _ => none
  | fuel + 1, acc, cs =>
    match skipBlank cs with
    | '"' :: rest =>
      match readText [] rest with
      | none => none
      | some (k, rest) =>
        match skipBlank rest with
        | ':' :: rest =>
          match readValue fuel rest with
          | none => none
          | some (v, rest) =>
            match skipBlank rest with
            | ',' :: rest => readEntries fuel (Value.putEntry k v acc) rest
            | '}' :: rest => some (.dict (Value.putEntry k v acc), rest)
            | _ => none
        | _ => none
    | _ => none
end

/-- The value written in `s`, if `s` is one JSON value between blanks. -/
def parse? (s : String) : Option Value :=
  match readValue (2 * s.length + 4) s.toList with
  | some (v, rest) => if skipBlank rest = [] then some v else none
  | none => none

end RoleRules.Json
