import RoleRules.Value.Display
/-!
# Failures

Every refusal of the library is a `Fault` that names its cause. Causes that concern the
shape of a rule are a `RuleError`. `Fault.message` gives the text of each.
-/
namespace RoleRules

/-- The two names that a rule pairs: what is done, and to what kind of thing. -/
inductive NameSlot where
  | action
  | subject
deriving DecidableEq

/-- The word for a name slot in messages. -/
def NameSlot.word : NameSlot → Text
  | .action => Text.ofString "action"
  | .subject => Text.ofString "subject"

/-- The step at which a computation nesting too deep is stopped: entering a function,
comparing two values, or calling an object that is not a plain function. Each names the
place in the interpreter's message. -/
inductive Guard where
  | frame
  | comparison
  | call
deriving DecidableEq

/-- What the interpreter says when a computation nests too deep at a guard. -/
def Guard.message : Guard → Text
  | .frame => Text.ofString "maximum recursion depth exceeded"
  | .comparison => Text.ofString "maximum recursion depth exceeded in comparison"
  | .call => Text.ofString "maximum recursion depth exceeded while calling a Python object"

/-- Why a rule, a rule record or an item of a rule list is refused. -/
inductive RuleError where
  /-- a name that is not a text, or a text of blanks only -/
  | blankName (slot : NameSlot) (got : Value)
  /-- a field scope that is a text or not a list -/
  | fieldsNotList (got : Value)
  /-- a field name that is not a text, or empty -/
  | badFieldName (got : Value)
  /-- conditions that are not a mapping -/
  | conditionsNotMapping (got : Value)
  /-- an inversion flag that is not a truth value -/
  | invertedNotFlag (got : Value)
  /-- a reason that is not a text -/
  | reasonNotText (got : Value)
  /-- a record that is not a mapping -/
  | recordNotMapping (got : Value)
  /-- a record with keys a rule does not have, sorted -/
  | unknownKeys (keys : List Text)
  /-- a record whose action or subject is neither a text nor a list -/
  | namesNotList (slot : NameSlot) (got : Value)
  /-- a record with no action or no subject to pair -/
  | noPairs (record : List (Text × Value))
  /-- an item of a rule list that is neither a rule nor a record -/
  | notRule (item : Value)
  /-- conditions nested deeper than freezing them can recurse (`Draft.freezes`) -/
  | conditionsTooDeep

/-- The text of a rule error. -/
def RuleError.message : RuleError → Text
  | .blankName slot v =>
    Text.ofString "Rule " ++ slot.word ++ Text.ofString " must be a non-empty string, got " ++ v.display
  | .fieldsNotList v => Text.ofString "Rule fields must be a list of names, got " ++ v.display
  | .badFieldName v => Text.ofString "Rule field names must be non-empty strings, got " ++ v.display
  | .conditionsNotMapping v => Text.ofString "Rule conditions must be a mapping, got " ++ v.display
  | .invertedNotFlag v => Text.ofString "Rule inverted flag must be a bool, got " ++ v.display
  | .reasonNotText v => Text.ofString "Rule reason must be a string, got " ++ v.display
  | .recordNotMapping v => Text.ofString ("Rule record must be a mapping, got " ++ v.kindName)
  | .unknownKeys ks => Text.ofString "Unknown rule keys: " ++ Value.displayTexts ks
  | .namesNotList slot v =>
    Text.ofString "Rule " ++ slot.word ++ Text.ofString " must be a string or a list of strings, got " ++
      v.display
  | .noPairs es =>
    Text.ofString "Rule record needs at least one action and subject: " ++ (Value.dict es).display
  | .notRule v => Text.ofString ("Cannot compile " ++ v.kindName ++ " into a rule")
  | .conditionsTooDeep => Guard.comparison.message

/-- Why an operation of the library is refused. -/
inductive Fault where
  /-- a malformed rule, record or rule list -/
  | rule (e : RuleError)
  /-- a rule built from named parts, with a part of a name it does not have -/
  | unexpectedKeyword (name : Text)
  /-- a rule built from named parts, with a part named like the rule being built -/
  | repeatedArgument (name : Text)
  /-- a rule built from named parts, without some of the parts it needs -/
  | missingArguments (names : List String)
  /-- a value walked through that has no elements -/
  | notIterable (got : Value)
  /-- a value used as a key that cannot be one, by the kind of its offending part -/
  | unhashable (kind : String)
  /-- a role name that is empty -/
  | blankRole (got : Value)
  /-- a value without the attribute or method of the given name -/
  | noAttribute (got : Value) (name : String)
  /-- a text or list read at a position past its end -/
  | indexOutOfRange (got : Value)
  /-- a mapping read under a key it does not have -/
  | missingKey (key : Value)
  /-- a value read at a position that has no positions -/
  | notSubscriptable (got : Value)
  /-- named parts of a rule given by a value that is not a mapping -/
  | partsNotMapping (got : Value)
  /-- neither a role nor its fallback has an ability; a `null` fallback was not tried -/
  | unknownRole (role : Value) (fallback : Value)
  /-- two values of kinds that have no order between them were compared -/
  | unordered (left right : String)
  /-- a write that breaks a uniqueness or presence constraint of the store -/
  | integrity
  /-- a store session that must be rolled back before it is used again -/
  | pendingRollback
  /-- a value of a kind that a store column cannot take -/
  | unbindable
  /-- an integer beyond the 64 bits a store column takes -/
  | overflow
  /-- a text with surrogates, which have no UTF-8 form, given to a store column; the
  text, and the first run of surrogates in it, from `start` up to before `stop` -/
  | unencodable (text : Text) (start stop : Nat)
  /-- a computation that nests deeper than the interpreter allows, stopped at a guard -/
  | recursion (guard : Guard)

/-- Names in quotes, joined as a sentence: `'a'`, `'a' and 'b'`, `'a', 'b' and 'c'`. -/
def quotedNames : List String → String
  | [] => ""
  | [a] => "'" ++ a ++ "'"
  | [a, b] => "'" ++ a ++ "' and '" ++ b ++ "'"
  | a :: rest => "'" ++ a ++ "', " ++ quotedNames rest

/-- What an encoder says of the surrogates of `t` from `start` up to before `stop`: the one
code point in hexadecimal, or the span of positions of several. -/
def surrogateSpan (t : Text) (start stop : Nat) : String :=
  if stop = start + 1 then
    "character '\\u" ++ Text.hexPadded 4 (t.points.getD start 0) ++ "' in position " ++ toString start
  else "characters in position " ++ toString start ++ "-" ++ toString (stop - 1)

/-- A refused rule as a fault: conditions too deep to freeze are the interpreter's
recursion fault, stopped while comparing, everything else a rule fault. -/
def Fault.ofRule : RuleError → Fault
  | .conditionsTooDeep => .recursion .comparison
  | e => .rule e

/-- The word for a value that can be read by position, as index messages name it. -/
def positionalWord (v : Value) : String :=
  match v with
  | .str _ => "string"
  | _ => v.kindName

/-- The text of a fault. -/
def Fault.message : Fault → Text
  | .rule e => e.message
  | .unexpectedKeyword k =>
    Text.ofString "Rule.__init__() got an unexpected keyword argument '" ++ k ++ Text.ofString "'"
  | .repeatedArgument k =>
    Text.ofString "Rule.__init__() got multiple values for argument '" ++ k ++ Text.ofString "'"
  | .missingArguments ns => Text.ofString
    ("Rule.__init__() missing " ++ toString ns.length ++ " required positional argument" ++
      (if ns.length = 1 then "" else "s") ++ ": " ++ quotedNames ns)
  | .notIterable v => Text.ofString ("'" ++ v.kindName ++ "' object is not iterable")
  | .unhashable k => Text.ofString ("unhashable type: '" ++ k ++ "'")
  | .blankRole v => Text.ofString "Role name must be a non-empty string, got " ++ v.display
  | .noAttribute v name => Text.ofString ("'" ++ v.kindName ++ "' object has no attribute '" ++ name ++ "'")
  | .indexOutOfRange v => Text.ofString (positionalWord v ++ " index out of range")
  | .missingKey k => k.display
  | .notSubscriptable v => Text.ofString ("'" ++ v.kindName ++ "' object is not subscriptable")
  | .partsNotMapping v => Text.ofString
    ("rolegate.core.auth.rules.Rule() argument after ** must be a mapping, not " ++ v.kindName)
  | .unknownRole role fallback =>
    Text.ofString "No ability registered for roles: " ++
      (Value.list (match fallback with
        | .null => [role]
        | f => [role, f])).display
  | .unordered l r =>
    Text.ofString ("'<' not supported between instances of '" ++ l ++ "' and '" ++ r ++ "'")
  | .integrity => Text.ofString "integrity constraint failed"
  | .pendingRollback => Text.ofString "the session must be rolled back first"
  | .unbindable => Text.ofString "unsupported value for a column"
  | .overflow => Text.ofString "Python int too large to convert to SQLite INTEGER"
  | .recursion g => g.message
  | .unencodable t start stop =>
    Text.ofString ("'utf-8' codec can't encode " ++ surrogateSpan t start stop ++
      ": surrogates not allowed")

end RoleRules
