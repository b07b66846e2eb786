import RoleRules.Rule.Check
import RoleRules.Rule.Match
/-!
# Rule indexes

An index holds rules in declaration order; that order decides precedence, later rules
overriding earlier ones. It files the position of every rule under the rule's exact
(action, subject) pair, so that the rules concerning a request are those filed under four
pairs: the request's own, and the three that put `manage`, `all` or both in its place,
merged back into declaration order (`RuleIndex.matching`).

A rule list is compiled from *items*: rules already built, and records still to check,
each of which expands into one rule per (action, subject) pair.
-/
namespace RoleRules

/-- An item of a rule list: a rule already built, or a record still to check. -/
inductive RuleItem where
  | rule (r : Rule)
  | record (v : Value)

/-- Where a rule list comes from: given items, or a loose value whose elements are
records (a text gives its characters, a mapping its keys). -/
inductive RuleSource where
  | items (xs : List RuleItem)
  | loose (v : Value)

/-- The items of a rule list. -/
def RuleSource.toItems : RuleSource → Except Fault (List RuleItem)
  | .items xs => .ok xs
  | .loose v =>
    match v.elements? with
    | some xs => .ok (xs.map .record)
    | none => .error (.notIterable v)

/-- The rules of one item, for a compiler `depth` steps deep: itself, or the expansion of a
record. -/
def RuleItem.rules (depth : Nat) : RuleItem → Except Fault (List Rule)
  | .rule r => .ok [r]
  | .record (.dict es) => (Rule.expand depth (.dict es)).mapError Fault.ofRule
  | .record v => .error (.rule (.notRule v))

/-- The rules of items, in order: the expansions one after the other. -/
def compileItems (depth : Nat) : List RuleItem → Except Fault (List Rule)
  | [] => .ok []
  | x :: rest => do
    let rs ← x.rules depth
    let more ← compileItems depth rest
    pure (rs ++ more)

/-- An (action, subject) pair under which rules are filed. -/
abbrev Pair := Text × Text

/-- File position `p` under `key`: appended to the key's bucket, or a new bucket last. -/
def fileUnder (key : Pair) (p : Nat) : List (Pair × List Nat) → List (Pair × List Nat)
  | [] => [(key, [p])]
  | (k, ps) :: rest => if k = key then (k, ps ++ [p]) :: rest else (k, ps) :: fileUnder key p rest

/-- The buckets of a rule list: every rule's position under its exact pair, pairs in the
order they first occur. -/
def bucketsOf (rules : List Rule) : List (Pair × List Nat) :=
  (rules.zipIdx.foldl (fun bs rp => fileUnder (rp.1.action, rp.1.subject) rp.2 bs) [])

/-- Compiled rules in declaration order. -/
structure RuleIndex where
  rules : List Rule

namespace RuleIndex

/-- The index of rules given in order. -/
def ofRules (rules : List Rule) : RuleIndex := { rules }

/-- The positions of the rules filed by exact pair. -/
def buckets (ix : RuleIndex) : List (Pair × List Nat) := bucketsOf ix.rules

/-- Compile a rule list for a caller `depth` steps deep: every item in order, a record
expanded two steps deeper (the compiler, then the list method that takes in the rules of
an expansion, which is a guarded call of its own). -/
def compile (depth : Nat) (src : RuleSource) : Except Fault RuleIndex := do
  let items ← src.toItems
  let rules ← compileItems (depth + 2) items
  pure (ofRules rules)

/-- The number of rules. -/
def size (ix : RuleIndex) : Nat := ix.rules.length

/-- The positions filed under a pair. -/
def filedUnder (bs : List (Pair × List Nat)) (key : Pair) : List Nat :=
  (bs.lookup key).getD []

/-- The positions filed under a requested pair; names that are not texts file nothing. -/
def bucket (ix : RuleIndex) (action subject : Value) : List Nat :=
  match action, subject with
  | .str a, .str s => filedUnder ix.buckets (a, s)
  | _, _ => []

/-- The positions of the rules concerning `action` on `subject`, in declaration order: those
filed under the request's pair or its three wildcard forms. -/
def positions (ix : RuleIndex) (action subject : Value) : List Nat :=
  let m := Value.str manageAction
  let a := Value.str allSubjects
  let filed := ix.bucket action subject ++ ix.bucket m subject ++ ix.bucket action a ++ ix.bucket m a
  (List.range ix.size).filter (· ∈ filed)

/-- The rules concerning a request, by position. A request is a key of the lookup, so names
that cannot be keys (lists, mappings) are refused, the action's first. -/
def matching (ix : RuleIndex) (action subject : Value) : Except Fault (List Nat) :=
  match action.unhashableKind?, subject.unhashableKind? with
  | some k, _ => .error (.unhashable k)
  | none, some k => .error (.unhashable k)
  | none, none => .ok (ix.positions action subject)

/-- The rule at a position. -/
def rule? (ix : RuleIndex) (p : Nat) : Option Rule := ix.rules[p]?

/-- The distinct actions of the rules, in first-occurrence order. -/
def actions (ix : RuleIndex) : List Text :=
  (ix.buckets.map fun b => b.1.1).eraseDups

/-- The distinct subjects of the rules, in first-occurrence order. -/
def subjects (ix : RuleIndex) : List Text :=
  (ix.buckets.map fun b => b.1.2).eraseDups

end RuleIndex

end RoleRules
