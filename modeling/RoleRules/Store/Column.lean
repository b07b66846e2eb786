import RoleRules.Fault
import RoleRules.Decimal.Rounded
/-!
# Text columns

Names, descriptions and e-mail addresses are kept in text columns. A value given to the
store is *bound* first, and binding can fail:

* nothing is bound as nothing, and so is a NaN;
* a truth value as the integer `0` or `1`, an integer of 64 bits as itself, a larger one
  not at all (`Fault.overflow`);
* a double as itself;
* a text as itself, unless it holds surrogates, which have no UTF-8 form
  (`Fault.unencodable` names the first run of them);
* lists, mappings and objects not at all (`Fault.unbindable`).

A text column keeps a bound number as its text: an integer in decimal, a double with
fifteen significant digits (`Decimal.significant`). A value compared with a column is
converted the same way first, so the integer `5` finds the name `5` but the double `5.0`
does not.
-/
namespace RoleRules.Store

/-- A value as bound for the store. -/
inductive Bound where
  | null
  | int (n : Int)
  | real (x : Float)
  | text (t : Text)

/-- The first run of surrogates in a text: where it starts and where it stops. -/
def surrogateRun? (t : Text) : Option (Nat × Nat) :=
  match t.points.findIdx? Text.isSurrogate with
  | none => none
  | some i => some (i, i + ((t.points.drop i).takeWhile Text.isSurrogate).length)

/-- The least integer of 64 bits. -/
def int64Min : Int := -(Nat.pow 2 63 : Int)

/-- Bind a value for the store (see the module note). -/
def bind : Value → Except Fault Bound
  | .null => .ok .null
  | .bool b => .ok (.int (if b then 1 else 0))
  | .int n => if int64Min ≤ n ∧ n < -int64Min then .ok (.int n) else .error .overflow
  | .float x => .ok (if x.isNaN then .null else .real x)
  | .str t =>
    match surrogateRun? t with
    | some (a, b) => .error (.unencodable t a b)
    | none => .ok (.text t)
  | _ => .error .unbindable

/-- What a text column keeps of a bound value: nothing, or a text. -/
def Bound.columnText : Bound → Option Text
  | .null => none
  | .int n => some (Text.ofString (toString n))
  | .real x => some (Text.ofString (Decimal.significant 15 x))
  | .text t => some t

/-- What a text column keeps of a value, if the value can be bound. -/
def columnText (v : Value) : Except Fault (Option Text) :=
  (bind v).map Bound.columnText

/-- A text checked for the store: refused when it holds surrogates. -/
def checkText (t : Text) : Except Fault Unit :=
  match surrogateRun? t with
  | some (a, b) => .error (.unencodable t a b)
  | none => .ok ()

example : surrogateRun? ⟨[0x61, 0xd800, 0xdc00, 0x62, 0xdfff]⟩ = some (1, 3) := by decide

end RoleRules.Store
