import RoleRules.Text.Basic
/-!
# Digests of texts

Long texts that are only ever compared, never shown, are kept as a *digest*: their length
and their 64-bit FNV-1a hash over the code points. Two texts with different digests differ;
the converse is assumed, as for any hash.
-/
namespace RoleRules

/-- The length and FNV-1a hash of a text. -/
structure Digest where
  length : Nat
  hash : Nat
deriving DecidableEq, Inhabited

/-- The FNV-1a offset basis of 64 bits. -/
def fnvBasis : Nat := 14695981039346656037

/-- The FNV-1a prime of 64 bits. -/
def fnvPrime : Nat := 1099511628211

/-- One step of FNV-1a: mix in a code point, then multiply, modulo `2^64`. -/
def fnvStep (h p : Nat) : Nat := (h ^^^ p) * fnvPrime % Nat.pow 2 64

/-- The digest of a text. -/
def Text.digest (t : Text) : Digest := ⟨t.points.length, t.points.foldl fnvStep fnvBasis⟩

theorem Text.digest_length (t : Text) : t.digest.length = t.length := rfl

example : (Text.ofString "").digest = ⟨0, fnvBasis⟩ := by decide

end RoleRules
