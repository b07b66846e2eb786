import RoleRules.Value.Hash
import Mathlib
/-!
# NumberMagnitude — numbers compared and hashed by what they stand for

Conditions and rule equality compare numbers by magnitude (`Value.Number.eq`), and a number hashes to a residue modulo
`2^61 - 1` (`Value.Number.residue`). Both read a double through its bits, in two ways: `intEqFloat` and the residue
decode the sign, exponent and fraction fields themselves (`Decimal.Binary.ofBits`), while two doubles are compared by
Lean's model of doubles (`Float.Model`), which unpacks the same bits into an `UnpackedFloat`.

`Double.decode` unpacks bits in arithmetic on naturals; it is the model's unpacking (`Double.unpack_eq_decode`) and
its fields are those `Decimal.Binary.ofBits` reads (`Double.ofBits_m`, `Double.ofBits_q`). What it gives is
canonical (`Double.Canonical`: a normal mantissa has 53 bits, a subnormal one fewer and the least exponent), so the
value `±m * 2^e` of a finite double determines its sign, `m` and `e` (`Double.signed_inj`). A number stands for a
`Magnitude`: a rational, an infinity of a sign, or the NaN.

Main statements:
* `Value.Number.eq_iff_magnitude`: two numbers are equal as data exactly when they stand for the same magnitude, so
  that `Number.eq` is an equivalence: `true`, `1` and `1.0` are one value, and so are `2^53` and
  `9007199254740992.0`, while `10^30` and `1e30` are not;
* `Value.Number.residue_eq_of_eq`: equal numbers have one residue, hence one hash.
-/
namespace RoleRules

open Float.Model

/-- What a number stands for: the NaN, an infinity of a sign, or a rational. -/
inductive Magnitude where
  | nan
  | infinite (negative : Bool)
  | finite (q : ℚ)
deriving DecidableEq

namespace Double

/-! ## The fields of a double's bits -/

/-- The biased exponent field of the bits of a double. -/
def exponentField (n : Nat) : Nat := n / 2 ^ 52 % 2 ^ 11

/-- The fraction field of the bits of a double. -/
def fractionField (n : Nat) : Nat := n % 2 ^ 52

/-- The sign held by the top bit. -/
def signOf (n : Nat) : UnpackedFloat.Sign := if n < 2 ^ 63 then .positive else .negative

/-- The mantissa of a finite double, with its implicit bit when it is normal. -/
def mantissaOf (n : Nat) : Nat := if exponentField n = 0 then fractionField n else 2 ^ 52 + fractionField n

/-- The exponent of the last bit of a finite double's mantissa. -/
def exponentOf (n : Nat) : Int := if exponentField n = 0 then -1074 else (exponentField n : Int) - 1075

/-- The bits of a double unpacked, in arithmetic on naturals. -/
def decode (n : Nat) : UnpackedFloat :=
  if exponentField n = 2047 then (if fractionField n = 0 then .infinity (signOf n) else .notANumber)
  else if h : mantissaOf n = 0 then .zero (signOf n)
  else .finite (signOf n) (mantissaOf n) (exponentOf n) (Nat.pos_of_ne_zero h)

/-- **Unpacking in Lean's model of doubles is `decode`.** -/
theorem unpack_eq_decode (b : BitVec 64) : UnpackedFloat.unpack .binary64 b = decode b.toNat := by
  have hE : (@UnpackedFloat.unpackExponent .binary64 b).toNat = exponentField b.toNat := by
    simp [UnpackedFloat.unpackExponent, exponentField, BitVec.extractLsb, BitVec.extractLsb',
      Nat.shiftRight_eq_div_pow]
  have hF : (@UnpackedFloat.unpackMantissa .binary64 b).toNat = fractionField b.toNat := by
    simp [UnpackedFloat.unpackMantissa, fractionField, BitVec.extractLsb, BitVec.extractLsb',
      Nat.shiftRight_eq_div_pow]
  have hS : UnpackedFloat.Sign.ofBitVec (@UnpackedFloat.unpackSign .binary64 b) = signOf b.toNat := by
    have hb := b.isLt
    have key : BitVec.ofNat 1 (b.toNat / 2 ^ 63) = 0#1 ↔ b.toNat < 2 ^ 63 := by
      rw [← BitVec.toNat_inj, BitVec.toNat_ofNat, BitVec.toNat_zero]
      omega
    simp only [UnpackedFloat.unpackSign, UnpackedFloat.Sign.ofBitVec, BitVec.extractLsb, BitVec.extractLsb',
      BitVec.cast_ofNat, Nat.shiftRight_eq_div_pow, signOf]
    simp only [key]
  have h1 : @UnpackedFloat.unpackExponent .binary64 b = -1#11 ↔ exponentField b.toNat = 2047 := by
    rw [← BitVec.toNat_inj, hE]; simp
  have h2 : @UnpackedFloat.unpackExponent .binary64 b = 0#11 ↔ exponentField b.toNat = 0 := by
    rw [← BitVec.toNat_inj, hE]; simp
  have h3 : @UnpackedFloat.unpackMantissa .binary64 b = 0#52 ↔ fractionField b.toNat = 0 := by
    rw [← BitVec.toNat_inj, hF]; simp
  -- a normal mantissa is the fraction under its implicit bit
  have hm : (1#1 ++ @UnpackedFloat.unpackMantissa .binary64 b).toNat = 2 ^ 52 + fractionField b.toNat := by
    have hlt : fractionField b.toNat < 2 ^ 52 := Nat.mod_lt _ (by positivity)
    rw [BitVec.toNat_append, hF, Nat.shiftLeft_eq]
    simpa using (Nat.two_pow_add_eq_or_of_lt hlt 1).symm
  have hbias : Format.binary64.exponentBias = 1023 := by decide
  simp only [UnpackedFloat.unpack, decode, mantissaOf, exponentOf, h1, h2, h3, hS, hm, hE, hF, hbias]
  split_ifs <;> first | rfl | omega | (congr 1; omega)

theorem decode_cases (n : Nat) :
    (exponentField n = 2047 ∧ fractionField n = 0 ∧ decode n = .infinity (signOf n)) ∨
    (exponentField n = 2047 ∧ fractionField n ≠ 0 ∧ decode n = .notANumber) ∨
    (exponentField n ≠ 2047 ∧ mantissaOf n = 0 ∧ decode n = .zero (signOf n)) ∨
    (exponentField n ≠ 2047 ∧ ∃ h, decode n = .finite (signOf n) (mantissaOf n) (exponentOf n) h) := by
  unfold decode
  split_ifs with h1 h2 h3 <;> simp_all [Nat.pos_of_ne_zero]

/-! ## Canonical forms and the values they stand for -/

/-- A finite unpacked double in the form unpacking gives: a mantissa of at most 53 bits, of 53 bits exactly unless the
exponent is the least one. -/
def Canonical : UnpackedFloat → Prop
  | .finite _ m e _ => m < 2 ^ 53 ∧ -1074 ≤ e ∧ (m < 2 ^ 52 → e = -1074)
  | _ => True

theorem canonical_decode (n : Nat) : Canonical (decode n) := by
  unfold decode
  split_ifs with h1 h2 h3
  · trivial
  · trivial
  · trivial
  · simp only [Canonical, mantissaOf, exponentOf, fractionField]
    split_ifs <;> omega

/-- Two canonical mantissas at two exponents give one value only when they are the same. -/
theorem mantissa_inj {m m' : Nat} {e e' : Int} (hc : m < 2 ^ 53 ∧ -1074 ≤ e ∧ (m < 2 ^ 52 → e = -1074))
    (hc' : m' < 2 ^ 53 ∧ -1074 ≤ e' ∧ (m' < 2 ^ 52 → e' = -1074)) (hpos : 0 < m) (hpos' : 0 < m')
    (h : (m : ℚ) * 2 ^ e = m' * 2 ^ e') : m = m' ∧ e = e' := by
  wlog hle : e ≤ e' generalizing m m' e e'
  · have := this hc' hc hpos' hpos h.symm (by omega)
    exact ⟨this.1.symm, this.2.symm⟩
  obtain ⟨k, hk⟩ : ∃ k : Nat, e' = e + k := ⟨(e' - e).toNat, by omega⟩
  have hmk : m = m' * 2 ^ k := by
    rw [hk, zpow_add₀ (by norm_num), zpow_natCast] at h
    have h2 : (2 : ℚ) ^ e ≠ 0 := by positivity
    have : (m : ℚ) = m' * 2 ^ k := by
      field_simp at h
      linarith
    exact_mod_cast this
  -- a higher exponent would double the other mantissa past 53 bits, or go below the least exponent
  cases k with
  | zero => simp_all
  | succ k =>
    have h1 : 1 ≤ 2 ^ k := Nat.one_le_two_pow
    have : m' * 2 ≤ m := by rw [hmk, pow_succ]; nlinarith
    omega

theorem signed_ne_zero (s : UnpackedFloat.Sign) {m : Nat} (hm : 0 < m) (e : Int) :
    ((s.apply m : Int) : ℚ) * 2 ^ e ≠ 0 := by
  have hp : (0 : ℚ) < m * 2 ^ e := by positivity
  cases s
  · simpa [UnpackedFloat.Sign.apply] using hp.ne'
  · simpa [UnpackedFloat.Sign.apply] using hp.ne'

theorem signed_inj {s s' : UnpackedFloat.Sign} {m m' : Nat} {e e' : Int}
    (hc : m < 2 ^ 53 ∧ -1074 ≤ e ∧ (m < 2 ^ 52 → e = -1074))
    (hc' : m' < 2 ^ 53 ∧ -1074 ≤ e' ∧ (m' < 2 ^ 52 → e' = -1074)) (hpos : 0 < m) (hpos' : 0 < m') :
    ((s.apply m : Int) : ℚ) * 2 ^ e = ((s'.apply m' : Int) : ℚ) * 2 ^ e' ↔ s = s' ∧ m = m' ∧ e = e' := by
  have hp : (0 : ℚ) < m * 2 ^ e := by positivity
  have hp' : (0 : ℚ) < m' * 2 ^ e' := by positivity
  constructor
  · intro h
    cases s <;> cases s' <;> simp only [UnpackedFloat.Sign.apply, Int.cast_neg, Int.cast_natCast, neg_mul,
      neg_inj] at h
    · exact ⟨rfl, mantissa_inj hc hc' hpos hpos' h⟩
    · linarith
    · linarith
    · exact ⟨rfl, mantissa_inj hc hc' hpos hpos' h⟩
  · rintro ⟨rfl, rfl, rfl⟩
    rfl

/-- What an unpacked double stands for; both zeros stand for `0`. -/
def magnitude : UnpackedFloat → Magnitude
  | .notANumber => .nan
  | .infinity s => .infinite (s == .negative)
  | .zero _ => .finite 0
  | .finite s m e _ => .finite (s.apply m * 2 ^ e)

theorem isNaN_iff {u : UnpackedFloat} : u.isNaN = true ↔ u = .notANumber := by
  cases u <;> simp [UnpackedFloat.isNaN]

theorem magnitude_eq_nan {u : UnpackedFloat} : magnitude u = .nan ↔ u = .notANumber := by
  cases u <;> simp [magnitude]

theorem compare_eq_some_eq (a b : UnpackedFloat) : a.compare b = some .eq ↔
    (∃ s, a = .infinity s ∧ b = .infinity s) ∨ (∃ s s', a = .zero s ∧ b = .zero s') ∨
    (∃ s m e h h', a = .finite s m e h ∧ b = .finite s m e h') := by
  cases a with
  | infinity s => cases b with
    | infinity s' => cases s <;> cases s' <;> simp [UnpackedFloat.compare, compare]
    | _ => cases s <;> simp [UnpackedFloat.compare]
  | notANumber => simp [UnpackedFloat.compare]
  | zero s => cases b with
    | infinity s' => cases s' <;> simp [UnpackedFloat.compare]
    | finite s' => cases s' <;> simp [UnpackedFloat.compare]
    | _ => simp [UnpackedFloat.compare]
  | finite s m e h => cases b with
    | infinity s' => cases s' <;> simp [UnpackedFloat.compare]
    | finite s' m' e' h' => cases s <;> cases s' <;> simp [UnpackedFloat.compare] <;> omega
    | _ => cases s <;> simp [UnpackedFloat.compare]

/-- **Canonical unpacked doubles compare equal exactly when they stand for one value**, the NaN equal to nothing. -/
theorem compare_eq_iff_magnitude {a b : UnpackedFloat} (ha : Canonical a) (hb : Canonical b) :
    a.compare b = some .eq ↔ a.isNaN = false ∧ magnitude a = magnitude b := by
  rw [compare_eq_some_eq]
  cases a with
  | notANumber => simp [UnpackedFloat.isNaN]
  | infinity s => cases b with
    | infinity s' => cases s <;> cases s' <;> simp [UnpackedFloat.isNaN, magnitude]
    | _ => simp [UnpackedFloat.isNaN, magnitude]
  | zero s => cases b with
    | finite s' m' e' h' => simpa [UnpackedFloat.isNaN, magnitude] using (signed_ne_zero s' h' e').symm
    | _ => simp [UnpackedFloat.isNaN, magnitude]
  | finite s m e h => cases b with
    | finite s' m' e' h' =>
      simp only [UnpackedFloat.isNaN, magnitude, Magnitude.finite.injEq, signed_inj ha hb h h']
      constructor
      · rintro (⟨_, ⟨⟩, -⟩ | ⟨_, _, ⟨⟩, -⟩ | ⟨_, _, _, _, _, ⟨⟩, ⟨⟩⟩)
        exact ⟨trivial, rfl, rfl, rfl⟩
      · rintro ⟨-, rfl, rfl, rfl⟩
        exact .inr (.inr ⟨s, m, e, h, h, rfl, rfl⟩)
    | zero s' => simpa [UnpackedFloat.isNaN, magnitude] using signed_ne_zero s h e
    | _ => simp [UnpackedFloat.isNaN, magnitude]

/-! ## Whole numbers among doubles -/

theorem mul_two_pow_eq_iff (k : Int) (m j : Nat) :
    (k : ℚ) * 2 ^ j = m ↔ m % 2 ^ j = 0 ∧ k = ((m / 2 ^ j : Nat) : Int) := by
  have hp : 0 < 2 ^ j := by positivity
  constructor
  · intro h
    have hz : k * 2 ^ j = m := by exact_mod_cast h
    have hk : 0 ≤ k := by
      by_contra hneg
      have : k * 2 ^ j < 0 := Int.mul_neg_of_neg_of_pos (by omega) (by positivity)
      omega
    lift k to Nat using hk
    have ht : k * 2 ^ j = m := by exact_mod_cast hz
    subst ht
    simp [Nat.mul_div_cancel _ hp]
  · rintro ⟨hm, rfl⟩
    have hd : (m / 2 ^ j : Nat) * 2 ^ j = m := Nat.div_mul_cancel (Nat.dvd_of_mod_eq_zero hm)
    exact_mod_cast hd

theorem scaled_int_iff (k : Int) (m : Nat) (j : Nat) (neg : Bool) :
    (k : ℚ) * 2 ^ j = (if neg then -(m : ℚ) else m) ↔
      m % 2 ^ j = 0 ∧ k = (if neg then -((m / 2 ^ j : Nat) : Int) else ((m / 2 ^ j : Nat) : Int)) := by
  cases neg with
  | false => simpa using mul_two_pow_eq_iff k m j
  | true =>
    have h := mul_two_pow_eq_iff (-k) m j
    rw [Int.cast_neg, neg_mul] at h
    simp only [if_true]
    constructor
    · intro h1
      obtain ⟨hm, hk⟩ := h.1 (by linarith)
      exact ⟨hm, by omega⟩
    · rintro ⟨hm, hk⟩
      have := h.2 ⟨hm, by omega⟩
      linarith

theorem apply_cast (s : UnpackedFloat.Sign) (m : Nat) :
    ((s.apply m : Int) : ℚ) = if s == .negative then -(m : ℚ) else m := by
  cases s <;> rfl

/-- The test `intEqFloat` makes of a finite double, `±m * 2^e`: it is a whole number, and that number. -/
theorem whole_test_eq (k : Int) (m : Nat) (e : Int) (neg : Bool) :
    ((!decide (e < 0) || m % Nat.pow 2 (-e).toNat == 0) &&
        k == if neg = true then
            -↑(if e < 0 then (if (m % Nat.pow 2 (-e).toNat == 0) = true then m / Nat.pow 2 (-e).toNat else 0)
              else m * Nat.pow 2 e.toNat)
          else
            ↑(if e < 0 then (if (m % Nat.pow 2 (-e).toNat == 0) = true then m / Nat.pow 2 (-e).toNat else 0)
              else m * Nat.pow 2 e.toNat)) =
      decide ((k : ℚ) = (if neg then -(m : ℚ) else m) * 2 ^ e) := by
  rw [Bool.eq_iff_iff, decide_eq_true_iff]
  by_cases he : e < 0
  · obtain ⟨j, rfl⟩ : ∃ j : Nat, e = -j := ⟨(-e).toNat, by omega⟩
    have hq : (k : ℚ) = (if neg then -(m : ℚ) else m) * 2 ^ (-(j : Int)) ↔
        (k : ℚ) * 2 ^ j = if neg then -(m : ℚ) else m := by
      rw [zpow_neg, zpow_natCast]
      constructor <;> intro h
      · rw [h]; field_simp
      · rw [← h]; field_simp
    rw [hq, scaled_int_iff]
    have hj0 : 0 < j := by omega
    cases neg <;> simp +contextual [Nat.pow_eq, hj0]
  · obtain ⟨j, rfl⟩ : ∃ j : Nat, e = j := ⟨e.toNat, by omega⟩
    cases neg <;> simp [Nat.pow_eq, he] <;> norm_cast

/-! ## Doubles -/

section Float

variable (x : Float)

theorem toModel_unpack : x.toModel.unpack = decode x.toBits.toNat :=
  unpack_eq_decode _

theorem isNaN_eq : x.isNaN = (decode x.toBits.toNat).isNaN := by
  rw [← toModel_unpack]; rfl

theorem isInf_eq : x.isInf = (decode x.toBits.toNat).isInf := by
  rw [← toModel_unpack]; rfl

theorem canonical_unpack : Canonical x.toModel.unpack := by
  rw [toModel_unpack]
  exact canonical_decode _

theorem ofBits_fields (b : UInt64) : ((b >>> 52) &&& 0x7FF).toNat = exponentField b.toNat ∧
    (b &&& 0xFFFFFFFFFFFFF).toNat = fractionField b.toNat := by
  constructor
  · simpa [exponentField, UInt64.toNat_shiftRight, Nat.shiftRight_eq_div_pow] using
      Nat.and_two_pow_sub_one_eq_mod (b.toNat / 4503599627370496) 11
  · simpa [fractionField] using Nat.and_two_pow_sub_one_eq_mod b.toNat 52

theorem ofBits_m (b : UInt64) : (Decimal.Binary.ofBits b).m = mantissaOf b.toNat := by
  simp only [Decimal.Binary.ofBits, (ofBits_fields b).1, (ofBits_fields b).2, mantissaOf]
  by_cases h : exponentField b.toNat = 0 <;> simp [h]

theorem ofBits_q (b : UInt64) : (Decimal.Binary.ofBits b).q = exponentOf b.toNat := by
  simp only [Decimal.Binary.ofBits, (ofBits_fields b).1, (ofBits_fields b).2, exponentOf]
  by_cases h : exponentField b.toNat = 0 <;> simp [h]

theorem signBit_eq (b : UInt64) : (b >>> 63 == 1) = (signOf b.toNat == .negative) := by
  have hb := b.toNat_lt
  have : (b >>> 63 == 1) = decide (2 ^ 63 ≤ b.toNat) := by
    rw [Bool.eq_iff_iff, beq_iff_eq, decide_eq_true_iff, ← UInt64.toNat_inj]
    simp [UInt64.toNat_shiftRight, Nat.shiftRight_eq_div_pow]
    omega
  rw [this, signOf]
  split_ifs with h
  · have : ¬ 2 ^ 63 ≤ b.toNat := by omega
    simp only [this, decide_false]; rfl
  · have : 2 ^ 63 ≤ b.toNat := by omega
    simp only [this, decide_true]; rfl

/-- An integer equals a double exactly when the double stands for it. -/
theorem intEqFloat_eq (k : Int) :
    Value.intEqFloat k x = decide (Magnitude.finite k = magnitude x.toModel.unpack) := by
  unfold Value.intEqFloat
  simp only [isNaN_eq, isInf_eq, ofBits_m, ofBits_q, signBit_eq, toModel_unpack]
  rcases decode_cases x.toBits.toNat with ⟨he, hf, hd⟩ | ⟨he, hf, hd⟩ | ⟨he, hm, hd⟩ | ⟨he, hp, hd⟩
  · simp [hd, UnpackedFloat.isNaN, UnpackedFloat.isInf, magnitude]
  · simp [hd, UnpackedFloat.isNaN, UnpackedFloat.isInf, magnitude]
  · simp [hd, hm, UnpackedFloat.isNaN, UnpackedFloat.isInf, magnitude]
    rw [Bool.eq_iff_iff, beq_iff_eq, decide_eq_true_iff]
  · simp only [hd, UnpackedFloat.isNaN, UnpackedFloat.isInf, magnitude, Bool.or_false, Bool.false_eq_true,
      if_false, whole_test_eq, Magnitude.finite.injEq, apply_cast]

/-- Two doubles are equal as data, the NaN equal to the NaN, exactly when they stand for one value. -/
theorem eqv_iff_magnitude (y : Float) :
    (x == y || x.isNaN && y.isNaN) = true ↔ magnitude x.toModel.unpack = magnitude y.toModel.unpack := by
  have hbeq : (x == y) = true ↔ x.toModel.unpack.compare y.toModel.unpack = some .eq := by
    show (x.toModel.unpack.compare y.toModel.unpack == some .eq) = true ↔ _
    exact beq_iff_eq
  have hx : x.isNaN = x.toModel.unpack.isNaN := rfl
  have hy : y.isNaN = y.toModel.unpack.isNaN := rfl
  rw [Bool.or_eq_true, hbeq, compare_eq_iff_magnitude (canonical_unpack x) (canonical_unpack y), hx, hy]
  cases hn : x.toModel.unpack.isNaN
  · simp
  · have hv : Magnitude.nan = magnitude y.toModel.unpack ↔ y.toModel.unpack.isNaN = true :=
      eq_comm.trans (magnitude_eq_nan.trans isNaN_iff.symm)
    rw [magnitude_eq_nan.2 (isNaN_iff.1 hn), hv]
    simp

end Float

/-! ## Residues -/

/-- The hash residue of an unpacked double, `none` for the NaN (as `Value.Number.residue` computes it). -/
def residue : UnpackedFloat → Option Int
  | .notANumber => none
  | .infinity s => some (if s == .negative then -314159 else 314159)
  | .zero _ => some 0
  | .finite s m e _ => some (signedResidue (s == .negative) (m % hashModulus * 2 ^ (e % 61).toNat % hashModulus))

theorem signedResidue_zero (b : Bool) : signedResidue b 0 = 0 := by
  cases b <;> rfl

theorem residue_binary (x : Float) : (Value.Number.binary x).residue = residue x.toModel.unpack := by
  unfold Value.Number.residue
  simp only [isNaN_eq, isInf_eq, ofBits_m, ofBits_q, signBit_eq, toModel_unpack]
  rcases decode_cases x.toBits.toNat with ⟨he, hf, hd⟩ | ⟨he, hf, hd⟩ | ⟨he, hm, hd⟩ | ⟨he, hp, hd⟩ <;>
    simp [UnpackedFloat.isNaN, UnpackedFloat.isInf, residue, Nat.pow_eq, signedResidue_zero, *]

theorem two_pow_mod_hashModulus (a b : Nat) : 2 ^ (61 * a + b) % hashModulus = 2 ^ b % hashModulus := by
  have h61 : 2 ^ 61 % hashModulus = 1 := by decide
  rw [Nat.pow_add, Nat.pow_mul, Nat.mul_mod, Nat.pow_mod, h61, Nat.one_pow, Nat.one_mod_eq_one.2 (by decide),
    Nat.one_mul, Nat.mod_mod]

/-- Scaling by a power of two, read modulo the prime `2^61 - 1`: `2^61` is `1` there, so a negative power of two is
the inverse of the positive one. -/
theorem natAbs_mod_hashModulus {k : Int} {m : Nat} {e : Int} (h : (k.natAbs : ℚ) = m * 2 ^ e) :
    k.natAbs % hashModulus = m % hashModulus * 2 ^ (e % 61).toNat % hashModulus := by
  rw [Nat.mod_mul_mod]
  rcases le_or_gt 0 e with he | he
  · obtain ⟨j, rfl⟩ : ∃ j : Nat, e = j := ⟨e.toNat, by omega⟩
    have ha : k.natAbs = m * 2 ^ j := by
      rw [zpow_natCast] at h
      exact_mod_cast h
    have hr : ((j : Int) % 61).toNat = j % 61 := by omega
    have hj : 2 ^ j % hashModulus = 2 ^ (j % 61) % hashModulus := by
      conv_lhs => rw [← Nat.div_add_mod j 61]
      exact two_pow_mod_hashModulus _ _
    rw [ha, hr, Nat.mul_mod, hj, ← Nat.mul_mod]
  · obtain ⟨j, rfl⟩ : ∃ j : Nat, e = -j := ⟨(-e).toNat, by omega⟩
    have ha : k.natAbs * 2 ^ j = m := by
      rw [zpow_neg, zpow_natCast] at h
      have h2 : (2 : ℚ) ^ j ≠ 0 := by positivity
      have : (k.natAbs : ℚ) * 2 ^ j = m := by rw [h]; field_simp
      exact_mod_cast this
    -- the shift `e % 61` brings the exponent up to a multiple of 61
    obtain ⟨t, ht⟩ : ∃ t, j + ((-(j : Int)) % 61).toNat = 61 * t := ⟨(-((-(j : Int)) / 61)).toNat, by omega⟩
    rw [← ha, Nat.mul_assoc, ← Nat.pow_add, ht, Nat.mul_mod, ← Nat.add_zero (61 * t), two_pow_mod_hashModulus]
    simp [hashModulus]

theorem residue_finite {k : Int} {s : UnpackedFloat.Sign} {m : Nat} {e : Int} (hm : 0 < m)
    (h : (k : ℚ) = ((s.apply m : Int) : ℚ) * 2 ^ e) :
    signedResidue (decide (k < 0)) (k.natAbs % hashModulus) =
      signedResidue (s == .negative) (m % hashModulus * 2 ^ (e % 61).toNat % hashModulus) := by
  have hp : (0 : ℚ) < m * 2 ^ e := by positivity
  cases s with
  | negative =>
    have hk : k < 0 := by
      have : (k : ℚ) < 0 := by rw [h]; simp [UnpackedFloat.Sign.apply]; linarith
      exact_mod_cast this
    have habs : (k.natAbs : ℚ) = m * 2 ^ e := by
      rw [Nat.cast_natAbs, abs_of_neg hk, Int.cast_neg, h]
      simp [UnpackedFloat.Sign.apply]
    rw [natAbs_mod_hashModulus habs, decide_eq_true hk]
    rfl
  | positive =>
    have hk : 0 < k := by
      have : (0 : ℚ) < k := by rw [h]; simpa [UnpackedFloat.Sign.apply] using hp
      exact_mod_cast this
    have habs : (k.natAbs : ℚ) = m * 2 ^ e := by
      rw [Nat.cast_natAbs, abs_of_pos hk, h]
      simp [UnpackedFloat.Sign.apply]
    rw [natAbs_mod_hashModulus habs, decide_eq_false (by omega)]
    rfl

end Double

namespace Value.Number

/-- What a number stands for: an integer itself, a double what Lean's model of doubles unpacks it to. -/
def magnitude : Value.Number → Magnitude
  | .exact n => .finite n
  | .binary x => Double.magnitude x.toModel.unpack

/-- **Numbers are equal as data exactly when they stand for the same value**: truth values as `0` and `1`, integers
as themselves, doubles as the rationals they are, the infinities and the NaN apart. -/
theorem eq_iff_magnitude (p q : Value.Number) : p.eq q = true ↔ p.magnitude = q.magnitude := by
  cases p with
  | exact a => cases q with
    | exact b => simp [eq, magnitude]
    | binary y => simp [eq, magnitude, Double.intEqFloat_eq]
  | binary x => cases q with
    | exact b => simp [eq, magnitude, Double.intEqFloat_eq, eq_comm]
    | binary y => exact Double.eqv_iff_magnitude x y

theorem residue_binary_eq {x y : Float}
    (h : Double.magnitude x.toModel.unpack = Double.magnitude y.toModel.unpack) :
    (binary x).residue = (binary y).residue := by
  rw [Double.residue_binary, Double.residue_binary]
  cases hn : x.toModel.unpack.isNaN
  · -- doubles of one value compare equal, so they are one unpacked double up to the sign of a zero
    have hc := (Double.compare_eq_iff_magnitude (Double.canonical_unpack x) (Double.canonical_unpack y)).2 ⟨hn, h⟩
    rcases (Double.compare_eq_some_eq _ _).1 hc with ⟨s, hx, hy⟩ | ⟨s, s', hx, hy⟩ | ⟨s, m, e, hm, hm', hx, hy⟩ <;>
      simp [hx, hy, Double.residue]
  · have hx := Double.isNaN_iff.1 hn
    rw [hx, Double.magnitude, eq_comm, Double.magnitude_eq_nan] at h
    rw [hx, h]

theorem residue_exact_eq {k : Int} {x : Float} (h : Magnitude.finite k = Double.magnitude x.toModel.unpack) :
    (exact k).residue = (binary x).residue := by
  rw [Double.residue_binary]
  cases hu : x.toModel.unpack with
  | notANumber => simp [hu, Double.magnitude] at h
  | infinity s => simp [hu, Double.magnitude] at h
  | zero s =>
    simp only [hu, Double.magnitude, Magnitude.finite.injEq, Int.cast_eq_zero] at h
    subst h
    rfl
  | finite s m e hm =>
    simp only [hu, Double.magnitude, Magnitude.finite.injEq] at h
    exact congrArg some (Double.residue_finite hm h)

/-- **Equal numbers have one hash residue**, so one hash. -/
theorem residue_eq_of_eq {p q : Value.Number} (h : p.eq q = true) : p.residue = q.residue := by
  rw [eq_iff_magnitude] at h
  cases p with
  | exact a => cases q with
    | exact b =>
      simp only [magnitude, Magnitude.finite.injEq, Int.cast_inj] at h
      rw [h]
    | binary y => exact residue_exact_eq h
  | binary x => cases q with
    | exact b => exact (residue_exact_eq h.symm).symm
    | binary y => exact residue_binary_eq h

theorem hash_eq_of_eq {p q : Value.Number} (h : p.eq q = true) : p.hash = q.hash := by
  unfold hash
  rw [residue_eq_of_eq h]

end Value.Number

end RoleRules
