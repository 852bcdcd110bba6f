import Mathlib
import TreeAudit.Decimal.Style

-- Counts as double precision numbers. A count whose binary digits but the first 53 are zeros is kept as it
-- is, and rounding never makes a smaller one of a count that is larger.
namespace TreeAudit.Decimal
open Float.Model Float.Model.UnpackedFloat

section Rounding
variable {m n s : Nat} {e : Int} {sign : Sign}

theorem log2_full (low : 2 ^ 52 ≤ m) (high : m < 2 ^ 53) : m.log2 = 52 :=
  (Nat.log2_eq_iff (by omega)).mpr ⟨low,high⟩

theorem log2_mul_pow (some : m ≠ 0) (s : Nat) : (m * 2 ^ s).log2 = m.log2 + s := by
  refine (Nat.log2_eq_iff (Nat.mul_ne_zero some (Nat.ne_of_gt (Nat.two_pow_pos s)))).mpr ⟨?_,?_⟩
  · rw [Nat.pow_add]
    exact Nat.mul_le_mul_right _ (Nat.log2_self_le some)
  · rw [Nat.add_right_comm,Nat.pow_add]
    exact Nat.mul_lt_mul_of_pos_right Nat.lt_log2_self (Nat.two_pow_pos s)

-- Zeros that are shifted out leave nothing to round.
theorem shift_zeros (m s : Nat) :
    (⟨m * 2 ^ s,false,false⟩ : ExtendedMantissa) >>> s = ⟨m,false,false⟩ := by
  change s.repeat ExtendedMantissa.shiftRightOne ⟨m * 2 ^ s,false,false⟩ = _
  induction s generalizing m with
  | zero => simp [Nat.repeat]
  | succ s ih =>
    rw [Nat.pow_succ',← Nat.mul_assoc,Nat.repeat,ih]
    simp [ExtendedMantissa.shiftRightOne]

theorem shift_mantissa (em : ExtendedMantissa) (s : Nat) : (em >>> s).mantissa = em.mantissa / 2 ^ s := by
  change (s.repeat ExtendedMantissa.shiftRightOne em).mantissa = _
  induction s with
  | zero => simp [Nat.repeat]
  | succ s ih =>
    rw [Nat.repeat,ExtendedMantissa.shiftRightOne,ih,Nat.div_div_eq_div_mul,Nat.pow_succ]

-- The exponent that a mantissa has once it is brought to 53 digits.
theorem targetExponent_eq (range : -1074 ≤ m.log2 + e - 52) :
    Format.binary64.targetExponent (totalExponent m e) = m.log2 + e - 52 := by
  have bits : (Format.binary64.mantissaBits : Int) = 53 := rfl
  have least : Format.binary64.minExponent = -1074 := rfl
  rw [Format.targetExponent,totalExponent,bits,least]
  omega

-- A mantissa of 53 digits stays, however many zeros are written behind it.
theorem shift_full (low : 2 ^ 52 ≤ m) (high : m < 2 ^ 53) (range : -1074 ≤ e) (s : Nat) :
    shiftToTargetExponent .binary64 (m * 2 ^ s) (e - s) .exact = (⟨m,false,false⟩,e) := by
  have wide := log2_mul_pow (m := m) (by omega) s
  rw [log2_full low high] at wide
  have places : (((52 + s : Nat) : Int) + (e - s) - 52 - (e - s)).toNat = s := by omega
  rw [shiftToTargetExponent,targetExponent_eq (by omega),wide,shiftToExponent,places]
  dsimp only [ExtendedMantissa.ofMantissaAndAccuracy]
  rw [shift_zeros,Int.sub_add_cancel]

theorem shift_none (low : 2 ^ 52 ≤ m) (high : m < 2 ^ 53) (range : -1074 ≤ e) :
    shiftToTargetExponent .binary64 m e .exact = (⟨m,false,false⟩,e) := by
  have full := shift_full low high range 0
  rwa [Nat.pow_zero,Nat.mul_one,Int.natCast_zero,Int.sub_zero] at full

theorem round_full (low : 2 ^ 52 ≤ m) (high : m < 2 ^ 53) (range : -1074 ≤ e) (s : Nat) :
    roundWithAccuracy .binary64 sign (m * 2 ^ s) (e - s) .exact =
      .finite sign m e (Nat.lt_of_lt_of_le (by decide) low) := by
  have some : m ≠ 0 := by omega
  rw [roundWithAccuracy,shift_full low high range]
  simp only [ExtendedMantissa.roundedMantissa,ExtendedMantissa.accuracy,Accuracy.roundToNearestEven,
    shift_none low high range,some,dite_false]

theorem rounded_le (em : ExtendedMantissa) :
    em.mantissa ≤ em.roundedMantissa ∧ em.roundedMantissa ≤ em.mantissa + 1 := by
  obtain ⟨mantissa,half,below⟩ := em
  cases half <;> cases below <;>
    simp only [ExtendedMantissa.roundedMantissa,ExtendedMantissa.accuracy,Accuracy.roundToNearestEven] <;> omega

-- Whatever is rounded away, the exponent is not less than that of the digits that are kept.
theorem round_long (long : 52 ≤ m.log2) (range : -1074 ≤ m.log2 + e - 52) :
    ∃ kept exponent some, roundWithAccuracy .binary64 sign m e .exact = .finite sign kept exponent some ∧
      2 ^ 52 ≤ kept ∧ kept < 2 ^ 53 ∧ m.log2 + e - 52 ≤ exponent := by
  have some : m ≠ 0 := by
    rintro rfl
    simp at long
  have first : shiftToTargetExponent .binary64 m e .exact =
      ((⟨m,false,false⟩ : ExtendedMantissa) >>> (m.log2 - 52),m.log2 + e - 52) := by
    have places : ((m.log2 : Int) + e - 52 - e).toNat = m.log2 - 52 := by omega
    rw [shiftToTargetExponent,targetExponent_eq range,shiftToExponent,places]
    refine Prod.ext rfl ?_
    show e + (m.log2 - 52 : Nat) = _
    omega
  have digits : 2 ^ 52 ≤ m / 2 ^ (m.log2 - 52) ∧ m / 2 ^ (m.log2 - 52) < 2 ^ 53 := by
    rw [Nat.le_div_iff_mul_le (Nat.two_pow_pos _),Nat.div_lt_iff_lt_mul (Nat.two_pow_pos _),← Nat.pow_add,
      ← Nat.pow_add]
    rw [show 52 + (m.log2 - 52) = m.log2 by omega,show 53 + (m.log2 - 52) = m.log2 + 1 by omega]
    exact ⟨Nat.log2_self_le some,Nat.lt_log2_self⟩
  rw [roundWithAccuracy,first]
  obtain ⟨above,below⟩ := rounded_le ((⟨m,false,false⟩ : ExtendedMantissa) >>> (m.log2 - 52))
  rw [shift_mantissa] at above below
  dsimp only at above below ⊢
  generalize ((⟨m,false,false⟩ : ExtendedMantissa) >>> (m.log2 - 52)).roundedMantissa = rounded at above below ⊢
  -- Rounding up may carry through all digits and leave a one behind which there are zeros.
  by_cases carried : rounded = 2 ^ 52 * 2 ^ 1
  · have exponent : (m.log2 + e - 51 : Int) - (1 : Nat) = m.log2 + e - 52 := by omega
    have again := shift_full (m := 2 ^ 52) (e := m.log2 + e - 51) (by decide) (by decide) (by omega) 1
    rw [exponent] at again
    have present : 2 ^ 52 ≠ 0 := by decide
    rw [carried,again,dif_neg present]
    exact ⟨2 ^ 52,_,Nat.pos_of_ne_zero present,rfl,by decide,by decide,by omega⟩
  · have again := shift_none (m := rounded) (e := m.log2 + e - 52) (by omega) (by omega) range
    have present : rounded ≠ 0 := by omega
    rw [again,dif_neg present]
    exact ⟨_,_,Nat.pos_of_ne_zero present,rfl,by omega,by omega,Int.le_refl _⟩

theorem unpackSign_packComponents (format : Float.Model.Format) (exponent : BitVec format.exponentBits)
    (mantissa : BitVec format.mantissaBitsWithoutImplicit) :
    unpackSign (packComponents format sign exponent mantissa) = sign.toBitVec := by
  refine BitVec.eq_of_getLsbD_eq fun i inside => ?_
  obtain rfl : i = 0 := by omega
  simp [unpackSign,packComponents,BitVec.getLsbD_append,BitVec.getElem_append]

theorem leading_one (m : Nat) (low : 2 ^ 52 ≤ m) (high : m < 2 ^ 53) :
    (1#1 ++ BitVec.ofNat 52 m).toNat = m := by
  rw [BitVec.toNat_append,← Nat.shiftLeft_add_eq_or_of_lt (BitVec.ofNat 52 m).isLt,BitVec.toNat_ofNat,
    BitVec.toNat_ofNat,Nat.shiftLeft_eq]
  omega

-- A number of 53 digits comes back from its bits, or is too large for them.
theorem unpack_full (low : 2 ^ 52 ≤ m) (high : m < 2 ^ 53) (range : -1074 ≤ e) (some : 0 < m) :
    UnpackedFloat.unpack .binary64 (UnpackedFloat.pack .binary64 (.finite sign m e some)) =
      if e ≤ 971 then .finite sign m e some else .infinity sign := by
  have bias : (Format.binary64.exponentBias : Int) = 1023 := rfl
  have biased : (e + Format.binary64.exponentBias + Format.binary64.mantissaBitsWithoutImplicit).toNat =
      (e + 1075).toNat := by
    rw [bias]
    show (e + 1023 + 52).toNat = _
    omega
  rw [UnpackedFloat.pack]
  simp only [biased,log2_full low high]
  split
  · rename_i large
    change 2 ^ 11 ≤ _ at large
    rw [if_neg (by omega)]
    cases sign <;> rfl
  · rename_i fits
    change ¬ 2 ^ 11 ≤ _ at fits
    have stored : (BitVec.ofNat 11 (e + 1075).toNat).toNat = (e + 1075).toNat := by
      rw [BitVec.toNat_ofNat]
      omega
    have apart : ∀ bits : BitVec 11, bits.toNat ≠ (e + 1075).toNat → BitVec.ofNat 11 (e + 1075).toNat ≠ bits := by
      rintro _ other rfl
      exact other stored
    have notLast := apart (-1#11) (by change 2047 ≠ _; omega)
    have notFirst := apart 0#11 (by change 0 ≠ _; omega)
    have normal : 52 + 1 = Format.binary64.mantissaBits := rfl
    rw [if_pos normal,if_pos (by omega : e ≤ 971),UnpackedFloat.unpack]
    simp only [unpackMantissa_packComponents,unpackExponent_packComponents,unpackSign_packComponents]
    rw [if_neg notLast,if_neg notFirst]
    have exponent : ((BitVec.ofNat 11 (e + 1075).toNat).toNat : Int) - (1023 + (52 : Nat)) = e := by
      rw [stored]
      omega
    simp only [leading_one m low high,bias,exponent]
    cases sign <;> rfl

end Rounding

section Counts
variable {k n : Nat} {sign : Sign}

theorem one_unpacked : (Float.ofBits 0x3FF0000000000000).toModel.unpack =
    .finite .positive (2 ^ 52) (-52) (Nat.two_pow_pos 52) := rfl

theorem log2_small (small : n < 2 ^ 53) : n.log2 ≤ 52 := by
  by_cases none : n = 0
  · simp [none]
  · exact Nat.le_of_lt_succ ((Nat.log2_lt none).mpr small)

-- A count of at most 53 digits as a mantissa of 53 digits.
theorem full_of_small (some : n ≠ 0) (small : n < 2 ^ 53) :
    2 ^ 52 ≤ n * 2 ^ (52 - n.log2) ∧ n * 2 ^ (52 - n.log2) < 2 ^ 53 := by
  have width := log2_small small
  have low := Nat.mul_le_mul_right (2 ^ (52 - n.log2)) (Nat.log2_self_le some)
  have high := Nat.mul_lt_mul_of_pos_right (Nat.lt_log2_self (n := n)) (Nat.two_pow_pos (52 - n.log2))
  rw [← Nat.pow_add] at low high
  rw [show n.log2 + (52 - n.log2) = 52 by omega] at low
  rw [show n.log2 + 1 + (52 - n.log2) = 53 by omega] at high
  exact ⟨low,high⟩

-- However many zeros are written behind a count, rounding brings it to 53 digits.
theorem round_count (some : n ≠ 0) (small : n < 2 ^ 53) (j : Nat) :
    UnpackedFloat.round .binary64 sign (n * 2 ^ j) (-j) =
      .finite sign (n * 2 ^ (52 - n.log2)) (n.log2 - 52 : ℤ)
        (Nat.mul_pos (Nat.pos_of_ne_zero some) (Nat.two_pow_pos _)) := by
  obtain ⟨low,high⟩ := full_of_small some small
  have width := log2_small small
  have digits := log2_mul_pow some j
  have places : ((-j : ℤ) - ((n.log2 + j : Nat) + -j - 52)).toNat = 52 - n.log2 - j := by omega
  have mantissa : n * 2 ^ j * 2 ^ (52 - n.log2 - j) = n * 2 ^ (52 - n.log2) * 2 ^ (j - (52 - n.log2)) := by
    rw [Nat.mul_assoc,Nat.mul_assoc,← Nat.pow_add,← Nat.pow_add]
    congr 2
    omega
  have exponent : (-j : ℤ) - (52 - n.log2 - j : Nat) = (n.log2 - 52 : ℤ) - (j - (52 - n.log2) : Nat) := by omega
  rw [UnpackedFloat.round,targetExponent_eq (by omega),decreaseExponent,digits,places,Nat.shiftLeft_eq]
  dsimp only
  rw [mantissa,exponent]
  exact round_full low high (by omega) _

theorem unpack_pack (u : UnpackedFloat) :
    (Float.Model.pack u).unpack = UnpackedFloat.unpack .binary64 (UnpackedFloat.pack .binary64 u) := rfl

theorem toFloat_unpacked (some : n ≠ 0) (small : n < 2 ^ 53) :
    n.toUInt64.toFloat.toModel.unpack = .finite .positive (n * 2 ^ (52 - n.log2)) (n.log2 - 52 : Int)
      (Nat.mul_pos (Nat.pos_of_ne_zero some) (Nat.two_pow_pos _)) := by
  have width := log2_small small
  obtain ⟨low,high⟩ := full_of_small some small
  have word : n.toUInt64.toNat = n := Nat.mod_eq_of_lt (by omega)
  have positive : compare (n : Int) 0 = .gt := by
    rw [Int.compare_eq_gt]
    omega
  have rounded : UnpackedFloat.ofUInt64 .binary64 n.toUInt64 =
      .finite .positive (n * 2 ^ (52 - n.log2)) (n.log2 - 52 : Int)
        (Nat.mul_pos (Nat.pos_of_ne_zero some) (Nat.two_pow_pos _)) := by
    rw [UnpackedFloat.ofUInt64,word,UnpackedFloat.ofNat,UnpackedFloat.ofInt,UnpackedFloat.normalize,positive]
    have exact := @round_count n .positive some small 0
    rw [Nat.pow_zero,Nat.mul_one] at exact
    exact exact
  rw [UInt64.toFloat,Float.Model.ofUInt64,rounded,unpack_pack,unpack_full low high (by omega),if_pos (by omega)]

-- A count is written with 53 digits.
theorem ofNat_packed (some : n ≠ 0) (small : n < 2 ^ 53) :
    (Float.ofNat n).toModel = .pack (.finite .positive (n * 2 ^ (52 - n.log2)) (n.log2 - 52 : Int)
      (Nat.mul_pos (Nat.pos_of_ne_zero some) (Nat.two_pow_pos _))) := by
  obtain ⟨low,high⟩ := full_of_small some small
  have product : (Float.ofNat n).toModel = .pack (UnpackedFloat.mul .binary64
      n.toUInt64.toFloat.toModel.unpack (Float.ofBits 0x3FF0000000000000).toModel.unpack) := by
    rw [Float.ofNat]
    show (Float.ofScientific n false 0).toModel = _
    rw [Float.ofScientific,dif_pos ⟨small,Nat.zero_le 22⟩]
    rfl
  have full := @round_full _ (n.log2 - 52 : Int) .positive low high (by omega) 52
  rw [product,toFloat_unpacked some small,one_unpacked,UnpackedFloat.mul]
  change Float.Model.pack (roundWithAccuracy .binary64 .positive _ ((n.log2 - 52 : Int) - (52 : Nat)) _) = _
  rw [full]

-- The value that a count has as a number of 53 digits.
theorem ofNat_small (some : n ≠ 0) (small : n < 2 ^ 53) :
    (Float.ofNat n).toModel.unpack = .finite .positive (n * 2 ^ (52 - n.log2)) (n.log2 - 52 : Int)
      (Nat.mul_pos (Nat.pos_of_ne_zero some) (Nat.two_pow_pos _)) := by
  obtain ⟨low,high⟩ := full_of_small some small
  have width := log2_small small
  rw [ofNat_packed some small,unpack_pack,unpack_full low high (by omega),if_pos (by omega)]

theorem ofNat_large (large : 2 ^ 53 ≤ n) : (Float.ofNat n).toModel =
    .pack (roundWithAccuracy .binary64 .positive (n * 2 ^ 53) (-53) .exact) := by
  have scientific : (Float.ofNat n).toModel = Float.Model.ofScientific n 0 := by
    rw [Float.ofNat]
    show (Float.ofScientific n false 0).toModel = _
    rw [Float.ofScientific,dif_neg (by omega)]
    rfl
  have product : UnpackedFloat.ofScientific .binary64 n 0 =
      roundWithAccuracy .binary64 .positive (n <<< 53 * 1) (-53) .exact := by
    have bound : ¬ (0 : Int) < -((2 ^ 11 : Int) + n.log2) := by omega
    rw [UnpackedFloat.ofScientific,dif_neg (by omega),if_neg (by decide),if_neg bound,if_pos (Int.le_refl 0)]
    rfl
  rw [scientific,Float.Model.ofScientific,product,Nat.mul_one,Nat.shiftLeft_eq]

-- The counts that are doubles: 53 binary digits and zeros behind them, up to the greatest exponent.
def Exact (n : Nat) : Prop := ∃ m j, n = m * 2 ^ j ∧ m < 2 ^ 53 ∧ j ≤ 971

-- A number whose value is a count.
def Stands (x : Float) (n : Nat) : Prop :=
  ∃ m e some, x.toModel.unpack = .finite .positive m e some ∧ 2 ^ 52 ≤ m ∧ m < 2 ^ 53 ∧
    -52 ≤ e ∧ n * 2 ^ 52 = m * 2 ^ (e + 52).toNat

theorem Stands.isFinite {x : Float} (stands : Stands x n) : x.isFinite = true := by
  obtain ⟨m,e,positive,unpacked,_⟩ := stands
  change x.toModel.unpack.isFinite = true
  rw [unpacked]
  rfl

theorem stands_small (some : n ≠ 0) (small : n < 2 ^ 53) : Stands (Float.ofNat n) n := by
  obtain ⟨low,high⟩ := full_of_small some small
  have width := log2_small small
  refine ⟨_,_,_,ofNat_small some small,low,high,by omega,?_⟩
  rw [Nat.mul_assoc,← Nat.pow_add]
  congr 2
  omega

theorem count_finite (small : n < 2 ^ 53) : (Float.ofNat n).isFinite = true := by
  cases n with
  | zero => decide +kernel
  | succ n => exact (stands_small (Nat.succ_ne_zero n) small).isFinite

theorem Exact.full (exact : Exact n) (large : 2 ^ 53 ≤ n) :
    ∃ m s, n = m * 2 ^ s ∧ 2 ^ 52 ≤ m ∧ m < 2 ^ 53 ∧ s ≤ 971 := by
  obtain ⟨digits,zeros,same,short,bound⟩ := exact
  have some : n ≠ 0 := by omega
  have least := Nat.log2_self_le some
  have width : n.log2 < 53 + zeros := by
    rw [Nat.log2_lt some,Nat.pow_add,same]
    exact Nat.mul_lt_mul_of_pos_right short (Nat.two_pow_pos zeros)
  have long : 53 ≤ n.log2 := (Nat.le_log2 some).mpr large
  have split : n = digits * 2 ^ (zeros - (n.log2 - 52)) * 2 ^ (n.log2 - 52) := by
    rw [Nat.mul_assoc,← Nat.pow_add,Nat.sub_add_cancel (by omega)]
    exact same
  refine ⟨_,_,split,?_,?_,by omega⟩
  · refine Nat.le_of_mul_le_mul_right ?_ (Nat.two_pow_pos (n.log2 - 52))
    rw [← split,← Nat.pow_add,Nat.add_sub_cancel' (by omega)]
    exact least
  · refine Nat.lt_of_mul_lt_mul_right (a := 2 ^ (n.log2 - 52)) ?_
    rw [← split,← Nat.pow_add,show 53 + (n.log2 - 52) = n.log2 + 1 by omega]
    exact Nat.lt_log2_self

theorem stands_large (exact : Exact n) (large : 2 ^ 53 ≤ n) : Stands (Float.ofNat n) n := by
  obtain ⟨m,s,same,low,high,bound⟩ := exact.full large
  have value : (Float.ofNat n).toModel.unpack = .finite .positive m s (Nat.lt_of_lt_of_le (by decide) low) := by
    have full := @round_full _ (s : Int) .positive low high (by omega) (s + 53)
    have exponent : (s : Int) - (s + 53 : Nat) = -53 := by omega
    rw [exponent,Nat.pow_add,← Nat.mul_assoc,← same] at full
    rw [ofNat_large large,full,unpack_pack,unpack_full low high (by omega),if_pos (by omega)]
  refine ⟨m,s,_,value,low,high,by omega,?_⟩
  rw [same,Nat.mul_assoc,← Nat.pow_add]
  congr 2

theorem Exact.stands (exact : Exact n) (some : n ≠ 0) : Stands (Float.ofNat n) n := by
  by_cases small : n < 2 ^ 53
  · exact stands_small some small
  · exact stands_large exact (by omega)

theorem exact_of_le (bound : n ≤ 2 ^ 53) : Exact n := by
  by_cases top : n = 2 ^ 53
  · exact ⟨1,53,by omega,by decide,by decide⟩
  · exact ⟨n,0,by omega,by omega,by decide⟩

-- Of two ways to write a number with 53 digits none has the smaller exponent.
theorem exponent_le {m m' a b : Nat} (same : m * 2 ^ a = m' * 2 ^ b) (high : m < 2 ^ 53)
    (low : 2 ^ 52 ≤ m') : b ≤ a := by
  refine Nat.le_of_not_lt fun less => ?_
  have split : m * 2 ^ a = m' * 2 ^ (b - a) * 2 ^ a := by
    rw [same,Nat.mul_assoc,← Nat.pow_add,Nat.sub_add_cancel (by omega)]
  have equal := Nat.eq_of_mul_eq_mul_right (Nat.two_pow_pos a) split
  have twice : m' * 2 ^ 1 ≤ m' * 2 ^ (b - a) :=
    Nat.mul_le_mul_left m' (Nat.pow_le_pow_right (by decide) (by omega))
  omega

-- Numbers that stand for counts are equal where the counts are.
theorem Stands.beq_iff {x y : Float} (left : Stands x k) (right : Stands y n) :
    (x == y) = true ↔ k = n := by
  obtain ⟨m,e,_,isLeft,low,high,least,values⟩ := left
  obtain ⟨m',e',_,isRight,low',high',least',values'⟩ := right
  have compared : (x == y) = true ↔ e = e' ∧ m = m' := by
    change (x.toModel.unpack.compare y.toModel.unpack == some .eq) = true ↔ _
    rw [isLeft,isRight]
    simp [UnpackedFloat.compare,Ordering.then_eq_eq]
  rw [compared]
  constructor
  · rintro ⟨rfl,rfl⟩
    exact Nat.eq_of_mul_eq_mul_right (Nat.two_pow_pos 52) (values.trans values'.symm)
  · rintro rfl
    have same := values.symm.trans values'
    have one := exponent_le same high low'
    have two := exponent_le same.symm high' low
    obtain rfl : e = e' := by omega
    exact ⟨rfl,Nat.eq_of_mul_eq_mul_right (Nat.two_pow_pos _) same⟩

-- A count beyond 53 digits is no count of fewer, to which it may be rounded.
theorem beyond_ne (some : k ≠ 0) (small : k < 2 ^ 53) (large : 2 ^ 53 ≤ n) :
    (Float.ofNat k == Float.ofNat n) = false := by
  have width := log2_small small
  have long : 53 ≤ n.log2 := (Nat.le_log2 (by omega)).mpr large
  have digits := log2_mul_pow (m := n) (by omega) 53
  obtain ⟨m,e,positive,rounded,low,high,least⟩ :=
    @round_long (n * 2 ^ 53) (-53) .positive (by omega) (by omega)
  change (((Float.ofNat k).toModel.unpack.compare (Float.ofNat n).toModel.unpack) == Option.some .eq) = false
  rw [ofNat_small some small,ofNat_large large,rounded,unpack_pack,unpack_full low high (by omega)]
  split
  · simp [UnpackedFloat.compare,Ordering.then_eq_eq]
    omega
  · rfl

-- A count that is exact is told from every other, as long as one of the two is in the range in which all
-- counts are exact.
theorem count_beq_iff (exact : Exact k) (some : k ≠ 0) (other : n ≠ 0) (range : k < 2 ^ 53 ∨ n ≤ 2 ^ 53) :
    (Float.ofNat k == Float.ofNat n) = true ↔ k = n := by
  by_cases bound : n ≤ 2 ^ 53
  · exact (exact.stands some).beq_iff ((exact_of_le bound).stands other)
  · have small := range.resolve_right bound
    have apart : k ≠ n := by omega
    rw [beyond_ne some small (by omega)]
    simp [apart]

end Counts

end TreeAudit.Decimal
