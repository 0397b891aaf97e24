import TagTemplate.Proofs.Decimal.Rounding

/-!
# The order of doubles

Doubles are compared as the numbers that their bits stand for. Bits without a sign are ordered like
the naturals they are (`atMost_magnitude`), and so the double of a natural number is at most the
double of a larger one: what lies above the larger double lies above the smaller one
(`ofRatio_lt_of_le`).
-/

namespace TagTemplate.Decimal

/-! ## Doubles without a sign -/

open Float.Model Float.Model.UnpackedFloat

/-- The double without a sign that the fields of its bits stand for. -/
def ofFields (exponent fraction : Nat) : UnpackedFloat :=
  if exponent = 2047 then
    if fraction = 0 then .infinity .positive else .notANumber
  else if exponent = 0 then
    if h : fraction = 0 then .zero .positive
    else .finite .positive fraction (-1074) (Nat.pos_of_ne_zero h)
  else .finite .positive (twoTo 52 + fraction) ((exponent : Int) - 1075)
    (Nat.add_pos_left (by decide) _)

/-- The double that bits without a sign stand for. -/
def magnitude (bits : Nat) : UnpackedFloat := ofFields (bits / twoTo 52) (bits % twoTo 52)

/-- One double without a sign is no larger than another. -/
inductive AtMost : UnpackedFloat → UnpackedFloat → Prop
  | zero : AtMost (.zero .positive) (.zero .positive)
  | zero_finite {m : Nat} {e : Int} {h : 0 < m} :
    AtMost (.zero .positive) (.finite .positive m e h)
  | finite {m n : Nat} {e f : Int} {hm : 0 < m} {hn : 0 < n} (h : e < f ∨ e = f ∧ m ≤ n) :
    AtMost (.finite .positive m e hm) (.finite .positive n f hn)
  | infinity {a : UnpackedFloat} : AtMost a (.infinity .positive)

/-- Doubles without a sign are compared by their exponents, and then by their significands. -/
theorem lt_finite_iff {m n : Nat} {e f : Int} {hm : 0 < m} {hn : 0 < n} :
    UnpackedFloat.lt (.finite .positive m e hm) (.finite .positive n f hn) = true ↔
      e < f ∨ e = f ∧ m < n := by
  have hcompare : UnpackedFloat.lt (.finite .positive m e hm) (.finite .positive n f hn) =
      (((compare e f).then (compare m n)) == .lt) := rfl
  rw [hcompare, beq_iff_eq, Ordering.then_eq_lt, Int.compare_eq_lt, Int.compare_eq_eq,
    Nat.compare_eq_lt]

/-- What lies above a double lies above all that are no larger. -/
theorem AtMost.lt {a b x : UnpackedFloat} (h : AtMost a b) (hx : b.lt x = true) :
    a.lt x = true := by
  cases h with
  | zero => exact hx
  | zero_finite =>
    rcases x with ⟨_ | _⟩ | _ | ⟨_ | _⟩ | ⟨_ | _, _, _, _⟩
    all_goals first | rfl | exact absurd hx Bool.false_ne_true
  | finite h =>
    rcases x with ⟨_ | _⟩ | _ | ⟨_ | _⟩ | ⟨_ | _, _, _, _⟩
    case finite.positive =>
      rw [lt_finite_iff] at hx ⊢
      omega
    all_goals first | rfl | exact absurd hx Bool.false_ne_true
  | infinity =>
    rcases x with ⟨_ | _⟩ | _ | ⟨_ | _⟩ | ⟨_ | _, _, _, _⟩
    all_goals exact absurd hx Bool.false_ne_true

/-- Doubles without a sign are ordered by the fields of their bits. -/
theorem atMost_ofFields {e f m n : Nat} (h : e < f ∨ e = f ∧ m ≤ n) (hm : m < twoTo 52)
    (htop : f < 2047 ∨ f = 2047 ∧ n = 0) : AtMost (ofFields e m) (ofFields f n) := by
  -- By the kind of the smaller one, once the larger one is no infinity: zero, subnormal, normal.
  unfold ofFields
  by_cases hinf : f = 2047
  · rw [if_pos hinf, if_pos (show n = 0 from by omega)]
    exact .infinity
  rw [if_neg hinf, if_neg (show e ≠ 2047 from by omega)]
  by_cases hsub : e = 0
  · rw [if_pos hsub]
    by_cases hzero : m = 0
    · rw [dif_pos hzero]
      by_cases hlow : f = 0
      · rw [if_pos hlow]
        by_cases hnone : n = 0
        · rw [dif_pos hnone]
          exact .zero
        · rw [dif_neg hnone]
          exact .zero_finite
      · rw [if_neg hlow]
        exact .zero_finite
    · rw [dif_neg hzero]
      by_cases hlow : f = 0
      · rw [if_pos hlow, dif_neg (show n ≠ 0 from by omega)]
        exact .finite (Or.inr ⟨rfl, by omega⟩)
      · rw [if_neg hlow]
        exact .finite (by omega)
  · rw [if_neg hsub, if_neg (show f ≠ 0 from by omega)]
    exact .finite (by omega)

/-- Bits without a sign are ordered like the naturals they are. -/
theorem atMost_magnitude {j k : Nat} (h : j ≤ k) (hk : k ≤ 2047 * twoTo 52) :
    AtMost (magnitude j) (magnitude k) := by
  have hexp : j / twoTo 52 ≤ k / twoTo 52 := Nat.div_le_div_right h
  have hj := Nat.div_add_mod j (twoTo 52)
  have hk' := Nat.div_add_mod k (twoTo 52)
  have htop : k / twoTo 52 ≤ 2047 := Nat.div_le_of_le_mul (by rw [Nat.mul_comm]; exact hk)
  apply atMost_ofFields
  · rcases Nat.lt_or_eq_of_le hexp with hlt | heq
    · exact Or.inl hlt
    · rw [heq] at hj
      exact Or.inr ⟨heq, by omega⟩
  · exact Nat.mod_lt _ (by decide)
  · rcases Nat.lt_or_eq_of_le htop with hlt | heq
    · exact Or.inl hlt
    · rw [heq, Nat.mul_comm] at hk'
      exact Or.inr ⟨heq, by omega⟩

/-! ## The fields of a double -/

theorem finite_congr {m n : Nat} {e : Int} {hm : 0 < m} {hn : 0 < n} (h : m = n) :
    UnpackedFloat.finite .positive m e hm = .finite .positive n e hn := by
  subst h
  rfl

/-- A double whose sign bit is clear is made of its other fields. -/
theorem unpack_eq_ofFields {b : BitVec Format.binary64.numBits} (hsign : unpackSign b = 0#1) :
    UnpackedFloat.unpack Format.binary64 b =
      ofFields (unpackExponent b).toNat (unpackMantissa b).toNat := by
  have hexp : unpackExponent b = (-1#_) ↔ (unpackExponent b).toNat = 2047 := by
    rw [← BitVec.toNat_inj]
    exact Iff.rfl
  have hsub : unpackExponent b = 0#_ ↔ (unpackExponent b).toNat = 0 := by
    rw [← BitVec.toNat_inj]
    exact Iff.rfl
  have hman : unpackMantissa b = 0#_ ↔ (unpackMantissa b).toNat = 0 := by
    rw [← BitVec.toNat_inj]
    exact Iff.rfl
  have hfull : (1#1 ++ unpackMantissa b).toNat = twoTo 52 + (unpackMantissa b).toNat := by
    rw [BitVec.toNat_append, ← Nat.shiftLeft_add_eq_or_of_lt (unpackMantissa b).isLt]
    rfl
  unfold UnpackedFloat.unpack ofFields
  dsimp only
  rw [hsign]
  by_cases htop : (unpackExponent b).toNat = 2047
  · rw [if_pos (hexp.mpr htop), if_pos htop]
    by_cases hzero : (unpackMantissa b).toNat = 0
    · rw [if_pos (hman.mpr hzero), if_pos hzero]
      rfl
    · rw [if_neg (mt hman.mp hzero), if_neg hzero]
  rw [if_neg (mt hexp.mp htop), if_neg htop]
  by_cases hlow : (unpackExponent b).toNat = 0
  · rw [if_pos (hsub.mpr hlow), if_pos hlow]
    by_cases hzero : (unpackMantissa b).toNat = 0
    · rw [dif_pos (hman.mpr hzero), dif_pos hzero]
      rfl
    · rw [dif_neg (mt hman.mp hzero), dif_neg hzero, hlow]
      rfl
  · rw [if_neg (mt hsub.mp hlow), if_neg hlow]
    exact finite_congr hfull

theorem toNat_unpackSign (b : BitVec Format.binary64.numBits) :
    (unpackSign b).toNat = b.toNat / twoTo 63 % 2 := by
  show (BitVec.extractLsb 63 63 b).toNat = _
  rw [BitVec.extractLsb_toNat, Nat.shiftRight_eq_div_pow]
  rfl

theorem toNat_unpackExponent (b : BitVec Format.binary64.numBits) :
    (unpackExponent b).toNat = b.toNat / twoTo 52 % 2048 := by
  simp only [unpackExponent, BitVec.toNat_cast, BitVec.extractLsb_toNat, Nat.shiftRight_eq_div_pow]
  rfl

theorem toNat_unpackMantissa (b : BitVec Format.binary64.numBits) :
    (unpackMantissa b).toNat = b.toNat % twoTo 52 := by
  simp only [unpackMantissa, BitVec.toNat_cast, BitVec.extractLsb_toNat, Nat.shiftRight_eq_div_pow,
    Nat.pow_zero, Nat.div_one]
  rfl

/-- The sign bit of what is packed without a sign is clear. -/
theorem unpackSign_packComponents (exponent : BitVec 11) (fraction : BitVec 52) :
    unpackSign (packComponents Format.binary64 .positive exponent fraction) = 0#1 := by
  have hpacked : (packComponents Format.binary64 .positive exponent fraction).toNat =
      exponent.toNat * twoTo 52 + fraction.toNat := by
    have happend : (packComponents Format.binary64 .positive exponent fraction).toNat =
        (0 ||| exponent.toNat) <<< 52 ||| fraction.toNat := by
      simp only [packComponents, BitVec.toNat_append]
      rfl
    rw [happend, Nat.zero_or, ← Nat.shiftLeft_add_eq_or_of_lt fraction.isLt,
      Nat.shiftLeft_eq]
    rfl
  have hexponent : exponent.toNat < 2048 := exponent.isLt
  have hfraction : fraction.toNat < twoTo 52 := fraction.isLt
  apply BitVec.eq_of_toNat_eq
  rw [toNat_unpackSign, hpacked]
  have hlt : exponent.toNat * twoTo 52 + fraction.toNat < twoTo 63 := by
    have hle : (exponent.toNat + 1) * twoTo 52 ≤ 2048 * twoTo 52 := Nat.mul_le_mul_right _ hexponent
    rw [Nat.succ_mul] at hle
    have htwo : 2048 * twoTo 52 = twoTo 63 := by decide
    omega
  rw [Nat.div_eq_of_lt hlt]
  rfl

/-- A double below all with a full significand is packed with no exponent. -/
theorem pack_finite_subnormal {m : Nat} (hpos : 0 < m) (hm : m < twoTo 52) :
    UnpackedFloat.pack Format.binary64 (.finite .positive m (-1074) hpos) =
      packComponents Format.binary64 .positive 0#_ (BitVec.ofNat 52 m) := by
  have hlog : m.log2 < 52 := (Nat.log2_lt (Nat.ne_of_gt hpos)).mpr hm
  unfold UnpackedFloat.pack
  dsimp only
  rw [if_neg (by decide)]
  exact if_neg (show m.log2 + 1 ≠ 53 from by omega)

/-- The leading digit of a full significand is left out when it is packed. -/
theorem pack_finite_normal {e m : Nat} (hpos : 0 < twoTo 52 + m) (he : e < 2047)
    (hm : m < twoTo 52) :
    UnpackedFloat.pack Format.binary64 (.finite .positive (twoTo 52 + m) ((e : Int) - 1075) hpos) =
      packComponents Format.binary64 .positive (BitVec.ofNat 11 e) (BitVec.ofNat 52 m) := by
  have hlog : (twoTo 52 + m).log2 = 52 := by
    rw [Nat.log2_eq_iff (Nat.ne_of_gt hpos)]
    exact ⟨Nat.le_add_right _ _, show twoTo 52 + m < twoTo 52 + twoTo 52 from by omega⟩
  have hbiased : ((e : Int) - 1075 + (1023 : Nat) + (52 : Nat)).toNat = e := by omega
  have hfraction : BitVec.ofNat 52 (twoTo 52 + m) = BitVec.ofNat 52 m := by
    apply BitVec.eq_of_toNat_eq
    rw [BitVec.toNat_ofNat, BitVec.toNat_ofNat]
    exact Nat.add_mod_left _ _
  unfold UnpackedFloat.pack
  dsimp only
  rw [show ((e : Int) - 1075 + (Format.binary64.exponentBias : Nat) +
    (Format.binary64.mantissaBitsWithoutImplicit : Nat)).toNat = e from hbiased]
  rw [if_neg (show ¬ 2048 ≤ e + 1 from by omega), hlog]
  rw [hfraction]
  exact if_pos rfl

/-- Fields are unpacked as they were packed. -/
theorem unpack_packComponents {e m : Nat} (he : e ≤ 2047) (hm : m < twoTo 52) :
    UnpackedFloat.unpack Format.binary64
        (packComponents Format.binary64 .positive (BitVec.ofNat 11 e) (BitVec.ofNat 52 m)) =
      ofFields e m := by
  rw [unpack_eq_ofFields (unpackSign_packComponents _ _)]
  rw [unpackExponent_packComponents, unpackMantissa_packComponents]
  have hexponent : (BitVec.ofNat 11 e).toNat = e := Nat.mod_eq_of_lt (by omega)
  have hfraction : (BitVec.ofNat 52 m).toNat = m := Nat.mod_eq_of_lt hm
  rw [hexponent, hfraction]

/-- Packing keeps what the fields stand for. -/
theorem unpack_pack_ofFields {e m : Nat} (he : e ≤ 2047) (hm : m < twoTo 52) :
    UnpackedFloat.unpack Format.binary64 (UnpackedFloat.pack Format.binary64 (ofFields e m)) =
      ofFields e m := by
  have hunpack := unpack_packComponents he hm
  by_cases hinf : e = 2047
  · subst hinf
    by_cases hzero : m = 0
    · subst hzero
      exact hunpack
    · have hnan : ofFields 2047 m = .notANumber := by rw [ofFields, if_pos rfl, if_neg hzero]
      rw [hnan]
      rfl
  by_cases hsub : e = 0
  · subst hsub
    by_cases hzero : m = 0
    · subst hzero
      exact hunpack
    · have hfinite : ofFields 0 m = .finite .positive m (-1074) (Nat.pos_of_ne_zero hzero) := by
        rw [ofFields, if_neg hinf, if_pos rfl, dif_neg hzero]
      rw [hfinite, pack_finite_subnormal _ hm, ← hfinite]
      exact hunpack
  · have hfinite : ofFields e m = .finite .positive (twoTo 52 + m) ((e : Int) - 1075)
        (Nat.add_pos_left (by decide) _) := by
      rw [ofFields, if_neg hinf, if_neg hsub]
    rw [hfinite, pack_finite_normal _ (by omega) hm, ← hfinite]
    exact hunpack

/-- The double of bits is the one they stand for. -/
theorem unpack_ofBits {bits : Nat} (h : bits ≤ 2047 * twoTo 52) :
    (Float.ofBits bits.toUInt64).toModel.unpack = magnitude bits := by
  have hlt : bits < twoTo 63 := Nat.lt_of_le_of_lt h (by decide)
  have htoNat : bits.toUInt64.toBitVec.toNat = bits :=
    Nat.mod_eq_of_lt (Nat.lt_trans hlt (by decide))
  have hsign : @unpackSign Format.binary64 bits.toUInt64.toBitVec = 0#1 := by
    apply BitVec.eq_of_toNat_eq
    rw [toNat_unpackSign, htoNat, Nat.div_eq_of_lt hlt]
    rfl
  have hexp : bits / twoTo 52 ≤ 2047 := Nat.div_le_of_le_mul (by rw [Nat.mul_comm]; exact h)
  show UnpackedFloat.unpack Format.binary64 (UnpackedFloat.pack Format.binary64
    (UnpackedFloat.unpack Format.binary64 bits.toUInt64.toBitVec)) = _
  rw [unpack_eq_ofFields hsign, toNat_unpackExponent, toNat_unpackMantissa, htoNat,
    Nat.mod_eq_of_lt (show bits / twoTo 52 < 2048 from by omega)]
  exact unpack_pack_ofFields hexp (Nat.mod_lt _ (by decide))

/-! ## Doubles of numbers -/

/-- What lies above the double of a number lies above the double of every smaller one. -/
theorem ofRatio_lt_of_le {m n : Nat} (h : m ≤ n) {x : Float} (hx : ofRatio n 1 < x) :
    ofRatio m 1 < x := by
  -- The order of doubles is that of what their bits stand for.
  have hle := atMost_magnitude (bitsOfRatio_mono h) (bitsOfRatio_le n 1)
  have hlt : ∀ a b : Float, a < b ↔ a.toModel.unpack.lt b.toModel.unpack = true := by
    intro a b
    show a.lt b = true ↔ _
    show decide (a.toModel < b.toModel) = true ↔ _
    rw [decide_eq_true_eq]
    exact Iff.rfl
  rw [hlt, ofRatio, unpack_ofBits (bitsOfRatio_le _ 1)] at hx ⊢
  exact hle.lt hx

end TagTemplate.Decimal
