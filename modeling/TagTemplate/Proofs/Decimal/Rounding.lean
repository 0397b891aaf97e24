import TagTemplate.Decimal.Binary64

/-!
# Rounding keeps the order

The bits of the double nearest to a natural number grow with the number. Numbers with as many binary
digits are rounded in the same unit, and so by the same quotient; one digit more is worth at least
what rounding up can add.
-/

namespace TagTemplate.Decimal

/-! ## Quotients -/

/-- A larger numerator has no smaller quotient. -/
theorem roundDiv_mono {m n : Nat} (den : Nat) (h : m ≤ n) :
    roundDiv m den ≤ roundDiv n den := by
  have hle : m / den ≤ n / den := Nat.div_le_div_right h
  have hm : den * (m / den) + m % den = m := Nat.div_add_mod m den
  have hn : den * (n / den) + n % den = n := Nat.div_add_mod n den
  rcases Nat.lt_or_eq_of_le hle with hlt | heq
  · -- the quotients differ before rounding, so rounding one of them up is not too much
    unfold roundDiv
    simp only
    split <;> split <;> omega
  · unfold roundDiv
    simp only
    rw [← heq] at hn ⊢
    split <;> split <;> omega

/-- A whole quotient is not rounded. -/
theorem roundDiv_mul (a : Nat) {den : Nat} (hden : 0 < den) : roundDiv (a * den) den = a := by
  unfold roundDiv
  rw [Nat.mul_div_cancel a hden, Nat.mul_mod_left]
  exact if_neg (by omega)

/-! ## Scaling a number to its significand -/

/-- A number in units of a power of two, as a quotient. -/
theorem scale_log2 {n : Nat} (hn : n ≠ 0) (k : Nat) :
    0 < (scale n 1 ((n.log2 : Int) - k)).2 ∧
      twoTo k * (scale n 1 ((n.log2 : Int) - k)).2 ≤ (scale n 1 ((n.log2 : Int) - k)).1 ∧
      (scale n 1 ((n.log2 : Int) - k)).1 ≤
        twoTo (k + 1) * (scale n 1 ((n.log2 : Int) - k)).2 := by
  have hlow : 2 ^ n.log2 ≤ n := Nat.log2_self_le hn
  have hhigh : n < 2 ^ (n.log2 + 1) := Nat.lt_log2_self
  unfold scale
  by_cases h : (0 : Int) ≤ (n.log2 : Int) - k
  · rw [if_pos h]
    obtain ⟨d, hd⟩ : ∃ d, n.log2 = k + d := ⟨n.log2 - k, by omega⟩
    have hunit : ((n.log2 : Int) - k).toNat = d := by omega
    show 0 < 1 * 2 ^ _ ∧ 2 ^ k * (1 * 2 ^ _) ≤ n ∧ n ≤ 2 ^ (k + 1) * (1 * 2 ^ _)
    rw [hunit, Nat.one_mul, ← Nat.pow_add, ← Nat.pow_add, ← hd,
      show k + 1 + d = n.log2 + 1 from by omega]
    exact ⟨Nat.two_pow_pos d, hlow, Nat.le_of_lt hhigh⟩
  · rw [if_neg h]
    obtain ⟨d, hd⟩ : ∃ d, k = n.log2 + d := ⟨k - n.log2, by omega⟩
    have hunit : (-((n.log2 : Int) - k)).toNat = d := by omega
    show 0 < 1 ∧ 2 ^ k * 1 ≤ n * 2 ^ _ ∧ n * 2 ^ _ ≤ 2 ^ (k + 1) * 1
    rw [hunit, Nat.mul_one, Nat.mul_one, hd, Nat.pow_add,
      show n.log2 + d + 1 = (n.log2 + 1) + d from by omega, Nat.pow_add]
    exact ⟨Nat.one_pos, Nat.mul_le_mul_right _ hlow, Nat.mul_le_mul_right _ (Nat.le_of_lt hhigh)⟩

/-- The significand of a number, in units that leave it 53 binary digits. -/
def significand (n : Nat) : Nat :=
  let scaled := scale n 1 ((n.log2 : Int) - (52 : Nat))
  roundDiv scaled.1 scaled.2

/-- The bits of a number: its exponent, and its significand. -/
theorem bitsOfRatio_one {n : Nat} (hn : n ≠ 0) :
    bitsOfRatio n 1 = min ((n.log2 + 1022) * twoTo 52 + significand n) (2047 * twoTo 52) := by
  have hone : Nat.log2 1 = 0 := by decide
  have hcoarse : max ((n.log2 : Int) - (Nat.log2 1 : Nat) - 53) (-1074) =
      (n.log2 : Int) - (53 : Nat) := by
    rw [hone]
    omega
  -- The coarse unit leaves one digit too many, so the next larger one is taken.
  obtain ⟨hpos, hlow, -⟩ := scale_log2 hn 53
  have hwide : twoTo 53 ≤
      (scale n 1 ((n.log2 : Int) - (53 : Nat))).1 / (scale n 1 ((n.log2 : Int) - (53 : Nat))).2 :=
    (Nat.le_div_iff_mul_le hpos).mpr hlow
  unfold bitsOfRatio
  rw [if_neg hn, hcoarse]
  simp only
  rw [if_pos hwide, significand]
  have hfine : (n.log2 : Int) - (53 : Nat) + 1 = (n.log2 : Int) - (52 : Nat) := by omega
  have hexponent : ((n.log2 : Int) - (52 : Nat) + 1074).toNat = n.log2 + 1022 := by omega
  rw [hfine, hexponent]

theorem le_significand {n : Nat} (hn : n ≠ 0) : twoTo 52 ≤ significand n := by
  obtain ⟨hpos, hlow, -⟩ := scale_log2 hn 52
  have h := roundDiv_mono (scale n 1 ((n.log2 : Int) - (52 : Nat))).2 hlow
  rw [roundDiv_mul _ hpos] at h
  exact h

theorem significand_le {n : Nat} (hn : n ≠ 0) : significand n ≤ twoTo 53 := by
  obtain ⟨hpos, -, hhigh⟩ := scale_log2 hn 52
  have h := roundDiv_mono (scale n 1 ((n.log2 : Int) - (52 : Nat))).2 hhigh
  rw [roundDiv_mul _ hpos] at h
  exact h

/-- Numbers with as many binary digits are ordered by their significands. -/
theorem significand_mono {m n : Nat} (h : m ≤ n) (hlog : m.log2 = n.log2) :
    significand m ≤ significand n := by
  unfold significand
  rw [← hlog]
  have hden : (scale m 1 ((m.log2 : Int) - (52 : Nat))).2 =
      (scale n 1 ((m.log2 : Int) - (52 : Nat))).2 := by
    unfold scale
    split <;> rfl
  have hnum : (scale m 1 ((m.log2 : Int) - (52 : Nat))).1 ≤
      (scale n 1 ((m.log2 : Int) - (52 : Nat))).1 := by
    unfold scale
    split
    · exact h
    · exact Nat.mul_le_mul_right _ h
  simp only
  rw [← hden]
  exact roundDiv_mono _ hnum

/-- A larger number has no smaller bits. -/
theorem bitsOfRatio_mono {m n : Nat} (h : m ≤ n) : bitsOfRatio m 1 ≤ bitsOfRatio n 1 := by
  by_cases hm : m = 0
  · rw [hm]
    exact Nat.zero_le _
  have hn : n ≠ 0 := by omega
  have hlog : m.log2 ≤ n.log2 := by
    rw [Nat.le_log2 hn]
    exact Nat.le_trans (Nat.log2_self_le hm) h
  rw [bitsOfRatio_one hm, bitsOfRatio_one hn]
  apply Nat.le_min.mpr
  refine ⟨Nat.le_trans (Nat.min_le_left _ _) ?_, Nat.min_le_right _ _⟩
  rcases Nat.lt_or_eq_of_le hlog with hlt | heq
  · -- one binary digit more outweighs what the significand can come to
    have h1 := significand_le hm
    have h2 := le_significand hn
    have h3 : (m.log2 + 1023) * twoTo 52 ≤ (n.log2 + 1022) * twoTo 52 :=
      Nat.mul_le_mul_right _ (by omega)
    have h4 : (m.log2 + 1023) * twoTo 52 = (m.log2 + 1022) * twoTo 52 + twoTo 52 := by
      rw [← Nat.succ_mul]
    have h5 : twoTo 53 = twoTo 52 + twoTo 52 := by decide
    omega
  · rw [heq]
    exact Nat.add_le_add_left (significand_mono h heq) _

/-- Bits of numbers reach as far as those of infinity. -/
theorem bitsOfRatio_le (num den : Nat) : bitsOfRatio num den ≤ 2047 * twoTo 52 := by
  unfold bitsOfRatio
  split
  · exact Nat.zero_le _
  · exact Nat.min_le_right _ _

end TagTemplate.Decimal
