/-!
# Retry policy

A failed attempt to connect is followed by a pause that doubles each time, up to the longest pause
that milliseconds of 64 bits can say. Pauses are computed in words, which stop at the largest word
instead of overflowing (`delayAfter_eq`).
-/

namespace TrafficControl

-- Powers of natural numbers are those of the core library, whatever else is in scope.
attribute [local instance (high)] instPowNat

/-- Bounded attempts with a doubling pause. -/
structure RetryPolicy where
  /-- The pause after the first failed attempt, in milliseconds. -/
  initialDelay : UInt64 := 500
  maxAttempts : UInt32 := 8
  deriving DecidableEq, Repr, Inhabited

namespace RetryPolicy

/-- The longest pause. -/
def maxDelay : Nat := UInt64.size - 1

/-- How much longer than the first one the pause after a failed attempt is, attempts counted from
zero. No word holds the sixty-fourth power of two; from there on it is the largest word. -/
def growth (attempt : Nat) : UInt64 :=
  if attempt < 64 then 1 <<< UInt64.ofNat attempt else UInt64.ofNat maxDelay

/-- The product of two words, or the largest word if no word holds the product. -/
def saturatingMul (a b : UInt64) : UInt64 :=
  if a.toNat * b.toNat ≤ maxDelay then a * b else UInt64.ofNat maxDelay

/-- The pause after a failed attempt, counted from zero. -/
def delayAfter (p : RetryPolicy) (attempt : Nat) : Nat :=
  (saturatingMul p.initialDelay (growth attempt)).toNat

/-- How many attempts are made: at least one. -/
def attempts (p : RetryPolicy) : Nat := max 1 p.maxAttempts.toNat

/-! ## Words that do not overflow -/

theorem toNat_growth (attempt : Nat) : (growth attempt).toNat = min (2 ^ attempt) maxDelay := by
  unfold growth
  split
  · next h =>
    have hpow : 2 ^ attempt ≤ maxDelay :=
      Nat.le_sub_one_of_lt (Nat.pow_lt_pow_right (by decide) h)
    have hlt : attempt < 2 ^ 64 := Nat.lt_trans h (by decide)
    rw [UInt64.toNat_shiftLeft, UInt64.toNat_ofNat', Nat.mod_eq_of_lt hlt, Nat.mod_eq_of_lt h,
      Nat.shiftLeft_eq, UInt64.toNat_one, Nat.one_mul, Nat.min_eq_left hpow]
    exact Nat.mod_eq_of_lt (Nat.lt_of_le_of_lt hpow (by decide))
  · next h =>
    have hpow : maxDelay ≤ 2 ^ attempt :=
      Nat.le_trans (by decide) (Nat.pow_le_pow_right (by decide) (Nat.le_of_not_lt h))
    rw [Nat.min_eq_right hpow]
    rfl

theorem toNat_saturatingMul (a b : UInt64) :
    (saturatingMul a b).toNat = min (a.toNat * b.toNat) maxDelay := by
  unfold saturatingMul
  split
  · next h =>
    rw [UInt64.toNat_mul, Nat.min_eq_left h]
    exact Nat.mod_eq_of_lt (Nat.lt_of_le_of_lt h (by decide))
  · next h =>
    rw [Nat.min_eq_right (Nat.le_of_not_le h)]
    rfl

/-- Capping a factor as well makes no difference to a capped product. -/
theorem min_mul_min (d x cap : Nat) : min (d * min x cap) cap = min (d * x) cap := by
  rcases Nat.eq_zero_or_pos d with rfl | hd
  · simp
  · rcases Nat.le_total x cap with hx | hx
    · rw [Nat.min_eq_left hx]
    · rw [Nat.min_eq_right hx, Nat.min_eq_right (Nat.le_mul_of_pos_left cap hd),
        Nat.min_eq_right (Nat.le_trans hx (Nat.le_mul_of_pos_left x hd))]

/-- The pause doubles with each attempt, up to the longest one. -/
theorem delayAfter_eq (p : RetryPolicy) (attempt : Nat) :
    p.delayAfter attempt = min (p.initialDelay.toNat * 2 ^ attempt) maxDelay := by
  rw [delayAfter, toNat_saturatingMul, toNat_growth, min_mul_min]

/-- A pause that no word holds is the longest one, whether the power or the product is too large. -/
example : (⟨2 ^ 63 - 1, 8⟩ : RetryPolicy).delayAfter 1 = 2 ^ 64 - 2 ∧
    (⟨2 ^ 63, 8⟩ : RetryPolicy).delayAfter 1 = 2 ^ 64 - 1 ∧
    (⟨1, 8⟩ : RetryPolicy).delayAfter 64 = 2 ^ 64 - 1 ∧
    (⟨0, 8⟩ : RetryPolicy).delayAfter 64 = 0 := by decide +kernel

/-- No pause is shorter than an earlier one. -/
theorem delayAfter_mono (p : RetryPolicy) {i j : Nat} (h : i ≤ j) :
    p.delayAfter i ≤ p.delayAfter j := by
  have hdoubled : p.initialDelay.toNat * 2 ^ i ≤ p.initialDelay.toNat * 2 ^ j :=
    Nat.mul_le_mul_left _ (Nat.pow_le_pow_right (by decide) h)
  rw [delayAfter_eq, delayAfter_eq]
  omega

/-- The number of attempts is a word of 32 bits. -/
theorem attempts_lt (p : RetryPolicy) : p.attempts < UInt32.size := by
  have hmax := p.maxAttempts.toNat_lt
  unfold attempts
  simp only [UInt32.size]
  omega

theorem attempts_pos (p : RetryPolicy) : 0 < p.attempts := by
  unfold attempts
  omega

end RetryPolicy

end TrafficControl
