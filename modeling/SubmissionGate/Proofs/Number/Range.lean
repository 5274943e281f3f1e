import Mathlib.Data.Nat.Log
import Mathlib.Tactic.Ring
import SubmissionGate.Number.Numeral

/-!
# The range of floating-point numbers

An integer is rounded to a finite number as long as it lies below the middle between the greatest
one and the power of two behind it; the middle itself goes up, as the greatest significand is odd.
What is no number at all is neither positive nor negative, and a numeral has to name it to read as
one.
-/

namespace SubmissionGate.Binary64

theorem divideEven_cases (n d : Nat) :
    (divideEven n d = n / d ∧ 2 * (n % d) ≤ d) ∨
      (divideEven n d = n / d + 1 ∧ d ≤ 2 * (n % d)) := by
  unfold divideEven
  dsimp only
  split
  · next hUp =>
    simp only [Bool.or_eq_true, decide_eq_true_eq, Bool.and_eq_true, beq_iff_eq] at hUp
    exact .inr ⟨rfl, by omega⟩
  · next hDown =>
    simp only [Bool.or_eq_true, decide_eq_true_eq, not_or] at hDown
    exact .inl ⟨rfl, by omega⟩

theorem divideEven_of_odd {n d : Nat} (hOdd : n / d % 2 = 1) :
    divideEven n d = if d ≤ 2 * (n % d) then n / d + 1 else n / d := by
  unfold divideEven
  dsimp only
  rw [hOdd]
  congr 1
  simp only [beq_self_eq_true, Bool.and_true, Bool.or_eq_true, decide_eq_true_eq, beq_iff_eq,
    eq_iff_iff]
  omega

theorem scaled_int_quotient {n : Nat} (h : n ≠ 0) :
    2 ^ 52 ≤ (scaled n 1 (-((Nat.log2 n : Int) - 52))).1 /
      (scaled n 1 (-((Nat.log2 n : Int) - 52))).2 := by
  have hLow : 2 ^ Nat.log2 n ≤ n := Nat.log2_self_le h
  by_cases hBits : Nat.log2 n ≤ 52
  · have hFraction : scaled n 1 (-((Nat.log2 n : Int) - 52)) = (n * 2 ^ (52 - Nat.log2 n), 1) := by
      have hShift : (0 : Int) ≤ -((Nat.log2 n : Int) - 52) := by omega
      have hTo : (-((Nat.log2 n : Int) - 52)).toNat = 52 - Nat.log2 n := by omega
      simp only [scaled, if_pos hShift, hTo]
      rfl
    rw [hFraction, Nat.div_one]
    calc 2 ^ 52 = 2 ^ Nat.log2 n * 2 ^ (52 - Nat.log2 n) := by
          rw [← pow_add, Nat.add_sub_of_le hBits]
      _ ≤ n * 2 ^ (52 - Nat.log2 n) := Nat.mul_le_mul_right _ hLow
  · have hFraction : scaled n 1 (-((Nat.log2 n : Int) - 52)) = (n, 2 ^ (Nat.log2 n - 52)) := by
      have hShift : ¬(0 : Int) ≤ -((Nat.log2 n : Int) - 52) := by omega
      have hTo : (-(-((Nat.log2 n : Int) - 52))).toNat = Nat.log2 n - 52 := by omega
      simp only [scaled, if_neg hShift, hTo, Nat.one_mul]
      rfl
    rw [hFraction, Nat.le_div_iff_mul_le (Nat.two_pow_pos _), ← pow_add,
      Nat.add_sub_of_le (by omega)]
    exact hLow

def intExponent (n : Nat) : Int :=
  let exponent : Int := (Nat.log2 n : Int) - 52
  let fraction := scaled n 1 (-exponent)
  if divideEven fraction.1 fraction.2 = 2 ^ 53 then exponent + 1 else exponent

/-- An integer with 53 bits more than the half of the last place is carried over just if it would
be without that half. -/
theorem carries_iff {n k : Nat} (hBits : Nat.log2 n = k + 53) :
    divideEven n (2 ^ (k + 1)) = 2 ^ 53 ↔ 2 ^ (k + 54) - 2 ^ k ≤ n := by
  have hPlace : 2 ^ (k + 1) = 2 * 2 ^ k := pow_succ' 2 k
  have hTop : 2 ^ (k + 54) = 2 ^ 54 * 2 ^ k := by rw [Nat.add_comm, pow_add]
  have hHigh : n < 2 ^ (k + 54) := by
    have hLog : n < 2 ^ (Nat.log2 n + 1) := Nat.lt_log2_self
    rwa [hBits] at hLog
  have hPositive : 0 < 2 ^ k := Nat.two_pow_pos k
  rw [hTop] at hHigh
  rw [hTop, hPlace]
  generalize 2 ^ k = half at hHigh hPositive
  have hSplit := Nat.div_add_mod n (2 * half)
  have hRest : n % (2 * half) < 2 * half := Nat.mod_lt _ (by omega)
  have hQuotient : n / (2 * half) < 2 ^ 53 :=
    (Nat.div_lt_iff_lt_mul (by omega)).mpr (by omega)
  by_cases hOnes : n / (2 * half) = 2 ^ 53 - 1
  · have hOdd : n / (2 * half) % 2 = 1 := by
      rw [hOnes]
      decide
    rw [divideEven_of_odd hOdd, hOnes]
    rw [hOnes] at hSplit
    split
    · omega
    · omega
  · have hBelow : n / (2 * half) + 1 ≤ 2 ^ 53 - 1 := by omega
    have hBound := Nat.mul_le_mul_left (2 * half) hBelow
    rw [Nat.mul_succ] at hBound
    obtain ⟨hDown, -⟩ | ⟨hUp, -⟩ := divideEven_cases n (2 * half)
    · omega
    · omega

theorem intExponent_le_iff {n k : Nat} (h : n ≠ 0) :
    intExponent n ≤ k + 1 ↔ n < 2 ^ (k + 54) - 2 ^ k := by
  have hLow : 2 ^ Nat.log2 n ≤ n := Nat.log2_self_le h
  have hHigh : n < 2 ^ (Nat.log2 n + 1) := Nat.lt_log2_self
  have hAbove : 2 ^ (k + 53) ≤ 2 ^ (k + 54) - 2 ^ k := by
    apply Nat.le_sub_of_add_le
    calc 2 ^ (k + 53) + 2 ^ k ≤ 2 ^ (k + 53) + 2 ^ (k + 53) :=
          Nat.add_le_add_left (Nat.pow_le_pow_right (by decide) (Nat.le_add_right k 53)) _
      _ = 2 ^ (k + 54) := by rw [← two_mul, ← pow_succ']
  unfold intExponent
  dsimp only
  obtain hBits | hBits | hBits := Nat.lt_trichotomy (Nat.log2 n) (k + 53)
  · have hSmall : n < 2 ^ (k + 53) :=
      lt_of_lt_of_le hHigh (Nat.pow_le_pow_right (by decide) hBits)
    refine iff_of_true ?_ (lt_of_lt_of_le hSmall hAbove)
    split
    · omega
    · omega
  · have hFraction : scaled n 1 (-((Nat.log2 n : Int) - 52)) = (n, 2 ^ (k + 1)) := by
      have hShift : ¬(0 : Int) ≤ -((Nat.log2 n : Int) - 52) := by omega
      have hTo : (-(-((Nat.log2 n : Int) - 52))).toNat = k + 1 := by omega
      simp only [scaled, if_neg hShift, hTo, Nat.one_mul]
      rfl
    have hCarries := carries_iff hBits
    rw [hFraction]
    split
    · next hOver => exact iff_of_false (by omega) (Nat.not_lt.mpr (hCarries.mp hOver))
    · next hFits => exact iff_of_true (by omega) (Nat.not_le.mp (mt hCarries.mpr hFits))
  · have hLarge : 2 ^ (k + 54) ≤ n := le_trans (Nat.pow_le_pow_right (by decide) hBits) hLow
    refine iff_of_false ?_ (Nat.not_lt.mpr (le_trans (Nat.sub_le _ _) hLarge))
    split
    · omega
    · omega

theorem ofRatio_isFinite_iff {negative : Bool} {n : Nat} (h : n ≠ 0) :
    (ofRatio negative n 1).isFinite = true ↔ intExponent n ≤ greatestExponent := by
  have hOne : ((Nat.log2 n : Int) - (Nat.log2 1 : Nat) - 52) = (Nat.log2 n : Int) - 52 := by
    have hLog : Nat.log2 1 = 0 := by decide
    rw [hLog]
    omega
  have hFits : ¬(scaled n 1 (-((Nat.log2 n : Int) - 52))).1 /
      (scaled n 1 (-((Nat.log2 n : Int) - 52))).2 < 2 ^ 52 :=
    Nat.not_lt.mpr (scaled_int_quotient h)
  have hLeast : max ((Nat.log2 n : Int) - 52) leastExponent = (Nat.log2 n : Int) - 52 := by
    unfold leastExponent
    omega
  unfold ofRatio intExponent
  simp only [beq_iff_eq, h, if_false, hOne, Nat.pow_eq, hFits, hLeast]
  generalize (Nat.log2 n : Int) - 52 = exponent
  split
  · split
    · next hLarge => simpa [isFinite] using hLarge
    · next hSmall => simpa [isFinite] using hSmall
  · split
    · next hLarge => simpa [isFinite] using hLarge
    · next hSmall => simpa [isFinite] using hSmall

def overflow : Nat := 2 ^ 1024 - 2 ^ 970

theorem ofRatio_int_isFinite_iff {negative : Bool} {n : Nat} :
    (ofRatio negative n 1).isFinite = true ↔ n < overflow := by
  have hOverflow : overflow = 2 ^ (970 + 54) - 2 ^ 970 := by decide +kernel
  obtain rfl | hPositive := Nat.eq_zero_or_pos n
  · have hOver : 0 < overflow := by decide +kernel
    simp [ofRatio, isFinite, hOver]
  · have hZero : n ≠ 0 := Nat.ne_of_gt hPositive
    rw [ofRatio_isFinite_iff hZero, hOverflow]
    exact intExponent_le_iff hZero

/-- An integer is rounded to a finite number exactly below the overflow. -/
theorem rounded?_int_eq_none_iff {n : Int} :
    (Number.int n).rounded? = none ↔ overflow ≤ n.natAbs := by
  have hFinite : (ofInt n).isFinite = true ↔ n.natAbs < overflow := ofRatio_int_isFinite_iff
  rw [Number.rounded?, ← Nat.not_lt, ← hFinite]
  simp

/-! ## What is no number -/

theorem zero_less_iff {x : Binary64} :
    zero.less x = true ↔ x ≠ .nan ∧ x.less zero = false ∧ x.same zero = false := by
  cases x with
  | nan => simp [less, zero]
  | infinity negative => simp [less, same, zero]
  | finite negative significand exponent =>
    simp only [less, same, zero, aligned, signed, decide_eq_true_eq, decide_eq_false_iff_not,
      beq_eq_false_iff_ne, ne_eq, reduceCtorEq, not_false_eq_true, true_and]
    rw [min_comm leastExponent exponent]
    simp only [if_false, Nat.cast_zero, Int.zero_mul]
    omega

theorem ofRatio_ne_nan {negative : Bool} {numerator denominator : Nat} :
    ofRatio negative numerator denominator ≠ .nan := by
  unfold ofRatio
  dsimp only
  split_ifs
  all_goals simp

theorem ofDecimal_ne_nan {negative : Bool} {digits : Nat} {power : Int} :
    ofDecimal negative digits power ≠ .nan := by
  unfold ofDecimal
  dsimp only
  split
  · simp
  · split
    · simp
    · split
      · simp
      · split
        · exact ofRatio_ne_nan
        · exact ofRatio_ne_nan

end SubmissionGate.Binary64

namespace SubmissionGate.Numeral

/-- A text that has the name of what is no number, with a sign or without one, between blanks. -/
def NamesNan (text : List Char) : Prop :=
  ∃ chars kept, normalize? text = some chars ∧ withoutUnderscores? chars = some kept ∧
    String.ofList ((splitSign kept).2.map Char.toLower) = "nan"

theorem decimal?_ne_nan {negative : Bool} {text : List Char} :
    decimal? negative text ≠ some .nan := by
  have hTail : ∀ whole fraction rest : List Char,
      (if whole.isEmpty && fraction.isEmpty then none
      else (exponent? rest).bind fun power => some (Binary64.ofDecimal negative
        (ofDigits (whole ++ fraction)) (power - fraction.length))) ≠ some .nan := by
    intro whole fraction rest h
    split at h
    · cases h
    · obtain ⟨power, -, hValue⟩ := Option.bind_eq_some_iff.mp h
      exact Binary64.ofDecimal_ne_nan (Option.some.inj hValue)
  unfold decimal?
  dsimp only
  split
  · exact hTail _ _ _
  · exact hTail _ _ _

theorem real?_eq_nan_iff {text : List Char} : real? text = some .nan ↔ NamesNan text := by
  unfold real? NamesNan
  cases hChars : normalize? text with
  | none => simp
  | some chars =>
    cases hKept : withoutUnderscores? chars with
    | none => simp [hKept]
    | some kept =>
      simp only [Option.bind_eq_bind, Option.bind_some, Option.some.injEq, beq_iff_eq,
        Bool.or_eq_true, exists_eq_left', exists_and_left, hKept]
      split
      · next hInfinite =>
        refine iff_of_false (by simp) ?_
        rintro hNan
        rw [hNan] at hInfinite
        revert hInfinite
        decide
      · split
        · next hNan => exact iff_of_true rfl hNan
        · next hOther => exact iff_of_false decimal?_ne_nan hOther

end SubmissionGate.Numeral
