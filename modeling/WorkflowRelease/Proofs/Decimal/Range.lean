import Mathlib.Algebra.Group.Nat.Defs
import WorkflowRelease.Decimal.Binary64

/-!
# The range of doubles

Which integers have a finite double. Half of the distance between two doubles above the greatest one
lies the first integer that is rounded to infinity; the half itself goes up, as the greatest double
has an odd pattern. Main statements: `nearestEven_lt_iff` and `isFinite_ofInt_iff`.
-/

namespace WorkflowRelease

/-- A quotient is rounded down or up, to the nearer side; a half goes to the even one. -/
theorem nearestEven_cases (num den : Nat) :
    (nearestEven num den = num / den ∧ 2 * (num % den) ≤ den ∧
      (2 * (num % den) = den → num / den % 2 = 0)) ∨
    (nearestEven num den = num / den + 1 ∧ den ≤ 2 * (num % den) ∧
      (2 * (num % den) = den → num / den % 2 = 1)) := by
  simp only [nearestEven]
  split
  · exact .inl ⟨rfl, by omega, by omega⟩
  · split
    · exact .inr ⟨rfl, by omega, by omega⟩
    · split
      · exact .inl ⟨rfl, by omega, by omega⟩
      · exact .inr ⟨rfl, by omega, by omega⟩

/-- A quotient is rounded to less than an even number iff it is less by more than a half. -/
theorem nearestEven_lt_iff {num den c : Nat} (hd : 0 < den) (hc : c % 2 = 0) :
    nearestEven num den < c ↔ 2 * num + den < 2 * (c * den) := by
  have hdiv : num / den * den + num % den = num := Nat.div_add_mod' num den
  have hmod := Nat.mod_lt num hd
  have hcases := nearestEven_cases num den
  rcases Nat.lt_trichotomy (num / den + 1) c with hlt | rfl | hgt
  · have hmul := Nat.mul_le_mul_right den hlt
    rw [Nat.succ_mul, Nat.succ_mul] at hmul
    omega
  · have hmul : (num / den + 1) * den = num / den * den + den := Nat.succ_mul _ _
    omega
  · have hmul := Nat.mul_le_mul_right den (Nat.le_of_lt_succ hgt)
    omega

namespace Binary64

/-- The least number that is rounded to infinity. -/
def overflowBound : Nat := Nat.pow 2 1024 - Nat.pow 2 970

theorem pattern_ofPattern (negative : Bool) {p : Nat} (h : p < signBit) :
    (ofPattern negative p).pattern = p := by
  have hsize : (if negative then signBit + p else p) < 2 ^ 64 := by
    unfold signBit at *
    split <;> omega
  rw [pattern, ofPattern, UInt64.toNat_ofNat', Nat.mod_eq_of_lt hsize]
  split
  · rw [Nat.add_mod_left, Nat.mod_eq_of_lt h]
  · exact Nat.mod_eq_of_lt h

theorem isFinite_ofUnits {z : Int} :
    (ofUnits z).isFinite = true ↔ patternOf z.natAbs 1 < infinityPattern := by
  have hle : patternOf z.natAbs 1 ≤ infinityPattern := Nat.min_le_right _ _
  have hlt : patternOf z.natAbs 1 < signBit := Nat.lt_of_le_of_lt hle (by decide)
  rw [isFinite, ofUnits, pattern_ofPattern _ hlt, decide_eq_true_eq]

theorem binade_mul_pow (e : Nat) : binade * 2 ^ e = 2 ^ (52 + e) := (Nat.pow_add 2 52 e).symm

theorem binade_pos : 0 < binade := by decide

/-- How many digits behind are cut so that 53 binary digits are left at most. -/
def cut (m : Nat) : Nat := m.log2 - 52

theorem div_cut_lt (m : Nat) : m / 2 ^ cut m < 2 * binade := by
  have hle : 2 ^ (m.log2 + 1) ≤ 2 ^ (53 + cut m) :=
    Nat.pow_le_pow_right (by decide) (by unfold cut; omega)
  rw [Nat.pow_add 2 53] at hle
  exact (Nat.div_lt_iff_lt_mul (Nat.two_pow_pos _)).2 (Nat.lt_of_lt_of_le Nat.lt_log2_self hle)

theorem binade_le_div_cut {m : Nat} (hm : binade ≤ m) : binade ≤ m / 2 ^ cut m := by
  have hne : m ≠ 0 := Nat.ne_of_gt (Nat.lt_of_lt_of_le binade_pos hm)
  have hlog : 52 ≤ m.log2 := (Nat.le_log2 hne).2 hm
  rw [Nat.le_div_iff_mul_le (Nat.two_pow_pos _), binade_mul_pow, cut, Nat.add_sub_cancel' hlog]
  exact Nat.log2_self_le hne

theorem cut_lt_iff {e m : Nat} (he : 0 < e) : cut m < e ↔ m < binade * 2 ^ e := by
  rw [binade_mul_pow]
  rcases Nat.eq_zero_or_pos m with rfl | hm
  · exact iff_of_true he (Nat.two_pow_pos _)
  · rw [← Nat.log2_lt (Nat.ne_of_gt hm), cut]
    omega

/-- The distance between neighbours where this many digits behind are cut, in units. -/
def spacing (e : Nat) : Nat := Nat.pow 2 e

/-- Before it is bounded, the pattern of a number stays below an exponent iff the number is below
the first one of that exponent by more than half a distance. -/
theorem pattern_lt_iff {e : Nat} (he : 0 < e) (m : Nat) :
    cut m * binade + nearestEven m (2 ^ cut m) < (e + 2) * binade ↔
      2 * m + spacing e < 4 * (binade * spacing e) := by
  rw [spacing, Nat.pow_eq]
  have hbinade := binade_pos
  have hpos := Nat.two_pow_pos e
  have hunit : 2 ^ e ≤ binade * 2 ^ e := Nat.le_mul_of_pos_left _ binade_pos
  have hnearest := nearestEven_eq_or m (2 ^ cut m)
  have hsum : (e + 2) * binade = e * binade + 2 * binade := Nat.add_mul _ _ _
  rcases Nat.lt_trichotomy (cut m) e with hlt | heq | hgt
  · have hm := (cut_lt_iff he).1 hlt
    have hmul := Nat.mul_le_mul_right binade (Nat.succ_le_of_lt hlt)
    rw [Nat.succ_mul] at hmul
    have hdiv := div_cut_lt m
    omega
  · have hround : nearestEven m (2 ^ e) < 2 * binade ↔
        2 * m + 2 ^ e < 2 * (2 * binade * 2 ^ e) := nearestEven_lt_iff hpos (by decide)
    rw [Nat.mul_assoc] at hround
    rw [heq]
    omega
  · have hm : ¬ m < binade * 2 ^ (e + 1) := by
      rw [← cut_lt_iff (Nat.succ_pos e)]
      omega
    rw [Nat.pow_succ, ← Nat.mul_assoc] at hm
    have hmul := Nat.mul_le_mul_right binade (Nat.succ_le_of_lt hgt)
    rw [Nat.succ_mul] at hmul
    have hle : binade ≤ binade * 2 ^ e := Nat.le_mul_of_pos_right _ hpos
    have hdiv := binade_le_div_cut (m := m) (by omega)
    omega

theorem patternOf_lt_iff (m : Nat) : patternOf m 1 < infinityPattern ↔
    2 * m + spacing 2045 < 4 * (binade * spacing 2045) := by
  have hpattern : patternOf m 1 =
      min (cut m * binade + nearestEven m (2 ^ cut m)) ((2045 + 2) * binade) := by
    rw [patternOf, Nat.div_one, Nat.one_mul]
    rfl
  have hmin : ∀ a b : Nat, min a b < b ↔ a < b := by omega
  rw [hpattern, ← pattern_lt_iff (by decide)]
  exact hmin _ _

/-- **Integers have a finite double** below the bound, and only there. -/
theorem isFinite_ofInt_iff (n : Int) :
    (ofInt n).isFinite = true ↔ n.natAbs < overflowBound := by
  have hunits : (n * unit : Int).natAbs = n.natAbs * unit := by
    rw [Int.natAbs_mul, Int.natAbs_natCast]
  obtain ⟨half, hspacing, hbound⟩ : ∃ half, spacing 2045 = 2 * half * unit ∧
      overflowBound = 4 * (binade * half) - half :=
    ⟨Nat.pow 2 970, by decide +kernel, by decide +kernel⟩
  rw [ofInt, isFinite_ofUnits, patternOf_lt_iff, hunits, hspacing, hbound]
  have hscale : 4 * (binade * (2 * half * unit)) = 2 * (4 * (binade * half) * unit) := by
    simp only [Nat.mul_assoc, Nat.mul_left_comm]
  have hmul : n.natAbs * unit + half * unit < 4 * (binade * half) * unit ↔
      n.natAbs + half < 4 * (binade * half) := by
    rw [← Nat.add_mul, Nat.mul_lt_mul_right unit_pos]
  rw [hscale, Nat.mul_assoc 2 half]
  omega

end Binary64

end WorkflowRelease
