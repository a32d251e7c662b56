import Mathlib.Algebra.Order.Ring.Int
import Mathlib.Tactic.Linarith

/-!
# Signed machine integers

A signed integer of `w` bits represents the numbers from `-2 ^ (w - 1)` to
`2 ^ (w - 1) - 1`. An operation whose exact result is not among them leaves the one that
differs from it by a multiple of `2 ^ w`. As long as the exact results are representable,
machine arithmetic is arithmetic.

Doubling up to a limit, `c = min(c * 2, limit)`, multiplies before it compares. So it is
exact for ever only if twice the limit is representable: the value reaches the limit, and
is doubled there.
-/

namespace CppComponents.SignedInt

variable {w : Nat} {m n : Int}

/-- `n` is representable in `w` bits. -/
def Fits (w : Nat) (n : Int) : Prop := -2 ^ (w - 1) ≤ n ∧ n < 2 ^ (w - 1)

instance : Decidable (Fits w n) := inferInstanceAs (Decidable (_ ∧ _))

/-- What `w` bits keep of `n`. -/
def wrap (w : Nat) (n : Int) : Int := n.bmod (2 ^ w)

theorem wrap_of_fits (hw : 0 < w) (h : Fits w n) : wrap w n = n := by
  obtain ⟨hlow, hhigh⟩ := h
  have hpow : (2 : Int) ^ w = 2 ^ (w - 1) * 2 := by
    rw [← pow_succ, Nat.sub_add_cancel hw]
  refine Int.bmod_eq_of_le_mul_two ?_ ?_
  · rw [Nat.cast_pow, Nat.cast_ofNat, hpow]
    omega
  · rw [Nat.cast_pow, Nat.cast_ofNat, hpow]
    omega

/-- What is between zero and a representable number is representable. -/
theorem Fits.of_le (h : Fits w n) (hm : 0 ≤ m) (hle : m ≤ n) : Fits w m := by
  have hpow : (0 : Int) ≤ 2 ^ (w - 1) := by positivity
  exact ⟨by omega, hle.trans_lt h.2⟩

/-! ## Doubling up to a limit -/

/-- `min(c * 2, limit)` -/
def double (w : Nat) (limit c : Int) : Int := min (wrap w (c * 2)) limit

/-- `c`, doubled `k` times. -/
def doubled (w : Nat) (limit c : Int) : Nat → Int
  | 0 => c
  | k + 1 => double w limit (doubled w limit c k)

variable {limit c : Int}

/-- Doubling below a positive limit. -/
theorem min_double {a limit : Int} (hlimit : 0 < limit) :
    min (min a limit * 2) limit = min (a * 2) limit := by
  omega

theorem double_of_fits (hw : 0 < w) (h : Fits w (c * 2)) :
    double w limit c = min (c * 2) limit := by
  rw [double, wrap_of_fits hw h]

/-- While every product is representable, the value is doubled exactly. -/
theorem doubled_eq (hw : 0 < w) (hlimit : 0 < limit)
    (hfits : ∀ k, Fits w (doubled w limit c k * 2)) (k : Nat) :
    doubled w limit c (k + 1) = min (c * 2 ^ (k + 1)) limit := by
  have hnext : ∀ k, doubled w limit c (k + 1) = min (doubled w limit c k * 2) limit :=
    fun k => double_of_fits hw (hfits k)
  induction k with
  | zero => rw [hnext, pow_one]; rfl
  | succ k ih => rw [hnext, ih, min_double hlimit, pow_succ _ (k + 1), mul_assoc]

/-- **Doubling is exact for ever** if and only if twice the first value and twice the limit
are representable. -/
theorem doubled_fits_iff (hw : 0 < w) (hc : 0 < c) (hlimit : 0 < limit) :
    (∀ k, Fits w (doubled w limit c k * 2) ∧ 0 < doubled w limit c k) ↔
      Fits w (c * 2) ∧ Fits w (limit * 2) := by
  constructor
  · intro h
    have hfits : ∀ k, Fits w (doubled w limit c k * 2) := fun k => (h k).1
    refine ⟨hfits 0, ?_⟩
    -- by then the value has reached the limit
    obtain ⟨k, hk⟩ : ∃ k : Nat, limit ≤ c * 2 ^ (k + 1) := by
      refine ⟨limit.toNat, ?_⟩
      have hlarge : limit.toNat < 2 ^ (limit.toNat + 1) :=
        Nat.lt_two_pow_self.trans (Nat.pow_lt_pow_right (by omega) (Nat.lt_succ_self _))
      have hlarge : limit < (2 : Int) ^ (limit.toNat + 1) := by
        have hcast : ((limit.toNat : Nat) : Int) < ((2 ^ (limit.toNat + 1) : Nat) : Int) := by
          exact_mod_cast hlarge
        rw [Int.toNat_of_nonneg hlimit.le] at hcast
        simpa using hcast
      nlinarith
    have hreached : doubled w limit c (k + 1) = limit := by
      rw [doubled_eq hw hlimit hfits k]
      exact min_eq_right hk
    rw [← hreached]
    exact hfits (k + 1)
  · rintro ⟨hfirst, hlast⟩ k
    induction k with
    | zero => exact ⟨hfirst, hc⟩
    | succ k ih =>
      obtain ⟨hfits, hpos⟩ := ih
      have hnext : doubled w limit c (k + 1) = min (doubled w limit c k * 2) limit :=
        double_of_fits hw hfits
      have hpos' : 0 < doubled w limit c (k + 1) := by omega
      exact ⟨hlast.of_le (by omega) (by omega), hpos'⟩

end CppComponents.SignedInt
