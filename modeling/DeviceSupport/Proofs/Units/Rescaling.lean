import Mathlib.Algebra.Group.Nat.Defs

/-! Numbers counted in one unit and in another.

To count a number anew, it is multiplied by one factor and divided by another, and the remainder is
dropped (`rescale`). On the way there and back two remainders are dropped, and nothing else is lost
(`rescale_lost`). So the old number returns exactly when the first division leaves nothing
(`rescale_back_iff`), and the loss is bounded through the common divisor of the factors, which
divides both remainders (`rescale_lost_le`). -/
namespace DeviceSupport
set_option autoImplicit false

/-- A number scaled up by one factor and down by another, rounded down. -/
def rescale (up down v : Nat) : Nat := v * up / down

section
variable {up down v w : Nat}

theorem rescale_eq_self (hup : 0 < up) (h : v = 0 ∨ up = down) : rescale up down v = v := by
  rcases h with rfl | rfl
  · rw [rescale, Nat.zero_mul, Nat.zero_div]
  · exact Nat.mul_div_cancel v hup

theorem rescale_mono (up down : Nat) (h : v ≤ w) : rescale up down v ≤ rescale up down w :=
  Nat.div_le_div_right (Nat.mul_le_mul_right up h)

theorem rescale_le (h : up ≤ down) (v : Nat) : rescale up down v ≤ v :=
  Nat.div_le_of_le_mul (by rw [Nat.mul_comm down]; exact Nat.mul_le_mul_left v h)

theorem rescale_add_mod (up down v : Nat) : rescale up down v * down + v * up % down = v * up :=
  Nat.div_add_mod' (v * up) down

/-! ## There and back -/

/-- What is lost on the way there and back is the two remainders. -/
theorem rescale_lost (up down v : Nat) :
    v * up = rescale down up (rescale up down v) * up +
      (v * up % down + rescale up down v * down % up) := by
  have hthere := rescale_add_mod up down v
  have hback := rescale_add_mod down up (rescale up down v)
  omega

theorem rescale_back_le (h : 0 < up) (down v : Nat) :
    rescale down up (rescale up down v) ≤ v := by
  have hlost := rescale_lost up down v
  exact Nat.le_of_mul_le_mul_right (by omega) h

theorem rescale_back_iff (h : 0 < up) (down v : Nat) :
    rescale down up (rescale up down v) = v ↔ down ∣ v * up := by
  have hlost := rescale_lost up down v
  rw [Nat.dvd_iff_mod_eq_zero]
  constructor
  · intro hback
    rw [hback] at hlost
    omega
  · intro hwhole
    have hthere := rescale_add_mod up down v
    rw [hwhole, Nat.add_zero] at hthere
    rw [rescale, hthere, Nat.mul_div_cancel v h]

/-- Among multiples of `d`, a remainder stays a whole `d` below what it is taken by. -/
theorem mod_add_le {d : Nat} (hv : d ∣ v) (hdown : d ∣ down) (h : 0 < down) :
    v % down + d ≤ down := by
  obtain ⟨m, hm⟩ := (Nat.dvd_mod_iff hdown).mpr hv
  obtain ⟨n, rfl⟩ := hdown
  have hlt := Nat.mod_lt v h
  rw [hm] at hlt ⊢
  calc d * m + d = d * (m + 1) := (Nat.mul_succ d m).symm
    _ ≤ d * n := Nat.mul_le_mul_left d (Nat.lt_of_mul_lt_mul_left hlt)

theorem rescale_lost_le (hup : 0 < up) (hdown : 0 < down) (v : Nat) :
    (v - rescale down up (rescale up down v)) * up + 2 * Nat.gcd up down ≤ up + down := by
  have hlost := rescale_lost up down v
  have hthere := mod_add_le (Nat.dvd_mul_left_of_dvd (Nat.gcd_dvd_left up down) v)
    (Nat.gcd_dvd_right up down) hdown
  have hback := mod_add_le
    (Nat.dvd_mul_left_of_dvd (Nat.gcd_dvd_right up down) (rescale up down v))
    (Nat.gcd_dvd_left up down) hup
  rw [Nat.sub_mul]
  omega

/-- Counted in steps of `k` and back, a number loses what is left over from whole steps. -/
theorem rescale_back_of_mul (h : 0 < up) (k v : Nat) :
    rescale (up * k) up (rescale up (up * k) v) = v - v % k := by
  have hthere : rescale up (up * k) v = v / k := by
    rw [rescale, Nat.mul_comm v, Nat.mul_div_mul_left v k h]
  have hparts := Nat.div_add_mod' v k
  rw [hthere, rescale, Nat.mul_comm up k, ← Nat.mul_assoc, Nat.mul_div_cancel _ h]
  omega

end

/-! ## Words of 64 bits -/

/-- The number, if an unsigned word of 64 bits holds it. -/
def word64? (x : Nat) : Option Nat := if x < 2 ^ 64 then some x else none

/-- `rescale` in unsigned words of 64 bits, step by step; none when a number on the way does not
fit. -/
def rescale64? (up down v : Nat) : Option Nat := do
  let scaled ← word64? (v * up)
  word64? (scaled / down)

/-- A word of 32 bits leaves room for a factor of 32 bits. -/
theorem rescale64?_eq (v : UInt32) {up : Nat} (h : up ≤ 2 ^ 32) (down : Nat) :
    rescale64? up down v.toNat = some (rescale up down v.toNat) := by
  have hv : v.toNat < 2 ^ 32 := v.toNat_lt
  have hproduct : v.toNat * up ≤ v.toNat * 2 ^ 32 := Nat.mul_le_mul_left _ h
  have hdiv := Nat.div_le_self (v.toNat * up) down
  have hscaled : word64? (v.toNat * up) = some (v.toNat * up) := if_pos (by omega)
  have hquotient : word64? (v.toNat * up / down) = some (v.toNat * up / down) := if_pos (by omega)
  rw [rescale64?, hscaled, Option.bind_eq_bind, Option.bind_some, hquotient, rescale]

end DeviceSupport
