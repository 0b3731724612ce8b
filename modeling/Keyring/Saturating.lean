namespace Keyring.Saturating

def top : UInt64 := 18446744073709551615

def add (a b : UInt64) : UInt64 :=
  if a.toNat + b.toNat ≤ top.toNat then a + b else top

def mul (a b : UInt64) : UInt64 :=
  if a.toNat * b.toNat ≤ top.toNat then a * b else top

theorem toNat_top : top.toNat = 18446744073709551615 := rfl

theorem toNat_add (a b : UInt64) : (add a b).toNat = min (a.toNat + b.toNat) top.toNat := by
  unfold add
  split
  · rename_i h
    rw [UInt64.toNat_add, Nat.mod_eq_of_lt (by rw [toNat_top] at h; omega)]
    omega
  · omega

theorem toNat_mul (a b : UInt64) : (mul a b).toNat = min (a.toNat * b.toNat) top.toNat := by
  unfold mul
  split
  · rename_i h
    rw [UInt64.toNat_mul, Nat.mod_eq_of_lt (by rw [toNat_top] at h; omega)]
    omega
  · omega

theorem toNat_min (a b : UInt64) : (min a b).toNat = min a.toNat b.toNat := by
  change (if a ≤ b then a else b).toNat = _
  split
  · rename_i h
    have := UInt64.le_iff_toNat_le.1 h
    omega
  · rename_i h
    have : ¬ a.toNat ≤ b.toNat := fun e => h (UInt64.le_iff_toNat_le.2 e)
    omega

end Keyring.Saturating
