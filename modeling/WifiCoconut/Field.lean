import Mathlib.Data.BitVec

/-!
# Register fields

`struct rt2x00_field8/16/32` names a field of a register word by its mask and the offset of
its lowest bit (`FIELD16(mask)` takes `__ffs(mask)`). The getters and setters of rt2x00.h
are one definition over the word width. A field carries the fact that its mask has no bit
below its offset, and from it the four laws every later proof uses: writing a field back
changes nothing, the last write of a field wins, a write is read back through the field,
and a write leaves a disjoint field alone.
-/

namespace WifiCoconut

/-- `struct rt2x00_field{8,16,32}`. -/
structure Rt2x00Field (w : Nat) where
  bitMask : BitVec w
  bitOffset : Nat
  aligned : ∀ i, i < bitOffset → bitMask.getLsbD i = false

namespace Rt2x00Field

variable {w : Nat}

/-- `rt2x00_get_field{8,16,32}`: `(reg & mask) >> offset`. -/
def get (f : Rt2x00Field w) (reg : BitVec w) : BitVec w := (reg &&& f.bitMask) >>> f.bitOffset

/-- `rt2x00_set_field{8,16,32}`: clear the mask, then or in `(value << offset) & mask`. -/
def set (f : Rt2x00Field w) (reg value : BitVec w) : BitVec w :=
  (reg &&& ~~~f.bitMask) ||| ((value <<< f.bitOffset) &&& f.bitMask)

/-- Two fields of one register that share no bit. -/
def Disjoint (f g : Rt2x00Field w) : Prop := f.bitMask &&& g.bitMask = 0

instance (f g : Rt2x00Field w) : Decidable (f.Disjoint g) :=
  inferInstanceAs (Decidable (_ = _))

variable (f g : Rt2x00Field w) (reg a b : BitVec w)

theorem getLsbD_set (i : Nat) : (f.set reg a).getLsbD i =
    if f.bitMask.getLsbD i then a.getLsbD (i - f.bitOffset) else reg.getLsbD i := by
  by_cases hi : i < w
  · by_cases hm : f.bitMask.getLsbD i
    · have ho : ¬ i < f.bitOffset := fun h => by simp [f.aligned i h] at hm
      simp [set, hm, hi, ho]
    · simp [set, hm, hi]
  · simp [set, BitVec.getLsbD_ge _ _ (Nat.le_of_not_lt hi)]

theorem getLsbD_get (i : Nat) :
    (f.get reg).getLsbD i =
      (reg.getLsbD (f.bitOffset + i) && f.bitMask.getLsbD (f.bitOffset + i)) := by
  simp [get]

@[simp] theorem set_set : f.set (f.set reg a) b = f.set reg b := by
  ext i
  simp only [getLsbD_set]
  split <;> rfl

/-- A field reads back what was written into it, cut to the field. -/
@[simp] theorem get_set : f.get (f.set reg a) = f.get (a <<< f.bitOffset) := by
  ext i
  simp only [getLsbD_get, getLsbD_set]
  split
  · next hm =>
    have hw : f.bitOffset + i < w := by
      by_contra h; simp [BitVec.getLsbD_ge _ _ (Nat.le_of_not_lt h)] at hm
    simp [hm, hw]
  · next hm => simp [hm]

theorem get_set_of_disjoint (h : f.Disjoint g) : g.get (f.set reg a) = g.get reg := by
  ext i
  have hd := congrArg (fun x => x.getLsbD (g.bitOffset + i)) h
  simp only [BitVec.getLsbD_and, BitVec.getLsbD_zero] at hd
  simp only [getLsbD_get, getLsbD_set]
  split
  · next hm => simp [hm] at hd; simp [hd]
  · rfl

theorem set_comm_of_disjoint (h : f.Disjoint g) :
    f.set (g.set reg b) a = g.set (f.set reg a) b := by
  ext i
  have hd := congrArg (fun x => x.getLsbD i) h
  simp only [BitVec.getLsbD_and, BitVec.getLsbD_zero] at hd
  simp only [getLsbD_set]
  by_cases hf : f.bitMask.getLsbD i <;> by_cases hg : g.bitMask.getLsbD i <;> simp_all

theorem Disjoint.symm {f g : Rt2x00Field w} (h : f.Disjoint g) : g.Disjoint f := by
  unfold Disjoint at *; rw [BitVec.and_comm]; exact h

theorem set_and_of_disjoint (m : BitVec w) (h : f.bitMask &&& m = 0) :
    f.set reg a &&& m = reg &&& m := by
  ext i
  have hd := congrArg (fun x => x.getLsbD i) h
  simp only [BitVec.getLsbD_and, BitVec.getLsbD_zero] at hd
  simp only [BitVec.getLsbD_and, getLsbD_set]
  split <;> simp_all

@[simp] theorem get_zero : f.get 0#w = 0#w := by simp [get]

theorem get_shiftLeft_of_width {n : Nat}
    (hm : f.bitMask = BitVec.ofNat w (2 ^ n - 1) <<< f.bitOffset) (ho : f.bitOffset + n ≤ w)
    (x : BitVec w) (hx : x.toNat < 2 ^ n) : f.get (x <<< f.bitOffset) = x := by
  ext i
  have hlo : ¬f.bitOffset + i < f.bitOffset := by omega
  simp only [getLsbD_get, hm, BitVec.getLsbD_shiftLeft, Nat.add_sub_cancel_left,
    BitVec.getLsbD_ofNat, Nat.testBit_two_pow_sub_one, hlo, decide_False, Bool.not_false,
    Bool.and_true]
  by_cases hi : (i : Nat) < n
  · simp [hi, show f.bitOffset + i < w by omega]
  · have hxi : x.getLsbD i = false := Nat.testBit_lt_two_pow
      (lt_of_lt_of_le hx (Nat.pow_le_pow_right (by decide) (by omega)))
    simp [hxi, hi]

/-- The one-bit field `FIELD32(1 << k)`. -/
def bit (k : Nat) : Rt2x00Field 32 :=
  ⟨1#32 <<< k, k, fun i hi => by simp [BitVec.getLsbD_shiftLeft, hi]⟩

/-- Setting a one-bit field changes that bit alone, to the low bit of the value. -/
theorem getLsbD_set_bit {k : Nat} (hk : k < 32) (reg v : BitVec 32) (j : Nat) :
    ((bit k).set reg v).getLsbD j = if j = k then v.getLsbD 0 else reg.getLsbD j := by
  rw [getLsbD_set]
  by_cases hj : j = k
  · subst hj; simp [bit, hk]
  · have hm : (1#32 <<< k).getLsbD j = false := by
      simp only [BitVec.getLsbD_shiftLeft, BitVec.getLsbD_one]
      simp; omega
    simp [bit, hj, hm]

end Rt2x00Field

@[simp] def rt2x00GetField16 (reg : BitVec 16) (field : Rt2x00Field 16) : BitVec 16 := field.get reg

@[simp] def rt2x00SetField16 (reg : BitVec 16) (field : Rt2x00Field 16) (value : BitVec 16) :
    BitVec 16 := field.set reg value

@[simp] def rt2x00GetField32 (reg : BitVec 32) (field : Rt2x00Field 32) : BitVec 32 := field.get reg

@[simp] def rt2x00SetField32 (reg : BitVec 32) (field : Rt2x00Field 32) (value : BitVec 32) :
    BitVec 32 := field.set reg value

end WifiCoconut
