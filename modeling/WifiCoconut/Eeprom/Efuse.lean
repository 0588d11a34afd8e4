import WifiCoconut.Eeprom.Map
import Mathlib.Algebra.Group.Nat.Basic
import Mathlib.Tactic.FinCases

/-!
# The EEPROM image from the efuse

`rt2800_read_eeprom_efuse` fills the EEPROM image eight words at a time: `rt2800_efuse_read`
kicks a read of word `i` in `EFUSE_CTRL`, waits on the kick bit (ignoring the outcome), and
copies the four data registers, which hold the kicked block, with 32-bit stores of
`cpu_to_le32(reg)`. The host's byte order, the layout of `EFUSE_CTRL` and `EEPROM_SIZE` are
parameters. Each word of a block that starts below `EEPROM_SIZE / 2` is the half of the data
register the image layout puts there, on either host, and every other word is as before
(`rt2800ReadEepromEfuse_word`).
-/

namespace WifiCoconut

/-! ## Bytes in memory -/

def byteOf (x : BitVec 32) (k : Nat) : BitVec 8 := x.extractLsb' (8 * k) 8

/-- Modelled from the spec: `cpu_to_le32` of the kernel headers, the identity on a
little-endian host and the byte swap on a big-endian one. -/
def cpuToLe32 (bigEndian : Bool) (x : BitVec 32) : BitVec 32 :=
  if bigEndian then byteOf x 0 ++ byteOf x 1 ++ byteOf x 2 ++ byteOf x 3 else x

def le16ToCpu (bigEndian : Bool) (x : BitVec 16) : BitVec 16 :=
  if bigEndian then x.extractLsb' 0 8 ++ x.extractLsb' 8 8 else x

/-- A `uint32_t` store at byte address `a`: a little-endian host writes the bytes of `x`
least significant first, a big-endian host most significant first. -/
def storeU32 (bigEndian : Bool) (m : Nat → BitVec 8) (a : Nat) (x : BitVec 32) :
    Nat → BitVec 8 :=
  fun b => if a ≤ b ∧ b < a + 4 then byteOf x (if bigEndian then 3 - (b - a) else b - a)
    else m b

def loadU16 (bigEndian : Bool) (m : Nat → BitVec 8) (a : Nat) : BitVec 16 :=
  if bigEndian then m a ++ m (a + 1) else m (a + 1) ++ m a

abbrev EepromMem := Nat → BitVec 8

/-- `rt2x00_eeprom_read`: `le16_to_cpu(eeprom[word])`. The words it returns are the image
`Eeprom` that `rt2800_eeprom_read` reads. -/
def rt2x00EepromRead (bigEndian : Bool) (m : EepromMem) (word : Nat) : BitVec 16 :=
  le16ToCpu bigEndian (loadU16 bigEndian m (2 * word))

@[simp] theorem le16ToCpu_false (x : BitVec 16) : le16ToCpu false x = x := rfl

/-! ## The efuse read -/

structure EfuseCtrlCfg where
  addressIn : Rt2x00Field 32
  mode : Rt2x00Field 32
  kick : Rt2x00Field 32
  disjoint : [addressIn, mode, kick].Pairwise Rt2x00Field.Disjoint

/-- The control word `rt2800_efuse_read` writes: `EFUSE_CTRL` as read, with the address `i`,
mode 0 (read) and the kick bit. -/
def EfuseCtrlCfg.request (f : EfuseCtrlCfg) (reg : BitVec 32) (i : Nat) : BitVec 32 :=
  f.kick.set (f.mode.set (f.addressIn.set reg (BitVec.ofNat 32 i)) 0) 1

/-- The address field is `k` contiguous bits at its offset, enough for every word index
below `n`. -/
structure EfuseCtrlCfg.Holds (f : EfuseCtrlCfg) (k n : Nat) : Prop where
  mask : f.addressIn.bitMask = BitVec.ofNat 32 (2 ^ k - 1) <<< f.addressIn.bitOffset
  fits : f.addressIn.bitOffset + k ≤ 32
  wide : n ≤ 2 ^ k

def efuseCtrlLayout : EfuseCtrlCfg where
  addressIn := ⟨0x03fe0000, 17, by decide⟩
  mode := ⟨0x000000c0, 6, by decide⟩
  kick := ⟨0x40000000, 30, by decide⟩
  disjoint := by decide

def rt2800EfuseDetect (present : Rt2x00Field 32) (reg : BitVec 32) : BitVec 32 :=
  present.get reg

section Read

variable (f : EfuseCtrlCfg) (efuse : Nat → Nat → BitVec 32) (ctrl : Nat → BitVec 32)
  (bigEndian : Bool)

/-- `rt2800_efuse_read` at word index `i`. `ctrl i` is what `EFUSE_CTRL` reads before the
read; modelled from the spec, `efuse a k` is what `EFUSE_DATAk` holds once the controller
has carried out a read kicked with address `a` in the address field. The data registers are
copied whatever the wait on the kick bit answered. -/
def rt2800EfuseRead (m : EepromMem) (i : Nat) : EepromMem :=
  let reg := f.request (ctrl i) i
  let data := efuse (f.addressIn.get reg).toNat
  let m := storeU32 bigEndian m (2 * i) (cpuToLe32 bigEndian (data 3))
  let m := storeU32 bigEndian m (2 * (i + 2)) (cpuToLe32 bigEndian (data 2))
  let m := storeU32 bigEndian m (2 * (i + 4)) (cpuToLe32 bigEndian (data 1))
  storeU32 bigEndian m (2 * (i + 6)) (cpuToLe32 bigEndian (data 0))

def readEepromEfuseLoop (n i : Nat) (m : EepromMem) : EepromMem :=
  if i < n then readEepromEfuseLoop n (i + 8) (rt2800EfuseRead f efuse ctrl bigEndian m i)
  else m
termination_by n - i

/-- `rt2800_read_eeprom_efuse`: `for (i = 0; i < EEPROM_SIZE / sizeof(uint16_t); i += 8)`. -/
def rt2800ReadEepromEfuse (eepromSize : Nat) (m : EepromMem) : EepromMem :=
  readEepromEfuseLoop f efuse ctrl bigEndian (eepromSize / 2) 0 m

end Read

/-! ## A store read back -/

section Bytes

theorem byteOf_one_append_byteOf_zero (x : BitVec 32) :
    byteOf x 1 ++ byteOf x 0 = x.extractLsb' 0 16 := by
  ext j
  simp only [byteOf, BitVec.getLsbD_append, BitVec.getLsbD_extractLsb']
  fin_cases j <;> rfl

theorem byteOf_three_append_byteOf_two (x : BitVec 32) :
    byteOf x 3 ++ byteOf x 2 = x.extractLsb' 16 16 := by
  ext j
  simp only [byteOf, BitVec.getLsbD_append, BitVec.getLsbD_extractLsb']
  fin_cases j <;> rfl

theorem byteOf_cpuToLe32_true (x : BitVec 32) {k : Nat} (hk : k < 4) :
    byteOf (cpuToLe32 true x) k = byteOf x (3 - k) := by
  ext j
  simp only [cpuToLe32, if_true, byteOf, BitVec.getLsbD_append, BitVec.getLsbD_extractLsb']
  obtain _ | _ | _ | _ | k := k
  all_goals first | omega | (fin_cases j <;> rfl)

theorem le16ToCpu_true_append (a b : BitVec 8) : le16ToCpu true (a ++ b) = b ++ a := by
  have hlo : (a ++ b).extractLsb' 0 8 = b := by
    ext j; simp only [BitVec.getLsbD_extractLsb', BitVec.getLsbD_append]; fin_cases j <;> rfl
  have hhi : (a ++ b).extractLsb' 8 8 = a := by
    ext j; simp only [BitVec.getLsbD_extractLsb', BitVec.getLsbD_append]; fin_cases j <;> rfl
  simp only [le16ToCpu, if_true, hlo, hhi]

theorem storeU32_cpuToLe32 (bigEndian : Bool) (m : Nat → BitVec 8) (a : Nat) (x : BitVec 32)
    {d : Nat} (hd : d < 4) :
    storeU32 bigEndian m a (cpuToLe32 bigEndian x) (a + d) = byteOf x d := by
  have hin : a ≤ a + d ∧ a + d < a + 4 := by omega
  cases bigEndian
  · simp [storeU32, cpuToLe32, hin]
  · simp only [storeU32, hin, and_self, if_true, Nat.add_sub_cancel_left]
    rw [byteOf_cpuToLe32_true x (by omega), Nat.sub_sub_self (by omega)]

theorem storeU32_of_not_mem (bigEndian : Bool) (m : Nat → BitVec 8) (a : Nat) (x : BitVec 32)
    {b : Nat} (hb : ¬(a ≤ b ∧ b < a + 4)) : storeU32 bigEndian m a x b = m b := by
  simp [storeU32, hb]

/-- A 32-bit store of `cpu_to_le32(x)` at word `i` reads back through `rt2x00_eeprom_read` as
the low half of `x` at word `i` and the high half at word `i + 1`, on either host, and
leaves every other word. -/
theorem rt2x00EepromRead_storeU32 (bigEndian : Bool) (m : EepromMem) (i : Nat) (x : BitVec 32)
    (w : Nat) :
    rt2x00EepromRead bigEndian (storeU32 bigEndian m (2 * i) (cpuToLe32 bigEndian x)) w =
      if w = i then x.extractLsb' 0 16
      else if w = i + 1 then x.extractLsb' 16 16
      else rt2x00EepromRead bigEndian m w := by
  by_cases h0 : w = i
  · subst h0
    have h1 := storeU32_cpuToLe32 bigEndian m (2 * w) x (d := 1) (by decide)
    have h0 := storeU32_cpuToLe32 bigEndian m (2 * w) x (d := 0) (by decide)
    simp only [Nat.add_zero] at h0
    cases bigEndian <;>
      simp [rt2x00EepromRead, loadU16, h0, h1, le16ToCpu_true_append,
        byteOf_one_append_byteOf_zero]
  by_cases h1 : w = i + 1
  · subst h1
    have h2 := storeU32_cpuToLe32 bigEndian m (2 * i) x (d := 2) (by decide)
    have h3 := storeU32_cpuToLe32 bigEndian m (2 * i) x (d := 3) (by decide)
    rw [show 2 * i + 2 = 2 * (i + 1) by omega] at h2
    rw [show 2 * i + 3 = 2 * (i + 1) + 1 by omega] at h3
    cases bigEndian <;>
      simp [rt2x00EepromRead, loadU16, h2, h3, le16ToCpu_true_append,
        byteOf_three_append_byteOf_two]
  · simp only [h0, h1, if_false, rt2x00EepromRead, loadU16,
      storeU32_of_not_mem _ _ _ _ (show ¬(2 * i ≤ 2 * w ∧ 2 * w < 2 * i + 4) by omega),
      storeU32_of_not_mem _ _ _ _ (show ¬(2 * i ≤ 2 * w + 1 ∧ 2 * w + 1 < 2 * i + 4) by omega)]

end Bytes

/-! ## The image after the loop -/

section Image

variable (f : EfuseCtrlCfg) (efuse : Nat → Nat → BitVec 32) (ctrl : Nat → BitVec 32)
  (bigEndian : Bool)

/-- One efuse read writes words `i` to `i + 7`, word `i + d` being half `d % 2` of data
register `3 - d / 2`, and leaves every other word. -/
theorem rt2x00EepromRead_rt2800EfuseRead (m : EepromMem) (i w : Nat) :
    rt2x00EepromRead bigEndian (rt2800EfuseRead f efuse ctrl bigEndian m i) w =
      if i ≤ w ∧ w < i + 8 then
        (efuse (f.addressIn.get (f.request (ctrl i) i)).toNat (3 - (w - i) / 2)).extractLsb'
          (16 * ((w - i) % 2)) 16
      else rt2x00EepromRead bigEndian m w := by
  simp only [rt2800EfuseRead, rt2x00EepromRead_storeU32]
  generalize efuse _ = data
  by_cases h : i ≤ w ∧ w < i + 8
  · obtain ⟨d, hd, rfl⟩ : ∃ d < 8, w = i + d := ⟨w - i, by omega, by omega⟩
    simp only [h, if_true, Nat.add_sub_cancel_left]
    obtain _ | _ | _ | _ | _ | _ | _ | _ | d := d
    all_goals first | omega | simp [Nat.add_assoc]
  · rw [if_neg h]
    simp (disch := omega) only [if_neg]

theorem rt2x00EepromRead_readEepromEfuseLoop (n i : Nat) (hi : i % 8 = 0) (m : EepromMem)
    (w : Nat) :
    rt2x00EepromRead bigEndian (readEepromEfuseLoop f efuse ctrl bigEndian n i m) w =
      if i ≤ w ∧ w - w % 8 < n then
        (efuse (f.addressIn.get (f.request (ctrl (w - w % 8)) (w - w % 8))).toNat
          (3 - w % 8 / 2)).extractLsb' (16 * (w % 2)) 16
      else rt2x00EepromRead bigEndian m w := by
  induction i, m using readEepromEfuseLoop.induct f efuse ctrl bigEndian n with
  | case1 i m hlt ih =>
    rw [readEepromEfuseLoop, if_pos hlt, ih (by omega), rt2x00EepromRead_rt2800EfuseRead]
    by_cases h1 : i + 8 ≤ w ∧ w - w % 8 < n
    · simp only [h1, and_self, if_true, show i ≤ w by omega]
    · by_cases h2 : i ≤ w ∧ w < i + 8
      · have hb : w - w % 8 = i := by omega
        have hd : w - i = w % 8 := by omega
        simp only [h2, hb, hd, hlt, and_self, if_true, ite_self, Nat.mod_mod_of_dvd w
          (show 2 ∣ 8 by decide)]
      · simp only [h1, h2, if_false, show ¬(i ≤ w ∧ w - w % 8 < n) by omega]
  | case2 i m hge =>
    rw [readEepromEfuseLoop, if_neg hge, if_neg (by omega)]

theorem EfuseCtrlCfg.request_address (f : EfuseCtrlCfg) {k n : Nat} (hf : f.Holds k n)
    (reg : BitVec 32) {i : Nat} (hi : i < n) : (f.addressIn.get (f.request reg i)).toNat = i := by
  have hd := f.disjoint
  simp only [List.pairwise_cons, List.mem_cons, forall_eq_or_imp, List.mem_singleton,
    forall_eq, List.not_mem_nil, false_implies, implies_true, List.Pairwise.nil, and_true] at hd
  have hik : i < 2 ^ k := lt_of_lt_of_le hi hf.wide
  have hk : 2 ^ k ≤ 2 ^ 32 := Nat.pow_le_pow_right (by decide) (by have := hf.fits; omega)
  rw [EfuseCtrlCfg.request, Rt2x00Field.get_set_of_disjoint _ _ _ _ hd.1.2.symm,
    Rt2x00Field.get_set_of_disjoint _ _ _ _ hd.1.1.symm, Rt2x00Field.get_set,
    Rt2x00Field.get_shiftLeft_of_width _ hf.mask hf.fits _
      (by rw [BitVec.toNat_ofNat]; omega)]
  simp only [BitVec.toNat_ofNat]
  omega

end Image

/-- After `rt2800_read_eeprom_efuse`, with an address field that holds the word indices of
the image, on a little- or big-endian host: word `w` whose block `w - w % 8` starts below
`EEPROM_SIZE / 2` is half `w % 2` of data register `3 - (w % 8) / 2` of the efuse block at
address `w - w % 8`, and every other word is as before. -/
theorem rt2800ReadEepromEfuse_word (f : EfuseCtrlCfg) (efuse : Nat → Nat → BitVec 32)
    (ctrl : Nat → BitVec 32) (bigEndian : Bool) (eepromSize : Nat) {k : Nat}
    (hf : f.Holds k (eepromSize / 2)) (m : EepromMem) (w : Nat) :
    rt2x00EepromRead bigEndian (rt2800ReadEepromEfuse f efuse ctrl bigEndian eepromSize m) w =
      if w - w % 8 < eepromSize / 2 then
        (efuse (w - w % 8) (3 - w % 8 / 2)).extractLsb' (16 * (w % 2)) 16
      else rt2x00EepromRead bigEndian m w := by
  rw [rt2800ReadEepromEfuse, rt2x00EepromRead_readEepromEfuseLoop _ _ _ _ _ _ rfl]
  by_cases h : w - w % 8 < eepromSize / 2
  · simp only [Nat.zero_le, h, and_self, if_true, f.request_address hf _ h]
  · simp only [h, and_false, if_false]

theorem rt2800ReadEepromEfuse_word_layout :
    efuseCtrlLayout.Holds 9 (0x200 / 2) ∧
      rt2x00EepromRead true (rt2800ReadEepromEfuse efuseCtrlLayout
          (fun a r => BitVec.ofNat 32 (a + r)) (fun _ => 0) true 0x200 (fun _ => 0)) 13 =
        if 13 - 13 % 8 < 0x200 / 2 then
          (BitVec.ofNat 32 (13 - 13 % 8 + (3 - 13 % 8 / 2))).extractLsb' (16 * (13 % 2)) 16
        else rt2x00EepromRead true (fun _ => 0) 13 :=
  have hf : efuseCtrlLayout.Holds 9 (0x200 / 2) := ⟨by decide, by decide, by decide⟩
  ⟨hf, rt2800ReadEepromEfuse_word efuseCtrlLayout _ _ true 0x200 hf _ 13⟩

end WifiCoconut
