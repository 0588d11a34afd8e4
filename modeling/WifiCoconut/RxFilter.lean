import WifiCoconut.Chip
import WifiCoconut.Field

/-!
# RX filter calibration

`rt2800_rx_filter_calibration` tunes the RF receive filter for 20 and 40 MHz
(`rt2800_init_rx_filter`): measure a passband tone in BBP 55, then step `rfcsr24` up while the
rejection `passband - stopband` stays within the target, back off one step if it overshot, and
write the setting to RFCSR 24. The registers are stores whose accesses complete, as those of
the access layers do when their waits succeed (`rxFilter_rt2800RfcsrWrite_rf`); BBP 55's
readings are a stream. A sweep's result has a closed form in the readings
(`rt2800InitRxFilter_eq`), from which its monotonicity, bounds and frame follow.
-/

namespace WifiCoconut

/-- The fields of rt2800.h the RX filter calibration sets. -/
structure RxFilterFields where
  bbp4Bandwidth : Rt2x00Field 8
  rfcsr31RxH20m : Rt2x00Field 8
  rfcsr22BasebandLoopback : Rt2x00Field 8

/-- A layout of the three fields: the bandwidth in bits 3 and 4 of BBP 4, `RX_H20M` in bit 5
of RFCSR 31, loopback in bit 0 of RFCSR 22. -/
def rxFilterLayout : RxFilterFields where
  bbp4Bandwidth := ⟨0x18, 3, by decide⟩
  rfcsr31RxH20m := ⟨0x20, 5, by decide⟩
  rfcsr22BasebandLoopback := ⟨0x01, 0, by decide⟩

/-- The registers the RX filter calibration touches, the values it stores in `drv_data`, and
the number of BBP 55 readings taken so far. -/
structure RxCalRegs where
  rf : Nat → BitVec 8
  bbp : Nat → BitVec 8
  calibrationBw20 : BitVec 8
  calibrationBw40 : BitVec 8
  bbp25 : BitVec 8
  bbp26 : BitVec 8
  hwReads : Nat

def RxCalRegs.zero : RxCalRegs := ⟨fun _ => 0, fun _ => 0, 0, 0, 0, 0, 0⟩

def window (ans : Nat → BitVec 8) : Nat → Nat → List (BitVec 8)
  | _, 0 => []
  | q, n + 1 => ans q :: window ans (q + 1) n

@[simp] theorem window_zero (ans : Nat → BitVec 8) (q : Nat) : window ans q 0 = [] := rfl

@[simp] theorem window_succ (ans : Nat → BitVec 8) (q n : Nat) :
    window ans q (n + 1) = ans q :: window ans (q + 1) n := rfl

@[simp] theorem length_window (ans : Nat → BitVec 8) (q n : Nat) :
    (window ans q n).length = n := by
  induction n generalizing q with
  | zero => rfl
  | succ n ih => simp [ih]

theorem length_takeWhile_window_le (p : BitVec 8 → Bool) (ans : Nat → BitVec 8) (q n : Nat) :
    ((window ans q n).takeWhile p).length ≤ n :=
  (List.takeWhile_prefix p).length_le.trans (length_window ans q n).le

theorem mem_window {ans : Nat → BitVec 8} {q n : Nat} {x : BitVec 8}
    (h : x ∈ window ans q n) : ∃ i < n, ans (q + i) = x := by
  induction n generalizing q with
  | zero => cases h
  | succ n ih =>
    rcases List.mem_cons.mp h with rfl | h
    · exact ⟨0, by omega, rfl⟩
    · obtain ⟨i, hi, rfl⟩ := ih h
      exact ⟨i + 1, by omega, by rw [Nat.add_assoc, Nat.add_comm 1 i]⟩

namespace RxFilter

section Access

variable (s : RxCalRegs)

@[simp] def rt2800RfcsrWrite (word : Nat) (value : BitVec 8) : RxCalRegs :=
  { s with rf := Function.update s.rf word value }

@[simp] def rt2800RfcsrRead (word : Nat) : BitVec 8 := s.rf word

@[simp] def rt2800BbpWrite (word : Nat) (value : BitVec 8) : RxCalRegs :=
  { s with bbp := Function.update s.bbp word value }

@[simp] def rt2800BbpRead (word : Nat) : BitVec 8 := s.bbp word

/-- One test-tone round of both loops: `rt2800_bbp_write(25, 0x90)` starts the tone and
`rt2800_bbp_read(55)` takes the hardware's next answer, which BBP 55 then holds. -/
def testToneRead (ans : Nat → BitVec 8) : BitVec 8 × RxCalRegs :=
  let s := rt2800BbpWrite s 25 0x90
  (ans s.hwReads,
    { s with bbp := Function.update s.bbp 55 (ans s.hwReads), hwReads := s.hwReads + 1 })

variable (ans : Nat → BitVec 8)

@[simp] theorem testToneRead_fst : (testToneRead s ans).1 = ans s.hwReads := rfl

@[simp] theorem testToneRead_hwReads : (testToneRead s ans).2.hwReads = s.hwReads + 1 := rfl

@[simp] theorem testToneRead_rf : (testToneRead s ans).2.rf = s.rf := rfl

@[simp] theorem testToneRead_calibrationBw20 :
    (testToneRead s ans).2.calibrationBw20 = s.calibrationBw20 := rfl

theorem testToneRead_bbp_of_ne {w : Nat} (h25 : w ≠ 25) (h55 : w ≠ 55) :
    (testToneRead s ans).2.bbp w = s.bbp w := by
  simp [testToneRead, h25, h55]

end Access

/-- The comparison `(passband - stopband) <= filter_target`, in `int` as the promotions of C
have it: a stopband louder than the passband is within the target. -/
def withinTarget (passband filterTarget stopband : BitVec 8) : Bool :=
  decide ((passband.toNat : Int) - stopband.toNat ≤ filterTarget.toNat)

def hitsTarget (passband filterTarget stopband : BitVec 8) : Bool :=
  decide ((passband.toNat : Int) - stopband.toNat = filterTarget.toNat)

section Procedure

variable (f : RxFilterFields) (ans : Nat → BitVec 8)

/-- The passband loop: up to `n` test-tone rounds, stopping at the first nonzero reading of
BBP 55. When the rounds run out, the last reading, and so the passband, was 0. -/
def passbandLoop : Nat → RxCalRegs → BitVec 8 × RxCalRegs
  | 0, s => (0, s)
  | n + 1, s =>
    let r := testToneRead s ans
    if r.1 = 0 then passbandLoop n r.2 else r

/-- The stopband loop from `rfcsr24` and `overtuned`: up to `n` test-tone rounds; while the
rejection is within the target, step `rfcsr24`, count a reading that hits the target, and
write RFCSR 24. Returns `rfcsr24` and `overtuned`. -/
def stopbandLoop (passband filterTarget : BitVec 8) :
    Nat → BitVec 8 → BitVec 8 → RxCalRegs → BitVec 8 × BitVec 8 × RxCalRegs
  | 0, rfcsr24, overtuned, s => (rfcsr24, overtuned, s)
  | n + 1, rfcsr24, overtuned, s =>
    let r := testToneRead s ans
    if withinTarget passband filterTarget r.1 then
      let rfcsr24 := rfcsr24 + 1
      let overtuned := overtuned + (if hitsTarget passband filterTarget r.1 then 1 else 0)
      stopbandLoop passband filterTarget n rfcsr24 overtuned (rt2800RfcsrWrite r.2 24 rfcsr24)
    else (rfcsr24, overtuned, r.2)

def rxFilterStart (bw40 : Bool) : BitVec 8 := if bw40 then 0x27 else 0x07

/-- The writes of `rt2800_init_rx_filter` before its passband loop: the start setting to
RFCSR 24, the bandwidth to BBP 4, `RX_H20M` to RFCSR 31, loopback on in RFCSR 22, and the
passband tone in BBP 24. -/
def rxFilterSetup (bw40 : Bool) (s : RxCalRegs) : RxCalRegs :=
  let s := rt2800RfcsrWrite s 24 (rxFilterStart bw40)
  let s := rt2800BbpWrite s 4
    (f.bbp4Bandwidth.set (rt2800BbpRead s 4) (2 * if bw40 then 1 else 0))
  let s := rt2800RfcsrWrite s 31
    (f.rfcsr31RxH20m.set (rt2800RfcsrRead s 31) (if bw40 then 1 else 0))
  let s := rt2800RfcsrWrite s 22 (f.rfcsr22BasebandLoopback.set (rt2800RfcsrRead s 22) 1)
  rt2800BbpWrite s 24 0

/-- `rt2800_init_rx_filter`: the passband loop, the stopband tone in BBP 24, the stopband
loop, then `rfcsr24 -= !!overtuned` written to RFCSR 24 and returned. -/
def rt2800InitRxFilter (bw40 : Bool) (filterTarget : BitVec 8) (s : RxCalRegs) :
    BitVec 8 × RxCalRegs :=
  let p := passbandLoop ans 100 (rxFilterSetup f bw40 s)
  let r := stopbandLoop ans p.1 filterTarget 100 (rxFilterStart bw40) 0
    (rt2800BbpWrite p.2 24 0x06)
  let rfcsr24 := r.1 - (if r.2.1 = 0 then 0 else 1)
  (rfcsr24, rt2800RfcsrWrite r.2.2 24 rfcsr24)

def rfInitCalibrationBit : Rt2x00Field 8 := ⟨0x80, 7, by decide⟩

/-- `rt2800_rf_init_calibration`: a pulse on bit 7 of RF register `rfReg`. -/
def rt2800RfInitCalibration (s : RxCalRegs) (rfReg : Nat) : RxCalRegs :=
  let rfcsr := rfInitCalibrationBit.set (rt2800RfcsrRead s rfReg) 1
  let s := rt2800RfcsrWrite s rfReg rfcsr
  rt2800RfcsrWrite s rfReg (rfInitCalibrationBit.set rfcsr 0)

/-- `rt2800_rx_filter_calibration`: the two sweeps with the targets of the chip, the results
and BBP 25 and 26 saved in `drv_data`, then BBP 24, loopback and the bandwidth set back. -/
def rt2800RxFilterCalibration (c : Chip) (s : RxCalRegs) : RxCalRegs :=
  let filterTgtBw20 : BitVec 8 := if c.isRt .rt3070 then 0x16 else 0x13
  let filterTgtBw40 : BitVec 8 := if c.isRt .rt3070 then 0x19 else 0x15
  let r := rt2800InitRxFilter f ans false filterTgtBw20 s
  let s := { r.2 with calibrationBw20 := r.1 }
  let r := rt2800InitRxFilter f ans true filterTgtBw40 s
  let s := { r.2 with calibrationBw40 := r.1 }
  let s := { s with bbp25 := rt2800BbpRead s 25 }
  let s := { s with bbp26 := rt2800BbpRead s 26 }
  let s := rt2800BbpWrite s 24 0
  let s := rt2800RfcsrWrite s 22 (f.rfcsr22BasebandLoopback.set (rt2800RfcsrRead s 22) 0)
  rt2800BbpWrite s 4 (f.bbp4Bandwidth.set (rt2800BbpRead s 4) 0)

end Procedure

/-! ## The two loops -/

section Loops

variable (ans : Nat → BitVec 8)

theorem passbandLoop_fst (n : Nat) (s : RxCalRegs) :
    (passbandLoop ans n s).1 = ((window ans s.hwReads n).find? (· != 0)).getD 0 := by
  induction n generalizing s with
  | zero => rfl
  | succ n ih =>
    by_cases h : ans s.hwReads = 0
    · simp [passbandLoop, h, ih]
    · have h' : (ans s.hwReads != 0) = true := bne_iff_ne.mpr h
      simp only [passbandLoop, testToneRead_fst, if_neg h, window_succ, List.find?_cons, h',
        Option.getD_some]

theorem passbandLoop_hwReads (n : Nat) (s : RxCalRegs) :
    (passbandLoop ans n s).2.hwReads =
      s.hwReads + min n ((window ans s.hwReads n).findIdx (· != 0) + 1) := by
  induction n generalizing s with
  | zero => rfl
  | succ n ih =>
    by_cases h : ans s.hwReads = 0
    · simp only [passbandLoop, testToneRead_fst, h, if_true, ih, testToneRead_hwReads,
        window_succ, List.findIdx_cons, bne_self_eq_false, cond_false]
      omega
    · have h' : (ans s.hwReads != 0) = true := bne_iff_ne.mpr h
      simp only [passbandLoop, testToneRead_fst, if_neg h, window_succ, List.findIdx_cons, h',
        cond_true, testToneRead_hwReads]
      omega

theorem passbandLoop_frame (n : Nat) (s : RxCalRegs) :
    let s' := (passbandLoop ans n s).2
    s'.rf = s.rf ∧ (∀ w, w ≠ 25 → w ≠ 55 → s'.bbp w = s.bbp w) ∧
      s'.calibrationBw20 = s.calibrationBw20 := by
  induction n generalizing s with
  | zero => exact ⟨rfl, fun _ _ _ => rfl, rfl⟩
  | succ n ih =>
    simp only [passbandLoop]
    split
    · obtain ⟨h1, h2, h3⟩ := ih (testToneRead s ans).2
      exact ⟨h1, fun w h25 h55 => (h2 w h25 h55).trans (testToneRead_bbp_of_ne s ans h25 h55),
        h3⟩
    · exact ⟨rfl, fun w h25 h55 => testToneRead_bbp_of_ne s ans h25 h55, rfl⟩

variable (p t : BitVec 8)

/-- The stopband loop steps `rfcsr24` once per leading reading within the target and counts
in `overtuned` those that hit it, both modulo 256; it takes those readings and the one after
them. -/
theorem stopbandLoop_eq (n : Nat) (rfcsr24 overtuned : BitVec 8) (s : RxCalRegs) :
    let sweep := (window ans s.hwReads n).takeWhile (withinTarget p t)
    let r := stopbandLoop ans p t n rfcsr24 overtuned s
    r.1.toNat = (rfcsr24.toNat + sweep.length) % 256 ∧
      r.2.1.toNat = (overtuned.toNat + sweep.countP (hitsTarget p t)) % 256 ∧
      r.2.2.hwReads = s.hwReads + min n (sweep.length + 1) := by
  induction n generalizing rfcsr24 overtuned s with
  | zero => simp [stopbandLoop, Nat.mod_eq_of_lt (BitVec.isLt _)]
  | succ n ih =>
    by_cases hw : withinTarget p t (ans s.hwReads)
    · obtain ⟨h1, h2, h3⟩ := ih (rfcsr24 + 1)
        (overtuned + if hitsTarget p t (ans s.hwReads) then 1 else 0)
        (rt2800RfcsrWrite (testToneRead s ans).2 24 (rfcsr24 + 1))
      simp only [rt2800RfcsrWrite, testToneRead_hwReads] at h1 h2 h3
      simp only [stopbandLoop, testToneRead_fst, hw, if_true, window_succ, List.takeWhile_cons,
        List.length_cons, List.countP_cons, h1, h2, h3, rt2800RfcsrWrite, testToneRead_hwReads]
      refine ⟨?_, ?_, by omega⟩
      · rw [BitVec.toNat_add]; simp; omega
      · split <;> simp [BitVec.toNat_add]
        omega
    · simp [stopbandLoop, hw, Nat.mod_eq_of_lt (BitVec.isLt _)]

theorem stopbandLoop_frame (n : Nat) (rfcsr24 overtuned : BitVec 8) (s : RxCalRegs) :
    let s' := (stopbandLoop ans p t n rfcsr24 overtuned s).2.2
    (∀ w, w ≠ 24 → s'.rf w = s.rf w) ∧ (∀ w, w ≠ 25 → w ≠ 55 → s'.bbp w = s.bbp w) ∧
      s'.calibrationBw20 = s.calibrationBw20 := by
  induction n generalizing rfcsr24 overtuned s with
  | zero => exact ⟨fun _ _ => rfl, fun _ _ _ => rfl, rfl⟩
  | succ n ih =>
    simp only [stopbandLoop]
    split
    · obtain ⟨h1, h2, h3⟩ := ih (rfcsr24 + 1)
        (overtuned + if hitsTarget p t (testToneRead s ans).1 then 1 else 0)
        (rt2800RfcsrWrite (testToneRead s ans).2 24 (rfcsr24 + 1))
      refine ⟨fun w h24 => ?_, fun w h25 h55 => ?_, h3⟩
      · rw [h1 w h24]; simp [h24]
      · rw [h2 w h25 h55]; exact testToneRead_bbp_of_ne s ans h25 h55
    · exact ⟨fun _ _ => rfl, fun w h25 h55 => testToneRead_bbp_of_ne s ans h25 h55, rfl⟩

end Loops

/-! ## One sweep -/

section Sweep

variable (f : RxFilterFields) (ans : Nat → BitVec 8)

@[simp] theorem rxFilterSetup_hwReads (bw40 : Bool) (s : RxCalRegs) :
    (rxFilterSetup f bw40 s).hwReads = s.hwReads := rfl

theorem rxFilterStart_toNat_le (bw40 : Bool) : (rxFilterStart bw40).toNat ≤ 39 := by
  cases bw40 <;> decide

theorem sub_notNot_toNat {x y : BitVec 8} {a c : Nat} (hx : x.toNat = a) (hy : y.toNat = c)
    (hc : c ≤ a) : (x - if y = 0 then 0 else 1).toNat = a - if c = 0 then 0 else 1 := by
  by_cases h : c = 0
  · have hy0 : y = 0 := BitVec.eq_of_toNat_eq (by simp [hy, h])
    simp [hy0, hx, h]
  · have hy0 : y ≠ 0 := fun e => h (by simp [← hy, e])
    have := x.isLt
    simp only [hy0, if_false, h, BitVec.toNat_sub, hx]
    simp; omega

/-- A sweep returns its start plus the number of leading stopband readings whose rejection is
within the target, less one if one of them hit the target exactly. The passband is the first
nonzero of the 100 passband readings, or 0; the stopband readings follow the passband
readings taken, and the sweep takes those it counts and the one after them. -/
theorem rt2800InitRxFilter_eq (bw40 : Bool) (filterTarget : BitVec 8) (s : RxCalRegs) :
    let pass := window ans s.hwReads 100
    let passband := (pass.find? (· != 0)).getD 0
    let q := s.hwReads + min 100 (pass.findIdx (· != 0) + 1)
    let sweep := (window ans q 100).takeWhile (withinTarget passband filterTarget)
    let r := rt2800InitRxFilter f ans bw40 filterTarget s
    r.1.toNat = (rxFilterStart bw40).toNat + sweep.length -
        (if sweep.any (hitsTarget passband filterTarget) then 1 else 0) ∧
      r.2.hwReads = q + min 100 (sweep.length + 1) := by
  have hpass := passbandLoop_fst ans 100 (rxFilterSetup f bw40 s)
  have hreads := passbandLoop_hwReads ans 100 (rxFilterSetup f bw40 s)
  simp only [rxFilterSetup_hwReads] at hpass hreads
  dsimp only [rt2800InitRxFilter]
  generalize passbandLoop ans 100 (rxFilterSetup f bw40 s) = p at hpass hreads
  obtain ⟨passband, s1⟩ := p
  dsimp only at hpass hreads ⊢
  subst hpass
  obtain ⟨h1, h2, h3⟩ := stopbandLoop_eq ans _ filterTarget 100 (rxFilterStart bw40) 0
    (rt2800BbpWrite s1 24 0x06)
  generalize stopbandLoop ans _ filterTarget 100 (rxFilterStart bw40) 0
    (rt2800BbpWrite s1 24 0x06) = r at h1 h2 h3
  simp only [rt2800BbpWrite, hreads] at h1 h2 h3
  generalize hsw : List.takeWhile _ (window ans (s.hwReads + _) 100) = sweep at h1 h2 h3 ⊢
  refine ⟨?_, h3⟩
  have hk : sweep.length ≤ 100 := hsw ▸ length_takeWhile_window_le _ _ _ _
  generalize hitsTarget _ filterTarget = q at h2 ⊢
  have hc := sweep.countP_le_length q
  have hs := rxFilterStart_toNat_le bw40
  rw [sub_notNot_toNat (a := (rxFilterStart bw40).toNat + sweep.length) (c := sweep.countP q)
    (by rw [h1]; omega) (by rw [h2]; simp [Nat.mod_eq_of_lt (show sweep.countP q < 256 by omega)])
    (by omega)]
  have hany : sweep.countP q = 0 ↔ sweep.any q = false := by
    rw [List.countP_eq_zero, List.any_eq_false]
  cases h : sweep.any q <;> simp [h, hany]

theorem rt2800InitRxFilter_bounds (bw40 : Bool) (filterTarget : BitVec 8) (s : RxCalRegs) :
    (rxFilterStart bw40).toNat ≤ (rt2800InitRxFilter f ans bw40 filterTarget s).1.toNat ∧
      (rt2800InitRxFilter f ans bw40 filterTarget s).1.toNat ≤
        (rxFilterStart bw40).toNat + 100 := by
  obtain ⟨h, -⟩ := rt2800InitRxFilter_eq f ans bw40 filterTarget s
  have hk := length_takeWhile_window_le (withinTarget
    (((window ans s.hwReads 100).find? (· != 0)).getD 0) filterTarget) ans
    (s.hwReads + min 100 ((window ans s.hwReads 100).findIdx (· != 0) + 1)) 100
  generalize List.takeWhile _ _ = sweep at h hk
  rw [h]
  cases hany : sweep.any _
  · simp; omega
  · have : sweep ≠ [] := by rintro rfl; simp at hany
    have := List.length_pos.mpr this
    simp; omega

/-- Raising the rejection a reading may show widens the prefix of readings within the
target, and a reading that hits the looser target exactly either hit the tighter one too or
lies past the tighter prefix. -/
theorem takeWhile_withinTarget_mono (p : BitVec 8) {t t' : BitVec 8} (h : t.toNat ≤ t'.toNat)
    (l : List (BitVec 8)) :
    let a := l.takeWhile (withinTarget p t)
    let b := l.takeWhile (withinTarget p t')
    a.length ≤ b.length ∧
      (b.any (hitsTarget p t') → a.any (hitsTarget p t) ∨ a.length < b.length) := by
  induction l with
  | nil => simp
  | cons x l ih =>
    obtain ⟨ih1, ih2⟩ := ih
    by_cases hx : withinTarget p t x
    · have hx' : withinTarget p t' x := by
        simp only [withinTarget, decide_eq_true_eq] at hx ⊢; omega
      simp only [List.takeWhile_cons, hx, hx', if_true, List.length_cons, List.any_cons,
        Bool.or_eq_true]
      refine ⟨by omega, ?_⟩
      rintro (hh | hh)
      · left; left
        simp only [hitsTarget, withinTarget, decide_eq_true_eq] at hh hx ⊢; omega
      · rcases ih2 hh with h' | h'
        · exact .inl (.inr h')
        · exact .inr (by omega)
    · have hx0 : withinTarget p t x = false := by simpa using hx
      simp only [List.takeWhile_cons, hx0, Bool.false_eq_true, if_false, List.length_nil,
        List.any_nil, Nat.zero_le, true_and]
      split <;> simp

/-- A looser target never gives a lower filter setting, despite the back-off. -/
theorem rt2800InitRxFilter_mono (bw40 : Bool) {t t' : BitVec 8} (h : t.toNat ≤ t'.toNat)
    (s : RxCalRegs) :
    (rt2800InitRxFilter f ans bw40 t s).1.toNat ≤ (rt2800InitRxFilter f ans bw40 t' s).1.toNat := by
  obtain ⟨ha, -⟩ := rt2800InitRxFilter_eq f ans bw40 t s
  obtain ⟨hb, -⟩ := rt2800InitRxFilter_eq f ans bw40 t' s
  rw [ha, hb]
  clear ha hb
  obtain ⟨h1, h2⟩ := takeWhile_withinTarget_mono _ h (window ans _ 100)
  generalize List.takeWhile (withinTarget _ t) _ = a at h1 h2 ⊢
  generalize List.takeWhile (withinTarget _ t') _ = b at h1 h2 ⊢
  cases hb' : b.any (hitsTarget _ t') <;> simp only [Bool.false_eq_true, if_false, if_true]
  · split <;> omega
  · rcases h2 hb' with ha' | ha'
    · simp only [ha', if_true]; omega
    · split <;> omega

theorem rt2800InitRxFilter_mono_rt3070 :
    (0x16 : BitVec 8).toNat ≤ (0x19 : BitVec 8).toNat ∧
      (rt2800InitRxFilter rxFilterLayout (fun i => BitVec.ofNat 8 i) true 0x16
          RxCalRegs.zero).1.toNat ≤
        (rt2800InitRxFilter rxFilterLayout (fun i => BitVec.ofNat 8 i) true 0x19
          RxCalRegs.zero).1.toNat :=
  ⟨by decide, rt2800InitRxFilter_mono rxFilterLayout _ true (by decide) _⟩

/-- What a sweep leaves in the registers: RFCSR 24 holds the result, RFCSR 31, RFCSR 22 and
BBP 4 carry the fields it set, and no other RF register, no BBP register but BBP 24 and the
test tone's, and not `calibration_bw20` is changed. -/
theorem rt2800InitRxFilter_frame (bw40 : Bool) (filterTarget : BitVec 8) (s : RxCalRegs) :
    let r := rt2800InitRxFilter f ans bw40 filterTarget s
    r.2.rf 24 = r.1 ∧
      r.2.rf 31 = f.rfcsr31RxH20m.set (s.rf 31) (if bw40 then 1 else 0) ∧
      r.2.rf 22 = f.rfcsr22BasebandLoopback.set (s.rf 22) 1 ∧
      r.2.bbp 4 = f.bbp4Bandwidth.set (s.bbp 4) (2 * if bw40 then 1 else 0) ∧
      (∀ w, w ≠ 22 → w ≠ 24 → w ≠ 31 → r.2.rf w = s.rf w) ∧
      (∀ w, w ≠ 4 → w ≠ 24 → w ≠ 25 → w ≠ 55 → r.2.bbp w = s.bbp w) ∧
      r.2.calibrationBw20 = s.calibrationBw20 := by
  dsimp only [rt2800InitRxFilter]
  obtain ⟨p1, p2, p3⟩ := passbandLoop_frame ans 100 (rxFilterSetup f bw40 s)
  generalize passbandLoop ans 100 (rxFilterSetup f bw40 s) = p at p1 p2 p3
  obtain ⟨q1, q2, q3⟩ := stopbandLoop_frame ans p.1 filterTarget 100 (rxFilterStart bw40) 0
    (rt2800BbpWrite p.2 24 0x06)
  generalize stopbandLoop ans p.1 filterTarget 100 (rxFilterStart bw40) 0
    (rt2800BbpWrite p.2 24 0x06) = r at q1 q2 q3
  have hrf : ∀ w, w ≠ 24 → r.2.2.rf w = (rxFilterSetup f bw40 s).rf w := fun w h => by
    rw [q1 w h]; simp [p1]
  have hbbp : ∀ w, w ≠ 24 → w ≠ 25 → w ≠ 55 → r.2.2.bbp w = (rxFilterSetup f bw40 s).bbp w :=
    fun w h24 h25 h55 => by rw [q2 w h25 h55]; simp [h24, p2 w h25 h55]
  refine ⟨by simp, ?_, ?_, ?_, fun w h22 h24 h31 => ?_, fun w h4 h24 h25 h55 => ?_, ?_⟩
  · simp [hrf 31 (by decide), rxFilterSetup]
  · simp [hrf 22 (by decide), rxFilterSetup]
  · simp [hbbp 4 (by decide) (by decide) (by decide), rxFilterSetup]
  · simp [h24, hrf w h24, rxFilterSetup, h22, h31]
  · simp [hbbp w h24 h25 h55, rxFilterSetup, h4, h24]
  · simp [q3, p3, rxFilterSetup]

/-- When none of the 100 passband readings is nonzero and the target is positive, every
stopband reading is within it and none hits it: the sweep runs all its rounds and returns its
start plus 100, having taken 200 readings. -/
theorem rt2800InitRxFilter_deaf (bw40 : Bool) (filterTarget : BitVec 8)
    (ht : 0 < filterTarget.toNat) (s : RxCalRegs) (h : ∀ i < 100, ans (s.hwReads + i) = 0) :
    (rt2800InitRxFilter f ans bw40 filterTarget s).1.toNat = (rxFilterStart bw40).toNat + 100 ∧
      (rt2800InitRxFilter f ans bw40 filterTarget s).2.hwReads = s.hwReads + 200 := by
  obtain ⟨h1, h2⟩ := rt2800InitRxFilter_eq f ans bw40 filterTarget s
  have hzero : ∀ x ∈ window ans s.hwReads 100, (x != 0) = false := fun x hx => by
    obtain ⟨i, hi, rfl⟩ := mem_window hx
    simp [h i hi]
  have hfind : (window ans s.hwReads 100).find? (· != 0) = none :=
    List.find?_eq_none.mpr fun x hx => by rw [hzero x hx]; exact Bool.false_ne_true
  have hidx : (window ans s.hwReads 100).findIdx (· != 0) = 100 :=
    (List.findIdx_eq_length.mpr hzero).trans (length_window _ _ _)
  rw [hfind, hidx] at h1 h2
  have hall : ∀ l : List (BitVec 8), l.takeWhile (withinTarget 0 filterTarget) = l :=
    fun l => List.takeWhile_eq_self_iff.mpr fun x _ => by simp [withinTarget]; omega
  have hnone : ∀ l : List (BitVec 8), l.any (hitsTarget 0 filterTarget) = false :=
    fun l => List.any_eq_false.mpr fun x _ => by simp [hitsTarget]; omega
  simp only [Option.getD_none, hall, hnone, length_window] at h1 h2
  exact ⟨by simpa using h1, by simpa using h2⟩

end Sweep

/-! ## The calibration -/

section Calibration

variable (f : RxFilterFields) (ans : Nat → BitVec 8)

/-- After the calibration, whatever the hardware answered, BBP 24 is back at 0, BBP 4 and
RFCSR 22 are as on entry with the bandwidth and loopback fields cleared, RFCSR 31 keeps the
`RX_H20M` bit of the 40 MHz sweep, RFCSR 24 holds the 40 MHz result, and no other RF
register and no BBP register but the test tone's, BBP 25 and 55, has changed. -/
theorem rt2800RxFilterCalibration_registers (c : Chip) (s : RxCalRegs) :
    let s' := rt2800RxFilterCalibration f ans c s
    s'.bbp 24 = 0 ∧ s'.bbp 4 = f.bbp4Bandwidth.set (s.bbp 4) 0 ∧
      s'.rf 22 = f.rfcsr22BasebandLoopback.set (s.rf 22) 0 ∧
      s'.rf 31 = f.rfcsr31RxH20m.set (s.rf 31) 1 ∧ s'.rf 24 = s'.calibrationBw40 ∧
      (∀ w, w ≠ 22 → w ≠ 24 → w ≠ 31 → s'.rf w = s.rf w) ∧
      (∀ w, w ≠ 4 → w ≠ 24 → w ≠ 25 → w ≠ 55 → s'.bbp w = s.bbp w) := by
  dsimp only [rt2800RxFilterCalibration]
  obtain ⟨-, a31, a22, a4, arf, abbp, -⟩ :=
    rt2800InitRxFilter_frame f ans false (if c.isRt .rt3070 then 0x16 else 0x13) s
  generalize rt2800InitRxFilter f ans false _ s = r at a31 a22 a4 arf abbp
  obtain ⟨b24, b31, b22, b4, brf, bbbp, -⟩ := rt2800InitRxFilter_frame f ans true
    (if c.isRt .rt3070 then 0x19 else 0x15) { r.2 with calibrationBw20 := r.1 }
  generalize rt2800InitRxFilter f ans true _ _ = r' at b24 b31 b22 b4 brf bbbp
  refine ⟨by simp, ?_, ?_, ?_, ?_, fun w h22 h24 h31 => ?_, fun w h4 h24 h25 h55 => ?_⟩
  · simp [b4, a4]
  · simp [b22, a22]
  · simp [b31, a31]
  · simp [b24]
  · simp [h22, brf w h22 h24 h31, arf w h22 h24 h31]
  · simp [h4, h24, bbbp w h4 h24 h25 h55, abbp w h4 h24 h25 h55]

/-- Whatever the hardware answered, the 20 MHz result lies in `[0x07, 0x6b]` and the 40 MHz
result in `[0x27, 0x8b]`. -/
theorem rt2800RxFilterCalibration_bounds (c : Chip) (s : RxCalRegs) :
    let s' := rt2800RxFilterCalibration f ans c s
    0x07 ≤ s'.calibrationBw20.toNat ∧ s'.calibrationBw20.toNat ≤ 0x6b ∧
      0x27 ≤ s'.calibrationBw40.toNat ∧ s'.calibrationBw40.toNat ≤ 0x8b := by
  dsimp only [rt2800RxFilterCalibration]
  obtain ⟨a1, a2⟩ :=
    rt2800InitRxFilter_bounds f ans false (if c.isRt .rt3070 then 0x16 else 0x13) s
  generalize rt2800InitRxFilter f ans false _ s = r at a1 a2
  obtain ⟨-, -, -, -, -, -, b20⟩ := rt2800InitRxFilter_frame f ans true
    (if c.isRt .rt3070 then 0x19 else 0x15) { r.2 with calibrationBw20 := r.1 }
  obtain ⟨b1, b2⟩ := rt2800InitRxFilter_bounds f ans true
    (if c.isRt .rt3070 then 0x19 else 0x15) { r.2 with calibrationBw20 := r.1 }
  generalize rt2800InitRxFilter f ans true _ _ = r' at b20 b1 b2
  simp only [rt2800BbpWrite, rt2800RfcsrWrite, b20]
  exact ⟨a1, a2, b1, b2⟩

/-- A receiver that never sees the passband tone, its BBP 55 reading 0 through the passband
rounds of both sweeps, drives both results to their maximum, `0x6b` and `0x8b`. -/
theorem rt2800RxFilterCalibration_deaf (c : Chip) (s : RxCalRegs)
    (h : ∀ i < 100, ans (s.hwReads + i) = 0 ∧ ans (s.hwReads + 200 + i) = 0) :
    (rt2800RxFilterCalibration f ans c s).calibrationBw20 = 0x6b ∧
      (rt2800RxFilterCalibration f ans c s).calibrationBw40 = 0x8b := by
  dsimp only [rt2800RxFilterCalibration]
  obtain ⟨a1, a2⟩ := rt2800InitRxFilter_deaf f ans false
    (if c.isRt .rt3070 then 0x16 else 0x13) (by split <;> decide) s
    (fun i hi => (h i hi).1)
  generalize rt2800InitRxFilter f ans false _ s = r at a1 a2
  obtain ⟨-, -, -, -, -, -, b20⟩ := rt2800InitRxFilter_frame f ans true
    (if c.isRt .rt3070 then 0x19 else 0x15) { r.2 with calibrationBw20 := r.1 }
  obtain ⟨b1, -⟩ := rt2800InitRxFilter_deaf f ans true
    (if c.isRt .rt3070 then 0x19 else 0x15) (by split <;> decide)
    { r.2 with calibrationBw20 := r.1 } (fun i hi => by simpa [a2] using (h i hi).2)
  generalize rt2800InitRxFilter f ans true _ _ = r' at b20 b1
  simp only [rt2800BbpWrite, rt2800RfcsrWrite, b20]
  exact ⟨BitVec.eq_of_toNat_eq a1, BitVec.eq_of_toNat_eq b1⟩

theorem rt2800RxFilterCalibration_deaf_silent :
    (∀ i < 100, (fun _ => 0 : Nat → BitVec 8) (RxCalRegs.zero.hwReads + i) = 0 ∧
        (fun _ => 0 : Nat → BitVec 8) (RxCalRegs.zero.hwReads + 200 + i) = 0) ∧
      (rt2800RxFilterCalibration rxFilterLayout (fun _ => 0) ⟨.rt3070, 0, 0, .usb⟩
          RxCalRegs.zero).calibrationBw20 = 0x6b ∧
      (rt2800RxFilterCalibration rxFilterLayout (fun _ => 0) ⟨.rt3070, 0, 0, .usb⟩
          RxCalRegs.zero).calibrationBw40 = 0x8b :=
  ⟨fun _ _ => ⟨rfl, rfl⟩,
    rt2800RxFilterCalibration_deaf rxFilterLayout _ _ _ fun _ _ => ⟨rfl, rfl⟩⟩

end Calibration

end RxFilter

end WifiCoconut
