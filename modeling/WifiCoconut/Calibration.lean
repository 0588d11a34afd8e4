import WifiCoconut.BbpAccess

/-!
# Filter bandwidth calibration

`rt2800_bw_filter_calibration` (RT6352) loops the RF front end back on a test tone, searches for
20 and 40 MHz for the smallest gain compensation whose readout falls within the target (the
`do_cal` loop), stores the results and restores the registers it saved. The registers are
stores whose accesses complete; the hardware's values are a stream. Every loop is bounded,
every saved register is restored (`rt2800BwFilterCalibration_restores`), and the RF register
file is left as it was (`rt2800BwFilterCalibration_rf`).
-/

namespace WifiCoconut

/-- The registers the calibration touches, the calibration results it stores in `drv_data`,
and the number of hardware answers it has consumed. -/
structure CalRegs where
  rf : Nat → BitVec 8
  bbp : Nat → BitVec 8
  dcoc : Nat → BitVec 8
  rfControl0 : BitVec 32
  rfBypass0 : BitVec 32
  txCalibrationBw20 : BitVec 8
  txCalibrationBw40 : BitVec 8
  rxCalibrationBw20 : BitVec 8
  rxCalibrationBw40 : BitVec 8
  hwReads : Nat

/-- The value an `int` takes in a `char`, signed or unsigned as the platform has it. -/
def toChar (charSigned : Bool) (x : Int) : Int :=
  if charSigned then (x + 128) % 256 - 128 else x % 256

/-- The RF CSR word of register `reg` in bank `bank`: `reg | (bank << 6)`. -/
def rfcsrBankWord (bank reg : Nat) : Nat := reg ||| (bank <<< 6)

section Access

variable (ans : Nat → BitVec 8)

def rt2800RfcsrWriteBank (s : CalRegs) (bank reg : Nat) (value : BitVec 8) : CalRegs :=
  { s with rf := Function.update s.rf (rfcsrBankWord bank reg) value }

def rt2800RfcsrReadBank (s : CalRegs) (bank reg : Nat) : BitVec 8 := s.rf (rfcsrBankWord bank reg)

/-- `rt2800_rfcsr_read_bank` on a register the hardware drives: its next answer, which the
register then holds. -/
def rt2800RfcsrReadBankHw (s : CalRegs) (bank reg : Nat) : BitVec 8 × CalRegs :=
  let v := ans s.hwReads
  (v, { rt2800RfcsrWriteBank s bank reg v with hwReads := s.hwReads + 1 })

/-- `rt2800_bbp_write`; a write of BBP 159 goes to the DCOC register BBP 158 selects. -/
def rt2800BbpWrite (s : CalRegs) (word : Nat) (value : BitVec 8) : CalRegs :=
  if word = 159 then { s with dcoc := Function.update s.dcoc (s.bbp 158).toNat value }
  else { s with bbp := Function.update s.bbp word value }

def rt2800BbpRead (s : CalRegs) (word : Nat) : BitVec 8 :=
  if word = 159 then s.dcoc (s.bbp 158).toNat else s.bbp word

/-- `rt2800_bbp_read` of a status the hardware produces: its next answer, which the register
then holds. -/
def rt2800BbpReadHw (s : CalRegs) (word : Nat) : BitVec 8 × CalRegs :=
  (ans s.hwReads, { rt2800BbpWrite s word (ans s.hwReads) with hwReads := s.hwReads + 1 })

def rt2800BbpDcocWrite (s : CalRegs) (reg value : BitVec 8) : CalRegs :=
  rt2800BbpWrite (rt2800BbpWrite s 158 reg) 159 value

def rt2800BbpDcocRead (s : CalRegs) (reg : BitVec 8) : BitVec 8 × CalRegs :=
  let s := rt2800BbpWrite s 158 reg
  (rt2800BbpRead s 159, s)

def rt2800BbpDcocReadHw (s : CalRegs) (reg : BitVec 8) : BitVec 8 × CalRegs :=
  rt2800BbpReadHw ans (rt2800BbpWrite s 158 reg) 159

end Access

section Procedure

variable (bw : Rt2x00Field 8) (ans : Nat → BitVec 8) (charSigned : Bool)

def rt2800BbpCoreSoftReset (s : CalRegs) (setBw isHt40 : Bool) : CalRegs :=
  let s := rt2800BbpWrite s 21 (rt2800BbpRead s 21 ||| 0x1)
  let s := if setBw then
      rt2800BbpWrite s 4 (bw.set (rt2800BbpRead s 4) (if isHt40 then 2 else 0))
    else s
  rt2800BbpWrite s 21 (rt2800BbpRead s 21 &&& ~~~0x1)

def rt2800RfLpConfig (s : CalRegs) (btxcal : Bool) : CalRegs :=
  let s := { s with rfControl0 := if btxcal then 0x04 else 0x02 }
  let s := { s with rfBypass0 := 0x06 }
  let s := rt2800RfcsrWriteBank s 5 17 (rt2800RfcsrReadBank s 5 17 ||| 0x80)
  if btxcal then
    let s := rt2800RfcsrWriteBank s 5 18 0xC1
    let s := rt2800RfcsrWriteBank s 5 19 0x20
    let s := rt2800RfcsrWriteBank s 5 20 0x02
    let s := rt2800RfcsrWriteBank s 5 3 ((rt2800RfcsrReadBank s 5 3 &&& ~~~0x3F) ||| 0x3F)
    let s := rt2800RfcsrWriteBank s 5 4 ((rt2800RfcsrReadBank s 5 4 &&& ~~~0x3F) ||| 0x3F)
    rt2800RfcsrWriteBank s 5 5 0x31
  else
    let s := rt2800RfcsrWriteBank s 5 18 0xF1
    let s := rt2800RfcsrWriteBank s 5 19 0x18
    let s := rt2800RfcsrWriteBank s 5 20 0x02
    let s := rt2800RfcsrWriteBank s 5 3 ((rt2800RfcsrReadBank s 5 3 &&& ~~~0x3F) ||| 0x34)
    rt2800RfcsrWriteBank s 5 4 ((rt2800RfcsrReadBank s 5 4 &&& ~~~0x3F) ||| 0x34)

/-- The status poll of `rt2800_lp_tx_filter_bw_cal`: up to `n` reads of BBP 159, stopping at
the value 2. The loop's `cnt == 20` test is never true inside it, so it reads 20 times at
most. -/
def bbp159Poll : Nat → CalRegs → CalRegs
  | 0, s => s
  | n + 1, s =>
    let r := rt2800BbpReadHw ans s 159
    if r.1 = 0x02 then r.2 else bbp159Poll n r.2

/-- `rt2800_lp_tx_filter_bw_cal`: start a measurement, poll its status, read the ADC
through DCOC 0x39 and sign it as a 7-bit value. -/
def rt2800LpTxFilterBwCal (s : CalRegs) : Int × CalRegs :=
  let s := rt2800BbpDcocWrite s 0 0x82
  let s := bbp159Poll ans 20 s
  let r := rt2800BbpDcocReadHw ans s 0x39
  let calVal := toChar charSigned (r.1 &&& 0x7F).toNat
  (toChar charSigned (if calVal ≥ 0x40 then calVal - 128 else calVal), r.2)

/-- Writing the gain compensation `agc` into the low seven bits of the two registers of the
direction being calibrated: RF bank 5 registers 58 and 59 for TX, 6 and 7 for RX. -/
def writeAgc (btxcal : Bool) (s : CalRegs) (agc : BitVec 8) : CalRegs :=
  if btxcal then
    let s := rt2800RfcsrWriteBank s 5 58 ((rt2800RfcsrReadBank s 5 58 &&& ~~~0x7F) ||| agc)
    rt2800RfcsrWriteBank s 5 59 ((rt2800RfcsrReadBank s 5 59 &&& ~~~0x7F) ||| agc)
  else
    let s := rt2800RfcsrWriteBank s 5 6 ((rt2800RfcsrReadBank s 5 6 &&& ~~~0x7F) ||| agc)
    rt2800RfcsrWriteBank s 5 7 ((rt2800RfcsrReadBank s 5 7 &&& ~~~0x7F) ||| agc)

/-- The `do_cal` loop from gain compensation `agc`: measure, compare the difference to the
target, and go back with `agc + 1` while the difference is within the target and `agc` is
below `0x3f`. Returns the final compensation. -/
def doCal (btxcal isHt40 : Bool) (filterTarget : Nat) (calInit : Int) (agc : Nat)
    (s : CalRegs) : Nat × CalRegs :=
  let s := writeAgc btxcal s (BitVec.ofNat 8 agc)
  let s := rt2800BbpCoreSoftReset bw s false isHt40
  let r := rt2800LpTxFilterBwCal ans charSigned s
  let calDiff := toChar charSigned (calInit - r.1)
  if (calDiff > filterTarget ∧ agc = 0) ∨ (calDiff < filterTarget ∧ agc = 0x3f) then (0, r.2)
  else if h : calDiff ≤ filterTarget ∧ agc < 0x3f then
    doCal btxcal isHt40 filterTarget calInit (agc + 1) r.2
  else (agc, r.2)
termination_by 0x3f - agc
decreasing_by omega

def bwCalStore (btxcal : Bool) (loop : Nat) (s : CalRegs) (agc : BitVec 8) : CalRegs :=
  if btxcal then
    if loop = 0 then { s with txCalibrationBw20 := agc } else { s with txCalibrationBw40 := agc }
  else
    if loop = 0 then { s with rxCalibrationBw20 := agc } else { s with rxCalibrationBw40 := agc }

/-- One pass of the outer loop, `loop = 0` for 20 MHz and `loop = 1` for 40 MHz. -/
def bwCalPass (btxcal : Bool) (loop : Nat) (s : CalRegs) : CalRegs :=
  let isHt40 := loop != 0
  let filterTarget : Nat := if loop = 0 then (if btxcal then 0x09 else 0x27)
    else (if btxcal then 0x02 else 0x31)
  let v := rt2800RfcsrReadBank s 5 8 &&& ~~~0x04
  let s := rt2800RfcsrWriteBank s 5 8 (if loop = 1 then v ||| 0x4 else v)
  let s := rt2800BbpCoreSoftReset bw s true isHt40
  let s := rt2800RfLpConfig s btxcal
  let s := writeAgc btxcal s 0
  let r := rt2800BbpDcocRead s 2
  let s := rt2800BbpDcocWrite r.2 2 (r.1 &&& ~~~0x6)
  let s := rt2800BbpCoreSoftReset bw s false isHt40
  let init := rt2800LpTxFilterBwCal ans charSigned s
  let r := rt2800BbpDcocRead init.2 2
  let s := rt2800BbpDcocWrite r.2 2 (r.1 ||| 0x6)
  let cal := doCal bw ans charSigned btxcal isHt40 filterTarget init.1 0 s
  bwCalStore btxcal loop cal.2 (BitVec.ofNat 8 cal.1)

def rfcsrB5R1Poll : Nat → CalRegs → CalRegs
  | 0, s => s
  | n + 1, s =>
    let r := rt2800RfcsrReadBankHw ans s 5 1
    if r.1 &&& 0x1 = 0x00 then r.2 else rfcsrB5R1Poll n r.2

def bwCalSavedRfRegs : List Nat :=
  [0, 1, 3, 4, 5, 6, 7, 8, 17, 18, 19, 20, 37, 38, 39, 40, 41, 42, 43, 44, 45, 46, 58, 59]

/-- The values saved on entry: `MAC_RF_CONTROL0`, `MAC_RF_BYPASS0`, `savebbpr23`,
`savebbp159r0`, `savebbp159r2` and the `saverfb5rNN`. -/
structure BwCalSaved where
  macRfControl0 : BitVec 32
  macRfBypass0 : BitVec 32
  bbpR23 : BitVec 8
  bbp159R0 : BitVec 8
  bbp159R2 : BitVec 8
  rfB5 : List (Nat × BitVec 8)

def bwCalSave (s : CalRegs) : BwCalSaved × CalRegs :=
  let r0 := rt2800BbpDcocRead s 0
  let r2 := rt2800BbpDcocRead r0.2 2
  (⟨s.rfControl0, s.rfBypass0, rt2800BbpRead s 23, r0.1, r2.1,
    bwCalSavedRfRegs.map fun reg => (reg, rt2800RfcsrReadBank r2.2 5 reg)⟩, r2.2)

/-- The calibration proper: start the RF calibration and poll its done bit (40 reads at
most), set up BBP 23, then the 20 MHz and the 40 MHz pass. -/
def bwCalBody (btxcal : Bool) (s : CalRegs) : CalRegs :=
  let s := rt2800RfcsrWriteBank s 5 0 (rt2800RfcsrReadBank s 5 0 ||| 0x3)
  let s := rt2800RfcsrWriteBank s 5 1 (rt2800RfcsrReadBank s 5 1 ||| 0x1)
  let s := rfcsrB5R1Poll ans 40 s
  let s := rt2800RfcsrWriteBank s 5 0 ((rt2800RfcsrReadBank s 5 0 &&& ~~~0x3) ||| 0x1)
  let s := rt2800BbpWrite s 23 ((rt2800BbpRead s 23 &&& ~~~0x1F) ||| 0x10)
  bwCalPass bw ans charSigned btxcal 1 (bwCalPass bw ans charSigned btxcal 0 s)

/-- The restoring writes on exit, then the bandwidth of BBP 4 from `CONFIG_CHANNEL_HT40`. -/
def bwCalRestore (ht40 : Bool) (saved : BwCalSaved) (s : CalRegs) : CalRegs :=
  let s := saved.rfB5.foldl (fun s p => rt2800RfcsrWriteBank s 5 p.1 p.2) s
  let s := rt2800BbpWrite s 23 saved.bbpR23
  let s := rt2800BbpDcocWrite s 0 saved.bbp159R0
  let s := rt2800BbpDcocWrite s 2 saved.bbp159R2
  let s := rt2800BbpWrite s 4 (bw.set (rt2800BbpRead s 4) (if ht40 then 2 else 0))
  { s with rfControl0 := saved.macRfControl0, rfBypass0 := saved.macRfBypass0 }

/-- `rt2800_bw_filter_calibration`; `ht40` is `CONFIG_CHANNEL_HT40`. -/
def rt2800BwFilterCalibration (btxcal ht40 : Bool) (s : CalRegs) : CalRegs :=
  let saved := bwCalSave s
  bwCalRestore bw ht40 saved.1 (bwCalBody bw ans charSigned btxcal saved.2)

end Procedure

/-! ## The register accesses -/

section Accesses

variable (ans : Nat → BitVec 8) (s : CalRegs)

@[simp] theorem rt2800BbpWrite_eq (word : Nat) (value : BitVec 8) :
    rt2800BbpWrite s word value =
      { s with bbp := if word = 159 then s.bbp else Function.update s.bbp word value,
               dcoc := if word = 159 then Function.update s.dcoc (s.bbp 158).toNat value
                 else s.dcoc } := by
  unfold rt2800BbpWrite; split <;> simp_all

/-- Away from the DCOC window, a BBP write of the calibration is a write of the byte store
that the indirect access layer implements, its wait having succeeded. -/
theorem rt2800BbpWrite_bbp_of_ne {word : Nat} (h : word ≠ 159) (value sentinel : BitVec 8) :
    (rt2800BbpWrite s word value).bbp = (storeStep sentinel s.bbp (.write word value true)).1 := by
  simp [h, storeStep]

@[simp] theorem rt2800BbpDcocRead_fst (reg : BitVec 8) :
    (rt2800BbpDcocRead s reg).1 = s.dcoc reg.toNat := by
  simp [rt2800BbpDcocRead, rt2800BbpRead]

@[simp] theorem rt2800BbpDcocRead_snd (reg : BitVec 8) :
    (rt2800BbpDcocRead s reg).2 = rt2800BbpWrite s 158 reg := rfl

theorem rfcsrBankWord_five {r : Nat} (hr : r < 64) : rfcsrBankWord 5 r = r + 320 := by
  revert r; decide

theorem rfcsrBankWord_five_inj {r r' : Nat} (hr : r < 64) (hr' : r' < 64) :
    rfcsrBankWord 5 r = rfcsrBankWord 5 r' ↔ r = r' := by
  rw [rfcsrBankWord_five hr, rfcsrBankWord_five hr']; omega

theorem foldl_rfcsrWriteBank (L : List (Nat × BitVec 8)) :
    L.foldl (fun s p => rt2800RfcsrWriteBank s 5 p.1 p.2) s =
      { s with rf := L.foldl (fun f p => Function.update f (rfcsrBankWord 5 p.1) p.2) s.rf } := by
  induction L generalizing s with
  | nil => rfl
  | cons p L ih => exact ih _

section Restore

variable (g : Nat → BitVec 8) (f : Nat → BitVec 8)

theorem foldl_update_of_not_mem (L : List Nat) (w : Nat)
    (hw : w ∉ L.map (rfcsrBankWord 5)) :
    (L.map fun r => (r, g r)).foldl (fun f p => Function.update f (rfcsrBankWord 5 p.1) p.2) f w =
      f w := by
  induction L generalizing f with
  | nil => rfl
  | cons a L ih =>
    simp only [List.map_cons, List.mem_cons, not_or] at hw
    simp only [List.map_cons, List.foldl_cons]
    rw [ih _ hw.2, Function.update_noteq hw.1]

theorem foldl_update_of_mem (L : List Nat) (hL : ∀ r ∈ L, r < 64) {r : Nat} (hr : r ∈ L) :
    (L.map fun r => (r, g r)).foldl (fun f p => Function.update f (rfcsrBankWord 5 p.1) p.2) f
      (rfcsrBankWord 5 r) = g r := by
  induction L generalizing f with
  | nil => cases hr
  | cons a L ih =>
    simp only [List.map_cons, List.foldl_cons]
    by_cases hrL : r ∈ L
    · exact ih _ (fun r' h => hL r' (.tail _ h)) hrL
    · have hra : r = a := (List.mem_cons.mp hr).resolve_right hrL
      subst hra
      have hw : rfcsrBankWord 5 r ∉ L.map (rfcsrBankWord 5) := by
        simp only [List.mem_map, not_exists, not_and]
        intro r' hr' heq
        exact hrL ((rfcsrBankWord_five_inj (hL r' (.tail _ hr')) (hL r (.head _))).mp heq ▸ hr')
      rw [foldl_update_of_not_mem g _ L _ hw, Function.update_same]

end Restore

end Accesses

/-! ## Save and restore -/

section SaveRestore

variable (bw : Rt2x00Field 8)

theorem bwCalSave_fst (s : CalRegs) :
    (bwCalSave s).1 = ⟨s.rfControl0, s.rfBypass0, s.bbp 23, s.dcoc 0, s.dcoc 2,
      bwCalSavedRfRegs.map fun r => (r, s.rf (rfcsrBankWord 5 r))⟩ := by
  simp [bwCalSave, rt2800BbpRead, rt2800RfcsrReadBank]

theorem bwCalRestore_spec (ht40 : Bool) (c0 b0 : BitVec 32) (r23 d0 d2 : BitVec 8)
    (L : List Nat) (g : Nat → BitVec 8) (m : CalRegs) :
    let s := bwCalRestore bw ht40 ⟨c0, b0, r23, d0, d2, L.map fun r => (r, g r)⟩ m
    s.rf = (L.map fun r => (r, g r)).foldl
        (fun f p => Function.update f (rfcsrBankWord 5 p.1) p.2) m.rf ∧
      s.bbp 23 = r23 ∧ s.dcoc 0 = d0 ∧ s.dcoc 2 = d2 ∧ s.rfControl0 = c0 ∧
      s.rfBypass0 = b0 := by
  simp [bwCalRestore, rt2800BbpDcocWrite, rt2800BbpRead, foldl_rfcsrWriteBank,
    Function.update_apply]

end SaveRestore

/-- For every register state, both directions, either bandwidth flag, either signedness of
`char` and every sequence of hardware answers, `rt2800_bw_filter_calibration` returns with
each saved RF bank 5 register, BBP 23, DCOC registers 0 and 2, `RF_CONTROL0` and
`RF_BYPASS0` as they were before the call. -/
theorem rt2800BwFilterCalibration_restores (bw : Rt2x00Field 8) (ans : Nat → BitVec 8)
    (charSigned btxcal ht40 : Bool) (s : CalRegs) :
    let s' := rt2800BwFilterCalibration bw ans charSigned btxcal ht40 s
    (∀ r ∈ bwCalSavedRfRegs, s'.rf (rfcsrBankWord 5 r) = s.rf (rfcsrBankWord 5 r)) ∧
      s'.bbp 23 = s.bbp 23 ∧ s'.dcoc 0 = s.dcoc 0 ∧ s'.dcoc 2 = s.dcoc 2 ∧
      s'.rfControl0 = s.rfControl0 ∧ s'.rfBypass0 = s.rfBypass0 := by
  obtain ⟨hrf, h23, h0, h2, hc, hb⟩ := bwCalRestore_spec bw ht40 s.rfControl0 s.rfBypass0
    (s.bbp 23) (s.dcoc 0) (s.dcoc 2) bwCalSavedRfRegs (fun r => s.rf (rfcsrBankWord 5 r))
    (bwCalBody bw ans charSigned btxcal (bwCalSave s).2)
  simp only [rt2800BwFilterCalibration, bwCalSave_fst]
  refine ⟨fun r hr => ?_, h23, h0, h2, hc, hb⟩
  rw [hrf]
  exact foldl_update_of_mem _ _ _ (by decide) hr

/-! ## No other RF register is touched

Every RF register the procedure writes is one it saved, so after the restore the whole RF
register file is as it was: `rt2800BwFilterCalibration_rf`. The lemmas below follow one
word `w` outside the saved ones through each step of the procedure. -/

def IsSavedRfWord (w : Nat) : Prop := w ∈ bwCalSavedRfRegs.map (rfcsrBankWord 5)

section Frame

variable (bw : Rt2x00Field 8) (ans : Nat → BitVec 8) (charSigned : Bool)

theorem rt2800RfcsrWriteBank_rf_of_saved {w : Nat} (hw : ¬IsSavedRfWord w) {r : Nat}
    (hr : r ∈ bwCalSavedRfRegs) (s : CalRegs) (v : BitVec 8) :
    (rt2800RfcsrWriteBank s 5 r v).rf w = s.rf w :=
  Function.update_noteq (by rintro rfl; exact hw (List.mem_map_of_mem _ hr)) _ _

@[simp] theorem bwCalStore_rf (btxcal : Bool) (loop : Nat) (s : CalRegs) (agc : BitVec 8) :
    (bwCalStore btxcal loop s agc).rf = s.rf := by
  unfold bwCalStore; split_ifs <;> rfl

@[simp] theorem rt2800BbpDcocWrite_rf (s : CalRegs) (reg v : BitVec 8) :
    (rt2800BbpDcocWrite s reg v).rf = s.rf := by
  simp [rt2800BbpDcocWrite]

@[simp] theorem rt2800BbpCoreSoftReset_rf (s : CalRegs) (setBw isHt40 : Bool) :
    (rt2800BbpCoreSoftReset bw s setBw isHt40).rf = s.rf := by
  cases setBw <;> simp [rt2800BbpCoreSoftReset]

@[simp] theorem bbp159Poll_rf (n : Nat) (s : CalRegs) : (bbp159Poll ans n s).rf = s.rf := by
  induction n generalizing s with
  | zero => rfl
  | succ n ih =>
    simp only [bbp159Poll]
    split
    · simp [rt2800BbpReadHw]
    · rw [ih]; simp [rt2800BbpReadHw]

@[simp] theorem rt2800LpTxFilterBwCal_rf (s : CalRegs) :
    (rt2800LpTxFilterBwCal ans charSigned s).2.rf = s.rf := by
  simp [rt2800LpTxFilterBwCal, rt2800BbpDcocReadHw, rt2800BbpReadHw]

theorem writeAgc_rf_of_unsaved {w : Nat} (hw : ¬IsSavedRfWord w) (btxcal : Bool) (s : CalRegs)
    (agc : BitVec 8) : (writeAgc btxcal s agc).rf w = s.rf w := by
  cases btxcal <;>
    simp (disch := decide) only [writeAgc, rt2800RfcsrWriteBank_rf_of_saved hw, Bool.false_eq_true,
      ↓reduceIte]

theorem rt2800RfLpConfig_rf_of_unsaved {w : Nat} (hw : ¬IsSavedRfWord w) (s : CalRegs)
    (btxcal : Bool) : (rt2800RfLpConfig s btxcal).rf w = s.rf w := by
  cases btxcal <;>
    simp (disch := decide) only [rt2800RfLpConfig, rt2800RfcsrWriteBank_rf_of_saved hw,
      Bool.false_eq_true, ↓reduceIte]

theorem doCal_rf_of_unsaved {w : Nat} (hw : ¬IsSavedRfWord w) (btxcal isHt40 : Bool)
    (filterTarget : Nat) (calInit : Int) (agc : Nat) (s : CalRegs) :
    (doCal bw ans charSigned btxcal isHt40 filterTarget calInit agc s).2.rf w = s.rf w := by
  have hmeasure : ∀ (agc : BitVec 8) (s : CalRegs), (rt2800LpTxFilterBwCal ans charSigned
      (rt2800BbpCoreSoftReset bw (writeAgc btxcal s agc) false isHt40)).2.rf w = s.rf w := by
    intro agc s
    simp only [rt2800LpTxFilterBwCal_rf, rt2800BbpCoreSoftReset_rf, writeAgc_rf_of_unsaved hw]
  induction agc, s using doCal.induct bw ans charSigned btxcal isHt40 filterTarget calInit with
  | case1 agc s _ _ _ _ hout =>
    rw [doCal, if_pos hout]
    exact hmeasure _ s
  | case2 agc s _ _ _ _ hout hnext ih =>
    rw [doCal, if_neg hout, dif_pos hnext]
    exact ih.trans (hmeasure _ s)
  | case3 agc s _ _ _ _ hout hnext =>
    rw [doCal, if_neg hout, dif_neg hnext]
    exact hmeasure _ s

theorem bwCalPass_rf_of_unsaved {w : Nat} (hw : ¬IsSavedRfWord w) (btxcal : Bool) (loop : Nat)
    (s : CalRegs) : (bwCalPass bw ans charSigned btxcal loop s).rf w = s.rf w := by
  simp only [bwCalPass, bwCalStore_rf, doCal_rf_of_unsaved bw ans charSigned hw,
    rt2800BbpDcocWrite_rf, rt2800BbpDcocRead_snd, rt2800BbpWrite_eq, rt2800LpTxFilterBwCal_rf,
    rt2800BbpCoreSoftReset_rf, writeAgc_rf_of_unsaved hw, rt2800RfLpConfig_rf_of_unsaved hw]
  exact rt2800RfcsrWriteBank_rf_of_saved hw (by decide) s _

theorem rfcsrB5R1Poll_rf_of_unsaved {w : Nat} (hw : ¬IsSavedRfWord w) (n : Nat) (s : CalRegs) :
    (rfcsrB5R1Poll ans n s).rf w = s.rf w := by
  induction n generalizing s with
  | zero => rfl
  | succ n ih =>
    have hread : (rt2800RfcsrReadBankHw ans s 5 1).2.rf w = s.rf w :=
      rt2800RfcsrWriteBank_rf_of_saved hw (by decide) s _
    simp only [rfcsrB5R1Poll]
    split
    · exact hread
    · exact (ih _).trans hread

theorem bwCalBody_rf_of_unsaved {w : Nat} (hw : ¬IsSavedRfWord w) (btxcal : Bool)
    (s : CalRegs) : (bwCalBody bw ans charSigned btxcal s).rf w = s.rf w := by
  simp (disch := decide) only [bwCalBody, bwCalPass_rf_of_unsaved bw ans charSigned hw,
    rt2800BbpWrite_eq, rfcsrB5R1Poll_rf_of_unsaved ans hw, rt2800RfcsrWriteBank_rf_of_saved hw]

end Frame

/-! ## What the calibration caches

The search is read off the answer stream: a status poll stops after the first answer it
accepts or after its last read (`pollEnd`), a measurement takes the answer after its poll
(`lpCalValue`), and `calSearch` makes the `do_cal` decisions on those readouts with a budget
of measurements. `calSearch_doCal` shows that `do_cal` from gain 0 is that search and never
needs more than 64 measurements; `rt2800BwFilterCalibration_cache` that the values the
procedure caches are the search's, whatever the registers and the layout of `BBP4`. -/

def CalRegs.cache (s : CalRegs) : BitVec 8 × BitVec 8 × BitVec 8 × BitVec 8 :=
  (s.txCalibrationBw20, s.txCalibrationBw40, s.rxCalibrationBw20, s.rxCalibrationBw40)

section Stream

variable (ans : Nat → BitVec 8) (charSigned : Bool)

/-- Where a status poll of at most `n` reads from stream position `p` leaves the stream: after
the first answer `done` accepts, or after all `n`. -/
def pollEnd (done : BitVec 8 → Bool) : Nat → Nat → Nat
  | 0, p => p
  | n + 1, p => if done (ans p) then p + 1 else pollEnd done n (p + 1)

/-- The value `rt2800_lp_tx_filter_bw_cal` returns for the ADC byte `b`, computed in `char`. -/
def lpCalValue (b : BitVec 8) : Int :=
  let calVal := toChar charSigned (b &&& 0x7F).toNat
  toChar charSigned (if calVal ≥ 0x40 then calVal - 128 else calVal)

/-- The `do_cal` search on the answer stream: from gain compensation `agc`, the next poll
starting at `p`, with a budget of `n` measurements; the value stored and the position after
the last readout, or `none` if the budget runs out. -/
def calSearch (filterTarget : Nat) (calInit : Int) : Nat → Nat → Nat → Option (Nat × Nat)
  | 0, _, _ => none
  | n + 1, agc, p =>
    let q := pollEnd ans (· == 0x02) 20 p
    let calDiff := toChar charSigned (calInit - lpCalValue charSigned (ans q))
    if (calDiff > filterTarget ∧ agc = 0) ∨ (calDiff < filterTarget ∧ agc = 0x3f) then
      some (0, q + 1)
    else if calDiff ≤ filterTarget ∧ agc < 0x3f then
      calSearch filterTarget calInit n (agc + 1) (q + 1)
    else some (agc, q + 1)

def calPass (filterTarget : Nat) (p : Nat) : Option (Nat × Nat) :=
  let q := pollEnd ans (· == 0x02) 20 p
  calSearch ans charSigned filterTarget (lpCalValue charSigned (ans q)) 0x40 0 (q + 1)

def calResults (btxcal : Bool) (p : Nat) : Option (Nat × Nat) := do
  let p := pollEnd ans (fun v => v &&& 0x1 == 0x00) 40 p
  let (v20, p) ← calPass ans charSigned (if btxcal then 0x09 else 0x27) p
  let (v40, _) ← calPass ans charSigned (if btxcal then 0x02 else 0x31) p
  pure (v20, v40)

theorem pollEnd_le (done : BitVec 8 → Bool) (n p : Nat) : pollEnd ans done n p ≤ p + n := by
  induction n generalizing p with
  | zero => exact Nat.le_refl p
  | succ n ih =>
    unfold pollEnd
    split
    · omega
    · have := ih (p + 1); omega

theorem calSearch_le {filterTarget : Nat} {calInit : Int} {n agc p v p' : Nat}
    (h : calSearch ans charSigned filterTarget calInit n agc p = some (v, p')) (hagc : agc ≤ 0x3f) :
    v ≤ 0x3f := by
  induction n generalizing agc p with
  | zero => cases h
  | succ n ih =>
    simp only [calSearch] at h
    split_ifs at h with hout hnext
    · cases h; omega
    · exact ih h (by omega)
    · cases h; exact hagc

theorem calResults_le {btxcal : Bool} {p v20 v40 : Nat}
    (h : calResults ans charSigned btxcal p = some (v20, v40)) : v20 ≤ 0x3f ∧ v40 ≤ 0x3f := by
  simp only [calResults, calPass, Option.bind_eq_bind, Option.bind_eq_some] at h
  obtain ⟨⟨a, pa⟩, ha, ⟨b, pb⟩, hb, hab⟩ := h
  cases hab
  exact ⟨calSearch_le ans charSigned ha (by decide), calSearch_le ans charSigned hb (by decide)⟩

end Stream

section Results

variable (bw : Rt2x00Field 8) (ans : Nat → BitVec 8) (charSigned : Bool)

@[simp] theorem rt2800BbpWrite_hwReads (s : CalRegs) (word : Nat) (v : BitVec 8) :
    (rt2800BbpWrite s word v).hwReads = s.hwReads := by
  unfold rt2800BbpWrite; split <;> rfl

@[simp] theorem rt2800BbpWrite_cache (s : CalRegs) (word : Nat) (v : BitVec 8) :
    (rt2800BbpWrite s word v).cache = s.cache := by
  unfold rt2800BbpWrite; split <;> rfl

@[simp] theorem rt2800RfcsrWriteBank_hwReads (s : CalRegs) (bank reg : Nat) (v : BitVec 8) :
    (rt2800RfcsrWriteBank s bank reg v).hwReads = s.hwReads := rfl

@[simp] theorem rt2800RfcsrWriteBank_cache (s : CalRegs) (bank reg : Nat) (v : BitVec 8) :
    (rt2800RfcsrWriteBank s bank reg v).cache = s.cache := rfl

@[simp] theorem rt2800RfLpConfig_hwReads (s : CalRegs) (btxcal : Bool) :
    (rt2800RfLpConfig s btxcal).hwReads = s.hwReads := by
  cases btxcal <;> rfl

@[simp] theorem rt2800RfLpConfig_cache (s : CalRegs) (btxcal : Bool) :
    (rt2800RfLpConfig s btxcal).cache = s.cache := by
  cases btxcal <;> rfl

@[simp] theorem CalRegs.cache_hwReads (s : CalRegs) (n : Nat) :
    { s with hwReads := n }.cache = s.cache := rfl

@[simp] theorem rt2800BbpDcocWrite_hwReads (s : CalRegs) (reg v : BitVec 8) :
    (rt2800BbpDcocWrite s reg v).hwReads = s.hwReads := by
  simp only [rt2800BbpDcocWrite, rt2800BbpWrite_hwReads]

@[simp] theorem rt2800BbpDcocWrite_cache (s : CalRegs) (reg v : BitVec 8) :
    (rt2800BbpDcocWrite s reg v).cache = s.cache := by
  simp only [rt2800BbpDcocWrite, rt2800BbpWrite_cache]

@[simp] theorem rt2800BbpCoreSoftReset_hwReads (s : CalRegs) (setBw isHt40 : Bool) :
    (rt2800BbpCoreSoftReset bw s setBw isHt40).hwReads = s.hwReads := by
  cases setBw <;> simp [rt2800BbpCoreSoftReset]

@[simp] theorem rt2800BbpCoreSoftReset_cache (s : CalRegs) (setBw isHt40 : Bool) :
    (rt2800BbpCoreSoftReset bw s setBw isHt40).cache = s.cache := by
  cases setBw <;> simp [rt2800BbpCoreSoftReset, CalRegs.cache]

@[simp] theorem writeAgc_hwReads (btxcal : Bool) (s : CalRegs) (agc : BitVec 8) :
    (writeAgc btxcal s agc).hwReads = s.hwReads := by
  cases btxcal <;> rfl

@[simp] theorem writeAgc_cache (btxcal : Bool) (s : CalRegs) (agc : BitVec 8) :
    (writeAgc btxcal s agc).cache = s.cache := by
  cases btxcal <;> rfl

theorem bbp159Poll_spec (n : Nat) (s : CalRegs) :
    (bbp159Poll ans n s).hwReads = pollEnd ans (· == 0x02) n s.hwReads ∧
      (bbp159Poll ans n s).cache = s.cache := by
  induction n generalizing s with
  | zero => exact ⟨rfl, rfl⟩
  | succ n ih =>
    simp only [bbp159Poll, pollEnd, rt2800BbpReadHw, beq_iff_eq]
    split
    · simp [CalRegs.cache]
    · obtain ⟨h1, h2⟩ := ih { rt2800BbpWrite s 159 (ans s.hwReads) with hwReads := s.hwReads + 1 }
      exact ⟨h1, h2.trans (by simp [CalRegs.cache])⟩

theorem rfcsrB5R1Poll_spec (n : Nat) (s : CalRegs) :
    (rfcsrB5R1Poll ans n s).hwReads = pollEnd ans (fun v => v &&& 0x1 == 0x00) n s.hwReads ∧
      (rfcsrB5R1Poll ans n s).cache = s.cache := by
  induction n generalizing s with
  | zero => exact ⟨rfl, rfl⟩
  | succ n ih =>
    simp only [rfcsrB5R1Poll, pollEnd, rt2800RfcsrReadBankHw, beq_iff_eq]
    split
    · exact ⟨rfl, rfl⟩
    · exact ih _

theorem rt2800LpTxFilterBwCal_spec (s : CalRegs) :
    let q := pollEnd ans (· == 0x02) 20 s.hwReads
    (rt2800LpTxFilterBwCal ans charSigned s).1 = lpCalValue charSigned (ans q) ∧
      (rt2800LpTxFilterBwCal ans charSigned s).2.hwReads = q + 1 ∧
      (rt2800LpTxFilterBwCal ans charSigned s).2.cache = s.cache := by
  obtain ⟨h1, h2⟩ := bbp159Poll_spec ans 20 (rt2800BbpDcocWrite s 0 0x82)
  simp only [rt2800BbpDcocWrite_hwReads, rt2800BbpDcocWrite_cache] at h1 h2
  simp only [rt2800LpTxFilterBwCal, rt2800BbpDcocReadHw, rt2800BbpReadHw]
  generalize bbp159Poll ans 20 (rt2800BbpDcocWrite s 0 0x82) = t at h1 h2 ⊢
  simp only [rt2800BbpWrite_hwReads, CalRegs.cache_hwReads, rt2800BbpWrite_cache, h1, h2,
    lpCalValue, and_self]


theorem doCal_measure (btxcal isHt40 : Bool) (agc : Nat) (s : CalRegs) :
    let r := rt2800LpTxFilterBwCal ans charSigned
      (rt2800BbpCoreSoftReset bw (writeAgc btxcal s (BitVec.ofNat 8 agc)) false isHt40)
    let q := pollEnd ans (· == 0x02) 20 s.hwReads
    r.1 = lpCalValue charSigned (ans q) ∧ r.2.hwReads = q + 1 ∧ r.2.cache = s.cache := by
  simpa using rt2800LpTxFilterBwCal_spec ans charSigned
    (rt2800BbpCoreSoftReset bw (writeAgc btxcal s (BitVec.ofNat 8 agc)) false isHt40)

/-- `do_cal` from a gain `agc ≤ 0x3f` is the search on the answer stream, which finishes within
`0x40 - agc` measurements; it leaves the cached results alone. -/
theorem calSearch_doCal (btxcal isHt40 : Bool) (filterTarget : Nat) (calInit : Int) (agc : Nat)
    (s : CalRegs) (hagc : agc ≤ 0x3f) :
    calSearch ans charSigned filterTarget calInit (0x40 - agc) agc s.hwReads =
        some ((doCal bw ans charSigned btxcal isHt40 filterTarget calInit agc s).1,
          (doCal bw ans charSigned btxcal isHt40 filterTarget calInit agc s).2.hwReads) ∧
      (doCal bw ans charSigned btxcal isHt40 filterTarget calInit agc s).2.cache = s.cache := by
  induction agc, s using doCal.induct bw ans charSigned btxcal isHt40 filterTarget calInit with
  | case1 agc s _ _ _ _ hout =>
    obtain ⟨h1, h2, h3⟩ := doCal_measure bw ans charSigned btxcal isHt40 agc s
    rw [show 0x40 - agc = 0x3f - agc + 1 by omega, calSearch, doCal, ← h1, if_pos hout,
      if_pos hout, h2]
    exact ⟨rfl, h3⟩
  | case2 agc s _ _ _ _ hout hnext ih =>
    obtain ⟨h1, h2, h3⟩ := doCal_measure bw ans charSigned btxcal isHt40 agc s
    rw [show 0x40 - agc = 0x40 - (agc + 1) + 1 by omega, calSearch, doCal, ← h1, if_neg hout,
      if_neg hout, if_pos hnext, dif_pos hnext, ← h2]
    obtain ⟨ih1, ih2⟩ := ih (by omega)
    exact ⟨ih1, ih2.trans h3⟩
  | case3 agc s _ _ _ _ hout hnext =>
    obtain ⟨h1, h2, h3⟩ := doCal_measure bw ans charSigned btxcal isHt40 agc s
    rw [show 0x40 - agc = 0x3f - agc + 1 by omega, calSearch, doCal, ← h1, if_neg hout,
      if_neg hout, if_neg hnext, dif_neg hnext, h2]
    exact ⟨rfl, h3⟩
@[simp] theorem bwCalStore_hwReads (btxcal : Bool) (loop : Nat) (s : CalRegs) (v : BitVec 8) :
    (bwCalStore btxcal loop s v).hwReads = s.hwReads := by
  unfold bwCalStore; split_ifs <;> rfl

theorem bwCalStore_cache_eq {t s : CalRegs} (h : t.cache = s.cache) (btxcal : Bool) (loop : Nat)
    (v : BitVec 8) : (bwCalStore btxcal loop t v).cache = (bwCalStore btxcal loop s v).cache := by
  simp only [CalRegs.cache, Prod.mk.injEq] at h
  unfold bwCalStore
  split_ifs <;> simp [CalRegs.cache, h]

theorem bwCalPass_spec (btxcal : Bool) (loop : Nat) (s : CalRegs) :
    ∃ v, calPass ans charSigned (if loop = 0 then (if btxcal then 0x09 else 0x27)
          else (if btxcal then 0x02 else 0x31)) s.hwReads =
        some (v, (bwCalPass bw ans charSigned btxcal loop s).hwReads) ∧
      (bwCalPass bw ans charSigned btxcal loop s).cache =
        (bwCalStore btxcal loop s (BitVec.ofNat 8 v)).cache := by
  simp only [bwCalPass]
  generalize hS1 : rt2800BbpCoreSoftReset bw (rt2800BbpDcocWrite _ 2 _) false _ = S1
  have e1 : S1.hwReads = s.hwReads ∧ S1.cache = s.cache := by
    subst hS1
    simp only [rt2800BbpCoreSoftReset_hwReads, rt2800BbpCoreSoftReset_cache,
      rt2800BbpDcocWrite_hwReads, rt2800BbpDcocWrite_cache, rt2800BbpDcocRead_snd,
      rt2800BbpWrite_hwReads, rt2800BbpWrite_cache, writeAgc_hwReads, writeAgc_cache,
      rt2800RfLpConfig_hwReads, rt2800RfLpConfig_cache, rt2800RfcsrWriteBank_hwReads,
      rt2800RfcsrWriteBank_cache, and_self]
  obtain ⟨m1, m2, m3⟩ := rt2800LpTxFilterBwCal_spec ans charSigned S1
  generalize hS2 :
    rt2800BbpDcocWrite (rt2800BbpDcocRead (rt2800LpTxFilterBwCal ans charSigned S1).2 2).2 2 _ = S2
  have e2 : S2.hwReads = pollEnd ans (· == 0x02) 20 S1.hwReads + 1 ∧ S2.cache = s.cache := by
    subst hS2
    simp only [rt2800BbpDcocWrite_hwReads, rt2800BbpDcocWrite_cache, rt2800BbpDcocRead_snd,
      rt2800BbpWrite_hwReads, rt2800BbpWrite_cache, m2, m3, e1.2, and_self]
  obtain ⟨c1, c2⟩ := calSearch_doCal bw ans charSigned btxcal (loop != 0)
    (if loop = 0 then (if btxcal then 0x09 else 0x27) else (if btxcal then 0x02 else 0x31))
    (rt2800LpTxFilterBwCal ans charSigned S1).1 0 S2 (Nat.zero_le _)
  refine ⟨_, ?_, (bwCalStore_cache_eq (c2.trans e2.2) _ _ _).trans rfl⟩
  rw [bwCalStore_hwReads, ← c1, e2.1, m1, ← e1.1]
  rfl

theorem bwCalBody_spec (btxcal : Bool) (s : CalRegs) :
    ∃ v20 v40, calResults ans charSigned btxcal s.hwReads = some (v20, v40) ∧
      (bwCalBody bw ans charSigned btxcal s).cache = (bwCalStore btxcal 1
        (bwCalStore btxcal 0 s (BitVec.ofNat 8 v20)) (BitVec.ofNat 8 v40)).cache := by
  simp only [bwCalBody]
  generalize hS0 : rt2800BbpWrite (rt2800RfcsrWriteBank (rfcsrB5R1Poll ans 40 _) 5 0 _) 23 _ = S0
  have e0 : S0.hwReads = pollEnd ans (fun v => v &&& 0x1 == 0x00) 40 s.hwReads ∧
      S0.cache = s.cache := by
    subst hS0
    simp only [rt2800BbpWrite_hwReads, rt2800BbpWrite_cache, rt2800RfcsrWriteBank_hwReads,
      rt2800RfcsrWriteBank_cache, (rfcsrB5R1Poll_spec ans 40 _).1, (rfcsrB5R1Poll_spec ans 40 _).2,
      and_self]
  obtain ⟨v20, h20, c20⟩ := bwCalPass_spec bw ans charSigned btxcal 0 S0
  obtain ⟨v40, h40, c40⟩ := bwCalPass_spec bw ans charSigned btxcal 1
    (bwCalPass bw ans charSigned btxcal 0 S0)
  refine ⟨v20, v40, ?_, ?_⟩
  · rw [if_pos rfl] at h20
    rw [if_neg Nat.one_ne_zero] at h40
    simp only [calResults, ← e0.1, h20, h40, Option.bind_eq_bind, Option.some_bind]
    rfl
  · rw [c40, bwCalStore_cache_eq c20, bwCalStore_cache_eq (bwCalStore_cache_eq e0.2 _ _ _)]
@[simp] theorem bwCalRestore_cache (ht40 : Bool) (saved : BwCalSaved) (s : CalRegs) :
    (bwCalRestore bw ht40 saved s).cache = s.cache := by
  simp [bwCalRestore, foldl_rfcsrWriteBank, CalRegs.cache, rt2800BbpDcocWrite]

/-- The values `rt2800_bw_filter_calibration` caches are those of the search on the answer
stream: they depend on the hardware's answers alone, not on the registers or on the layout of
`BBP4`, and the other direction's values are kept. -/
theorem rt2800BwFilterCalibration_cache (btxcal ht40 : Bool) (s : CalRegs) :
    ∃ v20 v40, calResults ans charSigned btxcal s.hwReads = some (v20, v40) ∧
      (rt2800BwFilterCalibration bw ans charSigned btxcal ht40 s).cache = (bwCalStore btxcal 1
        (bwCalStore btxcal 0 s (BitVec.ofNat 8 v20)) (BitVec.ofNat 8 v40)).cache := by
  have e : (bwCalSave s).2.hwReads = s.hwReads ∧ (bwCalSave s).2.cache = s.cache := by
    simp only [bwCalSave, rt2800BbpDcocRead_snd, rt2800BbpWrite_hwReads, rt2800BbpWrite_cache,
      and_self]
  obtain ⟨v20, v40, h, c⟩ := bwCalBody_spec bw ans charSigned btxcal (bwCalSave s).2
  refine ⟨v20, v40, e.1 ▸ h, ?_⟩
  rw [rt2800BwFilterCalibration, bwCalRestore_cache, c,
    bwCalStore_cache_eq (bwCalStore_cache_eq e.2 _ _ _)]
end Results

/-- `rt2800_bw_filter_calibration` leaves the whole RF register file as it found it: the
registers it writes are all among those it saves and restores. -/
theorem rt2800BwFilterCalibration_rf (bw : Rt2x00Field 8) (ans : Nat → BitVec 8)
    (charSigned btxcal ht40 : Bool) (s : CalRegs) :
    (rt2800BwFilterCalibration bw ans charSigned btxcal ht40 s).rf = s.rf := by
  obtain ⟨hrf, -⟩ := bwCalRestore_spec bw ht40 s.rfControl0 s.rfBypass0
    (s.bbp 23) (s.dcoc 0) (s.dcoc 2) bwCalSavedRfRegs (fun r => s.rf (rfcsrBankWord 5 r))
    (bwCalBody bw ans charSigned btxcal (bwCalSave s).2)
  simp only [rt2800BwFilterCalibration, bwCalSave_fst]
  funext w
  rw [hrf]
  by_cases hw : IsSavedRfWord w
  · obtain ⟨r, hr, rfl⟩ := List.mem_map.mp hw
    exact foldl_update_of_mem _ _ _ (by decide) hr
  · rw [foldl_update_of_not_mem _ _ _ _ hw, bwCalBody_rf_of_unsaved bw ans charSigned hw]
    simp [bwCalSave]

/-- For every sequence of hardware answers: each `do_cal` search (every target, initial readout
and register state) is the search on the answer stream with a budget of 64 measurements, the
`k`-th at gain `k`, and finishes within it; the done-bit poll and the BBP 159 poll read at most
40 and 20 answers; the gain the search stores is at most `0x3f`; and after the TX and then the
RX calibration of the RF init, all four cached values fit the six-bit field
`rt2800_config_channel_rf7620` ORs them into. -/
theorem rt2800BwFilterCalibration_bounded (bw : Rt2x00Field 8) (ans : Nat → BitVec 8)
    (charSigned : Bool) :
    (∀ btxcal isHt40 filterTarget calInit s,
      calSearch ans charSigned filterTarget calInit 0x40 0 s.hwReads =
        some ((doCal bw ans charSigned btxcal isHt40 filterTarget calInit 0 s).1,
          (doCal bw ans charSigned btxcal isHt40 filterTarget calInit 0 s).2.hwReads)) ∧
    (∀ s, (rfcsrB5R1Poll ans 40 s).hwReads ≤ s.hwReads + 40) ∧
    (∀ s, (bbp159Poll ans 20 s).hwReads ≤ s.hwReads + 20) ∧
    (∀ btxcal isHt40 filterTarget calInit s,
      (doCal bw ans charSigned btxcal isHt40 filterTarget calInit 0 s).1 ≤ 0x3f) ∧
    (∀ ht40 s,
      let s' := rt2800BwFilterCalibration bw ans charSigned false ht40
        (rt2800BwFilterCalibration bw ans charSigned true ht40 s)
      s'.txCalibrationBw20.toNat ≤ 0x3f ∧ s'.txCalibrationBw40.toNat ≤ 0x3f ∧
        s'.rxCalibrationBw20.toNat ≤ 0x3f ∧ s'.rxCalibrationBw40.toNat ≤ 0x3f) := by
  have hsearch := fun btxcal isHt40 filterTarget calInit s =>
    (calSearch_doCal bw ans charSigned btxcal isHt40 filterTarget calInit 0 s (Nat.zero_le _)).1
  refine ⟨hsearch, fun s => ?_, fun s => ?_, fun btxcal isHt40 filterTarget calInit s =>
    calSearch_le ans charSigned (hsearch btxcal isHt40 filterTarget calInit s) (Nat.zero_le _),
    fun ht40 s => ?_⟩
  · rw [(rfcsrB5R1Poll_spec ans 40 s).1]; exact pollEnd_le ans _ 40 _
  · rw [(bbp159Poll_spec ans 20 s).1]; exact pollEnd_le ans _ 20 _
  · obtain ⟨a20, a40, ha, hca⟩ := rt2800BwFilterCalibration_cache bw ans charSigned true ht40 s
    obtain ⟨b20, b40, hb, hcb⟩ := rt2800BwFilterCalibration_cache bw ans charSigned false ht40
      (rt2800BwFilterCalibration bw ans charSigned true ht40 s)
    have ⟨ha20, ha40⟩ := calResults_le ans charSigned ha
    have ⟨hb20, hb40⟩ := calResults_le ans charSigned hb
    simp only [CalRegs.cache, bwCalStore, Prod.mk.injEq, ↓reduceIte, Bool.false_eq_true,
      one_ne_zero] at hca hcb
    simp only [hcb.1, hcb.2.1, hca.1, hca.2.1, hcb.2.2.1, hcb.2.2.2, BitVec.toNat_ofNat]
    omega

/-- An answer stream on which the readout first rises by one above the initial one and then
falls to `-64`: where `char` is signed the 20 MHz TX search goes on to gain 1 and caches it,
where it is unsigned the rise is a difference of 255 and the search stops at once with 0,
whatever the registers and the layout of `BBP4`. -/
theorem rt2800BwFilterCalibration_char_signedness (bw : Rt2x00Field 8) (s : CalRegs) :
    let ans : Nat → BitVec 8 := fun n => [0x00, 0x02, 0x00, 0x02, 0x01, 0x02, 0x40].getD n 0x02
    (rt2800BwFilterCalibration bw ans true true false
        { s with hwReads := 0 }).txCalibrationBw20 = 1 ∧
      (rt2800BwFilterCalibration bw ans false true false
        { s with hwReads := 0 }).txCalibrationBw20 = 0 := by
  intro ans
  obtain ⟨a20, a40, ha, hca⟩ := rt2800BwFilterCalibration_cache bw ans true true false
    { s with hwReads := 0 }
  obtain ⟨b20, b40, hb, hcb⟩ := rt2800BwFilterCalibration_cache bw ans false true false
    { s with hwReads := 0 }
  have hsigned : calResults ans true true 0 = some (1, 0) := by decide
  have hunsigned : calResults ans false true 0 = some (0, 0) := by decide
  rw [hsigned, Option.some.injEq, Prod.mk.injEq] at ha
  rw [hunsigned, Option.some.injEq, Prod.mk.injEq] at hb
  simp only [CalRegs.cache, bwCalStore, Prod.mk.injEq, ↓reduceIte, one_ne_zero] at hca hcb
  rw [hca.1, hcb.1, ← ha.1, ← hb.1]
  exact ⟨rfl, rfl⟩

end WifiCoconut
