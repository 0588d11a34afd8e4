import Mathlib.Data.Fintype.Basic
import Mathlib.Tactic.FinCases
import WifiCoconut.Chip
import WifiCoconut.Field

/-!
# The antenna enables of `TX_PIN_CFG`

`TX_PIN_CFG` holds a PA and an LNA enable per chain and band. `rt2800_config_channel` builds the
word with two falling-through `switch`es on the chain counts; `rt2800_vco_calibration` masks
every PA off, recalibrates the oscillator and turns the PAs of the current band on again. The
layout is a parameter (`TxPinCfg`). A recalibration right after a channel change gives back the
channel change's word, but for the Bluetooth coexistence PA and for the RF chipsets its switch
does not name (`rt2800VcoCalibration_after_configChannel`).
-/

namespace WifiCoconut

/-- The fields of `TX_PIN_CFG` the code sets: `TX_PIN_CFG_PA_PE_{A,G}{0,1,2}_EN`,
`TX_PIN_CFG_LNA_PE_{A,G}{0,1,2}_EN`, `TX_PIN_CFG_RFTR_EN`, `TX_PIN_CFG_TRSW_EN` and
`TX_PIN_CFG_RFRX_EN`. -/
inductive TxPinField
  | paPeA (chain : Fin 3)
  | paPeG (chain : Fin 3)
  | lnaPeA (chain : Fin 3)
  | lnaPeG (chain : Fin 3)
  | rftrEn
  | trswEn
  | rfrxEn
  deriving DecidableEq, Fintype, Repr

/-- The layout of `TX_PIN_CFG`: the bit of each field, no two the same, and
`TX_PIN_CFG_PA_PE_DISABLE`, whose clear bits are exactly the six PA enables. -/
structure TxPinCfg where
  offset : TxPinField → Nat
  lt : ∀ f, offset f < 32
  injective : Function.Injective offset
  paPeDisable : BitVec 32
  paPeDisable_clears : ∀ j < 32,
    paPeDisable.getLsbD j = false ↔ ∃ i, j = offset (.paPeA i) ∨ j = offset (.paPeG i)

def truthValue (p : Prop) [Decidable p] : BitVec 32 := if p then 1 else 0

@[simp] theorem truthValue_getLsbD_zero (p : Prop) [Decidable p] :
    (truthValue p).getLsbD 0 = decide p := by
  unfold truthValue; split <;> simp_all

namespace TxPinCfg

variable (l : TxPinCfg)

def field (f : TxPinField) : Rt2x00Field 32 := Rt2x00Field.bit (l.offset f)

@[simp] theorem offset_inj {f g : TxPinField} : l.offset f = l.offset g ↔ f = g :=
  l.injective.eq_iff

theorem getLsbD_set_field (f : TxPinField) (reg v : BitVec 32) (j : Nat) :
    ((l.field f).set reg v).getLsbD j = if j = l.offset f then v.getLsbD 0 else reg.getLsbD j :=
  Rt2x00Field.getLsbD_set_bit (l.lt f) reg v j

theorem paPeDisable_pa (i : Fin 3) :
    l.paPeDisable.getLsbD (l.offset (.paPeA i)) = false ∧
      l.paPeDisable.getLsbD (l.offset (.paPeG i)) = false :=
  ⟨(l.paPeDisable_clears _ (l.lt _)).mpr ⟨i, .inl rfl⟩,
    (l.paPeDisable_clears _ (l.lt _)).mpr ⟨i, .inr rfl⟩⟩

theorem ne_pa_of_paPeDisable {j : Nat} (hm : l.paPeDisable.getLsbD j = true) (i : Fin 3) :
    j ≠ l.offset (.paPeA i) ∧ j ≠ l.offset (.paPeG i) := by
  obtain ⟨hA, hG⟩ := l.paPeDisable_pa i
  exact ⟨by rintro rfl; simp_all, by rintro rfl; simp_all⟩

end TxPinCfg

/-! ## The channel change -/

/-- A `switch` on a chain count whose cases 3, 2 and 1 fall through to the next, with no
`default`: `case3`, `case2` and `case1` are the statements of each case. -/
def chainSwitch (case3 case2 case1 : BitVec 32 → BitVec 32) : Nat → BitVec 32 → BitVec 32
  | 3, t => case1 (case2 (case3 t))
  | 2, t => case1 (case2 t)
  | 1, t => case1 t
  | _, t => t

def bandPair (l : TxPinCfg) (a g : TxPinField) (channel : Nat) (t : BitVec 32) : BitVec 32 :=
  (l.field g).set ((l.field a).set t (truthValue (channel > 14))) (truthValue (channel ≤ 14))

def paPrimary (l : TxPinCfg) (btCoexist : Bool) (channel : Nat) (t : BitVec 32) : BitVec 32 :=
  let t := (l.field (.paPeA 0)).set t (truthValue (channel > 14))
  if btCoexist then (l.field (.paPeG 0)).set t 1
  else (l.field (.paPeG 0)).set t (truthValue (channel ≤ 14))

def configPaSwitch (l : TxPinCfg) (btCoexist : Bool) (channel txChainNum : Nat)
    (t : BitVec 32) : BitVec 32 :=
  chainSwitch (bandPair l (.paPeA 2) (.paPeG 2) channel) (bandPair l (.paPeA 1) (.paPeG 1) channel)
    (paPrimary l btCoexist channel) txChainNum t

def configLnaSwitch (l : TxPinCfg) (channel rxChainNum : Nat) (t : BitVec 32) : BitVec 32 :=
  chainSwitch (bandPair l (.lnaPeA 2) (.lnaPeG 2) channel)
    (bandPair l (.lnaPeA 1) (.lnaPeG 1) channel) (bandPair l (.lnaPeA 0) (.lnaPeG 0) channel)
    rxChainNum t

/-- The word `rt2800_config_channel` writes to `TX_PIN_CFG`, from the register's value
`txPinCfg`, which only RT6352 reads. -/
def rt2800ConfigChannelTxPin (l : TxPinCfg) (c : Chip) (txPinCfg : BitVec 32)
    (txChainNum rxChainNum channel : Nat) (btCoexist : Bool) : BitVec 32 :=
  let txPin := if c.isRt .rt6352 then (l.field .rfrxEn).set txPinCfg 1 else 0
  let txPin := configPaSwitch l btCoexist channel txChainNum txPin
  let txPin := configLnaSwitch l channel rxChainNum txPin
  let txPin := (l.field .rftrEn).set txPin 1
  (l.field .trswEn).set txPin 1

/-! ## The VCO recalibration -/

/-- A `switch` on a chain count whose cases 3 and 2 fall through to case 1, which is also the
`default`. -/
def chainSwitchDefault1 (case3 case2 case1 : BitVec 32 → BitVec 32) :
    Nat → BitVec 32 → BitVec 32
  | 3, t => case1 (case2 (case3 t))
  | 2, t => case1 (case2 t)
  | _, t => case1 t

inductive Rf
  | rf2020 | rf3020 | rf3021 | rf3022 | rf3320 | rf3052 | rf3053 | rf3070 | rf3290 | rf3853
  | rf5350 | rf5360 | rf5362 | rf5370 | rf5372 | rf5390 | rf5392 | rf5592 | rf7620
  deriving DecidableEq, Repr

inductive VcoBranch
  | rfTuning | vcocalEn3 | rf7620
  deriving DecidableEq, Repr

def vcoBranch (rfCode : Rf → Nat) (rf : Nat) : Option VcoBranch :=
  if rf ∈ [Rf.rf2020, .rf3020, .rf3021, .rf3022, .rf3320, .rf3052].map rfCode then
    some .rfTuning
  else if rf ∈ [Rf.rf3053, .rf3070, .rf3290, .rf3853, .rf5350, .rf5360, .rf5362, .rf5370,
      .rf5372, .rf5390, .rf5392, .rf5592].map rfCode then
    some .vcocalEn3
  else if rf = rfCode .rf7620 then some .rf7620
  else none

/-- What `rt2800_vco_calibration` takes from rt2800.h besides `TX_PIN_CFG`: the RF chipset
codes and the RF CSR fields it sets. -/
structure VcoHeader where
  rfCode : Rf → Nat
  rfcsr7RfTuning : Rt2x00Field 8
  rfcsr3VcocalEn : Rt2x00Field 8
  rfcsr4VcocalEn : Rt2x00Field 8

structure VcoRegs where
  txPinCfg : BitVec 32
  rfcsr : Nat → BitVec 8
  bbp : Nat → BitVec 8

def VcoRegs.rfcsrWrite (s : VcoRegs) (word : Nat) (value : BitVec 8) : VcoRegs :=
  { s with rfcsr := Function.update s.rfcsr word value }

def VcoRegs.bbpWrite (s : VcoRegs) (word : Nat) (value : BitVec 8) : VcoRegs :=
  { s with bbp := Function.update s.bbp word value }

def vcoRfcsr (h : VcoHeader) (s : VcoRegs) : VcoBranch → VcoRegs
  | .rfTuning => s.rfcsrWrite 7 (h.rfcsr7RfTuning.set (s.rfcsr 7) 1)
  | .vcocalEn3 => s.rfcsrWrite 3 (h.rfcsr3VcocalEn.set (s.rfcsr 3) 1)
  | .rf7620 =>
    let s := (s.rfcsrWrite 5 0x40).rfcsrWrite 4 0x0C
    s.rfcsrWrite 4 (h.rfcsr4VcocalEn.set (s.rfcsr 4) 1)

def vcoRt6352Bbp (rxChainNum : Nat) (externalLnaBg : Bool) : List (Nat × BitVec 8) :=
  (if rxChainNum = 1 then
    [(91, 0x07), (95, 0x1A), (195, 128), (196, 0xA0), (195, 170), (196, 0x12), (195, 171),
      (196, 0x10)]
  else
    [(91, 0x06), (95, 0x9A), (195, 128), (196, 0xE0), (195, 170), (196, 0x30), (195, 171),
      (196, 0x30)]) ++
  (if externalLnaBg then [(75, 0x68), (76, 0x4C), (79, 0x1C), (80, 0x0C), (82, 0xB6)] else [])

def vcoBandSwitch (l : TxPinCfg) (en : Fin 3 → TxPinField) (txChainNum : Nat) (t : BitVec 32) :
    BitVec 32 :=
  chainSwitchDefault1 (fun t => (l.field (en 2)).set t 1) (fun t => (l.field (en 1)).set t 1)
    (fun t => (l.field (en 0)).set t 1) txChainNum t

/-- The PA enables `rt2800_vco_calibration` turns back on: those of the band of
`rf_channel`, for the chains the switch on `tx_chain_num` reaches. -/
def vcoPaEnable (l : TxPinCfg) (rfChannel txChainNum : Nat) (t : BitVec 32) : BitVec 32 :=
  if rfChannel ≤ 14 then vcoBandSwitch l .paPeG txChainNum t
  else vcoBandSwitch l .paPeA txChainNum t

def rt2800VcoCalibration (l : TxPinCfg) (h : VcoHeader) (c : Chip)
    (rfChannel txChainNum rxChainNum : Nat) (externalLnaBg : Bool) (s : VcoRegs) : VcoRegs :=
  let s := { s with txPinCfg := s.txPinCfg &&& l.paPeDisable }
  match vcoBranch h.rfCode c.rf with
  | none => s
  | some br =>
    let s := vcoRfcsr h s br
    let s := { s with txPinCfg := vcoPaEnable l rfChannel txChainNum s.txPinCfg }
    if c.isRt .rt6352 then
      (vcoRt6352Bbp rxChainNum externalLnaBg).foldl (fun s p => s.bbpWrite p.1 p.2) s
    else s

/-! ## The bits each function sets -/

section Bits

variable (l : TxPinCfg)

@[simp] theorem bandPair_getLsbD (a g : TxPinField) (channel : Nat) (t : BitVec 32) (j : Nat) :
    (bandPair l a g channel t).getLsbD j =
      if j = l.offset g then decide (channel ≤ 14)
      else if j = l.offset a then decide (channel > 14) else t.getLsbD j := by
  simp only [bandPair, TxPinCfg.getLsbD_set_field, truthValue_getLsbD_zero]

@[simp] theorem paPrimary_getLsbD (btCoexist : Bool) (channel : Nat) (t : BitVec 32) (j : Nat) :
    (paPrimary l btCoexist channel t).getLsbD j =
      if j = l.offset (.paPeG 0) then (btCoexist || decide (channel ≤ 14))
      else if j = l.offset (.paPeA 0) then decide (channel > 14) else t.getLsbD j := by
  unfold paPrimary
  cases btCoexist <;> simp [TxPinCfg.getLsbD_set_field]

theorem chainSwitch_getLsbD_of_frame {case3 case2 case1 : BitVec 32 → BitVec 32} {j : Nat}
    (h3 : ∀ t, (case3 t).getLsbD j = t.getLsbD j) (h2 : ∀ t, (case2 t).getLsbD j = t.getLsbD j)
    (h1 : ∀ t, (case1 t).getLsbD j = t.getLsbD j) (n : Nat) (t : BitVec 32) :
    (chainSwitch case3 case2 case1 n t).getLsbD j = t.getLsbD j := by
  unfold chainSwitch; split <;> simp only [h1, h2, h3]

theorem configLnaSwitch_getLsbD_of_ne (j : Nat)
    (hj : ∀ k, j ≠ l.offset (.lnaPeA k) ∧ j ≠ l.offset (.lnaPeG k)) (channel m : Nat)
    (t : BitVec 32) : (configLnaSwitch l channel m t).getLsbD j = t.getLsbD j :=
  chainSwitch_getLsbD_of_frame (by simp [hj]) (by simp [hj]) (by simp [hj]) m t

theorem configPaSwitch_pa (btCoexist : Bool) (channel : Nat) {n : Nat} (hn : 1 ≤ n ∧ n ≤ 3)
    (t : BitVec 32) (i : Fin 3) :
    let t' := configPaSwitch l btCoexist channel n t
    t'.getLsbD (l.offset (.paPeA i)) =
        (if (i : Nat) < n then decide (channel > 14) else t.getLsbD (l.offset (.paPeA i))) ∧
      t'.getLsbD (l.offset (.paPeG i)) =
        (if (i : Nat) < n then (decide (channel ≤ 14) || (i = 0 && btCoexist))
        else t.getLsbD (l.offset (.paPeG i))) := by
  obtain rfl | rfl | rfl : n = 1 ∨ n = 2 ∨ n = 3 := by omega
  all_goals
    simp only [configPaSwitch, chainSwitch, bandPair_getLsbD, paPrimary_getLsbD,
      TxPinCfg.offset_inj, TxPinField.paPeA.injEq, TxPinField.paPeG.injEq, reduceCtorEq, if_false]
    fin_cases i <;> simp [Bool.or_comm]

/-- Away from RT6352, the word of the channel change has, for one to three TX chains, the PA
of the channel's band on for each chain below the count, the 2.4 GHz PA of chain 0 on under
Bluetooth coexistence, and no other PA on. -/
theorem rt2800ConfigChannelTxPin_pa {c : Chip} (hc : c.isRt .rt6352 = false) (reg : BitVec 32)
    {n : Nat} (hn : 1 ≤ n ∧ n ≤ 3) (m channel : Nat) (btCoexist : Bool) (i : Fin 3) :
    let t := rt2800ConfigChannelTxPin l c reg n m channel btCoexist
    t.getLsbD (l.offset (.paPeA i)) = decide ((i : Nat) < n ∧ channel > 14) ∧
      t.getLsbD (l.offset (.paPeG i)) =
        decide ((i : Nat) < n ∧ (channel ≤ 14 ∨ (i = 0 ∧ btCoexist = true))) := by
  obtain ⟨hA, hG⟩ := configPaSwitch_pa l btCoexist channel hn 0 i
  simp only [rt2800ConfigChannelTxPin, hc, Bool.false_eq_true, if_false,
    TxPinCfg.getLsbD_set_field, TxPinCfg.offset_inj, reduceCtorEq,
    configLnaSwitch_getLsbD_of_ne l (l.offset (.paPeA i)) (by simp),
    configLnaSwitch_getLsbD_of_ne l (l.offset (.paPeG i)) (by simp), hA, hG]
  constructor <;> split <;> simp_all

theorem vcoBandSwitch_getLsbD_of_ne (en : Fin 3 → TxPinField) (n : Nat) (t : BitVec 32)
    {j : Nat} (hj : ∀ k, j ≠ l.offset (en k)) :
    (vcoBandSwitch l en n t).getLsbD j = t.getLsbD j := by
  unfold vcoBandSwitch chainSwitchDefault1
  split <;> simp [TxPinCfg.getLsbD_set_field, hj]

theorem vcoBandSwitch_enable (en : Fin 3 → TxPinField) (hen : Function.Injective en)
    {n : Nat} (hn : 1 ≤ n ∧ n ≤ 3) (t : BitVec 32) (i : Fin 3) :
    (vcoBandSwitch l en n t).getLsbD (l.offset (en i)) =
      (decide ((i : Nat) < n) || t.getLsbD (l.offset (en i))) := by
  obtain rfl | rfl | rfl : n = 1 ∨ n = 2 ∨ n = 3 := by omega
  all_goals fin_cases i <;>
    simp [vcoBandSwitch, chainSwitchDefault1, TxPinCfg.getLsbD_set_field, hen.eq_iff]

theorem vcoPaEnable_getLsbD_of_ne (channel n : Nat) (t : BitVec 32) {j : Nat}
    (hj : ∀ i, j ≠ l.offset (.paPeA i) ∧ j ≠ l.offset (.paPeG i)) :
    (vcoPaEnable l channel n t).getLsbD j = t.getLsbD j := by
  unfold vcoPaEnable
  split
  · exact vcoBandSwitch_getLsbD_of_ne l _ n t fun k => (hj k).2
  · exact vcoBandSwitch_getLsbD_of_ne l _ n t fun k => (hj k).1

theorem vcoPaEnable_pa (channel : Nat) {n : Nat} (hn : 1 ≤ n ∧ n ≤ 3) (t : BitVec 32)
    (i : Fin 3) :
    let t' := vcoPaEnable l channel n t
    t'.getLsbD (l.offset (.paPeA i)) =
        ((decide ((i : Nat) < n ∧ channel > 14)) || t.getLsbD (l.offset (.paPeA i))) ∧
      t'.getLsbD (l.offset (.paPeG i)) =
        ((decide ((i : Nat) < n ∧ channel ≤ 14)) || t.getLsbD (l.offset (.paPeG i))) := by
  have hA := vcoBandSwitch_enable l TxPinField.paPeA (fun _ _ h => by cases h; rfl) hn t i
  have hG := vcoBandSwitch_enable l TxPinField.paPeG (fun _ _ h => by cases h; rfl) hn t i
  dsimp only [vcoPaEnable]
  split
  · next hc =>
    rw [vcoBandSwitch_getLsbD_of_ne l .paPeG n t (j := l.offset (.paPeA i)) (by simp), hG]
    simp [hc]
  · next hc =>
    rw [vcoBandSwitch_getLsbD_of_ne l .paPeA n t (j := l.offset (.paPeG i)) (by simp), hA]
    simp [hc, Nat.lt_of_not_le hc]

end Bits

section Vco

variable (l : TxPinCfg) (h : VcoHeader)

theorem vcoRfcsr_txPinCfg (s : VcoRegs) (br : VcoBranch) :
    (vcoRfcsr h s br).txPinCfg = s.txPinCfg := by
  cases br <;> rfl

theorem foldl_bbpWrite_txPinCfg (L : List (Nat × BitVec 8)) (s : VcoRegs) :
    (L.foldl (fun s p => s.bbpWrite p.1 p.2) s).txPinCfg = s.txPinCfg := by
  induction L generalizing s with
  | nil => rfl
  | cons p L ih => exact ih _

/-- What `rt2800_vco_calibration` leaves in `TX_PIN_CFG`: every PA enable cleared, then, for
an RF chipset its switch names, the PA enables of the band of the current channel. -/
theorem rt2800VcoCalibration_txPinCfg (c : Chip) (channel n m : Nat) (externalLnaBg : Bool)
    (s : VcoRegs) :
    (rt2800VcoCalibration l h c channel n m externalLnaBg s).txPinCfg =
      if (vcoBranch h.rfCode c.rf).isSome then
        vcoPaEnable l channel n (s.txPinCfg &&& l.paPeDisable)
      else s.txPinCfg &&& l.paPeDisable := by
  unfold rt2800VcoCalibration
  split
  · next hb => simp [hb]
  · next br hb =>
    split <;> simp [hb, foldl_bbpWrite_txPinCfg, vcoRfcsr_txPinCfg]

end Vco

/-- A VCO recalibration right after a channel change, on a chip other than RT6352 with one
to three TX chains, for every layout of `TX_PIN_CFG`, register value, RX chain count, channel
and register state: for an RF chipset its switch does not name, `TX_PIN_CFG` is left with
every PA off; otherwise it holds again the word the channel change wrote, except that under
Bluetooth coexistence on a 5 GHz channel the 2.4 GHz PA of chain 0 is off. -/
theorem rt2800VcoCalibration_after_configChannel (l : TxPinCfg) (h : VcoHeader) {c : Chip}
    (hc : c.isRt .rt6352 = false) (reg : BitVec 32) {n : Nat} (hn : 1 ≤ n ∧ n ≤ 3)
    (m channel : Nat) (btCoexist externalLnaBg : Bool) (s : VcoRegs) :
    let t := rt2800ConfigChannelTxPin l c reg n m channel btCoexist
    (rt2800VcoCalibration l h c channel n m externalLnaBg { s with txPinCfg := t }).txPinCfg =
      if (vcoBranch h.rfCode c.rf).isNone then t &&& l.paPeDisable
      else if btCoexist ∧ channel > 14 then (l.field (.paPeG 0)).set t 0
      else t := by
  intro t
  rw [rt2800VcoCalibration_txPinCfg]
  cases hb : vcoBranch h.rfCode c.rf with
  | none => rfl
  | some br =>
    simp only [Option.isSome_some, Option.isNone_some, if_true, Bool.false_eq_true, if_false]
    ext j
    by_cases hm : l.paPeDisable.getLsbD j
    -- a bit the disable mask keeps is no PA enable, and the recalibration keeps it too
    · have hpa := l.ne_pa_of_paPeDisable hm
      rw [vcoPaEnable_getLsbD_of_ne l channel n _ hpa]
      split <;> simp [TxPinCfg.getLsbD_set_field, hm, (hpa 0).2]
    -- a PA enable: both words are known there, bit by bit
    · obtain ⟨i, hj | hj⟩ := (l.paPeDisable_clears j j.isLt).mp (by simpa using hm)
      · obtain ⟨hA, -⟩ := rt2800ConfigChannelTxPin_pa l hc reg hn m channel btCoexist i
        obtain ⟨hvA, -⟩ := vcoPaEnable_pa l channel hn (t &&& l.paPeDisable) i
        rw [hj, hvA]
        split <;> simp [TxPinCfg.getLsbD_set_field, hA, t, (l.paPeDisable_pa i).1]
      · obtain ⟨-, hG⟩ := rt2800ConfigChannelTxPin_pa l hc reg hn m channel btCoexist i
        obtain ⟨-, hvG⟩ := vcoPaEnable_pa l channel hn (t &&& l.paPeDisable) i
        rw [hj, hvG, BitVec.getLsbD_and, (l.paPeDisable_pa i).2, Bool.and_false, Bool.or_false]
        split
        · next hbt =>
          have hch : ¬channel ≤ 14 := by omega
          by_cases hi : i = 0 <;> simp [TxPinCfg.getLsbD_set_field, hi, hG, t, hch]
        · next hbt =>
          have hch : btCoexist = true → channel ≤ 14 := fun hb => by simp [hb] at hbt; omega
          rw [hG]
          cases btCoexist <;> simp_all

def txPinLayout : TxPinCfg where
  offset
    | .paPeA i => [0, 2, 24].getD i 0
    | .paPeG i => [1, 3, 25].getD i 0
    | .lnaPeA i => [8, 10, 28].getD i 0
    | .lnaPeG i => [9, 11, 29].getD i 0
    | .rftrEn => 16
    | .trswEn => 18
    | .rfrxEn => 20
  lt := by decide
  injective := by decide
  paPeDisable := 0xfcfffff0
  paPeDisable_clears := by decide

def vcoHeaderOfIdx : VcoHeader :=
  ⟨Rf.toCtorIdx, ⟨1, 0, by decide⟩, ⟨1, 0, by decide⟩, ⟨1, 0, by decide⟩⟩

/-- An RT5390 with an RF5370 and one TX chain under Bluetooth coexistence on channel 36. -/
theorem rt2800VcoCalibration_after_configChannel_rt5390 :
    (⟨.rt5390, Rf.rf5370.toCtorIdx, 0, .usb⟩ : Chip).isRt .rt6352 = false ∧ (1 ≤ 1 ∧ 1 ≤ 3) ∧
      let t := rt2800ConfigChannelTxPin txPinLayout ⟨.rt5390, Rf.rf5370.toCtorIdx, 0, .usb⟩ 0 1 1
        36 true
      (rt2800VcoCalibration txPinLayout vcoHeaderOfIdx ⟨.rt5390, Rf.rf5370.toCtorIdx, 0, .usb⟩ 36
          1 1 false { (⟨0, fun _ => 0, fun _ => 0⟩ : VcoRegs) with txPinCfg := t }).txPinCfg =
        if (vcoBranch vcoHeaderOfIdx.rfCode Rf.rf5370.toCtorIdx).isNone then
          t &&& txPinLayout.paPeDisable
        else if true = true ∧ 36 > 14 then (txPinLayout.field (.paPeG 0)).set t 0 else t :=
  ⟨rfl, by decide, rt2800VcoCalibration_after_configChannel txPinLayout vcoHeaderOfIdx
    (by decide) 0 (by decide) 1 36 true false _⟩

end WifiCoconut
