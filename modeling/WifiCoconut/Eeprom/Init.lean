import WifiCoconut.Eeprom.Validate

/-!
# Reading the device configuration from the EEPROM

`rt2800_init_eeprom` runs on the image `rt2800_validate_eeprom` repaired: it identifies the RF
chipset (from NIC_CONF0 on the older chips, from the chip-id word or fixed on the newer ones),
rejects an unknown one with `-ENODEV`, and reads the antenna setup, the capabilities, the
frequency offset and the LED setup. The RF codes, two revisions and two fields of rt2800.h are
parameters (`InitEepromHeader`). On the repaired image a blank NIC_CONF0 never makes the
bring-up fail (`rt2800InitEeprom_validate_blank`), and RT2860 and RT2872 never get more than
two RX chains (`rt2800InitEeprom_validate_rxChainNum`).
-/

namespace WifiCoconut

/-- The RF chipsets the `switch (rf)` of `rt2800_init_eeprom` accepts, in its order. -/
inductive InitRf
  | rf2820 | rf2850 | rf2720 | rf2750 | rf3020 | rf2020 | rf3021 | rf3022 | rf3052 | rf3053
  | rf3070 | rf3290 | rf3320 | rf3322 | rf3853 | rf5350 | rf5360 | rf5362 | rf5370 | rf5372
  | rf5390 | rf5392 | rf5592 | rf7620
  deriving DecidableEq, Repr

def InitRf.all : List InitRf :=
  [.rf2820, .rf2850, .rf2720, .rf2750, .rf3020, .rf2020, .rf3021, .rf3022, .rf3052, .rf3053,
    .rf3070, .rf3290, .rf3320, .rf3322, .rf3853, .rf5350, .rf5360, .rf5362, .rf5370, .rf5372,
    .rf5390, .rf5392, .rf5592, .rf7620]

/-- The constants of rt2800.h `rt2800_init_eeprom` uses. -/
structure InitEepromHeader where
  rfCode : InitRf → BitVec 16
  revRt5390R : Nat
  revRt5370G : Nat
  eepromEirpMaxTxPower2Ghz : Rt2x00Field 16
  eirpMaxTxPowerLimit : BitVec 16
  eepromNicConf1ExternalTx0Pa3352 : Rt2x00Field 16
  eepromNicConf1ExternalTx1Pa3352 : Rt2x00Field 16

inductive Antenna
  | swDiversity | a | b | hwDiversity
  deriving DecidableEq, Repr

structure InitCaps where
  externalLnaA : Bool
  externalLnaBg : Bool
  hwButton : Bool
  btCoexist : Bool
  powerLimit : Bool
  externalPaTx0 : Bool
  externalPaTx1 : Bool
  deriving DecidableEq, Repr

/-- What `rt2800_init_eeprom` stores in the device: the RF chipset, the default antenna
setup, the capabilities, the frequency offset and `led_mcu_reg`. -/
structure InitEepromOut where
  rf : BitVec 16
  txChainNum : BitVec 16
  rxChainNum : BitVec 16
  antTx : Antenna
  antRx : Antenna
  caps : InitCaps
  freqOffset : BitVec 16
  ledMcuReg : BitVec 16
  deriving DecidableEq, Repr

section Init

variable (hd : InitEepromHeader) (c : Chip) (e : Eeprom)

def initRf : BitVec 16 :=
  if c.isRt .rt3290 || c.isRt .rt5390 || c.isRt .rt5392 || c.isRt .rt6352 then
    rt2800EepromRead c e .chipId
  else if c.isRt .rt3352 then hd.rfCode .rf3322
  else if c.isRt .rt3883 then hd.rfCode .rf3853
  else if c.isRt .rt5350 then hd.rfCode .rf5350
  else rt2x00GetField16 (rt2800EepromRead c e .nicConf0) eepromNicConf0RfType

/-- The default antennas: from `EEPROM_NIC_CONF1_ANT_DIVERSITY` on RT3070, RT3090, RT3352
and RT3390 (`defaultAnt`, the setup before, is kept by a value the `switch` has no case
for), antenna A otherwise, hardware diversity on RT5390 from `REV_RT5390R` or
`REV_RT5370G`. -/
def initAntenna (defaultAnt : Antenna × Antenna) : Antenna × Antenna :=
  let eeprom := rt2800EepromRead c e .nicConf1
  let ant :=
    if c.isRt .rt3070 || c.isRt .rt3090 || c.isRt .rt3352 || c.isRt .rt3390 then
      match (rt2x00GetField16 eeprom eepromNicConf1AntDiversity).toNat with
      | 0 | 1 | 2 => (.a, .a)
      | 3 => (.a, .b)
      | _ => defaultAnt
    else (.a, .a)
  if c.isRtRevGte .rt5390 hd.revRt5390R || c.isRtRevGte .rt5390 hd.revRt5370G then
    (.hwDiversity, .hwDiversity)
  else ant

/-- The capability flags: external LNAs, the hardware radio button and Bluetooth
coexistence from NIC_CONF1 (the last one not on RT3352), the EIRP power limit, and on
RT3352 the external PAs. -/
def initCaps : InitCaps :=
  let conf1 := rt2800EepromRead c e .nicConf1
  let eirp := rt2800EepromRead c e .eirpMaxTxPower
  { externalLnaA := rt2x00GetField16 conf1 eepromNicConf1ExternalLna5g != 0
    externalLnaBg := rt2x00GetField16 conf1 eepromNicConf1ExternalLna2g != 0
    hwButton := rt2x00GetField16 conf1 eepromNicConf1HwRadio != 0
    btCoexist := !c.isRt .rt3352 && rt2x00GetField16 conf1 eepromNicConf1BtCoexist != 0
    powerLimit := decide (rt2x00GetField16 eirp hd.eepromEirpMaxTxPower2Ghz <
      hd.eirpMaxTxPowerLimit)
    externalPaTx0 := c.isRt .rt3352 &&
      rt2x00GetField16 conf1 hd.eepromNicConf1ExternalTx0Pa3352 != 0
    externalPaTx1 := c.isRt .rt3352 &&
      rt2x00GetField16 conf1 hd.eepromNicConf1ExternalTx1Pa3352 != 0 }

/-- `rt2800_init_eeprom`; `none` is `-ENODEV`, an RF chipset the `switch` does not list. -/
def rt2800InitEeprom (defaultAnt : Antenna × Antenna) : Option InitEepromOut :=
  let rf := initRf hd c e
  if rf ∉ InitRf.all.map hd.rfCode then none
  else
    let conf0 := rt2800EepromRead c e .nicConf0
    let ant := initAntenna hd c e defaultAnt
    let freq := rt2800EepromRead c e .freq
    some { rf := rf
           txChainNum := rt2x00GetField16 conf0 eepromNicConf0Txpath
           rxChainNum := rt2x00GetField16 conf0 eepromNicConf0Rxpath
           antTx := ant.1
           antRx := ant.2
           caps := initCaps hd c e
           freqOffset := rt2x00GetField16 freq eepromFreqOffset
           ledMcuReg := freq }

end Init

def Chip.rfFromNicConf0 (c : Chip) : Bool :=
  !(c.isRt .rt3290 || c.isRt .rt5390 || c.isRt .rt5392 || c.isRt .rt6352 || c.isRt .rt3352 ||
    c.isRt .rt3883 || c.isRt .rt5350)

/-- The NIC_CONF0 word a blank one is repaired to carries RF2820, one TX and two RX
paths. -/
theorem nicConf0Repair_blank (c : Chip) :
    rt2x00GetField16 (nicConf0Repair c 0xffff) eepromNicConf0RfType = rf2820 ∧
      rt2x00GetField16 (nicConf0Repair c 0xffff) eepromNicConf0Txpath = 1 ∧
      rt2x00GetField16 (nicConf0Repair c 0xffff) eepromNicConf0Rxpath = 2 := by
  simp only [nicConf0Repair, if_true]
  decide

def initEepromHeader : InitEepromHeader where
  rfCode
    | .rf2820 => 0x0001 | .rf2850 => 0x0002 | .rf2720 => 0x0003 | .rf2750 => 0x0004
    | .rf3020 => 0x0005 | .rf2020 => 0x0006 | .rf3021 => 0x0007 | .rf3022 => 0x0008
    | .rf3052 => 0x0009 | .rf3053 => 0x000d | .rf3070 => 0x3070 | .rf3290 => 0x3290
    | .rf3320 => 0x000b | .rf3322 => 0x000c | .rf3853 => 0x3853 | .rf5350 => 0x5350
    | .rf5360 => 0x5360 | .rf5362 => 0x5362 | .rf5370 => 0x5370 | .rf5372 => 0x5372
    | .rf5390 => 0x5390 | .rf5392 => 0x5392 | .rf5592 => 0x000f | .rf7620 => 0x7620
  revRt5390R := 0x0502
  revRt5370G := 0x0503
  eepromEirpMaxTxPower2Ghz := ⟨0x00ff, 0, by decide⟩
  eirpMaxTxPowerLimit := 0x50
  eepromNicConf1ExternalTx0Pa3352 := ⟨0x4000, 14, by decide⟩
  eepromNicConf1ExternalTx1Pa3352 := ⟨0x8000, 15, by decide⟩

/-- On the chips that read the RF chipset from NIC_CONF0, whenever the RF2820 code of the
header is the one the repair writes, a blank NIC_CONF0 does not stop the bring-up: on the
repaired image `rt2800_init_eeprom` succeeds with RF2820, one TX chain and two RX chains. -/
theorem rt2800InitEeprom_validate_blank (hd : InitEepromHeader)
    (h2820 : hd.rfCode .rf2820 = rf2820) (c : Chip) (hc : c.rfFromNicConf0 = true) (e : Eeprom)
    (hblank : rt2800EepromRead c e .nicConf0 = 0xffff) (defaultAnt : Antenna × Antenna) :
    ∃ o, rt2800InitEeprom hd c (rt2800ValidateEeprom c e) defaultAnt = some o ∧
      o.rf = rf2820 ∧ o.txChainNum = 1 ∧ o.rxChainNum = 2 := by
  obtain ⟨hrf, htx, hrx⟩ := nicConf0Repair_blank c
  have h0 := (rt2800ValidateEeprom_reads c e).1
  rw [hblank] at h0
  have hrf' : initRf hd c (rt2800ValidateEeprom c e) = rf2820 := by
    simp only [Chip.rfFromNicConf0, Bool.not_eq_true', Bool.or_eq_false_iff] at hc
    simp only [initRf, hc, h0, hrf, Bool.or_self, Bool.false_eq_true, if_false]
  have hmem : initRf hd c (rt2800ValidateEeprom c e) ∈ InitRf.all.map hd.rfCode := by
    rw [hrf', ← h2820]
    exact List.mem_map_of_mem _ (by decide)
  refine ⟨_, by rw [rt2800InitEeprom, if_neg (not_not.mpr hmem)], ?_⟩
  exact ⟨hrf', by simp only [h0, htx], by simp only [h0, hrx]⟩

theorem rt2800InitEeprom_validate_blank_rt2860 :
    (initEepromHeader.rfCode .rf2820 = rf2820 ∧
      (⟨.rt2860, 0, 0, .pci⟩ : Chip).rfFromNicConf0 = true ∧
      rt2800EepromRead ⟨.rt2860, 0, 0, .pci⟩ (fun _ => 0xffff) .nicConf0 = 0xffff) ∧
    ∃ o, rt2800InitEeprom initEepromHeader ⟨.rt2860, 0, 0, .pci⟩
        (rt2800ValidateEeprom ⟨.rt2860, 0, 0, .pci⟩ (fun _ => 0xffff)) (.a, .a) = some o ∧
      o.rf = rf2820 ∧ o.txChainNum = 1 ∧ o.rxChainNum = 2 :=
  ⟨⟨rfl, rfl, rfl⟩,
    rt2800InitEeprom_validate_blank initEepromHeader rfl ⟨.rt2860, 0, 0, .pci⟩ rfl
      (fun _ => 0xffff) rfl (.a, .a)⟩

/-- On RT2860 and RT2872 the default antenna setup read from the repaired image has at most
two RX chains. -/
theorem rt2800InitEeprom_validate_rxChainNum (hd : InitEepromHeader) (c : Chip)
    (hc : c.isRt .rt2860 || c.isRt .rt2872) (e : Eeprom) (defaultAnt : Antenna × Antenna)
    {o : InitEepromOut}
    (ho : rt2800InitEeprom hd c (rt2800ValidateEeprom c e) defaultAnt = some o) :
    o.rxChainNum.toNat ≤ 2 := by
  have h0 := (rt2800ValidateEeprom_reads c e).1
  unfold rt2800InitEeprom at ho
  dsimp only at ho
  split at ho
  · cases ho
  cases ho
  simp only [h0]
  generalize rt2800EepromRead c e .nicConf0 = w
  unfold nicConf0Repair
  split
  · next hw => subst hw; decide
  · unfold fieldRepair
    split
    · simp only [rt2x00GetField16, rt2x00SetField16, Rt2x00Field.get_set]; decide
    · next h => simp only [rt2x00GetField16] at h ⊢; omega

/-- What an RT2860 reads from an image whose every word is 0x0113: NIC_CONF0 asks for three
RX paths, and the repair has cut them to two. -/
def initEepromOut0113 : InitEepromOut :=
  ⟨0x0001, 0x0001, 0x0002, .a, .a, ⟨false, false, true, false, true, false, false⟩,
    0x0013, 0x0113⟩

theorem rt2800InitEeprom_validate_rxChainNum_clamped :
    ((⟨.rt2860, 0, 0, .pci⟩ : Chip).isRt .rt2860 ||
        (⟨.rt2860, 0, 0, .pci⟩ : Chip).isRt .rt2872) ∧
      rt2800InitEeprom initEepromHeader ⟨.rt2860, 0, 0, .pci⟩
        (rt2800ValidateEeprom ⟨.rt2860, 0, 0, .pci⟩ (fun _ => 0x0113)) (.a, .a) =
        some initEepromOut0113 ∧
      initEepromOut0113.rxChainNum.toNat ≤ 2 :=
  ⟨rfl, by decide,
    rt2800InitEeprom_validate_rxChainNum initEepromHeader ⟨.rt2860, 0, 0, .pci⟩ rfl
      (fun _ => 0x0113) (.a, .a) (by decide)⟩

end WifiCoconut
