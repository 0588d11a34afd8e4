import WifiCoconut.Eeprom.Map

/-!
# Which EEPROM words each driver path names

Every EEPROM access goes through `rt2800_eeprom_read`, `_write`, `_addr` or
`_read_from_array`, each naming a symbolic word that `rt2800_eeprom_word_index` resolves
through the chip's map. Each path of the driver that touches the EEPROM is given as the list of
accesses it makes, in source order, with the tests on data it reads as parameters, so that a
list covers every outcome. No path names a word its chip's map leaves out
(`rt2800EepromPath_word_valid`): `EEPROM_BBP_START` is reached only on the base map, since
RT3593 and RT3883 return from `rt2800_init_bbp` before its BBP loop, and `EEPROM_EXT_LNA2` is
named only on those two chips.
-/

namespace WifiCoconut

open EepromWord

inductive EepromAccess
  | read (word : EepromWord)
  | write (word : EepromWord)
  | addr (word : EepromWord)
  | readFromArray (array : EepromWord) (offset : Nat)
  deriving DecidableEq, Repr

def EepromAccess.word : EepromAccess → EepromWord
  | read w | write w | addr w => w
  | readFromArray w _ => w

/-- `rt2800_validate_eeprom` after `rt2800_read_eeprom`. The parameters are the image tests:
NIC_CONF0 blank, NIC_CONF1 blank, and the low and high byte of FREQ blank. -/
def rt2800ValidateEepromAccesses (c : Chip) (conf0Blank conf1Blank freqLowBlank
    freqHighBlank : Bool) : List EepromAccess :=
  [.addr macAddr0, .read nicConf0] ++
  (if conf0Blank || c.isRt .rt2860 || c.isRt .rt2872 then [.write nicConf0] else []) ++
  [.read nicConf1] ++ (if conf1Blank then [.write nicConf1] else []) ++
  [.read freq] ++ (if freqLowBlank then [.write freq] else []) ++
  (if freqHighBlank then
    [.write freq, .write ledAgConf, .write ledActConf, .write ledPolarity] else []) ++
  [.read lna, .read rssiBg, .write rssiBg, .read rssiBg2, .write rssiBg2,
    .read rssiA, .write rssiA, .read rssiA2, .write rssiA2] ++
  (if c.isRt .rt3593 || c.isRt .rt3883 then [.read extLna2, .write extLna2] else [])

/-- `rt2800_init_eeprom`; `rfKnown` is the RF chipset switch accepting the RF code, which
returns `-ENODEV` otherwise. -/
def rt2800InitEepromAccesses (c : Chip) (rfKnown : Bool) : List EepromAccess :=
  [.read nicConf0] ++
  (if c.isRt .rt3290 || c.isRt .rt5390 || c.isRt .rt5392 || c.isRt .rt6352 then
    [.read chipId] else []) ++
  (if rfKnown then [.read nicConf1, .read freq, .read eirpMaxTxPower, .read nicConf1] else [])

/-- `rt2800_init_registers`: the DAC test bit of NIC_CONF1 on early RT3071, RT3090, RT3390
and RT3593 revisions. -/
def rt2800InitRegistersAccesses (h : Header) (c : Chip) : List EepromAccess :=
  if c.isRt .rt3071 || c.isRt .rt3090 || c.isRt .rt3290 || c.isRt .rt3390 then
    if c.isRtRevLt .rt3071 h.revRt3071E || c.isRtRevLt .rt3090 h.revRt3090E ||
        c.isRtRevLt .rt3390 h.revRt3390E then [.read nicConf1] else []
  else if c.isRt .rt3070 || rt2800Is305xSoc h c || c.isRt .rt3352 || c.isRt .rt3572 then []
  else if c.isRt .rt3593 then
    if c.isRtRevLt .rt3593 h.revRt3593E then [.read nicConf1] else []
  else []

def rt2800DisableUnusedDacAdcAccesses : List EepromAccess := [.read nicConf0]

def rt2800InitBbp30xxAccesses (c : Chip) : List EepromAccess :=
  if c.isRt .rt3071 || c.isRt .rt3090 then rt2800DisableUnusedDacAdcAccesses else []

def rt2800InitBbp53xxAccesses : List EepromAccess :=
  rt2800DisableUnusedDacAdcAccesses ++ [.read nicConf1]

def rt2800InitBbp5592Accesses : List EepromAccess := [.read nicConf1]

def rt2800InitBbpLoopAccesses (h : Header) : List EepromAccess :=
  (List.range h.eepromBbpSize).map (.readFromArray bbpStart)

/-- `rt2800_init_bbp`: the per-chip helper, then the BBP loop, which RT3593, RT3883 and RT5592
skip by returning. The RT305x SoC helper and the helpers not listed read no EEPROM word. -/
def rt2800InitBbpAccesses (h : Header) (c : Chip) : List EepromAccess :=
  match c.rt with
  | .rt3070 | .rt3071 | .rt3090 => rt2800InitBbp30xxAccesses c ++ rt2800InitBbpLoopAccesses h
  | .rt3390 | .rt3572 => rt2800DisableUnusedDacAdcAccesses ++ rt2800InitBbpLoopAccesses h
  | .rt3593 | .rt3883 => []
  | .rt5390 | .rt5392 => rt2800InitBbp53xxAccesses ++ rt2800InitBbpLoopAccesses h
  | .rt5592 => rt2800InitBbp5592Accesses
  | .rt2860 | .rt2872 | .rt2883 | .rt3290 | .rt3352 | .rt5350 | .rt6352 =>
    rt2800InitBbpLoopAccesses h

def rt2800NormalModeSetup3xxxAccesses (c : Chip) : List EepromAccess :=
  if c.isRt .rt3090 then [.read nicConf0] else []

def rt2800NormalModeSetup5xxxAccesses : List EepromAccess := [.read nicConf0]

def rt2800InitRfcsr30xxAccesses (h : Header) (c : Chip) : List EepromAccess :=
  (if c.isRt .rt3071 || c.isRt .rt3090 then
    if c.isRtRevLt .rt3071 h.revRt3071E || c.isRtRevLt .rt3090 h.revRt3090E then
      [.read nicConf1] else []
  else []) ++ rt2800NormalModeSetup3xxxAccesses c

/-- `rt2800_init_rfcsr`: the RT305x SoC returns first; the helpers not listed read no
EEPROM word. -/
def rt2800InitRfcsrAccesses (h : Header) (c : Chip) : List EepromAccess :=
  if rt2800Is305xSoc h c then []
  else match c.rt with
  | .rt3070 | .rt3071 | .rt3090 => rt2800InitRfcsr30xxAccesses h c
  | .rt3290 | .rt3352 | .rt3390 | .rt3572 => rt2800NormalModeSetup3xxxAccesses c
  | .rt5390 | .rt5392 | .rt5592 => rt2800NormalModeSetup5xxxAccesses
  | .rt2860 | .rt2872 | .rt2883 | .rt3593 | .rt3883 | .rt5350 | .rt6352 => []

/-- `rt2800_enable_radio`. `registersOk` is the WPDMA wait and `rt2800_init_registers`
succeeding (its only failure comes before its EEPROM reads); `bbpRfReady` and `bbpReady`
are the two later waits. A failed wait returns `-EIO`. -/
def rt2800EnableRadioAccesses (h : Header) (c : Chip) (registersOk bbpRfReady bbpReady : Bool) :
    List EepromAccess :=
  if !registersOk then [] else
  rt2800InitRegistersAccesses h c ++
  if !(bbpRfReady && bbpReady) then [] else
  rt2800InitBbpAccesses h c ++ rt2800InitRfcsrAccesses h c ++
    [.read ledAgConf, .read ledActConf, .read ledPolarity]

def rt2800Config3572btAntAccesses (ledMismatch : Bool) : List EepromAccess :=
  if ledMismatch then [.read freq] else []

/-- `rt2800_config_ant` for `rx_chain_num` RX chains; `btCoexist` is
`CAPABILITY_BT_COEXIST`. -/
def rt2800ConfigAntAccesses (c : Chip) (rxChainNum : Nat) (btCoexist ledMismatch : Bool) :
    List EepromAccess :=
  (if c.isRt .rt3572 && btCoexist then rt2800Config3572btAntAccesses ledMismatch else []) ++
  (if rxChainNum = 1 ∧
      (c.isRt .rt3070 || c.isRt .rt3090 || c.isRt .rt3352 || c.isRt .rt3390) then
    [.read nicConf1] else [])

def rt2800ConfigLnaGainAccesses (c : Chip) (channel : Nat) : List EepromAccess :=
  if channel ≤ 14 then [.read lna]
  else if channel ≤ 64 then [.read lna]
  else if channel ≤ 128 then
    if c.isRt .rt3593 || c.isRt .rt3883 then [.read extLna2] else [.read rssiBg2]
  else if c.isRt .rt3593 || c.isRt .rt3883 then [.read extLna2] else [.read rssiA2]

/-- The paths of the driver that touch the EEPROM, with the outcomes of their data tests. -/
inductive EepromPath
  | validateEeprom (conf0Blank conf1Blank freqLowBlank freqHighBlank : Bool)
  | initEeprom (rfKnown : Bool)
  | enableRadio (registersOk bbpRfReady bbpReady : Bool)
  | configAnt (rxChainNum : Nat) (btCoexist ledMismatch : Bool)
  | configLnaGain (channel : Nat)
  deriving DecidableEq, Repr

def EepromPath.accesses (h : Header) (c : Chip) : EepromPath → List EepromAccess
  | validateEeprom a b f g => rt2800ValidateEepromAccesses c a b f g
  | initEeprom r => rt2800InitEepromAccesses c r
  | enableRadio r b b' => rt2800EnableRadioAccesses h c r b b'
  | configAnt n bt l => rt2800ConfigAntAccesses c n bt l
  | configLnaGain ch => rt2800ConfigLnaGainAccesses c ch

/-! ## Every named word is in the chip's map -/

def sharedWords : List EepromWord :=
  [macAddr0, nicConf0, nicConf1, freq, ledAgConf, ledActConf, ledPolarity, lna, rssiBg,
    rssiBg2, rssiA, rssiA2, eirpMaxTxPower]

/-- The words a chip may name: the shared ones, the chip id, and the one word its own map
adds, `EXT_LNA2` for the extended map and `BBP_START` for the base map. -/
def chipWords (c : Chip) : List EepromWord :=
  chipId :: (if c.usesExtMap then extLna2 else bbpStart) :: sharedWords

theorem wordIndexInvalid_of_mem_chipWords (c : Chip) (w : EepromWord) (hw : w ∈ chipWords c) :
    rt2800EepromWordIndexInvalid c w = false := by
  unfold rt2800EepromWordIndexInvalid rt2800EepromWordIndex
  unfold chipWords at hw
  generalize c.usesExtMap = b at *
  cases b <;> revert w <;> decide

def AccessesOk (c : Chip) (l : List EepromAccess) : Prop := ∀ a ∈ l, a.word ∈ chipWords c

section AccessesOk

variable {c : Chip} {a : EepromAccess} {l l₁ l₂ : List EepromAccess}

@[simp] theorem accessesOk_nil : AccessesOk c [] := by simp [AccessesOk]

@[simp] theorem accessesOk_cons :
    AccessesOk c (a :: l) ↔ a.word ∈ chipWords c ∧ AccessesOk c l :=
  List.forall_mem_cons

@[simp] theorem accessesOk_append :
    AccessesOk c (l₁ ++ l₂) ↔ AccessesOk c l₁ ∧ AccessesOk c l₂ :=
  List.forall_mem_append

@[simp] theorem accessesOk_ite (p : Prop) [Decidable p] :
    AccessesOk c (if p then l₁ else l₂) = if p then AccessesOk c l₁ else AccessesOk c l₂ :=
  apply_ite ..

@[simp] theorem mem_chipWords (w : EepromWord) :
    w ∈ chipWords c ↔ w = chipId ∨ w = (if c.usesExtMap then extLna2 else bbpStart) ∨
      w ∈ sharedWords := by
  simp [chipWords]

end AccessesOk

theorem isRt_rt3593_or_rt3883 (c : Chip) : (c.isRt .rt3593 || c.isRt .rt3883) = c.usesExtMap :=
  rfl

theorem rt2800ValidateEepromAccesses_ok (c : Chip) (a b f g : Bool) :
    AccessesOk c (rt2800ValidateEepromAccesses c a b f g) := by
  cases hx : c.usesExtMap <;>
    simp [rt2800ValidateEepromAccesses, isRt_rt3593_or_rt3883, hx, EepromAccess.word, sharedWords]

theorem rt2800InitEepromAccesses_ok (c : Chip) (r : Bool) :
    AccessesOk c (rt2800InitEepromAccesses c r) := by
  simp [rt2800InitEepromAccesses, EepromAccess.word, sharedWords]

theorem rt2800InitRegistersAccesses_ok (h : Header) (c : Chip) :
    AccessesOk c (rt2800InitRegistersAccesses h c) := by
  simp [rt2800InitRegistersAccesses, EepromAccess.word, sharedWords]

theorem rt2800InitBbpLoopAccesses_ok (h : Header) (c : Chip) (hc : c.usesExtMap = false) :
    AccessesOk c (rt2800InitBbpLoopAccesses h) := by
  simp [rt2800InitBbpLoopAccesses, AccessesOk, EepromAccess.word, hc]

theorem rt2800InitBbpAccesses_ok (h : Header) (c : Chip) :
    AccessesOk c (rt2800InitBbpAccesses h c) := by
  have hdac : AccessesOk c rt2800DisableUnusedDacAdcAccesses := by
    simp [rt2800DisableUnusedDacAdcAccesses, EepromAccess.word, sharedWords]
  have hloop := rt2800InitBbpLoopAccesses_ok h c
  obtain ⟨rt, rf, rev, intf⟩ := c
  cases rt <;> simp_all [rt2800InitBbpAccesses, rt2800InitBbp30xxAccesses,
    rt2800InitBbp53xxAccesses, rt2800InitBbp5592Accesses, Chip.usesExtMap, Chip.isRt,
    EepromAccess.word, sharedWords]

theorem rt2800InitRfcsrAccesses_ok (h : Header) (c : Chip) :
    AccessesOk c (rt2800InitRfcsrAccesses h c) := by
  unfold rt2800InitRfcsrAccesses
  split_ifs
  · simp
  · split <;> simp [rt2800InitRfcsr30xxAccesses, rt2800NormalModeSetup3xxxAccesses,
      rt2800NormalModeSetup5xxxAccesses, EepromAccess.word, sharedWords]

theorem rt2800EnableRadioAccesses_ok (h : Header) (c : Chip) (r b b' : Bool) :
    AccessesOk c (rt2800EnableRadioAccesses h c r b b') := by
  simp [rt2800EnableRadioAccesses, rt2800InitRegistersAccesses_ok, rt2800InitBbpAccesses_ok,
    rt2800InitRfcsrAccesses_ok, EepromAccess.word, sharedWords]

theorem rt2800ConfigAntAccesses_ok (c : Chip) (n : Nat) (bt l : Bool) :
    AccessesOk c (rt2800ConfigAntAccesses c n bt l) := by
  simp [rt2800ConfigAntAccesses, rt2800Config3572btAntAccesses, EepromAccess.word, sharedWords]

theorem rt2800ConfigLnaGainAccesses_ok (c : Chip) (ch : Nat) :
    AccessesOk c (rt2800ConfigLnaGainAccesses c ch) := by
  cases hx : c.usesExtMap <;>
    simp [rt2800ConfigLnaGainAccesses, isRt_rt3593_or_rt3883, hx, EepromAccess.word, sharedWords]

/-- No path of the driver names a word that its chip's map leaves out: the "invalid access"
branch of `rt2800_eeprom_word_index` is never taken. -/
theorem rt2800EepromPath_word_valid (h : Header) (c : Chip) (p : EepromPath) :
    ∀ a ∈ p.accesses h c, rt2800EepromWordIndexInvalid c a.word = false := by
  intro a ha
  apply wordIndexInvalid_of_mem_chipWords
  have hok : AccessesOk c (p.accesses h c) := by
    cases p with
    | validateEeprom => exact rt2800ValidateEepromAccesses_ok c _ _ _ _
    | initEeprom => exact rt2800InitEepromAccesses_ok c _
    | enableRadio => exact rt2800EnableRadioAccesses_ok h c _ _ _
    | configAnt => exact rt2800ConfigAntAccesses_ok c _ _ _
    | configLnaGain => exact rt2800ConfigLnaGainAccesses_ok c _
  exact hok a ha

theorem rt2800EepromPath_word_valid_rt3593_ch100 :
    EepromAccess.read .extLna2 ∈ (EepromPath.configLnaGain 100).accesses
        ⟨0, 0, 0, 0, 0, 0, 0, 0, 0, 0⟩ ⟨.rt3593, 0, 0, .usb⟩ ∧
      rt2800EepromWordIndexInvalid ⟨.rt3593, 0, 0, .usb⟩ .extLna2 = false :=
  ⟨by decide, rt2800EepromPath_word_valid ⟨0, 0, 0, 0, 0, 0, 0, 0, 0, 0⟩ ⟨.rt3593, 0, 0, .usb⟩
    (.configLnaGain 100) (.read .extLna2) (by decide)⟩

end WifiCoconut
