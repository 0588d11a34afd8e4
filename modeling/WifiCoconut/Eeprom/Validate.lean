import WifiCoconut.Eeprom.Map

/-!
# EEPROM repair

`rt2800_validate_eeprom` repairs the image word by word: blank NIC_CONF0 and NIC_CONF1 get
defaults, RT2860/RT2872 keep at most two RX streams, blank FREQ halves get defaults, large RSSI
offsets are cleared and blank LNA gains take LNA.A0's. Every field repair has one shape,
`fieldRepair`: if a predicate holds of the field, set it. Such repairs are idempotent and
commute on disjoint fields, and the image repair is idempotent (`rt2800ValidateEeprom_idem`).
-/

namespace WifiCoconut

/-- `if (p(rt2x00_get_field16(word, field))) rt2x00_set_field16(&word, field, value);` -/
def fieldRepair (field : Rt2x00Field 16) (p : BitVec 16 → Prop) [DecidablePred p]
    (value word : BitVec 16) : BitVec 16 :=
  if p (rt2x00GetField16 word field) then rt2x00SetField16 word field value else word

/-- An RSSI offset whose `abs` exceeds 10 is cleared; `abs` is taken of the unsigned field. -/
def rssiOffsetRepair (field : Rt2x00Field 16) (word : BitVec 16) : BitVec 16 :=
  fieldRepair field (fun v => 10 < (v.toNat : Int).natAbs) 0 word

/-- An LNA gain that reads 0x00 or 0xff takes the default gain. -/
def lnaGainRepair (field : Rt2x00Field 16) (defaultLnaGain : BitVec 8) (word : BitVec 16) :
    BitVec 16 :=
  fieldRepair field (fun v => v = 0x00 ∨ v = 0xff) (defaultLnaGain.setWidth 16) word

/-- The NIC_CONF0 word `rt2800_validate_eeprom` writes back: a blank word gets two RX
paths, one TX path and RF2820; on RT2860 and RT2872 more than two RX paths become two. -/
def nicConf0Repair (c : Chip) (word : BitVec 16) : BitVec 16 :=
  if word = 0xffff then
    let word := rt2x00SetField16 word eepromNicConf0Rxpath 2
    let word := rt2x00SetField16 word eepromNicConf0Txpath 1
    rt2x00SetField16 word eepromNicConf0RfType rf2820
  else if c.isRt .rt2860 || c.isRt .rt2872 then
    fieldRepair eepromNicConf0Rxpath (fun v => 2 < v.toNat) 2 word
  else word

def validateNicConf0 (c : Chip) (e : Eeprom) : Eeprom :=
  let word := rt2800EepromRead c e .nicConf0
  if word = 0xffff ∨ (c.isRt .rt2860 || c.isRt .rt2872) then
    rt2800EepromWrite c e .nicConf0 (nicConf0Repair c word)
  else e

/-- The NIC_CONF1 fields a blank word has cleared, in the order of the source. -/
def nicConf1Fields : List (Rt2x00Field 16) :=
  [eepromNicConf1HwRadio, eepromNicConf1ExternalTxAlc, eepromNicConf1ExternalLna2g,
    eepromNicConf1ExternalLna5g, eepromNicConf1CardbusAccel, eepromNicConf1Bw40mSb2g,
    eepromNicConf1Bw40mSb5g, eepromNicConf1WpsPbc, eepromNicConf1Bw40m2g,
    eepromNicConf1Bw40m5g, eepromNicConf1BroadbandExtLna, eepromNicConf1AntDiversity,
    eepromNicConf1InternalTxAlc, eepromNicConf1BtCoexist, eepromNicConf1DacTest]

def validateNicConf1 (c : Chip) (e : Eeprom) : Eeprom :=
  let word := rt2800EepromRead c e .nicConf1
  if word = 0xffff then
    rt2800EepromWrite c e .nicConf1 (nicConf1Fields.foldl (rt2x00SetField16 · · 0) word)
  else e

def freqOffsetRepair (word : BitVec 16) : BitVec 16 := rt2x00SetField16 word eepromFreqOffset 0

def freqLedRepair (word : BitVec 16) : BitVec 16 :=
  rt2x00SetField16 (rt2x00SetField16 word eepromFreqLedMode ledModeTxrxActivity)
    eepromFreqLedPolarity 0

def validateFreq (c : Chip) (e : Eeprom) : Eeprom :=
  let word := rt2800EepromRead c e .freq
  let lowBlank := word &&& 0x00ff = 0x00ff
  let e := if lowBlank then rt2800EepromWrite c e .freq (freqOffsetRepair word) else e
  let word := if lowBlank then freqOffsetRepair word else word
  if word &&& 0xff00 = 0xff00 then
    let e := rt2800EepromWrite c e .freq (freqLedRepair word)
    let e := rt2800EepromWrite c e .ledAgConf 0x5555
    let e := rt2800EepromWrite c e .ledActConf 0x2221
    rt2800EepromWrite c e .ledPolarity 0xa9f8
  else e

def rssiBgRepair (word : BitVec 16) : BitVec 16 :=
  rssiOffsetRepair eepromRssiBgOffset1 (rssiOffsetRepair eepromRssiBgOffset0 word)

/-- The RSSI_BG2 word written back: OFFSET2 clamped and, off RT3593/RT3883, LNA_A1
backfilled. -/
def rssiBg2Repair (c : Chip) (defaultLnaGain : BitVec 8) (word : BitVec 16) : BitVec 16 :=
  let word := rssiOffsetRepair eepromRssiBg2Offset2 word
  if !c.isRt .rt3593 && !c.isRt .rt3883 then lnaGainRepair eepromRssiBg2LnaA1 defaultLnaGain word
  else word

def rssiARepair (word : BitVec 16) : BitVec 16 :=
  rssiOffsetRepair eepromRssiAOffset1 (rssiOffsetRepair eepromRssiAOffset0 word)

/-- The RSSI_A2 word written back: OFFSET2 clamped and, off RT3593/RT3883, LNA_A2
backfilled. -/
def rssiA2Repair (c : Chip) (defaultLnaGain : BitVec 8) (word : BitVec 16) : BitVec 16 :=
  let word := rssiOffsetRepair eepromRssiA2Offset2 word
  if !c.isRt .rt3593 && !c.isRt .rt3883 then lnaGainRepair eepromRssiA2LnaA2 defaultLnaGain word
  else word

def validateRssiBg (c : Chip) (e : Eeprom) : Eeprom :=
  rt2800EepromWrite c e .rssiBg (rssiBgRepair (rt2800EepromRead c e .rssiBg))

def validateRssiBg2 (c : Chip) (defaultLnaGain : BitVec 8) (e : Eeprom) : Eeprom :=
  rt2800EepromWrite c e .rssiBg2 (rssiBg2Repair c defaultLnaGain (rt2800EepromRead c e .rssiBg2))

def validateRssiA (c : Chip) (e : Eeprom) : Eeprom :=
  rt2800EepromWrite c e .rssiA (rssiARepair (rt2800EepromRead c e .rssiA))

def validateRssiA2 (c : Chip) (defaultLnaGain : BitVec 8) (e : Eeprom) : Eeprom :=
  rt2800EepromWrite c e .rssiA2 (rssiA2Repair c defaultLnaGain (rt2800EepromRead c e .rssiA2))

/-- The EXT_LNA2 word `rt2800_validate_eeprom` writes back on RT3593 and RT3883: a blank A1
takes the default gain, and so does A1 again when A2 is blank; A2 itself is never set. -/
def extLna2Repair (defaultLnaGain : BitVec 8) (word : BitVec 16) : BitVec 16 :=
  let word := lnaGainRepair eepromExtLna2A1 defaultLnaGain word
  if rt2x00GetField16 word eepromExtLna2A2 = 0x00 ∨ rt2x00GetField16 word eepromExtLna2A2 = 0xff
  then rt2x00SetField16 word eepromExtLna2A1 (defaultLnaGain.setWidth 16)
  else word

def validateExtLna2 (c : Chip) (defaultLnaGain : BitVec 8) (e : Eeprom) : Eeprom :=
  rt2800EepromWrite c e .extLna2 (extLna2Repair defaultLnaGain (rt2800EepromRead c e .extLna2))

/-- `default_lna_gain`: LNA.A0 of the image, cut to the `uint8_t` it is kept in. -/
def defaultLnaGainOf (c : Chip) (e : Eeprom) : BitVec 8 :=
  (rt2x00GetField16 (rt2800EepromRead c e .lna) eepromLnaA0).setWidth 8

/-- The repair of `rt2800_validate_eeprom` on the image `rt2800_read_eeprom` returned. -/
def rt2800ValidateEeprom (c : Chip) (e : Eeprom) : Eeprom :=
  let e := validateNicConf0 c e
  let e := validateNicConf1 c e
  let e := validateFreq c e
  let defaultLnaGain := defaultLnaGainOf c e
  let e := validateRssiBg c e
  let e := validateRssiBg2 c defaultLnaGain e
  let e := validateRssiA c e
  let e := validateRssiA2 c defaultLnaGain e
  if c.isRt .rt3593 || c.isRt .rt3883 then validateExtLna2 c defaultLnaGain e else e


section FieldRepair

variable (f g : Rt2x00Field 16) (p q : BitVec 16 → Prop) [DecidablePred p] [DecidablePred q]
  (a b w : BitVec 16)

theorem fieldRepair_idem : fieldRepair f p a (fieldRepair f p a w) = fieldRepair f p a w := by
  unfold fieldRepair
  split_ifs <;> simp_all

theorem set_fieldRepair : f.set (fieldRepair f p a w) b = f.set w b := by
  unfold fieldRepair; split_ifs <;> simp

theorem fieldRepair_get_of_disjoint (h : f.Disjoint g) :
    g.get (fieldRepair f p a w) = g.get w := by
  unfold fieldRepair
  split_ifs
  · exact Rt2x00Field.get_set_of_disjoint f g w a h
  · rfl

theorem fieldRepair_comm (h : f.Disjoint g) :
    fieldRepair f p a (fieldRepair g q b w) = fieldRepair g q b (fieldRepair f p a w) := by
  unfold fieldRepair
  simp only [rt2x00GetField16, rt2x00SetField16]
  by_cases hp : p (f.get w) <;> by_cases hq : q (g.get w) <;>
    simp [hp, hq, Rt2x00Field.get_set_of_disjoint _ _ _ _ h,
      Rt2x00Field.get_set_of_disjoint _ _ _ _ h.symm, Rt2x00Field.set_comm_of_disjoint _ _ _ _ _ h]

theorem fieldRepair_pair_idem (h : f.Disjoint g) :
    fieldRepair g q b (fieldRepair f p a (fieldRepair g q b (fieldRepair f p a w))) =
      fieldRepair g q b (fieldRepair f p a w) := by
  rw [fieldRepair_comm f g p q a b _ h, fieldRepair_idem, fieldRepair_idem]

end FieldRepair

theorem rssiBgRepair_idem (w : BitVec 16) : rssiBgRepair (rssiBgRepair w) = rssiBgRepair w := by
  unfold rssiBgRepair rssiOffsetRepair
  exact fieldRepair_pair_idem _ _ _ _ _ _ _ (by decide)

theorem rssiARepair_idem (w : BitVec 16) : rssiARepair (rssiARepair w) = rssiARepair w := by
  unfold rssiARepair rssiOffsetRepair
  exact fieldRepair_pair_idem _ _ _ _ _ _ _ (by decide)

theorem rssiBg2Repair_idem (c : Chip) (d : BitVec 8) (w : BitVec 16) :
    rssiBg2Repair c d (rssiBg2Repair c d w) = rssiBg2Repair c d w := by
  unfold rssiBg2Repair lnaGainRepair rssiOffsetRepair
  split
  · exact fieldRepair_pair_idem _ _ _ _ _ _ _ (by decide)
  · exact fieldRepair_idem _ _ _ _

theorem rssiA2Repair_idem (c : Chip) (d : BitVec 8) (w : BitVec 16) :
    rssiA2Repair c d (rssiA2Repair c d w) = rssiA2Repair c d w := by
  unfold rssiA2Repair lnaGainRepair rssiOffsetRepair
  split
  · exact fieldRepair_pair_idem _ _ _ _ _ _ _ (by decide)
  · exact fieldRepair_idem _ _ _ _

theorem nicConf0Repair_ne_blank (c : Chip) (w : BitVec 16) : nicConf0Repair c w ≠ 0xffff := by
  unfold nicConf0Repair fieldRepair
  split_ifs with hw hc hp
  · subst hw; decide
  · intro h
    have := congrArg eepromNicConf0Rxpath.get h
    simp only [rt2x00SetField16, Rt2x00Field.get_set] at this
    exact absurd this (by decide)
  · exact hw
  · exact hw

theorem nicConf0Repair_idem (c : Chip) (w : BitVec 16) :
    nicConf0Repair c (nicConf0Repair c w) = nicConf0Repair c w := by
  conv_lhs => rw [nicConf0Repair, if_neg (nicConf0Repair_ne_blank c w)]
  split
  · next hc =>
    rw [nicConf0Repair]
    split_ifs with hw
    · subst hw; decide
    · exact fieldRepair_idem _ _ _ _
  · rfl

/-- EXT_LNA2 with a blank A2 takes the default gain in A1; otherwise only a blank A1 does. -/
theorem extLna2Repair_eq (d : BitVec 8) (w : BitVec 16) :
    extLna2Repair d w =
      if eepromExtLna2A2.get w = 0x00 ∨ eepromExtLna2A2.get w = 0xff then
        eepromExtLna2A1.set w (d.setWidth 16)
      else lnaGainRepair eepromExtLna2A1 d w := by
  unfold extLna2Repair lnaGainRepair
  simp only [rt2x00GetField16, rt2x00SetField16, set_fieldRepair,
    fieldRepair_get_of_disjoint eepromExtLna2A1 eepromExtLna2A2 (fun v => v = 0x00 ∨ v = 0xff)
      (d.setWidth 16) w (by decide)]

theorem extLna2Repair_idem (d : BitVec 8) (w : BitVec 16) :
    extLna2Repair d (extLna2Repair d w) = extLna2Repair d w := by
  have hd : eepromExtLna2A1.Disjoint eepromExtLna2A2 := by decide
  rw [extLna2Repair_eq d w]
  split
  · next hb =>
    rw [extLna2Repair_eq, Rt2x00Field.get_set_of_disjoint _ _ _ _ hd, if_pos hb,
      Rt2x00Field.set_set]
  · next hb =>
    have hA2 : eepromExtLna2A2.get (lnaGainRepair eepromExtLna2A1 d w) = eepromExtLna2A2.get w :=
      fieldRepair_get_of_disjoint _ _ (fun v => v = 0x00 ∨ v = 0xff) _ _ hd
    rw [extLna2Repair_eq, hA2, if_neg hb]
    exact fieldRepair_idem _ (fun v => v = 0x00 ∨ v = 0xff) _ _

def freqRepair (word : BitVec 16) : BitVec 16 :=
  let word := if word &&& 0x00ff = 0x00ff then freqOffsetRepair word else word
  if word &&& 0xff00 = 0xff00 then freqLedRepair word else word

theorem freqOffsetRepair_low (w : BitVec 16) : freqOffsetRepair w &&& 0x00ff = 0 := by
  have h := Rt2x00Field.get_set eepromFreqOffset w 0
  simp only [Rt2x00Field.get, BitVec.ushiftRight_zero] at h
  simpa [freqOffsetRepair, eepromFreqOffset] using h

theorem freqOffsetRepair_high (w : BitVec 16) :
    freqOffsetRepair w &&& 0xff00 = w &&& 0xff00 :=
  Rt2x00Field.set_and_of_disjoint _ _ _ _ (by decide)

theorem freqLedRepair_low (w : BitVec 16) : freqLedRepair w &&& 0x00ff = w &&& 0x00ff := by
  unfold freqLedRepair
  simp only [rt2x00SetField16]
  rw [Rt2x00Field.set_and_of_disjoint _ _ _ _ (by decide),
    Rt2x00Field.set_and_of_disjoint _ _ _ _ (by decide)]

theorem freqLedRepair_high (w : BitVec 16) : freqLedRepair w &&& 0xff00 ≠ 0xff00 := by
  intro h
  have h14 := congrArg (fun x => x.getLsbD 14) h
  have hp : eepromFreqLedPolarity.bitMask.getLsbD 14 = false := by decide
  have hm : eepromFreqLedMode.bitMask.getLsbD 14 = true := by decide
  have hv : ledModeTxrxActivity.getLsbD (14 - eepromFreqLedMode.bitOffset) = false := by decide
  simp only [freqLedRepair, rt2x00SetField16, BitVec.getLsbD_and, Rt2x00Field.getLsbD_set,
    hp, hm, hv, Bool.false_eq_true, if_false, if_true, Bool.false_and] at h14
  exact absurd h14 (by decide)

theorem freqRepair_stable (w : BitVec 16) :
    freqRepair w &&& 0x00ff ≠ 0x00ff ∧ freqRepair w &&& 0xff00 ≠ 0xff00 := by
  unfold freqRepair
  by_cases hl : w &&& 0x00ff = 0x00ff
  · simp only [hl, if_true, freqOffsetRepair_high]
    split
    · rw [freqLedRepair_low, freqOffsetRepair_low]
      exact ⟨by decide, freqLedRepair_high _⟩
    · next hh => exact ⟨by rw [freqOffsetRepair_low]; decide, by rwa [freqOffsetRepair_high]⟩
  · simp only [hl, if_false]
    split
    · exact ⟨by rwa [freqLedRepair_low], freqLedRepair_high _⟩
    · next hh => exact ⟨hl, hh⟩


theorem rt2800EepromWrite_read_self (c : Chip) (e : Eeprom) (w : EepromWord) :
    rt2800EepromWrite c e w (rt2800EepromRead c e w) = e :=
  Function.update_eq_self _ _

theorem validateNicConf0_eq (c : Chip) (e : Eeprom) :
    validateNicConf0 c e =
      rt2800EepromWrite c e .nicConf0 (nicConf0Repair c (rt2800EepromRead c e .nicConf0)) := by
  unfold validateNicConf0
  dsimp only
  split
  · rfl
  · next h =>
    push_neg at h
    rw [nicConf0Repair, if_neg h.1, if_neg (by simpa using h.2), rt2800EepromWrite_read_self]

def nicConf1Repair (word : BitVec 16) : BitVec 16 :=
  if word = 0xffff then nicConf1Fields.foldl (rt2x00SetField16 · · 0) word else word

theorem validateNicConf1_eq (c : Chip) (e : Eeprom) :
    validateNicConf1 c e =
      rt2800EepromWrite c e .nicConf1 (nicConf1Repair (rt2800EepromRead c e .nicConf1)) := by
  unfold validateNicConf1 nicConf1Repair
  dsimp only
  split
  · rfl
  · rw [rt2800EepromWrite_read_self]

theorem nicConf1Repair_ne_blank (w : BitVec 16) : nicConf1Repair w ≠ 0xffff := by
  unfold nicConf1Repair
  split
  · next h => subst h; decide
  · assumption

theorem validateFreq_eq (c : Chip) (e : Eeprom) :
    validateFreq c e =
      let word := rt2800EepromRead c e .freq
      let e' := rt2800EepromWrite c e .freq (freqRepair word)
      if (if word &&& 0x00ff = 0x00ff then freqOffsetRepair word else word) &&& 0xff00 = 0xff00
      then
        let e' := rt2800EepromWrite c e' .ledAgConf 0x5555
        let e' := rt2800EepromWrite c e' .ledActConf 0x2221
        rt2800EepromWrite c e' .ledPolarity 0xa9f8
      else e' := by
  unfold validateFreq freqRepair
  simp only [rt2800EepromWrite]
  split_ifs <;> simp [Function.update_idem, Function.update_eq_self, rt2800EepromRead]


/-- An image every block of `rt2800ValidateEeprom` writes back unchanged. -/
structure EepromRepaired (c : Chip) (e : Eeprom) : Prop where
  nicConf0 : nicConf0Repair c (rt2800EepromRead c e .nicConf0) = rt2800EepromRead c e .nicConf0
  nicConf1 : rt2800EepromRead c e .nicConf1 ≠ 0xffff
  freqLow : rt2800EepromRead c e .freq &&& 0x00ff ≠ 0x00ff
  freqHigh : rt2800EepromRead c e .freq &&& 0xff00 ≠ 0xff00
  rssiBg : rssiBgRepair (rt2800EepromRead c e .rssiBg) = rt2800EepromRead c e .rssiBg
  rssiBg2 : rssiBg2Repair c (defaultLnaGainOf c e) (rt2800EepromRead c e .rssiBg2) =
    rt2800EepromRead c e .rssiBg2
  rssiA : rssiARepair (rt2800EepromRead c e .rssiA) = rt2800EepromRead c e .rssiA
  rssiA2 : rssiA2Repair c (defaultLnaGainOf c e) (rt2800EepromRead c e .rssiA2) =
    rt2800EepromRead c e .rssiA2
  extLna2 : (c.isRt .rt3593 || c.isRt .rt3883) = true →
    extLna2Repair (defaultLnaGainOf c e) (rt2800EepromRead c e .extLna2) =
      rt2800EepromRead c e .extLna2

theorem rt2800ValidateEeprom_of_repaired (c : Chip) (e : Eeprom) (h : EepromRepaired c e) :
    rt2800ValidateEeprom c e = e := by
  have h0 : validateNicConf0 c e = e := by
    rw [validateNicConf0_eq, h.nicConf0, rt2800EepromWrite_read_self]
  have h1 : validateNicConf1 c e = e := by
    unfold validateNicConf1; exact if_neg h.nicConf1
  have hf : validateFreq c e = e := by
    unfold validateFreq; simp only [if_neg h.freqLow, if_neg h.freqHigh]
  have hbg : validateRssiBg c e = e := by
    rw [validateRssiBg, h.rssiBg, rt2800EepromWrite_read_self]
  have hbg2 : validateRssiBg2 c (defaultLnaGainOf c e) e = e := by
    rw [validateRssiBg2, h.rssiBg2, rt2800EepromWrite_read_self]
  have ha : validateRssiA c e = e := by
    rw [validateRssiA, h.rssiA, rt2800EepromWrite_read_self]
  have ha2 : validateRssiA2 c (defaultLnaGainOf c e) e = e := by
    rw [validateRssiA2, h.rssiA2, rt2800EepromWrite_read_self]
  simp only [rt2800ValidateEeprom, h0, h1, hf, hbg, hbg2, ha, ha2]
  split
  · next hx => rw [validateExtLna2, h.extLna2 hx, rt2800EepromWrite_read_self]
  · rfl


def repairWords : List EepromWord :=
  [.nicConf0, .nicConf1, .freq, .ledAgConf, .ledActConf, .ledPolarity, .lna, .rssiBg, .rssiBg2,
    .rssiA, .rssiA2, .extLna2]

theorem rt2800EepromWordIndex_eq_iff (c : Chip) {w w' : EepromWord} (hw : w ∈ repairWords)
    (hw' : w' ∈ repairWords) :
    rt2800EepromWordIndex c w = rt2800EepromWordIndex c w' ↔ w = w' := by
  refine ⟨fun h => List.inj_on_of_nodup_map ?_ hw hw' h, congrArg _⟩
  unfold rt2800EepromWordIndex
  cases c.usesExtMap <;> decide

theorem rt2800EepromRead_write (c : Chip) (e : Eeprom) (w w' : EepromWord) (v : BitVec 16) :
    rt2800EepromRead c (rt2800EepromWrite c e w v) w' =
      if rt2800EepromWordIndex c w' = rt2800EepromWordIndex c w then v
      else rt2800EepromRead c e w' :=
  Function.update_apply ..

theorem rt2800EepromRead_ite (c : Chip) (p : Prop) [Decidable p] (a b : Eeprom) (w : EepromWord) :
    rt2800EepromRead c (if p then a else b) w =
      if p then rt2800EepromRead c a w else rt2800EepromRead c b w :=
  apply_ite (rt2800EepromRead c · w) ..

/-- What the repair leaves in each word it touches, and in LNA, which it only reads. -/
theorem rt2800ValidateEeprom_reads (c : Chip) (e : Eeprom) :
    let E := rt2800ValidateEeprom c e
    let d := defaultLnaGainOf c e
    rt2800EepromRead c E .nicConf0 = nicConf0Repair c (rt2800EepromRead c e .nicConf0) ∧
    rt2800EepromRead c E .nicConf1 = nicConf1Repair (rt2800EepromRead c e .nicConf1) ∧
    rt2800EepromRead c E .freq = freqRepair (rt2800EepromRead c e .freq) ∧
    rt2800EepromRead c E .lna = rt2800EepromRead c e .lna ∧
    rt2800EepromRead c E .rssiBg = rssiBgRepair (rt2800EepromRead c e .rssiBg) ∧
    rt2800EepromRead c E .rssiBg2 = rssiBg2Repair c d (rt2800EepromRead c e .rssiBg2) ∧
    rt2800EepromRead c E .rssiA = rssiARepair (rt2800EepromRead c e .rssiA) ∧
    rt2800EepromRead c E .rssiA2 = rssiA2Repair c d (rt2800EepromRead c e .rssiA2) ∧
    rt2800EepromRead c E .extLna2 = if (c.isRt .rt3593 || c.isRt .rt3883) then
      extLna2Repair d (rt2800EepromRead c e .extLna2) else rt2800EepromRead c e .extLna2 := by
  intro E d
  cases hext : (c.isRt .rt3593 || c.isRt .rt3883) <;>
  simp (disch := decide) only [E, d, defaultLnaGainOf, rt2800ValidateEeprom, validateNicConf0_eq,
    validateNicConf1_eq, validateFreq_eq, validateRssiBg, validateRssiBg2, validateRssiA,
    validateRssiA2, validateExtLna2, hext, rt2800EepromRead_write, rt2800EepromWordIndex_eq_iff,
    rt2800EepromRead_ite, ↓reduceIte, reduceCtorEq, if_true, if_false, Bool.false_eq_true, ite_self,
    and_self]

/-- Every image the repair returns is repaired. -/
theorem rt2800ValidateEeprom_repaired (c : Chip) (e : Eeprom) :
    EepromRepaired c (rt2800ValidateEeprom c e) := by
  obtain ⟨h0, h1, hf, hl, hbg, hbg2, ha, ha2, hx⟩ := rt2800ValidateEeprom_reads c e
  have hd : defaultLnaGainOf c (rt2800ValidateEeprom c e) = defaultLnaGainOf c e := by
    simp only [defaultLnaGainOf, hl]
  refine ⟨?_, ?_, ?_, ?_, ?_, ?_, ?_, ?_, ?_⟩
  · rw [h0, nicConf0Repair_idem]
  · rw [h1]; exact nicConf1Repair_ne_blank _
  · rw [hf]; exact (freqRepair_stable _).1
  · rw [hf]; exact (freqRepair_stable _).2
  · rw [hbg, rssiBgRepair_idem]
  · rw [hbg2, hd, rssiBg2Repair_idem]
  · rw [ha, rssiARepair_idem]
  · rw [ha2, hd, rssiA2Repair_idem]
  · intro hc; rw [hx, if_pos hc, hd, extLna2Repair_idem]

/-- The in-memory EEPROM repair is idempotent. -/
theorem rt2800ValidateEeprom_idem (c : Chip) (e : Eeprom) :
    rt2800ValidateEeprom c (rt2800ValidateEeprom c e) = rt2800ValidateEeprom c e :=
  rt2800ValidateEeprom_of_repaired c _ (rt2800ValidateEeprom_repaired c e)

/-- An RSSI_BG OFFSET0 of -1 (0xff) is cleared to 0. -/
theorem rssiBgOffset0_minus_one_cleared :
    (0xff : BitVec 8).toInt = -1 ∧
    rt2x00GetField16 (rt2800EepromRead ⟨.rt2860, 0, 0, .usb⟩ (fun _ => 0x00ff) .rssiBg)
      eepromRssiBgOffset0 = 0xff ∧
    rt2x00GetField16 (rt2800EepromRead ⟨.rt2860, 0, 0, .usb⟩
      (rt2800ValidateEeprom ⟨.rt2860, 0, 0, .usb⟩ (fun _ => 0x00ff)) .rssiBg)
      eepromRssiBgOffset0 = 0 := by
  rw [(rt2800ValidateEeprom_reads _ _).2.2.2.2.1]
  decide

/-- On RT3593 a blank EXT_LNA2.A2 writes the default gain into A1 over a valid A1 (0x12),
and A2 stays blank. -/
theorem extLna2_blank_a2_overwrites_a1 :
    rt2800EepromRead ⟨.rt3593, 0, 0, .usb⟩
      (rt2800ValidateEeprom ⟨.rt3593, 0, 0, .usb⟩
        (fun i => if i = 0x27 then 0x0012 else if i = 0x26 then 0x3400 else 0)) .extLna2 =
      0x0034 := by
  rw [(rt2800ValidateEeprom_reads _ _).2.2.2.2.2.2.2.2]
  decide

end WifiCoconut
