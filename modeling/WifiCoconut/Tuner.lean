import WifiCoconut.Eeprom.Map
import WifiCoconut.BbpAccess

/-!
# The VGC tuner and BBP register 66

`rt2800_reset_tuner` and `rt2800_link_tuner` compute a receiver gain level (VGC) and hand it to
`rt2800_set_vgc`, which writes BBP 66 on every RX chain (BBP 27 selecting the copy) only when
the level differs from the cached `qual->vgc_level`. Every BBP access completes: the writes are
the byte store's when `WAIT_FOR_BBP` succeeds (`rt2800BbpWrite66_storeStep`); a timed-out wait
would drop a write the cache keeps. While the cache agrees with the hardware, a tuner call
leaves BBP 66 at its level (`rt2800SetVgc_holds`); a channel change on RT3352 breaks that.
-/

namespace WifiCoconut

inductive Band
  | band2Ghz | band5Ghz
  deriving DecidableEq, Repr

/-- The device state the tuner reads and writes: `curr_band`, `CONFIG_CHANNEL_HT40`,
`lna_gain`, `default_ant.rx_chain_num`, `DEVICE_STATE_ENABLED_RADIO`, BBP 27, BBP 66 of each
RX chain, and `qual`'s `vgc_level`, `vgc_level_reg` and `rssi`. -/
structure Tuner where
  band : Band
  ht40 : Bool
  lnaGain : Nat
  rxChainNum : Nat
  enabledRadio : Bool
  bbp27 : BitVec 8
  bbp66 : Nat → BitVec 8
  vgcLevel : BitVec 8
  vgcLevelReg : BitVec 8
  rssi : Int

section Bbp

variable (sel : Rt2x00Field 8)

def Tuner.chain (t : Tuner) : Nat := (sel.get t.bbp27).toNat

def rt2800BbpWrite27 (t : Tuner) (value : BitVec 8) : Tuner := { t with bbp27 := value }

def rt2800BbpWrite66 (t : Tuner) (value : BitVec 8) : Tuner :=
  { t with bbp66 := Function.update t.bbp66 (t.chain sel) value }

/-- The BBP registers as a plain access sees them: BBP 27, the copy of BBP 66 that BBP 27
selects, and `rest` for the others. -/
def Tuner.bbpStore (rest : Nat → BitVec 8) (t : Tuner) : Nat → BitVec 8 :=
  Function.update (Function.update rest 66 (t.bbp66 (t.chain sel))) 27 t.bbp27

theorem rt2800BbpWrite66_storeStep (sentinel : BitVec 8) (rest : Nat → BitVec 8) (t : Tuner)
    (value : BitVec 8) :
    (rt2800BbpWrite66 sel t value).bbpStore sel rest =
      (storeStep sentinel (t.bbpStore sel rest) (.write 66 value true)).1 := by
  funext w
  simp only [Tuner.bbpStore, storeStep, rt2800BbpWrite66, Tuner.chain, Function.update_apply,
    if_true]
  split_ifs <;> simp_all

/-- A write of BBP 27 is the byte store's write when its wait succeeds, after which a plain
access reaches the copy of BBP 66 of the chain the new value selects. -/
theorem rt2800BbpWrite27_storeStep (sentinel : BitVec 8) (rest : Nat → BitVec 8) (t : Tuner)
    (value : BitVec 8) :
    (rt2800BbpWrite27 t value).bbpStore sel rest =
      Function.update (storeStep sentinel (t.bbpStore sel rest) (.write 27 value true)).1 66
        (t.bbp66 (sel.get value).toNat) := by
  funext w
  simp only [Tuner.bbpStore, storeStep, rt2800BbpWrite27, Tuner.chain, Function.update_apply,
    if_true]
  split_ifs <;> simp_all

def bbpWriteChain (value : BitVec 8) (t : Tuner) (chain : Nat) : Tuner :=
  rt2800BbpWrite66 sel (rt2800BbpWrite27 t (sel.set t.bbp27 (BitVec.ofNat 8 chain))) value

def rt2800BbpWriteWithRxChain66 (t : Tuner) (value : BitVec 8) : Tuner :=
  (List.range t.rxChainNum).foldl (bbpWriteChain sel value) t

end Bbp

def Chip.vgcPerChain (c : Chip) : Bool :=
  c.isRt .rt3572 || c.isRt .rt3593 || c.isRt .rt3883 || c.isRt .rt5592

def rt2800GetDefaultVgc (c : Chip) (t : Tuner) : BitVec 8 :=
  if t.band = .band2Ghz then
    if c.isRt .rt3070 || c.isRt .rt3071 || c.isRt .rt3090 || c.isRt .rt3290 ||
        c.isRt .rt3390 || c.isRt .rt3572 || c.isRt .rt3593 || c.isRt .rt5390 ||
        c.isRt .rt5392 || c.isRt .rt5592 || c.isRt .rt6352 then
      BitVec.ofNat 8 (0x1c + 2 * t.lnaGain)
    else BitVec.ofNat 8 (0x2e + t.lnaGain)
  else if c.isRt .rt3593 || c.isRt .rt3883 then BitVec.ofNat 8 (0x20 + t.lnaGain * 5 / 3)
  else if c.isRt .rt5592 then BitVec.ofNat 8 (0x24 + 2 * t.lnaGain)
  else if !t.ht40 then BitVec.ofNat 8 (0x32 + t.lnaGain * 5 / 3)
  else BitVec.ofNat 8 (0x3a + t.lnaGain * 5 / 3)

section Vgc

variable (sel : Rt2x00Field 8) (c : Chip)

/-- The BBP 66 write of `rt2800_set_vgc`, per chip. The BBP 83 write of RT5592 is left
out. -/
def rt2800SetVgcWrite (t : Tuner) (vgc : BitVec 8) : Tuner :=
  if c.isRt .rt3572 || c.isRt .rt3593 || c.isRt .rt3883 then
    rt2800BbpWriteWithRxChain66 sel t vgc
  else if c.isRt .rt5592 then rt2800BbpWriteWithRxChain66 sel t vgc
  else rt2800BbpWrite66 sel t vgc

def rt2800SetVgc (t : Tuner) (vgc : BitVec 8) : Tuner :=
  if t.vgcLevel ≠ vgc then
    { rt2800SetVgcWrite sel c t vgc with vgcLevel := vgc, vgcLevelReg := vgc }
  else t

def rt2800ResetTuner (t : Tuner) : Tuner := rt2800SetVgc sel c t (rt2800GetDefaultVgc c t)

def rt2800LinkTunerVgc (t : Tuner) : BitVec 8 :=
  let vgc := rt2800GetDefaultVgc c t
  match c.rt with
  | .rt3572 | .rt3593 =>
    if t.rssi > -65 then (if t.band = .band2Ghz then vgc + 0x20 else vgc + 0x10) else vgc
  | .rt3883 => if t.rssi > -65 then vgc + 0x10 else vgc
  | .rt5592 => if t.rssi > -65 then vgc + 0x20 else vgc
  | _ => if t.rssi > -80 then vgc + 0x10 else vgc

def rt2800LinkTuner (h : Header) (t : Tuner) : Tuner :=
  if c.isRtRev .rt2860 h.revRt2860C then t else rt2800SetVgc sel c t (rt2800LinkTunerVgc c t)

/-- `rt2x00link_reset_tuner`: on an enabled radio, clear `qual` but keep `vgc_level_reg`,
then reset the tuner. The antenna reset is empty in this port. -/
def rt2x00linkResetTuner (t : Tuner) : Tuner :=
  if !t.enabledRadio then t
  else rt2800ResetTuner sel c { t with vgcLevel := 0, rssi := 0 }

/-- The BBP 66 writes of `rt2800_init_bbp`: `0x38` by the per-chip helper (the RT305x SoC
helper and the RT2860 helper both run on an RT305x SoC), `0x1c` on chain 0 for RT6352. -/
def rt2800InitBbp66 (h : Header) (t : Tuner) : Tuner :=
  let t := if rt2800Is305xSoc h c then rt2800BbpWrite66 sel t 0x38 else t
  if c.isRt .rt6352 then rt2800BbpWrite66 sel (rt2800BbpWrite27 t 0x00) 0x1c
  else rt2800BbpWrite66 sel t 0x38

/-- The BBP 66 writes of `rt2800_config_channel` on `channel`: `rt3883_bbp_adjust`, the BBP
settings of RT3352, and the AGC init of RT3572, RT3593, RT3883, RT5592 and RT6352. -/
def rt2800ConfigChannel66 (t : Tuner) (channel : Nat) : Tuner :=
  let g := t.lnaGain
  let t := if c.isRt .rt3883 then
      rt2800BbpWriteWithRxChain66 sel t (if channel > 14 then 0x48 else 0x38) else t
  let t := if c.isRt .rt3352 then
      let t := rt2800BbpWrite66 sel (rt2800BbpWrite27 t 0x0) (BitVec.ofNat 8 (0x26 + g))
      rt2800BbpWrite66 sel (rt2800BbpWrite27 t 0x20) (BitVec.ofNat 8 (0x26 + g))
    else t
  let agc3x := if channel ≤ 14 then BitVec.ofNat 8 (0x1c + 2 * g)
    else BitVec.ofNat 8 (0x22 + g * 5 / 3)
  let t := if c.isRt .rt3572 then rt2800BbpWriteWithRxChain66 sel t agc3x else t
  let t := if c.isRt .rt3593 then rt2800BbpWriteWithRxChain66 sel t agc3x else t
  let t := if c.isRt .rt3883 then
      rt2800BbpWriteWithRxChain66 sel t
        (if channel ≤ 14 then BitVec.ofNat 8 (0x2e + g) else BitVec.ofNat 8 (0x20 + g * 5 / 3))
    else t
  if c.isRt .rt5592 || c.isRt .rt6352 then
    rt2800BbpWriteWithRxChain66 sel t
      (BitVec.ofNat 8 ((if channel ≤ 14 then 0x1c else 0x24) + 2 * g))
  else t

def rt2800ConfigLnaGain (e : Eeprom) (channel : Nat) : Nat :=
  (if channel ≤ 14 then
    rt2x00GetField16 (rt2800EepromRead c e .lna) eepromLnaBg
  else if channel ≤ 64 then
    rt2x00GetField16 (rt2800EepromRead c e .lna) eepromLnaA0
  else if channel ≤ 128 then
    if c.isRt .rt3593 || c.isRt .rt3883 then
      rt2x00GetField16 (rt2800EepromRead c e .extLna2) eepromExtLna2A1
    else rt2x00GetField16 (rt2800EepromRead c e .rssiBg2) eepromRssiBg2LnaA1
  else if c.isRt .rt3593 || c.isRt .rt3883 then
    rt2x00GetField16 (rt2800EepromRead c e .extLna2) eepromExtLna2A2
  else rt2x00GetField16 (rt2800EepromRead c e .rssiA2) eepromRssiA2LnaA2).toNat

/-- `rt2x00lib_config` with `IEEE80211_CONF_CHANGE_CHANNEL`: the HT40 flag, then
`rt2800_config` (LNA gain, then the channel), then the new band. -/
def rt2x00libConfig (e : Eeprom) (t : Tuner) (channel : Nat) (ht40 : Bool) (band : Band) :
    Tuner :=
  let t := { t with ht40 := ht40 }
  let t := { t with lnaGain := rt2800ConfigLnaGain c e channel }
  let t := rt2800ConfigChannel66 sel c t channel
  { t with band := band }

end Vgc

/-- The driver operations of a tuner run. `enableRadio ok` is `rt2x00lib_enable_radio` with a
bring-up that passes all its waits (`ok`) or stops at one before the BBP init; `linkTuner`
is a tuning period in which `qual->rssi` has become `rssi`. -/
inductive TunerOp
  | enableRadio (ok : Bool)
  | disableRadio
  | config (channel : Nat) (ht40 : Bool) (band : Band)
  | configAntenna
  | resetTuner
  | linkTuner (rssi : Int)
  deriving DecidableEq, Repr

/-- A tuner call: the level it computed, and the BBP 66 values it leaves on the chains it
programs: every chain below `rx_chain_num` on the per-chain chips, the selected one
otherwise. -/
structure TunerCall where
  vgc : BitVec 8
  values : List (BitVec 8)
  deriving DecidableEq, Repr

section Run

variable (sel : Rt2x00Field 8) (h : Header) (c : Chip) (e : Eeprom)

def Tuner.observed (t : Tuner) : List (BitVec 8) :=
  if c.vgcPerChain then (List.range t.rxChainNum).map t.bbp66 else [t.bbp66 (t.chain sel)]

def logTunerCall (vgc : BitVec 8) (t' : Tuner) : Tuner × List TunerCall :=
  (t', [⟨vgc, t'.observed sel c⟩])

/-- One driver operation, with the tuner calls it makes: the antenna change runs
`rt2x00link_reset_tuner`, the link tuning `rt2800_link_tuner`. -/
def tunerStep (t : Tuner) : TunerOp → Tuner × List TunerCall
  | .enableRadio ok =>
    if t.enabledRadio || !ok then (t, [])
    else ({ rt2800InitBbp66 sel c h t with enabledRadio := true }, [])
  | .disableRadio => ({ t with enabledRadio := false }, [])
  | .config channel ht40 band => (rt2x00libConfig sel c e t channel ht40 band, [])
  | .configAntenna =>
    if !t.enabledRadio then (t, [])
    else logTunerCall sel c (rt2800GetDefaultVgc c t) (rt2x00linkResetTuner sel c t)
  | .resetTuner => logTunerCall sel c (rt2800GetDefaultVgc c t) (rt2800ResetTuner sel c t)
  | .linkTuner rssi =>
    let t := { t with rssi := rssi }
    if c.isRtRev .rt2860 h.revRt2860C then (t, [])
    else logTunerCall sel c (rt2800LinkTunerVgc c t) (rt2800LinkTuner sel c h t)

def tunerRun : Tuner → List TunerOp → Tuner × List TunerCall
  | t, [] => (t, [])
  | t, op :: ops =>
    let r := tunerStep sel h c e t op
    let r' := tunerRun r.1 ops
    (r'.1, r.2 ++ r'.2)

end Run

/-! ## A tuner call lands when the cache is right -/

section Holds

variable (sel : Rt2x00Field 8) (c : Chip)

def chainIndex (ch : Nat) : Nat := (sel.get (BitVec.ofNat 8 ch <<< sel.bitOffset)).toNat

def ChainSelOk (n : Nat) : Prop := ∀ ch < n, chainIndex sel ch = ch

/-- The cached level is what BBP 66 holds where the tuner's writes go. -/
def Tuner.InSync (t : Tuner) : Prop := ∀ x ∈ t.observed sel c, x = t.vgcLevel

variable {sel c}

@[simp] theorem bbpWriteChain_bbp66 (v : BitVec 8) (t : Tuner) (ch i : Nat) :
    (bbpWriteChain sel v t ch).bbp66 i = if i = chainIndex sel ch then v else t.bbp66 i := by
  simp [bbpWriteChain, rt2800BbpWrite66, rt2800BbpWrite27, Tuner.chain, chainIndex,
    Function.update_apply]

@[simp] theorem bbpWriteChain_rxChainNum (v : BitVec 8) (t : Tuner) (ch : Nat) :
    (bbpWriteChain sel v t ch).rxChainNum = t.rxChainNum := rfl

theorem foldl_bbpWriteChain (v : BitVec 8) (l : List Nat) :
    ∀ (t : Tuner) (i : Nat), (t.bbp66 i = v ∨ ∃ ch ∈ l, i = chainIndex sel ch) →
      (l.foldl (bbpWriteChain sel v) t).bbp66 i = v := by
  induction l with
  | nil => intro t i h; simpa using h
  | cons ch l ih =>
    intro t i h
    apply ih
    by_cases hi : i = chainIndex sel ch
    · simp [hi]
    · simp only [List.mem_cons, exists_eq_or_imp, hi, false_or] at h
      rcases h with h | h
      · exact .inl (by simp [hi, h])
      · exact .inr h

theorem foldl_bbpWriteChain_rxChainNum (v : BitVec 8) (l : List Nat) (t : Tuner) :
    (l.foldl (bbpWriteChain sel v) t).rxChainNum = t.rxChainNum := by
  induction l generalizing t with
  | nil => rfl
  | cons ch l ih => exact ih _

theorem rt2800BbpWriteWithRxChain66_observed (t : Tuner) (v : BitVec 8)
    (hsel : ChainSelOk sel t.rxChainNum) :
    ∀ ch < (rt2800BbpWriteWithRxChain66 sel t v).rxChainNum,
      (rt2800BbpWriteWithRxChain66 sel t v).bbp66 ch = v := by
  intro ch hch
  rw [rt2800BbpWriteWithRxChain66, foldl_bbpWriteChain_rxChainNum] at hch
  exact foldl_bbpWriteChain v _ t ch (.inr ⟨ch, List.mem_range.mpr hch, (hsel ch hch).symm⟩)

theorem rt2800SetVgcWrite_eq (t : Tuner) (vgc : BitVec 8) :
    rt2800SetVgcWrite sel c t vgc = if c.vgcPerChain then rt2800BbpWriteWithRxChain66 sel t vgc
      else rt2800BbpWrite66 sel t vgc := by
  unfold rt2800SetVgcWrite Chip.vgcPerChain
  cases c.isRt .rt3572 <;> cases c.isRt .rt3593 <;> cases c.isRt .rt3883 <;>
    cases c.isRt .rt5592 <;> rfl

theorem rt2800SetVgcWrite_observed (t : Tuner) (vgc : BitVec 8)
    (hsel : ChainSelOk sel t.rxChainNum) :
    ∀ x ∈ (rt2800SetVgcWrite sel c t vgc).observed sel c, x = vgc := by
  rw [rt2800SetVgcWrite_eq]
  unfold Tuner.observed
  cases hpc : c.vgcPerChain
  · simp [rt2800BbpWrite66, Tuner.chain]
  · simp only [if_true, List.mem_map, List.mem_range]
    rintro x ⟨ch, hch, rfl⟩
    exact rt2800BbpWriteWithRxChain66_observed t vgc hsel ch hch

/-- `rt2800_set_vgc` leaves BBP 66 at the level it was given whenever it writes, and when it
skips the write because the cache holds that level and BBP 66 agrees with the cache. -/
theorem rt2800SetVgc_holds (t : Tuner) (vgc : BitVec 8) (hsel : ChainSelOk sel t.rxChainNum)
    (h : t.vgcLevel ≠ vgc ∨ t.InSync sel c) :
    ∀ x ∈ (rt2800SetVgc sel c t vgc).observed sel c, x = vgc := by
  unfold rt2800SetVgc
  split_ifs with hne
  · exact rt2800SetVgcWrite_observed t vgc hsel
  · have hv : t.vgcLevel = vgc := not_not.mp hne
    intro x hx
    rcases h with h | h
    · exact absurd hv h
    · exact (h x hx).trans hv

theorem rt2800SetVgc_vgcLevel (t : Tuner) (vgc : BitVec 8) :
    (rt2800SetVgc sel c t vgc).vgcLevel = vgc := by
  unfold rt2800SetVgc
  split_ifs with hne
  · rfl
  · exact not_not.mp hne

theorem rt2800SetVgc_inSync (t : Tuner) (vgc : BitVec 8) (hsel : ChainSelOk sel t.rxChainNum)
    (h : t.vgcLevel ≠ vgc ∨ t.InSync sel c) : (rt2800SetVgc sel c t vgc).InSync sel c := by
  intro x hx
  rw [rt2800SetVgc_vgcLevel]
  exact rt2800SetVgc_holds t vgc hsel h x hx

end Holds

/-! ## Runs of tuner calls -/

/-- The operations that only tune: `rt2800_reset_tuner`, `rt2800_link_tuner` with any
RSSI, and taking the radio down. -/
def TunerOp.Tuning : TunerOp → Prop
  | .resetTuner | .linkTuner _ | .disableRadio => True
  | _ => False

def TunerCall.Lands (call : TunerCall) : Prop := ∀ x ∈ call.values, x = call.vgc

section Run

variable (sel : Rt2x00Field 8) (h : Header) (c : Chip) (e : Eeprom)

theorem logTunerCall_lands (t : Tuner) (vgc : BitVec 8) (hsel : ChainSelOk sel t.rxChainNum)
    (hsync : t.InSync sel c) :
    (logTunerCall sel c vgc (rt2800SetVgc sel c t vgc)).1.InSync sel c ∧
      ∀ call ∈ (logTunerCall sel c vgc (rt2800SetVgc sel c t vgc)).2, call.Lands := by
  refine ⟨rt2800SetVgc_inSync t vgc hsel (.inr hsync), ?_⟩
  simp only [logTunerCall, List.mem_singleton]
  rintro call rfl
  exact rt2800SetVgc_holds t vgc hsel (.inr hsync)

theorem tunerStep_tuning (t : Tuner) (op : TunerOp) (hop : op.Tuning)
    (hsel : ChainSelOk sel t.rxChainNum) (hsync : t.InSync sel c) :
    (tunerStep sel h c e t op).1.rxChainNum = t.rxChainNum ∧
      (tunerStep sel h c e t op).1.InSync sel c ∧
      ∀ call ∈ (tunerStep sel h c e t op).2, call.Lands := by
  have hnum : ∀ t' vgc, (rt2800SetVgc sel c t' vgc).rxChainNum = t'.rxChainNum := by
    intro t' vgc
    unfold rt2800SetVgc
    split_ifs
    · rw [rt2800SetVgcWrite_eq]; split_ifs
      · exact foldl_bbpWriteChain_rxChainNum _ _ _
      · rfl
    · rfl
  cases op with
  | resetTuner => exact ⟨hnum _ _, logTunerCall_lands sel c t _ hsel hsync⟩
  | linkTuner rssi =>
    simp only [tunerStep]
    split_ifs with hrev
    · exact ⟨rfl, hsync, by simp⟩
    · rw [rt2800LinkTuner, if_neg hrev]
      exact ⟨hnum _ _, logTunerCall_lands sel c { t with rssi := rssi } _ hsel hsync⟩
  | disableRadio => exact ⟨rfl, hsync, by simp [tunerStep]⟩
  | _ => exact absurd hop id

/-- From a state in which the cached level agrees with BBP 66, every run of tuner resets and
link tunings (any RSSI, any chip) leaves BBP 66, on every chain the chip programs, at the
level each call computed. -/
theorem tunerRun_tuning_lands (ops : List TunerOp) (hops : ∀ op ∈ ops, op.Tuning) :
    ∀ t : Tuner, ChainSelOk sel t.rxChainNum → t.InSync sel c →
      ∀ call ∈ (tunerRun sel h c e t ops).2, call.Lands := by
  induction ops with
  | nil => intro t _ _; simp [tunerRun]
  | cons op ops ih =>
    intro t hsel hsync
    obtain ⟨hnum, hsync', hcalls⟩ :=
      tunerStep_tuning sel h c e t op (hops op (List.mem_cons_self _ _)) hsel hsync
    have hrest := ih (fun o ho => hops o (List.mem_cons_of_mem _ ho)) _ (hnum ▸ hsel) hsync'
    simp only [tunerRun, List.mem_append]
    rintro call (hc | hc)
    · exact hcalls call hc
    · exact hrest call hc

end Run

theorem tunerRun_tuning_lands_rt3572 :
    (∀ op ∈ [TunerOp.resetTuner, .linkTuner (-50), .linkTuner (-70)], op.Tuning) ∧
    ChainSelOk ⟨0x60, 5, by decide⟩ 2 ∧
    Tuner.InSync ⟨0x60, 5, by decide⟩ ⟨.rt3572, 0, 0, .usb⟩
      ⟨.band2Ghz, false, 0, 2, true, 0, fun _ => 0x38, 0x38, 0x38, 0⟩ ∧
    ∀ call ∈ (tunerRun ⟨0x60, 5, by decide⟩ ⟨0, 0, 0, 0, 0, 0, 0, 0, 0, 16⟩
      ⟨.rt3572, 0, 0, .usb⟩ (fun _ => 0)
      ⟨.band2Ghz, false, 0, 2, true, 0, fun _ => 0x38, 0x38, 0x38, 0⟩
      [.resetTuner, .linkTuner (-50), .linkTuner (-70)]).2, call.Lands := by
  have hops : ∀ op ∈ [TunerOp.resetTuner, .linkTuner (-50), .linkTuner (-70)], op.Tuning := by
    simp [TunerOp.Tuning]
  have hsel : ChainSelOk ⟨0x60, 5, by decide⟩ 2 := by
    intro ch hch
    match ch, hch with
    | 0, _ => rfl
    | 1, _ => rfl
  have hsync : Tuner.InSync ⟨0x60, 5, by decide⟩ ⟨.rt3572, 0, 0, .usb⟩
      ⟨.band2Ghz, false, 0, 2, true, 0, fun _ => 0x38, 0x38, 0x38, 0⟩ := by
    simp [Tuner.InSync, Tuner.observed, Chip.vgcPerChain, Chip.isRt]
  exact ⟨hops, hsel, hsync, tunerRun_tuning_lands _ _ _ _ _ hops _ hsel hsync⟩

/-- On RT3352 a channel change writes `0x26 + lna_gain` to BBP 66 without touching the
cache: after enabling the radio, tuning at RSSI -90 (level `0x2e`), and changing to channel
1, the next tuning at RSSI -90 computes `0x2e` again, skips the write, and BBP 66 keeps
`0x26`. -/
theorem rt3352_channel_change_skips_vgc :
    (tunerRun ⟨0x60, 5, by decide⟩ ⟨0, 0, 0, 0, 0, 0, 0, 0, 0, 16⟩ ⟨.rt3352, 0, 0, .usb⟩
      (fun _ => 0) ⟨.band2Ghz, false, 0, 1, false, 0, fun _ => 0, 0, 0, 0⟩
      [.enableRadio true, .linkTuner (-90), .config 1 false .band2Ghz, .linkTuner (-90)]).2 =
      [⟨0x2e, [0x2e]⟩, ⟨0x2e, [0x26]⟩] := by
  decide

end WifiCoconut
