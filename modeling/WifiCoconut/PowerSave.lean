import WifiCoconut.Field
import Mathlib.Algebra.Group.Nat.Basic

/-!
# Power save

`rt2800_config_ps` puts the chip to sleep when `IEEE80211_CONF_PS` is set: it writes 0 to
`AUTOWAKEUP_CFG`, reads it back, sets the lead time, the number of beacons before waking and
the auto-wake bit, writes the word and asks for `STATE_SLEEP`. Otherwise it clears the three
fields in the word as read and asks for `STATE_AWAKE`. The register and its fields are
parameters (`PsHeader`), being in headers not among the sources. Over every sequence of
changes that has put the chip to sleep once, a wake leaves `AUTOWAKEUP_CFG` zero
(`psRun_wake_zero`).
-/

namespace WifiCoconut

/-- The constants of rt2800.h and mac80211 that `rt2800_config_ps` uses. -/
structure PsHeader where
  ieee80211ConfPs : BitVec 32
  autowakeupCfg : Nat
  autowakeupCfgAutoLeadTime : Rt2x00Field 32
  autowakeupCfgTbcnBeforeWake : Rt2x00Field 32
  autowakeupCfgAutowake : Rt2x00Field 32

inductive PsState
  | sleep | awake
  deriving DecidableEq, Repr

inductive PsEvent
  | write (reg : Nat) (value : BitVec 32)
  | setDeviceState (state : PsState)
  deriving DecidableEq, Repr

/-- The chip as `rt2800_config_ps` sees it: the registers it reads back, and every access in
order. -/
structure PsBus where
  regs : Nat → BitVec 32
  log : List PsEvent

def PsBus.write (b : PsBus) (reg : Nat) (value : BitVec 32) : PsBus :=
  { regs := Function.update b.regs reg value, log := b.log ++ [.write reg value] }

def PsBus.setDeviceState (b : PsBus) (s : PsState) : PsBus :=
  { b with log := b.log ++ [.setDeviceState s] }

section Ps

variable (hd : PsHeader)

/-- `AUTOWAKEUP_CFG` with the lead time, the number of beacons before waking and the auto-wake
bit set. -/
def autowakeupWord (reg lead tbcn wake : BitVec 32) : BitVec 32 :=
  hd.autowakeupCfgAutowake.set
    (hd.autowakeupCfgTbcnBeforeWake.set (hd.autowakeupCfgAutoLeadTime.set reg lead) tbcn) wake

/-- `rt2800_config_ps`, given `conf->flags` and `conf->listen_interval`. The `u16` listen
interval minus one is an `int`, which `rt2x00_set_field32` takes as a `u32`. -/
def rt2800ConfigPs (flags : BitVec 32) (listenInterval : BitVec 16) (b : PsBus) : PsBus :=
  if flags &&& hd.ieee80211ConfPs != 0 then
    let b := b.write hd.autowakeupCfg 0
    let reg :=
      autowakeupWord hd (b.regs hd.autowakeupCfg) 5 (listenInterval.setWidth 32 - 1) 1
    (b.write hd.autowakeupCfg reg).setDeviceState .sleep
  else
    let reg := autowakeupWord hd (b.regs hd.autowakeupCfg) 0 0 0
    (b.write hd.autowakeupCfg reg).setDeviceState .awake

/-- A sequence of power-save changes, each `(conf->flags, conf->listen_interval)`. -/
def psRun (b : PsBus) : List (BitVec 32 × BitVec 16) → PsBus
  | [] => b
  | (flags, listenInterval) :: ops => psRun (rt2800ConfigPs hd flags listenInterval b) ops

/-- No bit of the word lies outside the three fields. -/
def PsQuiet (w : BitVec 32) : Prop :=
  w &&& ~~~(hd.autowakeupCfgAutoLeadTime.bitMask ||| hd.autowakeupCfgTbcnBeforeWake.bitMask |||
    hd.autowakeupCfgAutowake.bitMask) = 0

instance (w : BitVec 32) : Decidable (PsQuiet hd w) := inferInstanceAs (Decidable (_ = _))

end Ps

/-! ## One change -/

section Step

variable (hd : PsHeader)

/-- A sleep writes a word that depends on the listen interval alone: the write of 0 before
the read clears the register. A wake clears the three fields of the word as read. -/
theorem rt2800ConfigPs_regs (flags : BitVec 32) (listenInterval : BitVec 16) (b : PsBus) :
    (rt2800ConfigPs hd flags listenInterval b).regs =
      Function.update b.regs hd.autowakeupCfg
        (if flags &&& hd.ieee80211ConfPs != 0 then
          autowakeupWord hd 0 5 (listenInterval.setWidth 32 - 1) 1
        else autowakeupWord hd (b.regs hd.autowakeupCfg) 0 0 0) := by
  unfold rt2800ConfigPs
  split
  · simp only [PsBus.setDeviceState, PsBus.write, Function.update_same, Function.update_idem]
  · rfl

theorem psRun_append (b : PsBus) (ops ops' : List (BitVec 32 × BitVec 16)) :
    psRun hd b (ops ++ ops') = psRun hd (psRun hd b ops) ops' := by
  induction ops generalizing b with
  | nil => rfl
  | cons op ops ih => exact ih _

theorem getLsbD_autowakeupWord (reg lead tbcn wake : BitVec 32) (i : Nat) :
    (autowakeupWord hd reg lead tbcn wake).getLsbD i =
      if hd.autowakeupCfgAutowake.bitMask.getLsbD i then
        wake.getLsbD (i - hd.autowakeupCfgAutowake.bitOffset)
      else if hd.autowakeupCfgTbcnBeforeWake.bitMask.getLsbD i then
        tbcn.getLsbD (i - hd.autowakeupCfgTbcnBeforeWake.bitOffset)
      else if hd.autowakeupCfgAutoLeadTime.bitMask.getLsbD i then
        lead.getLsbD (i - hd.autowakeupCfgAutoLeadTime.bitOffset)
      else reg.getLsbD i := by
  simp only [autowakeupWord, Rt2x00Field.getLsbD_set]

theorem psQuiet_iff (w : BitVec 32) :
    PsQuiet hd w ↔ ∀ i, w.getLsbD i = true →
      (hd.autowakeupCfgAutoLeadTime.bitMask.getLsbD i ||
        hd.autowakeupCfgTbcnBeforeWake.bitMask.getLsbD i ||
          hd.autowakeupCfgAutowake.bitMask.getLsbD i) = true := by
  constructor
  · intro h i hi
    by_contra hc
    rw [Bool.not_eq_true] at hc
    have hb := congrArg (fun x => x.getLsbD i) h
    simp [BitVec.getLsbD_or, hc, hi, BitVec.lt_of_getLsbD hi] at hb
  · intro h
    ext i
    simp only [BitVec.getLsbD_and, BitVec.getLsbD_not, BitVec.getLsbD_or]
    cases hw : w.getLsbD i
    · simp
    · rw [h i hw]; simp

/-- Whatever `AUTOWAKEUP_CFG` held, the fields set leave no bit outside them when the rest was
clear, and keep the rest clear when it was. -/
theorem psQuiet_autowakeupWord {reg : BitVec 32} (h : PsQuiet hd reg)
    (lead tbcn wake : BitVec 32) : PsQuiet hd (autowakeupWord hd reg lead tbcn wake) := by
  rw [psQuiet_iff] at h ⊢
  intro i hi
  rw [getLsbD_autowakeupWord] at hi
  split_ifs at hi with h1 h2 h3
  · simp [h1]
  · simp [h2]
  · simp [h3]
  · exact h i hi

theorem psQuiet_zero : PsQuiet hd 0 := by simp [PsQuiet]

theorem autowakeupWord_clear {reg : BitVec 32} (h : PsQuiet hd reg) :
    autowakeupWord hd reg 0 0 0 = 0 := by
  rw [psQuiet_iff] at h
  ext i
  rw [getLsbD_autowakeupWord]
  split_ifs with h1 h2 h3
  · simp
  · simp
  · simp
  · cases hr : reg.getLsbD i
    · simp
    · simpa [h1, h2, h3] using h i hr

theorem rt2800ConfigPs_quiet (flags : BitVec 32) (listenInterval : BitVec 16) (b : PsBus)
    (h : (flags &&& hd.ieee80211ConfPs != 0) = true ∨ PsQuiet hd (b.regs hd.autowakeupCfg)) :
    PsQuiet hd ((rt2800ConfigPs hd flags listenInterval b).regs hd.autowakeupCfg) := by
  rw [rt2800ConfigPs_regs, Function.update_same]
  split
  · exact psQuiet_autowakeupWord hd (psQuiet_zero hd) _ _ _
  · next hs => exact psQuiet_autowakeupWord hd (h.resolve_left hs) _ _ _

end Step

def psHeader : PsHeader where
  ieee80211ConfPs := 0x2
  autowakeupCfg := 0x1208
  autowakeupCfgAutoLeadTime := ⟨0x000000ff, 0, by decide⟩
  autowakeupCfgTbcnBeforeWake := ⟨0x00007f00, 8, by decide⟩
  autowakeupCfgAutowake := ⟨0x00008000, 15, by decide⟩

/-! ## Runs -/

section Run

variable (hd : PsHeader)

theorem psRun_quiet (b : PsBus) (ops : List (BitVec 32 × BitVec 16))
    (h : PsQuiet hd (b.regs hd.autowakeupCfg)) :
    PsQuiet hd ((psRun hd b ops).regs hd.autowakeupCfg) := by
  induction ops generalizing b with
  | nil => exact h
  | cons op ops ih => exact ih _ (rt2800ConfigPs_quiet hd _ _ _ (Or.inr h))

/-- After a sleep no bit outside the three fields is ever set again. -/
theorem psRun_quiet_of_sleep (b : PsBus) (ops : List (BitVec 32 × BitVec 16))
    (hs : ∃ op ∈ ops, (op.1 &&& hd.ieee80211ConfPs != 0) = true) :
    PsQuiet hd ((psRun hd b ops).regs hd.autowakeupCfg) := by
  induction ops generalizing b with
  | nil => simp at hs
  | cons op ops ih =>
    obtain ⟨flags, listenInterval⟩ := op
    obtain ⟨op', hmem, hop'⟩ := hs
    rcases List.mem_cons.mp hmem with rfl | hmem
    · exact psRun_quiet hd (rt2800ConfigPs hd flags listenInterval b) ops
        (rt2800ConfigPs_quiet hd _ _ _ (Or.inl hop'))
    · exact ih _ ⟨op', hmem, hop'⟩

/-- Over every sequence of power-save changes in which the chip has been put to sleep, a wake
leaves `AUTOWAKEUP_CFG` zero: the sleep rebuilt the word from 0 with only the three fields,
and the wake clears them. -/
theorem psRun_wake_zero (b : PsBus) (ops : List (BitVec 32 × BitVec 16))
    (hs : ∃ op ∈ ops, (op.1 &&& hd.ieee80211ConfPs != 0) = true)
    (flags : BitVec 32) (hw : (flags &&& hd.ieee80211ConfPs != 0) = false)
    (listenInterval : BitVec 16) :
    (psRun hd b (ops ++ [(flags, listenInterval)])).regs hd.autowakeupCfg = 0 := by
  rw [psRun_append, psRun, psRun, rt2800ConfigPs_regs, Function.update_same, hw, if_neg (by simp)]
  exact autowakeupWord_clear hd (psRun_quiet_of_sleep hd b ops hs)

theorem psRun_wake_zero_after_sleep :
    ((∃ op ∈ [((0x2 : BitVec 32), (1 : BitVec 16))],
        (op.1 &&& psHeader.ieee80211ConfPs != 0) = true) ∧
      ((0 : BitVec 32) &&& psHeader.ieee80211ConfPs != 0) = false) ∧
    (psRun psHeader ⟨fun _ => 0xffffffff, []⟩ ([(0x2, 1)] ++ [(0, 3)])).regs
      psHeader.autowakeupCfg = 0 :=
  ⟨⟨⟨_, List.mem_singleton_self _, by decide⟩, by decide⟩,
    psRun_wake_zero psHeader ⟨fun _ => 0xffffffff, []⟩ [(0x2, 1)]
      ⟨_, List.mem_singleton_self _, by decide⟩ 0 (by decide) 3⟩

end Run

end WifiCoconut
