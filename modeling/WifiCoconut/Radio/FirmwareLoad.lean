import WifiCoconut.BbpAccess
import WifiCoconut.Radio.Lifecycle

/-!
# Firmware load and the RT3290 WLAN wake-up

`rt2800_load_firmware` wakes the WLAN function on RT3290 (`rt2800_enable_wlan_rt3290`: rounds
of `CMB_CTRL` polls, retried up to ten times), waits for `MAC_CSR0`, turns DMA off, hands the
firmware over, waits for `PBF_SYS_CTRL_READY`, turns DMA off again and, on USB, boots the MCU.
The constants of rt2800.h and the rt2x00 headers are parameters (`LoadHeader`); the polled
status registers answer from the hardware's stream `ans`. The wake-up's rounds are one poll
of `11 * REGISTER_BUSY_COUNT` answers (`rt2800EnableWlanRt3290_poll`), the wake-up leaves
`WLAN_FUN_CTRL` awake whatever the answers (`rt2800EnableWlanRt3290_regs`), and a load that
succeeds leaves both DMA engines off (`rt2800LoadFirmware_dma`).
-/

namespace WifiCoconut

def Chip.isPci (c : Chip) : Bool := c.intf == .pci

inductive Errno
  | eio
  | ebusy
  deriving DecidableEq, Repr

structure WlanFunCtrl where
  wlanGpioOutOeBitAll : Rt2x00Field 32
  frcWlAntSet : Rt2x00Field 32
  wlanClkEn : Rt2x00Field 32
  wlanEn : Rt2x00Field 32
  pcieApp0ClkReq : Rt2x00Field 32
  wlanReset : Rt2x00Field 32

/-- The fields of `WPDMA_GLO_CFG` that `rt2800_disable_wpdma` sets, in its order. No two
share a bit. -/
structure WpdmaGloCfg where
  enableTxDma : Rt2x00Field 32
  txDmaBusy : Rt2x00Field 32
  enableRxDma : Rt2x00Field 32
  rxDmaBusy : Rt2x00Field 32
  txWritebackDone : Rt2x00Field 32
  disjoint : [enableTxDma, txDmaBusy, enableRxDma, rxDmaBusy, txWritebackDone].Pairwise
    Rt2x00Field.Disjoint

structure H2mMailboxCsr where
  owner : Rt2x00Field 32
  cmdToken : Rt2x00Field 32
  arg0 : Rt2x00Field 32
  arg1 : Rt2x00Field 32

/-- The registers, fields and constants of the headers the load uses. The registers it
writes are different registers. -/
structure LoadHeader where
  registerBusyCount : Nat
  wlanFunCtrl : Nat
  intSourceCsr : Nat
  autowakeupCfg : Nat
  auxCtrl : Nat
  pwrPinCfg : Nat
  wpdmaGloCfg : Nat
  h2mBbpAgent : Nat
  h2mMailboxCsr : Nat
  h2mIntSrc : Nat
  hostCmdCsr : Nat
  wlan : WlanFunCtrl
  pllLd : Rt2x00Field 32
  xtalRdy : Rt2x00Field 32
  auxCtrlForcePcieClk : Rt2x00Field 32
  auxCtrlWakePcieEn : Rt2x00Field 32
  wpdma : WpdmaGloCfg
  pbfSysCtrlReady : Rt2x00Field 32
  mailbox : H2mMailboxCsr
  hostCmdCsrHostCommand : Rt2x00Field 32
  mcuBootSignal : BitVec 8
  distinct : [wlanFunCtrl, intSourceCsr, 0x58, autowakeupCfg, auxCtrl, pwrPinCfg, wpdmaGloCfg,
    h2mBbpAgent, h2mMailboxCsr, h2mIntSrc, hostCmdCsr].Nodup

theorem LoadHeader.distinct_ne (h : LoadHeader) :
    (h.wlanFunCtrl ≠ h.intSourceCsr ∧ h.wlanFunCtrl ≠ 0x58 ∧
      h.wlanFunCtrl ≠ h.autowakeupCfg ∧ h.wlanFunCtrl ≠ h.auxCtrl ∧ h.wlanFunCtrl ≠ h.pwrPinCfg ∧
      h.wlanFunCtrl ≠ h.wpdmaGloCfg ∧ h.wlanFunCtrl ≠ h.h2mBbpAgent ∧
      h.wlanFunCtrl ≠ h.h2mMailboxCsr ∧ h.wlanFunCtrl ≠ h.h2mIntSrc ∧
      h.wlanFunCtrl ≠ h.hostCmdCsr) ∧
    (h.intSourceCsr ≠ 0x58 ∧ h.intSourceCsr ≠ h.autowakeupCfg ∧
      h.intSourceCsr ≠ h.auxCtrl ∧ h.intSourceCsr ≠ h.pwrPinCfg ∧ h.intSourceCsr ≠ h.wpdmaGloCfg ∧
      h.intSourceCsr ≠ h.h2mBbpAgent ∧ h.intSourceCsr ≠ h.h2mMailboxCsr ∧
      h.intSourceCsr ≠ h.h2mIntSrc ∧ h.intSourceCsr ≠ h.hostCmdCsr) ∧
    (0x58 ≠ h.autowakeupCfg ∧ 0x58 ≠ h.auxCtrl ∧ 0x58 ≠ h.pwrPinCfg ∧
      0x58 ≠ h.wpdmaGloCfg ∧ 0x58 ≠ h.h2mBbpAgent ∧ 0x58 ≠ h.h2mMailboxCsr ∧ 0x58 ≠ h.h2mIntSrc ∧
      0x58 ≠ h.hostCmdCsr) ∧
    (h.autowakeupCfg ≠ h.auxCtrl ∧ h.autowakeupCfg ≠ h.pwrPinCfg ∧
      h.autowakeupCfg ≠ h.wpdmaGloCfg ∧ h.autowakeupCfg ≠ h.h2mBbpAgent ∧
      h.autowakeupCfg ≠ h.h2mMailboxCsr ∧ h.autowakeupCfg ≠ h.h2mIntSrc ∧
      h.autowakeupCfg ≠ h.hostCmdCsr) ∧
    (h.auxCtrl ≠ h.pwrPinCfg ∧ h.auxCtrl ≠ h.wpdmaGloCfg ∧ h.auxCtrl ≠ h.h2mBbpAgent ∧
      h.auxCtrl ≠ h.h2mMailboxCsr ∧ h.auxCtrl ≠ h.h2mIntSrc ∧
      h.auxCtrl ≠ h.hostCmdCsr) ∧
    (h.pwrPinCfg ≠ h.wpdmaGloCfg ∧ h.pwrPinCfg ≠ h.h2mBbpAgent ∧
      h.pwrPinCfg ≠ h.h2mMailboxCsr ∧ h.pwrPinCfg ≠ h.h2mIntSrc ∧
      h.pwrPinCfg ≠ h.hostCmdCsr) ∧
    (h.wpdmaGloCfg ≠ h.h2mBbpAgent ∧ h.wpdmaGloCfg ≠ h.h2mMailboxCsr ∧
      h.wpdmaGloCfg ≠ h.h2mIntSrc ∧ h.wpdmaGloCfg ≠ h.hostCmdCsr) ∧
    (h.h2mBbpAgent ≠ h.h2mMailboxCsr ∧ h.h2mBbpAgent ≠ h.h2mIntSrc ∧
      h.h2mBbpAgent ≠ h.hostCmdCsr) ∧
    (h.h2mMailboxCsr ≠ h.h2mIntSrc ∧ h.h2mMailboxCsr ≠ h.hostCmdCsr) ∧
    h.h2mIntSrc ≠ h.hostCmdCsr := by
  simpa [List.nodup_cons, not_or] using h.distinct

/-- A register map and field layout for the load: the WLAN function, `CMB_CTRL`, DMA and
mailbox fields at the bits the RT2800 family puts them, and 100 reads a poll. -/
def loadHeader : LoadHeader where
  registerBusyCount := 100
  wlanFunCtrl := 0x0080
  intSourceCsr := 0x0200
  autowakeupCfg := 0x1208
  auxCtrl := 0x020c
  pwrPinCfg := 0x1204
  wpdmaGloCfg := 0x0208
  h2mBbpAgent := 0x7028
  h2mMailboxCsr := 0x7010
  h2mIntSrc := 0x7024
  hostCmdCsr := 0x0404
  wlan :=
    { wlanGpioOutOeBitAll := ⟨0xff000000, 24, by decide⟩
      frcWlAntSet := ⟨0x00000020, 5, by decide⟩
      wlanClkEn := ⟨0x00000002, 1, by decide⟩
      wlanEn := ⟨0x00000001, 0, by decide⟩
      pcieApp0ClkReq := ⟨0x00000010, 4, by decide⟩
      wlanReset := ⟨0x00000008, 3, by decide⟩ }
  pllLd := ⟨0x00800000, 23, by decide⟩
  xtalRdy := ⟨0x00400000, 22, by decide⟩
  auxCtrlForcePcieClk := ⟨0x00000400, 10, by decide⟩
  auxCtrlWakePcieEn := ⟨0x00000002, 1, by decide⟩
  wpdma :=
    { enableTxDma := ⟨0x00000001, 0, by decide⟩, txDmaBusy := ⟨0x00000002, 1, by decide⟩
      enableRxDma := ⟨0x00000004, 2, by decide⟩, rxDmaBusy := ⟨0x00000008, 3, by decide⟩
      txWritebackDone := ⟨0x00000040, 6, by decide⟩, disjoint := by decide }
  pbfSysCtrlReady := ⟨0x00000080, 7, by decide⟩
  mailbox :=
    { owner := ⟨0xff000000, 24, by decide⟩, cmdToken := ⟨0x00ff0000, 16, by decide⟩
      arg0 := ⟨0x000000ff, 0, by decide⟩, arg1 := ⟨0x0000ff00, 8, by decide⟩ }
  hostCmdCsrHostCommand := ⟨0x000000ff, 0, by decide⟩
  mcuBootSignal := 0x72
  distinct := by decide

/-- One access of the load to the MAC: a register write, or the bus driver's
`rt2800_drv_write_firmware`. -/
inductive MacEvent
  | write (reg : Nat) (value : BitVec 32)
  | firmware
  deriving DecidableEq, Repr

/-- The MAC as the load sees it: the registers it reads back, every access in order, and how
many answers of the polled status registers were taken. -/
structure MacBus where
  regs : Nat → BitVec 32
  log : List MacEvent
  hwReads : Nat

namespace MacBus

def write (b : MacBus) (reg : Nat) (value : BitVec 32) : MacBus :=
  { b with regs := Function.update b.regs reg value, log := b.log ++ [.write reg value] }

variable (b : MacBus) (reg : Nat) (value : BitVec 32)

@[simp] theorem write_regs : (b.write reg value).regs = Function.update b.regs reg value := rfl

@[simp] theorem write_log : (b.write reg value).log = b.log ++ [.write reg value] := rfl

@[simp] theorem write_hwReads : (b.write reg value).hwReads = b.hwReads := rfl

end MacBus

/-! ## Register polls -/

/-- The register polls of the code: up to `n` reads of a status register, stopping at the
first answer `ready` accepts. Whether one was, and the position in the answers after the
reads. -/
def regPoll {α : Type} (ready : α → Bool) (ans : Nat → α) : Nat → Nat → Bool × Nat
  | 0, q => (false, q)
  | n + 1, q => if ready (ans q) then (true, q + 1) else regPoll ready ans n (q + 1)

section RegPoll

variable {α : Type} (ready : α → Bool) (ans : Nat → α)

theorem regPoll_add (m n q : Nat) :
    regPoll ready ans (m + n) q =
      if (regPoll ready ans m q).1 then regPoll ready ans m q
      else regPoll ready ans n (regPoll ready ans m q).2 := by
  induction m generalizing q with
  | zero => simp [regPoll]
  | succ m ih =>
    rw [Nat.succ_add]
    simp only [regPoll]
    split
    · simp
    · exact ih (q + 1)

end RegPoll

/-! ## The RT3290 WLAN wake-up -/

namespace FirmwareLoad

variable (h : LoadHeader)

def cmbReady (reg : BitVec 32) : Bool := h.pllLd.get reg != 0 && h.xtalRdy.get reg != 0

/-- The `WLAN_FUN_CTRL` word of the first write: GPIO outputs enabled, antenna forced,
clock off, WLAN on. -/
def wlanOnWord (reg : BitVec 32) : BitVec 32 :=
  h.wlan.wlanEn.set (h.wlan.wlanClkEn.set
    (h.wlan.frcWlAntSet.set (h.wlan.wlanGpioOutOeBitAll.set reg 0xff) 1) 0) 1

/-- The `WLAN_FUN_CTRL` word that starts the reset pulse: PCIe clock request off, clock on,
reset on. -/
def wlanResetWord (reg : BitVec 32) : BitVec 32 :=
  h.wlan.wlanReset.set (h.wlan.wlanClkEn.set (h.wlan.pcieApp0ClkReq.set reg 0) 1) 1

def wlanAwakeWord (reg : BitVec 32) : BitVec 32 := h.wlan.wlanReset.set (wlanResetWord h reg) 0

/-- The end of the loop body: the WLAN reset pulsed, then every interrupt acknowledged. -/
def wlanResetPulse (b : MacBus) : MacBus :=
  let reg := wlanResetWord h (b.regs h.wlanFunCtrl)
  let b := b.write h.wlanFunCtrl reg
  let b := b.write h.wlanFunCtrl (h.wlan.wlanReset.set reg 0)
  b.write h.intSourceCsr 0x7fffffff

def pllPulse (b : MacBus) : MacBus := ((b.write 0x58 0x018).write 0x58 0x418).write 0x58 0x618

/-- The `do … while (count != 0)` loop of `rt2800_enable_wlan_rt3290`, entered with `count`.
A failed round at `count >= 10` returns `-EIO`; one below pulses 0x58 and goes round again
with `count + 1`; a round that sees both bits sets `count` to 0 and leaves the loop. -/
def enableWlanLoop (ans : Nat → BitVec 32) (count : Nat) (b : MacBus) :
    Except Errno Unit × MacBus :=
  let p := regPoll (cmbReady h) ans h.registerBusyCount b.hwReads
  let b := { b with hwReads := p.2 }
  if !p.1 then
    if hc : 10 ≤ count then (.error .eio, b)
    else enableWlanLoop ans (count + 1) (wlanResetPulse h (pllPulse b))
  else (.ok (), wlanResetPulse h b)
termination_by 10 - count

def rt2800EnableWlanRt3290 (ans : Nat → BitVec 32) (b : MacBus) : Except Errno Unit × MacBus :=
  enableWlanLoop h ans 0 (b.write h.wlanFunCtrl (wlanOnWord h (b.regs h.wlanFunCtrl)))

@[simp] theorem wlanResetPulse_hwReads (b : MacBus) : (wlanResetPulse h b).hwReads = b.hwReads :=
  rfl

@[simp] theorem pllPulse_hwReads (b : MacBus) : (pllPulse b).hwReads = b.hwReads := rfl

/-- The retry loop, rounds and counter together, is one poll of the answers of the rounds it
has left. -/
theorem enableWlanLoop_poll (ans : Nat → BitVec 32) {count : Nat} (hc : count ≤ 10)
    (b : MacBus) :
    let p := regPoll (cmbReady h) ans ((11 - count) * h.registerBusyCount) b.hwReads
    (enableWlanLoop h ans count b).1 = (if p.1 then .ok () else .error .eio) ∧
      (enableWlanLoop h ans count b).2.hwReads = p.2 := by
  induction count, b using enableWlanLoop.induct h ans with
  | case1 count b p hp hge =>
    have hf : (regPoll (cmbReady h) ans h.registerBusyCount b.hwReads).1 = false := by
      simpa [p] using hp
    have h10 : (11 - count) * h.registerBusyCount = h.registerBusyCount := by
      rw [show 11 - count = 1 by omega, Nat.one_mul]
    rw [enableWlanLoop]
    simp [hf, h10, dif_pos hge]
  | case2 count b p b1 hp hlt ih =>
    have hf : (regPoll (cmbReady h) ans h.registerBusyCount b.hwReads).1 = false := by
      simpa [p] using hp
    have hsplit : (11 - count) * h.registerBusyCount =
        h.registerBusyCount + (11 - (count + 1)) * h.registerBusyCount := by
      rw [show 11 - count = (11 - (count + 1)) + 1 by omega, Nat.add_mul, Nat.one_mul,
        Nat.add_comm]
    rw [enableWlanLoop]
    simpa [hf, dif_neg hlt, hsplit, regPoll_add, b1, p] using ih (by omega)
  | case3 count b p hp =>
    have ht : (regPoll (cmbReady h) ans h.registerBusyCount b.hwReads).1 = true := by
      simpa [p] using hp
    have hsplit : (11 - count) * h.registerBusyCount =
        h.registerBusyCount + (10 - count) * h.registerBusyCount := by
      rw [show 11 - count = (10 - count) + 1 by omega, Nat.add_mul, Nat.one_mul, Nat.add_comm]
    rw [enableWlanLoop]
    simp [ht, hsplit, regPoll_add]

/-- Whatever the hardware answers, the wake-up reads `CMB_CTRL` as one poll of
`11 * REGISTER_BUSY_COUNT` answers: it returns 0 when one of them has `PLL_LD` and `XTAL_RDY`
set, having read up to the first such answer, and `-EIO` when none has. -/
theorem rt2800EnableWlanRt3290_poll (ans : Nat → BitVec 32) (b : MacBus) :
    let p := regPoll (cmbReady h) ans (11 * h.registerBusyCount) b.hwReads
    (rt2800EnableWlanRt3290 h ans b).1 = (if p.1 then .ok () else .error .eio) ∧
      (rt2800EnableWlanRt3290 h ans b).2.hwReads = p.2 :=
  enableWlanLoop_poll h ans (Nat.zero_le 10) _

theorem wlanAwakeWord_idem (reg : BitVec 32) :
    wlanAwakeWord h (wlanAwakeWord h reg) = wlanAwakeWord h reg := by
  ext i
  simp only [wlanAwakeWord, wlanResetWord, Rt2x00Field.getLsbD_set]
  split_ifs <;> rfl

theorem wlanResetPulse_regs (b : MacBus) :
    (wlanResetPulse h b).regs = Function.update (Function.update b.regs h.wlanFunCtrl
      (wlanAwakeWord h (b.regs h.wlanFunCtrl))) h.intSourceCsr 0x7fffffff := by
  simp [wlanResetPulse, wlanAwakeWord, Function.update_idem]

theorem pllPulse_regs (b : MacBus) : (pllPulse b).regs = Function.update b.regs 0x58 0x618 := by
  simp [pllPulse, Function.update_idem]

/-- The registers a round with the reset pulsed leaves as they were: `WLAN_FUN_CTRL` once it
holds a pulsed word, and `INT_SOURCE_CSR` once every interrupt is acknowledged. -/
def Awake (regs : Nat → BitVec 32) : Prop :=
  wlanAwakeWord h (regs h.wlanFunCtrl) = regs h.wlanFunCtrl ∧
    regs h.intSourceCsr = 0x7fffffff

theorem wlanResetPulse_awake (b : MacBus) : Awake h (wlanResetPulse h b).regs := by
  simp [Awake, wlanResetPulse_regs, Function.update_noteq h.distinct_ne.1.1, wlanAwakeWord_idem]

theorem wlanResetPulse_regs_of_awake {b : MacBus} (hb : Awake h b.regs) :
    (wlanResetPulse h b).regs = b.regs := by
  rw [wlanResetPulse_regs, hb.1, Function.update_eq_self, ← hb.2, Function.update_eq_self]

theorem pllPulse_awake {b : MacBus} (hb : Awake h b.regs) : Awake h (pllPulse b).regs := by
  rw [Awake, pllPulse_regs, Function.update_noteq h.distinct_ne.1.2.1,
    Function.update_noteq h.distinct_ne.2.1.1]
  exact hb

theorem enableWlanLoop_regs_of_awake (ans : Nat → BitVec 32) (count : Nat) (b : MacBus)
    (hb : Awake h b.regs) {r : Nat} (hr : r ≠ 0x58) :
    (enableWlanLoop h ans count b).2.regs r = b.regs r := by
  induction count, b using enableWlanLoop.induct h ans with
  | case1 count b p hp hge =>
    rw [enableWlanLoop]
    simp [p] at hp
    simp [hp, dif_pos hge]
  | case2 count b p b1 hp hlt ih =>
    rw [enableWlanLoop]
    simp [p] at hp
    simp only [hp, Bool.not_false, if_true, dif_neg hlt]
    rw [ih (wlanResetPulse_awake h _),
      wlanResetPulse_regs_of_awake h (pllPulse_awake h (b := b1) hb), pllPulse_regs,
      Function.update_noteq hr]
  | case3 count b p hp =>
    rw [enableWlanLoop]
    simp [p] at hp
    simp only [hp, Bool.not_true, Bool.false_eq_true, if_false]
    rw [wlanResetPulse_regs_of_awake h (b := { b with hwReads := p.2 }) hb]

/-- Whatever the hardware answers, and whether it returns 0 or `-EIO`, the wake-up leaves
`WLAN_FUN_CTRL` with the word it turned on and then pulsed, every interrupt acknowledged in
`INT_SOURCE_CSR`, and every other register but 0x58 as it was. -/
theorem rt2800EnableWlanRt3290_regs (ans : Nat → BitVec 32) (b : MacBus) {r : Nat}
    (hr : r ≠ 0x58) :
    (rt2800EnableWlanRt3290 h ans b).2.regs r =
      Function.update (Function.update b.regs h.wlanFunCtrl
        (wlanAwakeWord h (wlanOnWord h (b.regs h.wlanFunCtrl)))) h.intSourceCsr 0x7fffffff r := by
  unfold rt2800EnableWlanRt3290
  rw [enableWlanLoop]
  by_cases hp : (regPoll (cmbReady h) ans h.registerBusyCount b.hwReads).1
  · simp only [MacBus.write_hwReads, hp, Bool.not_true, Bool.false_eq_true, if_false]
    simp [wlanResetPulse_regs, Function.update_idem]
  · simp only [MacBus.write_hwReads, hp, Bool.not_false, if_true,
      dif_neg (show ¬10 ≤ 0 by omega)]
    rw [enableWlanLoop_regs_of_awake h ans 1 _ (wlanResetPulse_awake h _) hr, wlanResetPulse_regs,
      pllPulse_regs]
    simp only [Function.update_noteq h.distinct_ne.1.2.1, Function.update_apply, hr, if_false,
      MacBus.write_regs, Function.update_same]
    split_ifs <;> rfl

theorem rt2800EnableWlanRt3290_regs_silent :
    (0x80 : Nat) ≠ 0x58 ∧
      (rt2800EnableWlanRt3290 loadHeader (fun _ => 0) ⟨fun _ => 0, [], 0⟩).2.regs 0x80 =
        Function.update (Function.update (fun _ => (0 : BitVec 32)) loadHeader.wlanFunCtrl
          (wlanAwakeWord loadHeader (wlanOnWord loadHeader 0))) loadHeader.intSourceCsr
          0x7fffffff 0x80 :=
  ⟨by decide, rt2800EnableWlanRt3290_regs loadHeader _ _ (r := 0x80) (by decide)⟩

/-! ## The firmware load -/

def csrReady (reg : BitVec 32) : Bool := reg != 0 && reg != BitVec.allOnes 32

def rt2800WaitCsrReady (ans : Nat → BitVec 32) (b : MacBus) : Except Errno Unit × MacBus :=
  let p := regPoll csrReady ans h.registerBusyCount b.hwReads
  (if p.1 then .ok () else .error .ebusy, { b with hwReads := p.2 })

def rt2800DisableWpdma (b : MacBus) : MacBus :=
  let reg := b.regs h.wpdmaGloCfg
  let reg := h.wpdma.enableTxDma.set reg 0
  let reg := h.wpdma.txDmaBusy.set reg 0
  let reg := h.wpdma.enableRxDma.set reg 0
  let reg := h.wpdma.rxDmaBusy.set reg 0
  let reg := h.wpdma.txWritebackDone.set reg 1
  b.write h.wpdmaGloCfg reg

def pbfReady (reg : BitVec 32) : Bool := h.pbfSysCtrlReady.get reg != 0

/-- `rt2800_mcu_request`; `ok` is whether `WAIT_FOR_MCU` saw the owner bit clear. -/
def rt2800McuRequest (ok : Bool) (b : MacBus) (command token arg0 arg1 : BitVec 8) : MacBus :=
  let w := regbusyRead ok (b.regs h.h2mMailboxCsr)
  if w.1 then
    let reg := h.mailbox.owner.set w.2 1
    let reg := h.mailbox.cmdToken.set reg (token.setWidth 32)
    let reg := h.mailbox.arg0.set reg (arg0.setWidth 32)
    let reg := h.mailbox.arg1.set reg (arg1.setWidth 32)
    let b := b.write h.h2mMailboxCsr reg
    b.write h.hostCmdCsr (h.hostCmdCsrHostCommand.set 0 (command.setWidth 32))
  else b

/-- The PCI part of the load: on RT3290, RT3572, RT5390 and RT5392 the PCIe clock forced and
its wake-up enabled in `AUX_CTRL`, then `PWR_PIN_CFG` written. -/
def pciSetup (c : Chip) (b : MacBus) : MacBus :=
  if c.isPci then
    let b := if c.isRt .rt3290 || c.isRt .rt3572 || c.isRt .rt5390 || c.isRt .rt5392 then
        let reg := b.regs h.auxCtrl
        let reg := h.auxCtrlForcePcieClk.set reg 1
        let reg := h.auxCtrlWakePcieEn.set reg 1
        b.write h.auxCtrl reg
      else b
    b.write h.pwrPinCfg 0x00000002
  else b

/-- The end of the load once `PBF_SYS_CTRL` is ready: DMA off again, the firmware started
and, on USB, the boot signal sent. -/
def firmwareStart (c : Chip) (mcuOk : Bool) (b : MacBus) : MacBus :=
  let b := rt2800DisableWpdma h b
  let b := (b.write h.h2mBbpAgent 0).write h.h2mMailboxCsr 0
  if c.isUsb then rt2800McuRequest h mcuOk (b.write h.h2mIntSrc 0) h.mcuBootSignal 0 0 0 else b

/-- `rt2800_load_firmware`: `ans` answers the polled status registers, `mcuOk` the wait of
the boot request. -/
def rt2800LoadFirmware (c : Chip) (ans : Nat → BitVec 32) (mcuOk : Bool) (b : MacBus) :
    Except Errno Unit × MacBus :=
  match if c.isRt .rt3290 then rt2800EnableWlanRt3290 h ans b else (Except.ok (), b) with
  | (.error _, b) => (.error .ebusy, b)
  | (.ok (), b) =>
    match rt2800WaitCsrReady h ans (b.write h.autowakeupCfg 0) with
    | (.error _, b) => (.error .ebusy, b)
    | (.ok (), b) =>
      let b := rt2800DisableWpdma h (pciSetup h c b)
      let b := { b with log := b.log ++ [MacEvent.firmware] }
      let p := regPoll (pbfReady h) ans h.registerBusyCount b.hwReads
      let b := { b with hwReads := p.2 }
      if !p.1 then (.error .ebusy, b) else (.ok (), firmwareStart h c mcuOk b)

section Load

variable (c : Chip) (ans : Nat → BitVec 32) (mcuOk : Bool) (b : MacBus)

def dmaEnables (regs : Nat → BitVec 32) : Bool × Bool :=
  (h.wpdma.enableTxDma.get (regs h.wpdmaGloCfg) != 0,
    h.wpdma.enableRxDma.get (regs h.wpdmaGloCfg) != 0)

theorem rt2800DisableWpdma_dmaEnables :
    dmaEnables h (rt2800DisableWpdma h b).regs = (false, false) := by
  have hd := h.wpdma.disjoint
  simp only [List.pairwise_cons, List.mem_cons, List.mem_singleton, forall_eq_or_imp,
    forall_eq, List.not_mem_nil, false_implies, implies_true, List.Pairwise.nil, and_true] at hd
  simp [dmaEnables, rt2800DisableWpdma, Rt2x00Field.get_set_of_disjoint _ _ _ _ hd.1.1.symm,
    Rt2x00Field.get_set_of_disjoint _ _ _ _ hd.1.2.1.symm,
    Rt2x00Field.get_set_of_disjoint _ _ _ _ hd.1.2.2.1.symm,
    Rt2x00Field.get_set_of_disjoint _ _ _ _ hd.1.2.2.2.symm,
    Rt2x00Field.get_set_of_disjoint _ _ _ _ hd.2.2.1.1.symm,
    Rt2x00Field.get_set_of_disjoint _ _ _ _ hd.2.2.1.2.symm, BitVec.zero_shiftLeft]

theorem rt2800McuRequest_regs_of_ne {r : Nat} (h1 : r ≠ h.h2mMailboxCsr) (h2 : r ≠ h.hostCmdCsr)
    (command token arg0 arg1 : BitVec 8) :
    (rt2800McuRequest h mcuOk b command token arg0 arg1).regs r = b.regs r := by
  unfold rt2800McuRequest; dsimp only; split <;> simp [Function.update_noteq, h1, h2]

theorem firmwareStart_wpdmaGloCfg :
    (firmwareStart h c mcuOk b).regs h.wpdmaGloCfg =
      (rt2800DisableWpdma h b).regs h.wpdmaGloCfg := by
  obtain ⟨h1, h2, h3, h4⟩ := h.distinct_ne.2.2.2.2.2.2.1
  unfold firmwareStart
  split <;> simp [rt2800McuRequest_regs_of_ne, h1, h2, h3, h4, Function.update_noteq]

/-- Everything a successful load can be: it ends as `firmwareStart` leaves some state. -/
theorem rt2800LoadFirmware_ok (hok : (rt2800LoadFirmware h c ans mcuOk b).1 = .ok ()) :
    ∃ b', (rt2800LoadFirmware h c ans mcuOk b).2 = firmwareStart h c mcuOk b' := by
  revert hok
  unfold rt2800LoadFirmware
  split
  · simp
  · split
    · simp
    · dsimp only
      split
      · simp
      · exact fun _ => ⟨_, rfl⟩

/-- A load that succeeds leaves both DMA engines off, as the radio lifecycle's first state
has them: the lifecycle starts where the load ends. -/
theorem rt2800LoadFirmware_dma (hok : (rt2800LoadFirmware h c ans mcuOk b).1 = .ok ()) :
    dmaEnables h (rt2800LoadFirmware h c ans mcuOk b).2.regs =
      (radioInit.txDma, radioInit.rxDma) := by
  obtain ⟨b', hb⟩ := rt2800LoadFirmware_ok h c ans mcuOk b hok
  rw [hb, dmaEnables, firmwareStart_wpdmaGloCfg, ← dmaEnables, rt2800DisableWpdma_dmaEnables]
  rfl

theorem rt2800LoadFirmware_dma_rt3070 :
    (rt2800LoadFirmware loadHeader ⟨.rt3070, 0, 0, .usb⟩ (fun _ => 0x80) true
        ⟨fun _ => 0, [], 0⟩).1 = .ok () ∧
      dmaEnables loadHeader (rt2800LoadFirmware loadHeader ⟨.rt3070, 0, 0, .usb⟩ (fun _ => 0x80)
        true ⟨fun _ => 0, [], 0⟩).2.regs = (radioInit.txDma, radioInit.rxDma) :=
  have hok : (rt2800LoadFirmware loadHeader ⟨.rt3070, 0, 0, .usb⟩ (fun _ => 0x80) true
      ⟨fun _ => 0, [], 0⟩).1 = .ok () := rfl
  ⟨hok, rt2800LoadFirmware_dma loadHeader _ _ _ _ hok⟩

end Load

end FirmwareLoad

end WifiCoconut
