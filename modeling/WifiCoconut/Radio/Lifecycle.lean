import WifiCoconut.Chip

/-!
# The radio lifecycle

`rt2x00lib_start`, `_stop`, `_enable_radio` and `_disable_radio` guard the chip-level
bring-up `rt2800_enable_radio` and teardown `rt2800_disable_radio` with the flags
`DEVICE_STATE_STARTED` and `DEVICE_STATE_ENABLED_RADIO`. The state is the two flags and the
four enable bits the chip-level code writes (TX and RX of `MAC_SYS_CTRL`, TX and RX DMA of
`WPDMA_GLO_CFG`); a bring-up can stop at each of its waits, whose answers are `EnableWaits`.
Over every sequence of calls from the state after firmware load, the flag equals each of the
four bits, the bring-up is entered only with the flag clear and the teardown only with it set
(`radioRun_consistent`).
-/

namespace WifiCoconut

structure Radio where
  enabledRadio : Bool
  started : Bool
  macTx : Bool
  macRx : Bool
  txDma : Bool
  rxDma : Bool
  deriving DecidableEq, Repr

/-- What the hardware answers during one `rt2800_enable_radio`: `rt2800_wait_wpdma_ready`,
the bus driver's `drv_init_registers`, `rt2800_wait_bbp_rf_ready` and
`rt2800_wait_bbp_ready`, each succeeding or timing out. -/
structure EnableWaits where
  wpdmaReady : Bool
  drvInitRegistersOk : Bool
  bbpRfReady : Bool
  bbpReady : Bool
  deriving DecidableEq, Repr

def rt2800DisableWpdma (s : Radio) : Radio := { s with txDma := false, rxDma := false }

/-- `rt2800_init_registers` as far as the enable bits go: DMA off, then the bus driver's
register setup, which may fail, then `MAC_SYS_CTRL` cleared and, on USB, the DMA enables
cleared again. The flag is `ret == 0`. -/
def rt2800InitRegisters (c : Chip) (w : EnableWaits) (s : Radio) : Bool × Radio :=
  let s := rt2800DisableWpdma s
  if !w.drvInitRegistersOk then (false, s) else
  let s := { s with macTx := false, macRx := false }
  (true, if c.isUsb then { s with txDma := false, rxDma := false } else s)

/-- `rt2800_enable_radio`; the flag is a zero return. After the last wait nothing can fail:
TX on, then both DMA directions, then RX. -/
def rt2800EnableRadio (c : Chip) (w : EnableWaits) (s : Radio) : Bool × Radio :=
  if !w.wpdmaReady then (false, s) else
  let (ok, s) := rt2800InitRegisters c w s
  if !ok then (false, s) else
  if !w.bbpRfReady then (false, s) else
  if !w.bbpReady then (false, s) else
  let s := { s with macTx := true, macRx := false }
  let s := { s with txDma := true, rxDma := true }
  (true, { s with macTx := true, macRx := true })

/-- `rt2800_disable_radio`: DMA off, the DMA wait (its error ignored), TX and RX off. -/
def rt2800DisableRadio (s : Radio) : Radio :=
  let s := rt2800DisableWpdma s
  { s with macTx := false, macRx := false }

inductive DeviceState
  | radioOn | radioOff | radioIrqOn | radioIrqOff
  deriving DecidableEq, Repr

/-- Modelled from the spec: `set_device_state` of the bus driver, which is not among the
sources. Radio on runs `rt2800_enable_radio`, radio off `rt2800_disable_radio`; the interrupt
states touch none of the bits kept here. -/
def setDeviceState (c : Chip) (w : EnableWaits) (s : Radio) : DeviceState → Bool × Radio
  | .radioOn => rt2800EnableRadio c w s
  | .radioOff => (true, rt2800DisableRadio s)
  | .radioIrqOn | .radioIrqOff => (true, s)

/-- A call the lifecycle makes into the bus driver, with the value of
`DEVICE_STATE_ENABLED_RADIO` that its guard tested. -/
inductive RadioCall
  | bringUp (flag : Bool)
  | teardown (flag : Bool)
  deriving DecidableEq, Repr

def RadioCall.Guarded : RadioCall → Prop
  | bringUp f => f = false
  | teardown f => f = true

def rt2x00libEnableRadio (c : Chip) (w : EnableWaits) (s : Radio) :
    Bool × Radio × List RadioCall :=
  if s.enabledRadio then (true, s, []) else
  let (ok, s') := setDeviceState c w s .radioOn
  if !ok then (false, s', [.bringUp s.enabledRadio]) else
  let (_, s') := setDeviceState c w s' .radioIrqOn
  (true, { s' with enabledRadio := true }, [.bringUp s.enabledRadio])

/-- `rt2x00lib_disable_radio`: `test_and_clear_bit` on the flag, then radio off. -/
def rt2x00libDisableRadio (c : Chip) (w : EnableWaits) (s : Radio) : Radio × List RadioCall :=
  if !s.enabledRadio then (s, []) else
  let s' := { s with enabledRadio := false }
  let (_, s') := setDeviceState c w s' .radioOff
  let (_, s') := setDeviceState c w s' .radioIrqOff
  (s', [.teardown s.enabledRadio])

def rt2x00libStart (c : Chip) (w : EnableWaits) (s : Radio) : Bool × Radio × List RadioCall :=
  if s.started then (true, s, []) else
  let (ok, s', calls) := rt2x00libEnableRadio c w s
  if !ok then (false, s', calls) else (true, { s' with started := true }, calls)

def rt2x00libStop (c : Chip) (w : EnableWaits) (s : Radio) : Radio × List RadioCall :=
  if !s.started then (s, []) else rt2x00libDisableRadio c w { s with started := false }

/-- A call of the lifecycle API, with the hardware's answers to a bring-up it may run. -/
inductive RadioOp
  | start (w : EnableWaits)
  | stop
  | enableRadio (w : EnableWaits)
  | disableRadio
  deriving DecidableEq, Repr

def noWaits : EnableWaits := ⟨true, true, true, true⟩

def radioStep (c : Chip) (s : Radio) : RadioOp → Radio × List RadioCall
  | .start w => (rt2x00libStart c w s).2
  | .stop => rt2x00libStop c noWaits s
  | .enableRadio w => (rt2x00libEnableRadio c w s).2
  | .disableRadio => rt2x00libDisableRadio c noWaits s

def radioRun (c : Chip) : Radio → List RadioOp → Radio × List RadioCall
  | s, [] => (s, [])
  | s, op :: ops =>
    let (s', calls) := radioStep c s op
    let (s'', calls') := radioRun c s' ops
    (s'', calls ++ calls')

def radioInit : Radio := ⟨false, false, false, false, false, false⟩

structure RadioConsistent (s : Radio) : Prop where
  macTx : s.macTx = s.enabledRadio
  macRx : s.macRx = s.enabledRadio
  txDma : s.txDma = s.enabledRadio
  rxDma : s.rxDma = s.enabledRadio

/-! ## The chip-level calls -/

section Chip

variable (c : Chip) (w : EnableWaits)

theorem rt2800InitRegisters_clears (s : Radio) :
    let s' := (rt2800InitRegisters c w s).2
    s'.enabledRadio = s.enabledRadio ∧ s'.started = s.started ∧ (s'.macTx → s.macTx) ∧
      (s'.macRx → s.macRx) ∧ s'.txDma = false ∧ s'.rxDma = false := by
  unfold rt2800InitRegisters rt2800DisableWpdma
  split
  · simp
  · split <;> simp

/-- Everything a bring-up can do: stop at one of its waits, having at most cleared some of
the four bits, or get through with all four on. The two flags are never touched. -/
theorem rt2800EnableRadio_cases (s : Radio) :
    (∃ s', rt2800EnableRadio c w s = (false, s') ∧ s'.enabledRadio = s.enabledRadio ∧
      (s'.macTx → s.macTx) ∧ (s'.macRx → s.macRx) ∧ (s'.txDma → s.txDma) ∧
      (s'.rxDma → s.rxDma)) ∨
    rt2800EnableRadio c w s =
      (true, { s with macTx := true, macRx := true, txDma := true, rxDma := true }) := by
  obtain ⟨hf, hs, ht, hr, htd, hrd⟩ := rt2800InitRegisters_clears c w s
  unfold rt2800EnableRadio
  rcases hinit : rt2800InitRegisters c w s with ⟨ok, s1⟩
  rw [hinit] at hf hs ht hr htd hrd
  dsimp only at hf hs ht hr htd hrd ⊢
  have hfail : ∃ s', (false, s1) = (false, s') ∧ s'.enabledRadio = s.enabledRadio ∧
      (s'.macTx → s.macTx) ∧ (s'.macRx → s.macRx) ∧ (s'.txDma → s.txDma) ∧
      (s'.rxDma → s.rxDma) := ⟨s1, rfl, hf, ht, hr, by simp [htd], by simp [hrd]⟩
  split
  · exact .inl ⟨s, rfl, rfl, id, id, id, id⟩
  split
  · exact .inl hfail
  split
  · exact .inl hfail
  split
  · exact .inl hfail
  exact .inr (by cases s; cases s1; simp_all)

theorem rt2800DisableRadio_off (s : Radio) :
    RadioConsistent { rt2800DisableRadio s with enabledRadio := false } :=
  ⟨rfl, rfl, rfl, rfl⟩

end Chip

/-! ## The lifecycle keeps the flag and the bits together -/

section Lifecycle

variable (c : Chip) (w : EnableWaits) {s : Radio}

/-- What one lifecycle function guarantees: the bits follow the flag, and every bus-driver
call it made passed its guard. -/
def LifecycleOk (r : Radio × List RadioCall) : Prop :=
  RadioConsistent r.1 ∧ ∀ call ∈ r.2, call.Guarded

theorem lifecycleOk_nil (hs : RadioConsistent s) : LifecycleOk (s, []) :=
  ⟨hs, by simp⟩

theorem rt2x00libEnableRadio_ok (hs : RadioConsistent s) :
    LifecycleOk (rt2x00libEnableRadio c w s).2 := by
  unfold rt2x00libEnableRadio
  cases hflag : s.enabledRadio
  · simp only [setDeviceState, Bool.false_eq_true, if_false]
    obtain ⟨h1, h2, h3, h4⟩ := hs
    rcases rt2800EnableRadio_cases c w s with ⟨s', hres, hf, ht, hr, htd, hrd⟩ | hres <;>
      simp only [hres] <;> refine ⟨⟨?_, ?_, ?_, ?_⟩, by simp [RadioCall.Guarded, hflag]⟩ <;>
      simp_all
  · exact lifecycleOk_nil hs

theorem rt2x00libDisableRadio_ok (hs : RadioConsistent s) :
    LifecycleOk (rt2x00libDisableRadio c w s) := by
  unfold rt2x00libDisableRadio
  cases hflag : s.enabledRadio
  · exact lifecycleOk_nil hs
  · exact ⟨rt2800DisableRadio_off _, by simp [RadioCall.Guarded]⟩

theorem rt2x00libStart_ok (hs : RadioConsistent s) : LifecycleOk (rt2x00libStart c w s).2 := by
  unfold rt2x00libStart
  have h := rt2x00libEnableRadio_ok c w hs
  split_ifs
  · exact lifecycleOk_nil hs
  · rcases hres : rt2x00libEnableRadio c w s with ⟨_ | _, s', calls⟩ <;> rw [hres] at h
    · exact h
    · exact ⟨⟨h.1.1, h.1.2, h.1.3, h.1.4⟩, h.2⟩

theorem rt2x00libStop_ok (hs : RadioConsistent s) : LifecycleOk (rt2x00libStop c w s) := by
  unfold rt2x00libStop
  split_ifs
  · exact lifecycleOk_nil hs
  · exact rt2x00libDisableRadio_ok c w ⟨hs.1, hs.2, hs.3, hs.4⟩

theorem radioStep_ok (hs : RadioConsistent s) (op : RadioOp) : LifecycleOk (radioStep c s op) := by
  cases op with
  | start w => exact rt2x00libStart_ok c w hs
  | stop => exact rt2x00libStop_ok c noWaits hs
  | enableRadio w => exact rt2x00libEnableRadio_ok c w hs
  | disableRadio => exact rt2x00libDisableRadio_ok c noWaits hs

theorem radioRun_ok (ops : List RadioOp) :
    ∀ s, RadioConsistent s → LifecycleOk (radioRun c s ops) := by
  induction ops with
  | nil => exact fun s hs => lifecycleOk_nil hs
  | cons op ops ih =>
    intro s hs
    have hstep := radioStep_ok c hs op
    have hrest := ih _ hstep.1
    refine ⟨hrest.1, fun call hcall => ?_⟩
    rcases List.mem_append.mp hcall with h | h
    · exact hstep.2 call h
    · exact hrest.2 call h

end Lifecycle

/-- Over every sequence of lifecycle calls from the state after firmware load, whatever the
hardware answers in each bring-up: the bring-up runs only with `DEVICE_STATE_ENABLED_RADIO`
clear, the teardown only with it set, and the flag equals each of the MAC TX/RX and DMA
TX/RX enable bits in the state reached. -/
theorem radioRun_consistent (c : Chip) (ops : List RadioOp) :
    RadioConsistent (radioRun c radioInit ops).1 ∧
      ∀ call ∈ (radioRun c radioInit ops).2, call.Guarded :=
  radioRun_ok c ops radioInit ⟨rfl, rfl, rfl, rfl⟩

end WifiCoconut
