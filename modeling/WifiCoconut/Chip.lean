import Mathlib.Tactic.DeriveFintype

/-!
# Chip identity

The identity of an rt2800 device as `rt2800_probe_rt` fixes it: the chipset code read from
`MAC_CSR0`, the interface the device sits on, its revision and the RF code that
`rt2800_init_eeprom` later reads from the EEPROM. Every dispatcher of the driver branches on
these values and nothing changes them after probe, so the model keeps them in one record
`Chip`, read by every other module.
-/

namespace WifiCoconut

/-- The chipsets `rt2800_probe_rt` accepts, and RT6352, to which it remaps RT5390 on SoC. -/
inductive Rt
  | rt2860 | rt2872 | rt2883 | rt3070 | rt3071 | rt3090 | rt3290 | rt3352 | rt3390
  | rt3572 | rt3593 | rt3883 | rt5350 | rt5390 | rt5392 | rt5592 | rt6352
  deriving DecidableEq, Repr, Fintype

namespace Rt

def code : Rt → Nat
  | rt2860 => 0x2860 | rt2872 => 0x2872 | rt2883 => 0x2883 | rt3070 => 0x3070
  | rt3071 => 0x3071 | rt3090 => 0x3090 | rt3290 => 0x3290 | rt3352 => 0x3352
  | rt3390 => 0x3390 | rt3572 => 0x3572 | rt3593 => 0x3593 | rt3883 => 0x3883
  | rt5350 => 0x5350 | rt5390 => 0x5390 | rt5392 => 0x5392 | rt5592 => 0x5592
  | rt6352 => 0x6352

end Rt

inductive Intf
  | pci | pcie | usb | soc
  deriving DecidableEq, Repr, Fintype

/-- `struct rt2x00_chip` together with the interface: what probe fixes. -/
structure Chip where
  rt : Rt
  rf : Nat
  rev : Nat
  intf : Intf
  deriving DecidableEq, Repr

namespace Chip

def isUsb (c : Chip) : Bool := c.intf == .usb

def isPcie (c : Chip) : Bool := c.intf == .pcie

def isSoc (c : Chip) : Bool := c.intf == .soc

def isRt (c : Chip) (rt : Rt) : Bool := c.rt == rt

def isRtRev (c : Chip) (rt : Rt) (rev : Nat) : Bool := c.rt == rt && c.rev == rev

def isRtRevLt (c : Chip) (rt : Rt) (rev : Nat) : Bool := c.rt == rt && decide (c.rev < rev)

def isRtRevGte (c : Chip) (rt : Rt) (rev : Nat) : Bool := c.rt == rt && decide (rev ≤ c.rev)

def usesExtMap (c : Chip) : Bool := c.isRt .rt3593 || c.isRt .rt3883

end Chip

/-- The constants of rt2800.h that the modelled code compares against. The header is not
among the sources, so every definition that reads one takes them as given. -/
structure Header where
  revRt2860C : Nat
  revRt3070F : Nat
  revRt3071E : Nat
  revRt3090E : Nat
  revRt3390E : Nat
  revRt3593E : Nat
  rf3020 : Nat
  rf3021 : Nat
  rf3022 : Nat
  eepromBbpSize : Nat
  deriving DecidableEq, Repr

def rt2800Is305xSoc (h : Header) (c : Chip) : Bool :=
  c.isSoc && c.isRt .rt2872 && (c.rf == h.rf3020 || c.rf == h.rf3021 || c.rf == h.rf3022)

/-- `rt2800_probe_rt` on the chipset code it reads from `MAC_CSR0`: `none` is `-ENODEV`.
RT5390 on SoC is remapped to RT6352. -/
def rt2800ProbeRt (code : Nat) (intf : Intf) : Option Rt :=
  let rt : Option Rt := match code with
    | 0x2860 => some .rt2860 | 0x2872 => some .rt2872 | 0x2883 => some .rt2883
    | 0x3070 => some .rt3070 | 0x3071 => some .rt3071 | 0x3090 => some .rt3090
    | 0x3290 => some .rt3290 | 0x3352 => some .rt3352 | 0x3390 => some .rt3390
    | 0x3572 => some .rt3572 | 0x3593 => some .rt3593 | 0x3883 => some .rt3883
    | 0x5350 => some .rt5350 | 0x5390 => some .rt5390 | 0x5392 => some .rt5392
    | 0x5592 => some .rt5592
    | _ => none
  rt.map fun r => if r = .rt5390 ∧ intf = .soc then .rt6352 else r

end WifiCoconut
