import WifiCoconut.Chip
import WifiCoconut.Field

/-!
# EEPROM words and their two maps

The driver names EEPROM words symbolically; `rt2800_eeprom_word_index` turns a name into a
word offset through one of two maps, the extended one for the three-chain RT3593 and
RT3883. A name the map leaves out resolves to offset 0, the chip-id word: the index
function reports the access as invalid and still returns 0. The EEPROM image is the array
of 16-bit words the driver read, in CPU order.
-/

namespace WifiCoconut

inductive EepromWord
  | chipId | version | macAddr0 | macAddr1 | macAddr2 | nicConf0 | nicConf1 | freq
  | ledAgConf | ledActConf | ledPolarity | nicConf2 | lna | rssiBg | rssiBg2 | txmixerGainBg
  | rssiA | rssiA2 | txmixerGainA | eirpMaxTxPower | txpowerDelta | txpowerBg1 | txpowerBg2
  | tssiBoundBg1 | tssiBoundBg2 | tssiBoundBg3 | tssiBoundBg4 | tssiBoundBg5
  | txpowerA1 | txpowerA2 | txpowerInit
  | tssiBoundA1 | tssiBoundA2 | tssiBoundA3 | tssiBoundA4 | tssiBoundA5
  | txpowerByrate | bbpStart | extLna2 | extTxpowerBg3 | extTxpowerA3
  deriving DecidableEq, Repr, Fintype

open EepromWord

/-- `rt2800_eeprom_map`; the words it does not list are 0. -/
def rt2800EepromMap : EepromWord → Nat
  | chipId => 0x0000 | version => 0x0001 | macAddr0 => 0x0002 | macAddr1 => 0x0003
  | macAddr2 => 0x0004 | nicConf0 => 0x001a | nicConf1 => 0x001b | freq => 0x001d
  | ledAgConf => 0x001e | ledActConf => 0x001f | ledPolarity => 0x0020 | nicConf2 => 0x0021
  | lna => 0x0022 | rssiBg => 0x0023 | rssiBg2 => 0x0024 | txmixerGainBg => 0x0024
  | rssiA => 0x0025 | rssiA2 => 0x0026 | txmixerGainA => 0x0026
  | eirpMaxTxPower => 0x0027 | txpowerDelta => 0x0028 | txpowerBg1 => 0x0029
  | txpowerBg2 => 0x0030 | tssiBoundBg1 => 0x0037 | tssiBoundBg2 => 0x0038
  | tssiBoundBg3 => 0x0039 | tssiBoundBg4 => 0x003a | tssiBoundBg5 => 0x003b
  | txpowerA1 => 0x003c | txpowerA2 => 0x0053 | txpowerInit => 0x0068
  | tssiBoundA1 => 0x006a | tssiBoundA2 => 0x006b | tssiBoundA3 => 0x006c
  | tssiBoundA4 => 0x006d | tssiBoundA5 => 0x006e | txpowerByrate => 0x006f
  | bbpStart => 0x0078
  | _ => 0

def rt2800EepromMapExt : EepromWord → Nat
  | chipId => 0x0000 | version => 0x0001 | macAddr0 => 0x0002 | macAddr1 => 0x0003
  | macAddr2 => 0x0004 | nicConf0 => 0x001a | nicConf1 => 0x001b | nicConf2 => 0x001c
  | eirpMaxTxPower => 0x0020 | freq => 0x0022 | ledAgConf => 0x0023 | ledActConf => 0x0024
  | ledPolarity => 0x0025 | lna => 0x0026 | extLna2 => 0x0027 | rssiBg => 0x0028
  | rssiBg2 => 0x0029 | rssiA => 0x002a | rssiA2 => 0x002b | txpowerBg1 => 0x0030
  | txpowerBg2 => 0x0037 | extTxpowerBg3 => 0x003e | tssiBoundBg1 => 0x0045
  | tssiBoundBg2 => 0x0046 | tssiBoundBg3 => 0x0047 | tssiBoundBg4 => 0x0048
  | tssiBoundBg5 => 0x0049 | txpowerA1 => 0x004b | txpowerA2 => 0x0065
  | extTxpowerA3 => 0x007f | tssiBoundA1 => 0x009a | tssiBoundA2 => 0x009b
  | tssiBoundA3 => 0x009c | tssiBoundA4 => 0x009d | tssiBoundA5 => 0x009e
  | txpowerByrate => 0x00a0
  | _ => 0

abbrev Eeprom := Nat → BitVec 16

def rt2800EepromWordIndex (c : Chip) (word : EepromWord) : Nat :=
  if c.usesExtMap then rt2800EepromMapExt word else rt2800EepromMap word

/-- The "invalid access of EEPROM word" branch of `rt2800_eeprom_word_index`: a word other
than the chip id that the map resolves to 0. The function logs it and returns the 0. -/
def rt2800EepromWordIndexInvalid (c : Chip) (word : EepromWord) : Bool :=
  word != chipId && rt2800EepromWordIndex c word == 0

def rt2800EepromRead (c : Chip) (e : Eeprom) (word : EepromWord) : BitVec 16 :=
  e (rt2800EepromWordIndex c word)

def rt2800EepromWrite (c : Chip) (e : Eeprom) (word : EepromWord) (data : BitVec 16) : Eeprom :=
  Function.update e (rt2800EepromWordIndex c word) data

def rt2800EepromReadFromArray (c : Chip) (e : Eeprom) (array : EepromWord) (offset : Nat) :
    BitVec 16 :=
  e (rt2800EepromWordIndex c array + offset)

/-! The fields of the EEPROM words the driver reads and repairs (`FIELD16(mask)`, the offset
being `__ffs(mask)`). -/

/-- Modelled from the spec: the field masks of rt2800.h, which is not among the sources. The
antenna counts and RF type are the low three nibbles of NIC_CONF0. -/
def eepromNicConf0Rxpath : Rt2x00Field 16 := ⟨0x000f, 0, by decide⟩
def eepromNicConf0Txpath : Rt2x00Field 16 := ⟨0x00f0, 4, by decide⟩
def eepromNicConf0RfType : Rt2x00Field 16 := ⟨0x0f00, 8, by decide⟩

/-- Modelled from the spec: the one-bit and two-bit flags of NIC_CONF1 in rt2800.h. -/
def eepromNicConf1HwRadio : Rt2x00Field 16 := ⟨0x0001, 0, by decide⟩
def eepromNicConf1ExternalTxAlc : Rt2x00Field 16 := ⟨0x0002, 1, by decide⟩
def eepromNicConf1ExternalLna2g : Rt2x00Field 16 := ⟨0x0004, 2, by decide⟩
def eepromNicConf1ExternalLna5g : Rt2x00Field 16 := ⟨0x0008, 3, by decide⟩
def eepromNicConf1CardbusAccel : Rt2x00Field 16 := ⟨0x0010, 4, by decide⟩
def eepromNicConf1Bw40mSb2g : Rt2x00Field 16 := ⟨0x0020, 5, by decide⟩
def eepromNicConf1Bw40mSb5g : Rt2x00Field 16 := ⟨0x0040, 6, by decide⟩
def eepromNicConf1WpsPbc : Rt2x00Field 16 := ⟨0x0080, 7, by decide⟩
def eepromNicConf1Bw40m2g : Rt2x00Field 16 := ⟨0x0100, 8, by decide⟩
def eepromNicConf1Bw40m5g : Rt2x00Field 16 := ⟨0x0200, 9, by decide⟩
def eepromNicConf1BroadbandExtLna : Rt2x00Field 16 := ⟨0x0400, 10, by decide⟩
def eepromNicConf1AntDiversity : Rt2x00Field 16 := ⟨0x1800, 11, by decide⟩
def eepromNicConf1InternalTxAlc : Rt2x00Field 16 := ⟨0x2000, 13, by decide⟩
def eepromNicConf1BtCoexist : Rt2x00Field 16 := ⟨0x4000, 14, by decide⟩
def eepromNicConf1DacTest : Rt2x00Field 16 := ⟨0x8000, 15, by decide⟩

/-- Modelled from the spec: the frequency offset is the low byte of FREQ, the LED mode the
seven bits above it, and the LED polarity bit lies inside the LED mode in rt2800.h. -/
def eepromFreqOffset : Rt2x00Field 16 := ⟨0x00ff, 0, by decide⟩
def eepromFreqLedMode : Rt2x00Field 16 := ⟨0x7f00, 8, by decide⟩
def eepromFreqLedPolarity : Rt2x00Field 16 := ⟨0x1000, 12, by decide⟩

/-- Modelled from the spec: each LNA gain and RSSI offset is one byte of its word. -/
def eepromLnaBg : Rt2x00Field 16 := ⟨0x00ff, 0, by decide⟩
def eepromLnaA0 : Rt2x00Field 16 := ⟨0xff00, 8, by decide⟩
def eepromRssiBgOffset0 : Rt2x00Field 16 := ⟨0x00ff, 0, by decide⟩
def eepromRssiBgOffset1 : Rt2x00Field 16 := ⟨0xff00, 8, by decide⟩
def eepromRssiBg2Offset2 : Rt2x00Field 16 := ⟨0x00ff, 0, by decide⟩
def eepromRssiBg2LnaA1 : Rt2x00Field 16 := ⟨0xff00, 8, by decide⟩
def eepromRssiAOffset0 : Rt2x00Field 16 := ⟨0x00ff, 0, by decide⟩
def eepromRssiAOffset1 : Rt2x00Field 16 := ⟨0xff00, 8, by decide⟩
def eepromRssiA2Offset2 : Rt2x00Field 16 := ⟨0x00ff, 0, by decide⟩
def eepromRssiA2LnaA2 : Rt2x00Field 16 := ⟨0xff00, 8, by decide⟩
def eepromExtLna2A1 : Rt2x00Field 16 := ⟨0x00ff, 0, by decide⟩
def eepromExtLna2A2 : Rt2x00Field 16 := ⟨0xff00, 8, by decide⟩

/-- Modelled from the spec: `RF2820`, the RF code written into a blank NIC_CONF0. -/
def rf2820 : BitVec 16 := 0x0001

/-- Modelled from the spec: `LED_MODE_TXRX_ACTIVITY` of rt2x00leds.h. -/
def ledModeTxrxActivity : BitVec 16 := 1

end WifiCoconut
