import WifiCoconut.Chip
import WifiCoconut.Field
import WifiCoconut.Firmware
import WifiCoconut.Eeprom.Map
import WifiCoconut.Eeprom.Validate
import WifiCoconut.Eeprom.Access
import WifiCoconut.Radio.Lifecycle
import WifiCoconut.Hopper.Hop
import WifiCoconut.Hopper.Split
import WifiCoconut.Hopper.Hopseq
import WifiCoconut.Hopper.ConfigFile
import WifiCoconut.Hopper.LogPath
import WifiCoconut.Tuner
import WifiCoconut.TxPin
import WifiCoconut.Calibration
import WifiCoconut.BbpAccess
import WifiCoconut.RxFilter
import WifiCoconut.Eeprom.Efuse
import WifiCoconut.RfcsrAccess
import WifiCoconut.Radio.FirmwareLoad
import WifiCoconut.FreqCal
import WifiCoconut.HtConfig
import WifiCoconut.Eeprom.Init
import WifiCoconut.ConfigIntf
import WifiCoconut.PowerSave
import WifiCoconut.ConfigFilter
