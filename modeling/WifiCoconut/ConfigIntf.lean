import WifiCoconut.Eeprom.Efuse

/-!
# The interface addresses

`rt2800_config_intf` sets the TSF synchronisation and beacon parameters on
`CONFIG_UPDATE_TYPE`, the interface's address on `CONFIG_UPDATE_MAC` and the BSSID on
`CONFIG_UPDATE_BSSID`, or in AP mode, where the BSSID is the interface's address. The addresses
are `__le32[2]` in memory: before one is sent, its second word is read with `le32_to_cpu`, a
field set, and the word stored back with `cpu_to_le32`. The flags, registers and fields
(rt2x00.h, rt2800.h) and the host's byte order are parameters. The function does not depend on
the byte order (`rt2800ConfigIntf_host`), and it makes exactly the accesses its flags ask for,
sending the addresses it was given (`rt2800ConfigIntf_addresses`).
-/

namespace WifiCoconut

/-! ## Words of an address in memory -/

/-- Modelled from the spec: `le32_to_cpu` of the kernel headers, the same byte swap as
`cpu_to_le32`. -/
def le32ToCpu (bigEndian : Bool) (x : BitVec 32) : BitVec 32 := cpuToLe32 bigEndian x

def loadU32 (bigEndian : Bool) (m : Nat → BitVec 8) (a : Nat) : BitVec 32 :=
  if bigEndian then m a ++ m (a + 1) ++ m (a + 2) ++ m (a + 3)
  else m (a + 3) ++ m (a + 2) ++ m (a + 1) ++ m a

def leWord (m : Nat → BitVec 8) (a : Nat) : BitVec 32 :=
  m (a + 3) ++ m (a + 2) ++ m (a + 1) ++ m a

/-- Modelled from the spec: `is_zero_ether_addr`, all six bytes of the address zero. -/
def isZeroEtherAddr (m : Nat → BitVec 8) : Bool := (List.range 6).all fun k => m k == 0

theorem byteOf_append (b3 b2 b1 b0 : BitVec 8) :
    byteOf (b3 ++ b2 ++ b1 ++ b0) 0 = b0 ∧ byteOf (b3 ++ b2 ++ b1 ++ b0) 1 = b1 ∧
      byteOf (b3 ++ b2 ++ b1 ++ b0) 2 = b2 ∧ byteOf (b3 ++ b2 ++ b1 ++ b0) 3 = b3 := by
  refine ⟨?_, ?_, ?_, ?_⟩ <;> ext j <;>
    simp only [byteOf, BitVec.getLsbD_append, BitVec.getLsbD_extractLsb'] <;>
    fin_cases j <;> rfl

theorem le32ToCpu_loadU32 (bigEndian : Bool) (m : Nat → BitVec 8) (a : Nat) :
    le32ToCpu bigEndian (loadU32 bigEndian m a) = leWord m a := by
  cases bigEndian
  · rfl
  · obtain ⟨h0, h1, h2, h3⟩ := byteOf_append (m a) (m (a + 1)) (m (a + 2)) (m (a + 3))
    simp only [le32ToCpu, loadU32, cpuToLe32, if_true, h0, h1, h2, h3, leWord]

theorem storeU32_cpuToLe32_host (bigEndian : Bool) (m : Nat → BitVec 8) (a : Nat)
    (x : BitVec 32) :
    storeU32 bigEndian m a (cpuToLe32 bigEndian x) = storeU32 false m a x := by
  funext c
  by_cases hc : a ≤ c ∧ c < a + 4
  · obtain ⟨d, rfl⟩ := Nat.exists_eq_add_of_le hc.1
    rw [storeU32_cpuToLe32 _ _ _ _ (by omega),
      show storeU32 false m a x = storeU32 false m a (cpuToLe32 false x) from rfl,
      storeU32_cpuToLe32 _ _ _ _ (by omega)]
  · rw [storeU32_of_not_mem _ _ _ _ hc, storeU32_of_not_mem _ _ _ _ hc]

theorem byteOf_of_and_low {x y : BitVec 32} (h : y &&& 0xffff = x &&& 0xffff) {k : Nat}
    (hk : k < 2) : byteOf y k = byteOf x k := by
  ext j
  have hj := congrArg (fun z => z.getLsbD (8 * k + j)) h
  simp only [BitVec.getLsbD_and] at hj
  have hlow : (0xffff : BitVec 32).getLsbD (8 * k + j) = true := by
    rw [show (0xffff : BitVec 32) = BitVec.ofNat 32 (2 ^ 16 - 1) from rfl,
      BitVec.getLsbD_ofNat, Nat.testBit_two_pow_sub_one]
    simp only [decide_eq_true_eq, Bool.and_eq_true]
    omega
  rw [hlow, Bool.and_true, Bool.and_true] at hj
  simp only [byteOf, BitVec.getLsbD_extractLsb', hj]

/-! ## The model -/

structure IntfHeader where
  configUpdateType : BitVec 32
  configUpdateMac : BitVec 32
  configUpdateBssid : BitVec 32
  tsfSyncApNone : Nat
  bcnTimeCfg : Nat
  bcnTimeCfgTsfSync : Rt2x00Field 32
  tbttSyncCfg : Nat
  tbttSyncCfgBcnCwmin : Rt2x00Field 32
  tbttSyncCfgBcnAifsn : Rt2x00Field 32
  tbttSyncCfgBcnExpWin : Rt2x00Field 32
  tbttSyncCfgTbttAdjust : Rt2x00Field 32
  macAddrDw0 : Nat
  macAddrDw1UnicastToMeMask : Rt2x00Field 32
  macBssidDw0 : Nat
  macBssidDw1BssIdMask : Rt2x00Field 32
  macBssidDw1BssBcnNum : Rt2x00Field 32

/-- `struct rt2x00intf_conf`: the TSF sync mode, and the interface's address and the BSSID as
`__le32[2]`, each eight bytes in memory from byte 0. -/
structure IntfConf where
  sync : Nat
  mac : Nat → BitVec 8
  bssid : Nat → BitVec 8

inductive IntfEvent
  | write (reg : Nat) (value : BitVec 32)
  | multiwrite (offset : Nat) (bytes : List (BitVec 8))
  deriving DecidableEq, Repr

structure IntfBus where
  regs : Nat → BitVec 32
  log : List IntfEvent

def IntfBus.write (b : IntfBus) (reg : Nat) (value : BitVec 32) : IntfBus :=
  { regs := Function.update b.regs reg value, log := b.log ++ [.write reg value] }

def IntfBus.multiwrite (b : IntfBus) (offset : Nat) (m : Nat → BitVec 8) : IntfBus :=
  { b with log := b.log ++ [.multiwrite offset ((List.range 8).map m)] }

section Intf

variable (hd : IntfHeader) (bigEndian : Bool)

/-- The second word of an address rewritten by `g` unless the address is zero:
`reg = le32_to_cpu(addr[1])`, the fields set, `addr[1] = cpu_to_le32(reg)`. -/
def dw1Update (g : BitVec 32 → BitVec 32) (m : Nat → BitVec 8) : Nat → BitVec 8 :=
  if isZeroEtherAddr m then m
  else storeU32 bigEndian m 4
    (cpuToLe32 bigEndian (g (le32ToCpu bigEndian (loadU32 bigEndian m 4))))

/-- The `CONFIG_UPDATE_TYPE` writes: `TSF_SYNC` of `BCN_TIME_CFG`, then the beacon queue
parameters of `TBTT_SYNC_CFG`: CWmin 0, AIFSN 1 and no TBTT adjustment in AP mode, CWmin 4,
AIFSN 2 and an adjustment of 16 otherwise. -/
def configIntfType (sync : Nat) (b : IntfBus) : IntfBus :=
  let b := b.write hd.bcnTimeCfg
    (hd.bcnTimeCfgTsfSync.set (b.regs hd.bcnTimeCfg) (BitVec.ofNat 32 sync))
  let ap := decide (sync = hd.tsfSyncApNone)
  let reg := b.regs hd.tbttSyncCfg
  let reg := hd.tbttSyncCfgBcnCwmin.set reg (if ap then 0 else 4)
  let reg := hd.tbttSyncCfgBcnAifsn.set reg (if ap then 1 else 2)
  let reg := hd.tbttSyncCfgBcnExpWin.set reg 32
  let reg := hd.tbttSyncCfgTbttAdjust.set reg (if ap then 0 else 16)
  b.write hd.tbttSyncCfg reg

/-- The `CONFIG_UPDATE_MAC` step, given whether `CONFIG_UPDATE_TYPE` is set: in AP mode the
BSSID becomes the interface's address; the address, with `UNICAST_TO_ME_MASK` set to 0xff
unless it is zero, goes to `MAC_ADDR_DW0`. The flag is `update_bssid`. -/
def configIntfMac (updateType : Bool) (conf : IntfConf) (b : IntfBus) :
    IntfConf × IntfBus × Bool :=
  let ap := updateType && decide (conf.sync = hd.tsfSyncApNone)
  let conf := if ap then { conf with bssid := conf.mac } else conf
  let conf := { conf with
    mac := dw1Update bigEndian (fun reg => hd.macAddrDw1UnicastToMeMask.set reg 0xff) conf.mac }
  (conf, b.multiwrite hd.macAddrDw0 conf.mac, ap)

/-- The BSSID step: `BSS_ID_MASK` 3 and `BSS_BCN_NUM` 0 unless the BSSID is zero, then the
BSSID to `MAC_BSSID_DW0`. -/
def configIntfBssid (conf : IntfConf) (b : IntfBus) : IntfConf × IntfBus :=
  let conf := { conf with
    bssid := dw1Update bigEndian
      (fun reg => hd.macBssidDw1BssBcnNum.set (hd.macBssidDw1BssIdMask.set reg 3) 0) conf.bssid }
  (conf, b.multiwrite hd.macBssidDw0 conf.bssid)

/-- `rt2800_config_intf`: the configuration as it leaves it (the addresses are written in
place) and the MAC. -/
def rt2800ConfigIntf (conf : IntfConf) (flags : BitVec 32) (b : IntfBus) :
    IntfConf × IntfBus :=
  let updateType := flags &&& hd.configUpdateType != 0
  let b := if updateType then configIntfType hd conf.sync b else b
  let r :=
    if flags &&& hd.configUpdateMac != 0 then configIntfMac hd bigEndian updateType conf b
    else (conf, b, false)
  if flags &&& hd.configUpdateBssid != 0 || r.2.2 then configIntfBssid hd bigEndian r.1 r.2.1
  else (r.1, r.2.1)

end Intf

/-! ## Byte order -/

theorem dw1Update_host (bigEndian : Bool) (g : BitVec 32 → BitVec 32) (m : Nat → BitVec 8) :
    dw1Update bigEndian g m = dw1Update false g m := by
  simp only [dw1Update, le32ToCpu_loadU32, storeU32_cpuToLe32_host]

/-- `rt2800_config_intf` converts each word it changes with `le32_to_cpu` and back with
`cpu_to_le32`: a big-endian host sends the same accesses as a little-endian one and leaves
the same addresses. -/
theorem rt2800ConfigIntf_host (hd : IntfHeader) (conf : IntfConf) (flags : BitVec 32)
    (b : IntfBus) :
    rt2800ConfigIntf hd true conf flags b = rt2800ConfigIntf hd false conf flags b := by
  simp only [rt2800ConfigIntf, configIntfMac, configIntfBssid, dw1Update_host true]

/-! ## The accesses -/

section Accesses

variable (hd : IntfHeader) (bigEndian : Bool)

theorem dw1Update_addr {g : BitVec 32 → BitVec 32} (hg : ∀ x, g x &&& 0xffff = x &&& 0xffff)
    (m : Nat → BitVec 8) {k : Nat} (hk : k < 6) : dw1Update bigEndian g m k = m k := by
  rw [dw1Update_host]
  unfold dw1Update
  split
  · rfl
  by_cases hk4 : k < 4
  · exact storeU32_of_not_mem _ _ _ _ (by omega)
  obtain ⟨d, rfl⟩ : ∃ d, k = 4 + d := ⟨k - 4, by omega⟩
  rw [storeU32_cpuToLe32 _ _ _ _ (by omega), byteOf_of_and_low (hg _) (by omega),
    le32ToCpu_loadU32]
  obtain ⟨h0, h1, -, -⟩ := byteOf_append (m (4 + 3)) (m (4 + 2)) (m (4 + 1)) (m 4)
  obtain rfl | rfl : d = 0 ∨ d = 1 := by omega
  · exact h0
  · exact h1

theorem configIntfType_log (sync : Nat) (b : IntfBus) :
    ∃ tbtt, (configIntfType hd sync b).log = b.log ++
      [.write hd.bcnTimeCfg
          (hd.bcnTimeCfgTsfSync.set (b.regs hd.bcnTimeCfg) (BitVec.ofNat 32 sync)),
        .write hd.tbttSyncCfg tbtt] :=
  ⟨_, List.append_assoc _ _ _⟩

theorem configIntfMac_eq (updateType : Bool) (conf : IntfConf) (b : IntfBus) :
    let ap := updateType && decide (conf.sync = hd.tsfSyncApNone)
    let mac := dw1Update bigEndian (fun reg => hd.macAddrDw1UnicastToMeMask.set reg 0xff) conf.mac
    configIntfMac hd bigEndian updateType conf b =
      (⟨conf.sync, mac, if ap then conf.mac else conf.bssid⟩, b.multiwrite hd.macAddrDw0 mac,
        ap) := by
  simp only [configIntfMac]
  split <;> rfl

end Accesses

/-- Whenever `UNICAST_TO_ME_MASK`, `BSS_ID_MASK` and `BSS_BCN_NUM` lie in the upper halves of
their words, `rt2800_config_intf` writes `BCN_TIME_CFG` with the interface's TSF sync mode
and then `TBTT_SYNC_CFG` on `CONFIG_UPDATE_TYPE`, then sends the interface's address on
`CONFIG_UPDATE_MAC`, then the BSSID on `CONFIG_UPDATE_BSSID` or in AP mode, and nothing else; the first six bytes of the address sent are the interface's
address, and those of the BSSID sent are the BSSID given or, in AP mode, the interface's
address. -/
theorem rt2800ConfigIntf_addresses (hd : IntfHeader)
    (hmac : hd.macAddrDw1UnicastToMeMask.bitMask &&& 0xffff = 0)
    (hid : hd.macBssidDw1BssIdMask.bitMask &&& 0xffff = 0)
    (hbcn : hd.macBssidDw1BssBcnNum.bitMask &&& 0xffff = 0)
    (bigEndian : Bool) (conf : IntfConf) (flags : BitVec 32) (b : IntfBus) :
    let updateType := flags &&& hd.configUpdateType != 0
    let updateMac := flags &&& hd.configUpdateMac != 0
    let ap := updateType && updateMac && decide (conf.sync = hd.tsfSyncApNone)
    ∃ (tbtt : BitVec 32) (mac bssid : Nat → BitVec 8),
      (rt2800ConfigIntf hd bigEndian conf flags b).2.log = b.log ++
        (if updateType then
          [.write hd.bcnTimeCfg
            (hd.bcnTimeCfgTsfSync.set (b.regs hd.bcnTimeCfg) (BitVec.ofNat 32 conf.sync)),
           .write hd.tbttSyncCfg tbtt] else []) ++
        ((if updateMac then [.multiwrite hd.macAddrDw0 ((List.range 8).map mac)] else []) ++
          (if flags &&& hd.configUpdateBssid != 0 || ap then
            [.multiwrite hd.macBssidDw0 ((List.range 8).map bssid)] else [])) ∧
      ∀ k < 6, mac k = conf.mac k ∧ bssid k = if ap then conf.mac k else conf.bssid k := by
  intro updateType updateMac ap
  have hgm : ∀ x, hd.macAddrDw1UnicastToMeMask.set x 0xff &&& 0xffff = x &&& 0xffff :=
    fun x => Rt2x00Field.set_and_of_disjoint _ _ _ _ hmac
  have hgb : ∀ x, hd.macBssidDw1BssBcnNum.set (hd.macBssidDw1BssIdMask.set x 3) 0 &&& 0xffff =
      x &&& 0xffff := fun x => by
    rw [Rt2x00Field.set_and_of_disjoint _ _ _ _ hbcn, Rt2x00Field.set_and_of_disjoint _ _ _ _ hid]
  obtain ⟨tbtt, htype⟩ := configIntfType_log hd conf.sync b
  have hb : (if updateType then configIntfType hd conf.sync b else b).log = b.log ++
      (if updateType then
        [.write hd.bcnTimeCfg
          (hd.bcnTimeCfgTsfSync.set (b.regs hd.bcnTimeCfg) (BitVec.ofNat 32 conf.sync)),
         .write hd.tbttSyncCfg tbtt] else []) := by
    split <;> simp only [htype, List.append_nil]
  refine ⟨tbtt, _, dw1Update bigEndian
    (fun reg => hd.macBssidDw1BssBcnNum.set (hd.macBssidDw1BssIdMask.set reg 3) 0)
    (if ap then conf.mac else conf.bssid), ?_,
    fun k hk => ⟨dw1Update_addr bigEndian hgm conf.mac hk, ?_⟩⟩
  · simp only [updateMac, ap, updateType] at hb ⊢
    rcases Bool.eq_false_or_eq_true (flags &&& hd.configUpdateMac != 0) with hm | hm <;>
      rcases Bool.eq_false_or_eq_true (flags &&& hd.configUpdateBssid != 0) with hbs | hbs <;>
      simp only [rt2800ConfigIntf, configIntfMac_eq, configIntfBssid, IntfBus.multiwrite, hm, hbs,
        hb, if_true, Bool.false_eq_true, if_false, Bool.true_or, Bool.false_or, Bool.and_true,
        Bool.and_false, Bool.false_and, Bool.true_and, List.append_assoc, List.append_nil,
        List.nil_append]
    split <;> next hap => simp only [hap, if_true, if_false, List.append_nil]
  · rw [dw1Update_addr bigEndian hgb _ hk]
    split <;> rfl

def intfHeader : IntfHeader where
  configUpdateType := 0x2
  configUpdateMac := 0x4
  configUpdateBssid := 0x8
  tsfSyncApNone := 3
  bcnTimeCfg := 0x1114
  bcnTimeCfgTsfSync := ⟨0x00060000, 17, by decide⟩
  tbttSyncCfg := 0x1118
  tbttSyncCfgBcnCwmin := ⟨0x00f00000, 20, by decide⟩
  tbttSyncCfgBcnAifsn := ⟨0x000f0000, 16, by decide⟩
  tbttSyncCfgBcnExpWin := ⟨0x0000ff00, 8, by decide⟩
  tbttSyncCfgTbttAdjust := ⟨0x000000ff, 0, by decide⟩
  macAddrDw0 := 0x1008
  macAddrDw1UnicastToMeMask := ⟨0x00ff0000, 16, by decide⟩
  macBssidDw0 := 0x1010
  macBssidDw1BssIdMask := ⟨0x00030000, 16, by decide⟩
  macBssidDw1BssBcnNum := ⟨0x001c0000, 18, by decide⟩

theorem rt2800ConfigIntf_addresses_ap :
    (intfHeader.macAddrDw1UnicastToMeMask.bitMask &&& 0xffff = 0 ∧
      intfHeader.macBssidDw1BssIdMask.bitMask &&& 0xffff = 0 ∧
      intfHeader.macBssidDw1BssBcnNum.bitMask &&& 0xffff = 0) ∧
    let conf : IntfConf := ⟨3, fun k => BitVec.ofNat 8 (k + 1), fun _ => 0⟩
    let updateType := (0x6 : BitVec 32) &&& intfHeader.configUpdateType != 0
    let updateMac := (0x6 : BitVec 32) &&& intfHeader.configUpdateMac != 0
    let ap := updateType && updateMac && decide (conf.sync = intfHeader.tsfSyncApNone)
    ∃ (tbtt : BitVec 32) (mac bssid : Nat → BitVec 8),
      (rt2800ConfigIntf intfHeader true conf 0x6 ⟨fun _ => 0, []⟩).2.log = [] ++
        (if updateType then
          [.write intfHeader.bcnTimeCfg
            (intfHeader.bcnTimeCfgTsfSync.set 0 (BitVec.ofNat 32 conf.sync)),
           .write intfHeader.tbttSyncCfg tbtt] else []) ++
        ((if updateMac then [.multiwrite intfHeader.macAddrDw0 ((List.range 8).map mac)] else []) ++
          (if (0x6 : BitVec 32) &&& intfHeader.configUpdateBssid != 0 || ap then
            [.multiwrite intfHeader.macBssidDw0 ((List.range 8).map bssid)] else [])) ∧
      ∀ k < 6, mac k = conf.mac k ∧ bssid k = if ap then conf.mac k else conf.bssid k :=
  ⟨⟨by decide, by decide, by decide⟩,
    rt2800ConfigIntf_addresses intfHeader (by decide) (by decide) (by decide) true
      ⟨3, fun k => BitVec.ofNat 8 (k + 1), fun _ => 0⟩ 0x6 ⟨fun _ => 0, []⟩⟩

end WifiCoconut
