import WifiCoconut.Calibration
import WifiCoconut.RxFilter

/-!
# Indirect RF CSR access

`rt2800_rfcsr_write` and `rt2800_rfcsr_read` reach the RF registers through `RF_CSR_CFG`: wait
for the busy bit, send a request word (value, register number, write bit, busy bit), and for a
read wait again and take the value from the register. RT6352 uses the `_MT7620` layout, whose
banked accesses address register `reg` of bank `bank` as `reg | (bank << 6)`. Both layouts are
parameters. Every run of RF CSR calls leaves the RF registers as a byte store after the writes
whose wait succeeded, every read returning the stored byte or the sentinel
(`rfcsrRunOn_refines`); the calibrations access the RF and BBP registers as these stores.
-/

namespace WifiCoconut

/-- The fields of `RF_CSR_CFG` one layout of the access uses, in the order
`rt2800_rfcsr_write` sets them: `RF_CSR_CFG_DATA`, `_REGNUM`, `_WRITE`, `_BUSY`, or their
`_MT7620` versions. No two share a bit. -/
structure RfCsrCfg where
  data : Rt2x00Field 32
  regnum : Rt2x00Field 32
  write : Rt2x00Field 32
  busy : Rt2x00Field 32
  disjoint : [data, regnum, write, busy].Pairwise Rt2x00Field.Disjoint

structure RfCsrLayouts where
  default : RfCsrCfg
  mt7620 : RfCsrCfg

/-- The layout the access functions use on a chip: `case RT6352` of their `switch`. -/
def RfCsrLayouts.of (l : RfCsrLayouts) (c : Chip) : RfCsrCfg :=
  if c.rt = .rt6352 then l.mt7620 else l.default

namespace RfCsrCfg

variable (f : RfCsrCfg)

def writeRequest (word : Nat) (value : BitVec 8) : BitVec 32 :=
  encodeRequest [(f.data, value.setWidth 32), (f.regnum, BitVec.ofNat 32 word), (f.write, 1),
    (f.busy, 1)]

def readRequest (word : Nat) : BitVec 32 :=
  encodeRequest [(f.regnum, BitVec.ofNat 32 word), (f.write, 0), (f.busy, 1)]

/-- The byte a read returns when a wait times out: the data field of the all-ones word. -/
def sentinel : BitVec 8 := (f.data.get (BitVec.allOnes 32)).setWidth 8

end RfCsrCfg

structure RfBus where
  rf : Nat → BitVec 8
  csr : BitVec 32

/-- Modelled from the spec: the RF front end carrying out a request written to
`RF_CSR_CFG`. A request with the write bit stores the data field in the register the number
field names; one without places that register in the data field. The busy bit is then
cleared. -/
def RfCsrCfg.serve (f : RfCsrCfg) (b : RfBus) (req : BitVec 32) : RfBus :=
  let word := (f.regnum.get req).toNat
  if f.write.get req = 1 then
    ⟨Function.update b.rf word ((f.data.get req).setWidth 8), f.busy.set req 0⟩
  else ⟨b.rf, f.busy.set (f.data.set req ((b.rf word).setWidth 32)) 0⟩

section Access

variable (l : RfCsrLayouts) (c : Chip)

/-- `rt2800_rfcsr_write` on the bus; `ok` is whether the wait saw the busy bit clear. -/
def rt2800RfcsrWriteOn (ok : Bool) (b : RfBus) (word : Nat) (value : BitVec 8) : RfBus :=
  let f := l.of c
  if (regbusyRead ok b.csr).1 then f.serve b (f.writeRequest word value) else b

/-- `rt2800_rfcsr_read` on the bus, with the outcomes of its two waits: the bus after it and
the byte it returns. -/
def rt2800RfcsrReadOn (ok ok' : Bool) (b : RfBus) (word : Nat) : RfBus × BitVec 8 :=
  let f := l.of c
  let w := regbusyRead ok b.csr
  if w.1 then
    let b := f.serve b (f.readRequest word)
    (b, (f.data.get (regbusyRead ok' b.csr).2).setWidth 8)
  else (b, (f.data.get w.2).setWidth 8)

def rt2800RfcsrWriteBankOn (ok : Bool) (b : RfBus) (bank reg : Nat) (value : BitVec 8) :
    RfBus :=
  rt2800RfcsrWriteOn l c ok b (rfcsrBankWord bank reg) value

def rt2800RfcsrReadBankOn (ok ok' : Bool) (b : RfBus) (bank reg : Nat) : RfBus × BitVec 8 :=
  rt2800RfcsrReadOn l c ok ok' b (rfcsrBankWord bank reg)

/-- `rt2800_rfcsr_write_chanreg`: banks 4 and 6. -/
def rt2800RfcsrWriteChanregOn (ok4 ok6 : Bool) (b : RfBus) (reg : Nat) (value : BitVec 8) :
    RfBus :=
  rt2800RfcsrWriteBankOn l c ok6 (rt2800RfcsrWriteBankOn l c ok4 b 4 reg value) 6 reg value

/-- `rt2800_rfcsr_write_dccal`: banks 5 and 7. -/
def rt2800RfcsrWriteDccalOn (ok5 ok7 : Bool) (b : RfBus) (reg : Nat) (value : BitVec 8) :
    RfBus :=
  rt2800RfcsrWriteBankOn l c ok7 (rt2800RfcsrWriteBankOn l c ok5 b 5 reg value) 7 reg value

end Access

/-- One call of the RF CSR access functions with what its waits answered. -/
inductive RfcsrCall
  | write (word : Nat) (value : BitVec 8) (ok : Bool)
  | read (word : Nat) (ok ok' : Bool)
  | writeBank (bank reg : Nat) (value : BitVec 8) (ok : Bool)
  | readBank (bank reg : Nat) (ok ok' : Bool)
  | writeChanreg (reg : Nat) (value : BitVec 8) (ok4 ok6 : Bool)
  | writeDccal (reg : Nat) (value : BitVec 8) (ok5 ok7 : Bool)
  deriving DecidableEq, Repr

def RfcsrCall.words : RfcsrCall → List Nat
  | write word _ _ | read word _ _ => [word]
  | writeBank bank reg _ _ | readBank bank reg _ _ => [rfcsrBankWord bank reg]
  | writeChanreg reg _ _ _ => [rfcsrBankWord 4 reg, rfcsrBankWord 6 reg]
  | writeDccal reg _ _ _ => [rfcsrBankWord 5 reg, rfcsrBankWord 7 reg]

section Run

variable (l : RfCsrLayouts) (c : Chip)

def rfcsrStepOn (b : RfBus) : RfcsrCall → RfBus × Option (BitVec 8)
  | .write word value ok => (rt2800RfcsrWriteOn l c ok b word value, none)
  | .read word ok ok' =>
    let r := rt2800RfcsrReadOn l c ok ok' b word
    (r.1, some r.2)
  | .writeBank bank reg value ok => (rt2800RfcsrWriteBankOn l c ok b bank reg value, none)
  | .readBank bank reg ok ok' =>
    let r := rt2800RfcsrReadBankOn l c ok ok' b bank reg
    (r.1, some r.2)
  | .writeChanreg reg value ok4 ok6 => (rt2800RfcsrWriteChanregOn l c ok4 ok6 b reg value, none)
  | .writeDccal reg value ok5 ok7 => (rt2800RfcsrWriteDccalOn l c ok5 ok7 b reg value, none)

def rfcsrRunOn : RfBus → List RfcsrCall → RfBus × List (BitVec 8)
  | b, [] => (b, [])
  | b, a :: as =>
    let r := rfcsrStepOn l c b a
    let r' := rfcsrRunOn r.1 as
    (r'.1, r.2.toList ++ r'.2)

end Run

/-! ## What the access layer is for -/

/-- The RF registers as a byte store, register `reg` of bank `bank` at `reg | (bank << 6)`:
a write whose wait succeeded takes effect, a read returns the stored byte, or the sentinel
when one of its waits timed out. -/
def rfStoreStep (sentinel : BitVec 8) (rf : Nat → BitVec 8) :
    RfcsrCall → (Nat → BitVec 8) × Option (BitVec 8)
  | .write word value ok => (if ok then Function.update rf word value else rf, none)
  | .read word ok ok' => (rf, some (if ok && ok' then rf word else sentinel))
  | .writeBank bank reg value ok =>
    (if ok then Function.update rf (rfcsrBankWord bank reg) value else rf, none)
  | .readBank bank reg ok ok' =>
    (rf, some (if ok && ok' then rf (rfcsrBankWord bank reg) else sentinel))
  | .writeChanreg reg value ok4 ok6 =>
    let rf := if ok4 then Function.update rf (rfcsrBankWord 4 reg) value else rf
    (if ok6 then Function.update rf (rfcsrBankWord 6 reg) value else rf, none)
  | .writeDccal reg value ok5 ok7 =>
    let rf := if ok5 then Function.update rf (rfcsrBankWord 5 reg) value else rf
    (if ok7 then Function.update rf (rfcsrBankWord 7 reg) value else rf, none)

def rfStoreRun (sentinel : BitVec 8) : (Nat → BitVec 8) → List RfcsrCall →
    (Nat → BitVec 8) × List (BitVec 8)
  | rf, [] => (rf, [])
  | rf, a :: as =>
    let r := rfStoreStep sentinel rf a
    let r' := rfStoreRun sentinel r.1 as
    (r'.1, r.2.toList ++ r'.2)

/-- The data field holds a byte, the number field `k` bits and the write field one bit, each
of contiguous bits at its offset. -/
structure RfCsrCfg.Wide (f : RfCsrCfg) (k : Nat) : Prop where
  data : f.data.bitMask = 0xff#32 <<< f.data.bitOffset ∧ f.data.bitOffset + 8 ≤ 32
  regnum : f.regnum.bitMask = BitVec.ofNat 32 (2 ^ k - 1) <<< f.regnum.bitOffset ∧
    f.regnum.bitOffset + k ≤ 32
  write : f.write.bitMask = 1#32 <<< f.write.bitOffset ∧ f.write.bitOffset + 1 ≤ 32

theorem rfcsrBankWord_eq {reg : Nat} (bank : Nat) (h : reg < 64) :
    rfcsrBankWord bank reg = reg + 64 * bank := by
  rw [rfcsrBankWord, Nat.shiftLeft_eq, Nat.or_comm, Nat.mul_comm,
    ← Nat.mul_add_lt_is_or (show reg < 2 ^ 6 from h)]
  omega

/-- Registers below 64 of different banks, or different registers of one bank, are
different words: the banks do not alias. -/
theorem rfcsrBankWord_inj {bank bank' reg reg' : Nat} (h : reg < 64) (h' : reg' < 64) :
    rfcsrBankWord bank reg = rfcsrBankWord bank' reg' ↔ bank = bank' ∧ reg = reg' := by
  rw [rfcsrBankWord_eq bank h, rfcsrBankWord_eq bank' h']
  omega

namespace RfCsrCfg

variable {f : RfCsrCfg}

theorem writeRequest_get {g : Rt2x00Field 32} {v : BitVec 32} (word : Nat) (value : BitVec 8)
    (hv : (g, v) ∈ [(f.data, value.setWidth 32), (f.regnum, BitVec.ofNat 32 word),
      (f.write, 1), (f.busy, 1)]) :
    g.get (f.writeRequest word value) = g.get (v <<< g.bitOffset) := by
  refine encodeRequest_get g _ ?_ hv
  exact f.disjoint

theorem readRequest_get {g : Rt2x00Field 32} {v : BitVec 32} (word : Nat)
    (hv : (g, v) ∈ [(f.regnum, BitVec.ofNat 32 word), (f.write, 0), (f.busy, 1)]) :
    g.get (f.readRequest word) = g.get (v <<< g.bitOffset) := by
  refine encodeRequest_get g _ ?_ hv
  exact f.disjoint.sublist (.cons _ (.refl _))

variable {k : Nat} (hw : f.Wide k)
include hw

theorem get_regnum {word : Nat} (h : word < 2 ^ k) :
    (f.regnum.get (BitVec.ofNat 32 word <<< f.regnum.bitOffset)).toNat = word := by
  have hk : 2 ^ k ≤ 2 ^ 32 := Nat.pow_le_pow_right (by decide) (by have := hw.regnum.2; omega)
  rw [Rt2x00Field.get_shiftLeft_of_width f.regnum hw.regnum.1 hw.regnum.2 _
    (by rw [BitVec.toNat_ofNat]; omega), BitVec.toNat_ofNat]
  omega

theorem get_data (v : BitVec 8) :
    (f.data.get (v.setWidth 32 <<< f.data.bitOffset)).setWidth 8 = v := by
  rw [Rt2x00Field.get_shiftLeft_of_width f.data (n := 8) hw.data.1 hw.data.2 _
    (by simp; omega)]
  exact BitVec.eq_of_toNat_eq (by simp)

theorem get_write_one : f.write.get ((1 : BitVec 32) <<< f.write.bitOffset) = 1 :=
  Rt2x00Field.get_shiftLeft_of_width f.write (n := 1) hw.write.1 hw.write.2 _ (by decide)

theorem serve_writeRequest (b : RfBus) {word : Nat} (h : word < 2 ^ k) (value : BitVec 8) :
    (f.serve b (f.writeRequest word value)).rf = Function.update b.rf word value := by
  simp only [serve, writeRequest_get word value (.tail _ (.tail _ (.head _))), get_write_one hw,
    if_true, writeRequest_get word value (.head _), get_data hw,
    writeRequest_get word value (.tail _ (.head _)), get_regnum hw h]

theorem serve_readRequest (b : RfBus) {word : Nat} (h : word < 2 ^ k) :
    let b' := f.serve b (f.readRequest word)
    b'.rf = b.rf ∧ (f.data.get b'.csr).setWidth 8 = b.rf word := by
  have hdb : f.data.Disjoint f.busy := by
    have hd := f.disjoint
    simp only [List.pairwise_cons, List.mem_cons, forall_eq_or_imp] at hd
    exact hd.1.2.2.1
  have hwr : ¬f.write.get (f.readRequest word) = 1 := by
    rw [readRequest_get word (.tail _ (.head _))]; simp
  simp only [serve, hwr, if_false, readRequest_get word (.head _), get_regnum hw h]
  refine ⟨trivial, ?_⟩
  rw [Rt2x00Field.get_set_of_disjoint _ _ _ _ hdb.symm, Rt2x00Field.get_set, get_data hw]

end RfCsrCfg

section Refines

variable {l : RfCsrLayouts} {c : Chip} {k : Nat} (hw : (l.of c).Wide k)
include hw

theorem rt2800RfcsrWriteOn_rf (ok : Bool) (b : RfBus) {word : Nat} (h : word < 2 ^ k)
    (value : BitVec 8) :
    (rt2800RfcsrWriteOn l c ok b word value).rf =
      if ok then Function.update b.rf word value else b.rf := by
  cases ok
  · rfl
  · exact RfCsrCfg.serve_writeRequest hw b h value

theorem rt2800RfcsrReadOn_eq (ok ok' : Bool) (b : RfBus) {word : Nat} (h : word < 2 ^ k) :
    (rt2800RfcsrReadOn l c ok ok' b word).1.rf = b.rf ∧
      (rt2800RfcsrReadOn l c ok ok' b word).2 =
        if ok && ok' then b.rf word else (l.of c).sentinel := by
  obtain ⟨hrf, hval⟩ := RfCsrCfg.serve_readRequest hw b h
  cases ok
  · exact ⟨rfl, rfl⟩
  · cases ok'
    · exact ⟨hrf, rfl⟩
    · exact ⟨hrf, by simpa [rt2800RfcsrReadOn, regbusyRead] using hval⟩

theorem rfcsrStepOn_refines (b : RfBus) (a : RfcsrCall) (h : ∀ w ∈ a.words, w < 2 ^ k) :
    (rfcsrStepOn l c b a).1.rf = (rfStoreStep (l.of c).sentinel b.rf a).1 ∧
      (rfcsrStepOn l c b a).2 = (rfStoreStep (l.of c).sentinel b.rf a).2 := by
  cases a with
  | write word value ok =>
    exact ⟨rt2800RfcsrWriteOn_rf hw ok b (h word (.head _)) value, rfl⟩
  | read word ok ok' =>
    obtain ⟨h1, h2⟩ := rt2800RfcsrReadOn_eq hw ok ok' b (h word (.head _))
    exact ⟨h1, by simp [rfcsrStepOn, rfStoreStep, h2]⟩
  | writeBank bank reg value ok =>
    exact ⟨rt2800RfcsrWriteOn_rf hw ok b (h _ (.head _)) value, rfl⟩
  | readBank bank reg ok ok' =>
    obtain ⟨h1, h2⟩ := rt2800RfcsrReadOn_eq hw ok ok' b (h _ (.head _))
    exact ⟨h1, by simp [rfcsrStepOn, rt2800RfcsrReadBankOn, rfStoreStep, h2]⟩
  | writeChanreg reg value ok4 ok6 =>
    refine ⟨?_, rfl⟩
    simp only [rfcsrStepOn, rt2800RfcsrWriteChanregOn, rt2800RfcsrWriteBankOn, rfStoreStep,
      rt2800RfcsrWriteOn_rf hw _ _ (h _ (.head _)),
      rt2800RfcsrWriteOn_rf hw _ _ (h _ (.tail _ (.head _)))]
  | writeDccal reg value ok5 ok7 =>
    refine ⟨?_, rfl⟩
    simp only [rfcsrStepOn, rt2800RfcsrWriteDccalOn, rt2800RfcsrWriteBankOn, rfStoreStep,
      rt2800RfcsrWriteOn_rf hw _ _ (h _ (.head _)),
      rt2800RfcsrWriteOn_rf hw _ _ (h _ (.tail _ (.head _)))]

end Refines

/-- On every chip whose `RF_CSR_CFG` layout holds a byte and `k`-bit register numbers, every
run of RF CSR calls on words below `2 ^ k`, whatever each wait answers, leaves the RF
registers as the byte store leaves its own, and every read returns what the store returns:
the byte last written by a call whose wait succeeded, or the data field of the all-ones word
after a timeout. -/
theorem rfcsrRunOn_refines (l : RfCsrLayouts) (c : Chip) {k : Nat} (hw : (l.of c).Wide k)
    (calls : List RfcsrCall) (hcalls : ∀ a ∈ calls, ∀ w ∈ a.words, w < 2 ^ k) (b : RfBus) :
    (rfcsrRunOn l c b calls).1.rf = (rfStoreRun (l.of c).sentinel b.rf calls).1 ∧
      (rfcsrRunOn l c b calls).2 = (rfStoreRun (l.of c).sentinel b.rf calls).2 := by
  induction calls generalizing b with
  | nil => exact ⟨rfl, rfl⟩
  | cons a as ih =>
    obtain ⟨hrf, hval⟩ := rfcsrStepOn_refines hw b a (hcalls a (.head _))
    obtain ⟨h1, h2⟩ := ih (fun a' h => hcalls a' (.tail _ h)) (rfcsrStepOn l c b a).1
    simp only [rfcsrRunOn, rfStoreRun, h1, h2, hrf, hval, and_self]

/-- A pair of layouts: six-bit register numbers by default, ten-bit ones on RT6352, where
the banked accesses reach words up to `7 << 6 | 63`. -/
def bankLayouts : RfCsrLayouts where
  default :=
    { data := ⟨0x000000ff, 0, by decide⟩, regnum := ⟨0x00003f00, 8, by decide⟩
      write := ⟨0x00010000, 16, by decide⟩, busy := ⟨0x00020000, 17, by decide⟩
      disjoint := by decide }
  mt7620 :=
    { data := ⟨0x0000ff00, 8, by decide⟩, regnum := ⟨0x03ff0000, 16, by decide⟩
      write := ⟨0x00000010, 4, by decide⟩, busy := ⟨0x00000001, 0, by decide⟩
      disjoint := by decide }

theorem rfcsrRunOn_refines_rt6352 :
    (bankLayouts.of ⟨.rt6352, 0, 0, .soc⟩).Wide 10 ∧
      (∀ a ∈ [RfcsrCall.writeChanreg 3 0x20 true false, .readBank 6 3 true true,
        .readBank 4 3 true true], ∀ w ∈ a.words, w < 2 ^ 10) ∧
      (rfcsrRunOn bankLayouts ⟨.rt6352, 0, 0, .soc⟩ ⟨fun _ => 0, 0⟩
          [.writeChanreg 3 0x20 true false, .readBank 6 3 true true,
            .readBank 4 3 true true]).1.rf =
        (rfStoreRun (bankLayouts.of ⟨.rt6352, 0, 0, .soc⟩).sentinel (fun _ => 0)
          [.writeChanreg 3 0x20 true false, .readBank 6 3 true true,
            .readBank 4 3 true true]).1 ∧
      (rfcsrRunOn bankLayouts ⟨.rt6352, 0, 0, .soc⟩ ⟨fun _ => 0, 0⟩
          [.writeChanreg 3 0x20 true false, .readBank 6 3 true true,
            .readBank 4 3 true true]).2 =
        (rfStoreRun (bankLayouts.of ⟨.rt6352, 0, 0, .soc⟩).sentinel (fun _ => 0)
          [.writeChanreg 3 0x20 true false, .readBank 6 3 true true,
            .readBank 4 3 true true]).2 :=
  have hw : (bankLayouts.of ⟨.rt6352, 0, 0, .soc⟩).Wide 10 := ⟨by decide, by decide, by decide⟩
  ⟨hw, by decide, rfcsrRunOn_refines bankLayouts _ hw _ (by decide) _⟩

/-! ## The calibrations' accesses are the stores' -/

theorem rt2800RfcsrWriteBank_rf (sentinel : BitVec 8) (s : CalRegs) (bank reg : Nat)
    (value : BitVec 8) :
    (rt2800RfcsrWriteBank s bank reg value).rf =
      (rfStoreStep sentinel s.rf (.writeBank bank reg value true)).1 := rfl

theorem rt2800RfcsrReadBank_eq (sentinel : BitVec 8) (s : CalRegs) (bank reg : Nat) :
    some (rt2800RfcsrReadBank s bank reg) =
      (rfStoreStep sentinel s.rf (.readBank bank reg true true)).2 := rfl

theorem rxFilter_rt2800RfcsrWrite_rf (sentinel : BitVec 8) (s : RxCalRegs) (word : Nat)
    (value : BitVec 8) :
    (RxFilter.rt2800RfcsrWrite s word value).rf =
      (rfStoreStep sentinel s.rf (.write word value true)).1 := rfl

/-- The BBP accesses of the RX filter calibration are those of the byte store of
`BbpAccess` with waits that succeeded. -/
theorem rxFilter_rt2800BbpWrite_bbp (sentinel : BitVec 8) (s : RxCalRegs) (word : Nat)
    (value : BitVec 8) :
    (RxFilter.rt2800BbpWrite s word value).bbp =
      (storeStep sentinel s.bbp (.write word value true)).1 := rfl

theorem rxFilter_rt2800BbpRead_eq (sentinel : BitVec 8) (s : RxCalRegs) (word : Nat) :
    some (RxFilter.rt2800BbpRead s word) = (storeStep sentinel s.bbp (.read word true true)).2 :=
  rfl

end WifiCoconut
