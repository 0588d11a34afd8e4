import WifiCoconut.Field

/-!
# Indirect BBP access

`rt2800_bbp_write` and `rt2800_bbp_read` reach the baseband through the MAC register
`BBP_CSR_CFG`: wait for its busy bit to clear (`WAIT_FOR_BBP`), then write a request word built
field by field; a read waits again and takes the value from what the wait left. After a
timeout the word is all ones: a write sends nothing, a read returns the value field of that
word. The layout of `BBP_CSR_CFG` (rt2800.h) is a parameter whose fields share no bit. With a
baseband that carries out each request, every run of accesses, whatever the waits answer, is
a run of a byte store in which the writes whose wait succeeded take effect and every read
returns the stored byte or the sentinel (`bbpRunOn_refines`).
-/

namespace WifiCoconut

/-- A request word: the fields set one after another into a zero word, as the access
functions do with `rt2x00_set_field32`. -/
def encodeRequest (sets : List (Rt2x00Field 32 × BitVec 32)) : BitVec 32 :=
  sets.foldl (fun reg p => p.1.set reg p.2) 0

section Encode

variable (f : Rt2x00Field 32)

theorem foldl_set_get_of_disjoint (sets : List (Rt2x00Field 32 × BitVec 32)) (reg : BitVec 32)
    (h : ∀ p ∈ sets, p.1.Disjoint f) :
    f.get (sets.foldl (fun reg p => p.1.set reg p.2) reg) = f.get reg := by
  induction sets generalizing reg with
  | nil => rfl
  | cons p sets ih =>
    rw [List.foldl_cons, ih _ (fun q hq => h q (.tail _ hq)),
      Rt2x00Field.get_set_of_disjoint _ _ _ _ (h p (.head _))]

/-- In a request built from pairwise disjoint fields, each field reads back what was set
into it. -/
theorem encodeRequest_get (sets : List (Rt2x00Field 32 × BitVec 32))
    (hd : (sets.map Prod.fst).Pairwise Rt2x00Field.Disjoint) {v : BitVec 32}
    (hv : (f, v) ∈ sets) :
    f.get (encodeRequest sets) = f.get (v <<< f.bitOffset) := by
  suffices h : ∀ reg, f.get (sets.foldl (fun reg p => p.1.set reg p.2) reg) =
      f.get (v <<< f.bitOffset) from h 0
  rw [List.pairwise_map] at hd
  induction sets with
  | nil => cases hv
  | cons p sets ih =>
    intro reg
    rw [List.pairwise_cons] at hd
    rcases List.mem_cons.mp hv with rfl | hv
    · rw [List.foldl_cons, foldl_set_get_of_disjoint _ _ _ (fun q hq => (hd.1 q hq).symm),
        Rt2x00Field.get_set]
    · exact ih hd.2 hv _

end Encode

/-- The fields of `BBP_CSR_CFG` that the access functions set, in the order
`rt2800_bbp_write` sets them; no two share a bit. -/
structure BbpCsrCfg where
  value : Rt2x00Field 32
  regnum : Rt2x00Field 32
  busy : Rt2x00Field 32
  readControl : Rt2x00Field 32
  bbpRwMode : Rt2x00Field 32
  disjoint : [value, regnum, busy, readControl, bbpRwMode].Pairwise Rt2x00Field.Disjoint

namespace BbpCsrCfg

variable (f : BbpCsrCfg)

def writeRequest (word : Nat) (value : BitVec 8) : BitVec 32 :=
  encodeRequest [(f.value, value.setWidth 32), (f.regnum, BitVec.ofNat 32 word), (f.busy, 1),
    (f.readControl, 0), (f.bbpRwMode, 1)]

def readRequest (word : Nat) : BitVec 32 :=
  encodeRequest [(f.regnum, BitVec.ofNat 32 word), (f.busy, 1), (f.readControl, 1),
    (f.bbpRwMode, 1)]

/-- The byte a read returns when a wait times out: the value field of the all-ones word. -/
def sentinel : BitVec 8 := (f.value.get (BitVec.allOnes 32)).setWidth 8

end BbpCsrCfg

structure BbpBus where
  bbp : Nat → BitVec 8
  csr : BitVec 32

/-- Modelled from the spec: the baseband carrying out a request written to `BBP_CSR_CFG`. A
read request places the register the number field names in the value field, a write request
stores the value field there; the busy bit is then cleared. -/
def BbpCsrCfg.serve (f : BbpCsrCfg) (b : BbpBus) (req : BitVec 32) : BbpBus :=
  let word := (f.regnum.get req).toNat
  if f.readControl.get req = 1 then
    ⟨b.bbp, f.busy.set (f.value.set req ((b.bbp word).setWidth 32)) 0⟩
  else ⟨Function.update b.bbp word ((f.value.get req).setWidth 8), f.busy.set req 0⟩

/-- Modelled from the spec: the bus driver's `regbusy_read`, given whether the busy bit
cleared before the retries ran out. It leaves the register in `reg`, or on a timeout the
all-ones pattern ("reg will be 0xffffffff", as `rt2800_bbp_read` has it). -/
def regbusyRead (ok : Bool) (csr : BitVec 32) : Bool × BitVec 32 :=
  if ok then (true, csr) else (false, BitVec.allOnes 32)

/-- `rt2800_bbp_write` on the bus; `ok` is whether `WAIT_FOR_BBP` saw the busy bit clear. -/
def rt2800BbpWriteOn (f : BbpCsrCfg) (ok : Bool) (b : BbpBus) (word : Nat) (value : BitVec 8) :
    BbpBus :=
  if (regbusyRead ok b.csr).1 then f.serve b (f.writeRequest word value) else b

/-- `rt2800_bbp_read` on the bus, with the outcomes of its two waits: the bus after it and
the byte it returns. -/
def rt2800BbpReadOn (f : BbpCsrCfg) (ok ok' : Bool) (b : BbpBus) (word : Nat) :
    BbpBus × BitVec 8 :=
  let w := regbusyRead ok b.csr
  if w.1 then
    let b := f.serve b (f.readRequest word)
    (b, (f.value.get (regbusyRead ok' b.csr).2).setWidth 8)
  else (b, (f.value.get w.2).setWidth 8)

/-- One BBP access with what its waits answered. -/
inductive BbpAccess
  | write (word : Nat) (value : BitVec 8) (ok : Bool)
  | read (word : Nat) (ok ok' : Bool)
  deriving DecidableEq, Repr

def BbpAccess.word : BbpAccess → Nat
  | write word _ _ => word
  | read word _ _ => word

def bbpStepOn (f : BbpCsrCfg) (b : BbpBus) : BbpAccess → BbpBus × Option (BitVec 8)
  | .write word value ok => (rt2800BbpWriteOn f ok b word value, none)
  | .read word ok ok' =>
    let r := rt2800BbpReadOn f ok ok' b word
    (r.1, some r.2)

def bbpRunOn (f : BbpCsrCfg) : BbpBus → List BbpAccess → BbpBus × List (BitVec 8)
  | b, [] => (b, [])
  | b, a :: as =>
    let r := bbpStepOn f b a
    let r' := bbpRunOn f r.1 as
    (r'.1, r.2.toList ++ r'.2)

/-! ## What the access layer is for -/

/-- A byte store: a write whose wait succeeded takes effect, a read returns the stored byte,
or the sentinel when one of its waits timed out. -/
def storeStep (sentinel : BitVec 8) (bbp : Nat → BitVec 8) :
    BbpAccess → (Nat → BitVec 8) × Option (BitVec 8)
  | .write word value ok => (if ok then Function.update bbp word value else bbp, none)
  | .read word ok ok' => (bbp, some (if ok && ok' then bbp word else sentinel))

def storeRun (sentinel : BitVec 8) : (Nat → BitVec 8) → List BbpAccess →
    (Nat → BitVec 8) × List (BitVec 8)
  | bbp, [] => (bbp, [])
  | bbp, a :: as =>
    let r := storeStep sentinel bbp a
    let r' := storeRun sentinel r.1 as
    (r'.1, r.2.toList ++ r'.2)

/-- The value and number fields are eight bits wide and the direction field one bit, each
of contiguous bits at its offset. -/
structure BbpCsrCfg.Wide (f : BbpCsrCfg) : Prop where
  value : f.value.bitMask = 0xff#32 <<< f.value.bitOffset ∧ f.value.bitOffset + 8 ≤ 32
  regnum : f.regnum.bitMask = 0xff#32 <<< f.regnum.bitOffset ∧ f.regnum.bitOffset + 8 ≤ 32
  readControl : f.readControl.bitMask = 1#32 <<< f.readControl.bitOffset ∧
    f.readControl.bitOffset + 1 ≤ 32

namespace BbpCsrCfg

variable {f : BbpCsrCfg}

theorem writeRequest_get {g : Rt2x00Field 32} {v : BitVec 32} (word : Nat) (value : BitVec 8)
    (hv : (g, v) ∈ [(f.value, value.setWidth 32), (f.regnum, BitVec.ofNat 32 word),
      (f.busy, 1), (f.readControl, 0), (f.bbpRwMode, 1)]) :
    g.get (f.writeRequest word value) = g.get (v <<< g.bitOffset) := by
  refine encodeRequest_get g _ ?_ hv
  exact f.disjoint

theorem readRequest_get {g : Rt2x00Field 32} {v : BitVec 32} (word : Nat)
    (hv : (g, v) ∈ [(f.regnum, BitVec.ofNat 32 word), (f.busy, 1), (f.readControl, 1),
      (f.bbpRwMode, 1)]) :
    g.get (f.readRequest word) = g.get (v <<< g.bitOffset) := by
  refine encodeRequest_get g _ ?_ hv
  exact f.disjoint.sublist (.cons _ (.refl _))

section Fields

variable (word : Nat) (value : BitVec 8)

theorem writeRequest_value :
    f.value.get (f.writeRequest word value) =
      f.value.get (value.setWidth 32 <<< f.value.bitOffset) :=
  writeRequest_get word value (.head _)

theorem writeRequest_regnum :
    f.regnum.get (f.writeRequest word value) =
      f.regnum.get (BitVec.ofNat 32 word <<< f.regnum.bitOffset) :=
  writeRequest_get word value (.tail _ (.head _))

theorem writeRequest_readControl : f.readControl.get (f.writeRequest word value) = 0 := by
  rw [writeRequest_get word value (.tail _ (.tail _ (.tail _ (.head _))))]; simp

theorem readRequest_regnum :
    f.regnum.get (f.readRequest word) =
      f.regnum.get (BitVec.ofNat 32 word <<< f.regnum.bitOffset) :=
  readRequest_get word (.head _)

theorem readRequest_readControl :
    f.readControl.get (f.readRequest word) = f.readControl.get (1#32 <<< f.readControl.bitOffset) :=
  readRequest_get word (.tail _ (.tail _ (.head _)))

end Fields

variable (hw : f.Wide)
include hw

theorem get_regnum {word : Nat} (h : word < 256) :
    (f.regnum.get (BitVec.ofNat 32 word <<< f.regnum.bitOffset)).toNat = word := by
  rw [Rt2x00Field.get_shiftLeft_of_width f.regnum (n := 8) hw.regnum.1 hw.regnum.2 _
    (by simp; omega)]
  simp; omega

theorem get_value (v : BitVec 8) :
    (f.value.get (v.setWidth 32 <<< f.value.bitOffset)).setWidth 8 = v := by
  rw [Rt2x00Field.get_shiftLeft_of_width f.value (n := 8) hw.value.1 hw.value.2 _
    (by simp; omega)]
  exact BitVec.eq_of_toNat_eq (by simp)

theorem get_readControl : f.readControl.get (1#32 <<< f.readControl.bitOffset) = 1 :=
  Rt2x00Field.get_shiftLeft_of_width f.readControl (n := 1) hw.readControl.1
    hw.readControl.2 _ (by decide)

theorem serve_writeRequest (b : BbpBus) {word : Nat} (h : word < 256) (value : BitVec 8) :
    (f.serve b (f.writeRequest word value)).bbp = Function.update b.bbp word value := by
  have hrc : ¬f.readControl.get (f.writeRequest word value) = 1 := by
    rw [writeRequest_readControl]; decide
  simp only [serve, if_neg hrc, writeRequest_value, writeRequest_regnum, get_regnum hw h,
    get_value hw]

theorem serve_readRequest (b : BbpBus) {word : Nat} (h : word < 256) :
    let b' := f.serve b (f.readRequest word)
    b'.bbp = b.bbp ∧ (f.value.get b'.csr).setWidth 8 = b.bbp word := by
  have hvb : f.value.Disjoint f.busy := by
    have hd := f.disjoint
    simp only [List.pairwise_cons, List.mem_cons, forall_eq_or_imp] at hd
    exact hd.1.2.1
  simp only [serve, readRequest_readControl, get_readControl hw, if_true, readRequest_regnum,
    get_regnum hw h]
  refine ⟨trivial, ?_⟩
  rw [Rt2x00Field.get_set_of_disjoint _ _ _ _ hvb.symm, Rt2x00Field.get_set, get_value hw]

theorem bbpStepOn_refines (b : BbpBus) (a : BbpAccess) (h : a.word < 256) :
    (bbpStepOn f b a).1.bbp = (storeStep f.sentinel b.bbp a).1 ∧
      (bbpStepOn f b a).2 = (storeStep f.sentinel b.bbp a).2 := by
  cases a with
  | write word value ok =>
    cases ok
    · exact ⟨rfl, rfl⟩
    · exact ⟨serve_writeRequest hw b h value, rfl⟩
  | read word ok ok' =>
    obtain ⟨hbbp, hval⟩ := serve_readRequest hw b (show word < 256 from h)
    cases ok
    · exact ⟨rfl, rfl⟩
    · cases ok'
      · exact ⟨hbbp, rfl⟩
      · exact ⟨hbbp, by simp [bbpStepOn, rt2800BbpReadOn, regbusyRead, storeStep, hval]⟩

end BbpCsrCfg

/-- For a layout whose fields hold a register number and a byte, every run of BBP accesses
on registers below 256, whatever each wait answers, leaves the baseband's registers as the
byte store leaves its own, and every read returns what the store returns: the byte last
written by an access whose wait succeeded, or the value field of the all-ones word after a
timeout. -/
theorem bbpRunOn_refines (f : BbpCsrCfg) (hw : f.Wide) (as : List BbpAccess)
    (has : ∀ a ∈ as, a.word < 256) (b : BbpBus) :
    (bbpRunOn f b as).1.bbp = (storeRun f.sentinel b.bbp as).1 ∧
      (bbpRunOn f b as).2 = (storeRun f.sentinel b.bbp as).2 := by
  induction as generalizing b with
  | nil => exact ⟨rfl, rfl⟩
  | cons a as ih =>
    obtain ⟨hbbp, hval⟩ := BbpCsrCfg.bbpStepOn_refines hw b a (has a (.head _))
    obtain ⟨h1, h2⟩ := ih (fun a' h => has a' (.tail _ h)) (bbpStepOn f b a).1
    simp only [bbpRunOn, storeRun, h1, h2, hbbp, hval, and_self]

def byteLayout : BbpCsrCfg where
  value := ⟨0x000000ff, 0, by decide⟩
  regnum := ⟨0x0000ff00, 8, by decide⟩
  busy := ⟨0x00020000, 17, by decide⟩
  readControl := ⟨0x00010000, 16, by decide⟩
  bbpRwMode := ⟨0x00080000, 19, by decide⟩
  disjoint := by decide

theorem byteLayout_wide : byteLayout.Wide := ⟨by decide, by decide, by decide⟩

theorem bbpRunOn_refines_byteLayout :
    byteLayout.Wide ∧
      (∀ a ∈ [BbpAccess.write 23 0x10 true, .read 23 true true, .read 4 false true],
        a.word < 256) ∧
      (bbpRunOn byteLayout ⟨fun _ => 0, 0⟩
          [.write 23 0x10 true, .read 23 true true, .read 4 false true]).1.bbp =
        (storeRun byteLayout.sentinel (fun _ => 0)
          [.write 23 0x10 true, .read 23 true true, .read 4 false true]).1 ∧
      (bbpRunOn byteLayout ⟨fun _ => 0, 0⟩
          [.write 23 0x10 true, .read 23 true true, .read 4 false true]).2 =
        (storeRun byteLayout.sentinel (fun _ => 0)
          [.write 23 0x10 true, .read 23 true true, .read 4 false true]).2 :=
  ⟨byteLayout_wide, by decide, bbpRunOn_refines byteLayout byteLayout_wide _ (by decide) _⟩

end WifiCoconut
