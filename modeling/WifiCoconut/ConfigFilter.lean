import WifiCoconut.TxPin

/-!
# The receive filter

`rt2800_config_filter` sets seventeen one-bit drop fields of `RX_FILTER_CFG` from the filter
flags mac80211 passes and writes the word back. This port was "Modified to never drop packets
not to me": frames for another station or BSS, broadcasts, duplicates and block acks are
never dropped, bad protocol versions always are, and the other kinds are dropped unless their
`FIF_*` flag is passed. The register's bits and the flags are in rt2800.h and mac80211, not
among the sources, so they are parameters (`FilterHeader`), the bits distinct. Whatever the
flags and the register held, the promised kinds are never dropped, more flags never drop
more, and nothing outside the drop bits changes (`rt2800ConfigFilter_capture`).
-/

namespace WifiCoconut

inductive RxFilterDrop
  | crcError | phyError | notToMe | notMyBssd | verError | multicast | broadcast | duplicate
  | cfEndAck | cfEnd | ack | cts | rts | pspoll | ba | bar | cntl
  deriving DecidableEq, Repr, Fintype

/-- The constants of rt2800.h and mac80211 that `rt2800_config_filter` uses: `RX_FILTER_CFG`,
the bit of each `RX_FILTER_CFG_DROP_*` field, no two the same, and the `FIF_*` flags it
tests. -/
structure FilterHeader where
  rxFilterCfg : Nat
  offset : RxFilterDrop → Nat
  lt : ∀ d, offset d < 32
  injective : Function.Injective offset
  fifFcsfail : BitVec 32
  fifPlcpfail : BitVec 32
  fifAllmulti : BitVec 32
  fifControl : BitVec 32
  fifPspoll : BitVec 32

section Filter

variable (hd : FilterHeader) (filterFlags : BitVec 32)

def notPassed (flag : BitVec 32) : BitVec 32 := truthValue (filterFlags &&& flag = 0)

/-- The fields `rt2800_config_filter` sets and their values, in its order. -/
def rxFilterSets : List (RxFilterDrop × BitVec 32) :=
  [(.crcError, notPassed filterFlags hd.fifFcsfail),
    (.phyError, notPassed filterFlags hd.fifPlcpfail),
    (.notToMe, 0),
    (.notMyBssd, 0),
    (.verError, 1),
    (.multicast, notPassed filterFlags hd.fifAllmulti),
    (.broadcast, 0),
    (.duplicate, 0),
    (.cfEndAck, notPassed filterFlags hd.fifControl),
    (.cfEnd, notPassed filterFlags hd.fifControl),
    (.ack, notPassed filterFlags hd.fifControl),
    (.cts, notPassed filterFlags hd.fifControl),
    (.rts, notPassed filterFlags hd.fifControl),
    (.pspoll, notPassed filterFlags hd.fifPspoll),
    (.ba, 0),
    (.bar, notPassed filterFlags hd.fifControl),
    (.cntl, notPassed filterFlags hd.fifControl)]

/-- `rt2800_config_filter` on the registers: `RX_FILTER_CFG` read, its fields set one after
another, and the word written back. -/
def rt2800ConfigFilter (regs : Nat → BitVec 32) : Nat → BitVec 32 :=
  Function.update regs hd.rxFilterCfg
    ((rxFilterSets hd filterFlags).foldl
      (fun reg p => (Rt2x00Field.bit (hd.offset p.1)).set reg p.2) (regs hd.rxFilterCfg))

/-- The filter a capture tool wants: frames for another station or another BSS, broadcasts,
duplicates and block acks are never dropped, frames with a bad protocol version always are,
and every other kind is dropped exactly when mac80211 does not ask for it. -/
def rxFilterPolicy : RxFilterDrop → Bool
  | .notToMe | .notMyBssd | .broadcast | .duplicate | .ba => false
  | .verError => true
  | .crcError => decide (filterFlags &&& hd.fifFcsfail = 0)
  | .phyError => decide (filterFlags &&& hd.fifPlcpfail = 0)
  | .multicast => decide (filterFlags &&& hd.fifAllmulti = 0)
  | .pspoll => decide (filterFlags &&& hd.fifPspoll = 0)
  | .cfEndAck | .cfEnd | .ack | .cts | .rts | .bar | .cntl =>
    decide (filterFlags &&& hd.fifControl = 0)

end Filter

/-- One-bit fields set one after another: each bit holds the low bit of the last value set
into it, and the bits no field names are as they were. -/
theorem getLsbD_foldl_set_bit {α : Type} (off : α → Nat) (hlt : ∀ a, off a < 32)
    (l : List (α × BitVec 32)) (reg : BitVec 32) (j : Nat) :
    (l.foldl (fun reg p => (Rt2x00Field.bit (off p.1)).set reg p.2) reg).getLsbD j =
      match l.reverse.find? (fun p => off p.1 = j) with
      | some p => p.2.getLsbD 0
      | none => reg.getLsbD j := by
  induction l generalizing reg with
  | nil => rfl
  | cons p l ih =>
    rw [List.foldl_cons, ih, List.reverse_cons, List.find?_append]
    cases List.find? (fun p => decide (off p.1 = j)) l.reverse with
    | none =>
      rw [Rt2x00Field.getLsbD_set_bit (hlt p.1)]
      by_cases hj : j = off p.1
      · simp [hj]
      · simp [hj, Ne.symm hj]
    | some q => rfl

/-- The drop bits `rt2800_config_filter` writes are those of the capture policy, whatever
`RX_FILTER_CFG` held. -/
theorem getLsbD_rt2800ConfigFilter (hd : FilterHeader) (filterFlags : BitVec 32)
    (regs : Nat → BitVec 32) (d : RxFilterDrop) :
    (rt2800ConfigFilter hd filterFlags regs hd.rxFilterCfg).getLsbD (hd.offset d) =
      rxFilterPolicy hd filterFlags d := by
  rw [rt2800ConfigFilter, Function.update_same, getLsbD_foldl_set_bit _ hd.lt]
  simp only [hd.injective.eq_iff, rxFilterSets, List.reverse_cons, List.reverse_nil,
    List.nil_append, List.cons_append, List.find?_cons]
  cases d <;> simp only [reduceCtorEq, decide_True, decide_False, notPassed,
    truthValue_getLsbD_zero, rxFilterPolicy] <;> rfl

theorem and_eq_zero_of_and_not {a b x : BitVec 32} (hab : a &&& ~~~b = 0) (hb : b &&& x = 0) :
    a &&& x = 0 := by
  ext i
  have h1 := congrArg (·.getLsbD i) hab
  have h2 := congrArg (·.getLsbD i) hb
  simp only [BitVec.getLsbD_and, BitVec.getLsbD_not, BitVec.getLsbD_zero, i.isLt,
    decide_True, Bool.true_and] at h1 h2 ⊢
  revert h1 h2
  cases a.getLsbD i <;> cases b.getLsbD i <;> cases x.getLsbD i <;> simp

theorem rxFilterPolicy_mono (hd : FilterHeader) {filterFlags filterFlags' : BitVec 32}
    (hsub : filterFlags &&& ~~~filterFlags' = 0) (d : RxFilterDrop)
    (h : rxFilterPolicy hd filterFlags' d = true) : rxFilterPolicy hd filterFlags d = true := by
  cases d <;> simp only [rxFilterPolicy, decide_eq_true_eq] at h ⊢ <;>
    first | trivial | exact and_eq_zero_of_and_not hsub h

/-- Whatever filter flags mac80211 passes and whatever the registers held,
`rt2800_config_filter` never drops a frame for another station or another BSS, a broadcast, a
duplicate or a block ack; passing more `FIF_*` flags never drops a kind of frame that fewer
flags let through, whatever either call found in `RX_FILTER_CFG`; and it changes no bit of
the register that is not a drop bit, and no other register. -/
theorem rt2800ConfigFilter_capture (hd : FilterHeader) (filterFlags filterFlags' : BitVec 32)
    (hsub : filterFlags &&& ~~~filterFlags' = 0) (regs regs' : Nat → BitVec 32) :
    (∀ d ∈ [RxFilterDrop.notToMe, .notMyBssd, .broadcast, .duplicate, .ba],
      (rt2800ConfigFilter hd filterFlags regs hd.rxFilterCfg).getLsbD (hd.offset d) = false) ∧
    (∀ d, (rt2800ConfigFilter hd filterFlags' regs' hd.rxFilterCfg).getLsbD (hd.offset d) →
      (rt2800ConfigFilter hd filterFlags regs hd.rxFilterCfg).getLsbD (hd.offset d)) ∧
    (∀ j, (∀ d, hd.offset d ≠ j) →
      (rt2800ConfigFilter hd filterFlags regs hd.rxFilterCfg).getLsbD j =
        (regs hd.rxFilterCfg).getLsbD j) ∧
    ∀ r ≠ hd.rxFilterCfg, rt2800ConfigFilter hd filterFlags regs r = regs r := by
  refine ⟨fun d hd' => ?_, fun d h => ?_, fun j hj => ?_, fun r hr => Function.update_noteq hr _ _⟩
  · rw [getLsbD_rt2800ConfigFilter]
    simp only [List.mem_cons, List.mem_singleton, List.not_mem_nil, or_false] at hd'
    rcases hd' with rfl | rfl | rfl | rfl | rfl <;> rfl
  · rw [getLsbD_rt2800ConfigFilter] at h ⊢
    exact rxFilterPolicy_mono hd hsub d h
  · rw [rt2800ConfigFilter, Function.update_same, getLsbD_foldl_set_bit _ hd.lt,
      List.find?_eq_none.mpr (fun p _ => by simpa using hj p.1)]

def filterHeader : FilterHeader where
  rxFilterCfg := 0x1400
  offset d := d.toCtorIdx
  lt := by decide
  injective := by decide
  fifFcsfail := 0x4
  fifPlcpfail := 0x8
  fifAllmulti := 0x2
  fifControl := 0x20
  fifPspoll := 0x80

theorem rt2800ConfigFilter_capture_promisc :
    (0 : BitVec 32) &&& ~~~filterHeader.fifControl = 0 ∧
    (∀ d ∈ [RxFilterDrop.notToMe, .notMyBssd, .broadcast, .duplicate, .ba],
      (rt2800ConfigFilter filterHeader 0 (fun _ => 0) filterHeader.rxFilterCfg).getLsbD
        (filterHeader.offset d) = false) ∧
    (∀ d, (rt2800ConfigFilter filterHeader filterHeader.fifControl (fun _ => 0xffffffff)
        filterHeader.rxFilterCfg).getLsbD (filterHeader.offset d) →
      (rt2800ConfigFilter filterHeader 0 (fun _ => 0) filterHeader.rxFilterCfg).getLsbD
        (filterHeader.offset d)) ∧
    (∀ j, (∀ d, filterHeader.offset d ≠ j) →
      (rt2800ConfigFilter filterHeader 0 (fun _ => 0) filterHeader.rxFilterCfg).getLsbD j =
        ((fun _ => 0 : Nat → BitVec 32) filterHeader.rxFilterCfg).getLsbD j) ∧
    ∀ r ≠ filterHeader.rxFilterCfg,
      rt2800ConfigFilter filterHeader 0 (fun _ => 0) r = (fun _ => 0 : Nat → BitVec 32) r :=
  ⟨by decide, rt2800ConfigFilter_capture filterHeader 0 filterHeader.fifControl (by decide)
    (fun _ => 0) (fun _ => 0xffffffff)⟩

end WifiCoconut
