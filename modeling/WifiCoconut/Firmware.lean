import WifiCoconut.Chip
import WifiCoconut.Field
import Mathlib.Tactic.Ring

/-!
# Firmware validation

`rt2800_check_firmware` gates the image length on the chip's chunk size (4 KiB on USB and
RT3290, 8 KiB otherwise), rejects a single-chunk image on the USB chips that need an upper
one, and checks the trailing CRC of every chunk. `crc_ccitt` and its table are not among the
sources: the table is a parameter and the body the byte-wise fold the spec describes. On
every nonempty image the code agrees with the spec's chunk-by-chunk validator
(`rt2800CheckFirmware_eq_reference`); the empty image passes the gate and is reported `fwOk`.
-/

namespace WifiCoconut

inductive FirmwareErrors
  | fwOk | fwBadCrc | fwBadLength | fwBadVersion
  deriving DecidableEq, Repr

def crcCcittByte (table : Nat → BitVec 16) (crc : BitVec 16) (c : BitVec 8) : BitVec 16 :=
  (crc >>> 8) ^^^ table ((crc ^^^ c.setWidth 16) &&& 0xff).toNat

/-- Modelled from the spec: `crc_ccitt` is declared in crc_ccit.h and defined outside the
sources; it folds `crc_ccitt_byte` over the first `len` bytes of the buffer. -/
def crcCcitt (table : Nat → BitVec 16) (crc : BitVec 16) (buffer : List (BitVec 8))
    (len : Nat) : BitVec 16 :=
  (buffer.take len).foldl (crcCcittByte table) crc

/-- Modelled from the spec: `swab16` of the kernel headers, the byte swap. -/
def swab16 (x : BitVec 16) : BitVec 16 := (x <<< 8) ||| (x >>> 8)

/-- `rt2800_check_firmware_crc`: the last two of the `len` bytes at `data`, read big-endian,
against the byte-swapped CRC of the bytes before them. -/
def rt2800CheckFirmwareCrc (table : Nat → BitVec 16) (data : List (BitVec 8)) (len : Nat) :
    Bool :=
  let fwCrc : BitVec 16 :=
    ((data.getD (len - 2) 0).setWidth 16 <<< 8) ||| (data.getD (len - 1) 0).setWidth 16
  let crc := swab16 (crcCcitt table (~~~0) data (len - 2))
  fwCrc == crc

def fwLenOf (c : Chip) : Nat := if c.isUsb || c.isRt .rt3290 then 4096 else 8192

theorem fwLenOf_pos (c : Chip) : 0 < fwLenOf c := by
  unfold fwLenOf; split <;> decide

/-- The CRC loop of `rt2800_check_firmware`: chunks at `offset`, `offset + fwLen`, … below
the length of `data`. -/
def checkFirmwareLoop (table : Nat → BitVec 16) (data : List (BitVec 8)) (fwLen : Nat)
    (hfw : 0 < fwLen) (offset : Nat) : FirmwareErrors :=
  if offset < data.length then
    if !rt2800CheckFirmwareCrc table (data.drop offset) fwLen then .fwBadCrc
    else checkFirmwareLoop table data fwLen hfw (offset + fwLen)
  else .fwOk
termination_by data.length - offset

def rt2800CheckFirmware (table : Nat → BitVec 16) (c : Chip) (data : List (BitVec 8)) :
    FirmwareErrors :=
  let len := data.length
  let fwLen := fwLenOf c
  let multiple := true
  if len ≠ fwLen ∧ (!multiple || len % fwLen ≠ 0) then .fwBadLength
  else if c.isUsb ∧ ¬ c.isRt .rt2860 ∧ ¬ c.isRt .rt2872 ∧ ¬ c.isRt .rt3070 ∧
      len / fwLen = 1 then
    .fwBadVersion
  else checkFirmwareLoop table data fwLen (fwLenOf_pos c) 0

/-- A chunk in the words of the spec: its last two bytes, read big-endian, equal `swab16` of
the CRC-CCITT (initial value 0xFFFF) of its other bytes. -/
def chunkValid (table : Nat → BitVec 16) (chunk : List (BitVec 8)) : Bool :=
  let n := chunk.length
  (chunk.getD (n - 2) 0 ++ chunk.getD (n - 1) 0) ==
    swab16 ((chunk.take (n - 2)).foldl (crcCcittByte table) 0xFFFF)

/-- The validator in the words of the spec: a positive multiple of the chunk size, one
image only where the USB chip needs an upper one, then every chunk valid. -/
def referenceValidator (table : Nat → BitVec 16) (c : Chip) (data : List (BitVec 8)) :
    FirmwareErrors :=
  let len := data.length
  let fwLen := fwLenOf c
  if ¬ (0 < len ∧ len % fwLen = 0) then .fwBadLength
  else if c.isUsb ∧ ¬ c.isRt .rt2860 ∧ ¬ c.isRt .rt2872 ∧ ¬ c.isRt .rt3070 ∧
      len / fwLen = 1 then
    .fwBadVersion
  else if (List.range (len / fwLen)).all fun k =>
      chunkValid table ((data.drop (k * fwLen)).take fwLen) then .fwOk
  else .fwBadCrc

theorem append_eq_shift_or (hi lo : BitVec 8) :
    hi ++ lo = (hi.setWidth 16 <<< 8) ||| lo.setWidth 16 := by
  ext ⟨i, hi16⟩
  have h16 : i < 16 := hi16
  simp only [BitVec.getLsbD_append, BitVec.getLsbD_or, BitVec.getLsbD_shiftLeft,
    BitVec.getLsbD_setWidth]
  by_cases h : i < 8
  · simp [h, h16]
  · simp [h, h16, BitVec.getLsbD_ge lo i (by omega), show i - 8 < 16 by omega]

theorem getD_take_of_lt (l : List (BitVec 8)) {n i : Nat} (h : i < n) :
    (l.take n).getD i 0 = l.getD i 0 := by
  simp [List.getD_eq_getElem?_getD, List.getElem?_take_of_lt h]

/-- On a buffer that holds the whole chunk, the code's CRC check reads only the chunk, and it
is the spec's chunk check. -/
theorem rt2800CheckFirmwareCrc_eq_chunkValid (table : Nat → BitVec 16) (l : List (BitVec 8))
    (n : Nat) (hn : 0 < n) (hl : n ≤ l.length) :
    rt2800CheckFirmwareCrc table l n = chunkValid table (l.take n) := by
  have hlen : (l.take n).length = n := List.length_take_of_le hl
  simp only [rt2800CheckFirmwareCrc, chunkValid, crcCcitt, hlen, List.take_take,
    getD_take_of_lt l (show n - 2 < n by omega), getD_take_of_lt l (show n - 1 < n by omega),
    append_eq_shift_or, Nat.min_eq_left (Nat.sub_le n 2)]
  rfl

/-- The CRC loop over an image of `n` whole chunks, from chunk `k` on, checks the chunks
`k, …, n - 1` in order. -/
theorem checkFirmwareLoop_eq (table : Nat → BitVec 16) (data : List (BitVec 8)) (fwLen : Nat)
    (hfw : 0 < fwLen) (n : Nat) (hn : data.length = n * fwLen) (m : Nat) :
    ∀ k, k + m = n → checkFirmwareLoop table data fwLen hfw (k * fwLen) =
      if (List.range' k m).all fun j => chunkValid table ((data.drop (j * fwLen)).take fwLen)
      then .fwOk else .fwBadCrc := by
  induction m with
  | zero =>
    intro k hk
    rw [checkFirmwareLoop]
    simp [hn, ← hk]
  | succ m ih =>
    intro k hk
    have hstep : (k + (m + 1)) * fwLen = k * fwLen + fwLen + m * fwLen := by ring
    have hlt : k * fwLen < data.length := by rw [hn, ← hk, hstep]; omega
    have hchunk : fwLen ≤ (data.drop (k * fwLen)).length := by
      rw [List.length_drop, hn, ← hk, hstep]; omega
    rw [checkFirmwareLoop, if_pos hlt,
      rt2800CheckFirmwareCrc_eq_chunkValid table _ fwLen hfw hchunk,
      show k * fwLen + fwLen = (k + 1) * fwLen by ring, ih (k + 1) (by omega),
      List.range'_succ, List.all_cons]
    cases chunkValid table ((data.drop (k * fwLen)).take fwLen) <;> rfl

/-- On every nonempty image the code's validator is the spec's. -/
theorem rt2800CheckFirmware_eq_reference (table : Nat → BitVec 16) (c : Chip)
    (data : List (BitVec 8)) (hne : data ≠ []) :
    rt2800CheckFirmware table c data = referenceValidator table c data := by
  have hpos : 0 < data.length := List.length_pos.mpr hne
  have hfw := fwLenOf_pos c
  unfold rt2800CheckFirmware referenceValidator
  by_cases hmod : data.length % fwLenOf c = 0
  · have hlen : data.length = data.length / fwLenOf c * fwLenOf c :=
      (Nat.div_mul_cancel (Nat.dvd_of_mod_eq_zero hmod)).symm
    have hloop := checkFirmwareLoop_eq table data (fwLenOf c) hfw _ hlen _ 0 (Nat.zero_add _)
    rw [Nat.zero_mul] at hloop
    simp [hmod, hpos, hloop, List.range_eq_range']
  · have hne : data.length ≠ fwLenOf c := fun h => hmod (by simp [h])
    simp [hmod, hne]

theorem rt2800CheckFirmware_eq_reference_one_byte :
    [0#8] ≠ [] ∧ rt2800CheckFirmware (fun _ => 0) ⟨.rt2860, 0, 0, .usb⟩ [0#8] =
      referenceValidator (fun _ => 0) ⟨.rt2860, 0, 0, .usb⟩ [0#8] :=
  ⟨by simp, rt2800CheckFirmware_eq_reference _ _ _ (by simp)⟩

/-- The empty image passes the length gate and is reported valid. -/
theorem rt2800CheckFirmware_nil (table : Nat → BitVec 16) (c : Chip) :
    rt2800CheckFirmware table c [] = .fwOk ∧ referenceValidator table c [] = .fwBadLength := by
  constructor
  · simp [rt2800CheckFirmware, checkFirmwareLoop, fwLenOf_pos c]
  · simp [referenceValidator]

/-! ## The bytes the check reads -/

def checkFirmwareCrcReads (offset len : Nat) : List Nat :=
  [offset + (len - 2), offset + (len - 1)] ++ (List.range (len - 2)).map (offset + ·)

/-- The CRC loop of `rt2800_check_firmware` with the offsets it hands to
`rt2800_check_firmware_crc`, in order, beside its verdict. -/
def checkFirmwareLoopTrace (table : Nat → BitVec 16) (data : List (BitVec 8)) (fwLen : Nat)
    (hfw : 0 < fwLen) (offset : Nat) : FirmwareErrors × List Nat :=
  if offset < data.length then
    if !rt2800CheckFirmwareCrc table (data.drop offset) fwLen then (.fwBadCrc, [offset])
    else
      let r := checkFirmwareLoopTrace table data fwLen hfw (offset + fwLen)
      (r.1, offset :: r.2)
  else (.fwOk, [])
termination_by data.length - offset

def rt2800CheckFirmwareTrace (table : Nat → BitVec 16) (c : Chip) (data : List (BitVec 8)) :
    FirmwareErrors × List Nat :=
  let len := data.length
  let fwLen := fwLenOf c
  let multiple := true
  if len ≠ fwLen ∧ (!multiple || len % fwLen ≠ 0) then (.fwBadLength, [])
  else if c.isUsb ∧ ¬ c.isRt .rt2860 ∧ ¬ c.isRt .rt2872 ∧ ¬ c.isRt .rt3070 ∧
      len / fwLen = 1 then
    (.fwBadVersion, [])
  else checkFirmwareLoopTrace table data fwLen (fwLenOf_pos c) 0

def rt2800CheckFirmwareReads (table : Nat → BitVec 16) (c : Chip) (data : List (BitVec 8)) :
    List Nat :=
  (rt2800CheckFirmwareTrace table c data).2.flatMap fun offset =>
    checkFirmwareCrcReads offset (fwLenOf c)

theorem add_le_of_mod_eq_zero {offset len fwLen : Nat} (ho : offset % fwLen = 0)
    (hl : len % fwLen = 0) (h : offset < len) : offset + fwLen ≤ len := by
  obtain ⟨a, rfl⟩ := Nat.dvd_of_mod_eq_zero ho
  obtain ⟨b, rfl⟩ := Nat.dvd_of_mod_eq_zero hl
  have hab : a < b := lt_of_not_le fun hba => absurd h (not_lt.mpr (Nat.mul_le_mul_left _ hba))
  calc fwLen * a + fwLen = fwLen * (a + 1) := by ring
    _ ≤ fwLen * b := Nat.mul_le_mul_left _ hab

theorem checkFirmwareLoopTrace_offsets (table : Nat → BitVec 16) (data : List (BitVec 8))
    (fwLen : Nat) (hfw : 0 < fwLen) (hlen : data.length % fwLen = 0) (offset : Nat)
    (ho : offset % fwLen = 0) :
    ∀ o ∈ (checkFirmwareLoopTrace table data fwLen hfw offset).2,
      o % fwLen = 0 ∧ o + fwLen ≤ data.length := by
  induction offset using checkFirmwareLoop.induct table data fwLen hfw with
  | case1 offset hlt hbad =>
    rw [checkFirmwareLoopTrace, if_pos hlt, if_pos hbad]
    simpa using ⟨ho, add_le_of_mod_eq_zero ho hlen hlt⟩
  | case2 offset hlt hok ih =>
    rw [checkFirmwareLoopTrace, if_pos hlt, if_neg hok]
    exact List.forall_mem_cons.mpr ⟨⟨ho, add_le_of_mod_eq_zero ho hlen hlt⟩,
      ih (by rw [Nat.add_mod_right, ho])⟩
  | case3 offset hge =>
    rw [checkFirmwareLoopTrace, if_neg hge]
    exact fun _ h => absurd h (List.not_mem_nil _)

theorem checkFirmwareCrcReads_lt {offset len i : Nat} (hlen : 2 ≤ len)
    (hi : i ∈ checkFirmwareCrcReads offset len) : i < offset + len := by
  simp only [checkFirmwareCrcReads, List.mem_append, List.mem_cons, List.mem_map,
    List.mem_range, List.not_mem_nil, or_false] at hi
  omega

/-- For every device identity and every image, the check's CRC loop runs only past the length
gate, over chunk offsets that are multiples of the chunk size with the whole chunk inside the
image, and every byte it reads lies in the image. -/
theorem rt2800CheckFirmware_reads_in_bounds (table : Nat → BitVec 16) (c : Chip)
    (data : List (BitVec 8)) :
    (∀ offset ∈ (rt2800CheckFirmwareTrace table c data).2,
      offset % fwLenOf c = 0 ∧ offset + fwLenOf c ≤ data.length) ∧
    ∀ i ∈ rt2800CheckFirmwareReads table c data, i < data.length := by
  have hoffsets : ∀ offset ∈ (rt2800CheckFirmwareTrace table c data).2,
      offset % fwLenOf c = 0 ∧ offset + fwLenOf c ≤ data.length := by
    dsimp only [rt2800CheckFirmwareTrace]
    split_ifs with hgate hver
    · simp
    · simp
    · have hlen : data.length % fwLenOf c = 0 := by
        by_cases h : data.length = fwLenOf c
        · simp [h]
        · simpa [h] using hgate
      exact checkFirmwareLoopTrace_offsets table data _ _ hlen 0 (Nat.zero_mod _)
  refine ⟨hoffsets, fun i hi => ?_⟩
  obtain ⟨offset, ho, hi⟩ := List.mem_flatMap.mp hi
  have h2 : 2 ≤ fwLenOf c := by unfold fwLenOf; split <;> decide
  exact lt_of_lt_of_le (checkFirmwareCrcReads_lt h2 hi) (hoffsets offset ho).2

end WifiCoconut
