import WifiCoconut.Field
import Mathlib.Data.Fin.VecNotation

/-!
# HT channel and protection configuration

On a channel change `rt2x00lib_config` programs the current channel's entry of the channel
table or, on HT40, the entry of the centre of the pair (`rt2x00ht_center_channel`), falling
back to the current entry with a warning when the table has none; that entry is always in the
table when the current one is (`rt2x00libConfigHwValue_spec`). `rt2800_config_ht_opmode` sets
the RTS/CTS protection of the four HT modes from the operation mode the access point
announces; its `switch` has no `default`, and the bits and values of ieee80211.h are
parameters (`HtOpModeBits`).
-/

namespace WifiCoconut

/-! ## The centre channel -/

/-- The secondary channel of the configuration: `conf_is_ht40_plus`, `conf_is_ht40_minus`,
or no HT40. -/
inductive Ht40
  | none
  | plus
  | minus
  deriving DecidableEq, Repr

/-- The channel number the centre of the pair has: `center_channel` after the adjustment.
`channels` holds the channel number of each entry of `spec->channels`. -/
def centerChannel (channels : List Nat) (hwValue : Nat) : Ht40 → Int
  | .none => channels.getD hwValue 0
  | .plus => channels.getD hwValue 0 + 2
  | .minus =>
    let c : Int := channels.getD hwValue 0
    c - (if c = 14 then 1 else 2)

def centerSearch (center : Int) : List Nat → Nat → Option Nat
  | [], _ => none
  | ch :: chs, i => if (ch : Int) = center then some i else centerSearch center chs (i + 1)

/-- `rt2x00ht_center_channel`: the entry of the centre channel, or the current entry after
`WARN_ON(1)`. -/
def rt2x00htCenterChannel (channels : List Nat) (hwValue : Nat) (ht40 : Ht40) : Nat :=
  match centerSearch (centerChannel channels hwValue ht40) channels 0 with
  | some i => i
  | none => hwValue

def rt2x00libConfigHwValue (channels : List Nat) (hwValue : Nat) (ht40 : Ht40) : Nat :=
  if ht40 = .none then hwValue else rt2x00htCenterChannel channels hwValue ht40

/-- The search finds the first entry from `i` on with the channel, or reports that none has
it. -/
theorem centerSearch_spec (center : Int) (l : List Nat) (i : Nat) :
    match centerSearch center l i with
    | some j => i ≤ j ∧ j < i + l.length ∧ (l.getD (j - i) 0 : Int) = center ∧
        ∀ k < j - i, (l.getD k 0 : Int) ≠ center
    | none => ∀ k < l.length, (l.getD k 0 : Int) ≠ center := by
  induction l generalizing i with
  | nil => simp [centerSearch]
  | cons ch chs ih =>
    by_cases h : (ch : Int) = center
    · simp [centerSearch, h]
    · have ih := ih (i + 1)
      simp only [centerSearch, if_neg h]
      rcases hs : centerSearch center chs (i + 1) with _ | j
      · simp only [hs] at ih
        intro k hk
        cases k with
        | zero => simpa using h
        | succ k => simpa using ih k (by simpa using hk)
      · simp only [hs] at ih
        obtain ⟨h1, h2, h3, h4⟩ := ih
        refine ⟨by omega, by simp; omega, ?_, ?_⟩
        · rw [show j - i = (j - (i + 1)) + 1 by omega]; simpa using h3
        · intro k hk
          cases k with
          | zero => simpa using h
          | succ k => simpa using h4 k (by omega)

/-- The entry `rt2x00lib_config` programs is in the table whenever the current entry is:
it is the current entry without HT40; with HT40 it is the first entry of the centre channel,
or the current entry when the table has none. -/
theorem rt2x00libConfigHwValue_spec (channels : List Nat) {hwValue : Nat}
    (h : hwValue < channels.length) (ht40 : Ht40) :
    let i := rt2x00libConfigHwValue channels hwValue ht40
    let center := centerChannel channels hwValue ht40
    i < channels.length ∧
      (i = hwValue ∧ (ht40 = .none ∨ ∀ k < channels.length, (channels.getD k 0 : Int) ≠ center) ∨
        (channels.getD i 0 : Int) = center ∧ ∀ k < i, (channels.getD k 0 : Int) ≠ center) := by
  intro i center
  have hs := centerSearch_spec center channels 0
  simp only [i, rt2x00libConfigHwValue, rt2x00htCenterChannel]
  split
  · exact ⟨h, .inl ⟨rfl, .inl ‹_›⟩⟩
  · rcases hc : centerSearch center channels 0 with _ | j
    · simp only [hc] at hs ⊢
      exact ⟨h, .inl ⟨trivial, .inr hs⟩⟩
    · simp only [hc] at hs ⊢
      obtain ⟨-, h2, h3, h4⟩ := hs
      exact ⟨by omega, .inr ⟨by simpa using h3, by simpa using h4⟩⟩

def bgChannels : List Nat := List.range' 1 14

theorem rt2x00libConfigHwValue_spec_ht40plus :
    1 < bgChannels.length ∧
      let i := rt2x00libConfigHwValue bgChannels 1 .plus
      let center := centerChannel bgChannels 1 .plus
      i < bgChannels.length ∧
        (i = 1 ∧ (Ht40.plus = .none ∨
            ∀ k < bgChannels.length, (bgChannels.getD k 0 : Int) ≠ center) ∨
          (bgChannels.getD i 0 : Int) = center ∧ ∀ k < i, (bgChannels.getD k 0 : Int) ≠ center) :=
  ⟨by decide, @rt2x00libConfigHwValue_spec _ 1 (by decide) _⟩

/-! ## HT protection -/

/-- The bits of `ht_opmode` the code tests, from ieee80211.h:
`IEEE80211_HT_OP_MODE_NON_GF_STA_PRSNT`, the field `IEEE80211_HT_OP_MODE_PROTECTION` and its
four values. -/
structure HtOpModeBits where
  nonGfStaPrsnt : BitVec 16
  protection : BitVec 16
  protectionNone : Nat
  protectionNonmember : Nat
  protection20Mhz : Nat
  protectionNonhtMixed : Nat

/-- The protection of the four HT modes: the `PROTECT_CTRL` mode and the `PROTECT_RATE` rate
of `MM20_PROT_CFG`, `MM40_PROT_CFG`, `GF20_PROT_CFG` and `GF40_PROT_CFG`. -/
structure HtProtection where
  mm20Mode : Nat
  mm40Mode : Nat
  gf20Mode : Nat
  gf40Mode : Nat
  mm20Rate : BitVec 16
  mm40Rate : BitVec 16
  gf20Rate : BitVec 16
  gf40Rate : BitVec 16
  deriving DecidableEq, Repr

/-- The protection `rt2800_config_ht_opmode` computes; `none` when its `switch` takes no case,
so that the four modes would be read unassigned. The rates start as OFDM 24M (0x4004) at
20 MHz and its duplicate (0x4084) at 40 MHz. -/
def rt2800HtProtection (b : HtOpModeBits) (htOpmode : BitVec 16) (ctsProtection : Bool) :
    Option HtProtection :=
  let anyStaNongf := htOpmode &&& b.nonGfStaPrsnt != 0
  let protection := ((htOpmode &&& b.protection).setWidth 8).toNat
  let ofdm : HtProtection := ⟨0, 0, 0, 0, 0x4004, 0x4084, 0x4004, 0x4084⟩
  let p : Option HtProtection :=
    if protection = b.protectionNone then some ofdm
    else if protection = b.protection20Mhz then
      some { ofdm with mm40Mode := 1, gf40Mode := 1 }
    else if protection = b.protectionNonmember ∨ protection = b.protectionNonhtMixed then
      let p := { ofdm with mm20Mode := 1, mm40Mode := 1, gf20Mode := 1, gf40Mode := 1 }
      if ctsProtection then
        some { p with
          mm20Rate := 0x0003, mm40Rate := 0x0003, gf20Rate := 0x0003, gf40Rate := 0x0003 }
      else some p
    else none
  p.map fun p => if anyStaNongf then { p with gf20Mode := 1, gf40Mode := 1 } else p

structure ProtCfgFields where
  protectRate : Rt2x00Field 32
  protectCtrl : Rt2x00Field 32

def protCfgWrite (f : ProtCfgFields) (reg : BitVec 32) (rate : BitVec 16) (mode : Nat) :
    BitVec 32 :=
  f.protectCtrl.set (f.protectRate.set reg (rate.setWidth 32)) (BitVec.ofNat 32 mode)

/-- `rt2800_config_ht_opmode` on the words `MM20_PROT_CFG`, `MM40_PROT_CFG`, `GF20_PROT_CFG`
and `GF40_PROT_CFG` read, with the fields of each: the four words written. -/
def rt2800ConfigHtOpmode (b : HtOpModeBits) (f : Fin 4 → ProtCfgFields)
    (regs : Fin 4 → BitVec 32) (htOpmode : BitVec 16) (ctsProtection : Bool) :
    Option (Fin 4 → BitVec 32) :=
  (rt2800HtProtection b htOpmode ctsProtection).map fun p =>
    ![protCfgWrite (f 0) (regs 0) p.mm20Rate p.mm20Mode,
      protCfgWrite (f 1) (regs 1) p.mm40Rate p.mm40Mode,
      protCfgWrite (f 2) (regs 2) p.gf20Rate p.gf20Mode,
      protCfgWrite (f 3) (regs 3) p.gf40Rate p.gf40Mode]

/-- With the protection field the two low bits and its four values the four values of two
bits, every operation mode assigns the four modes. Each is 0 or 1; greenfield is protected
whenever mixed mode is and 40 MHz whenever 20 MHz is; greenfield always when a station
without greenfield support is present; and the rates are CCK only under ERP protection. -/
theorem rt2800HtProtection_spec (b : HtOpModeBits) (hmask : b.protection = 3)
    (hvals : ∀ k < 4, k ∈ [b.protectionNone, b.protectionNonmember, b.protection20Mhz,
      b.protectionNonhtMixed]) (htOpmode : BitVec 16) (ctsProtection : Bool) :
    ∃ p, rt2800HtProtection b htOpmode ctsProtection = some p ∧
      p.mm20Mode ≤ 1 ∧ p.mm40Mode ≤ 1 ∧ p.gf20Mode ≤ 1 ∧ p.gf40Mode ≤ 1 ∧
      p.mm20Mode ≤ p.gf20Mode ∧ p.mm40Mode ≤ p.gf40Mode ∧
      p.mm20Mode ≤ p.mm40Mode ∧ p.gf20Mode ≤ p.gf40Mode ∧
      (htOpmode &&& b.nonGfStaPrsnt ≠ 0 → p.gf20Mode = 1 ∧ p.gf40Mode = 1) ∧
      (p.mm20Rate = 0x0003 ∨ p.mm40Rate = 0x0003 ∨ p.gf20Rate = 0x0003 ∨ p.gf40Rate = 0x0003 →
        ctsProtection = true) := by
  have hk : ((htOpmode &&& b.protection).setWidth 8).toNat < 4 := by
    have h3 : (3 : BitVec 16).toNat = 3 := rfl
    have := Nat.and_le_right (n := htOpmode.toNat) (m := 3)
    rw [hmask, BitVec.toNat_setWidth, BitVec.toNat_and, h3]
    omega
  have hmem := hvals _ hk
  simp only [List.mem_cons, List.mem_singleton, List.not_mem_nil, or_false] at hmem
  unfold rt2800HtProtection
  dsimp only
  generalize ((htOpmode &&& b.protection).setWidth 8).toNat = k at hmem ⊢
  generalize htOpmode &&& b.nonGfStaPrsnt = g
  by_cases h0 : k = b.protectionNone
  · simp only [if_pos h0]
    refine ⟨_, rfl, ?_⟩
    by_cases hg : g = 0#16 <;> simp [hg]
  by_cases h2 : k = b.protection20Mhz
  · simp only [if_neg h0, if_pos h2]
    refine ⟨_, rfl, ?_⟩
    by_cases hg : g = 0#16 <;> simp [hg]
  have h13 : k = b.protectionNonmember ∨ k = b.protectionNonhtMixed := by omega
  simp only [if_neg h0, if_neg h2, if_pos h13]
  cases ctsProtection <;> refine ⟨_, rfl, ?_⟩ <;> by_cases hg : g = 0#16 <;> simp [hg]

def htOpModeBits : HtOpModeBits := ⟨0x0004, 0x0003, 0, 1, 2, 3⟩

end WifiCoconut
