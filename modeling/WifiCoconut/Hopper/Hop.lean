import Mathlib.Data.List.Basic
import Mathlib.Algebra.Group.Nat.Basic

/-!
# The hop loop of kismet_hopper

`main` dispatches on each source's card type: it checks the enable list, gives the source a
hop function, counts the sources that divide the channels and with `-d` gives each a start
offset. The hop loop calls each hopped source's function on `chanlist[chanpos]` and wraps
`chanpos` at the `-1` that ends the list. The model starts from the source lines' fields, which
the splitting loops produce on an ILP32 build only. From any state in which every hopped source
sits before its terminator, every run hops only to entries before it (`hopRun_safe`).
-/

namespace WifiCoconut

inductive CardType
  | cisco | ciscoBsd | ciscoCvs | drone | prism2 | prism2Legacy | prism2Bsd | prism2Hostap
  | prism2Avs | orinoco | ar5k | wsp100 | wtapfile
  deriving DecidableEq, Repr

def CardType.name : CardType → List Char
  | cisco => "cisco".toList
  | ciscoBsd => "cisco_bsd".toList
  | ciscoCvs => "cisco_cvs".toList
  | drone => "drone".toList
  | prism2 => "prism2".toList
  | prism2Legacy => "prism2_legacy".toList
  | prism2Bsd => "prism2_bsd".toList
  | prism2Hostap => "prism2_hostap".toList
  | prism2Avs => "prism2_avs".toList
  | orinoco => "orinoco".toList
  | ar5k => "ar5k".toList
  | wsp100 => "wsp100".toList
  | wtapfile => "wtapfile".toList

/-- The `cmd_template` each branch of the dispatch sets: the `#define`d command of the types
that hop, `NULL` for those that do not. -/
def CardType.cmdTemplate : CardType → Option (List Char)
  | prism2 => some "wlanctl-ng %s lnxreq_wlansniff channel=%d enable=true prismheader=true >/dev/null".toList
  | prism2Legacy => some "wlanctl-ng %s lnxreq_wlansniff channel=%d enable=true >/dev/null".toList
  | prism2Bsd => some "prism2ctl %s -f %d >/dev/null".toList
  | prism2Hostap => some "iwconfig %s channel %d >/dev/null".toList
  | prism2Avs => some ("wlanctl-ng %s lnxreq_wlansniff channel=%d prismheader=false " ++
      "wlanheader=true stripfcs=false keepwepflags=false enable=true >/dev/null").toList
  | orinoco => some "iwpriv %s monitor 1 %d >/dev/null".toList
  | ar5k => some "iwconfig %s channel %d >/dev/null".toList
  | cisco | ciscoBsd | ciscoCvs | drone | wsp100 | wtapfile => none

/-- Lower case in the C locale, as `strcasecmp` compares and as Kismet's `StrLower` (not
among the sources) keys `enable_name_map`. -/
def asciiLower (s : List Char) : List Char := s.map Char.toLower

/-- The text a `char *` holds, as a `std::string` built from it or `strcmp` reads it: the
characters before the first NUL. -/
def cString (s : List Char) : List Char := s.takeWhile (· != '\x00')

def cardTypeOf (type : List Char) : Option CardType :=
  [CardType.cisco, .ciscoBsd, .ciscoCvs, .drone, .prism2, .prism2Legacy, .prism2Bsd,
    .prism2Hostap, .prism2Avs, .orinoco, .ar5k, .wsp100, .wtapfile].find?
    fun t => asciiLower type == t.name

def usChannels : List Int := [1, 6, 11, 2, 7, 3, 8, 4, 9, 5, 10, -1]
def intlChannels : List Int := [1, 7, 13, 2, 8, 3, 14, 9, 4, 10, 5, 11, 6, 12, -1]
def us80211aChannels : List Int := [36, 40, 44, 48, 52, 56, 60, 64, -1]

/-- `parse_hopseq` on a sequence whose fields `sscanf` read as `chans`: the channels, then
the `-1` terminator. Any integer is accepted, `-1` included. -/
def parseHopseq (chans : List Int) : List Int := chans ++ [-1]

def terminatorIndex (l : List Int) : Nat := l.findIdx (· == -1)

/-- `while (chanlist[nchannels++] != -1) ;`: the count runs one past the terminator. -/
def nchannelsOf (l : List Int) : Nat := terminatorIndex l + 1

inductive HopFunc
  | defaulthopper | orinocohopper
  deriving DecidableEq, Repr

inductive ChanList
  | b | a
  deriving DecidableEq, Repr

structure CaptureSource where
  cardtype : List Char
  interface : List Char
  name : List Char
  chanlist : ChanList
  chanpos : Nat
  cmdTemplate : Option (List Char)
  func : Option HopFunc
  deriving DecidableEq, Repr

/-- The tokenized configuration `main` reads: each source line's three fields (on ILP32,
`tokenizeSources` of the split module gives them), the enable line, its fields, the two
command-line flags, the channel lists and `-d`. -/
structure HopperConfig where
  sources : List (List Char × List Char × List Char)
  namedSources : List Char
  enableFields : List (List Char)
  sourceFromCmd : Bool
  enableFromCmd : Bool
  bchanlist : List Int
  achanlist : List Int
  divide : Bool
  deriving DecidableEq, Repr

abbrev EnableMap := List (List Char × Bool)

def EnableMap.set (m : EnableMap) (key : List Char) (v : Bool) : EnableMap :=
  m.filter (·.1 != key) ++ [(key, v)]

def EnableMap.get (m : EnableMap) (key : List Char) : Option Bool :=
  (m.find? (·.1 == key)).map (·.2)

structure Dispatch where
  enableMap : EnableMap
  divisions : Nat
  adivisions : Nat
  sources : List CaptureSource
  deriving DecidableEq, Repr

def HopperConfig.initialEnableMap (cfg : HopperConfig) : EnableMap :=
  if (!cfg.sourceFromCmd || cfg.enableFromCmd) && cfg.namedSources ≠ [] then
    cfg.enableFields.foldl (fun m f => m.set (asciiLower f) false) []
  else []

def wspInterfaceBad (interface : List Char) : Bool :=
  interface.head? == none || interface.head? == some ':'

/-- The wsp100 branch's channel mask, `while (bchanlist[chind] != -1) chans |= (1 << chind++);`,
from index `chind` with mask `chans`: the final mask and the amounts `1` is shifted by, in
order; `none` if the loop reads past the array. The mask is kept exact: the C `chans` is a
32-bit `int`, in which a shift by 32 or more is undefined. -/
def wspChanMask : List Int → Nat → Nat → Option (Nat × List Nat)
  | [], _, _ => none
  | c :: rest, chind, chans =>
    if c = -1 then some (chans, [])
    else (wspChanMask rest (chind + 1) (chans ||| 1 <<< chind)).map fun r => (r.1, chind :: r.2)

/-- The mask the branch's comment asks for, "Convert the channels into a bitmap": bit `c - 1`
for each channel `c`. -/
def channelBitmap (chans : List Int) : Nat := chans.foldl (fun m c => m ||| 1 <<< (c - 1).toNat) 0

/-- One pass of the dispatch loop over `packet_sources`; `none` is an `exit`. `total` is
`packet_sources.size()`. The wsp100 branch's `source_input_vec.size() == 1` never holds: the
vector is cleared after the splitting loop. -/
def dispatchSource (cfg : HopperConfig) (total : Nat) (d : Dispatch) (cs : CaptureSource) :
    Option Dispatch :=
  if (!cfg.sourceFromCmd || cfg.enableFromCmd) &&
      (d.enableMap.get (asciiLower cs.name) == none && cfg.namedSources ≠ []) then
    some { d with sources := d.sources ++ [cs] }
  else
  let m := d.enableMap.set (asciiLower cs.name) true
  let cs := { cs with func := some .defaulthopper }
  let keep (divisions adivisions : Nat) (cs : CaptureSource) : Option Dispatch :=
    some ⟨m, divisions, adivisions, d.sources ++ [cs]⟩
  match cardTypeOf cs.cardtype with
  | none => none
  | some t =>
    let cs := { cs with cmdTemplate := t.cmdTemplate }
    match t with
    | .cisco | .ciscoBsd | .ciscoCvs | .drone | .wtapfile =>
      if total = 1 then none else keep d.divisions d.adivisions cs
    | .prism2 | .prism2Legacy | .prism2Bsd | .prism2Hostap | .prism2Avs =>
      keep (d.divisions + 1) d.adivisions cs
    | .orinoco => keep (d.divisions + 1) d.adivisions { cs with func := some .orinocohopper }
    | .ar5k => keep d.divisions (d.adivisions + 1) { cs with chanlist := .a }
    | .wsp100 => if wspInterfaceBad cs.interface then none else keep d.divisions d.adivisions cs

def newSource (line : List Char × List Char × List Char) : CaptureSource :=
  ⟨line.1, line.2.1, line.2.2, .b, 0, none, none⟩

/-- `chanpos = (nchannels / divisions) * enabledsrc` for each hopped source on `which`; `none`
is the division by zero when `divisions` is 0. -/
def divideOffsets (which : ChanList) (nchannels divisions : Nat) :
    Nat → List CaptureSource → Option (List CaptureSource)
  | _, [] => some []
  | k, cs :: rest =>
    if cs.func = none ∨ cs.chanlist ≠ which then
      (divideOffsets which nchannels divisions k rest).map (cs :: ·)
    else if divisions = 0 then none
    else (divideOffsets which nchannels divisions (k + 1) rest).map
      ({ cs with chanpos := nchannels / divisions * k } :: ·)

structure HopperState where
  bchanlist : List Int
  achanlist : List Int
  sources : List CaptureSource
  deriving DecidableEq, Repr

/-- The setup of `main` from the splitting loops to the hop loop; `none` is an `exit` or the
division by zero. The pid file and signal handlers are left out. -/
def hopperSetup (cfg : HopperConfig) : Option HopperState := do
  if cfg.sources = [] then none
  let total := cfg.sources.length
  let d ← (cfg.sources.map newSource).foldlM (dispatchSource cfg total)
    ⟨cfg.initialEnableMap, 0, 0, []⟩
  if d.enableMap = [] then none
  if d.enableMap.any (fun e => e.2 == false) then none
  let srcs ← if cfg.divide ∧ 1 < d.divisions then
      divideOffsets .b (nchannelsOf cfg.bchanlist) d.divisions 0 d.sources
    else some d.sources
  let srcs ← if cfg.divide ∧ 1 < d.adivisions then
      divideOffsets .a (nchannelsOf cfg.achanlist) d.divisions 0 srcs
    else some srcs
  some ⟨cfg.bchanlist, cfg.achanlist, srcs⟩

def HopperState.array (st : HopperState) : ChanList → List Int
  | .b => st.bchanlist
  | .a => st.achanlist

structure HopCall where
  src : Nat
  chanlist : ChanList
  chanpos : Nat
  channel : Int
  deriving DecidableEq, Repr

/-- One source's turn: the channel at `chanpos`, and the next position after `chanpos++` and
the `-1` test. A `none` is a read past the end of the array. -/
def hopTurn (l : List Int) (pos : Nat) : Option (Int × Option Nat) :=
  l[pos]?.map fun chan =>
    (chan, l[pos + 1]?.map fun next => if next = -1 then 0 else pos + 1)

def hopRound (st : HopperState) : List CaptureSource → Nat →
    List HopCall × Option (List CaptureSource)
  | [], _ => ([], some [])
  | cs :: rest, i =>
    if cs.func = none then
      let r := hopRound st rest (i + 1)
      (r.1, r.2.map (cs :: ·))
    else match hopTurn (st.array cs.chanlist) cs.chanpos with
      | none => ([], none)
      | some (chan, none) => ([⟨i, cs.chanlist, cs.chanpos, chan⟩], none)
      | some (chan, some pos) =>
        let r := hopRound st rest (i + 1)
        (⟨i, cs.chanlist, cs.chanpos, chan⟩ :: r.1, r.2.map ({ cs with chanpos := pos } :: ·))

def hopRun (st : HopperState) : Nat → List CaptureSource →
    List HopCall × Option (List CaptureSource)
  | 0, srcs => ([], some srcs)
  | n + 1, srcs =>
    let r := hopRound st srcs 0
    match r.2 with
    | none => (r.1, none)
    | some srcs' =>
      let r' := hopRun st n srcs'
      (r.1 ++ r'.1, r'.2)

/-! ## The hop loop stays before the terminators -/

def HopperState.SourceOk (st : HopperState) (cs : CaptureSource) : Prop :=
  cs.func = none ∨ (cs.chanpos < terminatorIndex (st.array cs.chanlist) ∧
    terminatorIndex (st.array cs.chanlist) < (st.array cs.chanlist).length)

def HopperState.CallOk (st : HopperState) (call : HopCall) : Prop :=
  call.chanpos < terminatorIndex (st.array call.chanlist)

theorem getElem_terminatorIndex {l : List Int} (ht : terminatorIndex l < l.length) :
    l[terminatorIndex l] = -1 := by
  simpa [terminatorIndex] using List.findIdx_getElem (w := ht)

theorem hopTurn_of_lt {l : List Int} {pos : Nat} (hpos : pos < terminatorIndex l)
    (ht : terminatorIndex l < l.length) :
    ∃ chan next, hopTurn l pos = some (chan, some next) ∧ next < terminatorIndex l := by
  have hp1 : pos + 1 < l.length := by omega
  refine ⟨l[pos], if l[pos + 1] = -1 then 0 else pos + 1, ?_, ?_⟩
  · simp [hopTurn, List.getElem?_eq_getElem hp1,
      List.getElem?_eq_getElem (by omega : pos < l.length)]
  · split_ifs with h
    · omega
    · have hne : pos + 1 ≠ terminatorIndex l := fun heq =>
        h (by simpa only [heq] using getElem_terminatorIndex ht)
      omega

theorem hopRound_safe (st : HopperState) (srcs : List CaptureSource) (i : Nat)
    (h : ∀ cs ∈ srcs, st.SourceOk cs) :
    ∃ srcs', (hopRound st srcs i).2 = some srcs' ∧ (∀ cs ∈ srcs', st.SourceOk cs) ∧
      ∀ call ∈ (hopRound st srcs i).1, st.CallOk call := by
  induction srcs generalizing i with
  | nil => exact ⟨[], rfl, by simp, by simp [hopRound]⟩
  | cons cs rest ih =>
    obtain ⟨srcs', hr, hok, hcalls⟩ := ih (i + 1) fun c hc => h c (List.mem_cons_of_mem _ hc)
    have hcs := h cs (List.mem_cons_self _ _)
    by_cases hf : cs.func = none
    · exact ⟨cs :: srcs', by simp [hopRound, hf, hr], List.forall_mem_cons.mpr ⟨hcs, hok⟩,
        by simpa [hopRound, hf] using hcalls⟩
    · obtain ⟨hpos, ht⟩ := hcs.resolve_left hf
      obtain ⟨chan, next, hturn, hnext⟩ := hopTurn_of_lt hpos ht
      refine ⟨{ cs with chanpos := next } :: srcs', by simp [hopRound, hf, hturn, hr], ?_, ?_⟩
      · exact List.forall_mem_cons.mpr ⟨.inr ⟨hnext, ht⟩, hok⟩
      · simp only [hopRound, hf, hturn, if_false, List.mem_cons]
        rintro call (rfl | hc)
        · exact hpos
        · exact hcalls call hc

/-- From any state in which every hopped source sits before its list's terminator, every
number of hop rounds runs without reading past an array, and every hop goes to an entry
before the terminator of the source's list. -/
theorem hopRun_safe (st : HopperState) (n : Nat) (srcs : List CaptureSource)
    (h : ∀ cs ∈ srcs, st.SourceOk cs) :
    (hopRun st n srcs).2.isSome ∧ ∀ call ∈ (hopRun st n srcs).1, st.CallOk call := by
  induction n generalizing srcs with
  | zero => simp [hopRun]
  | succ n ih =>
    obtain ⟨srcs', hr, hok, hcalls⟩ := hopRound_safe st srcs 0 h
    obtain ⟨ih1, ih2⟩ := ih srcs' hok
    simp only [hopRun, hr]
    refine ⟨ih1, fun call hc => ?_⟩
    rcases List.mem_append.mp hc with hc | hc
    · exact hcalls call hc
    · exact ih2 call hc

theorem hopRun_safe_us_channels :
    (∀ cs ∈ [⟨[], [], [], .b, 0, none, some .defaulthopper⟩],
      HopperState.SourceOk ⟨usChannels, us80211aChannels, []⟩ cs) ∧
    (hopRun ⟨usChannels, us80211aChannels, []⟩ 20
      [⟨[], [], [], .b, 0, none, some .defaulthopper⟩]).2.isSome ∧
    ∀ call ∈ (hopRun ⟨usChannels, us80211aChannels, []⟩ 20
      [⟨[], [], [], .b, 0, none, some .defaulthopper⟩]).1,
      HopperState.CallOk ⟨usChannels, us80211aChannels, []⟩ call := by
  have h : ∀ cs ∈ [(⟨[], [], [], .b, 0, none, some .defaulthopper⟩ : CaptureSource)],
      HopperState.SourceOk ⟨usChannels, us80211aChannels, []⟩ cs := by
    simp only [List.mem_singleton, forall_eq, HopperState.SourceOk]
    decide
  exact ⟨h, hopRun_safe _ 20 _ h⟩

/-- On an ILP32 build, whose splitting loops leave (on LP64 they never do,
`splitLoops_never_exit`): two prism2 sources dividing the custom sequence `-s 1` (the array
`{1, -1}`); the setup accepts them, gives the second the offset `2 / 2 * 1 = 1`, the
terminator, and the first round hops it to channel `-1` and then reads `chanlist[2]`, past
the end of the array. -/
theorem hopper_divide_starts_on_terminator :
    ∃ st, hopperSetup ⟨[("prism2".toList, "wlan0".toList, "a".toList),
        ("prism2".toList, "wlan1".toList, "b".toList)], [], [], true, false,
        parseHopseq [1], us80211aChannels, true⟩ = some st ∧
      st.sources.map (·.chanpos) = [0, 1] ∧ terminatorIndex st.bchanlist = 1 ∧
      hopRound st st.sources 0 = ([⟨0, .b, 0, 1⟩, ⟨1, .b, 1, -1⟩], none) :=
  ⟨_, rfl, rfl, rfl, rfl⟩

/-! ## The dispatch and the divide setup -/

/-- On an ILP32 build, whose splitting loops leave: a cisco source beside a prism2 one; the
setup accepts the pair and leaves the cisco source
with `defaulthopper` and a `NULL` template, and the first round of the hop loop calls it. -/
theorem hopper_hops_cisco_source :
    ∃ st, hopperSetup ⟨[("cisco".toList, "eth0".toList, "c".toList),
        ("prism2".toList, "wlan0".toList, "p".toList)], [], [], true, false,
        usChannels, us80211aChannels, false⟩ = some st ∧
      st.sources.map (fun cs => (cs.func, cs.cmdTemplate)) =
        [(some .defaulthopper, none), (some .defaulthopper, CardType.prism2.cmdTemplate)] ∧
      (hopRound st st.sources 0).1.map (·.src) = [0, 1] :=
  ⟨_, rfl, rfl, rfl⟩

/-- On an ILP32 build, whose splitting loops leave: two ar5k sources with `-d`; the dispatch
accepts them with `divisions = 0` and
`adivisions = 2`, every enabled name is found, and the 802.11a offsets then divide by
`divisions`, which is 0. -/
theorem hopper_divide_80211a_by_zero :
    let cfg : HopperConfig := ⟨[("ar5k".toList, "ath0".toList, "a".toList),
      ("ar5k".toList, "ath1".toList, "b".toList)], [], [], true, false, usChannels,
      us80211aChannels, true⟩
    ∃ d, (cfg.sources.map newSource).foldlM (dispatchSource cfg cfg.sources.length)
        ⟨cfg.initialEnableMap, 0, 0, []⟩ = some d ∧
      d.divisions = 0 ∧ d.adivisions = 2 ∧ d.enableMap.all (·.2) ∧
      divideOffsets .a (nchannelsOf cfg.achanlist) d.divisions 0 d.sources = none ∧
      hopperSetup cfg = none :=
  ⟨_, rfl, rfl, rfl, rfl, rfl, rfl⟩

/-! ## The wsp100 channel mask -/

theorem lor_two_pow_sub_one (k : Nat) : (2 ^ k - 1) ||| 1 <<< k = 2 ^ (k + 1) - 1 := by
  apply Nat.eq_of_testBit_eq
  intro i
  simp only [Nat.testBit_or, Nat.testBit_two_pow_sub_one, Nat.one_shiftLeft, Nat.testBit_two_pow]
  by_cases h : i < k <;> by_cases h' : k = i <;> simp [h, h'] <;> omega

theorem wspChanMask_eq {l : List Int} (ht : terminatorIndex l < l.length) (k : Nat) :
    wspChanMask l k (2 ^ k - 1) =
      some (2 ^ (k + terminatorIndex l) - 1, List.range' k (terminatorIndex l)) := by
  induction l generalizing k with
  | nil => simp at ht
  | cons c rest ih =>
    by_cases hc : c = -1
    · simp [wspChanMask, hc, terminatorIndex, List.findIdx_cons]
    · have hidx : terminatorIndex (c :: rest) = terminatorIndex rest + 1 := by
        simp [terminatorIndex, List.findIdx_cons, show (c == -1) = false by simpa using hc]
      rw [hidx] at ht ⊢
      rw [wspChanMask, if_neg hc, lor_two_pow_sub_one, ih (by simpa using ht) (k + 1)]
      simp [List.range'_succ, Nat.add_assoc, Nat.add_comm 1]

/-- On an ILP32 build, whose splitting loops leave: the custom sequence `-s 1,6,11`; the wsp100
mask has the bits 0, 1 and 2 of the three
positions set, not the bits 0, 5 and 10 of the channels; and a sequence of 33 entries makes
the loop shift `1` by 32. -/
theorem wspChanMask_sets_positions :
    wspChanMask (parseHopseq [1, 6, 11]) 0 0 = some (7, [0, 1, 2]) ∧
      channelBitmap [1, 6, 11] = 0x421 ∧
      (wspChanMask (parseHopseq (List.replicate 33 1)) 0 0).map (·.2) = some (List.range 33) := by
  decide

end WifiCoconut
