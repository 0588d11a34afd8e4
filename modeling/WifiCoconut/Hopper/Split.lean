import WifiCoconut.Hopper.Hop
import Mathlib.Data.BitVec

/-!
# The comma-splitting loops of kismet_hopper

`main` splits the enable-sources line and each `source=` line at commas, keeping its
positions in `unsigned int begin, end` and testing `end` against `string::npos`. Positions are
`BitVec 32` and sizes `BitVec w`, as the code's types are, `size_t` having `w` bits: 64 on
LP64, 32 on ILP32; `find` and `substr` follow the C++ standard. On LP64 the `npos` stored in
`end` is truncated to `0xffffffff` and never equals `npos` again: for every string shorter
than 2^32 characters neither loop leaves or throws, for any fuel (`splitLoops_never_exit`).
On ILP32 both loops split a line at its commas (`splitLoops_ilp32`), and the source lines
reach the setup of the hop loop as their first three fields (`tokenizeSources_ilp32`).
-/

namespace WifiCoconut

def npos (w : Nat) : BitVec w := BitVec.allOnes w

def strFind {w : Nat} (s : List Char) (c : Char) (pos : BitVec w) : BitVec w :=
  match (s.drop pos.toNat).findIdx? (· == c) with
  | some i => BitVec.ofNat w (pos.toNat + i)
  | none => npos w

/-- `std::string::substr(pos, count)`; `none` is the `std::out_of_range` thrown for a
position past the end. -/
def strSubstr {w : Nat} (s : List Char) (pos count : BitVec w) : Option (List Char) :=
  if s.length < pos.toNat then none else some ((s.drop pos.toNat).take count.toNat)

inductive LoopOutcome
  | exited (fields : List (List Char))
  | threw
  | running
  deriving DecidableEq, Repr

/-! ## The enable-sources loop -/

/-- Its variables: `begin`, `end`, `done`, and the fields given to `enable_name_map` (which
keys them by `StrLower`), in order. -/
structure EnableSplit where
  begin : BitVec 32
  endPos : BitVec 32
  done : Bool
  fields : List (List Char)
  deriving DecidableEq, Repr

def enableSplitInit (w : Nat) (s : List Char) : EnableSplit :=
  ⟨0, (strFind s ',' (0 : BitVec w)).setWidth 32, false, []⟩

/-- One pass of `while (done == 0)`; `end == string::npos` widens `end` to `size_t`. -/
def enableSplitStep (w : Nat) (s : List Char) (st : EnableSplit) : Option EnableSplit :=
  let (e, done) := if st.endPos.setWidth w = npos w then (BitVec.ofNat 32 s.length, true)
    else (st.endPos, st.done)
  (strSubstr s (st.begin.setWidth w) ((e - st.begin).setWidth w)).map fun ensrc =>
    let b := e + 1
    ⟨b, (strFind s ',' (b.setWidth w)).setWidth 32, done, st.fields ++ [ensrc]⟩

def enableSplitLoop (w : Nat) (s : List Char) : Nat → EnableSplit → LoopOutcome
  | 0, _ => .running
  | fuel + 1, st =>
    if st.done then .exited st.fields
    else match enableSplitStep w s st with
      | none => .threw
      | some st' => enableSplitLoop w s fuel st'

/-! ## The source-line loop -/

structure SourceSplit where
  begin : BitVec 32
  endPos : BitVec 32
  optlist : List (List Char)
  deriving DecidableEq, Repr

def sourceSplitInit (w : Nat) (s : List Char) : SourceSplit :=
  ⟨0, (strFind s ',' (0 : BitVec w)).setWidth 32, []⟩

def sourceSplitStep (w : Nat) (s : List Char) (st : SourceSplit) : Option SourceSplit :=
  (strSubstr s (st.begin.setWidth w) ((st.endPos - st.begin).setWidth w)).map fun subopt =>
    let b := st.endPos + 1
    ⟨b, (strFind s ',' (b.setWidth w)).setWidth 32, st.optlist ++ [subopt]⟩

/-- The source-line loop for at most `fuel` passes, then the `push_back` of the last field. -/
def sourceSplitLoop (w : Nat) (s : List Char) : Nat → SourceSplit → LoopOutcome
  | 0, _ => .running
  | fuel + 1, st =>
    if st.endPos.setWidth w ≠ npos w then
      match sourceSplitStep w s st with
      | none => .threw
      | some st' => sourceSplitLoop w s fuel st'
    else
      match strSubstr s (st.begin.setWidth w) (BitVec.ofNat w s.length - st.begin.setWidth w)
      with
      | none => .threw
      | some last => .exited (st.optlist ++ [last])

/-! ## On LP64 neither loop leaves -/

/-- What both loops keep on a string shorter than 2^32: `begin` inside the string, and `end`
the truncated `npos` or the index of a comma. -/
def SplitInv (s : List Char) (begin endPos : BitVec 32) : Prop :=
  begin.toNat ≤ s.length ∧ (endPos = BitVec.allOnes 32 ∨ endPos.toNat < s.length)

theorem strSubstr_isSome {w : Nat} (s : List Char) (pos count : BitVec w) (h : pos.toNat ≤ s.length) :
    ∃ r, strSubstr s pos count = some r :=
  ⟨_, if_neg (Nat.not_lt.mpr h)⟩

section Split

variable {s : List Char}

theorem setWidth_ne_npos (x : BitVec 32) : x.setWidth 64 ≠ npos 64 := by
  intro h
  have h' := congrArg BitVec.toNat h
  simp only [BitVec.toNat_setWidth, npos, BitVec.toNat_allOnes] at h'
  omega

theorem strFind_setWidth (hs : s.length < 2 ^ 32) (c : Char) (pos : BitVec 64) :
    (strFind s c pos).setWidth 32 = BitVec.allOnes 32 ∨
      ((strFind s c pos).setWidth 32).toNat < s.length := by
  unfold strFind
  split
  · rename_i i hi
    have hlt := (List.findIdx?_eq_some_iff_findIdx_eq.mp hi).1
    rw [List.length_drop] at hlt
    right
    simp only [BitVec.toNat_setWidth, BitVec.toNat_ofNat]
    omega
  · exact .inl rfl

/-- The next `begin`, `end + 1` in `unsigned int`, stays inside the string: past a comma,
or wrapped to 0 past the truncated `npos`. -/
theorem succ_le_length (hs : s.length < 2 ^ 32) {e : BitVec 32}
    (he : e = BitVec.allOnes 32 ∨ e.toNat < s.length) : (e + 1).toNat ≤ s.length := by
  rcases he with rfl | he
  · exact (show (BitVec.allOnes 32 + 1).toNat = 0 from rfl) ▸ Nat.zero_le _
  · rw [BitVec.toNat_add, show (1 : BitVec 32).toNat = 1 from rfl]
    omega

theorem enableSplitStep_inv (hs : s.length < 2 ^ 32) {st : EnableSplit} (hd : st.done = false)
    (hi : SplitInv s st.begin st.endPos) :
    ∃ st', enableSplitStep 64 s st = some st' ∧ st'.done = false ∧
      SplitInv s st'.begin st'.endPos := by
  obtain ⟨r, hr⟩ :=
    strSubstr_isSome s (st.begin.setWidth 64) ((st.endPos - st.begin).setWidth 64)
    (by rw [BitVec.toNat_setWidth]; have := hi.1; omega)
  simp only [enableSplitStep, if_neg (setWidth_ne_npos st.endPos), hr, Option.map_some']
  exact ⟨_, rfl, hd, succ_le_length hs hi.2, strFind_setWidth hs _ _⟩

theorem sourceSplitStep_inv (hs : s.length < 2 ^ 32) {st : SourceSplit}
    (hi : SplitInv s st.begin st.endPos) :
    ∃ st', sourceSplitStep 64 s st = some st' ∧ SplitInv s st'.begin st'.endPos := by
  obtain ⟨r, hr⟩ :=
    strSubstr_isSome s (st.begin.setWidth 64) ((st.endPos - st.begin).setWidth 64)
    (by rw [BitVec.toNat_setWidth]; have := hi.1; omega)
  simp only [sourceSplitStep, hr, Option.map_some']
  exact ⟨_, rfl, succ_le_length hs hi.2, strFind_setWidth hs _ _⟩

theorem enableSplitLoop_running (hs : s.length < 2 ^ 32) (fuel : Nat) :
    ∀ st : EnableSplit, st.done = false → SplitInv s st.begin st.endPos →
      enableSplitLoop 64 s fuel st = .running := by
  induction fuel with
  | zero => intro st _ _; rfl
  | succ fuel ih =>
    intro st hd hi
    obtain ⟨st', hstep, hd', hi'⟩ := enableSplitStep_inv hs hd hi
    simp only [enableSplitLoop, hd, hstep, Bool.false_eq_true, if_false]
    exact ih st' hd' hi'

theorem sourceSplitLoop_running (hs : s.length < 2 ^ 32) (fuel : Nat) :
    ∀ st : SourceSplit, SplitInv s st.begin st.endPos →
      sourceSplitLoop 64 s fuel st = .running := by
  induction fuel with
  | zero => intro st _; rfl
  | succ fuel ih =>
    intro st hi
    obtain ⟨st', hstep, hi'⟩ := sourceSplitStep_inv hs hi
    simp only [sourceSplitLoop, ne_eq, setWidth_ne_npos, not_false_eq_true, if_true, hstep]
    exact ih st' hi'

theorem splitInv_init (hs : s.length < 2 ^ 32) :
    SplitInv s 0 ((strFind s ',' (0 : BitVec 64)).setWidth 32) :=
  ⟨Nat.zero_le _, strFind_setWidth hs _ _⟩

end Split

/-- On LP64, for every string shorter than 2^32 characters and every amount of fuel, the
enable-sources loop and the source-line loop are still running: neither leaves its `while`,
and neither throws. -/
theorem splitLoops_never_exit (s : List Char) (hs : s.length < 2 ^ 32) (fuel : Nat) :
    enableSplitLoop 64 s fuel (enableSplitInit 64 s) = .running ∧
      sourceSplitLoop 64 s fuel (sourceSplitInit 64 s) = .running :=
  ⟨enableSplitLoop_running hs fuel _ rfl (splitInv_init hs),
    sourceSplitLoop_running hs fuel _ (splitInv_init hs)⟩

theorem splitLoops_never_exit_wlan0 :
    ['w', 'l', 'a', 'n', '0'].length < 2 ^ 32 ∧
      enableSplitLoop 64 ['w', 'l', 'a', 'n', '0'] 100
        (enableSplitInit 64 ['w', 'l', 'a', 'n', '0']) = .running ∧
      sourceSplitLoop 64 ['w', 'l', 'a', 'n', '0'] 100
        (sourceSplitInit 64 ['w', 'l', 'a', 'n', '0']) = .running :=
  ⟨by decide, splitLoops_never_exit _ (by decide) 100⟩

/-! ## On ILP32 both loops split the line -/

theorem splitOn_of_findIdx?_some {l : List Char} {c : Char} {i : Nat}
    (h : l.findIdx? (· == c) = some i) :
    l.splitOn c = l.take i :: (l.drop (i + 1)).splitOn c := by
  obtain ⟨hi, hc, hlt⟩ := List.findIdx?_eq_some_iff_getElem.mp h
  have hl : l = l.take i ++ l[i] :: l.drop (i + 1) := by
    rw [← List.drop_eq_getElem_cons hi, List.take_append_drop]
  conv_lhs => rw [hl]
  refine List.splitOnP_first (· == c) _ (fun x hx => ?_) _ hc _
  obtain ⟨j, hj, rfl⟩ := List.getElem_of_mem hx
  simp only [List.length_take, Nat.lt_min] at hj
  rw [List.getElem_take]
  exact hlt j hj.1

theorem splitOn_of_findIdx?_none {l : List Char} {c : Char} (h : l.findIdx? (· == c) = none) :
    l.splitOn c = [l] :=
  List.splitOnP_eq_single _ _ fun x hx => by simp [List.findIdx?_eq_none_iff.mp h x hx]

/-- Every character of a field is a character of the text other than the separator. -/
theorem mem_of_mem_splitOn {text l : List Char} {c a : Char} (h : l ∈ text.splitOn c)
    (ha : a ∈ l) : a ∈ text ∧ a ≠ c := by
  induction text generalizing l with
  | nil => simp_all [List.splitOn_nil]
  | cons d text ih =>
    simp only [List.splitOn, List.splitOnP_cons] at h ih
    split at h
    · rcases List.mem_cons.mp h with rfl | h
      · simp at ha
      · exact (ih h ha).imp_left (List.mem_cons_of_mem d)
    · next hd =>
      obtain ⟨l₀, ls, hs⟩ := List.exists_cons_of_ne_nil (List.splitOnP_ne_nil (· == c) text)
      rw [hs, List.modifyHead_cons] at h
      rcases List.mem_cons.mp h with rfl | h
      · rcases List.mem_cons.mp ha with rfl | ha
        · exact ⟨List.mem_cons_self _ _, fun h => hd (by simp [h])⟩
        · exact (ih (hs ▸ List.mem_cons_self _ _) ha).imp_left (List.mem_cons_of_mem d)
      · exact (ih (hs ▸ List.mem_cons_of_mem _ h) ha).imp_left (List.mem_cons_of_mem d)

section Ilp32

variable {s : List Char}

/-- A pass past a comma at `begin + i`: `find` does not return `npos`, the field is the `i`
characters from `begin`, and the next `begin` is just past the comma. -/
theorem strFind_pass_ilp32 (hs : s.length < 4294967295) {b : BitVec 32} {i : Nat}
    (hb : b.toNat ≤ s.length) (hi : (s.drop b.toNat).findIdx? (· == ',') = some i) :
    strFind s ',' b ≠ npos 32 ∧
      strSubstr s b (strFind s ',' b - b) = some ((s.drop b.toNat).take i) ∧
      (s.drop b.toNat).drop (i + 1) = s.drop (strFind s ',' b + 1).toNat ∧
      (strFind s ',' b + 1).toNat ≤ s.length := by
  have hlt := (List.findIdx?_eq_some_iff_findIdx_eq.mp hi).1
  rw [List.length_drop] at hlt
  have he : (strFind s ',' b).toNat = b.toNat + i := by
    simp only [strFind, hi, BitVec.toNat_ofNat]
    omega
  have hnext : (strFind s ',' b + 1).toNat = b.toNat + i + 1 := by
    rw [BitVec.toNat_add, he, show (1 : BitVec 32).toNat = 1 from rfl]
    omega
  refine ⟨fun h => ?_, ?_, by rw [List.drop_drop, hnext, Nat.add_assoc], by omega⟩
  · have := congrArg BitVec.toNat h
    simp only [he, npos, BitVec.toNat_allOnes] at this
    omega
  · simp only [strSubstr, if_neg (Nat.not_lt.mpr hb), BitVec.toNat_sub, he]
    congr 3
    omega

theorem strFind_none_ilp32 {b : BitVec 32} (hi : (s.drop b.toNat).findIdx? (· == ',') = none) :
    strFind s ',' b = npos 32 := by
  simp only [strFind, hi]

theorem strSubstr_rest_ilp32 (hs : s.length < 4294967295) {b : BitVec 32}
    (hb : b.toNat ≤ s.length) :
    strSubstr s b (BitVec.ofNat 32 s.length - b) = some (s.drop b.toNat) := by
  simp only [strSubstr, if_neg (Nat.not_lt.mpr hb), BitVec.toNat_sub, BitVec.toNat_ofNat]
  rw [List.take_of_length_le]
  rw [List.length_drop]
  omega

theorem sourceSplitLoop_ilp32 (hs : s.length < 4294967295) (fuel : Nat) :
    ∀ (b : BitVec 32) (acc : List (List Char)), b.toNat ≤ s.length →
      ((s.drop b.toNat).splitOn ',').length ≤ fuel →
      sourceSplitLoop 32 s fuel ⟨b, strFind s ',' b, acc⟩ =
        .exited (acc ++ (s.drop b.toNat).splitOn ',') := by
  induction fuel with
  | zero =>
    intro _ _ _ hf
    exact absurd hf (Nat.not_le_of_lt (List.length_pos.mpr (List.splitOnP_ne_nil _ _)))
  | succ fuel ih =>
    intro b acc hb hf
    cases hi : (s.drop b.toNat).findIdx? (· == ',') with
    | none =>
      simp only [sourceSplitLoop, BitVec.setWidth_eq, strFind_none_ilp32 hi, ne_eq,
        not_true_eq_false, if_false, strSubstr_rest_ilp32 hs hb, splitOn_of_findIdx?_none hi]
    | some i =>
      obtain ⟨hne, hsub, hrest, hle⟩ := strFind_pass_ilp32 hs hb hi
      rw [splitOn_of_findIdx?_some hi, hrest] at hf ⊢
      simp only [sourceSplitLoop, sourceSplitStep, BitVec.setWidth_eq, ne_eq, hne,
        not_false_eq_true, if_true, hsub, Option.map_some']
      rw [ih _ _ hle (by simpa using hf)]
      simp

theorem enableSplitLoop_ilp32 (hs : s.length < 4294967295) (fuel : Nat) :
    ∀ (b : BitVec 32) (acc : List (List Char)), b.toNat ≤ s.length →
      ((s.drop b.toNat).splitOn ',').length < fuel →
      enableSplitLoop 32 s fuel ⟨b, strFind s ',' b, false, acc⟩ =
        .exited (acc ++ (s.drop b.toNat).splitOn ',') := by
  induction fuel with
  | zero => intro _ _ _ hf; exact absurd hf (Nat.not_lt_zero _)
  | succ fuel ih =>
    intro b acc hb hf
    cases hi : (s.drop b.toNat).findIdx? (· == ',') with
    | none =>
      rw [splitOn_of_findIdx?_none hi] at hf ⊢
      obtain ⟨fuel, rfl⟩ : ∃ f, fuel = f + 1 :=
        ⟨fuel - 1, by rw [List.length_singleton] at hf; omega⟩
      simp only [enableSplitLoop, enableSplitStep, BitVec.setWidth_eq, strFind_none_ilp32 hi,
        if_true, Bool.false_eq_true, if_false, strSubstr_rest_ilp32 hs hb, Option.map_some']
    | some i =>
      obtain ⟨hne, hsub, hrest, hle⟩ := strFind_pass_ilp32 hs hb hi
      rw [splitOn_of_findIdx?_some hi, hrest] at hf ⊢
      simp only [enableSplitLoop, enableSplitStep, BitVec.setWidth_eq, hne, if_false,
        Bool.false_eq_true, hsub, Option.map_some']
      rw [ih _ _ hle (by simpa using hf)]
      simp

end Ilp32

/-- On ILP32, where `size_t` has 32 bits like `unsigned int`, both loops split a line shorter
than 2^32 - 1 characters into its comma-separated fields, given a pass per field and one more
(which the enable-sources loop spends on seeing `done`). -/
theorem splitLoops_ilp32 (s : List Char) (hs : s.length < 4294967295) (fuel : Nat)
    (hfuel : (s.splitOn ',').length < fuel) :
    enableSplitLoop 32 s fuel (enableSplitInit 32 s) = .exited (s.splitOn ',') ∧
      sourceSplitLoop 32 s fuel (sourceSplitInit 32 s) = .exited (s.splitOn ',') := by
  simp only [enableSplitInit, sourceSplitInit, BitVec.setWidth_eq]
  exact ⟨by simpa using enableSplitLoop_ilp32 hs fuel 0 [] (Nat.zero_le _) (by simpa),
    by simpa using sourceSplitLoop_ilp32 hs fuel 0 [] (Nat.zero_le _) (by simpa using hfuel.le)⟩

theorem splitLoops_ilp32_prism2 :
    "prism2,wlan0,a".toList.length < 4294967295 ∧ ("prism2,wlan0,a".toList.splitOn ',').length < 4 ∧
      enableSplitLoop 32 "prism2,wlan0,a".toList 4 (enableSplitInit 32 "prism2,wlan0,a".toList) =
        .exited ["prism2".toList, "wlan0".toList, "a".toList] ∧
      sourceSplitLoop 32 "prism2,wlan0,a".toList 4 (sourceSplitInit 32 "prism2,wlan0,a".toList) =
        .exited ["prism2".toList, "wlan0".toList, "a".toList] :=
  ⟨by decide, by decide, splitLoops_ilp32 _ (by decide) 4 (by decide)⟩

/-! ## What `main` hands the setup -/

/-- The body of `main`'s loop over `source_input_vec`: the line split by its loop, and the three
fields that `strdup(optlist[k].c_str())` copies; `none` is `FATAL: Invalid source line` for
fewer than three fields, a throw, or a loop still running after `fuel` passes. -/
def tokenizeSourceLine (w fuel : Nat) (sourceopt : List Char) :
    Option (List Char × List Char × List Char) :=
  match sourceSplitLoop w sourceopt fuel (sourceSplitInit w sourceopt) with
  | .exited (cardtype :: interface :: name :: _) =>
    some (cString cardtype, cString interface, cString name)
  | _ => none

def tokenizeSources (w fuel : Nat) (lines : List (List Char)) :
    Option (List (List Char × List Char × List Char)) :=
  lines.mapM (tokenizeSourceLine w fuel)

/-- Modelled from the spec: a source line is its comma-separated fields, of which it needs three:
the card type, the interface and the name. -/
def sourceLineFields (l : List Char) : Option (List Char × List Char × List Char) :=
  match l.splitOn ',' with
  | cardtype :: interface :: name :: _ => some (cardtype, interface, name)
  | _ => none

theorem cString_of_mem_splitOn {l x : List Char} (h0 : '\x00' ∉ l) (hx : x ∈ l.splitOn ',') :
    cString x = x :=
  List.takeWhile_eq_self_iff.mpr fun a ha => by
    have := (mem_of_mem_splitOn hx ha).1
    simp only [bne_iff_ne, ne_eq]
    rintro rfl
    exact h0 this

theorem tokenizeSourceLine_ilp32 {l : List Char} {fuel : Nat} (hl : l.length < 4294967295)
    (h0 : '\x00' ∉ l) (hf : (l.splitOn ',').length < fuel) :
    tokenizeSourceLine 32 fuel l = sourceLineFields l := by
  have hsplit : sourceSplitLoop 32 l fuel (sourceSplitInit 32 l) = .exited (l.splitOn ',') := by
    simpa [sourceSplitInit] using sourceSplitLoop_ilp32 hl fuel 0 [] (Nat.zero_le _)
      (by simpa using hf.le)
  have hmem : ∀ x ∈ l.splitOn ',', cString x = x := fun x => cString_of_mem_splitOn h0
  rw [tokenizeSourceLine, hsplit, sourceLineFields]
  rcases hsp : l.splitOn ',' with _ | ⟨a, _ | ⟨b, _ | ⟨c, rest⟩⟩⟩
  all_goals try rfl
  rw [hsp] at hmem
  simp only [hmem a (by simp), hmem b (by simp), hmem c (by simp)]

/-- On ILP32, for source lines shorter than 2^32 - 1 characters and free of NUL (as every
command-line argument and configuration value is), `main` hands the setup of the hop loop
(`HopperConfig.sources`) the first three comma-separated fields of each line, and exits on a
line with fewer; on LP64 it never gets there, whatever the number of passes. -/
theorem tokenizeSources_ilp32 (lines : List (List Char)) (fuel : Nat)
    (hlines : ∀ l ∈ lines, l.length < 4294967295 ∧ '\x00' ∉ l ∧ (l.splitOn ',').length < fuel) :
    tokenizeSources 32 fuel lines = lines.mapM sourceLineFields ∧
      (lines ≠ [] → ∀ fuel', tokenizeSources 64 fuel' lines = none) := by
  refine ⟨?_, fun hne fuel' => ?_⟩
  · induction lines with
    | nil => rfl
    | cons l ls ih =>
      obtain ⟨hl, h0, hf⟩ := hlines l (List.mem_cons_self _ _)
      simp only [tokenizeSources, List.mapM_cons, tokenizeSourceLine_ilp32 hl h0 hf] at ih ⊢
      rw [ih fun l hl => hlines l (List.mem_cons_of_mem _ hl)]
  · obtain ⟨l, ls, rfl⟩ := List.exists_cons_of_ne_nil hne
    have hl : l.length < 2 ^ 32 := by have := (hlines l (List.mem_cons_self _ _)).1; omega
    rw [tokenizeSources, List.mapM_cons, tokenizeSourceLine,
      sourceSplitLoop_running hl fuel' (sourceSplitInit 64 l) (splitInv_init hl)]
    rfl

theorem tokenizeSources_ilp32_prism2 :
    (∀ l ∈ ["prism2,wlan0,a".toList, "prism2,wlan1,b".toList],
      l.length < 4294967295 ∧ '\x00' ∉ l ∧ (l.splitOn ',').length < 4) ∧
    tokenizeSources 32 4 ["prism2,wlan0,a".toList, "prism2,wlan1,b".toList] =
      some [("prism2".toList, "wlan0".toList, "a".toList),
        ("prism2".toList, "wlan1".toList, "b".toList)] ∧
    ∀ fuel, tokenizeSources 64 fuel ["prism2,wlan0,a".toList, "prism2,wlan1,b".toList] = none := by
  have h := tokenizeSources_ilp32 ["prism2,wlan0,a".toList, "prism2,wlan1,b".toList] 4 (by decide)
  exact ⟨by decide, h.1.trans (by decide), h.2 (by simp)⟩

end WifiCoconut
