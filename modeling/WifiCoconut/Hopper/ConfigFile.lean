import WifiCoconut.Hopper.Split

/-!
# The configuration file

`ConfigFile::ParseConfig` reads a file with `fgets` until `feof`, strips each line, skips
empty lines, comments and lines with no `=`, appends each `directive=value` to `config_map`,
and parses an `include`d file in place; the file system is a function and the include
recursion runs on fuel. On files that a newline ends the loop reads what the reference reading
reads (`parseConfig_eq_referenceReading`); a ranked include graph is parsed to the end
(`parseConfig_terminates`), a file that includes itself never is.
-/

namespace WifiCoconut

/-- Modelled from the spec: `StrStrip` (util.cc, not among the sources) removes the white space
at both ends of a string. -/
def strStrip (s : List Char) : List Char :=
  ((s.dropWhile Char.isWhitespace).reverse.dropWhile Char.isWhitespace).reverse

def ConfigMap := List Char → List (List Char)

def ConfigMap.push (m : ConfigMap) (key value : List Char) : ConfigMap :=
  Function.update m key (m key ++ [value])

def fetchOptVec (m : ConfigMap) (key : List Char) : List (List Char) := m (asciiLower key)

def fetchOpt (m : ConfigMap) (key : List Char) : List Char := (m (asciiLower key)).headD []

/-! ## Reading lines -/

/-- `fgets` reading at most `k` more characters of what is left of the file: the characters
read through the first newline, the rest of the file, and whether the read hit the end of
the file, which sets `feof`. -/
def fgetsLoop : Nat → List Char → List Char × List Char × Bool
  | 0, rest => ([], rest, false)
  | _ + 1, [] => ([], [], true)
  | k + 1, c :: cs =>
    if c = '\n' then (['\n'], cs, false)
    else let r := fgetsLoop k cs; (c :: r.1, r.2.1, r.2.2)

def fgets (rest : List Char) : List Char × List Char × Bool := fgetsLoop 8191 rest

theorem fgetsLoop_length (k : Nat) (text : List Char) (hk : 0 < k)
    (h : (fgetsLoop k text).2.2 = false) : (fgetsLoop k text).2.1.length < text.length := by
  induction k generalizing text with
  | zero => cases hk
  | succ k ih =>
    cases text with
    | nil => simp [fgetsLoop] at h
    | cons c cs =>
      by_cases hc : c = '\n'
      · simp [fgetsLoop, hc]
      · simp only [fgetsLoop, hc, if_false, List.length_cons] at h ⊢
        rcases k with _ | k
        · simp [fgetsLoop]
        · have := ih cs (Nat.succ_pos k) h
          omega

/-- The lines the `while (!feof(configf))` loop hands to its body: the result of each `fgets`
up to the one that hits the end of the file, which is dropped with what it read. -/
def configLines (text : List Char) : List (List Char) :=
  let r := fgets text
  if r.2.2 then [] else r.1 :: configLines r.2.1
termination_by text.length
decreasing_by
  rename_i h
  exact fgetsLoop_length 8191 text (by decide) (by simpa [r, fgets] using h)

theorem fgetsLoop_line (l rest : List Char) (hl : '\n' ∉ l) (k : Nat) (hk : l.length < k) :
    fgetsLoop k (l ++ '\n' :: rest) = (l ++ ['\n'], rest, false) := by
  induction l generalizing k with
  | nil => cases k <;> simp_all [fgetsLoop]
  | cons c l ih =>
    obtain ⟨k, rfl⟩ : ∃ j, k = j + 1 := ⟨k - 1, by simp at hk; omega⟩
    simp only [List.mem_cons, not_or] at hl
    simp [fgetsLoop, Ne.symm hl.1, ih hl.2 k (by simpa using hk)]

theorem fgetsLoop_last (l : List Char) (hl : '\n' ∉ l) (k : Nat) (hk : l.length < k) :
    fgetsLoop k l = (l, [], true) := by
  induction l generalizing k with
  | nil => cases k <;> simp_all [fgetsLoop]
  | cons c l ih =>
    obtain ⟨k, rfl⟩ : ∃ j, k = j + 1 := ⟨k - 1, by simp at hk; omega⟩
    simp only [List.mem_cons, not_or] at hl
    simp [fgetsLoop, Ne.symm hl.1, ih hl.2 k (by simpa using hk)]

theorem configLines_line (l rest : List Char) (hl : '\n' ∉ l) (hk : l.length < 8191) :
    configLines (l ++ '\n' :: rest) = (l ++ ['\n']) :: configLines rest := by
  rw [configLines]; simp [fgets, fgetsLoop_line l rest hl 8191 hk]

theorem configLines_last (l : List Char) (hl : '\n' ∉ l) (hk : l.length < 8191) :
    configLines l = [] := by
  rw [configLines]; simp [fgets, fgetsLoop_last l hl 8191 hk]

/-- The loop's lines are the newline-separated pieces of the file but the last, each with its
newline: on a file that a newline ends the last piece is empty, otherwise it is lost. -/
theorem configLines_intercalate (ls : List (List Char))
    (hls : ∀ l ∈ ls, '\n' ∉ l ∧ l.length < 8191) :
    configLines (['\n'].intercalate ls) = ls.dropLast.map (· ++ ['\n']) := by
  induction ls with
  | nil => rw [configLines]; simp [fgets, fgetsLoop]
  | cons l ls ih =>
    have hl := hls l (List.mem_cons_self _ _)
    cases ls with
    | nil => simp [List.intercalate, configLines_last l hl.1 hl.2]
    | cons l' ls =>
      have hsep : ['\n'].intercalate (l :: l' :: ls) = l ++ '\n' :: ['\n'].intercalate (l' :: ls) :=
        rfl
      rw [hsep, configLines_line l _ hl.1 hl.2, ih fun x hx => hls x (List.mem_cons_of_mem _ hx)]
      simp

/-- What the loop body does with a line: skip an empty line, a comment or a line with no `=`;
reject `directive=` with an empty value ("ERROR: Illegal config option"); parse an included
file; or store any other `directive=value`, the directive lower-cased. -/
inductive ConfigLine
  | skip
  | illegal
  | include (file : List Char)
  | option (directive value : List Char)
  deriving DecidableEq, Repr

/-- The body of the `ParseConfig` loop on one line read by `fgets`; `StrStrip(confline)`
takes the buffer as a C string, up to its first NUL. -/
def parseConfigLine (confline : List Char) : ConfigLine :=
  let parsestr := strStrip (cString confline)
  if parsestr.length = 0 then .skip
  else if parsestr.head? = some '#' then .skip
  else
    let eq := parsestr.indexOf '='
    if eq < parsestr.length then
      let directive := strStrip (parsestr.take eq)
      let value := strStrip (parsestr.drop (eq + 1))
      if value = [] then .illegal
      else if directive = "include".toList then .include value
      else .option (asciiLower directive) value
    else .skip

/-- The loop over the lines of one file, given what a nested `ParseConfig` does: the return
value and `config_map` after it; `none` when a nested parse runs out of fuel. -/
def parseConfigLines (parseInclude : List Char → ConfigMap → Option (Int × ConfigMap)) :
    List (List Char) → ConfigMap → Option (Int × ConfigMap)
  | [], m => some (1, m)
  | l :: ls, m =>
    match parseConfigLine l with
    | .skip | .illegal => parseConfigLines parseInclude ls m
    | .include file =>
      match parseInclude file m with
      | none => none
      | some (r, m') => if r < 0 then some (-1, m') else parseConfigLines parseInclude ls m'
    | .option directive value => parseConfigLines parseInclude ls (m.push directive value)

/-- `ConfigFile::ParseConfig(in_fname)` with at most `fuel` nested calls: `files` gives each
file's contents, `none` where `fopen` fails. The return value and `config_map` after the call,
or `none` when the fuel runs out. -/
def parseConfig (files : List Char → Option (List Char)) :
    Nat → List Char → ConfigMap → Option (Int × ConfigMap)
  | 0, _, _ => none
  | fuel + 1, fname, m =>
    match files fname with
    | none => some (-1, m)
    | some text => parseConfigLines (parseConfig files fuel) (configLines text) m

/-- The reading in the words of the specification: each line as the loop body treats it, over
every line of the file, the last one whether or not a newline ends it. -/
def referenceReading (files : List Char → Option (List Char)) :
    Nat → List Char → ConfigMap → Option (Int × ConfigMap)
  | 0, _, _ => none
  | fuel + 1, fname, m =>
    match files fname with
    | none => some (-1, m)
    | some text => parseConfigLines (referenceReading files fuel) (text.splitOn '\n') m

/-! ## The lines the loop reads and the lines of the file -/

theorem strStrip_append_newline (l : List Char) : strStrip (l ++ ['\n']) = strStrip l := by
  unfold strStrip
  rw [List.dropWhile_append]
  split
  · next h => simp [List.isEmpty_iff.mp h, Char.isWhitespace]
  · simp [Char.isWhitespace]

theorem strStrip_cString_append_newline (l : List Char) :
    strStrip (cString (l ++ ['\n'])) = strStrip (cString l) := by
  unfold cString
  rw [List.takeWhile_append]
  split
  · next h =>
    rw [(List.takeWhile_prefix _).eq_of_length h]
    exact strStrip_append_newline l
  · rfl

/-- The newline `fgets` keeps changes nothing: `StrStrip` removes it, or a NUL before it
hides it. -/
@[simp] theorem parseConfigLine_append_newline (l : List Char) :
    parseConfigLine (l ++ ['\n']) = parseConfigLine l := by
  simp only [parseConfigLine, strStrip_cString_append_newline]

theorem configLines_parse (text : List Char)
    (hlen : ∀ l ∈ text.splitOn '\n', l.length < 8191) :
    (configLines text).map parseConfigLine = (text.splitOn '\n').dropLast.map parseConfigLine := by
  have htext : ['\n'].intercalate (text.splitOn '\n') = text := List.intercalate_splitOn text '\n'
  conv_lhs => rw [← htext]
  rw [configLines_intercalate _ fun l hl => ⟨fun h => (mem_of_mem_splitOn hl h).2 rfl, hlen l hl⟩]
  simp [Function.comp_def]

/-! ## The code against the reference reading -/

theorem parseConfigLines_congr (p : List Char → ConfigMap → Option (Int × ConfigMap))
    {ls ls' : List (List Char)} (h : ls.map parseConfigLine = ls'.map parseConfigLine)
    (m : ConfigMap) : parseConfigLines p ls m = parseConfigLines p ls' m := by
  induction ls generalizing ls' m with
  | nil => cases ls' <;> simp_all
  | cons l ls ih =>
    cases ls' with
    | nil => simp at h
    | cons l' ls' =>
      simp only [List.map_cons, List.cons.injEq] at h
      simp only [parseConfigLines, h.1, ih h.2]

theorem parseConfigLines_append_skip (p : List Char → ConfigMap → Option (Int × ConfigMap))
    (ls : List (List Char)) {l : List Char} (hl : parseConfigLine l = .skip) (m : ConfigMap) :
    parseConfigLines p (ls ++ [l]) m = parseConfigLines p ls m := by
  induction ls generalizing m with
  | nil => simp [parseConfigLines, hl]
  | cons l' ls ih =>
    simp only [List.cons_append, parseConfigLines, List.append_eq, ih]

/-- On files that a newline ends, with no line longer than the buffer, `ParseConfig` returns
what the reference reading returns, at every depth of includes. -/
theorem parseConfig_eq_referenceReading (files : List Char → Option (List Char))
    (hfiles : ∀ f text, files f = some text →
      (∀ l ∈ text.splitOn '\n', l.length < 8191) ∧ (text.splitOn '\n').getLast? = some [])
    (fuel : Nat) (f : List Char) (m : ConfigMap) :
    parseConfig files fuel f m = referenceReading files fuel f m := by
  induction fuel generalizing f m with
  | zero => rfl
  | succ n ih =>
    simp only [parseConfig, referenceReading]
    cases hf : files f with
    | none => rfl
    | some text =>
      obtain ⟨hlen, hlast⟩ := hfiles f text hf
      obtain ⟨ls, hls⟩ := List.getLast?_eq_some_iff.mp hlast
      have hrec : parseConfig files n = referenceReading files n := funext fun g => funext (ih g)
      dsimp only
      rw [parseConfigLines_congr _ (configLines_parse text hlen), hls, List.dropLast_concat,
        parseConfigLines_append_skip _ _ (by decide), hrec]

theorem parseConfig_eq_referenceReading_a_b :
    (∀ f text : List Char, (fun _ => some "a=b\n".toList) f = some text →
      (∀ l ∈ text.splitOn '\n', l.length < 8191) ∧ (text.splitOn '\n').getLast? = some []) ∧
    parseConfig (fun _ => some "a=b\n".toList) 1 "f".toList (fun _ => []) =
      referenceReading (fun _ => some "a=b\n".toList) 1 "f".toList (fun _ => []) := by
  have hfiles : ∀ f text : List Char, (fun _ => some "a=b\n".toList) f = some text →
      (∀ l ∈ text.splitOn '\n', l.length < 8191) ∧ (text.splitOn '\n').getLast? = some [] := by
    rintro f text ⟨⟩; decide
  exact ⟨hfiles, parseConfig_eq_referenceReading _ hfiles 1 _ _⟩

/-- A file `a=b` that no newline ends: `ParseConfig` returns 1 and stores nothing, where the
reference reading stores `b` under `a`. -/
theorem parseConfig_drops_unterminated_line :
    (∃ m, parseConfig (fun _ => some "a=b".toList) 1 "f".toList (fun _ => []) = some (1, m) ∧
      fetchOptVec m "a".toList = []) ∧
    (∃ m, referenceReading (fun _ => some "a=b".toList) 1 "f".toList (fun _ => []) = some (1, m) ∧
      fetchOptVec m "a".toList = ["b".toList]) := by
  refine ⟨⟨fun _ => [], ?_, rfl⟩,
    ⟨ConfigMap.push (fun _ => []) "a".toList "b".toList, rfl, by decide⟩⟩
  simp only [parseConfig, configLines_last "a=b".toList (by decide) (by decide), parseConfigLines]

/-! ## The include recursion -/

theorem parseConfigLines_returns (p : List Char → ConfigMap → Option (Int × ConfigMap))
    (ls : List (List Char))
    (hp : ∀ g m, ConfigLine.include g ∈ ls.map parseConfigLine →
      ∃ r m', p g m = some (r, m') ∧ (r = 1 ∨ r = -1))
    (m : ConfigMap) : ∃ r m', parseConfigLines p ls m = some (r, m') ∧ (r = 1 ∨ r = -1) := by
  induction ls generalizing m with
  | nil => exact ⟨1, m, rfl, .inl rfl⟩
  | cons l ls ih =>
    have hp' := fun g m hg => hp g m (List.mem_cons_of_mem _ hg)
    cases hc : parseConfigLine l with
    | skip | illegal => simpa only [parseConfigLines, hc] using ih hp' m
    | option directive value => simpa only [parseConfigLines, hc] using ih hp' _
    | «include» g =>
      obtain ⟨r, m', hpg, -⟩ := hp g m (by simp [hc])
      simp only [parseConfigLines, hc, hpg]
      split_ifs
      · exact ⟨-1, m', rfl, .inr rfl⟩
      · exact ih hp' m'

/-- `ParseConfig` on an include graph with a rank that falls along every include, which every
finite acyclic graph has: with more fuel than the rank of the file it returns 1 or -1. -/
theorem parseConfig_terminates (files : List Char → Option (List Char)) (rank : List Char → Nat)
    (hrank : ∀ f text, files f = some text →
      ∀ g, ConfigLine.include g ∈ (configLines text).map parseConfigLine → rank g < rank f)
    (fuel : Nat) (f : List Char) (hfuel : rank f < fuel) (m : ConfigMap) :
    ∃ r m', parseConfig files fuel f m = some (r, m') ∧ (r = 1 ∨ r = -1) := by
  induction fuel generalizing f m with
  | zero => omega
  | succ n ih =>
    cases hf : files f with
    | none => exact ⟨-1, m, by simp [parseConfig, hf], .inr rfl⟩
    | some text =>
      simp only [parseConfig, hf]
      exact parseConfigLines_returns _ _
        (fun g m' hg => ih g (by have := hrank f text hf g hg; omega) m') m

theorem parseConfig_terminates_include_b :
    (∀ f text, (fun f => if f = "a".toList then some "include=b\n".toList else none) f = some text →
      ∀ g, ConfigLine.include g ∈ (configLines text).map parseConfigLine →
        (if g = "a".toList then 1 else 0) < (if f = "a".toList then 1 else 0)) ∧
    (if "a".toList = "a".toList then 1 else 0) < 2 ∧
    ∃ r m', parseConfig (fun f => if f = "a".toList then some "include=b\n".toList else none) 2
      "a".toList (fun _ => []) = some (r, m') ∧ (r = 1 ∨ r = -1) := by
  have hrank : ∀ f text,
      (fun f => if f = "a".toList then some "include=b\n".toList else none) f = some text →
      ∀ g, ConfigLine.include g ∈ (configLines text).map parseConfigLine →
        (if g = "a".toList then 1 else 0) < (if f = "a".toList then 1 else 0) := by
    intro f text hf g hg
    by_cases ha : f = "a".toList
    · simp only [ha, if_true, Option.some.injEq] at hf
      subst hf
      rw [show "include=b\n".toList = "include=b".toList ++ '\n' :: [] by decide,
        configLines_line _ _ (by decide) (by decide), configLines_last [] (by decide) (by decide),
        List.map_singleton, parseConfigLine_append_newline, List.mem_singleton,
        show parseConfigLine "include=b".toList = .include "b".toList by decide,
        ConfigLine.include.injEq] at hg
      subst hg
      simp [ha]
    · simp only [if_neg ha, reduceCtorEq] at hf
  exact ⟨hrank, by decide, parseConfig_terminates _ (fun f => if f = "a".toList then 1 else 0)
    hrank 2 _ (by decide) _⟩

/-- A file that includes itself: every nested `ParseConfig` opens it again, and no depth of
recursion returns. -/
theorem parseConfig_self_include_never_returns :
    ¬∃ fuel r m', parseConfig (fun _ => some "include=a\n".toList) fuel "a".toList
      (fun _ => []) = some (r, m') := by
  have hlines : configLines "include=a\n".toList = ["include=a\n".toList] := by
    rw [show "include=a\n".toList = "include=a".toList ++ '\n' :: [] by decide,
      configLines_line _ _ (by decide) (by decide), configLines_last [] (by decide) (by decide)]
  have hparse : parseConfigLine "include=a\n".toList = .include "a".toList := by decide
  have hnone : ∀ fuel, parseConfig (fun _ => some "include=a\n".toList) fuel "a".toList
      (fun _ => []) = none := by
    intro fuel
    induction fuel with
    | zero => rfl
    | succ n ih => simp only [parseConfig, hlines, parseConfigLines, hparse, ih]
  rintro ⟨fuel, r, m', h⟩
  rw [hnone] at h
  cases h

end WifiCoconut
