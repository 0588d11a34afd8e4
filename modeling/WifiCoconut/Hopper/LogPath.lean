import WifiCoconut.Hopper.Hop

/-!
# Log file templates

`ConfigFile::ExpandLogPath` erases each `%` that `find("%", nl + 1)` finds with its directive
character and inserts the directive's text at `nl`; `%i` turns on a search for a free file
number. The time, `getpwuid` and `stat` are inputs, and positions are natural numbers, which
the code's `unsigned int` positions agree with below 2^32 characters. Some templates are
rescanned for ever or skipped (`expandLogPath_rescans_and_skips`); on the others the loop is the
single left-to-right expansion (`expandLoop_eq_referenceExpansion`).
-/

namespace WifiCoconut

/-- The texts `ExpandLogPath` takes from its environment: `strftime` of the local time with
`%b-%d-%Y`, `%Y%m%d` and `%H-%M-%S`, and `getpwuid(getuid())->pw_dir`, `none` where
`getpwuid` fails. -/
structure LogPathEnv where
  dateStr : List Char
  compactDateStr : List Char
  timeStr : List Char
  homeDir : Option (List Char)
  deriving DecidableEq, Repr

/-- `string::find("%", pos)`: the first `%` at or after `pos`, or else a position not below the
length, which ends the loop as `npos` does. -/
def findPercent (t : List Char) (pos : Nat) : Nat := pos + (t.drop pos).findIdx (· == '%')

def strErase (t : List Char) (pos n : Nat) : List Char := t.take pos ++ t.drop (pos + n)

def strInsert (t : List Char) (pos : Nat) (s : List Char) : List Char :=
  t.take pos ++ s ++ t.drop pos

/-- What the branch for the directive character `op` inserts at `nl` after the erase; `none`
where `getpwuid` fails and the program exits. `%i` and every other character insert
nothing. The logname is inserted as a `std::string`, whole; the type (`type.c_str()`), the
`strftime` buffers and `pw_dir` as C strings, up to their first NUL. -/
def directiveText (logname type : List Char) (env : LogPathEnv) (op : Char) :
    Option (List Char) :=
  if op = 'n' then some logname
  else if op = 'd' then some (cString env.dateStr)
  else if op = 'D' then some (cString env.compactDateStr)
  else if op = 't' then some (cString env.timeStr)
  else if op = 'l' then some (cString type)
  else if op = 'h' then env.homeDir.map cString
  else some []

inductive LogPathOutcome (α : Type)
  | returned (value : α)
  | exited
  | running
  deriving DecidableEq, Repr

/-- The `for` loop over the directives, from the `%` at `nl` and with `inc` so far, for at most
`fuel` passes: the expanded template and `inc`. `logtemplate[nl + 1]` past the last character
is the terminating `'\0'`. -/
def expandLoop (logname type : List Char) (env : LogPathEnv) :
    Nat → List Char → Nat → Nat → LogPathOutcome (List Char × Nat)
  | 0, _, _, _ => .running
  | fuel + 1, logtemplate, nl, inc =>
    if nl < logtemplate.length then
      let op := logtemplate.getD (nl + 1) '\x00'
      match directiveText logname type env op with
      | none => .exited
      | some s =>
        let logtemplate := strInsert (strErase logtemplate nl 2) nl s
        expandLoop logname type env fuel logtemplate (findPercent logtemplate (nl + 1))
          (if op = 'i' then nl else inc)
    else .returned (logtemplate, inc)

/-- `snprintf(numstr, 5, "%d", num)`: the decimal text, cut to four characters. -/
def numStr (n : Int) : List Char := (toString n).toList.take 4

/-- The part after the loop, with `fileExists` for `stat(...) != -1`; `none` is the `exit(1)`
when no number from 1 to 99 is free. -/
def expandLogPathFinish (fileExists : List Char → Bool) (start overwrite : Int)
    (logtemplate : List Char) (inc : Nat) : Option (List Char) :=
  if inc ≠ 0 then
    if start = 0 then
      ((List.range' 1 99).find? fun num : Nat =>
          !fileExists (strInsert logtemplate inc (numStr num))).map fun num : Nat =>
        strInsert logtemplate inc (numStr num)
    else
      let copied := strInsert logtemplate inc (numStr start)
      some (if fileExists copied ∧ overwrite = 0 then [] else copied)
  else some (if fileExists logtemplate ∧ overwrite = 0 then [] else logtemplate)

def expandLogPath (fileExists : List Char → Bool) (env : LogPathEnv) (fuel : Nat)
    (path logname type : List Char) (start overwrite : Int) : LogPathOutcome (List Char) :=
  match expandLoop logname type env fuel path (findPercent path 0) 0 with
  | .returned (logtemplate, inc) =>
    match expandLogPathFinish fileExists start overwrite logtemplate inc with
    | some r => .returned r
    | none => .exited
  | .exited => .exited
  | .running => .running

/-! ## One pass -/

section Pass

variable {logname type : List Char} {env : LogPathEnv}

/-- One pass on the directive `%op` right after what is done, whose text is `s`: the text
takes the directive's place and the search resumes one past its start. -/
theorem expandLoop_directive {op : Char} {s : List Char}
    (hs : directiveText logname type env op = some s) (done rest : List Char) (inc fuel : Nat) :
    expandLoop logname type env (fuel + 1) (done ++ '%' :: op :: rest) done.length inc =
      expandLoop logname type env fuel (done ++ s ++ rest)
        (findPercent (done ++ s ++ rest) (done.length + 1))
        (if op = 'i' then done.length else inc) := by
  have hop : (done ++ '%' :: op :: rest).getD (done.length + 1) '\x00' = op := by
    simp [List.getD_eq_getElem?_getD, List.getElem_append_right]
  have hedit : strInsert (strErase (done ++ '%' :: op :: rest) done.length 2) done.length s =
      done ++ s ++ rest := by
    simp [strInsert, strErase]
  rw [expandLoop, if_pos (by simp)]
  simp only [hop, hs, hedit]

theorem expandLoop_past_end (t : List Char) (inc fuel : Nat) :
    expandLoop logname type env (fuel + 1) t (findPercent t (t.length + 1)) inc =
      .returned (t, inc) := by
  have hdrop : t.drop (t.length + 1) = [] := List.drop_eq_nil_of_le (by omega)
  rw [expandLoop, if_neg (by simp [findPercent, hdrop])]

end Pass

/-! ## Rescanning -/

/-- A logname `x%n` under the template `%n`: each pass leaves one more `x` before a fresh `%n`
and resumes the search on it. -/
theorem expandLoop_rescans (type : List Char) (env : LogPathEnv) (fuel k : Nat) :
    expandLoop ['x', '%', 'n'] type env fuel (List.replicate k 'x' ++ ['%', 'n']) k 0 =
      .running := by
  induction fuel generalizing k with
  | zero => rfl
  | succ fuel ih =>
    have hpass := expandLoop_directive
      (show directiveText ['x', '%', 'n'] type env 'n' = some ['x', '%', 'n'] from rfl)
      (List.replicate k 'x') [] 0 fuel
    have hnext : List.replicate k 'x' ++ ['x', '%', 'n'] ++ [] =
        List.replicate (k + 1) 'x' ++ ['%', 'n'] := by
      simp [List.replicate_succ']
    have hfind : findPercent (List.replicate (k + 1) 'x' ++ ['%', 'n']) (k + 1) = k + 1 := by
      simp [findPercent]; rfl
    rw [List.length_replicate, hnext, hfind, if_neg (by decide)] at hpass
    rw [show List.replicate k 'x' ++ ['%', 'n'] = List.replicate k 'x' ++ '%' :: 'n' :: [] from rfl,
      hpass, ih]

/-- Templates the loop does not expand once from left to right: with the logname `x%n` the
template `%n` keeps the loop running for every amount of fuel; the `%i` at the front of
`%i.log` turns no numbered search on, where the `%i` of `x%i.log` gets the number 1; and with
an empty logname `%n%l` keeps its `%l`. -/
theorem expandLogPath_rescans_and_skips (fileExists : List Char → Bool) (env : LogPathEnv)
    (logname type : List Char) (start overwrite : Int) :
    (∀ fuel, expandLogPath fileExists env fuel "%n".toList "x%n".toList type start overwrite =
      .running) ∧
    (∀ fuel, expandLogPath (fun _ => false) env (fuel + 2) "%i.log".toList logname type 0 0 =
      .returned ".log".toList) ∧
    (∀ fuel, expandLogPath (fun _ => false) env (fuel + 2) "x%i.log".toList logname type 0 0 =
      .returned "x1.log".toList) ∧
    (∀ fuel, expandLogPath (fun _ => false) env (fuel + 2) "%n%l".toList [] type 0 0 =
      .returned "%l".toList) := by
  refine ⟨fun fuel => ?_, fun fuel => rfl, fun fuel => rfl, fun fuel => rfl⟩
  have h := expandLoop_rescans type env fuel 0
  unfold expandLogPath
  rw [show findPercent "%n".toList 0 = 0 from rfl]
  exact h ▸ rfl

/-! ## The numbered-file search -/

/-! ## The single left-to-right expansion -/

/-- The expansion in the words of the specification: each directive replaced once by its
text, `%i` and the unknown directives removed, a `%` that ends the template dropped, and no
substituted text scanned again. -/
def referenceExpansion (logname type : List Char) (env : LogPathEnv) : List Char → List Char
  | '%' :: op :: rest =>
    (directiveText logname type env op).getD [] ++ referenceExpansion logname type env rest
  | ['%'] => []
  | c :: rest => c :: referenceExpansion logname type env rest
  | [] => []

/-- Where the loop's pass is the single expansion: no directive's text has a `%` after its
first character, and no directive whose text is empty stands right before another `%`. -/
def singlePass (logname type : List Char) (env : LogPathEnv) : List Char → Bool
  | '%' :: op :: rest =>
    let s := (directiveText logname type env op).getD []
    !s.tail.contains '%' && (!s.isEmpty || rest.head? != some '%') &&
      singlePass logname type env rest
  | _ :: rest => singlePass logname type env rest
  | [] => true

section Pass

variable {logname type : List Char} {env : LogPathEnv}

theorem directiveText_isSome (hhome : env.homeDir.isSome) (op : Char) :
    (directiveText logname type env op).isSome := by
  simp only [directiveText, apply_ite Option.isSome, Option.isSome_some, Option.isSome_map',
    hhome, ite_self]

theorem findPercent_append (a b : List Char) {k : Nat} (hk : k ≤ a.length) (ha : '%' ∉ a.drop k) :
    findPercent (a ++ b) k = a.length + b.findIdx (· == '%') := by
  have hnone : (a.drop k).findIdx (· == '%') = (a.drop k).length :=
    List.findIdx_eq_length_of_false fun x hx => by simpa using ne_of_mem_of_not_mem hx ha
  rw [findPercent, List.drop_append_of_le_length hk, List.findIdx_append, hnone, if_neg (by omega),
    List.length_drop]
  omega

theorem findPercent_after (done s rest : List Char) (htail : '%' ∉ s.tail)
    (hempty : s = [] → rest.head? ≠ some '%') (hne : s ≠ [] ∨ rest ≠ []) :
    findPercent (done ++ s ++ rest) (done.length + 1) =
      (done ++ s).length + rest.findIdx (· == '%') := by
  cases s with
  | cons c s => exact findPercent_append _ _ (by simp) (by simpa using htail)
  | nil =>
    cases rest with
    | nil => simp at hne
    | cons c rest =>
      have hc : (c == '%') = false := by simpa using hempty rfl
      rw [show done ++ [] ++ c :: rest = (done ++ [c]) ++ rest by simp,
        findPercent_append _ _ (by simp) (by simp), List.findIdx_cons, hc]
      simp only [List.length_append, List.length_singleton, List.length_nil, cond_false]
      omega

/-- The loop from the first `%` after `done` ends with `done` followed by the single expansion
of the rest of the template, within one pass for each `%` and one more. -/
theorem expandLoop_reference (hhome : env.homeDir.isSome) (path : List Char)
    (hpath : singlePass logname type env path = true) (done : List Char) (inc fuel : Nat)
    (hfuel : path.count '%' < fuel) :
    ∃ inc', expandLoop logname type env fuel (done ++ path)
      (done.length + path.findIdx (· == '%')) inc =
      .returned (done ++ referenceExpansion logname type env path, inc') := by
  induction path using referenceExpansion.induct logname type env generalizing done inc fuel with
  | case1 op rest ih =>
    obtain ⟨fuel, rfl⟩ : ∃ f, fuel = f + 1 := ⟨fuel - 1, by omega⟩
    obtain ⟨s, hs⟩ : ∃ s, directiveText logname type env op = some s :=
      Option.isSome_iff_exists.mp (directiveText_isSome hhome op)
    simp only [singlePass, hs, Option.getD_some, List.elem_eq_mem, Bool.and_eq_true,
      Bool.not_eq_eq_eq_not, Bool.not_true, decide_eq_false_iff_not, Bool.or_eq_true,
      List.isEmpty_eq_false, ne_eq, bne_iff_ne] at hpath
    obtain ⟨⟨htail, hempty⟩, hrest⟩ := hpath
    have hcount : rest.count '%' < fuel := by simp [List.count_cons] at hfuel; omega
    rw [show done.length + ('%' :: op :: rest).findIdx (· == '%') = done.length from rfl,
      expandLoop_directive hs, referenceExpansion, hs, Option.getD_some]
    by_cases hend : s = [] ∧ rest = []
    · obtain ⟨rfl, rfl⟩ := hend
      obtain ⟨fuel, rfl⟩ : ∃ f, fuel = f + 1 := ⟨fuel - 1, by simp at hfuel; omega⟩
      rw [show referenceExpansion logname type env [] = [] from rfl]
      simp only [List.append_nil]
      exact ⟨_, expandLoop_past_end done _ fuel⟩
    · obtain ⟨inc', h⟩ := ih hrest (done ++ s) _ fuel hcount
      refine ⟨inc', ?_⟩
      rw [findPercent_after done _ rest htail (fun hs => hempty.resolve_left (not_not.mpr hs))
        (not_and_or.mp hend), h, List.append_assoc]
  | case2 =>
    obtain ⟨fuel, rfl⟩ : ∃ f, fuel = f + 2 := ⟨fuel - 2, by simp at hfuel; omega⟩
    have hop : (done ++ ['%']).getD (done.length + 1) '\x00' = '\x00' := by
      rw [List.getD_eq_getElem?_getD, List.getElem?_eq_none (by simp)]; rfl
    have hedit : strInsert (strErase (done ++ ['%']) done.length 2) done.length [] = done := by
      simp [strInsert, strErase]
    rw [show done.length + ['%'].findIdx (· == '%') = done.length from rfl, expandLoop,
      if_pos (by simp)]
    simp only [hop, show directiveText logname type env '\x00' = some [] from rfl, hedit]
    rw [show referenceExpansion logname type env ['%'] = [] from rfl, List.append_nil]
    exact ⟨_, expandLoop_past_end done _ fuel⟩
  | case3 c rest h1 h2 ih =>
    have hc : c ≠ '%' := by
      rintro rfl
      cases rest with
      | nil => exact h2 rfl rfl
      | cons op rest => exact h1 op rest rfl rfl
    rw [singlePass.eq_2 _ _ _ _ _ h1] at hpath
    obtain ⟨inc', h⟩ := ih hpath (done ++ [c]) inc fuel (by simpa [List.count_cons, hc] using hfuel)
    refine ⟨inc', ?_⟩
    rw [referenceExpansion.eq_3 _ _ _ _ _ h1 h2]
    have hc' : (c == '%') = false := by simpa using hc
    simpa [List.findIdx_cons, hc', Nat.add_assoc, Nat.add_comm 1] using h
  | case4 =>
    obtain ⟨fuel, rfl⟩ : ∃ f, fuel = f + 1 := ⟨fuel - 1, by omega⟩
    exact ⟨inc, by simp [expandLoop, referenceExpansion]⟩

end Pass

/-- Where `singlePass` holds and there is a home directory, `ExpandLogPath`'s loop ends within
one pass for each `%` and one more, with the single left-to-right expansion of the template.
The bound `_hlen` keeps every template the loop holds below 2^32 characters, where the code's
`unsigned int` positions and its truncated `npos` are the model's positions; the model's
proof does not need it, the code does. -/
theorem expandLoop_eq_referenceExpansion (logname type : List Char) (env : LogPathEnv)
    (hhome : env.homeDir.isSome) (path : List Char)
    (hpath : singlePass logname type env path = true)
    (_hlen : path.length + (referenceExpansion logname type env path).length < 4294967296)
    (fuel : Nat) (hfuel : path.count '%' < fuel) :
    ∃ inc, expandLoop logname type env fuel path (findPercent path 0) 0 =
      .returned (referenceExpansion logname type env path, inc) := by
  simpa [findPercent] using expandLoop_reference hhome path hpath [] 0 fuel hfuel

theorem expandLoop_eq_referenceExpansion_kismet :
    (⟨"Nov-09-2026".toList, "20261109".toList, "12-00-00".toList, some "/root".toList⟩ :
      LogPathEnv).homeDir.isSome ∧
    singlePass "kismet".toList "pcap".toList
      ⟨"Nov-09-2026".toList, "20261109".toList, "12-00-00".toList, some "/root".toList⟩
      "%h/%n-%D-%i.%l".toList = true ∧
    "%h/%n-%D-%i.%l".toList.length + (referenceExpansion "kismet".toList "pcap".toList
      ⟨"Nov-09-2026".toList, "20261109".toList, "12-00-00".toList, some "/root".toList⟩
      "%h/%n-%D-%i.%l".toList).length < 4294967296 ∧
    "%h/%n-%D-%i.%l".toList.count '%' < 6 ∧
    ∃ inc, expandLoop "kismet".toList "pcap".toList
      ⟨"Nov-09-2026".toList, "20261109".toList, "12-00-00".toList, some "/root".toList⟩ 6
      "%h/%n-%D-%i.%l".toList (findPercent "%h/%n-%D-%i.%l".toList 0) 0 =
      .returned (referenceExpansion "kismet".toList "pcap".toList
        ⟨"Nov-09-2026".toList, "20261109".toList, "12-00-00".toList, some "/root".toList⟩
        "%h/%n-%D-%i.%l".toList, inc) :=
  ⟨rfl, by decide, by decide, by decide,
    expandLoop_eq_referenceExpansion _ _ _ (by rfl) _ (by decide) (by decide) 6 (by decide)⟩

end WifiCoconut
