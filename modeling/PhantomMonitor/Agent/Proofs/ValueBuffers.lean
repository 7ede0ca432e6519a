import Mathlib.Data.List.ReduceOption
import PhantomMonitor.Agent.Proofs.Hooks
import PhantomMonitor.Agent.ValueSites
import PhantomMonitor.Misc.Emissions
import PhantomMonitor.Parser.Ini

/-!
# Configured values and their buffers

`mfp_get_value` copies what the last line of the configuration file says about a key. The reader
takes values of up to 198 characters, and none of the buffers is that large.
-/

namespace PhantomMonitor

open CText

/-! ## The lines of the file -/

/-- The entry that a line hands on. -/
def IniReader.entryOf (r : IniReader) (line : CText) : Option IniEntry :=
  match iniLine (r.lineno + 1 = 1) (r.prevName ≠ []) (cstr line) with
  | .continuation value => some ⟨r.sect, r.prevName, value⟩
  | .pair name value => some ⟨r.sect, name, value⟩
  | .ignored | .newSection _ | .bad => none

theorem iniStep_calls (r : IniReader) (line : CText) :
    (iniStep r line).calls = r.calls ++ (r.entryOf line).toList := by
  unfold iniStep IniReader.entryOf
  dsimp only
  cases iniLine (r.lineno + 1 = 1) (r.prevName ≠ []) (cstr line) with
  | ignored => exact (List.append_nil _).symm
  | continuation value => rfl
  | newSection sect => exact (List.append_nil _).symm
  | pair name value => rfl
  | bad =>
      dsimp only
      split <;> exact (List.append_nil _).symm

theorem foldl_iniStep_calls (lines : List CText) (r : IniReader) :
    (lines.foldl iniStep r).calls =
      r.calls ++ Emissions.emitted iniStep IniReader.entryOf r lines := by
  induction lines generalizing r with
  | nil => exact (List.append_nil _).symm
  | cons line lines ih =>
      rw [List.foldl_cons, ih, iniStep_calls, Emissions.emitted, List.append_assoc]

theorem iniParse_entries (content : CText) :
    (iniParse (some content)).entries =
      Emissions.emitted iniStep IniReader.entryOf .init (readLines iniMaxLine content) :=
  foldl_iniStep_calls _ .init

/-- The value that the last line about a key of a section gives it. -/
def LastGiven (content sect key value : CText) : Prop :=
  ∃ before line after, readLines iniMaxLine content = before ++ line :: after ∧
    (before.foldl iniStep .init).entryOf line = some ⟨sect, key, value⟩ ∧
    ∀ later ∈ Emissions.emitted iniStep IniReader.entryOf
        ((before ++ [line]).foldl iniStep .init) after,
      ¬ (later.sect = sect ∧ later.name = key)

theorem lastAssigned_iniParse_iff {content sect key value : CText} :
    lastAssigned (iniParse (some content)).entries sect key = some value ↔
      LastGiven content sect key value := by
  unfold lastAssigned LastGiven
  rw [Option.map_eq_some_iff, iniParse_entries]
  constructor
  · rintro ⟨entry, last, rfl⟩
    obtain ⟨before, line, after, lines, given, same, later⟩ :=
      Emissions.getLast?_filter_emitted.mp last
    obtain ⟨rfl, rfl⟩ := of_decide_eq_true same
    refine ⟨before, line, after, lines, given, ?_⟩
    intro entry' member both
    exact later entry' member (decide_eq_true both)
  · rintro ⟨before, line, after, lines, given, later⟩
    refine ⟨⟨sect, key, value⟩, ?_, rfl⟩
    refine Emissions.getLast?_filter_emitted.mpr
      ⟨before, line, after, lines, given, decide_eq_true ⟨rfl, rfl⟩, ?_⟩
    intro entry' member both
    exact later entry' member (of_decide_eq_true both)

/-! ## The length of a value -/

theorem rstrip_length_le (s : CText) : (rstrip s).length ≤ s.length :=
  (List.rdropWhile_prefix isSpace s).length_le

theorem lskip_length_le (s : CText) : (lskip s).length ≤ s.length :=
  (List.dropWhile_suffix isSpace).length_le

theorem findCharOrComment_append (c : Char) (was : Bool) (s : CText) :
    (findCharOrComment c was s).1 ++ (findCharOrComment c was s).2 = s := by
  induction s generalizing was with
  | nil => rfl
  | cons x s ih =>
      rw [findCharOrComment]
      split
      · rfl
      · exact congrArg (x :: ·) (ih (isSpace x))

theorem findCharOrComment_fst_le (c : Char) (was : Bool) (s : CText) :
    (findCharOrComment c was s).1.length ≤ s.length := by
  have sum := congrArg List.length (findCharOrComment_append c was s)
  rw [List.length_append] at sum
  omega

theorem findCharOrComment_snd_le (c : Char) (was : Bool) (s : CText) :
    (findCharOrComment c was s).2.length ≤ s.length := by
  have sum := congrArg List.length (findCharOrComment_append c was s)
  rw [List.length_append] at sum
  omega

theorem iniValue_length_le (rest : CText) : (iniValue rest).length ≤ rest.length := by
  have stripped := rstrip_length_le (findCharOrComment nul false (lskip rest)).1
  have cut := findCharOrComment_fst_le nul false (lskip rest)
  have skipped := lskip_length_le rest
  unfold iniValue
  omega

theorem strncpy0_length_lt (src : CText) {size : Nat} (h : 0 < size) :
    (strncpy0 src size).length < size := by
  have taken := List.length_take_le (size - 1) src
  unfold strncpy0
  omega

/-- What a line asks for is no longer than the line, and the name of a section is cut. -/
def IniLine.Short (n : Nat) : IniLine → Prop
  | .continuation value => value.length ≤ n
  | .newSection sect => sect.length < maxSection
  | .pair name value => name.length ≤ n ∧ value.length ≤ n
  | .ignored | .bad => True

theorem IniLine.Short.mono {m n : Nat} (h : m ≤ n) {line : IniLine} (short : line.Short m) :
    line.Short n := by
  cases line with
  | continuation value => exact Nat.le_trans short h
  | newSection sect => exact short
  | pair name value => exact ⟨Nat.le_trans short.1 h, Nat.le_trans short.2 h⟩
  | ignored => trivial
  | bad => trivial

theorem sectionLine_short (rest : CText) (n : Nat) : (sectionLine rest).Short n := by
  unfold sectionLine
  split
  · exact strncpy0_length_lt _ (by decide)
  · trivial

theorem pairLine_short (start : CText) : (pairLine start).Short start.length := by
  have pair (c : Char) (s before rest : CText)
      (found : findCharOrComment c false start = (before, s)) (hs : rest.length ≤ s.length) :
      (IniLine.pair (rstrip before) (iniValue rest)).Short start.length := by
    have front := findCharOrComment_fst_le c false start
    have back := findCharOrComment_snd_le c false start
    rw [found] at front back
    dsimp only at front back
    have name := rstrip_length_le before
    have value := iniValue_length_le rest
    exact ⟨by omega, by omega⟩
  have tail (x : Char) (rest : CText) : rest.length ≤ (x :: rest).length := Nat.le_succ _
  unfold pairLine
  dsimp only
  split
  · rename_i before rest found
    split at found
    · rename_i before' rest' first
      cases found
      exact pair '=' _ before rest first (tail _ _)
    · exact pair ':' _ before rest found (tail _ _)
  · rename_i before rest found
    split at found
    · cases found
    · exact pair ':' _ before rest found (tail _ _)
  · trivial

theorem skipBom_length_le (line : CText) : (skipBom line).2.length ≤ line.length := by
  unfold skipBom
  split
  · split
    · simp only [List.length_cons]
      omega
    · exact Nat.le_refl _
  · exact Nat.le_refl _

theorem iniLine_short (first named : Bool) (line : CText) :
    (iniLine first named line).Short line.length := by
  have unmarked : (if first then skipBom line else (false, line)).2.length ≤ line.length := by
    split
    · exact skipBom_length_le line
    · exact Nat.le_refl _
  generalize hbom : (if first then skipBom line else (false, line)) = bom at unmarked
  have stripped := rstrip_length_le bom.2
  have start := lskip_length_le (rstrip bom.2)
  unfold iniLine
  rw [hbom]
  dsimp only
  generalize hstart : lskip (rstrip bom.2) = text at start
  cases text with
  | nil => trivial
  | cons c rest =>
      split
      · trivial
      · trivial
      · trivial
      · rename_i d rest' _ _ same
        cases same
        have whole : (c :: rest).length ≤ line.length := by omega
        split
        · exact whole
        · split
          · exact sectionLine_short rest line.length
          · exact (pairLine_short (c :: rest)).mono whole

/-- The texts of an entry fit the buffers of the reader. -/
def IniEntry.Short (entry : IniEntry) : Prop :=
  entry.sect.length < maxSection ∧ entry.name.length < iniMaxLine ∧
    entry.value.length < iniMaxLine

/-- The names in force are cut, and all entries so far are short. -/
structure IniReader.Short (r : IniReader) : Prop where
  sect : r.sect.length < maxSection
  prevName : r.prevName.length < maxName
  calls : ∀ entry ∈ r.calls, entry.Short

theorem IniReader.init_short : IniReader.init.Short where
  sect := by decide
  prevName := by decide
  calls := List.forall_mem_nil _

theorem IniReader.Short.step {r : IniReader} (h : r.Short) {line : CText}
    (hline : line.length < iniMaxLine) : (iniStep r line).Short := by
  have short := iniLine_short (r.lineno + 1 = 1) (r.prevName ≠ []) (cstr line)
  have text := cstr_length_le line
  have handed {entry : IniEntry} (hentry : entry.Short) : ∀ e ∈ r.calls ++ [entry], e.Short := by
    intro e member
    rcases List.mem_append.mp member with before | last
    · exact h.calls e before
    · rw [List.mem_singleton.mp last]
      exact hentry
  unfold iniStep
  dsimp only
  cases hasked : iniLine (r.lineno + 1 = 1) (r.prevName ≠ []) (cstr line) with
  | ignored => exact ⟨h.sect, h.prevName, h.calls⟩
  | continuation value =>
      rw [hasked] at short
      have cut : r.prevName.length < iniMaxLine := Nat.lt_trans h.prevName (by decide)
      exact ⟨h.sect, h.prevName,
        handed ⟨h.sect, cut, Nat.lt_of_le_of_lt (Nat.le_trans short text) hline⟩⟩
  | newSection sect =>
      rw [hasked] at short
      exact ⟨short, show ([] : CText).length < maxName by decide, h.calls⟩
  | pair name value =>
      rw [hasked] at short
      have bound {n : Nat} (hn : n ≤ (cstr line).length) : n < iniMaxLine :=
        Nat.lt_of_le_of_lt (Nat.le_trans hn text) hline
      exact ⟨h.sect, strncpy0_length_lt name (by decide),
        handed ⟨h.sect, bound short.1, bound short.2⟩⟩
  | bad =>
      dsimp only
      split <;> exact ⟨h.sect, h.prevName, h.calls⟩

theorem IniReader.Short.run {r : IniReader} (h : r.Short) {lines : List CText}
    (hlines : ∀ line ∈ lines, line.length < iniMaxLine) : (lines.foldl iniStep r).Short := by
  induction lines generalizing r with
  | nil => exact h
  | cons line lines ih =>
      obtain ⟨first, rest⟩ := List.forall_mem_cons.mp hlines
      exact ih (h.step first) rest

/-- What the reader delivers, whatever the file. -/
theorem iniParse_short (content : CText) :
    ∀ entry ∈ (iniParse (some content)).entries, entry.Short :=
  (IniReader.init_short.run (readLines_length_le (by decide) content)).calls

/-! ## The call sites -/

section

variable {H : HashTable CText}

theorem value_iniParse_iff (st : ParserState H) {content sect key value : CText} :
    (mfpParse st (iniParse (some content))).1.value sect key = some value ↔
      LastGiven content sect key value := by
  rw [(follows_parse st (iniParse (some content))).value_eq, Option.bind_some,
    lastAssigned_iniParse_iff]

theorem valueSite_fits_iff (st : ParserState H) (content : CText) (site : ValueSite) :
    site.Fits (mfpParse st (iniParse (some content))).1 ↔
      ∀ value, LastGiven content site.sect site.key value → value.length < site.size := by
  unfold ValueSite.Fits
  rw [readConfig_ok_iff]
  constructor
  · intro fits value given
    exact fits value ((value_iniParse_iff st).mpr given)
  · intro short value found
    exact short value ((value_iniParse_iff st).mp found)

/-- All values fit their buffers exactly when, for each call, the last line of the file about its
key gives a value shorter than its buffer. -/
theorem values_fit_iff (st : ParserState H) (content : CText) (found loaded : List CText) :
    (∀ site ∈ valueSites found loaded,
      site.Fits (mfpParse st (iniParse (some content))).1) ↔
    ∀ site ∈ valueSites found loaded, ∀ value,
      LastGiven content site.sect site.key value → value.length < site.size := by
  constructor
  · intro fits site member
    exact (valueSite_fits_iff st content site).mp (fits site member)
  · intro short site member
    exact (valueSite_fits_iff st content site).mpr (short site member)

end

/-- The section of the board in the configuration file of the repository (`mf_config.ini:29-36`). -/
def boardIni : CText := unlines [
  "[mf_plugin_Board_power]".toList,
  ";ACME_BOARD_NAME = power-nvidia-0   - the dns of the board ".toList ++
    "installed on the EXCESS cluster".toList,
  "; - the dns of the 2nd board that was tested on the EXCESS cluster".toList,
  "ACME_BOARD_NAME = power-jetson.local".toList,
  "device0:current = on".toList,
  "device0:vshunt = on".toList,
  "device0:vbus = on".toList,
  "device0:power = on".toList]

/-- The name of the board does not fit. -/
theorem boardIni_overflows :
    (∀ line ∈ fileLines boardIni, line.length + 1 < iniMaxLine) ∧
      ¬ ∀ site ∈ valueSites [] [], site.Fits
        (mfpParse (ParserState.init : ParserState (HashTable.alist CText))
          (iniParse (some boardIni))).1 := by
  refine ⟨by decide +kernel, ?_⟩
  intro fits
  obtain ⟨value, read⟩ := fits acmeNameSite (by decide +kernel)
  have overflow : (readConfig 16 (mfpParse (ParserState.init : ParserState (HashTable.alist CText))
      (iniParse (some boardIni))).1 "mf_plugin_Board_power".toList "ACME_BOARD_NAME".toList) =
        .error .overflow := by decide +kernel
  exact absurd (overflow.symm.trans read) nofun

end PhantomMonitor
