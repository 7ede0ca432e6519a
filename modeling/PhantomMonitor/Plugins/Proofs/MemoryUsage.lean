import Mathlib.Tactic.FieldSimp
import Mathlib.Tactic.NormNum
import PhantomMonitor.Misc.KeyedLines
import PhantomMonitor.Plugins.ProcFiles

/-!
# Memory usage

The loop over `/proc/meminfo` takes a product of zero as a sign that one of the two lines is still
missing. A number keeps its value once it is read, so the product is zero after both lines exactly
when it is zero on 32 bits.
-/

namespace PhantomMonitor

open CText

/-! ## One key -/

/-- A variable and the lines to come: either it stands at zero and its line is still to come, or it
has the number and there is no such line. -/
def Reads (key : CText) (value : Nat) (lines : List CText) (held : BitVec 32) : Prop :=
  held = 0 ∧ SoleLine key value lines ∨
    held = BitVec.ofNat 32 value ∧ ∀ line ∈ lines, ¬ key <+: line

theorem keyedInt_given {key line : CText} {value : Nat} (fits : value < 2 ^ 31)
    (h : Gives key value line) (held : BitVec 32) :
    keyedInt key line held = BitVec.ofNat 32 value := by
  obtain ⟨n, rest, rfl, rfl, stop⟩ := h
  rw [List.append_assoc, keyedInt, if_pos (List.isPrefixOf_iff_prefix.mpr (List.prefix_append _ _)),
    List.drop_left]
  exact n.sscanfInt_text stop fits held

theorem keyedInt_other {key line : CText} (h : ¬ key <+: line) (held : BitVec 32) :
    keyedInt key line held = held :=
  if_neg fun starts => h (List.isPrefixOf_iff_prefix.mp starts)

theorem reads_iff_awaits {key : CText} {value : Nat} {lines : List CText} {held : BitVec 32} :
    Reads key value lines held ↔
      Awaits (key <+: ·) (Gives key value) 0 (BitVec.ofNat 32 value) lines held := Iff.rfl

/-- One line of the loop, for one of the two variables. -/
theorem Reads.step {key line : CText} {value : Nat} {lines : List CText} {held : BitVec 32}
    (fits : value < 2 ^ 31) (h : Reads key value (line :: lines) held) :
    Reads key value lines (keyedInt key line held) :=
  reads_iff_awaits.mpr ((reads_iff_awaits.mp h).step (fun other => keyedInt_other other held)
    fun given => keyedInt_given fits given held)

/-- A number that is not zero has been read. -/
theorem Reads.held_eq {key : CText} {value : Nat} {lines : List CText} {held : BitVec 32}
    (h : Reads key value lines held) (nonzero : held ≠ 0) : held = BitVec.ofNat 32 value :=
  (reads_iff_awaits.mp h).eq_of_ne nonzero

/-- At the end of the file every number has been read. -/
theorem Reads.nil {key : CText} {value : Nat} {held : BitVec 32} (h : Reads key value [] held) :
    held = BitVec.ofNat 32 value := (reads_iff_awaits.mp h).done

/-! ## Files of short lines -/

/-- In a file of lines that fit into the buffer, the one line of a key is the one that the loop
sees. -/
theorem SoleLine.seen {key : CText} {value : Nat} {lines : List CText}
    (h : SoleLine key value lines)
    (plain : '\n' ∉ key) (short : ∀ line ∈ lines, '\n' ∉ line ∧ line.length + 1 < 1024)
    (text : ∀ line ∈ lines, nul ∉ line) : SoleLine key value (procLines (unlines lines)) := by
  rw [procLines_unlines short text]
  have both : List.Forall₂ (fun line seen => seen = line ++ ['\n']) lines
      (lines.map (· ++ ['\n'])) :=
    List.forall₂_map_right_iff.mpr (List.forall₂_same.mpr fun _ _ => rfl)
  refine Sole.forall₂ h both ?_ ?_
  · rintro line seen rfl gives
    exact gives.newline
  · rintro line seen rfl other
    exact not_prefix_newline plain other

/-! ## The loop -/

/-- The rate that the code computes from two numbers, on 32 bits. -/
def intRate (total free : BitVec 32) : Rat := ((total - free).toInt : Rat) * 100 / total.toInt

/-- The loop computes the rate of the two numbers, unless their product is zero on 32 bits. -/
theorem usageLoop_eq {totalKey freeKey : CText} {total free : Nat} (fits : total < 2 ^ 31)
    (fits' : free < 2 ^ 31) {lines : List CText} {held held' : BitVec 32}
    (reads : Reads totalKey total lines held) (reads' : Reads freeKey free lines held')
    (missing : held * held' = 0) :
    usageLoop totalKey freeKey lines held held' =
      if BitVec.ofNat 32 total * BitVec.ofNat 32 free = 0 then 0
      else intRate (BitVec.ofNat 32 total) (BitVec.ofNat 32 free) := by
  induction lines generalizing held held' with
  | nil =>
      rw [← reads.nil, ← reads'.nil, if_pos missing]
      rfl
  | cons line lines ih =>
      have read := reads.step fits
      have read' := reads'.step fits'
      unfold usageLoop
      dsimp only
      by_cases still : keyedInt totalKey line held * keyedInt freeKey line held' = 0
      · rw [if_neg (not_not.mpr still)]
        exact ih read read' still
      · have nonzero : keyedInt totalKey line held ≠ 0 := by
          intro zero
          rw [zero] at still
          exact still BitVec.zero_mul
        have nonzero' : keyedInt freeKey line held' ≠ 0 := by
          intro zero
          rw [zero] at still
          exact still BitVec.mul_zero
        rw [if_pos still]
        rw [read.held_eq nonzero, read'.held_eq nonzero'] at still ⊢
        rw [if_neg still]
        rfl

theorem toInt_ofNat {value : Nat} (fits : value < 2 ^ 31) :
    (BitVec.ofNat 32 value).toInt = value := by
  have nat : (BitVec.ofNat 32 value).toNat = value := by
    rw [BitVec.toNat_ofNat, Nat.mod_eq_of_lt (by omega)]
  rw [BitVec.toInt_eq_toNat_of_lt (by omega), nat]

/-- The rate on 32 bits is the exact one. -/
theorem intRate_eq {total free : Nat} (fits : total < 2 ^ 31) (part : free ≤ total) :
    intRate (BitVec.ofNat 32 total) (BitVec.ofNat 32 free) =
      ((total : Rat) - free) * 100 / total := by
  have used : BitVec.ofNat 32 total - BitVec.ofNat 32 free = BitVec.ofNat 32 (total - free) :=
    BitVec.ofNat_sub_ofNat_of_le total free (by omega) part
  rw [intRate, used, toInt_ofNat fits, toInt_ofNat (by omega)]
  push_cast [part]
  rfl

theorem product_eq_zero_iff (total free : Nat) :
    BitVec.ofNat 32 total * BitVec.ofNat 32 free = 0 ↔ 2 ^ 32 ∣ total * free := by
  rw [← BitVec.ofNat_mul, Nat.dvd_iff_mod_eq_zero, ← BitVec.toNat_inj, BitVec.toNat_ofNat]
  rfl

/-- A usage rate is the exact one exactly when nothing is used or the product of the two numbers is
no multiple of `2 ^ 32`. -/
theorem usageRateRead_iff {totalKey freeKey content : CText} {total free : Nat}
    (positive : 0 < total) (fits : total < 2 ^ 31) (part : free ≤ total)
    (totalLine : SoleLine totalKey total (procLines content))
    (freeLine : SoleLine freeKey free (procLines content)) :
    usageRateRead totalKey freeKey (some content) = ((total : Rat) - free) * 100 / total ↔
      total = free ∨ ¬ 2 ^ 32 ∣ total * free := by
  have loop := usageLoop_eq fits (by omega) (Or.inl ⟨rfl, totalLine⟩) (Or.inl ⟨rfl, freeLine⟩)
    BitVec.zero_mul
  have nonzero : (total : Rat) ≠ 0 := by exact_mod_cast positive.ne'
  rw [usageRateRead, loop, ← product_eq_zero_iff]
  by_cases zero : BitVec.ofNat 32 total * BitVec.ofNat 32 free = 0
  · rw [if_pos zero, eq_comm, div_eq_zero_iff, or_iff_left nonzero,
      mul_eq_zero_iff_right (by norm_num), sub_eq_zero, Nat.cast_inj,
      or_iff_left (not_not.mpr zero)]
  · rw [if_neg zero, intRate_eq fits part]
    exact iff_of_true rfl (Or.inr zero)

/-- The usage of RAM and swap is the exact rate exactly when nothing is used or the product of the
two numbers is no multiple of `2 ^ 32`. -/
theorem memoryUsage_iff {content : CText} {total free : Nat} (positive : 0 < total)
    (fits : total < 2 ^ 31) (part : free ≤ total) :
    (SoleLine "MemTotal:".toList total (procLines content) →
        SoleLine "MemFree:".toList free (procLines content) →
        (ramUsageRateRead (some content) = ((total : Rat) - free) * 100 / total ↔
          total = free ∨ ¬ 2 ^ 32 ∣ total * free)) ∧
      (SoleLine "SwapTotal:".toList total (procLines content) →
        SoleLine "SwapFree:".toList free (procLines content) →
        (swapUsageRateRead (some content) = ((total : Rat) - free) * 100 / total ↔
          total = free ∨ ¬ 2 ^ 32 ∣ total * free)) :=
  ⟨usageRateRead_iff positive fits part, usageRateRead_iff positive fits part⟩

/-- A line of a file of the kernel. -/
def kilobyteLine (key : CText) (n : NumberText) : CText := key ++ n.text ++ " kB".toList

theorem gives_kilobytes (key : CText) (n : NumberText) :
    Gives key n.value (kilobyteLine key n) := by
  refine ⟨n, " kB".toList, rfl, rfl, ?_⟩
  rintro c ⟨⟩
  rfl

theorem kilobyteLine_other {key other : CText} (apart : ¬ key <+: other) (apart' : ¬ other <+: key)
    (n : NumberText) : ¬ key <+: kilobyteLine other n := by
  rw [kilobyteLine, List.append_assoc]
  exact not_prefix_append apart apart' _

/-- Two lines with keys that are apart. -/
theorem soleLine_pair {key key' : CText} (apart : ¬ key <+: key') (apart' : ¬ key' <+: key)
    (n n' : NumberText) :
    SoleLine key n.value [kilobyteLine key n, kilobyteLine key' n'] ∧
      SoleLine key' n'.value [kilobyteLine key n, kilobyteLine key' n'] :=
  ⟨⟨[], _, [_], rfl, gives_kilobytes key n,
      List.forall_mem_singleton.mpr (kilobyteLine_other apart apart' n')⟩,
    ⟨[_], _, [], rfl, gives_kilobytes key' n',
      List.forall_mem_singleton.mpr (kilobyteLine_other apart' apart n)⟩⟩

/-- The lines of RAM in a file of two lines. -/
def ramLines (total free : NumberText) : List CText :=
  ["MemTotal:".toList ++ total.text ++ " kB".toList, "MemFree:".toList ++ free.text ++ " kB".toList]

theorem ramLines_sole (total free : NumberText) :
    SoleLine "MemTotal:".toList total.value (ramLines total free) ∧
      SoleLine "MemFree:".toList free.value (ramLines total free) :=
  soleLine_pair (by decide) (by decide) total free

theorem memoryUsage_iff_quarter :
    let lines := ramLines (NumberText.blankDigit '8' rfl) (NumberText.blankDigit '2' rfl)
    ramUsageRateRead (some (unlines lines)) = ((8 : Nat) - (2 : Nat) : Rat) * 100 / (8 : Nat) := by
  intro lines
  have short : ∀ line ∈ lines, '\n' ∉ line ∧ line.length + 1 < 1024 := by decide +kernel
  have text : ∀ line ∈ lines, nul ∉ line := by decide +kernel
  have total := (ramLines_sole (.blankDigit '8' rfl) (.blankDigit '2' rfl)).1.seen
      (by decide) short text
  have free := (ramLines_sole (.blankDigit '8' rfl) (.blankDigit '2' rfl)).2.seen
      (by decide) short text
  exact ((memoryUsage_iff (by decide) (by decide) (by decide)).1 total free).mpr
    (Or.inr (by decide))

/-- With eight kilobytes of RAM and nothing free, the usage that is read is 0. -/
theorem memoryUsage_full :
    ¬ ∀ (content : CText) (total free : Nat), 0 < total → total < 2 ^ 31 → free ≤ total →
      SoleLine "MemTotal:".toList total (procLines content) →
      SoleLine "MemFree:".toList free (procLines content) →
      ramUsageRateRead (some content) = ((total : Rat) - free) * 100 / total := by
  intro claim
  let lines := ramLines (NumberText.blankDigit '8' rfl) (NumberText.blankDigit '0' rfl)
  have short : ∀ line ∈ lines, '\n' ∉ line ∧ line.length + 1 < 1024 := by decide +kernel
  have text : ∀ line ∈ lines, nul ∉ line := by decide +kernel
  have total := (ramLines_sole (.blankDigit '8' rfl) (.blankDigit '0' rfl)).1.seen
      (by decide) short text
  have free := (ramLines_sole (.blankDigit '8' rfl) (.blankDigit '0' rfl)).2.seen
      (by decide) short text
  have wrong : (8 : Nat) = 0 ∨ ¬ 2 ^ 32 ∣ 8 * 0 := by
    refine (usageRateRead_iff (by decide) (by decide) (by decide) total free).mp ?_
    exact claim _ _ _ (by decide) (by decide) (by decide) total free
  revert wrong
  decide

end PhantomMonitor
