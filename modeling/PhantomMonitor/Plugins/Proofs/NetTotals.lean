import Mathlib.Data.BitVec
import PhantomMonitor.Misc.Counter
import PhantomMonitor.Misc.Search
import PhantomMonitor.Plugins.ProcFiles

/-!
# The totals of the network

The numbers of an interface are read from a fixed offset behind its name, which leaves room for an
index of one digit and the colon. Behind a longer index no counters are found, and what the
variables hold is added: the counters of an earlier interface, a part of the index, or anything at
all.
-/

namespace PhantomMonitor

open CText

/-! ## The lines of the file -/

/-- The kinds of interfaces that are counted. -/
inductive NetKind where
  | eth
  | wlan
  deriving DecidableEq, Repr

/-- How the name of an interface starts. -/
def NetKind.word : NetKind → CText
  | eth => "eth".toList
  | wlan => "wlan".toList

/-- The line of an interface: white space, its name with an index, a colon and sixteen counters. -/
structure NetInterface where
  pad : CText
  kind : NetKind
  index : CText
  row : List NumberText
  tail : CText
  pad_spaces : ∀ c ∈ pad, isSpace c = true
  index_nonempty : index ≠ []
  index_digits : ∀ c ∈ index, c.isDigit = true
  row_length : row.length = 16
  row_apart : NumberText.Apart row
  row_fits : ∀ n ∈ row, n.value < 2 ^ 64
  tail_spaces : ∀ c ∈ tail, isSpace c = true

namespace NetInterface

/-- What stands behind the colon. -/
def counters (i : NetInterface) : CText := i.row.flatMap NumberText.text ++ i.tail

def text (i : NetInterface) : CText :=
  i.pad ++ i.kind.word ++ (i.index ++ ':' :: i.counters)

/-- A counter of the interface. -/
def counter (i : NetInterface) (k : Nat) : BitVec 64 :=
  ((i.row[k]?).map fun n => BitVec.ofNat 64 n.value).getD 0

/-- The bytes that the interface has received and sent. -/
def own (i : NetInterface) : NetTemps := ⟨i.counter 0, i.counter 8⟩

/-- What is added for the interface: its own bytes if its index has one digit; if it has more, the
number from the third digit on, if there is one, and what the variables held before. -/
def taken (i : NetInterface) (temps : NetTemps) : NetTemps :=
  match i.index with
  | [] => temps
  | [_] => i.own
  | [_, _] => temps
  | _ :: _ :: d :: digits => ⟨strtoull (d :: digits), temps.sendBytes⟩

end NetInterface

/-- A line of the file: an interface that is counted, or a text without the name of one. -/
inductive NetLine where
  | interface (i : NetInterface)
  | other (text : CText) (apart : ∀ k : NetKind, ¬ k.word <:+: text)

namespace NetLine

def text : NetLine → CText
  | interface i => i.text
  | other text _ => text

def interface? : NetLine → Option NetInterface
  | interface i => some i
  | other _ _ => none

end NetLine

/-- The interfaces of some kinds, in the order of their lines. -/
def matching (kinds : List NetKind) (lines : List NetLine) : List NetInterface :=
  (lines.filterMap NetLine.interface?).filter fun i => i.kind ∈ kinds

/-! ## One interface -/

namespace NetKind

/-- A letter that only the word of this kind has. -/
def letter : NetKind → Char
  | eth => 'e'
  | wlan => 'w'

theorem word_eq (k : NetKind) : ∃ word, k.word = k.letter :: word := by
  cases k <;> exact ⟨_, rfl⟩

theorem letter_plain (k : NetKind) :
    isSpace k.letter = false ∧ k.letter.isDigit = false ∧ k.letter ≠ ':' := by
  cases k <;> decide

theorem letter_not_mem {k k' : NetKind} (differ : k' ≠ k) : k.letter ∉ k'.word := by
  cases k <;> cases k' <;> revert differ <;> decide

end NetKind

/-- What the variables hold after the conversions of a text. -/
def scanned (text : CText) (temps : NetTemps) : NetTemps :=
  ⟨(scanUnsigned 9 text)[0]?.getD temps.rcvBytes, (scanUnsigned 9 text)[8]?.getD temps.sendBytes⟩

theorem scanUnsigned_colon (n : Nat) (rest : CText) : scanUnsigned n (':' :: rest) = [] := by
  cases n <;> rfl

/-- At the colon no conversion succeeds. -/
theorem scanned_colon (rest : CText) (temps : NetTemps) : scanned (':' :: rest) temps = temps := by
  rw [scanned, scanUnsigned_colon]
  rfl

/-- What is left of an index is taken for the first number, and the conversions end at the colon. -/
theorem scanned_digits {digits : CText} (nonempty : digits ≠ [])
    (decimal : ∀ c ∈ digits, c.isDigit = true) (rest : CText) (temps : NetTemps) :
    scanned (digits ++ ':' :: rest) temps = ⟨strtoull digits, temps.sendBytes⟩ := by
  let number : NumberText := ⟨[], digits, by simp, nonempty, decimal⟩
  have value : strtoull (number.text ++ []) = number.unsigned := number.strtoull_text (by simp)
  rw [List.append_nil] at value
  have stop : ∀ c ∈ (':' :: rest).head?, c.isDigit = false := by
    rintro c ⟨⟩
    rfl
  have found : scanUnsigned 9 (number.text ++ ':' :: rest) = [strtoull digits] := by
    rw [scanUnsigned, number.scanInteger_text stop]
    dsimp only
    rw [number.strtoull_text stop, scanUnsigned_colon, ← value]
    rfl
  show scanned (number.text ++ ':' :: rest) temps = _
  rw [scanned, found]
  rfl

namespace NetInterface

/-- The characters behind the colon. -/
theorem mem_counters {i : NetInterface} {c : Char} (h : c ∈ i.counters) :
    isSpace c = true ∨ c.isDigit = true := by
  rcases List.mem_append.mp h with inRow | inTail
  · obtain ⟨n, -, inside⟩ := List.mem_flatMap.mp inRow
    rcases List.mem_append.mp inside with gap | digit
    · exact Or.inl (n.spaces c gap)
    · exact Or.inr (n.decimal c digit)
  · exact Or.inl (i.tail_spaces c inTail)

/-- A letter of the line is one of the word. -/
theorem mem_word {i : NetInterface} {c : Char} (h : c ∈ i.text) (space : isSpace c = false)
    (digit : c.isDigit = false) (colon : c ≠ ':') : c ∈ i.kind.word := by
  have neither : ∀ {P : Prop}, isSpace c = true ∨ c.isDigit = true → P := by
    intro P either
    simp [space, digit] at either
  rcases List.mem_append.mp h with inFront | behind
  · rcases List.mem_append.mp inFront with pad | word
    · exact neither (Or.inl (i.pad_spaces c pad))
    · exact word
  · rcases List.mem_append.mp behind with index | behind
    · exact neither (Or.inr (i.index_digits c index))
    · rcases List.mem_cons.mp behind with rfl | inside
      · exact absurd rfl colon
      · exact neither (mem_counters inside)

/-- The search for the word of another kind finds nothing. -/
theorem subLine_other {i : NetInterface} {k : NetKind} (differ : i.kind ≠ k) :
    subLine i.text k.word = none := by
  obtain ⟨word, hword⟩ := k.word_eq
  obtain ⟨space, digit, colon⟩ := k.letter_plain
  have missing : k.letter ∉ i.text := fun inside =>
    NetKind.letter_not_mem differ (mem_word inside space digit colon)
  have needed : k.letter ∈ k.word := hword ▸ List.mem_cons_self
  rw [subLine, Search.dropInfix?_eq_none.mpr fun inside => missing (inside.subset needed)]
  rfl

/-- The search for the word of the interface finds its name. -/
theorem subLine_own (i : NetInterface) :
    subLine i.text i.kind.word = some (i.kind.word ++ (i.index ++ ':' :: i.counters)) := by
  obtain ⟨word, hword⟩ := i.kind.word_eq
  have front : i.kind.letter ∉ i.pad := by
    intro inside
    have space := i.pad_spaces _ inside
    rw [i.kind.letter_plain.1] at space
    cases space
  rw [subLine, text, hword, Search.dropInfix?_of_head front]
  rfl

/-- Conversions of the counters of an interface. -/
theorem scanUnsigned_counters (i : NetInterface) :
    scanUnsigned 9 i.counters = (i.row.take 9).map NumberText.unsigned := by
  have stop : ∀ c ∈ i.tail.head?, c.isDigit = false := by
    intro c first
    by_contra digit
    have space := i.tail_spaces c (List.mem_of_mem_head? first)
    rw [isSpace_eq_false_of_isDigit (Bool.eq_true_of_not_eq_false digit)] at space
    cases space
  exact NumberText.scanUnsigned_row i.row_apart stop (by rw [i.row_length]; decide)

theorem scanned_counters (i : NetInterface) (temps : NetTemps) :
    scanned i.counters temps = i.own := by
  have present : ∀ k < 9, ∀ old : BitVec 64,
      ((i.row.take 9).map NumberText.unsigned)[k]?.getD old = i.counter k := by
    intro k hk old
    have inside : k < i.row.length := by
      rw [i.row_length]
      omega
    rw [List.getElem?_map, List.getElem?_take_of_lt hk, counter, List.getElem?_eq_getElem inside]
    exact NumberText.unsigned_eq (i.row_fits _ (List.getElem_mem inside))
  rw [scanned, scanUnsigned_counters, present 0 (by decide), present 8 (by decide)]
  rfl

/-- The conversions find the counters behind an index of one digit only. -/
theorem scanned_eq_taken (i : NetInterface) (temps : NetTemps) :
    scanned ((i.index ++ ':' :: i.counters).drop 2) temps = i.taken temps := by
  unfold taken
  split
  · rename_i empty
    exact absurd empty i.index_nonempty
  · rename_i d one
    rw [one]
    exact i.scanned_counters temps
  · rename_i d d' two
    rw [two]
    exact scanned_colon i.counters temps
  · rename_i d d' d'' digits many
    have decimal : ∀ c ∈ d'' :: digits, c.isDigit = true := by
      intro c inside
      apply i.index_digits
      rw [many]
      exact List.mem_cons_of_mem _ (List.mem_cons_of_mem _ inside)
    rw [many]
    exact scanned_digits (List.cons_ne_nil d'' digits) decimal i.counters temps

end NetInterface

/-- The statistics and the variables after an interface. -/
def addTaken (acc : NetStats × NetTemps) (i : NetInterface) : NetStats × NetTemps :=
  let temps := i.taken acc.2
  (⟨acc.1.rcvBytes + temps.rcvBytes, acc.1.sendBytes + temps.sendBytes⟩, temps)

/-- The words that a reader searches for. The numbers start behind the word, one digit and the
colon. -/
def searches (kinds : List NetKind) : List (CText × Nat) :=
  kinds.map fun k => (k.word, k.word.length + 2)

theorem addInterface_own (i : NetInterface) (acc : NetStats × NetTemps) :
    addInterface i.kind.word (i.kind.word.length + 2) i.text acc = .ok (addTaken acc i) := by
  have long : ¬ (i.kind.word ++ (i.index ++ ':' :: i.counters)).length <
      i.kind.word.length + 2 := by
    have := List.length_pos_iff.mpr i.index_nonempty
    simp only [List.length_append, List.length_cons]
    omega
  rw [addInterface, i.subLine_own]
  dsimp only
  rw [if_neg long, List.drop_length_add_append, addTaken, ← i.scanned_eq_taken]
  rfl

theorem addInterface_other {i : NetInterface} {k : NetKind} (differ : i.kind ≠ k) (offset : Nat)
    (acc : NetStats × NetTemps) : addInterface k.word offset i.text acc = .ok acc := by
  rw [addInterface, NetInterface.subLine_other differ]

/-- The statistics after a line. -/
def addLine (kinds : List NetKind) (acc : NetStats × NetTemps) : NetLine → NetStats × NetTemps
  | .interface i => if i.kind ∈ kinds then addTaken acc i else acc
  | .other _ _ => acc

theorem addInterfaces_cons (k : NetKind) (kinds : List NetKind) (acc : NetStats × NetTemps)
    (line : CText) :
    addInterfaces (searches (k :: kinds)) acc line =
      addInterface k.word (k.word.length + 2) line acc >>= fun acc =>
        addInterfaces (searches kinds) acc line := List.foldlM_cons

/-- The searches for other words find nothing. -/
theorem addInterfaces_none {kinds : List NetKind} {line : CText}
    (none : ∀ k ∈ kinds, ∀ offset acc, addInterface k.word offset line acc = .ok acc)
    (acc : NetStats × NetTemps) : addInterfaces (searches kinds) acc line = .ok acc := by
  induction kinds with
  | nil => rfl
  | cons k kinds ih =>
      rw [addInterfaces_cons, none k List.mem_cons_self]
      exact ih fun k' member => none k' (List.mem_cons_of_mem k member)

theorem addInterfaces_line {kinds : List NetKind} (distinct : kinds.Nodup)
    (acc : NetStats × NetTemps) (line : NetLine) :
    addInterfaces (searches kinds) acc line.text = .ok (addLine kinds acc line) := by
  cases line with
  | other text apart =>
      apply addInterfaces_none
      intro k _ offset acc
      unfold NetLine.text addInterface subLine
      rw [Search.dropInfix?_eq_none.mpr (apart k)]
      rfl
  | interface i =>
      rw [addLine, NetLine.text]
      induction kinds generalizing acc with
      | nil => rfl
      | cons k kinds ih =>
          obtain ⟨notLater, distinct⟩ := List.nodup_cons.mp distinct
          rw [addInterfaces_cons]
          by_cases own : i.kind = k
          · subst own
            rw [if_pos List.mem_cons_self, addInterface_own]
            apply addInterfaces_none
            intro k member
            exact addInterface_other fun same => notLater (same ▸ member)
          · have same : i.kind ∈ k :: kinds ↔ i.kind ∈ kinds := by simp [own]
            simp only [same]
            rw [addInterface_other own]
            exact ih distinct acc

/-! ## The whole file -/

/-- The statistics after all lines. -/
theorem addInterfaces_lines {kinds : List NetKind} (distinct : kinds.Nodup) (lines : List NetLine)
    (acc : NetStats × NetTemps) :
    (lines.map NetLine.text).foldlM (addInterfaces (searches kinds)) acc =
      .ok ((matching kinds lines).foldl addTaken acc) := by
  induction lines generalizing acc with
  | nil => rfl
  | cons line lines ih =>
      rw [List.map_cons, List.foldlM_cons, addInterfaces_line distinct]
      refine (ih _).trans ?_
      cases line with
      | other text apart => rfl
      | interface i =>
          by_cases inside : i.kind ∈ kinds
          · have first : matching kinds (.interface i :: lines) = i :: matching kinds lines := by
              simp [matching, NetLine.interface?, inside]
            rw [addLine, if_pos inside, first, List.foldl_cons]
          · have skipped : matching kinds (.interface i :: lines) = matching kinds lines := by
              simp [matching, NetLine.interface?, inside]
            rw [addLine, if_neg inside, skipped]

/-- What is added for each interface, in turn. -/
def takes (temps : NetTemps) : List NetInterface → List NetTemps
  | [] => []
  | i :: interfaces => i.taken temps :: takes (i.taken temps) interfaces

theorem foldl_addTaken (interfaces : List NetInterface) (acc : NetStats × NetTemps) :
    (interfaces.foldl addTaken acc).1 =
      ⟨acc.1.rcvBytes + ((takes acc.2 interfaces).map NetTemps.rcvBytes).sum,
        acc.1.sendBytes + ((takes acc.2 interfaces).map NetTemps.sendBytes).sum⟩ := by
  induction interfaces generalizing acc with
  | nil => simp [takes]
  | cons i interfaces ih =>
      rw [List.foldl_cons, ih, takes, List.map_cons, List.map_cons, List.sum_cons, List.sum_cons,
        ← add_assoc, ← add_assoc]
      rfl

/-- The totals of the interfaces, modulo `2 ^ 64`. -/
def netTotals (interfaces : List NetInterface) : NetStats :=
  ⟨(interfaces.map fun i => i.counter 0).sum, (interfaces.map fun i => i.counter 8).sum⟩

/-- The interfaces with an index of more than one digit, each with what is added for it. -/
def longIndexed (temps : NetTemps) (interfaces : List NetInterface) :
    List (NetInterface × NetTemps) :=
  (interfaces.zip (takes temps interfaces)).filter fun pair => pair.1.index.length ≠ 1

/-- What is added for the interfaces with a long index has, by accident, the sums of their own
counters. -/
def Balanced (temps : NetTemps) (interfaces : List NetInterface) : Prop :=
  ((longIndexed temps interfaces).map fun pair => pair.2.rcvBytes).sum =
      ((longIndexed temps interfaces).map fun pair => pair.1.counter 0).sum ∧
    ((longIndexed temps interfaces).map fun pair => pair.2.sendBytes).sum =
      ((longIndexed temps interfaces).map fun pair => pair.1.counter 8).sum

theorem NetInterface.taken_of_one {i : NetInterface} (one : i.index.length = 1) (temps : NetTemps) :
    i.taken temps = i.own := by
  obtain ⟨d, digit⟩ := List.length_eq_one_iff.mp one
  rw [taken, digit]

theorem own_of_mem_zip {temps : NetTemps} {interfaces : List NetInterface}
    {pair : NetInterface × NetTemps} (member : pair ∈ interfaces.zip (takes temps interfaces))
    (one : pair.1.index.length = 1) : pair.2 = pair.1.own := by
  induction interfaces generalizing temps with
  | nil => cases member
  | cons i interfaces ih =>
      rw [takes, List.zip_cons_cons] at member
      rcases List.mem_cons.mp member with rfl | later
      · exact NetInterface.taken_of_one one temps
      · exact ih later

theorem length_takes (temps : NetTemps) (interfaces : List NetInterface) :
    (takes temps interfaces).length = interfaces.length := by
  induction interfaces generalizing temps with
  | nil => rfl
  | cons i interfaces ih => rw [takes, List.length_cons, ih, List.length_cons]

/-- A sum over what is added for the interfaces is that of one of their counters exactly when this
holds for those with a long index. -/
theorem sum_takes_iff {temps : NetTemps} {interfaces : List NetInterface}
    {bytes : NetTemps → BitVec 64} {k : Nat} (own : ∀ i : NetInterface, bytes i.own = i.counter k) :
    ((takes temps interfaces).map bytes).sum = (interfaces.map fun i => i.counter k).sum ↔
      ((longIndexed temps interfaces).map fun pair => bytes pair.2).sum =
        ((longIndexed temps interfaces).map fun pair => pair.1.counter k).sum := by
  have length := length_takes temps interfaces
  have added : (takes temps interfaces).map bytes =
      (interfaces.zip (takes temps interfaces)).map fun pair => bytes pair.2 := by
    calc (takes temps interfaces).map bytes
        = ((interfaces.zip (takes temps interfaces)).map Prod.snd).map bytes := by
          rw [List.map_snd_zip length.le]
      _ = _ := List.map_map
  have counters : (interfaces.map fun i => i.counter k) =
      (interfaces.zip (takes temps interfaces)).map fun pair => pair.1.counter k := by
    calc (interfaces.map fun i => i.counter k)
        = ((interfaces.zip (takes temps interfaces)).map Prod.fst).map fun i => i.counter k := by
          rw [List.map_fst_zip length.ge]
      _ = _ := List.map_map
  rw [added, counters]
  apply Counter.sum_eq_iff_filter
  intro pair member one
  rw [own_of_mem_zip member (not_not.mp one), own]

/-- A reader of a file finds the totals of its interfaces exactly when what is added for those with
a long index has the sums of their own counters. -/
theorem readNetDev_iff {kinds : List NetKind} (distinct : kinds.Nodup) {content : CText}
    {lines : List NetLine} (file : procLines content = lines.map NetLine.text) (temps : NetTemps)
    (netsInfo : NetStats) :
    readNetDev (searches kinds) (some content) temps netsInfo =
        .ok (netTotals (matching kinds lines), 1) ↔
      Balanced temps (matching kinds lines) := by
  have run := addInterfaces_lines distinct lines (⟨0, 0⟩, temps)
  have totals := foldl_addTaken (matching kinds lines) (⟨0, 0⟩, temps)
  rw [zero_add, zero_add] at totals
  have result : readNetDev (searches kinds) (some content) temps netsInfo =
      .ok (⟨((takes temps (matching kinds lines)).map NetTemps.rcvBytes).sum,
        ((takes temps (matching kinds lines)).map NetTemps.sendBytes).sum⟩, 1) := by
    rw [readNetDev, file, run, ← totals]
    rfl
  rw [result, netTotals, Balanced, ← sum_takes_iff (fun _ => rfl), ← sum_takes_iff (fun _ => rfl)]
  simp only [Except.ok.injEq, Prod.mk.injEq, NetStats.mk.injEq, and_true]

/-- Indexes of one digit. -/
theorem balanced_of_one {interfaces : List NetInterface}
    (one : ∀ i ∈ interfaces, i.index.length = 1) (temps : NetTemps) :
    Balanced temps interfaces := by
  have none : longIndexed temps interfaces = [] := by
    apply List.filter_eq_nil_iff.mpr
    intro pair member
    simp [one pair.1 (List.of_mem_zip member).1]
  rw [Balanced, none]
  exact ⟨rfl, rfl⟩

/-- The network totals of Linux_resources and of Linux_sys_power are right exactly when what is
added for the interfaces with a long index has the sums of their own counters. -/
theorem netStatRead_totals_iff {content : CText} {lines : List NetLine}
    (file : procLines content = lines.map NetLine.text) (temps : NetTemps) (netsInfo : NetStats) :
    (resourcesNetStatRead (some content) temps netsInfo =
          .ok (netTotals (matching [.eth, .wlan] lines), 1) ↔
        Balanced temps (matching [.eth, .wlan] lines)) ∧
      (powerNetStatRead (some content) temps netsInfo =
          .ok (netTotals (matching [.wlan] lines), 1) ↔
        Balanced temps (matching [.wlan] lines)) :=
  ⟨@readNetDev_iff [.eth, .wlan] (by decide) content lines file temps netsInfo,
    @readNetDev_iff [.wlan] (by decide) content lines file temps netsInfo⟩

/-- An interface all of whose counters are 5. -/
def fiveEach (kind : NetKind) (index : Nat) : NetInterface where
  pad := [' ']
  kind := kind
  index := Nat.toDigits 10 index
  row := List.replicate 16 (.blankDigit '5' rfl)
  tail := ['\n']
  pad_spaces := NumberText.blank_space
  index_nonempty := Nat.toDigits_ne_nil
  index_digits _ := isDigit_of_mem_toDigits
  row_length := List.length_replicate
  row_apart := by
    intro n member
    rw [List.eq_of_mem_replicate (List.mem_of_mem_tail member)]
    exact List.cons_ne_nil _ _
  row_fits := by
    intro n member
    rw [List.eq_of_mem_replicate member]
    decide
  tail_spaces := List.forall_mem_singleton.mpr rfl

/-- The first line of the file. -/
def netHeader : CText := "Inter-|   Receive\n".toList

theorem netHeader_apart : ∀ k : NetKind, ¬ k.word <:+: netHeader := by
  intro k
  cases k
  · decide
  · decide

theorem netStatRead_totals_iff_wlan1 :
    let content := netHeader ++ (fiveEach .eth 0).text ++ (fiveEach .wlan 1).text
    resourcesNetStatRead (some content) ⟨0, 0⟩ ⟨0, 0⟩ = .ok (⟨10, 10⟩, 1) ∧
      powerNetStatRead (some content) ⟨0, 0⟩ ⟨0, 0⟩ = .ok (⟨5, 5⟩, 1) := by
  intro content
  have file : procLines content = [NetLine.other netHeader netHeader_apart,
      .interface (fiveEach .eth 0), .interface (fiveEach .wlan 1)].map NetLine.text := by
    decide +kernel
  have short : ∀ i ∈ [fiveEach .eth 0, fiveEach .wlan 1], i.index.length = 1 :=
    List.forall_mem_cons.mpr ⟨rfl, List.forall_mem_singleton.mpr rfl⟩
  obtain ⟨resources, power⟩ := netStatRead_totals_iff file ⟨0, 0⟩ ⟨0, 0⟩
  exact ⟨resources.mpr (balanced_of_one short _),
    power.mpr (balanced_of_one (fun i member => short i (List.mem_cons_of_mem _ member)) _)⟩

/-- The counters of `eth10` are not found. -/
theorem netStatRead_eth10 :
    ¬ ∀ (content : CText) (lines : List NetLine) (temps : NetTemps) (netsInfo : NetStats),
      procLines content = lines.map NetLine.text →
      resourcesNetStatRead (some content) temps netsInfo =
        .ok (netTotals (matching [.eth, .wlan] lines), 1) := by
  intro claim
  have file : procLines (fiveEach .eth 10).text =
      [.interface (fiveEach .eth 10)].map NetLine.text := by
    decide +kernel
  have found : resourcesNetStatRead (some (fiveEach .eth 10).text) ⟨0, 0⟩ ⟨0, 0⟩ =
      .ok (⟨0, 0⟩, 1) := by
    decide +kernel
  have totals : netTotals (matching [.eth, .wlan] [.interface (fiveEach .eth 10)]) = ⟨5, 5⟩ := by
    decide +kernel
  have same := claim _ _ ⟨0, 0⟩ ⟨0, 0⟩ file
  rw [found, totals] at same
  revert same
  decide

end PhantomMonitor
