import PhantomMonitor.Api.Proofs.ParameterTexts
import PhantomMonitor.Misc.Decimal

/-!
# Answers that list all parameters

An answer lists pairs of names and values in braces. When each of the nine names occurs once, the
search for a name finds its pair, and the comma or brace behind the pair ends its value.
-/

namespace PhantomMonitor

open CText

/-- A name and its value in the answer. -/
structure AnswerEntry where
  name : CText
  value : CText
  deriving DecidableEq, Repr

/-- The entry as it is written. -/
def AnswerEntry.text (e : AnswerEntry) : CText :=
  '"' :: e.name ++ ('"' :: ':' :: '"' :: e.value ++ ['"'])

/-- An answer: its beginning, the entries in braces, and what is behind the first closing brace. -/
structure ConfigAnswer where
  before : CText
  entries : List AnswerEntry
  after : CText

/-- The answer as it is sent. -/
def ConfigAnswer.text (a : ConfigAnswer) : CText :=
  a.before ++ '{' :: ([','].intercalate (a.entries.map AnswerEntry.text) ++ '}' :: a.after)

/-- The answer has an entry for each parameter, and its name stands nowhere else. -/
structure ConfigAnswer.Lists (a : ConfigAnswer) (v : Fin 9 → Decimal) : Prop where
  speaks : hasSubstr a.text "parameters".toList = true
  closed : ',' ∉ a.after
  listed : ∀ i, ⟨parametersName i, (v i).text⟩ ∈ a.entries
  once : ∀ i, Search.occurrences (parametersName i) a.text = 1
  short : ∀ i, (v i).text.length ≤ 15

/-- What stands on either side of a piece between separators. -/
theorem exists_intercalate {α : Type} (sep : List α) {x : List α} {xs : List (List α)}
    (h : x ∈ xs) :
    ∃ before back, sep.intercalate xs = before ++ x ++ back ∧
      (back = [] ∨ ∃ rest, back = sep ++ rest) := by
  induction xs with
  | nil => cases h
  | cons y ys ih =>
      rcases List.mem_cons.mp h with rfl | member
      · by_cases last : ys = []
        · subst last
          exact ⟨[], [], by simp, Or.inl rfl⟩
        · refine ⟨[], sep ++ sep.intercalate ys, ?_, Or.inr ⟨_, rfl⟩⟩
          rw [List.intercalate_cons_of_ne_nil last, List.nil_append, List.append_assoc]
      · obtain ⟨before, back, whole, behind⟩ := ih member
        refine ⟨y ++ sep ++ before, back, ?_, behind⟩
        rw [List.intercalate_cons_of_ne_nil (List.ne_nil_of_mem member), whole]
        simp only [List.append_assoc]

/-- The text between a name and the end of its value. -/
def quoted (value : CText) : CText := '"' :: ':' :: '"' :: value ++ ['"']

theorem gapFits_quoted {value : CText} (h : value.length ≤ 15) : GapFits (quoted value) := by
  unfold GapFits quoted
  simp only [List.cons_append, List.length_cons, List.length_append, List.length_nil]
  omega

theorem gapValue_quoted {value : CText} (h : value.length ≤ 15) :
    gapValue (quoted value) = value := by
  have length : ((quoted value).length + (2 ^ 32 - 4)) % 2 ^ 32 = value.length := by
    unfold quoted
    simp only [List.cons_append, List.length_cons, List.length_append, List.length_nil]
    omega
  rw [gapValue, length]
  exact List.take_left

theorem notMem_quoted {value : CText} {c : Char} (hvalue : c ∉ value) (hquote : c ≠ '"')
    (hcolon : c ≠ ':') : c ∉ quoted value := by
  simp [quoted, hvalue, hquote, hcolon]

/-- A parameter that is listed is found with its value. -/
theorem ConfigAnswer.Lists.parameterText {a : ConfigAnswer} {v : Fin 9 → Decimal} (h : a.Lists v)
    (i : Fin 9) : parameterText a.text (parametersName i) = .gap (quoted (v i).text) := by
  obtain ⟨front, back, pieces, behind⟩ :=
    exists_intercalate [','] (List.mem_map_of_mem (h.listed i))
  have whole : a.text = (a.before ++ '{' :: front ++ ['"']) ++ parametersName i ++
      (quoted (v i).text ++ (back ++ '}' :: a.after)) := by
    rw [ConfigAnswer.text, pieces, AnswerEntry.text, quoted]
    simp only [List.append_assoc, List.cons_append, List.nil_append]
  have once := h.once i
  rw [whole] at once
  have comma : ',' ∉ quoted (v i).text :=
    notMem_quoted ((v i).notMem_text rfl (by simp) (by simp) (by simp)) (by simp) (by simp)
  have brace : '}' ∉ quoted (v i).text :=
    notMem_quoted ((v i).notMem_text rfl (by simp) (by simp) (by simp)) (by simp) (by simp)
  rw [PhantomMonitor.parameterText, whole, Search.dropInfix?_of_once once]
  dsimp only
  rcases behind with rfl | ⟨rest, rfl⟩
  · have last : ',' ∉ quoted (v i).text ++ ([] ++ '}' :: a.after) := by
      simp [comma, h.closed]
    rw [if_neg last, if_pos (by simp), List.nil_append, Search.takeWhile_ne brace]
  · rw [if_pos (by simp), List.cons_append, List.cons_append, Search.takeWhile_ne comma]

/-- Each parameter is the text that is written for it, converted. -/
theorem getParameters_listed {ν : Type} (atof : CText → ν) {a : ConfigAnswer} {v : Fin 9 → Decimal}
    (h : a.Lists v) (values : Fin 9 → ν) :
    getParameters atof (some a.text) values = .ok (1, fun i => atof (v i).text) := by
  have passes : ∀ i, (parameterText a.text (parametersName i)).Passes := by
    intro i
    rw [h.parameterText i]
    exact gapFits_quoted (h.short i)
  rw [getParameters_passes atof values h.speaks passes]
  congr 2
  funext i
  rw [assigned, h.parameterText i]
  dsimp only
  rw [if_pos trivial, gapValue_quoted (h.short i)]

/-- Each parameter is the number that is written for it, in whatever order the entries stand. -/
theorem getParameters_decodes {a : ConfigAnswer} {v : Fin 9 → Decimal} (h : a.Lists v)
    (values : Fin 9 → Rat) :
    getParameters atof (some a.text) values = .ok (1, fun i => (v i).value) := by
  rw [getParameters_listed atof h values]
  simp only [Decimal.atof_text]

/-- The numeral of a natural number and a half. -/
def halfPast (n : Nat) : Decimal where
  sign := none
  whole := Nat.toDigits 10 n
  fraction := some ['5']
  whole_digits _ := isDigit_of_mem_toDigits
  fraction_digits := by simp
  some_digit := by simp

/-- An answer with the parameters in reverse order behind another entry. -/
def reversedAnswer : ConfigAnswer where
  before := "\x7b\"parameters\":".toList
  entries := ⟨"host".toList, "node01".toList⟩ ::
    (List.finRange 9).reverse.map fun i => ⟨parametersName i, (halfPast i).text⟩
  after := ['}']

theorem getParameters_decodes_reversed :
    getParameters atof (some reversedAnswer.text) (fun _ => 0) =
      .ok (1, fun i => (halfPast i).value) := by
  have listed : reversedAnswer.Lists fun i => halfPast i :=
    { speaks := by decide +kernel
      closed := by decide
      listed := by decide +kernel
      once := by decide +kernel
      short := by decide +kernel }
  exact getParameters_decodes listed _

end PhantomMonitor
