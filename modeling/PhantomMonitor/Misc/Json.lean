import PhantomMonitor.Misc.Scanf

/-!
# JSON texts

A reader of JSON. A string stands for the text between its quotes, with the escapes as they are
written; a number stands for the rational that it denotes; an object keeps its fields in their
order.

`Denotes` says that a text is read as a value wherever it stands, and has one rule for each form of
text. What the reader refuses is refused behind any number of items or fields that it understands.
-/

namespace PhantomMonitor

open CText

/-- A JSON value. -/
inductive Json where
  | null
  | bool (b : Bool)
  | str (text : CText)
  | num (value : Rat)
  | arr (items : List Json)
  | obj (fields : List (CText × Json))

namespace Json

/-! ## The reader -/

/-- White space between tokens. -/
def isBlank (c : Char) : Bool := c == ' ' || c == '\t' || c == '\n' || c == '\r'

def skipBlanks (text : CText) : CText := text.dropWhile isBlank

/-- Where a reader of a string is: outside of an escape, behind a backslash, or before one of the
digits of `\uXXXX`, with the number of digits behind it. -/
inductive InString where
  | plain
  | escaped
  | unicode (left : Nat)
  deriving DecidableEq, Repr

def isHexDigit (c : Char) : Bool :=
  c.isDigit || (97 ≤ c.toNat && c.toNat ≤ 102) || (65 ≤ c.toNat && c.toNat ≤ 70)

/-- One character of a string; `none` if it may not stand there. -/
def stringStep : InString → Char → Option InString
  | .plain, c => if c = '\\' then some .escaped else if c.toNat < 32 then none else some .plain
  | .escaped, c =>
      if c = 'u' then some (.unicode 3)
      else if c ∈ ['"', '\\', '/', 'b', 'f', 'n', 'r', 't'] then some .plain
      else none
  | .unicode left, c =>
      if isHexDigit c then some (if left = 0 then .plain else .unicode (left - 1)) else none

/-- A string behind its first quote: the text before the closing quote, and what is behind it. -/
def readString (place : InString) : CText → Option (CText × CText)
  | [] => none
  | c :: rest =>
      if place = .plain ∧ c = '"' then some ([], rest)
      else do
        let place ← stringStep place c
        let (text, rest) ← readString place rest
        return (c :: text, rest)

/-- The minus sign of a number. -/
def takeMinus (text : CText) : Bool × CText :=
  match text with
  | '-' :: rest => (true, rest)
  | _ => (false, text)

/-- The digits behind a point, of which there is at least one. -/
def readFraction (text : CText) : Option (CText × CText) :=
  match text with
  | '.' :: rest => if (takeDigits rest).1 = [] then none else some (takeDigits rest)
  | _ => some ([], text)

/-- The exponent of a number. -/
def readExponent (text : CText) : Option (Int × CText) :=
  match text with
  | [] => some (0, [])
  | c :: rest =>
      if c = 'e' ∨ c = 'E' then
        let (minus, rest) := takeSign rest
        let (digits, rest) := takeDigits rest
        if digits = [] then none
        else
          let value : Int := Nat.ofDigitChars 10 digits 0
          some (if minus then -value else value, rest)
      else some (0, c :: rest)

/-- A number: no zero stands before another digit. -/
def readNumber (text : CText) : Option (Rat × CText) :=
  let (minus, text) := takeMinus text
  let (whole, text) := takeDigits text
  if whole = [] ∨ (whole.head? = some '0' ∧ whole.length ≠ 1) then none
  else do
    let (fraction, text) ← readFraction text
    let (exponent, text) ← readExponent text
    let value : Rat :=
      Nat.ofDigitChars 10 (whole ++ fraction) 0 / 10 ^ fraction.length * 10 ^ exponent
    return (if minus then -value else value, text)

/-- One of the three words. -/
def readWord (word : CText) (value : Json) (text : CText) : Option (Json × CText) :=
  if word.isPrefixOf text then some (value, text.drop word.length) else none

/-- The name of a field and the colon behind it. -/
def readName (text : CText) : Option (CText × CText) :=
  match skipBlanks text with
  | [] => none
  | c :: rest =>
      if c = '"' then
        match readString .plain rest with
        | none => none
        | some (name, rest) =>
            if (skipBlanks rest).head? = some ':' then some (name, (skipBlanks rest).tail) else none
      else none

mutual

/-- A value at the start of a text, and what is behind it. The fuel bounds the depth and the number
of items of one list. -/
def readValue : Nat → CText → Option (Json × CText)
  | 0, _ => none
  | fuel + 1, text =>
      match skipBlanks text with
      | [] => none
      | c :: rest =>
          if c = '"' then (readString .plain rest).map fun found => (.str found.1, found.2)
          else if c = '[' then
            if (skipBlanks rest).head? = some ']' then some (.arr [], (skipBlanks rest).tail)
            else (readItems fuel rest).map fun found => (.arr found.1, found.2)
          else if c = '{' then
            if (skipBlanks rest).head? = some '}' then some (.obj [], (skipBlanks rest).tail)
            else (readFields fuel rest).map fun found => (.obj found.1, found.2)
          else if c = 't' then readWord "true".toList (.bool true) (c :: rest)
          else if c = 'f' then readWord "false".toList (.bool false) (c :: rest)
          else if c = 'n' then readWord "null".toList .null (c :: rest)
          else (readNumber (c :: rest)).map fun found => (.num found.1, found.2)

/-- The items of an array, up to and with its bracket. -/
def readItems : Nat → CText → Option (List Json × CText)
  | 0, _ => none
  | fuel + 1, text =>
      match readValue fuel text with
      | none => none
      | some (item, rest) =>
          match skipBlanks rest with
          | [] => none
          | c :: rest =>
              if c = ',' then (readItems fuel rest).map fun found => (item :: found.1, found.2)
              else if c = ']' then some ([item], rest)
              else none

/-- The fields of an object, up to and with its brace. -/
def readFields : Nat → CText → Option (List (CText × Json) × CText)
  | 0, _ => none
  | fuel + 1, text =>
      match readName text with
      | none => none
      | some (name, rest) =>
          match readValue fuel rest with
          | none => none
          | some (value, rest) =>
              match skipBlanks rest with
              | [] => none
              | c :: rest =>
                  if c = ',' then
                    (readFields fuel rest).map fun found => ((name, value) :: found.1, found.2)
                  else if c = '}' then some ([(name, value)], rest)
                  else none

end

/-- A whole text. -/
def read (text : CText) : Option Json :=
  match readValue text.length text with
  | some (value, rest) => if skipBlanks rest = [] then some value else none
  | none => none

/-! ## Texts of values -/

/-- What may stand behind a number. -/
def Stops (rest : CText) : Prop :=
  ∀ c ∈ rest.head?, c.isDigit = false ∧ c ≠ '.' ∧ c ≠ 'e' ∧ c ≠ 'E'

/-- The text is read as the value, whatever stands behind it. -/
def Denotes (text : CText) (value : Json) : Prop :=
  ∀ fuel rest, text.length ≤ fuel → Stops rest → readValue fuel (text ++ rest) = some (value, rest)

theorem stops_comma (rest : CText) : Stops (',' :: rest) := by
  intro c first
  cases first
  decide

theorem stops_bracket (rest : CText) : Stops (']' :: rest) := by
  intro c first
  cases first
  decide

theorem stops_brace (rest : CText) : Stops ('}' :: rest) := by
  intro c first
  cases first
  decide

theorem skipBlanks_append {gap : CText} (blank : ∀ c ∈ gap, isBlank c = true) (rest : CText) :
    skipBlanks (gap ++ rest) = skipBlanks rest := List.dropWhile_append_of_pos blank

theorem skipBlanks_cons {c : Char} (shown : isBlank c = false) (rest : CText) :
    skipBlanks (c :: rest) = c :: rest :=
  List.dropWhile_cons_of_neg (by rw [shown]; exact Bool.false_ne_true)

/-! ### Strings -/

/-- A character that stands for itself in a string. -/
def isPlain (c : Char) : Bool := c != '"' && c != '\\' && decide (32 ≤ c.toNat)

/-- A text that stands for itself in a string. -/
def Plain (text : CText) : Prop := ∀ c ∈ text, isPlain c = true

theorem plain_of_all {text : CText} (h : text.all isPlain = true) : Plain text :=
  List.all_eq_true.mp h

theorem Plain.append {text more : CText} (h : Plain text) (h' : Plain more) :
    Plain (text ++ more) := List.forall_mem_append.mpr ⟨h, h'⟩

theorem isPlain_of_isDigit {c : Char} (digit : c.isDigit = true) : isPlain c = true := by
  have quote : c ≠ '"' := by
    rintro rfl
    cases digit
  have backslash : c ≠ '\\' := by
    rintro rfl
    cases digit
  have shown : 32 ≤ c.toNat := by
    have bound : 48 ≤ c.toNat := of_decide_eq_true (Bool.and_eq_true_iff.mp digit).1
    omega
  simp [isPlain, quote, backslash, shown]

theorem plain_toDigits (n : Nat) : Plain (Nat.toDigits 10 n) :=
  fun _ member => isPlain_of_isDigit (isDigit_of_mem_toDigits member)

theorem plain_fixed (n : Nat) (q : Rat) : Plain (fixed n q) := by
  intro c member
  by_contra other
  refine notMem_fixed n q
    (Bool.eq_false_iff.mpr fun digit => other (isPlain_of_isDigit digit)) ?_ ?_ member
  · rintro rfl
    exact other rfl
  · rintro rfl
    exact other rfl

theorem readString_plain {text : CText} (plain : Plain text) (rest : CText) :
    readString .plain (text ++ '"' :: rest) = some (text, rest) := by
  induction text with
  | nil => rfl
  | cons c text ih =>
      obtain ⟨first, others⟩ := List.forall_mem_cons.mp plain
      simp only [isPlain, Bool.and_eq_true, bne_iff_ne, decide_eq_true_eq] at first
      obtain ⟨⟨quote, backslash⟩, shown⟩ := first
      have step : stringStep .plain c = some .plain := by
        rw [stringStep, if_neg backslash, if_neg (Nat.not_lt.mpr shown)]
      rw [List.cons_append, readString, if_neg fun both => quote both.2, step]
      simp only [Option.bind_eq_bind, Option.bind_some, ih others]
      rfl

theorem denotes_str {text : CText} (plain : Plain text) :
    Denotes ('"' :: text ++ ['"']) (.str text) := by
  intro fuel rest long _
  cases fuel with
  | zero => cases long
  | succ fuel =>
      rw [List.append_assoc, List.cons_append, List.singleton_append, readValue,
        skipBlanks_cons rfl]
      dsimp only
      rw [if_pos rfl, readString_plain plain]
      rfl

/-! ### Numbers -/

/-- A numeral that JSON allows: no plus sign, no zero before another digit, and a digit behind the
point. -/
structure Allowed (d : Decimal) : Prop where
  unsigned : d.sign ≠ some false
  lead : d.whole = ['0'] ∨ d.whole ≠ [] ∧ d.whole.head? ≠ some '0'
  places : d.fraction ≠ some []

theorem Allowed.exists_whole {d : Decimal} (h : Allowed d) :
    ∃ c digits, d.whole = c :: digits ∧ c.isDigit = true := by
  have some : d.whole ≠ [] := by
    rcases h.lead with zero | ⟨some, -⟩
    · rw [zero]
      exact List.cons_ne_nil _ _
    · exact some
  obtain ⟨c, digits, whole⟩ := List.exists_cons_of_ne_nil some
  exact ⟨c, digits, whole, d.whole_digits c (by rw [whole]; exact List.mem_cons_self)⟩

theorem takeMinus_text {d : Decimal} (h : Allowed d) (rest : CText) :
    takeMinus (d.text ++ rest) =
      (decide (d.sign = some true), d.whole ++ (d.fractionText ++ rest)) := by
  obtain ⟨c, digits, whole, digit⟩ := h.exists_whole
  have other : c ≠ '-' := by
    rintro rfl
    cases digit
  have unsigned := h.unsigned
  unfold Decimal.text Decimal.signText
  cases hsign : d.sign with
  | none =>
      rw [whole]
      simp [takeMinus, other]
  | some minus =>
      cases minus with
      | true => simp [takeMinus]
      | false => exact absurd hsign unsigned

/-- The digits before the point are taken up to the point, or to what stands behind the number. -/
theorem takeDigits_whole (d : Decimal) {rest : CText} (stops : Stops rest) :
    takeDigits (d.whole ++ (d.fractionText ++ rest)) = (d.whole, d.fractionText ++ rest) := by
  refine Decimal.takeDigits_append d.whole_digits ?_
  intro c first
  unfold Decimal.fractionText at first
  cases hfraction : d.fraction with
  | none =>
      rw [hfraction] at first
      exact (stops c first).1
  | some digits =>
      rw [hfraction] at first
      cases first
      rfl

theorem readFraction_text {d : Decimal} (h : Allowed d) {rest : CText} (stops : Stops rest) :
    readFraction (d.fractionText ++ rest) = some (d.places, rest) := by
  unfold Decimal.fractionText Decimal.places
  cases hfraction : d.fraction with
  | none =>
      cases rest with
      | nil => rfl
      | cons c rest => simp [readFraction, (stops c rfl).2.1]
  | some digits =>
      have taken : takeDigits (digits ++ rest) = (digits, rest) :=
        Decimal.takeDigits_append (d.fraction_digits digits hfraction)
          fun c first => (stops c first).1
      have some : digits ≠ [] := by
        rintro rfl
        exact h.places hfraction
      simp [readFraction, taken, some]

theorem readExponent_stops {rest : CText} (stops : Stops rest) :
    readExponent rest = some (0, rest) := by
  cases rest with
  | nil => rfl
  | cons c rest =>
      obtain ⟨-, -, small, large⟩ := stops c rfl
      rw [readExponent, if_neg]
      rintro (e | e)
      · exact small e
      · exact large e

theorem readNumber_text {d : Decimal} (h : Allowed d) {rest : CText} (stops : Stops rest) :
    readNumber (d.text ++ rest) = some (d.value, rest) := by
  have lead : ¬ (d.whole = [] ∨ (d.whole.head? = some '0' ∧ d.whole.length ≠ 1)) := by
    rcases h.lead with zero | ⟨some, other⟩
    · simp [zero]
    · simp [some, other]
  unfold readNumber
  simp only [takeMinus_text h, takeDigits_whole d stops, if_neg lead, readFraction_text h stops,
    readExponent_stops stops, Option.bind_eq_bind, Option.bind_some, zpow_zero, mul_one,
    Decimal.magnitude_eq, decide_eq_true_eq]
  rfl

theorem denotes_decimal {d : Decimal} (h : Allowed d) : Denotes d.text (.num d.value) := by
  obtain ⟨c, text, shape, first⟩ : ∃ c text, d.text = c :: text ∧ (c = '-' ∨ c.isDigit = true) := by
    obtain ⟨c, digits, whole, digit⟩ := h.exists_whole
    have unsigned := h.unsigned
    unfold Decimal.text Decimal.signText
    cases hsign : d.sign with
    | none => exact ⟨c, digits ++ d.fractionText, by rw [whole]; rfl, Or.inr digit⟩
    | some minus =>
        cases minus with
        | true => exact ⟨'-', d.whole ++ d.fractionText, rfl, Or.inl rfl⟩
        | false => exact absurd hsign unsigned
  intro fuel rest long stops
  have number := readNumber_text h stops
  rw [shape] at long number ⊢
  cases fuel with
  | zero => cases long
  | succ fuel =>
      have none : ∀ {x : Char}, x ≠ '-' → x.isDigit = false → c ≠ x := by
        rintro x other letter rfl
        rcases first with minus | digit
        · exact other minus
        · rw [letter] at digit
          cases digit
      have shown : isBlank c = false := by
        simp only [isBlank, Bool.or_eq_false_iff, beq_eq_false_iff_ne]
        exact ⟨⟨⟨none (by decide) rfl, none (by decide) rfl⟩, none (by decide) rfl⟩,
          none (by decide) rfl⟩
      rw [List.cons_append, readValue, skipBlanks_cons shown]
      dsimp only
      rw [if_neg (none (by decide) rfl), if_neg (none (by decide) rfl),
        if_neg (none (by decide) rfl), if_neg (none (by decide) rfl),
        if_neg (none (by decide) rfl), if_neg (none (by decide) rfl), ← List.cons_append, number]
      rfl

theorem toDigits_allowed (n : Nat) :
    Nat.toDigits 10 n = ['0'] ∨ Nat.toDigits 10 n ≠ [] ∧ (Nat.toDigits 10 n).head? ≠ some '0' := by
  rcases toDigits_lead n with zero | lead
  · exact Or.inl zero
  · exact Or.inr ⟨toDigits_ten_ne_nil n, lead⟩

/-- A number printed with `%llu` or `%d`. -/
theorem denotes_toDigits (n : Nat) : Denotes (Nat.toDigits 10 n) (.num n) := by
  let digits := NumberText.ofNat [] (List.forall_mem_nil _) n
  have allowed : Allowed digits.decimalOf := by
    refine ⟨?_, toDigits_allowed n, ?_⟩ <;> simp [NumberText.decimalOf]
  have number := denotes_decimal allowed
  rw [NumberText.text_decimalOf, NumberText.value_decimalOf, NumberText.value_ofNat] at number
  exact number

/-- A number printed with `%.nf`. -/
theorem denotes_fixed {n : Nat} (positive : 0 < n) (q : Rat) :
    Denotes (fixed n q) (.num (Decimal.rounded n q)) := by
  have allowed : Allowed (Decimal.ofFixed n q) := by
    refine ⟨?_, toDigits_allowed _, ?_⟩
    · by_cases negative : q < 0 <;> simp [Decimal.ofFixed, negative]
    · intro none
      have length := Decimal.length_fixedPlaces positive q
      simp only [Decimal.ofFixed, Option.some.injEq] at none
      rw [none, List.length_nil] at length
      omega
  have number := denotes_decimal allowed
  rw [Decimal.text_ofFixed, Decimal.value_ofFixed positive] at number
  exact number

/-! ### Refused texts -/

/-- The text is refused as a value, whatever stands behind it. -/
def Refused (text : CText) : Prop :=
  ∀ fuel rest, text.length ≤ fuel → readValue fuel (text ++ rest) = none

/-- What `printf` writes for a float that is no number. -/
def notNumberTexts : List CText := ["nan".toList, "-nan".toList, "inf".toList, "-inf".toList]

theorem refused_notNumber {text : CText} (listed : text ∈ notNumberTexts) : Refused text := by
  intro fuel rest _
  simp only [notNumberTexts, List.mem_cons, List.not_mem_nil, or_false] at listed
  cases fuel with
  | zero => rfl
  | succ fuel => rcases listed with rfl | rfl | rfl | rfl <;> rfl

/-- The text denotes the value, or it is refused when there is none. -/
def Shows (text : CText) : Option Json → Prop
  | some value => Denotes text value
  | none => Refused text

/-! ### Objects -/

/-- A field as it is written, with the value that its text shows. -/
structure Field where
  name : CText
  text : CText
  value : Option Json

namespace Field

/-- A field whose value is a string. -/
def string (name value : CText) : Field := ⟨name, '"' :: value ++ ['"'], some (.str value)⟩

def written (f : Field) : CText := '"' :: (f.name ++ '"' :: ':' :: f.text)

/-- What a reader finds in the field. -/
def found (f : Field) : Option (CText × Json) := f.value.map fun value => (f.name, value)

structure Fits (f : Field) : Prop where
  plain : Plain f.name
  shows : Shows f.text f.value

theorem string_fits {name value : CText} (plainName : Plain name) (plain : Plain value) :
    (string name value).Fits := ⟨plainName, denotes_str plain⟩

end Field

/-- Fields with a comma and some more text between them. -/
def fieldsText (gap : CText) (fields : List Field) : CText :=
  (',' :: gap).intercalate (fields.map Field.written)

theorem fieldsText_cons (gap : CText) (f : Field) {fields : List Field} (some : fields ≠ []) :
    fieldsText gap (f :: fields) = f.written ++ ',' :: (gap ++ fieldsText gap fields) := by
  have more : fields.map Field.written ≠ [] := by simpa using some
  rw [fieldsText, List.map_cons, List.intercalate_cons_of_ne_nil more, List.append_assoc]
  rfl

theorem fieldsText_append (gap : CText) {front back : List Field} (h : front ≠ [])
    (h' : back ≠ []) : fieldsText gap (front ++ back) =
      fieldsText gap front ++ ',' :: (gap ++ fieldsText gap back) := by
  induction front with
  | nil => exact absurd rfl h
  | cons f front ih =>
      by_cases last : front = []
      · subst last
        rw [List.singleton_append, fieldsText_cons gap f h']
        simp [fieldsText]
      · have both : front ++ back ≠ [] := List.append_ne_nil_of_left_ne_nil last back
        rw [List.cons_append, fieldsText_cons gap f both, ih last, fieldsText_cons gap f last]
        simp only [List.append_assoc, List.cons_append]

theorem fieldsText_cons_flatMap (gap : CText) (f : Field) (fields : List Field) :
    fieldsText gap (f :: fields) =
      f.written ++ fields.flatMap fun g => ',' :: (gap ++ g.written) := by
  induction fields generalizing f with
  | nil => simp [fieldsText]
  | cons g fields ih =>
      rw [fieldsText_cons gap f (List.cons_ne_nil g fields), ih, List.flatMap_cons]
      simp only [List.cons_append, List.append_assoc]

theorem readName_written {f : Field} (plain : Plain f.name) (rest : CText) :
    readName (f.written ++ rest) = some (f.name, f.text ++ rest) := by
  rw [Field.written, readName, List.cons_append, skipBlanks_cons rfl]
  dsimp only
  rw [if_pos rfl, List.append_assoc, List.cons_append, readString_plain plain]
  dsimp only
  rw [List.cons_append, skipBlanks_cons rfl]
  rfl

/-- Fields are read by what stands behind the blanks. -/
theorem readFields_gap {gap : CText} (blank : ∀ c ∈ gap, isBlank c = true) (fuel : Nat)
    (rest : CText) : readFields fuel (gap ++ rest) = readFields fuel rest := by
  cases fuel with
  | zero => rw [readFields, readFields]
  | succ fuel =>
      have name : readName (gap ++ rest) = readName rest := by
        rw [readName, readName, skipBlanks_append blank]
      rw [readFields, readFields, name]

section

variable {gap : CText} {fields : List Field}

/-- The fields are read up to the first one that is refused. -/
theorem readFields_written (blank : ∀ c ∈ gap, isBlank c = true) (each : ∀ f ∈ fields, f.Fits)
    (some : fields ≠ []) {fuel : Nat} (long : (fieldsText gap fields).length < fuel)
    (rest : CText) :
    readFields fuel (fieldsText gap fields ++ '}' :: rest) =
      (fields.mapM Field.found).map fun found => (found, rest) := by
  induction fields generalizing fuel with
  | nil => exact absurd rfl some
  | cons f fields ih =>
      obtain ⟨⟨plain, shows⟩, others⟩ := List.forall_mem_cons.mp each
      obtain ⟨fuel, rfl⟩ := Nat.exists_eq_succ_of_ne_zero (Nat.ne_zero_of_lt long)
      have shorter : f.text.length ≤ f.written.length := by
        simp only [Field.written, List.length_cons, List.length_append]
        omega
      unfold Field.found at ih ⊢
      rw [List.mapM_cons]
      by_cases last : fields = []
      · subst last
        have only : fieldsText gap [f] = f.written := by simp [fieldsText]
        rw [only] at long ⊢
        rw [readFields, readName_written plain]
        dsimp only
        cases value : f.value with
        | none =>
            rw [value] at shows
            rw [shows fuel _ (by omega)]
            rfl
        | some value' =>
            rw [value] at shows
            rw [shows fuel _ (by omega) (stops_brace rest)]
            dsimp only
            rw [skipBlanks_cons rfl]
            rfl
      · rw [fieldsText_cons gap f last] at long ⊢
        simp only [List.length_append, List.length_cons] at long
        rw [List.append_assoc, List.cons_append, readFields, readName_written plain]
        dsimp only
        cases value : f.value with
        | none =>
            rw [value] at shows
            rw [shows fuel _ (by omega)]
            rfl
        | some value' =>
            rw [value] at shows
            rw [shows fuel _ (by omega) (stops_comma _)]
            dsimp only
            rw [skipBlanks_cons rfl]
            dsimp only
            rw [if_pos rfl, List.append_assoc, readFields_gap blank, ih others last (by omega)]
            cases fields.mapM fun f => f.value.map fun value => (f.name, value) <;> rfl

/-- An object shows its fields if none of them is refused. -/
theorem shows_object (blank : ∀ c ∈ gap, isBlank c = true) (each : ∀ f ∈ fields, f.Fits)
    (some : fields ≠ []) :
    Shows ('{' :: fieldsText gap fields ++ ['}']) ((fields.mapM Field.found).map .obj) := by
  have reads : ∀ fuel rest, ('{' :: fieldsText gap fields ++ ['}']).length ≤ fuel →
      readValue fuel ('{' :: fieldsText gap fields ++ ['}'] ++ rest) =
        (fields.mapM Field.found).map fun found => (.obj found, rest) := by
    intro fuel rest long
    cases fuel with
    | zero => cases long
    | succ fuel =>
        simp only [List.length_append, List.length_cons, List.length_nil] at long
        have head : (skipBlanks (fieldsText gap fields ++ '}' :: rest)).head? ≠ .some '}' := by
          obtain ⟨f, fields, rfl⟩ := List.exists_cons_of_ne_nil some
          rw [fieldsText_cons_flatMap, Field.written, List.cons_append, List.cons_append,
            skipBlanks_cons rfl]
          simp
        rw [List.append_assoc, List.cons_append, List.singleton_append, readValue,
          skipBlanks_cons rfl]
        dsimp only
        rw [if_neg (by decide), if_neg (by decide), if_pos rfl, if_neg head,
          readFields_written blank each some (by omega), Option.map_map]
        rfl
  cases found : fields.mapM Field.found with
  | none =>
      intro fuel rest long
      rw [reads fuel rest long, found]
      rfl
  | some all =>
      intro fuel rest long _
      rw [reads fuel rest long, found]
      rfl

end

/-! ### Arrays -/

section

variable {α : Type} {text : α → CText} {value : α → Option Json} {items : List α}

theorem readItems_shows (each : ∀ item ∈ items, Shows (text item) (value item)) (some : items ≠ [])
    {fuel : Nat} (long : ([','].intercalate (items.map text)).length < fuel) (rest : CText) :
    readItems fuel ([','].intercalate (items.map text) ++ ']' :: rest) =
      (items.mapM value).map fun found => (found, rest) := by
  induction items generalizing fuel with
  | nil => exact absurd rfl some
  | cons item items ih =>
      obtain ⟨first, others⟩ := List.forall_mem_cons.mp each
      obtain ⟨fuel, rfl⟩ := Nat.exists_eq_succ_of_ne_zero (Nat.ne_zero_of_lt long)
      rw [List.mapM_cons]
      by_cases last : items = []
      · subst last
        simp only [List.map_cons, List.map_nil, List.intercalate_singleton] at long ⊢
        rw [readItems]
        cases found : value item with
        | none =>
            rw [found] at first
            rw [first fuel _ (by omega)]
            rfl
        | some value' =>
            rw [found] at first
            rw [first fuel _ (by omega) (stops_bracket rest)]
            dsimp only
            rw [skipBlanks_cons rfl]
            rfl
      · have more : items.map text ≠ [] := by simpa using last
        rw [List.map_cons, List.intercalate_cons_of_ne_nil more] at long ⊢
        simp only [List.length_append, List.length_cons, List.length_nil] at long
        rw [List.append_assoc, List.append_assoc, List.singleton_append, readItems]
        cases found : value item with
        | none =>
            rw [found] at first
            rw [first fuel _ (by omega)]
            rfl
        | some value' =>
            rw [found] at first
            rw [first fuel _ (by omega) (stops_comma _)]
            dsimp only
            rw [skipBlanks_cons rfl]
            dsimp only
            rw [if_pos rfl, ih others last (by omega)]
            cases items.mapM value <;> rfl

/-- An array of objects is read exactly when none of them is refused. -/
theorem read_objects (each : ∀ item ∈ items, Shows (text item) (value item)) (some : items ≠ [])
    (opens : ∀ item ∈ items, (text item).head? = .some '{') :
    read ('[' :: [','].intercalate (items.map text) ++ [']']) = (items.mapM value).map .arr := by
  have head : (skipBlanks ([','].intercalate (items.map text) ++ [']'])).head? = .some '{' := by
    obtain ⟨item, items, rfl⟩ := List.exists_cons_of_ne_nil some
    obtain ⟨behind, shape⟩ := List.head?_eq_some_iff.mp (opens item List.mem_cons_self)
    by_cases last : items = []
    · subst last
      rw [List.map_cons, List.map_nil, List.intercalate_singleton, shape]
      rfl
    · rw [List.map_cons, List.intercalate_cons_of_ne_nil (by simpa using last), shape]
      rfl
  have other : (skipBlanks ([','].intercalate (items.map text) ++ [']'])).head? ≠ .some ']' := by
    rw [head]
    decide
  have items := readItems_shows each some (Nat.lt_succ_self _) []
  rw [read, List.length_append, List.length_cons, List.length_singleton,
    List.cons_append, readValue, skipBlanks_cons rfl]
  dsimp only
  rw [if_neg (by decide), if_pos rfl, if_neg other, items]
  cases List.mapM value _ <;> rfl

end

end Json

end PhantomMonitor
