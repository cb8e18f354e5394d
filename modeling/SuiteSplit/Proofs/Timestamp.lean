import SuiteSplit.Proofs.Digits
import SuiteSplit.Timestamp

/-!
Points in time are read as they were written.
-/

namespace SuiteSplit.Timestamp

/-- A date that exists, and a time of day. -/
structure IsValid (t : Timestamp) : Prop where
  date : t.date.isValid
  minute : t.minute < minutesPerDay
  second : t.second ≤ 60
  nanos : t.nanos < 10 ^ 9

instance (t : Timestamp) : Decidable t.IsValid :=
  decidable_of_iff (t.date.isValid ∧ t.minute < minutesPerDay ∧ t.second ≤ 60 ∧ t.nanos < 10 ^ 9)
    ⟨fun ⟨h₁, h₂, h₃, h₄⟩ => ⟨h₁, h₂, h₃, h₄⟩, fun ⟨h₁, h₂, h₃, h₄⟩ => ⟨h₁, h₂, h₃, h₄⟩⟩

variable {width most n : Nat} {c : Char} {digits rest : List Char}

/-! ## Digits and marks -/

theorem natOfDigits_padded (width n : Nat) : natOfDigits (padded width n) = n := by
  rw [padded, natOfDigits_zeros_append, natOfDigits_toDigits]

theorem isDigit_of_mem_padded (h : c ∈ padded width n) : c.isDigit := by
  rw [padded, List.mem_append] at h
  rcases h with h | h
  · rw [List.eq_of_mem_replicate h]
    decide
  · exact isDigit_of_mem_toDigits h

theorem padded_ne_nil (width n : Nat) : padded width n ≠ [] := by
  rw [padded]
  exact List.append_ne_nil_of_right_ne_nil _ Nat.toDigits_ne_nil

theorem length_padded (hwidth : 0 < width) (h : n < 10 ^ width) : (padded width n).length = width := by
  have hlength := (Nat.length_toDigits_le_iff (by decide) hwidth).mpr h
  rw [padded, List.length_append, List.length_replicate]
  omega

theorem toNat_le_of_isDigit (h : c.isDigit) : 48 ≤ c.toNat ∧ c.toNat ≤ 57 := by
  rw [Char.isDigit, Bool.and_eq_true] at h
  exact ⟨of_decide_eq_true h.1, of_decide_eq_true h.2⟩

/-- A digit is no white space. -/
theorem isWhiteSpace_of_isDigit (h : c.isDigit) : Text.isWhiteSpace c = false := by
  obtain ⟨hlow, hhigh⟩ := toNat_le_of_isDigit h
  have hcodes : ∀ n, n < 58 → 48 ≤ n → Text.whiteSpace.containsCode n = false := by decide
  exact hcodes c.toNat (by omega) hlow

theorem skipSpace_cons (h : Text.isWhiteSpace c = false) (cs : List Char) :
    skipSpace (c :: cs) = c :: cs := by
  rw [skipSpace, List.dropWhile_cons_of_neg (by simp [h])]

theorem skipSpace_digits (hempty : digits ≠ []) (hdigits : ∀ c ∈ digits, c.isDigit)
    (rest : List Char) : skipSpace (digits ++ rest) = digits ++ rest := by
  obtain ⟨c, cs, rfl⟩ := List.exists_cons_of_ne_nil hempty
  exact skipSpace_cons (isWhiteSpace_of_isDigit (hdigits c List.mem_cons_self)) _

theorem readMark?_cons (h : Text.isWhiteSpace c = false) (cs : List Char) :
    readMark? c (c :: cs) = some cs := by
  rw [readMark?, skipSpace_cons h]
  exact if_pos rfl

/-- Digits are read up to the most that are wanted, or up to something else. -/
theorem readDigits?_append (hempty : digits ≠ []) (hdigits : ∀ c ∈ digits, c.isDigit)
    (hmost : digits.length ≤ most) (hrest : digits.length = most ∨ EndsDigits rest) :
    readDigits? most (digits ++ rest) = some (natOfDigits digits, rest) := by
  have htake : ((digits ++ rest).take most).takeWhile Char.isDigit = digits := by
    rw [List.take_append, List.take_of_length_le hmost, List.takeWhile_append_of_pos hdigits]
    rcases hrest with hsame | hrest
    · simp [hsame]
    · cases rest with
      | nil => simp
      | cons c cs =>
        cases most - digits.length with
        | zero => simp
        | succ k => simp [hrest c cs rfl]
  rw [readDigits?, htake, if_neg hempty, List.drop_left]

theorem readDigits?_padded (hmost : (padded width n).length ≤ most)
    (hrest : (padded width n).length = most ∨ EndsDigits rest) :
    readDigits? most (padded width n ++ rest) = some (n, rest) := by
  rw [readDigits?_append (padded_ne_nil width n) (fun c => isDigit_of_mem_padded) hmost hrest,
    natOfDigits_padded]

theorem skipSpace_padded (width n : Nat) (rest : List Char) :
    skipSpace (padded width n ++ rest) = padded width n ++ rest :=
  skipSpace_digits (padded_ne_nil width n) (fun _ => isDigit_of_mem_padded) rest

/-- A number of two digits is read as it was written. -/
theorem readField?_padded (h : n < 100) (rest : List Char) :
    readField? (padded 2 n ++ rest) = some (n, rest) := by
  have hlength : (padded 2 n).length = 2 := length_padded (by decide) h
  rw [readField?, skipSpace_padded, readDigits?_padded hlength.le (.inl hlength)]

/-! ## Dates -/

theorem readYear?_minus (cs : List Char) :
    readYear? ('-' :: cs) = (readDigits? cs.length cs).map fun (n, cs) => (-(n : Int), cs) := by
  rw [readYear?, skipSpace_cons (by decide)]
  rfl

theorem readYear?_plus (cs : List Char) :
    readYear? ('+' :: cs) = (readDigits? cs.length cs).map fun (n, cs) => ((n : Int), cs) := by
  rw [readYear?, skipSpace_cons (by decide)]
  rfl

theorem readYear?_digit (h : c.isDigit) (cs : List Char) :
    readYear? (c :: cs) = (readDigits? 4 (c :: cs)).map fun (n, cs) => ((n : Int), cs) := by
  have hminus : c ≠ '-' := by
    rintro rfl
    cases h
  have hplus : c ≠ '+' := by
    rintro rfl
    cases h
  rw [readYear?, skipSpace_cons (isWhiteSpace_of_isDigit h)]
  split
  · next h => exact absurd (List.cons.inj h).1 hminus
  · next h => exact absurd (List.cons.inj h).1 hplus
  · rfl

theorem readYear?_printYear (year : Int) (hrest : EndsDigits rest) :
    readYear? (printYear year ++ rest) = some (year, rest) := by
  have hsigned : readDigits? (padded 4 year.natAbs ++ rest).length (padded 4 year.natAbs ++ rest) =
      some (year.natAbs, rest) :=
    readDigits?_padded (by rw [List.length_append]; omega) (.inr hrest)
  rw [printYear]
  split
  · next hplain =>
    have hvalue : ((year.toNat : Nat) : Int) = year := Int.toNat_of_nonneg hplain.1
    have hlength : (padded 4 year.toNat).length = 4 := length_padded (by decide) (by omega)
    have hread : readDigits? 4 (padded 4 year.toNat ++ rest) = some (year.toNat, rest) :=
      readDigits?_padded hlength.le (.inl hlength)
    obtain ⟨c, cs, hc⟩ := List.exists_cons_of_ne_nil (padded_ne_nil 4 year.toNat)
    have hdigit : c.isDigit := isDigit_of_mem_padded (hc ▸ List.mem_cons_self)
    rw [hc, List.cons_append] at hread ⊢
    rw [readYear?_digit hdigit, hread, Option.map_some]
    dsimp only
    rw [hvalue]
  · by_cases hnegative : year < 0
    · have hvalue : -((year.natAbs : Nat) : Int) = year := by omega
      rw [if_pos hnegative, List.cons_append, readYear?_minus, hsigned, Option.map_some]
      dsimp only
      rw [hvalue]
    · have hvalue : ((year.natAbs : Nat) : Int) = year := by omega
      rw [if_neg hnegative, List.cons_append, readYear?_plus, hsigned, Option.map_some]
      dsimp only
      rw [hvalue]

theorem daysInMonth_lt (year : Int) (month : Nat) : Date.daysInMonth year month < 100 := by
  rw [Date.daysInMonth]
  split_ifs <;> decide

theorem fields_lt_of_isValid {d : Date} (h : d.isValid) : d.month < 100 ∧ d.day < 100 := by
  have hdays := daysInMonth_lt d.year d.month
  simp only [Date.isValid, Bool.and_eq_true, decide_eq_true_eq] at h
  omega

theorem readDate?_print {d : Date} (h : d.isValid) (rest : List Char) :
    readDate? (printYear d.year ++ '-' :: (padded 2 d.month ++ '-' :: (padded 2 d.day ++ rest))) =
      some (d, rest) := by
  obtain ⟨hmonth, hday⟩ := fields_lt_of_isValid h
  have hmark : Text.isWhiteSpace '-' = false := by decide
  rw [readDate?, readYear?_printYear d.year (endsDigits_cons (by decide) _)]
  simp only [Option.bind_eq_bind, Option.bind_some, readMark?_cons hmark,
    readField?_padded hmonth, readField?_padded hday]
  rfl

/-! ## Fractions of a second -/

theorem readFraction?_padded (hwidth : 0 < width) (hnine : width ≤ 9) (h : n < 10 ^ width)
    (hrest : EndsDigits rest) :
    readFraction? ('.' :: (padded width n ++ rest)) = some (n * 10 ^ (9 - width), rest) := by
  have hdigits : ∀ c ∈ padded width n, c.isDigit := fun c => isDigit_of_mem_padded
  have hlength := length_padded hwidth h
  have htake : (padded width n).take 9 = padded width n := List.take_of_length_le (by omega)
  rw [readFraction?, takeWhile_digits hdigits hrest, if_neg (padded_ne_nil width n), htake, natOfDigits_padded, hlength, List.drop_left' hlength]

theorem readFraction?_print (h : n < 10 ^ 9) :
    readFraction? (printFraction n ++ ['Z']) = some (n, ['Z']) := by
  have hrest : EndsDigits ['Z'] := endsDigits_cons (by decide) []
  rw [printFraction]
  split_ifs with hzero hmilli hmicro
  · rw [hzero]
    rfl
  · rw [List.cons_append, readFraction?_padded (by decide) (by decide) (by omega) hrest]
    congr 2
    omega
  · rw [List.cons_append, readFraction?_padded (by decide) (by decide) (by omega) hrest]
    congr 2
    omega
  · rw [List.cons_append, readFraction?_padded (by decide) (by decide) h hrest]
    congr 2
    omega

/-! ## Points in time -/

theorem toUtc_zero {t : Timestamp} (h : t.minute < minutesPerDay) : t.toUtc 0 = t := by
  rw [toUtc, if_neg (by omega), if_pos (by omega)]
  simp

/-- A point in time is read as it was written. -/
theorem read?_print {t : Timestamp} (h : t.IsValid) : read? t.print = some t := by
  have hperDay : minutesPerDay = 1440 := rfl
  have hminute := h.minute
  have hsecond := h.second
  have hmark : Text.isWhiteSpace ':' = false := by decide
  have hend : Text.isWhiteSpace 'Z' = false := by decide
  have hoffset : readOffset? ['Z'] = some (0, []) := rfl
  have hprint : t.print = printYear t.date.year ++ '-' :: (padded 2 t.date.month ++ '-' ::
      (padded 2 t.date.day ++ 'T' :: (padded 2 (t.minute / 60) ++ ':' :: (padded 2 (t.minute % 60) ++
        ':' :: (padded 2 t.second ++ (printFraction t.nanos ++ ['Z'])))))) := by
    simp only [print, List.append_assoc, List.cons_append]
  have hsame : t.minute / 60 * 60 + t.minute % 60 = t.minute := by omega
  rw [read?, hprint, readDate?_print h.date]
  simp only [Option.bind_eq_bind, Option.bind_some, true_or, if_true, readMark?_cons hmark,
    readField?_padded (show t.minute / 60 < 100 by omega),
    readField?_padded (show t.minute % 60 < 100 by omega),
    readField?_padded (show t.second < 100 by omega), readFraction?_print h.nanos,
    skipSpace_cons hend, hoffset]
  have hrefused : ¬(skipSpace [] ≠ [] ∨ 24 ≤ t.minute / 60 ∨ 60 ≤ t.minute % 60 ∨ 60 < t.second ∨
      (!t.date.isValid) = true) := by
    have hnil : skipSpace [] = [] := rfl
    simp [hnil, h.date]
    omega
  rw [if_neg hrefused, hsame, toUtc_zero hminute, if_pos h.date]

end SuiteSplit.Timestamp
