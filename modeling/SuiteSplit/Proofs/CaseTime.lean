import SuiteSplit.Proofs.Markup
import SuiteSplit.Proofs.Seconds
import SuiteSplit.Proofs.Timestamp
import SuiteSplit.Report

/-!
Decimal times with at most nine digits of fraction are exact.

A report states a time in seconds. Such a time is a whole number of nanoseconds, and the one rounding
to binary64 moves it by less than half a nanosecond as long as it is no longer than a test can take. So
the duration that is read is the one that is stated. A longer time is longer by a nanosecond at least,
which the rounding does not take away, so the limit on the rounded number refuses it.
-/

namespace SuiteSplit

open Binary64 Timestamp

/-! ## White space -/

namespace Text

/-- What stands around a text without white space is trimmed off. -/
theorem trim_surrounded {p : Char → Bool} {before cs after : List Char}
    (hbefore : ∀ c ∈ before, p c) (hafter : ∀ c ∈ after, p c) (hcs : ∀ c ∈ cs, p c = false)
    (hnonempty : cs ≠ []) : trim p (before ++ cs ++ after) = cs := by
  have hback : trimEnd p (cs ++ after) = trimEnd p cs := by
    have hreverse : ∀ c ∈ after.reverse, p c := fun c hc => hafter c (List.mem_reverse.mp hc)
    rw [trimEnd, List.reverse_append, List.dropWhile_append_of_pos hreverse, ← trimEnd]
  have hfront : (cs ++ after).dropWhile p = cs ++ after := by
    obtain ⟨c, cs', rfl⟩ := List.exists_cons_of_ne_nil hnonempty
    exact List.dropWhile_cons_of_neg (by simp [hcs c List.mem_cons_self])
  rw [trim, List.append_assoc, List.dropWhile_append_of_pos hbefore, hfront, hback,
    trimEnd_eq_self hcs]

end Text

/-! ## Plain decimals -/

/-- A text that states a time: white space around digits, of which at most nine stand behind a
point. -/
structure PlainTime where
  before : List Char
  whole : List Char
  /-- The digits behind the point, if there is a point. -/
  fraction : Option (List Char)
  after : List Char
  before_isWhiteSpace : ∀ c ∈ before, Text.isWhiteSpace c := by exact List.all_eq_true.mp (by decide)
  whole_ne_nil : whole ≠ [] := by decide
  whole_isDigit : ∀ c ∈ whole, c.isDigit := by exact List.all_eq_true.mp (by decide)
  fraction_isDigit : ∀ c ∈ fraction.getD [], c.isDigit := by exact List.all_eq_true.mp (by decide)
  length_fraction_le : (fraction.getD []).length ≤ 9 := by decide
  after_isWhiteSpace : ∀ c ∈ after, Text.isWhiteSpace c := by exact List.all_eq_true.mp (by decide)

namespace PlainTime

variable (t : PlainTime)

/-- The digits behind the point. -/
def places : List Char := t.fraction.getD []

theorem length_places : t.places.length ≤ 9 := t.length_fraction_le

/-- What stands behind the whole digits. -/
def behind : List Char :=
  match t.fraction with
  | none => []
  | some digits => '.' :: digits

def numeral : List Char := t.whole ++ t.behind

def text : List Char := t.before ++ t.numeral ++ t.after

/-- The number of seconds that the text states. -/
def value : ℚ := natOfDigits t.whole + natOfDigits t.places / 10 ^ t.places.length

/-- All digits, without the point. -/
def digits : List Char := t.whole ++ t.places

def decimal : Decimal := ⟨natOfDigits t.digits, -t.places.length⟩

/-- The nanoseconds that the text states. -/
def nanos : Nat := natOfDigits t.digits * 10 ^ (9 - t.places.length)

theorem value_eq : t.value = natOfDigits t.digits / (10 ^ t.places.length : Nat) := by
  rw [value, digits, natOfDigits_append]
  push_cast
  field_simp

theorem cast_nanos : (t.nanos : ℚ) = t.value * 10 ^ 9 := by
  have hsplit : (10 : ℚ) ^ 9 = 10 ^ (9 - t.places.length) * 10 ^ t.places.length := by
    rw [← pow_add, Nat.sub_add_cancel t.length_places]
  rw [nanos, value_eq, hsplit]
  push_cast
  field_simp

theorem behind_eq : t.behind = [] ∧ t.places = [] ∨ t.behind = '.' :: t.places := by
  rw [behind, places]
  cases t.fraction with
  | none => exact .inl ⟨rfl, rfl⟩
  | some digits => exact .inr rfl

theorem mem_numeral {c : Char} (h : c ∈ t.numeral) : c.isDigit ∨ c = '.' := by
  rcases List.mem_append.mp h with h | h
  · exact .inl (t.whole_isDigit c h)
  · rcases t.behind_eq with ⟨hempty, -⟩ | hpoint
    · exact absurd h (by simp [hempty])
    · rw [hpoint] at h
      exact (List.mem_cons.mp h).symm.imp_left (t.fraction_isDigit c)

theorem numeral_ne_nil : t.numeral ≠ [] := List.append_ne_nil_of_left_ne_nil t.whole_ne_nil _

theorem trim_text : Text.trim Text.isWhiteSpace t.text = t.numeral := by
  refine Text.trim_surrounded t.before_isWhiteSpace t.after_isWhiteSpace ?_ t.numeral_ne_nil
  intro c hc
  rcases t.mem_numeral hc with h | rfl
  · exact isWhiteSpace_of_isDigit h
  · decide

theorem splitSign_numeral : Numeral.splitSign t.numeral = (false, t.numeral) := by
  obtain ⟨c, cs, hwhole⟩ := List.exists_cons_of_ne_nil t.whole_ne_nil
  have hc : c.isDigit := t.whole_isDigit c (by simp [hwhole])
  rw [numeral, hwhole, List.cons_append, Numeral.splitSign]
  · rintro rest ⟨rfl, -⟩
    exact absurd hc (by decide)
  · rintro rest ⟨rfl, -⟩
    exact absurd hc (by decide)

theorem span_numeral : t.numeral.span Char.isDigit = (t.whole, t.behind) := by
  have hend : EndsDigits t.behind := by
    rcases t.behind_eq with ⟨hempty, -⟩ | hpoint
    · rw [hempty]
      nofun
    · rw [hpoint]
      exact endsDigits_cons (by decide) _
  rw [List.span_eq_takeWhile_dropWhile, numeral, takeWhile_digits t.whole_isDigit hend,
    dropWhile_digits t.whole_isDigit hend]

theorem splitFraction_behind : Numeral.splitFraction t.behind = (t.places, []) := by
  rcases t.behind_eq with ⟨hempty, hplaces⟩ | hpoint
  · rw [hempty, hplaces, Numeral.splitFraction]
    nofun
  · have hend : EndsDigits [] := nofun
    have htake := takeWhile_digits t.fraction_isDigit hend
    have hdrop := dropWhile_digits t.fraction_isDigit hend
    rw [List.append_nil, ← places] at htake hdrop
    rw [hpoint, Numeral.splitFraction, List.span_eq_takeWhile_dropWhile, htake, hdrop]

theorem read?_numeral : Numeral.read? t.numeral = some ⟨false, t.decimal⟩ := by
  have hdigits : t.whole ++ t.places ≠ [] := List.append_ne_nil_of_left_ne_nil t.whole_ne_nil _
  rw [Numeral.read?, splitSign_numeral]
  simp only [span_numeral, splitFraction_behind]
  rw [if_neg hdigits]
  simp [Numeral.readPower?, decimal, digits]

end PlainTime

/-! ## The number that is read -/

/-- Rounding does not pass a whole number. -/
theorem Binary64.leNat_nearest {num den n : Nat} (hden : 0 < den) (hn : n < 2 ^ 53)
    (h : num ≤ n * den) : (nearest num den).leNat n := by
  have hbelow : num * stepsPerOne / den ≤ n * stepsPerOne := by
    apply Nat.div_le_of_le_mul
    calc num * stepsPerOne ≤ n * den * stepsPerOne := Nat.mul_le_mul_right _ h
      _ = den * (n * stepsPerOne) := by ring
  obtain ⟨t, ht⟩ : spacing (num * stepsPerOne / den) ∣ stepsPerOne := by
    obtain ⟨k, hk⟩ : ∃ k, k = 1074 := ⟨_, rfl⟩
    rw [stepsPerOne_eq hk] at hbelow ⊢
    refine spacing_dvd_of_lt (Nat.lt_of_le_of_lt hbelow ?_)
    rw [Nat.pow_add, Nat.mul_comm]
    exact Nat.mul_lt_mul_of_pos_left hn (Nat.two_pow_pos k)
  apply decide_eq_true
  rw [nearest, ofSteps]
  simp only
  generalize hunit : spacing (num * stepsPerOne / den) = unit at ht ⊢
  have hpos : 0 < unit := hunit ▸ spacing_pos _
  have hround : roundHalfEven (num * stepsPerOne) (den * unit) ≤ n * t := by
    apply roundHalfEven_le (Nat.mul_pos hden hpos)
    calc num * stepsPerOne ≤ n * den * stepsPerOne := Nat.mul_le_mul_right _ h
      _ = n * den * (unit * t) := by rw [← ht]
      _ = n * t * (den * unit) := by ring
  calc _ ≤ n * t * unit := Nat.mul_le_mul_right _ hround
    _ = n * (unit * t) := by ring
    _ = n * stepsPerOne := by rw [← ht]

section

variable {n k : Nat} {x : Binary64}

theorem Binary64.isRounded_nearest_places (hk : k ≤ 9) (n : Nat) :
    (nearest n (10 ^ k)).IsRounded (n / (10 ^ k : Nat)) := by
  apply isRounded_nearest n (Nat.pow_pos (by decide))
  rcases n.eq_zero_or_pos with rfl | hpos
  · exact .inl (by simp)
  · right
    have hone : (1 : ℚ) ≤ n := by exact_mod_cast hpos
    have hpower : (10 : ℚ) ^ k ≤ 10 ^ 9 := pow_le_pow_right₀ (by norm_num) hk
    apply minNormal_le
    push_cast
    rw [le_div_iff₀ (by positivity)]
    linarith

/-- A decimal with few places is read as the nearest number, if it is read as one. -/
theorem Binary64.eq_nearest_of_ofDecimal? (hk : k ≤ 9) (h : ofDecimal? ⟨n, -k⟩ = some x) :
    x = nearest n (10 ^ k) := by
  rw [ofDecimal?] at h
  split_ifs at h with hzero _ hlow
  · rw [← Option.some.inj h, show n = 0 from hzero, nearest, Nat.zero_mul, ofSteps_zero]
  · have hlength : 0 < (Nat.toDigits 10 n).length := Nat.length_toDigits_pos
    simp only [Decimal.magnitude] at hlow
    omega
  · obtain ⟨-, hx⟩ := Option.ite_some_none_eq_some.mp h
    simpa using hx.symm

/-- A decimal with few places and not too many digits is read as a number. -/
theorem Binary64.ofDecimal?_of_lt (hk : k ≤ 9) (hn : n < 10 ^ 16) :
    ofDecimal? ⟨n, -k⟩ = some (nearest n (10 ^ k)) := by
  rcases n.eq_zero_or_pos with rfl | hpos
  · rw [ofDecimal?, if_pos rfl, nearest, Nat.zero_mul, ofSteps_zero]
  · have hlength := (Nat.length_toDigits_le_iff (b := 10) (k := 16) (by decide) (by decide)).mpr hn
    have hsome : 0 < (Nat.toDigits 10 n).length := Nat.length_toDigits_pos
    have hfinite : (nearest n (10 ^ k)).isFinite := by
      apply isFinite_of_lt
      have hrounded := (isRounded_nearest_places hk n).le
      have hn' : (n : ℚ) < 10 ^ 16 := by exact_mod_cast hn
      have hvalue : (n : ℚ) / (10 ^ k : Nat) ≤ n :=
        div_le_self (Nat.cast_nonneg n) (by exact_mod_cast Nat.one_le_pow k 10 (by decide))
      rw [roundoff] at hrounded
      linarith
    have hpower : (-(-k : Int)).toNat = k := by omega
    have hshift : n * 10 ^ (-k : Int).toNat = n := by
      rw [show (-k : Int).toNat = 0 by omega, Nat.pow_zero, Nat.mul_one]
    rw [ofDecimal?, if_neg hpos.ne', if_neg (by simp only [Decimal.magnitude]; omega),
      if_neg (by simp only [Decimal.magnitude]; omega)]
    simp only [hpower, hshift]
    rw [if_pos hfinite]

end

/-- One rounding of a time moves it by less than half a nanosecond. -/
theorem Duration.ofCaseSeconds?_nearest {d : Duration} {num den : Nat} (hden : 0 < den)
    (hvalue : (num : ℚ) / den = d.exact) (hrounded : (nearest num den).IsRounded d.exact)
    (h : d.nanos ≤ maxCaseSeconds * nanosPerSecond) :
    ofCaseSeconds? (nearest num den) = some d := by
  have hexact := exact_le_of_nanos_le h
  have hrange : (nearest num den).leNat maxCaseSeconds := by
    apply leNat_nearest hden (by decide)
    have hden' : (0 : ℚ) < den := by exact_mod_cast hden
    rw [← hvalue, div_le_iff₀ hden'] at hexact
    exact_mod_cast hexact
  have herror : roundoff * d.exact ≤ 1 / 2 ^ 53 * 2592000 := by
    rw [roundoff]
    exact mul_le_mul_of_nonneg_left hexact (by norm_num)
  rw [ofCaseSeconds?, if_pos hrange]
  apply ofSeconds?_eq_some
  calc _ ≤ roundoff * d.exact := hrounded
    _ < 1 / 2 / 10 ^ 9 := lt_of_le_of_lt herror (by norm_num)

namespace PlainTime

variable {t : PlainTime} {d : Duration}

theorem isRounded (t : PlainTime) :
    (nearest (natOfDigits t.digits) (10 ^ t.places.length)).IsRounded t.value := by
  rw [value_eq]
  exact isRounded_nearest_places t.length_places _

theorem value_le_iff : t.value ≤ maxCaseSeconds ↔ t.nanos ≤ maxCaseSeconds * nanosPerSecond := by
  have hcast := t.cast_nanos
  constructor
  · intro h
    have hle : (t.nanos : ℚ) ≤ maxCaseSeconds * 10 ^ 9 := by
      rw [hcast]
      exact mul_le_mul_of_nonneg_right h (by norm_num)
    exact_mod_cast hle
  · intro h
    have hle : (t.nanos : ℚ) ≤ maxCaseSeconds * 10 ^ 9 := by exact_mod_cast h
    linarith

theorem ofTimeText?_text (t : PlainTime) :
    Duration.ofTimeText? t.text =
      (Binary64.ofDecimal? t.decimal).bind Duration.ofCaseSeconds? := by
  rw [Duration.ofTimeText?]
  simp only [trim_text, numeral_ne_nil, if_false, read?_numeral]
  cases Binary64.ofDecimal? t.decimal <;> simp

/-- A time up to the limit is read as it is. -/
theorem ofTimeText?_of_nanos_eq (hd : d.nanos = t.nanos)
    (h : d.nanos ≤ maxCaseSeconds * nanosPerSecond) : Duration.ofTimeText? t.text = some d := by
  have hscale : 1 ≤ 10 ^ (9 - t.places.length) := Nat.one_le_pow _ _ (by decide)
  have hdigits : natOfDigits t.digits < 10 ^ 16 := by
    calc natOfDigits t.digits ≤ t.nanos := Nat.le_mul_of_pos_right _ hscale
      _ < 10 ^ 16 := hd ▸ h.trans_lt (by decide)
  have hvalue : t.value = d.exact := by
    rw [Duration.exact, hd, cast_nanos]
    field_simp
  rw [ofTimeText?_text, decimal, ofDecimal?_of_lt t.length_places hdigits, Option.bind_some]
  apply Duration.ofCaseSeconds?_nearest (Nat.pow_pos (by decide)) _ (hvalue ▸ t.isRounded) h
  rw [← hvalue, value_eq]

theorem exists_ofTimeText?_text (t : PlainTime) (h : t.value ≤ maxCaseSeconds) :
    ∃ d, Duration.ofTimeText? t.text = some d ∧ (d.nanos : ℚ) = t.value * 10 ^ 9 := by
  have hnanos := value_le_iff.mp h
  exact ⟨⟨t.nanos, hnanos.trans_lt (by decide)⟩, ofTimeText?_of_nanos_eq rfl hnanos, t.cast_nanos⟩

/-- A time above the limit is above it by a nanosecond, which is more than the rounding takes. -/
theorem ofTimeText?_eq_none (t : PlainTime) (h : maxCaseSeconds < t.value) :
    Duration.ofTimeText? t.text = none := by
  have hlimit : (maxCaseSeconds : ℚ) = 2592000 := by norm_num [maxCaseSeconds]
  have habove : 2592000 + 1 / 10 ^ 9 ≤ t.value := by
    have hnanos : maxCaseSeconds * nanosPerSecond + 1 ≤ t.nanos := by
      rw [Nat.succ_le_iff, ← not_le, ← value_le_iff]
      exact not_le.mpr h
    have hcast : ((maxCaseSeconds * nanosPerSecond + 1 : Nat) : ℚ) ≤ t.value * 10 ^ 9 := by
      rw [← cast_nanos]
      exact_mod_cast hnanos
    push_cast at hcast
    rw [hlimit, Duration.cast_nanosPerSecond] at hcast
    linarith
  rw [ofTimeText?_text]
  cases hx : Binary64.ofDecimal? t.decimal with
  | none => rfl
  | some x =>
    have hrounded := t.isRounded.ge
    rw [← eq_nearest_of_ofDecimal? t.length_places hx, roundoff] at hrounded
    rw [Option.bind_some, Duration.ofCaseSeconds?, if_neg]
    intro hle
    have hvalue : x.value ≤ maxCaseSeconds := by
      rw [Binary64.value, div_le_iff₀ cast_stepsPerOne_pos]
      exact_mod_cast of_decide_eq_true hle
    linarith

end PlainTime

namespace Report

open Xml.Reference

variable {v : List Char}

theorem take_time {raw : List Char} (known : CaseAttributes) (hv : expand v = .ok raw) :
    known.take ⟨"time".toList, v⟩ = (match Duration.ofTimeText? raw with
      | some duration => .ok { known with duration }
      | none => .error (.invalidTime raw)) := by
  rw [CaseAttributes.take, hv]
  simp only
  rw [if_neg (by decide), if_neg (by decide)]
  exact if_pos trivial

/-- A `time` that is a plain decimal is taken exactly if it is at most thirty days, and as it is.
Otherwise the error has the text with the white space around it. -/
theorem take_plain_time (t : PlainTime) (known : CaseAttributes) (hv : expand v = .ok t.text) :
    (t.value ≤ maxCaseSeconds ↔ ∃ d : Duration, (d.nanos : ℚ) = t.value * 10 ^ 9 ∧
      known.take ⟨"time".toList, v⟩ = .ok { known with duration := d }) ∧
    (maxCaseSeconds < t.value ↔
      known.take ⟨"time".toList, v⟩ = .error (.invalidTime t.text)) := by
  rw [take_time known hv]
  rcases le_or_gt t.value maxCaseSeconds with h | h
  · obtain ⟨d, hread, hd⟩ := t.exists_ofTimeText?_text h
    rw [hread]
    exact ⟨iff_of_true h ⟨d, hd, rfl⟩, iff_of_false (not_lt.mpr h) nofun⟩
  · rw [t.ofTimeText?_eq_none h]
    exact ⟨iff_of_false (not_le.mpr h) nofun, iff_of_true h rfl⟩

/-- Thirty days with white space around them are taken, and a nanosecond more is not. -/
theorem take_plain_time_limit :
    (CaseAttributes.take {} ⟨"time".toList, "\t 002592000.\n".toList⟩).map (·.duration.nanos) =
        .ok (2592000 * 10 ^ 9) ∧
      (CaseAttributes.take {} ⟨"time".toList, " 2592000.000000001".toList⟩).map (·.duration.nanos) =
        .error (.invalidTime " 2592000.000000001".toList) := by
  let limit : PlainTime :=
    { before := "\t ".toList, whole := "002592000".toList, fraction := some [], after := ['\n'] }
  let longer : PlainTime :=
    { before := [' '], whole := "2592000".toList, fraction := some "000000001".toList, after := [] }
  have hlimit : limit.value ≤ maxCaseSeconds := PlainTime.value_le_iff.mpr (by decide)
  have hlonger : maxCaseSeconds < longer.value :=
    not_le.mp (PlainTime.value_le_iff.not.mpr (by decide))
  obtain ⟨d, hd, htake⟩ := (take_plain_time limit {} (expand_eq_self (by decide))).1.mp hlimit
  have hrefuse := (take_plain_time longer {} (expand_eq_self (by decide))).2.mp hlonger
  have hnanos : d.nanos = 2592000 * 10 ^ 9 := by
    rw [← PlainTime.cast_nanos, Nat.cast_inj] at hd
    exact hd.trans (by decide)
  constructor
  · exact (congrArg (Except.map _) htake).trans (congrArg Except.ok hnanos)
  · exact congrArg (Except.map _) hrefuse

end Report

/-! ## Durations as decimals -/

namespace Duration

variable {d : Duration}

/-- The seconds with nine digits of fraction. -/
def toTimeText (d : Duration) : List Char :=
  Nat.toDigits 10 d.seconds ++ '.' :: padded 9 d.subsecond

/-- The text of a duration is a plain decimal. -/
def toPlainTime (d : Duration) : PlainTime where
  before := []
  whole := Nat.toDigits 10 d.seconds
  fraction := some (padded 9 d.subsecond)
  after := []
  whole_ne_nil := Nat.toDigits_ne_nil
  whole_isDigit _ := isDigit_of_mem_toDigits
  fraction_isDigit _ := isDigit_of_mem_padded
  length_fraction_le := (length_padded (by decide) d.subsecond_lt).le

theorem text_toPlainTime (d : Duration) : d.toPlainTime.text = d.toTimeText := List.append_nil _

/-- The digits of a duration are its nanoseconds. -/
theorem nanos_toPlainTime (d : Duration) : d.toPlainTime.nanos = d.nanos := by
  have hlength : d.toPlainTime.places.length = 9 := length_padded (by decide) d.subsecond_lt
  have hdigits : natOfDigits d.toPlainTime.digits =
      natOfDigits (Nat.toDigits 10 d.seconds ++ padded 9 d.subsecond) := rfl
  rw [PlainTime.nanos, hlength, hdigits, natOfDigits_append, natOfDigits_toDigits,
    natOfDigits_padded, length_padded (by decide) d.subsecond_lt, Nat.sub_self, Nat.pow_zero,
    Nat.mul_one]
  exact Nat.div_add_mod' d.nanos nanosPerSecond

theorem mem_toTimeText {c : Char} (h : c ∈ d.toTimeText) : c.isDigit ∨ c = '.' :=
  d.toPlainTime.mem_numeral h

/-- The time of a test is read as it was written. -/
theorem ofTimeText?_toTimeText (h : d.nanos ≤ maxCaseSeconds * nanosPerSecond) :
    ofTimeText? d.toTimeText = some d := by
  rw [← text_toPlainTime]
  exact PlainTime.ofTimeText?_of_nanos_eq d.nanos_toPlainTime.symm h

end Duration

end SuiteSplit
