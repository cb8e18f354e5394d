import Mathlib.Data.List.DropRight
import SuiteSplit.Proofs.SecondsCodec
import SuiteSplit.Proofs.Timestamp
import SuiteSplit.Summary

/-!
Durations in a summary.

A duration is shown as whole seconds and up to three digits behind a point. Zeros are trimmed off the
text, which is right because there are always three digits behind the point at first: no zero of the
whole seconds can be reached. The number that is shown is the encoded duration, rounded to thousandths. So
a longer duration is never shown as a smaller number, and below 2^43 seconds, where the encoding is off by
less than half a thousandth, whole thousandths are shown as they are.
-/

namespace SuiteSplit

open Binary64 Timestamp

/-- A number of seconds as a summary shows it. -/
structure BriefText where
  whole : List Char
  /-- The digits behind the point; without any there is no point. -/
  fraction : List Char
  whole_isDigit : ∀ c ∈ whole, c.isDigit
  whole_plain : whole = ['0'] ∨ whole ≠ [] ∧ whole.head? ≠ some '0'
  fraction_isDigit : ∀ c ∈ fraction, c.isDigit
  length_fraction_le : fraction.length ≤ 3
  fraction_trimmed : fraction.getLast? ≠ some '0'

namespace BriefText

variable {t u : BriefText}

/-- What stands behind the whole seconds. -/
def behind (t : BriefText) : List Char :=
  (if t.fraction = [] then [] else '.' :: t.fraction) ++ ['s']

def text (t : BriefText) : List Char := t.whole ++ t.behind

/-- The number that is shown. -/
def value (t : BriefText) : ℚ :=
  natOfDigits t.whole + natOfDigits t.fraction / 10 ^ t.fraction.length

theorem endsDigits_behind (t : BriefText) : EndsDigits t.behind := by
  rw [behind]
  split
  · exact endsDigits_cons (by decide) _
  · exact endsDigits_cons (by decide) _

/-- The number is told by the text. -/
theorem value_eq_of_text_eq (h : t.text = u.text) : t.value = u.value := by
  have hwhole : t.whole = u.whole := by
    rw [← takeWhile_digits t.whole_isDigit t.endsDigits_behind, ← text, h, text,
      takeWhile_digits u.whole_isDigit u.endsDigits_behind]
  have hbehind : t.behind = u.behind := by
    rw [← dropWhile_digits t.whole_isDigit t.endsDigits_behind, ← text, h, text,
      dropWhile_digits u.whole_isDigit u.endsDigits_behind]
  have hfraction : t.fraction = u.fraction := by
    replace hbehind := List.append_cancel_right hbehind
    split_ifs at hbehind <;> simp_all
  rw [value, value, hwhole, hfraction]

end BriefText

/-! ## Digits -/

/-- What is trimmed off the end of an appended text reaches the first part only if nothing is left of the
second. -/
theorem rdropWhile_append {α : Type} (p : α → Bool) (xs ys : List α) :
    (xs ++ ys).rdropWhile p =
      if ys.rdropWhile p = [] then xs.rdropWhile p else xs ++ ys.rdropWhile p := by
  simp only [List.rdropWhile, List.reverse_append, List.dropWhile_append, List.isEmpty_iff,
    List.reverse_eq_nil_iff]
  split <;> simp

/-- Zeros at the end of a fraction do not count. -/
theorem natOfDigits_rdropWhile (cs : List Char) :
    (natOfDigits (cs.rdropWhile (· = '0')) : ℚ) / 10 ^ (cs.rdropWhile (· = '0')).length =
      natOfDigits cs / 10 ^ cs.length := by
  obtain ⟨zeros, hzeros⟩ : ∃ n, cs.rtakeWhile (· = '0') = List.replicate n '0' :=
    ⟨_, List.eq_replicate_of_mem fun c hc => by simpa using List.mem_rtakeWhile_imp hc⟩
  have hsplit : cs.rdropWhile (· = '0') ++ List.replicate zeros '0' = cs := by
    rw [← hzeros]
    exact List.rdropWhile_append_rtakeWhile
  generalize cs.rdropWhile (· = '0') = kept at hsplit ⊢
  rw [← hsplit, natOfDigits_append, natOfDigits_replicate, List.length_append, List.length_replicate,
    pow_add]
  push_cast
  field_simp
  ring

/-- The three digits of a number of thousandths. -/
theorem exists_three_digits {m : Nat} (h : m < 1000) :
    ∃ cs, (Nat.toDigits 10 (m + 1000)).drop 1 = cs ∧ (∀ c ∈ cs, c.isDigit) ∧ cs.length = 3 ∧
      natOfDigits cs = m := by
  obtain ⟨cs, hcs, hlength⟩ : ∃ cs, Nat.toDigits 10 (m + 1000) = '1' :: cs ∧ cs.length = 3 := by
    have hfirst : Nat.toDigits 10 ((m + 1000) / 10 / 10 / 10) = ['1'] := by
      rw [show (m + 1000) / 10 / 10 / 10 = 1 by omega]
      decide
    rw [Nat.toDigits_eq_if (by decide), if_neg (by omega), Nat.toDigits_eq_if (by decide),
      if_neg (by omega), Nat.toDigits_eq_if (by decide), if_neg (by omega), hfirst]
    exact ⟨_, rfl, rfl⟩
  have hdigits (c : Char) (hc : c ∈ cs) : c.isDigit :=
    isDigit_of_mem_toDigits (n := m + 1000) (hcs ▸ List.mem_cons_of_mem _ hc)
  have hvalue : natOfDigits (['1'] ++ cs) = m + 1000 := by
    rw [List.singleton_append, ← hcs, natOfDigits_toDigits]
  rw [natOfDigits_append, hlength, show natOfDigits ['1'] = 1 from rfl] at hvalue
  exact ⟨cs, by rw [hcs]; rfl, hdigits, hlength, by omega⟩

namespace Duration

/-! ## Trimming -/

theorem trimFraction_eq (cs : List Char) :
    trimFraction cs = (cs.rdropWhile (· = '0')).rdropWhile (· = '.') := by
  simp [trimFraction, List.rdropWhile]

/-- Only zeros behind the point are trimmed, and the point if there is nothing else behind it. -/
theorem trimFraction_append_point {whole fraction : List Char} (hwhole : ∀ c ∈ whole, c.isDigit)
    (hfraction : ∀ c ∈ fraction, c.isDigit) :
    trimFraction (whole ++ '.' :: fraction) =
      whole ++ if fraction.rdropWhile (· = '0') = [] then []
        else '.' :: fraction.rdropWhile (· = '0') := by
  have hpoint {cs : List Char} (hcs : ∀ c ∈ cs, c.isDigit) : cs.rdropWhile (· = '.') = cs := by
    refine List.rdropWhile_eq_self_iff.mpr fun hne hlast => ?_
    have hdigit := hcs _ (List.getLast_mem hne)
    rw [of_decide_eq_true hlast] at hdigit
    exact absurd hdigit (by decide)
  rw [trimFraction_eq, ← List.singleton_append, ← List.append_assoc, rdropWhile_append (· = '0')]
  split
  · rw [List.rdropWhile_concat_neg _ _ _ (by decide), List.rdropWhile_concat_pos _ _ _ (by decide),
      hpoint hwhole, List.append_nil]
  · next hkept =>
    have hdigits : ∀ c ∈ fraction.rdropWhile (· = '0'), c.isDigit := fun c hc =>
      hfraction c ((List.rdropWhile_prefix _ _).subset hc)
    rw [rdropWhile_append, hpoint hdigits, if_neg hkept, List.append_assoc, List.singleton_append]

/-- Whole digits and a fraction of three digits are shown without the zeros at the end. -/
theorem exists_text_eq_trimmed {n : Nat} {fraction : List Char} (hdigits : ∀ c ∈ fraction, c.isDigit)
    (hlength : fraction.length = 3) :
    ∃ t : BriefText, trimFraction (Nat.toDigits 10 n ++ '.' :: fraction) ++ ['s'] = t.text ∧
      t.value = n + natOfDigits fraction / 1000 := by
  have hkept := List.rdropWhile_prefix (· = '0') fraction
  refine ⟨⟨Nat.toDigits 10 n, fraction.rdropWhile (· = '0'), fun _ => isDigit_of_mem_toDigits, ?_,
    fun c hc => hdigits c (hkept.subset hc), hlength ▸ hkept.length_le, ?_⟩, ?_, ?_⟩
  · rcases n.eq_zero_or_pos with rfl | hn
    · exact .inl rfl
    · refine .inr ⟨Nat.toDigits_ne_nil, fun hfirst => ?_⟩
      obtain ⟨cs, hcs⟩ := List.head?_eq_some_iff.mp hfirst
      exact toDigits_ne_zero_cons hn cs hcs
  · intro hlast
    have hne : fraction.rdropWhile (· = '0') ≠ [] := by
      intro hnil
      rw [hnil] at hlast
      cases hlast
    rw [List.getLast?_eq_some_getLast hne] at hlast
    exact List.rdropWhile_last_not (· = '0') fraction hne (decide_eq_true (Option.some.inj hlast))
  · rw [trimFraction_append_point (fun _ => isDigit_of_mem_toDigits) hdigits, BriefText.text,
      BriefText.behind, List.append_assoc]
  · rw [BriefText.value, natOfDigits_toDigits, natOfDigits_rdropWhile, hlength]
    norm_num

/-- The text of a duration shows the encoded duration, rounded to thousandths. -/
theorem exists_text_eq_brief (d : Duration) : ∃ t : BriefText, d.brief.toList = t.text ∧
    t.value = (d.toSeconds.scaled 1000 : ℚ) / 1000 := by
  obtain ⟨cs, hcs, hdigits, hlength, hvalue⟩ :=
    exists_three_digits (m := d.toSeconds.scaled 1000 % 1000) (Nat.mod_lt _ (by decide))
  obtain ⟨t, htext, ht⟩ :=
    exists_text_eq_trimmed (n := d.toSeconds.scaled 1000 / 1000) hdigits hlength
  refine ⟨t, ?_, ?_⟩
  · rw [brief, hcs, String.toList_append, String.toList_ofList, ← htext]
    rfl
  · have hsplit := Nat.div_add_mod' (d.toSeconds.scaled 1000) 1000
    rw [ht, hvalue]
    conv_rhs => rw [← hsplit]
    push_cast
    ring

/-! ## Order and exactness -/

variable {d d' : Duration}

/-- Whole thousandths below 2^43 seconds are the rounded ones. -/
theorem scaled_toSeconds_of_whole {n : Nat} (hn : d.nanos = n * 10 ^ 6) (h : d.seconds < 2 ^ 43) :
    d.toSeconds.scaled 1000 = n := by
  have hexact : d.exact * 1000 = n := by
    rw [exact, hn]
    push_cast
    ring
  have hnear := abs_le.mp (abs_toSeconds_sub_le_of_lt (by decide) h)
  apply scaled_eq_of_abs_sub_lt
  rw [← hexact, abs_lt]
  push_cast
  constructor <;> linarith

/-- A duration is shown as whole seconds without zeros in front and up to three digits behind a point, of
which the last is no zero; nothing but zeros behind the point is dropped from the encoded duration,
rounded to thousandths. A longer duration is not shown as a smaller number, and whole thousandths
below 2^43 seconds are shown as they are. -/
theorem brief_shows_duration :
    (∀ d : Duration, ∃ t : BriefText, d.brief.toList = t.text ∧
      t.value = (d.toSeconds.scaled 1000 : ℚ) / 1000) ∧
    (∀ (d d' : Duration) (t t' : BriefText), d.brief.toList = t.text → d'.brief.toList = t'.text →
      d ≤ d' → t.value ≤ t'.value) ∧
    (∀ (d : Duration) (t : BriefText), d.brief.toList = t.text → 10 ^ 6 ∣ d.nanos →
      d.nanos < 2 ^ 43 * nanosPerSecond → t.value = d.exact) := by
  have hshown (d : Duration) (t : BriefText) (ht : d.brief.toList = t.text) :
      t.value = (d.toSeconds.scaled 1000 : ℚ) / 1000 := by
    obtain ⟨u, hu, hvalue⟩ := d.exists_text_eq_brief
    rw [← hvalue, BriefText.value_eq_of_text_eq (ht.symm.trans hu)]
  refine ⟨exists_text_eq_brief, ?_, ?_⟩
  · intro d d' t t' ht ht' hle
    have hscaled : d.toSeconds.scaled 1000 ≤ d'.toSeconds.scaled 1000 :=
      roundHalfEven_mono (Nat.mul_le_mul_right _ (steps_toSeconds_mono hle))
    have hscaled' : (d.toSeconds.scaled 1000 : ℚ) ≤ d'.toSeconds.scaled 1000 := by
      exact_mod_cast hscaled
    rw [hshown d t ht, hshown d' t' ht']
    linarith
  · rintro d t ht ⟨n, hn⟩ hlt
    have hseconds : d.seconds < 2 ^ 43 := (Nat.div_lt_iff_lt_mul (by decide)).mpr hlt
    rw [Nat.mul_comm] at hn
    rw [hshown d t ht, scaled_toSeconds_of_whole hn hseconds, exact, hn]
    push_cast
    ring

/-- Ten seconds keep their zero, and a quarter of a second more is shown as a larger number. -/
theorem brief_shows_ten_seconds :
    let ten := ofNanos (10 * nanosPerSecond)
    let more := ofNanos (10 * nanosPerSecond + 250 * 10 ^ 6)
    ten ≤ more ∧ ten.brief = "10s" ∧ more.brief = "10.25s" ∧
      ∃ t t' : BriefText, ten.brief.toList = t.text ∧ more.brief.toList = t'.text ∧
        t.value ≤ t'.value ∧ t.value = ten.exact ∧ t'.value = more.exact := by
  intro ten more
  have hle : ten ≤ more := by decide
  have hten : ten.brief = "10s" := by decide +kernel
  have hmore : more.brief = "10.25s" := by decide +kernel
  obtain ⟨hshown, hmono, hexact⟩ := brief_shows_duration
  obtain ⟨t, ht, -⟩ := hshown ten
  obtain ⟨t', ht', -⟩ := hshown more
  exact ⟨hle, hten, hmore, t, t', ht, ht', hmono ten more t t' ht ht' hle,
    hexact ten t ht (by decide) (by decide), hexact more t' ht' (by decide) (by decide)⟩

end Duration

end SuiteSplit
