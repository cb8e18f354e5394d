import Mathlib.Data.List.Basic
import SuiteSplit.Pattern

/-!
What a pattern matches.

A match is a part of a text, between what stands in front of it and what stands behind it. It is said
here by the constructors of patterns, and it is what the rows of places compute. Of a part that repeats
more often than the text has places, one repetition takes nothing; it can be left out or be taken once
more, so all numbers above that come to the same.
-/

namespace SuiteSplit.Pattern

/-- Which parts of a text match, given what stands in front of them and behind them. -/
abbrev Matching := List Char → List Char → List Char → Prop

namespace Matching

def nothing : Matching := fun _ inner _ => inner = []

/-- A part that matches, and another one right behind it. -/
def andThen (m m' : Matching) : Matching := fun before inner after =>
  ∃ x y, x ++ y = inner ∧ m before x (y ++ after) ∧ m' (before ++ x) y after

def either (m m' : Matching) : Matching := fun before inner after =>
  m before inner after ∨ m' before inner after

/-- A number of parts one behind the other. -/
def repeated (m : Matching) : Nat → Matching
  | 0 => nothing
  | n + 1 => m.andThen (m.repeated n)

def upTo (m : Matching) (bound : Nat) : Matching := fun before inner after =>
  ∃ k ≤ bound, m.repeated k before inner after

end Matching

/-- The matches of a pattern. -/
def Takes : Pattern → Matching
  | empty => .nothing
  | one set => fun _ inner _ => ∃ c, inner = [c] ∧ set.contains c
  | assert a => fun before inner after => inner = [] ∧ a.holds ⟨before.getLast?, after.head?⟩
  | seq p q => Matching.andThen p.Takes q.Takes
  | alt p q => Matching.either p.Takes q.Takes
  | times p least most => fun before inner after =>
    ∃ n, least ≤ n ∧ (∀ bound ∈ most, n ≤ max least bound) ∧
      Matching.repeated p.Takes n before inner after

/-! ## Repetitions -/

namespace Matching

variable {m : Matching} {before inner after : List Char} {k l n : Nat}

theorem repeated_add : m.repeated (k + l) before inner after ↔
    ((m.repeated k).andThen (m.repeated l)) before inner after := by
  induction k generalizing before inner with
  | zero =>
    rw [Nat.zero_add]
    constructor
    · intro h
      exact ⟨[], inner, rfl, rfl, by simpa using h⟩
    · rintro ⟨x, y, rfl, rfl, h⟩
      simpa using h
  | succ k ih =>
    rw [Nat.succ_add]
    constructor
    · rintro ⟨x, y, rfl, hx, hy⟩
      obtain ⟨z, w, rfl, hz, hw⟩ := ih.mp hy
      exact ⟨x ++ z, w, by simp, ⟨x, z, rfl, by simpa using hx, hz⟩, by simpa using hw⟩
    · rintro ⟨x, y, rfl, ⟨z, w, rfl, hz, hw⟩, hy⟩
      exact ⟨z, w ++ y, by simp, by simpa using hz, ih.mpr ⟨w, y, rfl, hw, by simpa using hy⟩⟩

/-- A part that takes nothing can be taken any number of times. -/
theorem repeated_idle (hidle : m before [] (inner ++ after)) (h : m.repeated n before inner after)
    (extra : Nat) : m.repeated (n + extra) before inner after := by
  induction extra with
  | zero => exact h
  | succ extra ih => exact ⟨[], inner, rfl, hidle, by simpa using ih⟩

/-- With more repetitions than characters one takes nothing, so that any number of more would do. -/
theorem repeated_pump (hn : inner.length < n) (h : m.repeated n before inner after) (extra : Nat) :
    m.repeated (n - 1 + extra) before inner after := by
  induction n generalizing before inner with
  | zero => omega
  | succ n ih =>
    obtain ⟨x, y, rfl, hx, hy⟩ := h
    rw [Nat.add_sub_cancel]
    cases x with
    | nil => exact repeated_idle (by simpa using hx) (by simpa using hy) extra
    | cons c cs =>
      simp only [List.cons_append, List.length_cons, List.length_append] at hn
      have hmore := ih (by omega) hy
      obtain ⟨n, rfl⟩ : ∃ n', n = n' + 1 := ⟨n - 1, by omega⟩
      rw [Nat.add_sub_cancel] at hmore
      rw [Nat.add_right_comm]
      exact ⟨c :: cs, y, rfl, hx, hmore⟩

theorem repeated_le (hn : inner.length < n) (hk : n ≤ k) (h : m.repeated k before inner after) :
    m.repeated n before inner after := by
  induction hk with
  | refl => exact h
  | step hle ih => exact ih (repeated_pump (Nat.lt_of_lt_of_le hn (Nat.le_succ_of_le hle)) h 0)

/-- All numbers of repetitions above the number of characters come to the same. -/
theorem repeated_of_lt (hk : inner.length < k) (hl : inner.length < l)
    (h : m.repeated k before inner after) : m.repeated l before inner after := by
  have hleast : m.repeated (inner.length + 1) before inner after := repeated_le (by omega) (by omega) h
  have hmore := repeated_pump (by omega) hleast (l - inner.length)
  rwa [Nat.add_sub_cancel, Nat.add_sub_cancel' (Nat.le_of_lt hl)] at hmore

/-- Counting no further than a limit above the number of characters changes nothing. -/
theorem repeated_cut {limit : Nat} (hlimit : inner.length < limit) (least : Nat) :
    m.repeated (min least limit + min k limit) before inner after ↔
      m.repeated (least + k) before inner after := by
  by_cases hfew : least ≤ limit ∧ k ≤ limit
  · rw [Nat.min_eq_left hfew.1, Nat.min_eq_left hfew.2]
  · exact ⟨repeated_of_lt (by omega) (by omega), repeated_of_lt (by omega) (by omega)⟩

theorem repeated_andThen_upTo {bound : Nat} :
    (m.repeated l).andThen (m.upTo bound) before inner after ↔
      ∃ k ≤ bound, m.repeated (l + k) before inner after := by
  simp only [repeated_add]
  constructor
  · rintro ⟨x, y, hxy, hx, k, hk, hy⟩
    exact ⟨k, hk, x, y, hxy, hx, hy⟩
  · rintro ⟨k, hk, x, y, hxy, hx, hy⟩
    exact ⟨x, y, hxy, hx, k, hk, hy⟩

/-- Up to one repetition more: nothing, or a part and then up to as many as before. -/
theorem either_andThen_upTo {bound : Nat} :
    (nothing.either m).andThen (m.upTo bound) before inner after ↔
      m.upTo (bound + 1) before inner after := by
  constructor
  · rintro ⟨x, y, rfl, rfl | hx, k, hk, hy⟩
    · exact ⟨k, Nat.le_succ_of_le hk, by simpa using hy⟩
    · exact ⟨k + 1, Nat.succ_le_succ hk, x, y, rfl, hx, hy⟩
  · rintro ⟨k, hk, h⟩
    cases k with
    | zero => exact ⟨[], inner, rfl, .inl rfl, 0, Nat.zero_le _, h⟩
    | succ k =>
      obtain ⟨x, y, rfl, hx, hy⟩ := h
      exact ⟨x, y, rfl, .inr hx, k, Nat.le_of_succ_le_succ hk, hy⟩

end Matching

/-! ## Rows -/

/-- The place behind a front of the text was reached. -/
def Reaches (row : Row) (front : List Char) : Prop := row[front.length]? = some true

/-- A step from row to row goes from places where a part of the text begins to places where it ends. -/
structure Computes (text : List Char) (step : Row → Row) (m : Matching) : Prop where
  length_eq : ∀ {row : Row}, row.length = text.length + 1 → (step row).length = text.length + 1
  reaches_iff : ∀ {row : Row}, row.length = text.length + 1 → ∀ {front after : List Char},
    front ++ after = text → (Reaches (step row) front ↔
      ∃ before inner, before ++ inner = front ∧ Reaches row before ∧ m before inner after)

variable {text : List Char} {f g : Row → Row} {m m' : Matching} {row row' : Row} {front : List Char}

theorem reaches_zipWith_or (h : row.length = row'.length) :
    Reaches (List.zipWith or row row') front ↔ Reaches row front ∨ Reaches row' front := by
  simp only [Reaches, List.getElem?_zipWith]
  cases hrow : row[front.length]? with
  | none =>
    have hrow' : row'[front.length]? = none := by
      rw [List.getElem?_eq_none_iff] at hrow ⊢
      omega
    simp [hrow']
  | some b =>
    cases hrow' : row'[front.length]? with
    | none =>
      rw [List.getElem?_eq_none_iff] at hrow'
      obtain ⟨hlt, -⟩ := List.getElem?_eq_some_iff.mp hrow
      omega
    | some b' => simp

/-- Where a step leads to no new place, more steps do not either. -/
theorem within_of_closed (h : List.zipWith or row (f row) = row) (n : Nat) : within f n row = row := by
  cases n with
  | zero => rfl
  | succ n => simp [within, h]

theorem within_succ (f : Row → Row) (n : Nat) (row : Row) :
    within f (n + 1) row = within f n (List.zipWith or row (f row)) := by
  rw [within]
  split
  · next hclosed => rw [hclosed, within_of_closed hclosed]
  · rfl

namespace Computes

theorem nothing : Computes text id .nothing where
  length_eq := id
  reaches_iff _ front after _ := by
    constructor
    · intro h
      exact ⟨front, [], List.append_nil front, h, rfl⟩
    · rintro ⟨before, inner, rfl, h, rfl⟩
      simpa using h

theorem comp (hf : Computes text f m) (hg : Computes text g m') :
    Computes text (fun row => g (f row)) (m.andThen m') where
  length_eq h := hg.length_eq (hf.length_eq h)
  reaches_iff h front after hfront := by
    rw [hg.reaches_iff (hf.length_eq h) hfront]
    constructor
    · rintro ⟨middle, y, rfl, hmiddle, hy⟩
      rw [List.append_assoc] at hfront
      obtain ⟨before, x, rfl, hbefore, hx⟩ := (hf.reaches_iff h hfront).mp hmiddle
      exact ⟨before, x ++ y, by simp, hbefore, x, y, rfl, hx, hy⟩
    · rintro ⟨before, -, rfl, hbefore, x, y, rfl, hx, hy⟩
      refine ⟨before ++ x, y, by simp, ?_, hy⟩
      exact (hf.reaches_iff h (by simpa using hfront)).mpr ⟨before, x, rfl, hbefore, hx⟩

theorem either (hf : Computes text f m) (hg : Computes text g m') :
    Computes text (fun row => List.zipWith or (f row) (g row)) (m.either m') where
  length_eq h := by simp [hf.length_eq h, hg.length_eq h]
  reaches_iff h front after hfront := by
    rw [reaches_zipWith_or ((hf.length_eq h).trans (hg.length_eq h).symm), hf.reaches_iff h hfront,
      hg.reaches_iff h hfront]
    simp only [Matching.either]
    grind

theorem congr (hf : Computes text f m)
    (h : ∀ before inner after, before ++ inner ++ after = text →
      (m before inner after ↔ m' before inner after)) : Computes text f m' where
  length_eq := hf.length_eq
  reaches_iff hrow front after hfront := by
    rw [hf.reaches_iff hrow hfront]
    refine exists_congr fun before => exists_congr fun inner => and_congr_right fun hsplit => ?_
    rw [h before inner after (by rw [hsplit, hfront])]

theorem iterate (hf : Computes text f m) (n : Nat) :
    Computes text (Pattern.iterate f n) (m.repeated n) := by
  induction n with
  | zero => exact nothing
  | succ n ih => exact hf.comp ih

theorem within (hf : Computes text f m) (n : Nat) :
    Computes text (Pattern.within f n) (m.upTo n) := by
  induction n with
  | zero =>
    refine nothing.congr fun before inner after _ => ⟨fun h => ⟨0, Nat.le_refl 0, h⟩, ?_⟩
    rintro ⟨k, hk, h⟩
    rwa [Nat.le_zero.mp hk] at h
  | succ n ih =>
    rw [funext (within_succ f n)]
    exact ((nothing.either hf).comp ih).congr fun _ _ _ _ => Matching.either_andThen_upTo

end Computes

/-! ## Single places -/

theorem getElem?_surroundingsFrom (first : Option Char) (before after : List Char) :
    (surroundingsFrom first (before ++ after))[before.length]? =
      some ⟨before.getLast?.or first, after.head?⟩ := by
  induction before generalizing first with
  | nil => cases after <;> rfl
  | cons c before ih =>
    rw [List.cons_append, surroundingsFrom, List.length_cons, List.getElem?_cons_succ, ih,
      List.getLast?_cons]
    cases before.getLast? <;> rfl

theorem length_surroundingsFrom (first : Option Char) (text : List Char) :
    (surroundingsFrom first text).length = text.length + 1 := by
  induction text generalizing first with
  | nil => rfl
  | cons c text ih => rw [surroundingsFrom, List.length_cons, ih, List.length_cons]

theorem computes_assert (text : List Char) (a : Assertion) :
    Computes text ((assert a).ends text) (assert a).Takes where
  length_eq h := by simp [ends, h, length_surroundingsFrom]
  reaches_iff {row} h front after hfront := by
    have hplace := getElem?_surroundingsFrom none front after
    rw [hfront, Option.or_none] at hplace
    have hreach : Reaches ((assert a).ends text row) front ↔
        Reaches row front ∧ a.holds ⟨front.getLast?, after.head?⟩ := by
      simp only [Reaches, ends, List.getElem?_zipWith, hplace]
      cases row[front.length]? <;> simp
    rw [hreach]
    constructor
    · rintro ⟨hbefore, hholds⟩
      exact ⟨front, [], List.append_nil front, hbefore, rfl, hholds⟩
    · rintro ⟨before, inner, rfl, hbefore, rfl, hholds⟩
      simpa using ⟨hbefore, hholds⟩

theorem computes_one (text : List Char) (set : CodeSet) :
    Computes text ((one set).ends text) (one set).Takes where
  length_eq h := by simp [ends, h]
  reaches_iff {row} h front after hfront := by
    rcases List.eq_nil_or_concat front with rfl | ⟨before, c, rfl⟩
    · simp [Reaches, ends, Takes]
    · have hplace : text[before.length]? = some c := by simp [← hfront]
      have hreach : Reaches ((one set).ends text row) (before ++ [c]) ↔
          Reaches row before ∧ set.contains c := by
        simp only [Reaches, ends, List.length_append, List.length_singleton, List.getElem?_cons_succ,
          List.getElem?_zipWith, hplace]
        cases row[before.length]? <;> simp
      rw [List.concat_eq_append, hreach]
      constructor
      · rintro ⟨hbefore, hc⟩
        exact ⟨before, [c], rfl, hbefore, c, rfl, hc⟩
      · rintro ⟨before', inner, hsplit, hbefore, c', rfl, hc⟩
        obtain ⟨rfl, hlast⟩ := List.append_inj' hsplit rfl
        obtain rfl : c' = c := by simpa using hlast
        exact ⟨hbefore, hc⟩

/-! ## Whole patterns -/

/-- The rows count at most as many repetitions as there are places, which is enough for any count. -/
theorem computes_times (hf : Computes text f m) (least : Nat) (most : Option Nat) :
    Computes text (fun row =>
        let row := iterate f (min least (text.length + 1)) row
        match most with
        | none => within f (text.length + 1) row
        | some most => within f (min (most - least) (text.length + 1)) row)
      (fun before inner after => ∃ n, least ≤ n ∧ (∀ bound ∈ most, n ≤ max least bound) ∧
        m.repeated n before inner after) := by
  have hcount (extra : Nat) := (hf.iterate (min least (text.length + 1))).comp (hf.within extra)
  have hlimit {before inner after : List Char} (hsplit : before ++ inner ++ after = text) :
      inner.length < text.length + 1 := by
    simp [← hsplit]
    omega
  cases most with
  | none =>
    refine (hcount _).congr fun before inner after hsplit =>
      Matching.repeated_andThen_upTo.trans ⟨?_, ?_⟩
    · rintro ⟨k, hk, h⟩
      rw [← Nat.min_eq_left hk, Matching.repeated_cut (hlimit hsplit)] at h
      exact ⟨least + k, Nat.le_add_right _ _, nofun, h⟩
    · rintro ⟨n, hleast, -, h⟩
      rw [← Nat.add_sub_cancel' hleast, ← Matching.repeated_cut (hlimit hsplit)] at h
      exact ⟨_, Nat.min_le_right _ _, h⟩
  | some most =>
    refine (hcount _).congr fun before inner after hsplit =>
      Matching.repeated_andThen_upTo.trans ⟨?_, ?_⟩
    · rintro ⟨k, hk, h⟩
      rw [← Nat.min_eq_left (Nat.le_trans hk (Nat.min_le_right _ _)),
        Matching.repeated_cut (hlimit hsplit)] at h
      refine ⟨least + k, Nat.le_add_right _ _, fun bound hbound => ?_, h⟩
      obtain rfl := Option.some.inj hbound
      omega
    · rintro ⟨n, hleast, hmost, h⟩
      have hbound := hmost most rfl
      rw [← Nat.add_sub_cancel' hleast, ← Matching.repeated_cut (hlimit hsplit)] at h
      exact ⟨_, by omega, h⟩

/-- The rows compute the matches of every pattern. -/
theorem computes_ends (text : List Char) (p : Pattern) : Computes text (p.ends text) p.Takes := by
  induction p with
  | empty => exact .nothing
  | one set => exact computes_one text set
  | assert a => exact computes_assert text a
  | seq p q ihp ihq => exact ihp.comp ihq
  | alt p q ihp ihq => exact ihp.either ihq
  | times p least most ih => exact computes_times ih least most

/-- A pattern matches in a text if it matches a part of it. -/
theorem matchesIn_iff {p : Pattern} {text : List Char} : p.matchesIn text ↔
    ∃ before inner after, before ++ inner ++ after = text ∧ p.Takes before inner after := by
  have hstart : (List.replicate (text.length + 1) true).length = text.length + 1 := List.length_replicate
  have hp := computes_ends text p
  have hreaches (before : List Char) (h : before.length ≤ text.length) :
      Reaches (List.replicate (text.length + 1) true) before := by
    rw [Reaches, List.getElem?_replicate, if_pos (by omega)]
  rw [matchesIn, List.any_eq_true]
  constructor
  · rintro ⟨b, hb, rfl⟩
    obtain ⟨i, hi⟩ := List.mem_iff_getElem?.mp hb
    obtain ⟨hlt, -⟩ := List.getElem?_eq_some_iff.mp hi
    rw [hp.length_eq hstart] at hlt
    have htake : (text.take i).length = i := by simp; omega
    obtain ⟨before, inner, hsplit, -, h⟩ :=
      (hp.reaches_iff hstart (List.take_append_drop i text)).mp (by rwa [Reaches, htake])
    exact ⟨before, inner, text.drop i, by rw [hsplit, List.take_append_drop], h⟩
  · rintro ⟨before, inner, after, hsplit, h⟩
    have hbefore : before.length ≤ text.length := by simp [← hsplit]
    have hend := (hp.reaches_iff hstart hsplit).mpr ⟨before, inner, rfl, hreaches before hbefore, h⟩
    exact ⟨true, List.mem_of_getElem? hend, rfl⟩

end SuiteSplit.Pattern
