import SuiteSplit.Json.Reader
import SuiteSplit.Proofs.Digits
import SuiteSplit.Proofs.JsonText

/-!
JSON values are read as they were written, in either layout, as long as their numbers are written in
the one form that the reader knows: digits without needless zeros in front.
-/

namespace SuiteSplit.Json

/-! ## Numbers -/

/-- No number goes on here. -/
def EndsNumber (rest : List Char) : Prop :=
  ∀ c cs, rest = c :: cs → c.isDigit = false ∧ c ≠ '.' ∧ c ≠ 'e' ∧ c ≠ 'E'

theorem EndsNumber.endsDigits {rest : List Char} (h : EndsNumber rest) : EndsDigits rest :=
  fun c cs hc => (h c cs hc).1

namespace Number

/-- A number in the form that is written: digits on both sides of a point, and before the point no
zero in front of other digits. -/
structure IsCanonical (n : Number) : Prop where
  whole_ne_nil : n.whole ≠ []
  whole_digits : ∀ c ∈ n.whole, c.isDigit
  whole_zero : ∀ cs, n.whole = '0' :: cs → cs = []
  fraction_digits : ∀ c ∈ n.fraction, c.isDigit

/-- The point and the digits behind it. -/
def printFraction (fraction : List Char) : List Char :=
  if fraction = [] then [] else '.' :: fraction

variable {n : Number} {whole fraction rest : List Char}

theorem readPower?_print (power : Option Int) (hrest : EndsNumber rest) :
    readPower? ((power.map printPower).getD [] ++ rest) = some (power, rest) := by
  cases power with
  | none =>
    cases rest with
    | nil => rfl
    | cons c cs =>
      obtain ⟨-, -, hlower, hupper⟩ := hrest c cs rfl
      simp [readPower?, hlower, hupper]
  | some power =>
    obtain ⟨n, hn⟩ : ∃ n, power.natAbs = n := ⟨_, rfl⟩
    have hdigits : ∀ c ∈ Nat.toDigits 10 n, c.isDigit := fun c => isDigit_of_mem_toDigits
    have htake := takeWhile_digits hdigits hrest.endsDigits
    have hdrop := dropWhile_digits hdigits hrest.endsDigits
    have hsize : natOfDigits (Nat.toDigits 10 n) = n := natOfDigits_toDigits n
    by_cases hnegative : power < 0
    · have hvalue : -(n : Int) = power := by omega
      simp [printPower, hn, hnegative, readPower?, Numeral.splitSign, htake, hdrop, hsize, hvalue]
    · have hvalue : (n : Int) = power := by omega
      simp [printPower, hn, hnegative, readPower?, Numeral.splitSign, htake, hdrop, hsize, hvalue]

theorem readFraction?_print (hdigits : ∀ c ∈ fraction, c.isDigit) (hrest : EndsDigits rest)
    (hpoint : ∀ cs, rest ≠ '.' :: cs) :
    readFraction? (printFraction fraction ++ rest) = some (fraction, rest) := by
  rw [printFraction]
  split
  · next hempty =>
    subst hempty
    rw [List.nil_append, readFraction?]
    exact hpoint
  · next hempty =>
    rw [List.cons_append, readFraction?]
    simp [takeWhile_digits hdigits hrest, dropWhile_digits hdigits hrest, hempty]

theorem readWhole?_print (hempty : whole ≠ []) (hdigits : ∀ c ∈ whole, c.isDigit)
    (hzero : ∀ cs, whole = '0' :: cs → cs = []) (hrest : EndsDigits rest) :
    readWhole? (whole ++ rest) = some (whole, rest) := by
  by_cases hfront : ∃ cs, whole = '0' :: cs
  · obtain ⟨cs, rfl⟩ := hfront
    obtain rfl := hzero cs rfl
    rfl
  · rw [readWhole?]
    · simp [takeWhile_digits hdigits hrest, dropWhile_digits hdigits hrest, hempty]
    · rintro cs hcs
      obtain ⟨c, cs', rfl⟩ := List.exists_cons_of_ne_nil hempty
      obtain ⟨rfl, -⟩ := List.cons.inj hcs
      exact hfront ⟨cs', rfl⟩

theorem endsDigits_power (power : Option Int) (hrest : EndsNumber rest) :
    EndsDigits ((power.map printPower).getD [] ++ rest) := by
  cases power with
  | none => exact hrest.endsDigits
  | some power => exact endsDigits_cons (by decide) _

/-- Reads a number behind its sign. -/
def readUnsigned? (negative : Bool) (cs : List Char) : Option (Number × List Char) :=
  (readWhole? cs).bind fun (whole, cs) =>
    (readFraction? cs).bind fun (fraction, cs) =>
      (readPower? cs).map fun (power, cs) => (⟨negative, whole, fraction, power⟩, cs)

theorem read?_minus (cs : List Char) : Number.read? ('-' :: cs) = readUnsigned? true cs := rfl

theorem read?_of_ne_minus {c : Char} (hc : c ≠ '-') (cs : List Char) :
    Number.read? (c :: cs) = readUnsigned? false (c :: cs) := by
  unfold Number.read?
  split
  next negative unsigned heq =>
    split at heq
    · next h => exact absurd (List.cons.inj h).1 hc
    · cases heq
      rfl

theorem readUnsigned?_print (h : n.IsCanonical) (hrest : EndsNumber rest) :
    readUnsigned? n.negative
      (n.whole ++ (printFraction n.fraction ++ ((n.power.map printPower).getD [] ++ rest))) =
        some (n, rest) := by
  have hpower := readPower?_print n.power hrest
  have hpowerEnds := endsDigits_power n.power hrest
  generalize htail : (n.power.map printPower).getD [] ++ rest = tail at *
  have hpoint : ∀ cs, tail ≠ '.' :: cs := by
    rintro cs rfl
    cases hn : n.power with
    | none =>
      rw [hn] at htail
      exact (hrest '.' cs htail).2.1 rfl
    | some power =>
      rw [hn] at htail
      exact absurd (List.cons.inj htail).1 (by decide)
  have hfraction := readFraction?_print h.fraction_digits hpowerEnds hpoint
  have hfractionEnds : EndsDigits (printFraction n.fraction ++ tail) := by
    rw [printFraction]
    split
    · exact hpowerEnds
    · exact endsDigits_cons (by decide) _
  have hwhole := readWhole?_print h.whole_ne_nil h.whole_digits h.whole_zero hfractionEnds
  simp only [readUnsigned?, hwhole, hfraction, hpower, Option.bind_some, Option.map_some]

/-- A number is read as it was written. -/
theorem read?_print (h : n.IsCanonical) (hrest : EndsNumber rest) :
    Number.read? (n.print ++ rest) = some (n, rest) := by
  have hprint : n.print ++ rest = (if n.negative then ['-'] else []) ++ (n.whole ++
      (printFraction n.fraction ++ ((n.power.map printPower).getD [] ++ rest))) := by
    simp only [print, printFraction, List.append_assoc]
  have hread := readUnsigned?_print h hrest
  rw [hprint]
  cases hn : n.negative with
  | true =>
    rw [hn] at hread
    rw [if_pos rfl, List.singleton_append, read?_minus]
    exact hread
  | false =>
    rw [hn] at hread
    obtain ⟨c, cs, hc⟩ := List.exists_cons_of_ne_nil h.whole_ne_nil
    have hminus : c ≠ '-' := by
      rintro rfl
      exact absurd (h.whole_digits '-' (hc ▸ List.mem_cons_self)) (by decide)
    rw [if_neg (by decide), List.nil_append]
    rw [hc, List.cons_append] at hread ⊢
    rw [read?_of_ne_minus hminus]
    exact hread

/-! ## Numbers that are written -/

theorem isCanonical_ofNat (n : Nat) : (Number.ofNat n).IsCanonical := by
  refine ⟨Nat.toDigits_ne_nil, fun c => isDigit_of_mem_toDigits, fun cs hcs => ?_, nofun⟩
  rcases n.eq_zero_or_pos with rfl | hpos
  · exact (List.cons.inj hcs).2.symm
  · exact absurd hcs (toDigits_ne_zero_cons hpos cs)

theorem toCount?_ofNat {n : Nat} (h : n < wordLimit) : (Number.ofNat n).toCount? = some n := by
  have hvalue : natOfDigits (Number.ofNat n).whole = n := natOfDigits_toDigits n
  rw [toCount?, hvalue]
  exact if_neg (by simpa [Number.ofNat] using h)

theorem isCanonical_ofDecimal (d : Decimal) : (ofDecimal d).IsCanonical := by
  have hzeros (n : Nat) : ∀ c ∈ List.replicate n '0', c.isDigit := by
    intro c hc
    rw [List.eq_of_mem_replicate hc]
    decide
  have hone : ∀ c ∈ ['0'], c.isDigit := hzeros 1
  unfold ofDecimal
  dsimp only
  by_cases hzero : d.digits = 0
  · rw [if_pos hzero]
    exact ⟨List.cons_ne_nil _ _, hone, fun cs hcs => (List.cons.inj hcs).2.symm, hone⟩
  · rw [if_neg hzero]
    have hdigits : ∀ c ∈ Nat.toDigits 10 d.digits, c.isDigit := fun c => isDigit_of_mem_toDigits
    have hfront := toDigits_ne_zero_cons (Nat.pos_of_ne_zero hzero)
    obtain ⟨c, cs, hcons⟩ := List.exists_cons_of_ne_nil (Nat.toDigits_ne_nil (b := 10) (n := d.digits))
    rw [hcons] at hdigits hfront ⊢
    have hc : c ≠ '0' := by
      rintro rfl
      exact hfront cs rfl
    have htake (i : Nat) : ∀ c' ∈ (c :: cs).take i, c'.isDigit :=
      fun c' h => hdigits c' (List.mem_of_mem_take h)
    have hdrop (i : Nat) : ∀ c' ∈ (c :: cs).drop i, c'.isDigit :=
      fun c' h => hdigits c' (List.mem_of_mem_drop h)
    split_ifs
    · exact ⟨by simp, htake 1, fun _ h => (List.cons.inj h).2.symm, hdrop 1⟩
    · refine ⟨by simp, fun c' h => ?_, fun _ h => absurd (List.cons.inj h).1 hc, hone⟩
      exact (List.mem_append.mp h).elim (hdigits c') (hzeros _ c')
    · exact ⟨by simp, htake _, fun _ h => absurd (List.cons.inj h).1 hc, hdrop _⟩
    · refine ⟨List.cons_ne_nil _ _, hone, fun _ h => (List.cons.inj h).2.symm, fun c' h => ?_⟩
      exact (List.mem_append.mp h).elim (hzeros _ c') (hdigits c')

theorem isCanonical_ofBinary64 (x : Binary64) : (ofBinary64 x).IsCanonical :=
  isCanonical_ofDecimal x.shortest

/-- A character that a number starts with. -/
def IsFront (c : Char) : Prop := c.isDigit ∨ c = '-'

/-- A number starts with no other character. -/
theorem IsFront.ne {c c' : Char} (hc : IsFront c) (hother : (c'.isDigit || c' == '-') = false) :
    c ≠ c' := by
  rintro rfl
  rw [Bool.or_eq_false_iff] at hother
  rcases hc with hc | rfl
  · rw [hc] at hother
    cases hother.1
  · cases hother.2

theorem exists_print_cons (h : n.IsCanonical) : ∃ c cs, n.print = c :: cs ∧ IsFront c := by
  obtain ⟨c, cs, hc⟩ := List.exists_cons_of_ne_nil h.whole_ne_nil
  have hdigit := h.whole_digits c (hc ▸ List.mem_cons_self)
  rw [print, hc]
  cases n.negative with
  | true => exact ⟨_, _, rfl, .inr rfl⟩
  | false => exact ⟨_, _, rfl, .inl hdigit⟩

end Number

/-! ## Values -/

/-- The numbers of a value are in the form that is written. -/
inductive Value.IsCanonical : Value → Prop
  | null : IsCanonical .null
  | bool (b : Bool) : IsCanonical (.bool b)
  | number {n : Number} (h : n.IsCanonical) : IsCanonical (.number n)
  | text (s : Option (List Char)) : IsCanonical (.text s)
  | array {items : List Value} (h : ∀ v ∈ items, IsCanonical v) : IsCanonical (.array items)
  | object {members : List (Option (List Char) × Value)} (h : ∀ m ∈ members, IsCanonical m.2) :
    IsCanonical (.object members)

section

variable {layout : Layout} {level steps : Nat} {rest : List Char} {v : Value}

theorem skipBlanks_of_not_isBlank {c : Char} (hc : Text.isBlank c = false) (cs : List Char) :
    skipBlanks (c :: cs) = c :: cs := by
  rw [skipBlanks, List.dropWhile_cons_of_neg (by simp [hc])]

theorem skipBlanks_line (layout : Layout) (level : Nat) (cs : List Char) :
    skipBlanks (layout.line level ++ cs) = skipBlanks cs := by
  have hblank : ∀ c ∈ layout.line level, Text.isBlank c := by
    intro c hc
    cases layout with
    | compact => cases hc
    | pretty =>
      rcases List.mem_cons.mp hc with rfl | hc
      · decide
      · rw [List.eq_of_mem_replicate hc]
        decide
  rw [skipBlanks, skipBlanks, List.dropWhile_append_of_pos hblank]

theorem skipBlanks_colon (layout : Layout) (cs : List Char) :
    ∃ cs', skipBlanks (layout.colon ++ cs) = ':' :: cs' ∧ skipBlanks cs' = skipBlanks cs := by
  cases layout with
  | compact => exact ⟨cs, rfl, rfl⟩
  | pretty => exact ⟨' ' :: cs, rfl, rfl⟩

/-- Blanks in front of a value do not matter. -/
theorem readValue?_congr {cs cs' : List Char} (h : skipBlanks cs = skipBlanks cs') (steps : Nat) :
    readValue? steps cs = readValue? steps cs' := by
  cases steps with
  | zero => rfl
  | succ steps => rw [readValue?, readValue?, h]

theorem readItems?_congr {cs cs' : List Char} (h : skipBlanks cs = skipBlanks cs') (steps : Nat) :
    readItems? steps cs = readItems? steps cs' := by
  cases steps with
  | zero => rfl
  | succ steps => rw [readItems?, readItems?, readValue?_congr h]

theorem readMembers?_congr {cs cs' : List Char} (h : skipBlanks cs = skipBlanks cs')
    (steps : Nat) : readMembers? steps cs = readMembers? steps cs' := by
  cases steps with
  | zero => rfl
  | succ steps => rw [readMembers?, readMembers?, readKey?, readKey?, h]

theorem exists_printString_cons (s : Option (List Char)) : ∃ cs, printString s = '"' :: cs := by
  obtain ⟨body, hbody, -⟩ := readText?_printString s []
  exact ⟨body, by rwa [List.append_nil] at hbody⟩

/-- A written value starts with a character that is no blank and closes no array. -/
theorem exists_print_cons (h : v.IsCanonical) (layout : Layout) (level : Nat) :
    ∃ c cs, v.print layout level = c :: cs ∧ Text.isBlank c = false ∧ (c == ']') = false := by
  cases h with
  | null => exact ⟨'n', _, rfl, rfl, rfl⟩
  | bool b =>
    cases b with
    | false => exact ⟨'f', _, rfl, rfl, rfl⟩
    | true => exact ⟨'t', _, rfl, rfl, rfl⟩
  | number hn =>
    obtain ⟨c, cs, hc, hfront⟩ := Number.exists_print_cons hn
    refine ⟨c, cs, hc, ?_, beq_false_of_ne (hfront.ne rfl)⟩
    have hspace : c ≠ ' ' := hfront.ne rfl
    have htab : c ≠ '\t' := hfront.ne rfl
    have hfeed : c ≠ '\n' := hfront.ne rfl
    have hreturn : c ≠ '\r' := hfront.ne rfl
    simp [Text.isBlank, hspace, htab, hfeed, hreturn]
  | text s =>
    obtain ⟨cs, hcs⟩ := exists_printString_cons s
    exact ⟨'"', cs, hcs, rfl, rfl⟩
  | @array items _ =>
    cases items with
    | nil => exact ⟨'[', _, rfl, rfl, rfl⟩
    | cons v vs => exact ⟨'[', _, rfl, rfl, rfl⟩
  | @object members _ =>
    cases members with
    | nil => exact ⟨'\x7b', _, rfl, rfl, rfl⟩
    | cons m ms => exact ⟨'\x7b', _, rfl, rfl, rfl⟩

theorem exists_length_print (h : v.IsCanonical) (hsteps : 2 * (v.print layout level).length ≤ steps) :
    ∃ s, steps = s + 1 := by
  obtain ⟨c, cs, hprint, -⟩ := exists_print_cons h layout level
  rw [hprint, List.length_cons] at hsteps
  exact ⟨steps - 1, by omega⟩

/-- A value is read as it was written, in as many steps as twice its length. -/
def Reads (v : Value) : Prop :=
  ∀ layout level steps rest, EndsNumber rest → 2 * (v.print layout level).length ≤ steps →
    readValue? steps (v.print layout level ++ rest) = some (v, rest)

theorem endsNumber_cons {c : Char} (h : c.isDigit = false ∧ c ≠ '.' ∧ c ≠ 'e' ∧ c ≠ 'E')
    (cs : List Char) : EndsNumber (c :: cs) := by
  rintro c' cs' hc
  obtain ⟨rfl, -⟩ := List.cons.inj hc
  exact h

theorem endsNumber_line {c : Char} (h : c.isDigit = false ∧ c ≠ '.' ∧ c ≠ 'e' ∧ c ≠ 'E')
    (layout : Layout) (level : Nat) (cs : List Char) :
    EndsNumber (layout.line level ++ c :: cs) := by
  cases layout with
  | compact => exact endsNumber_cons h cs
  | pretty => exact endsNumber_cons (by decide) _

section

variable {cs cs' cs'' : List Char} {key : Option (List Char)}

theorem readItems?_last (hv : readValue? steps cs = some (v, cs'))
    (hclose : skipBlanks cs' = ']' :: rest) : readItems? (steps + 1) cs = some ([v], rest) := by
  simp [readItems?, hv, hclose]

theorem readItems?_more {vs : List Value} (hv : readValue? steps cs = some (v, cs'))
    (hcomma : skipBlanks cs' = ',' :: cs'') (hvs : readItems? steps cs'' = some (vs, rest)) :
    readItems? (steps + 1) cs = some (v :: vs, rest) := by
  simp [readItems?, hv, hcomma, hvs]

theorem readKey?_eq_some (hquote : skipBlanks cs = '"' :: cs')
    (hkey : readText? cs' = some (key, cs'')) (hcolon : skipBlanks cs'' = ':' :: rest) :
    readKey? cs = some (key, rest) := by
  simp [readKey?, hquote, hkey, hcolon]

theorem readMembers?_last (hkey : readKey? cs = some (key, cs'))
    (hv : readValue? steps cs' = some (v, cs'')) (hclose : skipBlanks cs'' = '\x7d' :: rest) :
    readMembers? (steps + 1) cs = some ([(key, v)], rest) := by
  simp [readMembers?, hkey, hv, hclose]

theorem readMembers?_more {ms : List (Option (List Char) × Value)} {cs₃ : List Char}
    (hkey : readKey? cs = some (key, cs')) (hv : readValue? steps cs' = some (v, cs''))
    (hcomma : skipBlanks cs'' = ',' :: cs₃) (hms : readMembers? steps cs₃ = some (ms, rest)) :
    readMembers? (steps + 1) cs = some ((key, v) :: ms, rest) := by
  simp [readMembers?, hkey, hv, hcomma, hms]

end

/-- The items of an array from the first one on, up to the closing bracket. -/
theorem readItems?_print {vs : List Value} {close : Nat} (h : ∀ w ∈ v :: vs, Reads w)
    (hsteps : 2 * (v.print layout level ++ Value.printItems layout level vs).length + 1 ≤ steps) :
    readItems? steps (v.print layout level ++ (Value.printItems layout level vs ++
      (layout.line close ++ ']' :: rest))) = some (v :: vs, rest) := by
  induction vs generalizing v steps with
  | nil =>
    obtain ⟨steps, rfl⟩ : ∃ s, steps = s + 1 := ⟨steps - 1, by omega⟩
    simp only [Value.printItems, List.append_nil, List.nil_append] at hsteps ⊢
    have hv := h v List.mem_cons_self layout level steps (layout.line close ++ ']' :: rest)
      (endsNumber_line (by decide) layout close rest) (by omega)
    refine readItems?_last hv ?_
    rw [skipBlanks_line, skipBlanks_of_not_isBlank rfl]
  | cons w vs ih =>
    obtain ⟨steps, rfl⟩ : ∃ s, steps = s + 1 := ⟨steps - 1, by omega⟩
    simp only [Value.printItems, List.length_append, List.length_cons] at hsteps
    have hvs := @ih steps w (fun u hu => h u (List.mem_cons_of_mem _ hu))
      (by rw [List.length_append]; omega)
    simp only [Value.printItems, List.cons_append, List.append_assoc]
    have hv := h v List.mem_cons_self layout level steps
      (',' :: (layout.line level ++ (w.print layout level ++ (Value.printItems layout level vs ++
        (layout.line close ++ ']' :: rest))))) (endsNumber_cons (by decide) _) (by omega)
    refine readItems?_more hv (skipBlanks_of_not_isBlank rfl _) ?_
    rw [readItems?_congr (skipBlanks_line layout level _), hvs]

theorem readKey?_print (key : Option (List Char)) (layout : Layout) (cs : List Char) :
    ∃ cs', readKey? (printString key ++ (layout.colon ++ cs)) = some (key, cs') ∧
      skipBlanks cs' = skipBlanks cs := by
  obtain ⟨body, hbody, hread⟩ := readText?_printString key (layout.colon ++ cs)
  obtain ⟨cs', hcolon, hsame⟩ := skipBlanks_colon layout cs
  refine ⟨cs', readKey?_eq_some ?_ hread hcolon, hsame⟩
  rw [hbody, skipBlanks_of_not_isBlank rfl]

/-- The members of an object from the first one on, up to the closing brace. -/
theorem readMembers?_print {key : Option (List Char)} {ms : List (Option (List Char) × Value)}
    {close : Nat} (h : ∀ m ∈ (key, v) :: ms, Reads m.2)
    (hsteps : 2 * (printString key ++ layout.colon ++ v.print layout level ++
      Value.printMembers layout level ms).length + 1 ≤ steps) :
    readMembers? steps (printString key ++ (layout.colon ++ (v.print layout level ++
      (Value.printMembers layout level ms ++ (layout.line close ++ '\x7d' :: rest))))) =
        some ((key, v) :: ms, rest) := by
  induction ms generalizing key v steps with
  | nil =>
    obtain ⟨steps, rfl⟩ : ∃ s, steps = s + 1 := ⟨steps - 1, by omega⟩
    simp only [Value.printMembers, List.append_nil, List.nil_append, List.length_append]
      at hsteps ⊢
    obtain ⟨cs', hkey, hsame⟩ := readKey?_print key layout
      (v.print layout level ++ (layout.line close ++ '\x7d' :: rest))
    have hv := h (key, v) List.mem_cons_self layout level steps
      (layout.line close ++ '\x7d' :: rest) (endsNumber_line (by decide) layout close rest)
      (by dsimp only; omega)
    rw [← readValue?_congr hsame] at hv
    refine readMembers?_last hkey hv ?_
    rw [skipBlanks_line, skipBlanks_of_not_isBlank rfl]
  | cons m ms ih =>
    obtain ⟨key', w⟩ := m
    obtain ⟨steps, rfl⟩ : ∃ s, steps = s + 1 := ⟨steps - 1, by omega⟩
    simp only [Value.printMembers, List.length_append, List.length_cons] at hsteps
    have hms := @ih steps w key'
      (fun u hu => h u (List.mem_cons_of_mem _ hu)) (by simp only [List.length_append]; omega)
    simp only [Value.printMembers, List.cons_append, List.append_assoc]
    obtain ⟨cs', hkey, hsame⟩ := readKey?_print key layout (v.print layout level ++
      (',' :: (layout.line level ++ (printString key' ++ (layout.colon ++ (w.print layout level ++
        (Value.printMembers layout level ms ++ (layout.line close ++ '\x7d' :: rest))))))))
    have hv := h (key, v) List.mem_cons_self layout level steps
      (',' :: (layout.line level ++ (printString key' ++ (layout.colon ++ (w.print layout level ++
        (Value.printMembers layout level ms ++ (layout.line close ++ '\x7d' :: rest)))))))
      (endsNumber_cons (by decide) _) (by dsimp only; omega)
    rw [← readValue?_congr hsame] at hv
    refine readMembers?_more hkey hv (skipBlanks_of_not_isBlank rfl _) ?_
    rw [readMembers?_congr (skipBlanks_line layout level _), hms]

section

variable {cs cs' : List Char} {c : Char}

theorem readWord?_of_ne (hn : c ≠ 'n') (ht : c ≠ 't') (hf : c ≠ 'f') (cs : List Char) :
    readWord? (c :: cs) = none := by
  simp [readWord?, hn.symm, ht.symm, hf.symm]

theorem readValue?_word {result : Value × List Char} (hfront : skipBlanks cs = c :: cs')
    (hc : c ≠ '"' ∧ c ≠ '[' ∧ c ≠ '\x7b') (hword : readWord? (c :: cs') = some result) :
    readValue? (steps + 1) cs = some result := by
  obtain ⟨hquote, hbracket, hbrace⟩ := hc
  simp [readValue?, hfront, hquote, hbracket, hbrace, hword]

theorem readValue?_number {n : Number} (hfront : skipBlanks cs = c :: cs')
    (hc : c ≠ '"' ∧ c ≠ '[' ∧ c ≠ '\x7b') (hword : readWord? (c :: cs') = none)
    (hn : Number.read? (c :: cs') = some (n, rest)) :
    readValue? (steps + 1) cs = some (.number n, rest) := by
  obtain ⟨hquote, hbracket, hbrace⟩ := hc
  simp [readValue?, hfront, hquote, hbracket, hbrace, hword, hn]

theorem readValue?_text {s : Option (List Char)} (hfront : skipBlanks cs = '"' :: cs')
    (hs : readText? cs' = some (s, rest)) : readValue? (steps + 1) cs = some (.text s, rest) := by
  simp [readValue?, hfront, hs]

theorem readValue?_nil_array (hfront : skipBlanks cs = '[' :: cs')
    (hclose : skipBlanks cs' = ']' :: rest) :
    readValue? (steps + 1) cs = some (.array [], rest) := by
  simp [readValue?, hfront, hclose]

theorem readValue?_nil_object (hfront : skipBlanks cs = '\x7b' :: cs')
    (hclose : skipBlanks cs' = '\x7d' :: rest) :
    readValue? (steps + 1) cs = some (.object [], rest) := by
  simp [readValue?, hfront, hclose]

theorem readValue?_array {items : List Value} (hfront : skipBlanks cs = '[' :: cs')
    (hfirst : ∀ tail, skipBlanks cs' ≠ ']' :: tail)
    (hitems : readItems? steps cs' = some (items, rest)) :
    readValue? (steps + 1) cs = some (.array items, rest) := by
  simp [readValue?, hfront, hitems]

theorem readValue?_object {members : List (Option (List Char) × Value)}
    (hfront : skipBlanks cs = '\x7b' :: cs') (hfirst : ∀ tail, skipBlanks cs' ≠ '\x7d' :: tail)
    (hmembers : readMembers? steps cs' = some (members, rest)) :
    readValue? (steps + 1) cs = some (.object members, rest) := by
  simp [readValue?, hfront, hmembers]

end

/-- A value whose numbers are in the form that is written is read as it was written. -/
theorem reads_of_isCanonical (h : v.IsCanonical) : Reads v := by
  induction h with
  | null =>
    intro layout level steps rest _ hsteps
    obtain ⟨steps, rfl⟩ := exists_length_print .null hsteps
    exact readValue?_word (skipBlanks_of_not_isBlank rfl _) (by decide) rfl
  | bool b =>
    intro layout level steps rest _ hsteps
    obtain ⟨steps, rfl⟩ := exists_length_print (.bool b) hsteps
    cases b with
    | false => exact readValue?_word (skipBlanks_of_not_isBlank rfl _) (by decide) rfl
    | true => exact readValue?_word (skipBlanks_of_not_isBlank rfl _) (by decide) rfl
  | @number n hn =>
    intro layout level steps rest hrest hsteps
    obtain ⟨steps, rfl⟩ := exists_length_print (.number hn) hsteps
    obtain ⟨c, cs, hprint, hblank, -⟩ := exists_print_cons (.number hn) layout level
    obtain ⟨c', cs', hprint', hfront⟩ := Number.exists_print_cons hn
    obtain ⟨rfl, rfl⟩ := List.cons.inj (hprint.symm.trans hprint')
    have hread := Number.read?_print hn hrest
    rw [hprint', List.cons_append] at hread
    rw [hprint, List.cons_append]
    refine readValue?_number (skipBlanks_of_not_isBlank hblank _) ?_ ?_ hread
    · exact ⟨hfront.ne rfl, hfront.ne rfl, hfront.ne rfl⟩
    · exact readWord?_of_ne (hfront.ne rfl) (hfront.ne rfl) (hfront.ne rfl) _
  | text s =>
    intro layout level steps rest _ hsteps
    obtain ⟨steps, rfl⟩ := exists_length_print (.text s) hsteps
    obtain ⟨body, hbody, hread⟩ := readText?_printString s rest
    refine readValue?_text ?_ hread
    rw [Value.print, hbody, skipBlanks_of_not_isBlank rfl]
  | @array items h ih =>
    intro layout level steps rest _ hsteps
    obtain ⟨steps, rfl⟩ := exists_length_print (.array h) hsteps
    cases items with
    | nil => exact readValue?_nil_array (skipBlanks_of_not_isBlank rfl _) rfl
    | cons v vs =>
      obtain ⟨c, cs, hprint, hblank, hclose⟩ :=
        exists_print_cons (h v List.mem_cons_self) layout (level + 1)
      simp only [Value.print, List.length_append, List.length_cons] at hsteps
      have hitems := @readItems?_print layout (level + 1) steps rest v vs level ih
        (by rw [List.length_append]; omega)
      simp only [Value.print, List.cons_append, List.append_assoc, List.nil_append]
      refine readValue?_array (skipBlanks_of_not_isBlank rfl _) ?_ ?_
      · intro tail
        rw [skipBlanks_line, hprint, List.cons_append, skipBlanks_of_not_isBlank hblank]
        exact fun htail => ne_of_beq_false hclose (List.cons.inj htail).1
      · rw [readItems?_congr (skipBlanks_line layout (level + 1) _), hitems]
  | @object members h ih =>
    intro layout level steps rest _ hsteps
    obtain ⟨steps, rfl⟩ := exists_length_print (.object h) hsteps
    cases members with
    | nil => exact readValue?_nil_object (skipBlanks_of_not_isBlank rfl _) rfl
    | cons m ms =>
      obtain ⟨key, v⟩ := m
      obtain ⟨cs, hkey⟩ := exists_printString_cons key
      simp only [Value.print, List.length_append, List.length_cons] at hsteps
      have hmembers := @readMembers?_print layout (level + 1) steps rest v key ms level ih
        (by simp only [List.length_append]; omega)
      simp only [Value.print, List.cons_append, List.append_assoc, List.nil_append]
      refine readValue?_object (skipBlanks_of_not_isBlank rfl _) ?_ ?_
      · intro tail
        rw [skipBlanks_line, hkey, List.cons_append, skipBlanks_of_not_isBlank rfl]
        exact fun htail => absurd (List.cons.inj htail).1 (by decide)
      · rw [readMembers?_congr (skipBlanks_line layout (level + 1) _), hmembers]

/-- A rendered value is read back, also with a line feed behind it. -/
theorem read?_render (h : v.IsCanonical) (layout : Layout) :
    read? (v.render layout ++ "\n") = some v := by
  have hrest : EndsNumber ['\n'] := endsNumber_cons (by decide) []
  have htext : (v.render layout ++ "\n").toList = v.print layout 0 ++ ['\n'] := by
    rw [Value.render, String.toList_append, String.toList_ofList]
    rfl
  have hread := reads_of_isCanonical h layout 0 (2 * (v.print layout 0 ++ ['\n']).length + 1) ['\n']
    hrest (by rw [List.length_append]; omega)
  rw [read?, htext, hread]
  exact if_pos (by decide)

end

end SuiteSplit.Json
