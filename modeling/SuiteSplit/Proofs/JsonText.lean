import SuiteSplit.Json.Value

/-!
Strings of JSON are read as they were written, those that are no text included.
-/

namespace SuiteSplit.Json

/-- A character that is written behind a string's first quote is read as its code. -/
theorem readCodes?_escape (c : Char) (rest : List Char) :
    readCodes? (escape c ++ rest) =
      (readCodes? rest).map fun (codes, rest) => (c.toNat :: codes, rest) := by
  have hletter (letter : Char) (hu : letter ≠ 'u') (h : unescapeLetter? letter = some c) :
      readCodes? ('\\' :: letter :: rest) =
        (readCodes? rest).map fun (codes, rest) => (c.toNat :: codes, rest) := by
    simp [readCodes?, hu, h]
  have hcontrol : ∀ n < 32, hexNumber? ('0' :: '0' :: hexPair n) = some n := by decide
  unfold escape
  split
  · next letter hc =>
    unfold escapeLetter? at hc
    split at hc
    all_goals
      cases hc
      try exact hletter _ (by decide) rfl
  · next hc =>
    have hquote : c ≠ '"' := by
      rintro rfl
      cases hc
    have hslash : c ≠ '\\' := by
      rintro rfl
      cases hc
    split
    · next hless =>
      have hn : c.toNat < 32 := hless
      have hcode := hcontrol c.toNat hn
      rw [hexPair] at hcode ⊢
      rw [List.cons_append, List.cons_append, List.cons_append, List.cons_append]
      simp only [List.cons_append, List.nil_append]
      rw [readCodes?, hcode, Option.bind_some]
    · next hless =>
      simp [readCodes?, hslash, hless]

theorem readCodes?_flatMap_escape (cs rest : List Char) :
    readCodes? (cs.flatMap escape ++ '"' :: rest) = some (cs.map Char.toNat, rest) := by
  induction cs with
  | nil => rfl
  | cons c cs ih =>
    rw [List.flatMap_cons, List.append_assoc, readCodes?_escape, ih]
    rfl

/-- The code of a character is no half of a pair. -/
theorem not_half (c : Char) : isHighHalf c.toNat = false ∧ isLowHalf c.toNat = false := by
  have h := c.valid
  rw [isHighHalf, isLowHalf]
  simp only [Bool.and_eq_false_iff, decide_eq_false_iff_not]
  have hvalue : c.toNat = c.val.toNat := rfl
  rcases h with h | ⟨h, -⟩
  · omega
  · omega

theorem joinHalves?_map_toNat (cs : List Char) : joinHalves? (cs.map Char.toNat) = some cs := by
  induction cs with
  | nil => rfl
  | cons c cs ih =>
    obtain ⟨hhigh, hlow⟩ := not_half c
    cases cs with
    | nil =>
      rw [List.map_cons, List.map_nil, joinHalves?, hhigh, hlow, Char.ofNat_toNat]
      rfl
    | cons c' cs =>
      rw [List.map_cons, List.map_cons, joinHalves?, hhigh, hlow, ← List.map_cons, ih,
        Char.ofNat_toNat]
      rfl

/-- Half a pair stands for every string that is no text. -/
theorem readText?_half (rest : List Char) :
    readText? ('\\' :: 'u' :: 'd' :: '8' :: '0' :: '0' :: '"' :: rest) = some (none, rest) := by
  have hcode : hexNumber? ['d', '8', '0', '0'] = some 0xD800 := by decide
  have hjoin : joinHalves? [0xD800] = none := by decide
  simp only [readText?, readCodes?, hcode, Option.bind_some, Option.map_some, hjoin]

theorem readText?_flatMap_escape (cs rest : List Char) :
    readText? (cs.flatMap escape ++ '"' :: rest) = some (some cs, rest) := by
  simp only [readText?, readCodes?_flatMap_escape, Option.map_some, joinHalves?_map_toNat]

theorem printString_none : printString none = ['"', '\\', 'u', 'd', '8', '0', '0', '"'] := by
  decide

theorem printString_some (cs : List Char) : printString (some cs) = printText cs := rfl

/-- A string is read behind its first quote as it was written. -/
theorem readText?_printString (s : Option (List Char)) (rest : List Char) :
    ∃ body, printString s ++ rest = '"' :: body ∧ readText? body = some (s, rest) := by
  cases s with
  | none =>
    rw [printString_none]
    exact ⟨_, rfl, readText?_half rest⟩
  | some cs =>
    have hprint : printString (some cs) ++ rest = '"' :: (cs.flatMap escape ++ '"' :: rest) := by
      rw [printString_some, printText, List.append_assoc, List.cons_append, List.singleton_append]
    exact ⟨_, hprint, readText?_flatMap_escape cs rest⟩

end SuiteSplit.Json
