/-!
Cutting a text at a mark.

A cut splits a text in two around the place where a construct ends and drops the mark that ends it.
What is cut and the mark and the rest give back the text, so a rest is shorter than the text.
-/

namespace SuiteSplit.Text

/-- Bytes that the text takes in UTF-8. -/
def width (cs : List Char) : Nat := cs.foldl (fun n c => n + c.utf8Size) 0

/-- Splits a list at every occurrence of a mark. There is one part more than there are marks. -/
def splitOn {α : Type} [DecidableEq α] (mark : α) (xs : List α) : List (List α) :=
  xs.foldr (fun x parts =>
    if x = mark then [] :: parts
    else match parts with
      | [] => [[x]]
      | p :: ps => (x :: p) :: ps) [[]]

/-- Splits a text around the first occurrence of a mark. -/
def cutAt (mark : List Char) : List Char → Option (List Char × List Char)
  | [] => if mark = [] then some ([], []) else none
  | c :: cs =>
    if mark.isPrefixOf (c :: cs) then some ([], (c :: cs).drop mark.length)
    else (cutAt mark cs).map fun (before, after) => (c :: before, after)

/-- Splits a text around the first `>` that does not stand between quotes; `quote` is the quote
that is open. -/
def cutTag (quote : Option Char) : List Char → Option (List Char × List Char)
  | [] => none
  | c :: cs =>
    if quote = none ∧ c = '>' then some ([], cs)
    else
      let next := match quote with
        | none => if c = '"' ∨ c = '\'' then some c else none
        | some q => if c = q then none else some q
      (cutTag next cs).map fun (inside, after) => (c :: inside, after)

/-- Splits a text around the `>` that closes as many `<` as were opened before it; `depth` of them
are open. -/
def cutBalanced (depth : Nat) : List Char → Option (List Char × List Char)
  | [] => none
  | c :: cs =>
    if c = '>' ∧ depth = 0 then some ([], cs)
    else
      let next := if c = '<' then depth + 1 else if c = '>' then depth - 1 else depth
      (cutBalanced next cs).map fun (inside, after) => (c :: inside, after)

theorem cutAt_eq_append {mark s a b : List Char} (h : cutAt mark s = some (a, b)) :
    s = a ++ mark ++ b := by
  induction s generalizing a with
  | nil =>
    simp only [cutAt, Option.ite_none_right_eq_some, Option.some.injEq, Prod.mk.injEq] at h
    obtain ⟨rfl, rfl, rfl⟩ := h
    rfl
  | cons c cs ih =>
    rw [cutAt] at h
    split at h
    · next hp =>
      simp only [Option.some.injEq, Prod.mk.injEq] at h
      obtain ⟨rfl, rfl⟩ := h
      obtain ⟨t, ht⟩ := List.isPrefixOf_iff_prefix.1 hp
      rw [← ht]; simp
    · obtain ⟨⟨a', b'⟩, hr, he⟩ := Option.map_eq_some_iff.1 h
      simp only [Prod.mk.injEq] at he
      obtain ⟨rfl, rfl⟩ := he
      simp [ih hr]

theorem cutTag_eq_append {s a b : List Char} {quote : Option Char}
    (h : cutTag quote s = some (a, b)) : s = a ++ '>' :: b := by
  induction s generalizing a quote with
  | nil => simp [cutTag] at h
  | cons c cs ih =>
    simp only [cutTag] at h
    split at h
    · next hc => simp_all
    · obtain ⟨⟨a', b'⟩, hr, he⟩ := Option.map_eq_some_iff.1 h
      simp only [Prod.mk.injEq] at he
      obtain ⟨rfl, rfl⟩ := he
      simp [ih hr]

theorem cutBalanced_eq_append {s a b : List Char} {depth : Nat}
    (h : cutBalanced depth s = some (a, b)) : s = a ++ '>' :: b := by
  induction s generalizing a depth with
  | nil => simp [cutBalanced] at h
  | cons c cs ih =>
    simp only [cutBalanced] at h
    split at h
    · next hc => simp_all
    · obtain ⟨⟨a', b'⟩, hr, he⟩ := Option.map_eq_some_iff.1 h
      simp only [Prod.mk.injEq] at he
      obtain ⟨rfl, rfl⟩ := he
      simp [ih hr]

end SuiteSplit.Text
