import Mathlib.Data.List.Basic

/-!
Texts of lines, each of which is ended by a line feed. Reading the lines of a text undoes writing them,
as long as no line has a line feed in it.
-/

namespace SuiteSplit.Text

variable {cs line : List Char} {ls : List (List Char)}

/-- The lines of a text, if there is nothing behind the last line feed. -/
def lines? : List Char → Option (List (List Char))
  | [] => some []
  | c :: cs =>
    if c = '\n' then (lines? cs).map ([] :: ·)
    else
      match lines? cs with
      | some (line :: ls) => some ((c :: line) :: ls)
      | _ => none

/-- The text of some lines. -/
def ofLines (ls : List (List Char)) : List Char := ls.flatMap (· ++ ['\n'])

theorem ofLines_cons (line : List Char) (ls : List (List Char)) :
    ofLines (line :: ls) = line ++ '\n' :: ofLines ls := by
  rw [ofLines, List.flatMap_cons, List.append_assoc]
  rfl

theorem lines?_append_cons (h : '\n' ∉ line) (cs : List Char) :
    lines? (line ++ '\n' :: cs) = (lines? cs).map (line :: ·) := by
  induction line with
  | nil => rw [List.nil_append, lines?, if_pos rfl]
  | cons c line ih =>
    rw [List.mem_cons, not_or] at h
    rw [List.cons_append, lines?, if_neg (Ne.symm h.1), ih h.2]
    cases lines? cs <;> rfl

theorem lines?_ofLines (h : ∀ line ∈ ls, '\n' ∉ line) : lines? (ofLines ls) = some ls := by
  induction ls with
  | nil => rfl
  | cons line ls ih =>
    obtain ⟨hline, hrest⟩ := List.forall_mem_cons.mp h
    rw [ofLines_cons, lines?_append_cons hline, ih hrest]
    rfl

/-- The lines of a text write that text, and none has a line feed in it. -/
theorem of_lines?_eq_some (h : lines? cs = some ls) :
    cs = ofLines ls ∧ ∀ line ∈ ls, '\n' ∉ line := by
  induction cs generalizing ls with
  | nil =>
    cases h
    exact ⟨rfl, nofun⟩
  | cons c cs ih =>
    rw [lines?] at h
    split at h
    · next hc =>
      obtain ⟨rest, hrest, rfl⟩ := Option.map_eq_some_iff.mp h
      obtain ⟨htext, hlines⟩ := ih hrest
      rw [ofLines_cons, ← htext, hc]
      exact ⟨rfl, List.forall_mem_cons.mpr ⟨List.not_mem_nil, hlines⟩⟩
    · next hc =>
      split at h
      · next line rest hrest =>
        cases h
        obtain ⟨htext, hlines⟩ := ih hrest
        obtain ⟨hline, hothers⟩ := List.forall_mem_cons.mp hlines
        have hlonger : '\n' ∉ c :: line := by simp [Ne.symm hc, hline]
        rw [htext, ofLines_cons, ofLines_cons]
        exact ⟨rfl, List.forall_mem_cons.mpr ⟨hlonger, hothers⟩⟩
      · cases h

theorem lines?_eq_some_iff : lines? cs = some ls ↔ cs = ofLines ls ∧ ∀ line ∈ ls, '\n' ∉ line := by
  refine ⟨of_lines?_eq_some, ?_⟩
  rintro ⟨rfl, hlines⟩
  exact lines?_ofLines hlines

/-- Lines are read back just where none of them has a line feed in it. -/
theorem lines?_ofLines_eq_some_iff :
    lines? (ofLines ls) = some ls ↔ ∀ line ∈ ls, '\n' ∉ line :=
  lines?_eq_some_iff.trans (and_iff_right rfl)

theorem toList_join_lines (texts : List String) :
    (String.join (texts.map (· ++ "\n"))).toList = ofLines (texts.map String.toList) := by
  induction texts with
  | nil => rfl
  | cons text texts ih =>
    rw [List.map_cons, List.map_cons, ofLines_cons, ← ih, String.join_cons, String.toList_append,
      String.toList_append, List.append_assoc]
    rfl

end SuiteSplit.Text
