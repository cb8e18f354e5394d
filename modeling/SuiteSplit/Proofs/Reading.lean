import SuiteSplit.Reading

/-!
What a fold over a reading comes to.

A fold that can fail either takes every item, or it stops at the first item that is refused where
the items before it have brought it. The fault of a reading counts only behind all of its items.
-/

namespace SuiteSplit

variable {α β δ ε : Type} {step : β → α → Except δ β} {onFault : ε → δ}

theorem foldlM_cons_ok_iff {x : α} {xs : List α} {b c : β} :
    (x :: xs).foldlM step b = .ok c ↔ ∃ b', step b x = .ok b' ∧ xs.foldlM step b' = .ok c := by
  rw [List.foldlM_cons]
  cases hx : step b x with
  | error e => exact iff_of_false nofun fun ⟨b', h, _⟩ => nomatch h
  | ok b' => simp [bind, Except.bind]

theorem foldlM_cons_error_iff {x : α} {xs : List α} {b : β} {d : δ} :
    (x :: xs).foldlM step b = .error d ↔
      step b x = .error d ∨ ∃ b', step b x = .ok b' ∧ xs.foldlM step b' = .error d := by
  rw [List.foldlM_cons]
  cases hx : step b x with
  | error e => simp [bind, Except.bind]
  | ok b' => simp [bind, Except.bind]

/-- A fold stops at the first item that is refused. -/
theorem foldlM_eq_error_iff {xs : List α} {b : β} {d : δ} :
    xs.foldlM step b = .error d ↔ ∃ before x after c,
      xs = before ++ x :: after ∧ before.foldlM step b = .ok c ∧ step c x = .error d := by
  induction xs generalizing b with
  | nil => simp [pure, Except.pure]
  | cons x xs ih =>
    rw [foldlM_cons_error_iff]
    constructor
    · rintro (hx | ⟨c, hx, hrest⟩)
      · exact ⟨[], x, xs, b, rfl, rfl, hx⟩
      · obtain ⟨before, y, after, c', rfl, hbefore, hy⟩ := ih.mp hrest
        exact ⟨x :: before, y, after, c', rfl, foldlM_cons_ok_iff.mpr ⟨c, hx, hbefore⟩, hy⟩
    · rintro ⟨before, y, after, c, hsplit, hbefore, hy⟩
      cases before with
      | nil =>
        cases hsplit
        cases hbefore
        exact .inl hy
      | cons z before =>
        cases hsplit
        obtain ⟨c', hx, hrest⟩ := foldlM_cons_ok_iff.mp hbefore
        exact .inr ⟨c', hx, ih.mpr ⟨before, y, after, c, rfl, hrest, hy⟩⟩

theorem foldlM_append_ok_iff {xs ys : List α} {b c : β} :
    (xs ++ ys).foldlM step b = .ok c ↔
      ∃ b', xs.foldlM step b = .ok b' ∧ ys.foldlM step b' = .ok c := by
  rw [List.foldlM_append]
  cases hx : xs.foldlM step b with
  | error e => exact iff_of_false nofun fun ⟨b', h, _⟩ => nomatch h
  | ok b' => simp [bind, Except.bind]

namespace Reading

variable {r : Reading α ε} {b c : β} {d : δ}

theorem fold_eq_ok_iff :
    r.fold step onFault b = .ok c ↔ r.items.foldlM step b = .ok c ∧ r.fault = none := by
  unfold fold
  split
  · next hitems => simp [hitems]
  · next hitems => split <;> simp [*]

theorem fold_eq_error_iff :
    r.fold step onFault b = .error d ↔ r.items.foldlM step b = .error d ∨
      ∃ c e, r.items.foldlM step b = .ok c ∧ r.fault = some e ∧ d = onFault e := by
  unfold fold
  split
  · next hitems => simp [hitems]
  · next hitems => split <;> simp [*, eq_comm]

end Reading

end SuiteSplit
