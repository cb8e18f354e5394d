import SuiteSplit.Proofs.Growth
import SuiteSplit.Proofs.ReportSearch

/-!
Walks in a tree from which things were removed.
-/

namespace SuiteSplit

namespace Node

/-- A walk that comes to an end comes to it as well when more links may be followed. -/
theorem walk_of_le {root : Node} {aim : Aim} {links more : Nat} {here : Location}
    {todo : List FileName} {spot : Spot} (h : root.walk aim links here todo = .ok spot)
    (hle : links ≤ more) : root.walk aim more here todo = .ok spot := by
  fun_induction walk root aim links here todo generalizing more
  case case11 hidle hup hfile hlong mode entries hat ih =>
    rw [walk, if_neg hidle, if_neg hup, if_neg hfile, if_neg hlong, hat]
    exact ih h hle
  case case14 hidle hup hfile hlong target hat hend links ih =>
    obtain ⟨more, rfl⟩ : ∃ k, more = k + 1 := ⟨more - 1, by omega⟩
    rw [walk, if_neg hidle, if_neg hup, if_neg hfile, if_neg hlong, hat]
    simp only [if_neg hend]
    exact ih h (Nat.le_of_succ_le_succ hle)
  all_goals
    rw [walk]
    simp_all

/-- What a walk finds does not depend on how many links may be followed. -/
theorem eq_of_walk {root : Node} {aim : Aim} {links links' : Nat} {here : Location}
    {todo : List FileName} {spot spot' : Spot} (h : root.walk aim links here todo = .ok spot)
    (h' : root.walk aim links' here todo = .ok spot') : spot = spot' := by
  have hmax := walk_of_le h (le_max_left links links')
  rw [walk_of_le h' (le_max_right links links')] at hmax
  exact (Except.ok.inj hmax).symm

/-- A walk that finds a file finds nothing else when it goes on. -/
theorem eq_of_walk_append {root n : Node} {links links' : Nat} {here l there : Location}
    {todo rest : List FileName} {mode : Nat} {bytes : ByteArray}
    (hsee : root.waypoint? here = some .directory)
    (h : root.walk .goal links here todo = .ok (.found l (.file mode bytes)))
    (h' : root.walk .goal links' here (todo ++ rest) = .ok (.found there n)) : there = l := by
  by_cases hrest : rest = []
  · rw [hrest, List.append_nil] at h'
    cases eq_of_walk h h'
    rfl
  · -- the walk goes on from a directory, which is not the file
    obtain ⟨links'', place, hway⟩ := exists_way_of_walk h' (.inl hrest)
    obtain ⟨mode', entries, hdirectory⟩ := waypoint?_eq_directory (hway.directory hsee)
    have hend : root.walk .goal links' here (todo ++ []) = root.walk .goal links'' place [] :=
      hway.walk_append (.inl rfl)
    rw [List.append_nil, walk, hdirectory] at hend
    cases eq_of_walk h hend

/-- Places of a tree that can be taken away: they are no directories, and what a walk finds through a
link at one of them is at one of them, too. -/
structure Removable (root : Node) (lost : Location → Prop) : Prop where
  not_directory : ∀ l, lost l → root.waypoint? l ≠ some .directory
  link : ∀ l name target, lost (l ++ [name]) → root.at? (l ++ [name]) = some (.link target) →
    ∀ links rest there n,
      root.walk .goal links (target.origin l) (target.allHops ++ rest) = .ok (.found there n) →
        lost there

/-- A walk that ends somewhere else finds the same when they are taken away. -/
theorem Removable.walk {A B : Node} {lost : Location → Prop} (hlost : A.Removable lost)
    (hsee : ∀ l n, A.at? l = some n → ¬ lost l → ∃ m, B.at? l = some m ∧ m.bare = n.bare)
    {links : Nat} {here there : Location} {todo : List FileName} {n : Node}
    (h : A.walk .goal links here todo = .ok (.found there n)) (hthere : ¬ lost there) :
    ∃ m, B.walk .goal links here todo = .ok (.found there m) ∧ m.bare = n.bare := by
  fun_induction Node.walk A .goal links here todo
  case case1 n hat =>
    cases h
    obtain ⟨m, hm, hbare⟩ := hsee _ _ hat hthere
    refine ⟨m, ?_, hbare⟩
    rw [Node.walk, hm]
  case case3 hidle ih =>
    rw [Node.walk, if_pos hidle]
    exact ih h
  case case4 hidle ih =>
    rw [Node.walk, if_neg hidle, if_pos rfl]
    exact ih h
  case case9 hidle hup hlong mode bytes hat hfile =>
    cases h
    obtain ⟨m, hm, hbare⟩ := hsee _ _ hat hthere
    cases m <;> cases hbare
    refine ⟨.file mode bytes, ?_, rfl⟩
    rw [Node.walk, if_neg hidle, if_neg hup, if_neg hfile, if_neg hlong, hm]
    rfl
  case case11 hidle hup hfile hlong mode entries hat ih =>
    have hkeep : ¬ lost (_ ++ [_]) := fun hl => hlost.not_directory _ hl (waypoint?_of_at? hat)
    obtain ⟨m, hm, hbare⟩ := hsee _ _ hat hkeep
    cases m <;> cases hbare
    rw [Node.walk, if_neg hidle, if_neg hup, if_neg hfile, if_neg hlong, hm]
    exact ih h
  case case14 hidle hup hfile hlong target hat hend links ih =>
    have hkeep : ¬ lost (_ ++ [_]) := fun hl => hthere (hlost.link _ _ _ hl hat _ _ _ _ h)
    obtain ⟨m, hm, hbare⟩ := hsee _ _ hat hkeep
    cases m <;> cases hbare
    rw [Node.walk, if_neg hidle, if_neg hup, if_neg hfile, if_neg hlong, hm]
    simp only [if_neg hend]
    exact ih h
  case case12 hend => cases hend.2
  all_goals cases h

end Node

open Node

namespace Disk

variable {d d' : Disk} {p : Path} {l : Location} {n : Node}

theorem find_eq_ok_iff {aim : Aim} : d.find aim p = .ok (l, n) ↔ d.walk aim p = .ok (.found l n) := by
  rw [find]
  cases d.walk aim p with
  | error e => simp
  | ok spot => cases spot <;> simp

theorem walk_eq_ok_iff {aim : Aim} {spot : Spot} :
    d.walk aim p = .ok spot ↔ p.fault? = none ∧
      d.root.waypoint? (p.origin d.here) = some .directory ∧
        d.root.walk aim maxLinks (p.origin d.here) p.allHops = .ok spot := by
  rw [walk]
  cases hstart : d.start p with
  | error e =>
    simp only [reduceCtorEq, false_iff]
    rintro ⟨hfault, horigin, -⟩
    rw [start_eq_ok_iff.mpr ⟨hfault, rfl, horigin⟩] at hstart
    cases hstart
  | ok here =>
    obtain ⟨hfault, rfl, horigin⟩ := start_eq_ok_iff.mp hstart
    simp [hfault, horigin]

theorem at?_of_find {aim : Aim} (h : d.find aim p = .ok (l, n)) : d.root.at? l = some n :=
  at?_of_walk_found (walk_eq_ok_iff.mp (find_eq_ok_iff.mp h)).2.2

/-- What a path leads to is found as before when other things are taken away. -/
theorem find_of_removable {lost : Location → Prop} (hlost : d.root.Removable lost)
    (hhere : d'.here = d.here)
    (hsee : ∀ l n, d.root.at? l = some n → ¬ lost l → ∃ m, d'.root.at? l = some m ∧ m.bare = n.bare)
    (h : d.find .goal p = .ok (l, n)) (hl : ¬ lost l) :
    ∃ m, d'.find .goal p = .ok (l, m) ∧ m.bare = n.bare := by
  obtain ⟨hfault, horigin, hwalk⟩ := walk_eq_ok_iff.mp (find_eq_ok_iff.mp h)
  have horigin' : d'.root.waypoint? (p.origin d'.here) = some .directory := by
    rw [hhere]
    obtain ⟨mode, entries, hat⟩ := waypoint?_eq_directory horigin
    obtain ⟨m, hm, hbare⟩ := hsee _ _ hat fun hlost' => hlost.not_directory _ hlost' horigin
    rw [waypoint?, hm, Option.map_some, ← waypoint_bare, hbare]
    rfl
  obtain ⟨m, hm, hbare⟩ := hlost.walk hsee hwalk hl
  exact ⟨m, find_eq_ok_iff.mpr (walk_eq_ok_iff.mpr ⟨hfault, horigin', hhere ▸ hm⟩), hbare⟩

theorem stat_eq_ok_iff {k : NodeKind} :
    d.stat p = .ok k ↔ ∃ l n, d.find .goal p = .ok (l, n) ∧ n.kind = k := by
  rw [stat]
  cases d.find .goal p with
  | error e => simp [Except.map]
  | ok found =>
    obtain ⟨l, n⟩ := found
    simp [Except.map]

theorem read_eq_ok_iff {bytes : ByteArray} :
    d.read p = .ok bytes ↔ ∃ l mode, d.find .goal p = .ok (l, .file mode bytes) := by
  rw [read]
  cases d.find .goal p with
  | error e => simp
  | ok found =>
    obtain ⟨l, n⟩ := found
    cases n <;> simp

end Disk

end SuiteSplit
