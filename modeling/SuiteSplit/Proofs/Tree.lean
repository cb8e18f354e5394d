import Mathlib
import SuiteSplit.Disk.Node

/-!
What stands where in a tree after a change. A node that is put at a location is all that changes there
and below; the directories on the way to it stay directories, and every other place stays as it was.
-/

namespace SuiteSplit.Node

private theorem lookup_filter_ne (name k : FileName) (entries : List (FileName × Node)) :
    (entries.filter (·.1 ≠ name)).lookup k = if k = name then none else entries.lookup k := by
  induction entries with
  | nil => simp
  | cons e entries ih =>
    obtain ⟨x, n⟩ := e
    by_cases hx : x = name
    · subst hx
      simp only [List.filter_cons, ne_eq, not_true_eq_false, decide_false, Bool.false_eq_true,
        if_false, ih, List.lookup_cons]
      split
      · rfl
      · next hk => simp [beq_eq_false_iff_ne.mpr hk]
    · simp only [List.filter_cons, ne_eq, hx, not_false_eq_true, decide_true, if_true,
        List.lookup_cons, ih]
      by_cases hkx : k = x
      · subst hkx
        simp [hx]
      · simp [beq_eq_false_iff_ne.mpr hkx]

private theorem lookup_map_replace (name k : FileName) (n : Node)
    (entries : List (FileName × Node)) :
    (entries.map fun (x, old) => (x, if x = name then n else old)).lookup k =
      if k = name then (entries.lookup name).map fun _ => n else entries.lookup k := by
  induction entries with
  | nil => simp
  | cons e entries ih =>
    obtain ⟨x, old⟩ := e
    simp only [List.map_cons, List.lookup_cons]
    by_cases hkx : k = x
    · subst hkx
      by_cases hk : k = name
      · subst hk
        simp
      · simp [hk]
    · simp only [beq_eq_false_iff_ne.mpr hkx, ih]
      split
      · next hk =>
        subst hk
        simp [beq_eq_false_iff_ne.mpr hkx]
      · rfl

/-- The entries of a directory after one of them was set or taken away. -/
@[simp] theorem lookup_assign (name k : FileName) (v : Option Node)
    (entries : List (FileName × Node)) :
    (assign name v entries).lookup k = if k = name then v else entries.lookup k := by
  cases v with
  | none => exact lookup_filter_ne name k entries
  | some n =>
    rw [assign]
    cases hname : entries.lookup name with
    | none =>
      simp only [List.lookup_append, List.lookup_cons, List.lookup_nil]
      by_cases hk : k = name
      · subst hk
        simp [hname]
      · simp [hk, beq_eq_false_iff_ne.mpr hk]
    | some old =>
      simp only [lookup_map_replace, hname, Option.map_some]

@[simp] theorem at?_nil (n : Node) : n.at? [] = some n := by rw [at?]

theorem at?_cons (n : Node) (name : FileName) (rest : Location) :
    n.at? (name :: rest) = (n.entries.lookup name).bind (·.at? rest) := by rw [at?]

theorem at?_append (n : Node) (a b : Location) :
    n.at? (a ++ b) = (n.at? a).bind (·.at? b) := by
  induction a generalizing n with
  | nil => simp
  | cons name a ih =>
    rw [List.cons_append, at?_cons, at?_cons, Option.bind_assoc]
    congr 1
    funext m
    exact ih m

theorem at?_append_of_some {n m : Node} {a : Location} (h : n.at? a = some m) (b : Location) :
    n.at? (a ++ b) = m.at? b := by
  rw [at?_append, h, Option.bind_some]

theorem at?_append_of_none {n : Node} {a : Location} (h : n.at? a = none) (b : Location) :
    n.at? (a ++ b) = none := by
  rw [at?_append, h, Option.bind_none]

/-- Nothing stands below what is no directory. -/
theorem at?_cons_of_not_directory {n : Node} (h : n.isDirectory = false) (name : FileName)
    (rest : Location) : n.at? (name :: rest) = none := by
  cases n with
  | directory mode entries => simp [isDirectory] at h
  | file mode bytes => simp [at?_cons, entries]
  | link target => simp [at?_cons, entries]

/-! ## Putting a node in a place -/

@[simp] theorem put_nil (v : Option Node) (n : Node) : n.put v [] = v.getD n := by
  simp [put]

theorem put_of_not_directory {n : Node} (h : n.isDirectory = false) (v : Option Node)
    (name : FileName) (rest : Location) : n.put v (name :: rest) = n := by
  cases n with
  | directory mode entries => simp [isDirectory] at h
  | file mode bytes => cases rest <;> rfl
  | link target => cases rest <;> rfl

theorem put_single (v : Option Node) (name : FileName) (mode : Nat)
    (entries : List (FileName × Node)) :
    (directory mode entries).put v [name] = directory mode (assign name v entries) := by
  simp [put]

theorem put_cons_cons (v : Option Node) (name next : FileName) (rest : Location) (mode : Nat)
    (entries : List (FileName × Node)) :
    (directory mode entries).put v (name :: next :: rest) =
      match entries.lookup name with
      | none => directory mode entries
      | some inner => directory mode (assign name (some (inner.put v (next :: rest))) entries) := by
  cases hname : entries.lookup name <;> simp [put, hname]

/-- A node without what stands below it. -/
def bare : Node → Node
  | directory mode _ => directory mode []
  | n => n

theorem bare_put (v : Option Node) (n : Node) (name : FileName) (rest : Location) :
    (n.put v (name :: rest)).bare = n.bare := by
  cases n with
  | file mode bytes => rw [put_of_not_directory rfl]
  | link target => rw [put_of_not_directory rfl]
  | directory mode entries =>
    cases rest with
    | nil => rw [put_single]; rfl
    | cons next rest =>
      rw [put_cons_cons]
      split <;> rfl

theorem isDirectory_of_bare {m n : Node} (h : m.bare = n.bare) : m.isDirectory = n.isDirectory := by
  cases m <;> cases n <;> first | rfl | cases h

theorem isDirectory_put (v : Option Node) (n : Node) (name : FileName) (rest : Location) :
    (n.put v (name :: rest)).isDirectory = n.isDirectory :=
  isDirectory_of_bare (bare_put v n name rest)

/-- The entries of a directory after a change in it or deeper. -/
theorem lookup_entries_put (v : Option Node) (n : Node) (name k : FileName) (rest : Location)
    (hn : n.isDirectory) :
    (n.put v (name :: rest)).entries.lookup k =
      if k = name then if rest = [] then v else (n.entries.lookup name).map (put v rest)
      else n.entries.lookup k := by
  cases n with
  | file mode bytes => simp [isDirectory] at hn
  | link target => simp [isDirectory] at hn
  | directory mode entries =>
    cases rest with
    | nil =>
      rw [put_single]
      simp [Node.entries]
    | cons next rest =>
      rw [put_cons_cons]
      cases hname : entries.lookup name with
      | none =>
        simp only [Node.entries, hname, Option.map_none, reduceCtorEq, if_false]
        split
        · next hk => rw [hk, hname]
        · rfl
      | some inner => simp [Node.entries, hname]

/-- A change below a node changes that node and nothing above it. -/
theorem at?_put_append (v : Option Node) (n : Node) (a b : Location) (hb : b ≠ []) :
    (n.put v (a ++ b)).at? a = (n.at? a).map (·.put v b) := by
  induction a generalizing n with
  | nil => simp
  | cons name a ih =>
    rw [List.cons_append, at?_cons, at?_cons]
    cases hn : n.isDirectory with
    | false =>
      rw [put_of_not_directory hn]
      cases n with
      | directory mode entries => simp [isDirectory] at hn
      | file mode bytes => simp [entries]
      | link target => simp [entries]
    | true =>
      have hrest : a ++ b ≠ [] := by simp [hb]
      rw [lookup_entries_put v n name name (a ++ b) hn, if_pos rfl, if_neg hrest]
      cases n.entries.lookup name with
      | none => rfl
      | some inner => exact ih inner

/-- What stands at the place of a change is what was put there. -/
theorem at?_put_concat {n : Node} {directory : Location} (hdir : (n.at? directory).any isDirectory)
    (v : Option Node) (name : FileName) :
    (n.put v (directory ++ [name])).at? (directory ++ [name]) = v := by
  obtain ⟨m, hm, hdirectory⟩ := (Option.any_eq_true _ _).mp hdir
  rw [at?_append, at?_put_append v n directory [name] (by simp), hm, Option.map_some,
    Option.bind_some, at?_cons, lookup_entries_put v m name name [] hdirectory]
  cases v <;> simp

/-- Two places apart from each other: neither lies at or below the other. -/
def Apart (a b : Location) : Prop := ¬ a <+: b ∧ ¬ b <+: a

theorem Apart.cons_iff {name k : FileName} {a b : Location} :
    Apart (name :: a) (k :: b) ↔ name ≠ k ∨ Apart a b := by
  simp only [Apart, List.cons_prefix_cons, not_and]
  constructor
  · rintro ⟨hab, hba⟩
    by_cases h : name = k
    · exact Or.inr ⟨hab h, hba h.symm⟩
    · exact Or.inl h
  · rintro (hne | ⟨hab, hba⟩)
    · exact ⟨fun h => absurd h hne, fun h => absurd h.symm hne⟩
    · exact ⟨fun _ => hab, fun _ => hba⟩

/-- A change leaves places apart from it as they were. -/
theorem at?_put_of_apart (v : Option Node) (n : Node) {a b : Location} (h : Apart a b) :
    (n.put v a).at? b = n.at? b := by
  induction a generalizing n b with
  | nil => exact absurd List.nil_prefix h.1
  | cons name a ih =>
    cases b with
    | nil => exact absurd List.nil_prefix h.2
    | cons k b =>
      cases hn : n.isDirectory with
      | false => rw [put_of_not_directory hn]
      | true =>
        rw [at?_cons, at?_cons, lookup_entries_put v n name k a hn]
        rcases Apart.cons_iff.mp h with hne | hab
        · rw [if_neg (Ne.symm hne)]
        · split
          · next hk =>
            have ha : a ≠ [] := by
              rintro rfl
              exact hab.1 List.nil_prefix
            rw [if_neg ha, hk]
            cases n.entries.lookup name with
            | none => rfl
            | some inner => exact ih inner hab
          · rfl

end SuiteSplit.Node
