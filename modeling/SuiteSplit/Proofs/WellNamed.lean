import SuiteSplit.Proofs.Leading
import SuiteSplit.Proofs.LongPaths

/-!
Trees as a system keeps them. The entries of a directory have different names, and each is a name
that a path can hold. So the names on the way to a place make a path, and the path tells the place.
-/

namespace SuiteSplit

namespace Path

/-- The name of something in a directory. -/
structure IsFileName (name : FileName) : Prop extends IsPlain name where
  no_zero : 0 ∉ name
  length_le : name.length ≤ maxNameLength

instance (name : FileName) : Decidable (IsFileName name) :=
  decidable_of_iff ((name ≠ [] ∧ slash ∉ name ∧ name ≠ dot ∧ name ≠ dots) ∧
      0 ∉ name ∧ name.length ≤ maxNameLength)
    ⟨fun ⟨⟨hnil, hslash, hdot, hdots⟩, hzero, hlength⟩ =>
      ⟨⟨hnil, hslash, hdot, hdots⟩, hzero, hlength⟩,
    fun h => ⟨⟨h.ne_nil, h.no_slash, h.ne_dot, h.ne_dots⟩, h.no_zero, h.length_le⟩⟩

theorem IsFileName.isEntryName {name : FileName} (h : IsFileName name) : Node.IsEntryName name :=
  ⟨h.ne_nil, h.ne_dot, h.ne_dots, h.length_le⟩

/-- The path of a place below a directory. -/
def below (p : Path) (l : Location) : Path := l.foldl (fun q name => q.join ⟨name⟩) p

@[simp] theorem below_nil (p : Path) : p.below [] = p := rfl

@[simp] theorem below_cons (p : Path) (name : FileName) (l : Location) :
    p.below (name :: l) = (p.join ⟨name⟩).below l := rfl

theorem below_concat (p : Path) (l : Location) (name : FileName) :
    p.below (l ++ [name]) = (p.below l).join ⟨name⟩ := by
  rw [below, List.foldl_append]
  rfl

section

variable {p : Path} {l : Location}

theorem bytes_below_ne_nil (hp : p.bytes ≠ []) (hl : ∀ name ∈ l, IsFileName name) :
    (p.below l).bytes ≠ [] := by
  induction l generalizing p with
  | nil => exact hp
  | cons name l ih =>
    have hname := hl name List.mem_cons_self
    exact ih (bytes_join_ne_nil hp hname.toIsPlain) fun k hk => hl k (List.mem_cons_of_mem _ hk)

theorem hops_below (hp : p.bytes ≠ []) (hl : ∀ name ∈ l, IsFileName name) :
    (p.below l).hops = p.hops ++ l := by
  induction l generalizing p with
  | nil => simp
  | cons name l ih =>
    have hname := hl name List.mem_cons_self
    rw [below_cons, ih (bytes_join_ne_nil hp hname.toIsPlain) fun k hk =>
      hl k (List.mem_cons_of_mem _ hk), hops_join hp hname.toIsPlain, List.append_assoc]
    rfl

theorem zero_not_mem_below (hp : p.bytes ≠ []) (hzero : 0 ∉ p.bytes)
    (hl : ∀ name ∈ l, IsFileName name) : 0 ∉ (p.below l).bytes := by
  induction l generalizing p with
  | nil => exact hzero
  | cons name l ih =>
    have hname := hl name List.mem_cons_self
    refine ih (bytes_join_ne_nil hp hname.toIsPlain) ?_ fun k hk => hl k (List.mem_cons_of_mem _ hk)
    rcases bytes_join hp hname.toIsPlain with ⟨hbytes, -⟩ | hbytes
    · simp [hbytes, hzero, hname.no_zero]
    · simp [hbytes, hzero, hname.no_zero, slash]

/-- The path of a place below a directory can only be too long. -/
theorem fault?_below (hp : p.fault? = none) (hl : ∀ name ∈ l, IsFileName name) :
    (p.below l).fault? = if (p.below l).bytes.length < pathLimit then none else some .nameTooLong := by
  obtain ⟨hzero, hne, -⟩ := fault?_eq_none_iff.mp hp
  have hzeros := zero_not_mem_below hne hzero hl
  rw [fault?, if_neg (by simpa using hzeros), if_neg (bytes_below_ne_nil hne hl)]
  by_cases hroom : (p.below l).bytes.length < pathLimit
  · rw [if_pos hroom, if_neg (Nat.not_le.mpr hroom)]
  · rw [if_neg hroom, if_pos (Nat.not_lt.mp hroom)]

end

end Path

namespace Node

/-- In every directory of the tree the names are different, and they are names for a path. -/
def WellNamed (root : Node) : Prop :=
  ∀ l mode entries, root.at? l = some (directory mode entries) →
    (entries.map Prod.fst).Nodup ∧ ∀ name ∈ entries.map Prod.fst, Path.IsFileName name

/-- What holds of a node whenever it holds of its entries, holds of every node. -/
theorem entries_induction {motive : Node → Prop}
    (step : ∀ n : Node, (∀ e ∈ n.entries, motive e.2) → motive n) (n : Node) : motive n := by
  apply step
  intro e he
  exact entries_induction step e.2
termination_by sizeOf n
decreasing_by
  cases n with
  | file mode bytes => cases he
  | link target => cases he
  | directory mode es =>
    have hsize : sizeOf e < sizeOf es := List.sizeOf_lt_of_mem he
    have hpair : sizeOf e.2 < sizeOf e := by
      cases e
      simp only [Prod.mk.sizeOf_spec]
      omega
    simp only [directory.sizeOf_spec]
    omega

theorem mem_of_lookup {es : List (FileName × Node)} {name : FileName} {n : Node}
    (h : es.lookup name = some n) : (name, n) ∈ es := by
  obtain ⟨before, after, rfl, -⟩ := List.lookup_eq_some_iff.mp h
  exact List.mem_append_right _ List.mem_cons_self

theorem lookup_eq_some_iff_mem {es : List (FileName × Node)} (h : (es.map Prod.fst).Nodup)
    {name : FileName} {n : Node} : es.lookup name = some n ↔ (name, n) ∈ es := by
  refine ⟨mem_of_lookup, ?_⟩
  intro hmem
  obtain ⟨before, after, rfl⟩ := List.append_of_mem hmem
  rw [List.lookup_eq_some_iff]
  refine ⟨before, after, rfl, ?_⟩
  intro e he
  rw [List.map_append, List.map_cons, List.nodup_append] at h
  have hne := h.2.2 e.1 (List.mem_map_of_mem he) name List.mem_cons_self
  simpa using hne.symm

theorem entries_of_not_directory {n : Node} (h : n.isDirectory = false) : n.entries = [] := by
  cases n with
  | file mode bytes => rfl
  | link target => rfl
  | directory mode entries => cases h

theorem wellNamed_of_not_directory {n : Node} (h : n.isDirectory = false) : WellNamed n := by
  intro l mode entries hat
  cases l with
  | nil =>
    obtain rfl : n = _ := Option.some.inj hat
    cases h
  | cons name rest =>
    rw [at?_cons_of_not_directory h] at hat
    cases hat

theorem wellNamed_directory {mode : Nat} {es : List (FileName × Node)}
    (hnodup : (es.map Prod.fst).Nodup) (hnames : ∀ name ∈ es.map Prod.fst, Path.IsFileName name)
    (hes : ∀ e ∈ es, WellNamed e.2) : WellNamed (directory mode es) := by
  intro l mode' es' hat
  cases l with
  | nil =>
    cases hat
    exact ⟨hnodup, hnames⟩
  | cons name rest =>
    rw [at?_cons, Option.bind_eq_some_iff] at hat
    obtain ⟨n, hlookup, hrest⟩ := hat
    exact hes _ ((lookup_eq_some_iff_mem hnodup).mp hlookup) rest mode' es' hrest

namespace WellNamed

variable {root n : Node} {l m : Location}

theorem at? (h : WellNamed root) (hat : root.at? l = some n) : WellNamed n := by
  intro m mode entries hm
  refine h (l ++ m) mode entries ?_
  rw [at?_append_of_some hat, hm]

theorem nodup (h : WellNamed n) : (n.entries.map Prod.fst).Nodup := by
  cases n with
  | file mode bytes => exact List.nodup_nil
  | link target => exact List.nodup_nil
  | directory mode es => exact (h [] mode es (at?_nil _)).1

theorem isFileName (h : WellNamed n) {e : FileName × Node} (he : e ∈ n.entries) :
    Path.IsFileName e.1 := by
  cases n with
  | file mode bytes => cases he
  | link target => cases he
  | directory mode es => exact (h [] mode es (at?_nil _)).2 _ (List.mem_map_of_mem he)

theorem entry (h : WellNamed n) {e : FileName × Node} (he : e ∈ n.entries) : WellNamed e.2 := by
  refine h.at? (l := [e.1]) ?_
  rw [at?_cons, (lookup_eq_some_iff_mem h.nodup).mpr he]
  rfl

/-- The names on the way to something are names for a path. -/
theorem names (h : WellNamed root) (hat : root.at? l = some n) : ∀ name ∈ l, Path.IsFileName name := by
  induction l generalizing root with
  | nil => exact nofun
  | cons name l ih =>
    rw [at?_cons, Option.bind_eq_some_iff] at hat
    obtain ⟨inner, hlookup, hrest⟩ := hat
    have hmem := (lookup_eq_some_iff_mem h.nodup).mp hlookup
    intro k hk
    rcases List.mem_cons.mp hk with rfl | hk
    · exact h.isFileName hmem
    · exact ih (h.entry hmem) hrest k hk

end WellNamed

end Node

end SuiteSplit
