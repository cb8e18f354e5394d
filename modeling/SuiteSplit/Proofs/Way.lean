import SuiteSplit.Disk
import SuiteSplit.Proofs.Tree

/-!
Ways through directories. A walk passes through directories and links up to its last step, and a way
is that part of it. Whether there is a way depends only on what a walk sees at each place: a directory,
a link and where it leads, or a file. So a way is still there when other things were added to the tree,
and two trees that agree where both have something lead to the same place.
-/

namespace SuiteSplit

/-- What a walk sees of a node. -/
inductive Waypoint
  | file
  | link (target : Path)
  | directory
deriving DecidableEq

namespace Node

def waypoint : Node → Waypoint
  | file .. => .file
  | link target => .link target
  | directory .. => .directory

def waypoint? (root : Node) (l : Location) : Option Waypoint := (root.at? l).map waypoint

theorem isDirectory_iff_waypoint {n : Node} : n.isDirectory ↔ n.waypoint = .directory := by
  cases n <;> simp [isDirectory, waypoint]

theorem waypoint?_of_at? {root n : Node} {l : Location} (hat : root.at? l = some n) :
    root.waypoint? l = some n.waypoint :=
  congrArg (Option.map waypoint) hat

theorem waypoint?_of_isDirectory {root n : Node} {l : Location} (hat : root.at? l = some n)
    (hn : n.isDirectory) : root.waypoint? l = some .directory := by
  rw [waypoint?_of_at? hat, isDirectory_iff_waypoint.mp hn]

theorem any_isDirectory_iff {root : Node} {l : Location} :
    (root.at? l).any isDirectory ↔ root.waypoint? l = some .directory := by
  rw [waypoint?, Option.any_eq_true, Option.map_eq_some_iff]
  simp only [isDirectory_iff_waypoint]

/-- A name that a walk looks up in a directory. -/
structure IsEntryName (name : FileName) : Prop where
  ne_inward : name ≠ Path.inward
  ne_dot : name ≠ Path.dot
  ne_dots : name ≠ Path.dots
  length_le : name.length ≤ maxNameLength

/-- The step of a walk by a name that it looks up. -/
theorem walk_name {root : Node} (aim : Aim) {links : Nat} {here : Location} {name : FileName}
    {rest : List FileName} (hname : IsEntryName name)
    (hlast : ¬ (aim = .file ∧ rest = [Path.inward])) :
    root.walk aim links here (name :: rest) =
      match root.at? (here ++ [name]) with
      | none => if rest = [] then .ok (.vacant here name) else .error .notFound
      | some (.file mode bytes) =>
        if rest = [] then .ok (.found (here ++ [name]) (.file mode bytes)) else .error .notDirectory
      | some (.directory ..) => root.walk aim links (here ++ [name]) rest
      | some (.link target) =>
        if rest = [] ∧ aim = .entry then .ok (.found (here ++ [name]) (.link target))
        else
          match links with
          | 0 => .error .tooManyLinks
          | links + 1 => root.walk aim links (target.origin here) (target.allHops ++ rest) := by
  rw [walk, if_neg (not_or.mpr ⟨hname.ne_inward, hname.ne_dot⟩), if_neg hname.ne_dots, if_neg hlast]
  exact if_neg (Nat.not_lt.mpr hname.length_le)

/-- The last step of a walk to what a path leads to. -/
theorem walk_singleton {root : Node} {links : Nat} {here : Location} {name : FileName}
    (hname : IsEntryName name) :
    root.walk .goal links here [name] =
      match root.at? (here ++ [name]) with
      | none => .ok (.vacant here name)
      | some (.link target) =>
        match links with
        | 0 => .error .tooManyLinks
        | links + 1 => root.walk .goal links (target.origin here) target.allHops
      | some n => .ok (.found (here ++ [name]) n) := by
  rw [walk_name .goal hname (fun h => nomatch h.1)]
  cases hat : root.at? (here ++ [name]) with
  | none => rfl
  | some n =>
    cases n with
    | file mode bytes => rfl
    | link target => cases links <;> simp
    | directory mode entries => simp [walk, hat]

/-- A way from one place to another, with the numbers of links that may be followed before and after
it. -/
inductive Way (root : Node) : Nat → Location → List FileName → Nat → Location → Prop
  | done (links : Nat) (here : Location) : Way root links here [] links here
  | idle {name links here rest links' there} (hname : name = Path.inward ∨ name = Path.dot)
      (hrest : Way root links here rest links' there) :
      Way root links here (name :: rest) links' there
  | up {links here rest links' there} (hrest : Way root links here.dropLast rest links' there) :
      Way root links here (Path.dots :: rest) links' there
  | enter {name links here rest links' there} (hname : IsEntryName name)
      (hsee : root.waypoint? (here ++ [name]) = some .directory)
      (hrest : Way root links (here ++ [name]) rest links' there) :
      Way root links here (name :: rest) links' there
  | follow {name target links here rest links' there} (hname : IsEntryName name)
      (hsee : root.waypoint? (here ++ [name]) = some (.link target))
      (hrest : Way root links (target.origin here) (target.allHops ++ rest) links' there) :
      Way root (links + 1) here (name :: rest) links' there

theorem waypoint?_eq_directory {root : Node} {l : Location}
    (h : root.waypoint? l = some .directory) :
    ∃ mode entries, root.at? l = some (.directory mode entries) := by
  obtain ⟨n, hn, hkind⟩ := Option.map_eq_some_iff.mp h
  cases n with
  | file mode bytes => simp [waypoint] at hkind
  | link target => simp [waypoint] at hkind
  | directory mode entries => exact ⟨mode, entries, hn⟩

theorem waypoint?_eq_link {root : Node} {l : Location} {target : Path}
    (h : root.waypoint? l = some (.link target)) : root.at? l = some (.link target) := by
  obtain ⟨n, hn, hkind⟩ := Option.map_eq_some_iff.mp h
  cases n with
  | file mode bytes => simp [waypoint] at hkind
  | link target' =>
    simp only [waypoint, Waypoint.link.injEq] at hkind
    rw [hn, hkind]
  | directory mode entries => simp [waypoint] at hkind

namespace Way

variable {root : Node} {links links' : Nat} {here there : Location} {todo : List FileName}

/-- A walk goes along a way whatever it looks for, as long as it has a further name to look up. -/
theorem walk_append (h : Way root links here todo links' there) {aim : Aim} {rest : List FileName}
    (haim : aim = .goal ∨ rest ≠ [] ∧ rest ≠ [Path.inward]) :
    root.walk aim links here (todo ++ rest) = root.walk aim links' there rest := by
  have hlast (todo : List FileName) : ¬ (aim = .file ∧ todo ++ rest = [Path.inward]) := by
    rintro ⟨rfl, hinward⟩
    obtain ⟨hnil, hne⟩ := haim.resolve_left (by decide)
    rcases List.append_eq_singleton_iff.mp hinward with ⟨_, h⟩ | ⟨_, h⟩
    · exact hne h
    · exact hnil h
  have hmore (todo : List FileName) : ¬ (todo ++ rest = [] ∧ aim = .entry) := by
    rintro ⟨hnil, rfl⟩
    exact (haim.resolve_left (by decide)).1 (List.append_eq_nil_iff.mp hnil).2
  induction h with
  | done => rfl
  | idle hname _ ih =>
    rw [List.cons_append, walk, if_pos hname, ih]
  | up _ ih =>
    rw [List.cons_append, walk, if_neg (by decide), if_pos rfl, ih]
  | @enter name links here todo links' there hname hsee _ ih =>
    obtain ⟨mode, entries, hat⟩ := waypoint?_eq_directory hsee
    rw [List.cons_append, walk_name aim hname (hlast todo), hat]
    exact ih
  | @follow name target links here todo links' there hname hsee _ ih =>
    rw [List.cons_append, walk_name aim hname (hlast todo), waypoint?_eq_link hsee]
    simp only [hmore todo, if_false]
    rw [← List.append_assoc]
    exact ih

/-- What a walk sees decides where a way leads. If two trees see the same wherever both see something,
ways in them lead to the same place, and that is also the way in a tree which sees what both see. -/
theorem agree {A B C : Node} {todo : List FileName} {linksA linksB : Nat} {placeA placeB : Location}
    (hsee : ∀ l w w', A.waypoint? l = some w → B.waypoint? l = some w' →
      w = w' ∧ C.waypoint? l = some w)
    (hA : Way A links here todo linksA placeA) (hB : Way B links here todo linksB placeB) :
    placeA = placeB ∧ Way C links here todo linksA placeA := by
  induction hA generalizing linksB placeB with
  | done links here =>
    cases hB
    exact ⟨rfl, .done _ _⟩
  | idle hname _ ih =>
    cases hB with
    | idle _ hB =>
      obtain ⟨hplace, hC⟩ := ih hB
      exact ⟨hplace, .idle hname hC⟩
    | up hB => exact absurd hname (by decide)
    | enter hentry => exact absurd hname (not_or.mpr ⟨hentry.ne_inward, hentry.ne_dot⟩)
    | follow hentry => exact absurd hname (not_or.mpr ⟨hentry.ne_inward, hentry.ne_dot⟩)
  | up _ ih =>
    cases hB with
    | idle hname => exact absurd hname (by decide)
    | up hB =>
      obtain ⟨hplace, hC⟩ := ih hB
      exact ⟨hplace, .up hC⟩
    | enter hentry => exact absurd rfl hentry.ne_dots
    | follow hentry => exact absurd rfl hentry.ne_dots
  | enter hentry hA _ ih =>
    cases hB with
    | idle hname => exact absurd hname (not_or.mpr ⟨hentry.ne_inward, hentry.ne_dot⟩)
    | up => exact absurd rfl hentry.ne_dots
    | enter _ hB hrest =>
      obtain ⟨hplace, hC⟩ := ih hrest
      exact ⟨hplace, .enter hentry (hsee _ _ _ hA hB).2 hC⟩
    | follow _ hB => exact absurd (hsee _ _ _ hA hB).1 nofun
  | follow hentry hA _ ih =>
    cases hB with
    | idle hname => exact absurd hname (not_or.mpr ⟨hentry.ne_inward, hentry.ne_dot⟩)
    | up => exact absurd rfl hentry.ne_dots
    | enter _ hB => exact absurd (hsee _ _ _ hA hB).1 nofun
    | follow _ hB hrest =>
      obtain ⟨hlink, hC⟩ := hsee _ _ _ hA hB
      cases hlink
      obtain ⟨hplace, hway⟩ := ih hrest
      exact ⟨hplace, .follow hentry hC hway⟩

/-- A way is still there in a tree that has more in it. -/
theorem mono {A B : Node} (hsee : ∀ l w, A.waypoint? l = some w → B.waypoint? l = some w)
    (h : Way A links here todo links' there) : Way B links here todo links' there := by
  refine (agree (B := A) (C := B) ?_ h h).2
  intro l w w' hw hw'
  rw [hw] at hw'
  exact ⟨Option.some.inj hw', hsee l w hw⟩

theorem unique {placeA placeB : Location} {linksA linksB : Nat}
    (hA : Way root links here todo linksA placeA) (hB : Way root links here todo linksB placeB) :
    placeA = placeB := by
  refine (agree (C := root) ?_ hA hB).1
  intro l w w' hw hw'
  rw [hw] at hw'
  exact ⟨Option.some.inj hw', hw⟩

theorem append {more : List FileName} {linksB : Nat} {placeB : Location}
    (hA : Way root links here todo links' there) (hB : Way root links' there more linksB placeB) :
    Way root links here (todo ++ more) linksB placeB := by
  induction hA with
  | done => exact hB
  | idle hname _ ih => exact .idle hname (ih hB)
  | up _ ih => exact .up (ih hB)
  | enter hentry hsee _ ih => exact .enter hentry hsee (ih hB)
  | follow hentry hsee _ ih =>
    have hrest := ih hB
    rw [List.append_assoc] at hrest
    exact .follow hentry hsee hrest

/-- A way can be left after some of its steps. -/
theorem split {more : List FileName} (h : Way root links here (todo ++ more) links' there) :
    ∃ linksA placeA, Way root links here todo linksA placeA ∧
      Way root linksA placeA more links' there := by
  generalize hall : todo ++ more = all at h
  induction h generalizing todo with
  | done links here =>
    obtain ⟨rfl, rfl⟩ := List.append_eq_nil_iff.mp hall
    exact ⟨links, here, .done _ _, .done _ _⟩
  | @idle name links here rest links' there hname hrest ih =>
    rcases List.append_eq_cons_iff.mp hall with ⟨rfl, rfl⟩ | ⟨todo, rfl, hafter⟩
    · exact ⟨links, here, .done _ _, .idle hname hrest⟩
    · obtain ⟨linksA, placeA, hA, hB⟩ := ih hafter.symm
      exact ⟨linksA, placeA, .idle hname hA, hB⟩
  | @up links here rest links' there hrest ih =>
    rcases List.append_eq_cons_iff.mp hall with ⟨rfl, rfl⟩ | ⟨todo, rfl, hafter⟩
    · exact ⟨links, here, .done _ _, .up hrest⟩
    · obtain ⟨linksA, placeA, hA, hB⟩ := ih hafter.symm
      exact ⟨linksA, placeA, .up hA, hB⟩
  | @enter name links here rest links' there hentry hsee hrest ih =>
    rcases List.append_eq_cons_iff.mp hall with ⟨rfl, rfl⟩ | ⟨todo, rfl, hafter⟩
    · exact ⟨links, here, .done _ _, .enter hentry hsee hrest⟩
    · obtain ⟨linksA, placeA, hA, hB⟩ := ih hafter.symm
      exact ⟨linksA, placeA, .enter hentry hsee hA, hB⟩
  | @follow name target links here rest links' there hentry hsee hrest ih =>
    rcases List.append_eq_cons_iff.mp hall with ⟨rfl, rfl⟩ | ⟨todo, rfl, hafter⟩
    · exact ⟨links + 1, here, .done _ _, .follow hentry hsee hrest⟩
    · obtain ⟨linksA, placeA, hA, hB⟩ :=
        ih (show (target.allHops ++ todo) ++ more = _ by rw [List.append_assoc, hafter])
      exact ⟨linksA, placeA, .follow hentry hsee hA, hB⟩

end Way

theorem at?_of_walk_found {root : Node} {aim : Aim} {links : Nat} {here there : Location}
    {todo : List FileName} {n : Node} (h : root.walk aim links here todo = .ok (.found there n)) :
    root.at? there = some n := by
  fun_induction walk root aim links here todo <;> simp_all

/-- A walk that finds something has gone along a way up to its last name, and along a way all through
if what it finds is a directory. -/
theorem exists_way_of_walk {root : Node} {aim : Aim} {links : Nat} {here : Location}
    {todo rest : List FileName} {spot : Spot}
    (h : root.walk aim links here (todo ++ rest) = .ok spot)
    (hrest : rest ≠ [] ∨ ∃ there n, spot = .found there n ∧ n.isDirectory) :
    ∃ links' there, Way root links here todo links' there := by
  generalize hall : todo ++ rest = all at h
  -- the last name of all ends the way if it is looked up in vain, and if it is no directory
  have hlast {todo : List FileName} (hnil : todo ++ rest = [])
      (hspot : ∀ there n, spot = .found there n → n.isDirectory = false) : False := by
    rcases hrest with hrest | ⟨there, n, rfl, hn⟩
    · exact hrest (List.append_eq_nil_iff.mp hnil).2
    · rw [hspot there n rfl] at hn
      cases hn
  fun_induction walk root aim links here all generalizing todo
  all_goals
    cases todo with
    | nil => exact ⟨_, _, .done _ _⟩
    | cons x todo => ?_
  all_goals try simp only [reduceCtorEq] at h
  all_goals simp only [List.cons_append, List.cons.injEq, reduceCtorEq] at hall
  case case3.cons hname ih =>
    obtain ⟨rfl, hall⟩ := hall
    obtain ⟨links', there, hway⟩ := ih hall h
    exact ⟨links', there, .idle hname hway⟩
  case case4.cons ih =>
    obtain ⟨rfl, hall⟩ := hall
    obtain ⟨links', there, hway⟩ := ih hall h
    exact ⟨links', there, .up hway⟩
  case case7.cons =>
    cases h
    exact (hlast hall.2 nofun).elim
  case case9.cons =>
    cases h
    refine (hlast hall.2 ?_).elim
    rintro there n ⟨⟩
    rfl
  case case11.cons hidle hup _ hlong mode entries hat ih =>
    obtain ⟨rfl, hall⟩ := hall
    obtain ⟨links', there, hway⟩ := ih hall h
    exact ⟨links', there, .enter ⟨fun h => hidle (.inl h), fun h => hidle (.inr h), hup,
      Nat.not_lt.mp hlong⟩ (waypoint?_of_at? hat) hway⟩
  case case12.cons hend =>
    cases h
    refine (hlast (hall.2.trans hend.1) ?_).elim
    rintro there n ⟨⟩
    rfl
  case case14.cons hidle hup _ hlong target hat _ links ih =>
    obtain ⟨rfl, hall⟩ := hall
    obtain ⟨links', there, hway⟩ := ih (by rw [List.append_assoc, hall]) h
    exact ⟨links', there, .follow ⟨fun h => hidle (.inl h), fun h => hidle (.inr h), hup,
      Nat.not_lt.mp hlong⟩ (waypoint?_of_at? hat) hway⟩

/-- A walk that finds a directory has gone along a way to it. -/
theorem way_of_walk_found {root n : Node} {links : Nat} {here there : Location}
    {todo : List FileName} (h : root.walk .goal links here todo = .ok (.found there n))
    (hn : n.isDirectory) : ∃ links', Way root links here todo links' there := by
  rw [← List.append_nil todo] at h
  obtain ⟨links', there', hway⟩ := exists_way_of_walk h (.inr ⟨there, n, rfl, hn⟩)
  rw [hway.walk_append (.inl rfl), walk] at h
  split at h
  · cases h
    exact ⟨links', hway⟩
  · cases h

end Node

end SuiteSplit
