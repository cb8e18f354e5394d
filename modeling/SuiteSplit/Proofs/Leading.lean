import SuiteSplit.Proofs.PathNames
import SuiteSplit.Proofs.Way

/-!
Where paths lead. A path leads to a directory if there is a way along its segments. A call that names
an entry of a directory succeeds only where the path around it leads, and it acts on the entry there,
so what calls do can be said in terms of places.
-/

namespace SuiteSplit

namespace Node

/-- What something stands below of is a directory. -/
theorem waypoint?_of_below {root n : Node} {l m : Location} (hm : m ≠ [])
    (h : root.at? (l ++ m) = some n) : root.waypoint? l = some .directory := by
  obtain ⟨name, rest, rfl⟩ := List.exists_cons_of_ne_nil hm
  cases hl : root.at? l with
  | none => rw [at?_append_of_none hl] at h; cases h
  | some inner =>
    rw [at?_append_of_some hl] at h
    refine waypoint?_of_isDirectory hl ?_
    by_contra hnot
    rw [at?_cons_of_not_directory (Bool.not_eq_true _ ▸ hnot)] at h
    cases h

theorem waypoint?_of_prefix {root n : Node} {l m : Location} (hbegins : l <+: m)
    (h : root.at? m = some n) (hn : n.isDirectory) : root.waypoint? l = some .directory := by
  obtain ⟨rest, rfl⟩ := hbegins
  by_cases hrest : rest = []
  · subst hrest
    rw [List.append_nil] at h
    exact waypoint?_of_isDirectory h hn
  · exact waypoint?_of_below hrest h

/-- The directories around a directory are directories. -/
theorem waypoint?_of_directory {root : Node} {l m : Location} (hlm : l <+: m)
    (hm : root.waypoint? m = some .directory) : root.waypoint? l = some .directory := by
  obtain ⟨mode, entries, hat⟩ := waypoint?_eq_directory hm
  exact waypoint?_of_prefix hlm hat rfl

theorem waypoint?_origin {root : Node} {here : Location}
    (hhere : root.waypoint? here = some .directory) (p : Path) :
    root.waypoint? (p.origin here) = some .directory := by
  unfold Path.origin
  split
  · exact waypoint?_of_directory List.nil_prefix hhere
  · exact hhere

namespace Way

variable {root : Node} {links links' : Nat} {here there : Location} {todo : List FileName}

/-- A way from a directory ends in a directory. -/
theorem directory (h : Way root links here todo links' there)
    (hhere : root.waypoint? here = some .directory) : root.waypoint? there = some .directory := by
  induction h with
  | done => exact hhere
  | idle _ _ ih => exact ih hhere
  | up _ ih => exact ih (waypoint?_of_directory (List.dropLast_prefix _) hhere)
  | enter _ hsee _ ih => exact ih hsee
  | follow _ _ _ ih => exact ih (waypoint?_origin hhere _)

theorem idles {front rest : List FileName} (hfront : ∀ s ∈ front, Path.isIdle s)
    (h : Way root links here rest links' there) : Way root links here (front ++ rest) links' there := by
  induction front with
  | nil => exact h
  | cons s front ih =>
    have hs := Path.isIdle_iff.mp (hfront s List.mem_cons_self)
    exact .idle hs (ih fun s hs => hfront s (List.mem_cons_of_mem _ hs))

/-- Segments that say nothing do not matter for a way. -/
theorem of_filter_eq {todo' : List FileName} (h : Way root links here todo links' there)
    (hfilter : todo'.filter (fun s => !Path.isIdle s) = todo.filter fun s => !Path.isIdle s) :
    Way root links here todo' links' there := by
  -- the next name that says something, with idle ones in front of it
  have hnext {name : FileName} {rest todo' : List FileName} (hname : Path.isIdle name = false)
      (h : todo'.filter (fun s => !Path.isIdle s) =
        (name :: rest).filter fun s => !Path.isIdle s) :
      ∃ front rest', todo' = front ++ name :: rest' ∧ (∀ s ∈ front, Path.isIdle s) ∧
        rest'.filter (fun s => !Path.isIdle s) = rest.filter fun s => !Path.isIdle s := by
    rw [List.filter_cons_of_pos (by simp [hname]), List.filter_eq_cons_iff] at h
    obtain ⟨front, rest', rfl, hfront, -, hrest⟩ := h
    exact ⟨front, rest', rfl, by simpa using hfront, hrest⟩
  induction h generalizing todo' with
  | done links here =>
    have hidle : ∀ s ∈ todo', Path.isIdle s := by simpa using hfilter
    simpa using idles hidle (.done links here)
  | idle hname _ ih =>
    have hidle := Path.isIdle_iff.mpr hname
    rw [List.filter_cons_of_neg (by simp [hidle])] at hfilter
    exact ih hfilter
  | up _ ih =>
    obtain ⟨front, rest', rfl, hfront, hrest⟩ := hnext (by decide) hfilter
    exact idles hfront (.up (ih hrest))
  | enter hentry hsee _ ih =>
    have hname := Bool.eq_false_iff.mpr fun h =>
      (Path.isIdle_iff.mp h).elim hentry.ne_inward hentry.ne_dot
    obtain ⟨front, rest', rfl, hfront, hrest⟩ := hnext hname hfilter
    exact idles hfront (.enter hentry hsee (ih hrest))
  | follow hentry hsee _ ih =>
    have hname := Bool.eq_false_iff.mpr fun h =>
      (Path.isIdle_iff.mp h).elim hentry.ne_inward hentry.ne_dot
    obtain ⟨front, rest', rfl, hfront, hrest⟩ := hnext hname hfilter
    refine idles hfront (.follow hentry hsee (ih ?_))
    rw [List.filter_append, List.filter_append, hrest]

end Way

end Node

open Node

/-- A path leads to a directory of a tree, for a program in a directory. -/
structure Leads (root : Node) (here : Location) (p : Path) (there : Location) : Prop where
  accepted : p.fault? = none
  origin : root.waypoint? (p.origin here) = some .directory
  way : ∃ links, Way root maxLinks (p.origin here) p.hops links there

namespace Leads

variable {root : Node} {here there : Location} {p : Path}

theorem directory (h : Leads root here p there) : root.waypoint? there = some .directory := by
  obtain ⟨links, hway⟩ := h.way
  exact hway.directory h.origin

/-- Two trees that see the same wherever both see something lead to the same place, and so does a tree
that sees what both see. -/
theorem agree {A B C : Node} {placeA placeB : Location}
    (hsee : ∀ l w w', A.waypoint? l = some w → B.waypoint? l = some w' →
      w = w' ∧ C.waypoint? l = some w)
    (hA : Leads A here p placeA) (hB : Leads B here p placeB) :
    placeA = placeB ∧ Leads C here p placeA := by
  obtain ⟨linksA, hwayA⟩ := hA.way
  obtain ⟨linksB, hwayB⟩ := hB.way
  obtain ⟨hplace, hwayC⟩ := Way.agree hsee hwayA hwayB
  exact ⟨hplace, hA.accepted, (hsee _ _ _ hA.origin hB.origin).2, linksA, hwayC⟩

theorem mono {A B : Node} (hsee : ∀ l w, A.waypoint? l = some w → B.waypoint? l = some w)
    (h : Leads A here p there) : Leads B here p there := by
  obtain ⟨links, hway⟩ := h.way
  exact ⟨h.accepted, hsee _ _ h.origin, links, hway.mono hsee⟩

theorem unique {placeA placeB : Location} (hA : Leads root here p placeA)
    (hB : Leads root here p placeB) : placeA = placeB := by
  obtain ⟨linksA, hwayA⟩ := hA.way
  obtain ⟨linksB, hwayB⟩ := hB.way
  exact hwayA.unique hwayB

end Leads

/-! ## Entries of directories -/

/-- A path that is one name longer than another one. -/
structure Path.EntryOf (p outer : Path) (name : FileName) : Prop where
  names : p.names = outer.names ++ [name]
  absolute : outer.isAbsolute = p.isAbsolute
  accepted : p.fault? = none → outer.fault? = none

namespace Path

theorem entryOf_directory {p : Path} {name : FileName} (h : p.fileName? = some name) :
    p.EntryOf p.directory name :=
  ⟨names_eq_append h, isAbsolute_directory h, fault?_directory h⟩

theorem entryOf_join {p : Path} {name : FileName} (hp : p.bytes ≠ []) (hname : IsPlain name) :
    (p.join ⟨name⟩).EntryOf p name := by
  refine ⟨?_, (isAbsolute_join hp hname).symm, fault?_of_join hp hname⟩
  rw [← filter_hops, hops_join hp hname, List.filter_append, filter_hops,
    List.filter_cons_of_pos (by simp [hname.not_idle]), List.filter_nil]

theorem EntryOf.not_idle {p outer : Path} {name : FileName} (h : p.EntryOf outer name) :
    isIdle name = false := by
  have hmem : name ∈ p.names := h.names ▸ List.mem_append_right _ List.mem_cons_self
  simpa using (List.mem_filter.mp hmem).2

theorem EntryOf.filter_name {p outer : Path} {name : FileName} (h : p.EntryOf outer name) :
    [name].filter (fun s => !isIdle s) = [name] := by
  rw [List.filter_cons_of_pos (by simp [h.not_idle]), List.filter_nil]

theorem EntryOf.origin {p outer : Path} {name : FileName} (h : p.EntryOf outer name)
    (here : Location) : outer.origin here = p.origin here := by
  rw [Path.origin, Path.origin, h.absolute]

end Path

namespace Disk

variable {d : Disk} {p : Path} {there : Location}

theorem start_eq_ok_iff {l : Location} :
    d.start p = .ok l ↔
      p.fault? = none ∧ l = p.origin d.here ∧
        d.root.waypoint? (p.origin d.here) = some .directory := by
  unfold start
  cases hfault : p.fault? with
  | some e => simp
  | none =>
    cases hat : d.root.at? (p.origin d.here) with
    | none => simp [waypoint?, hat]
    | some n => cases n <;> simp [waypoint?, hat, waypoint, eq_comm]

theorem find_of_leads (h : Leads d.root d.here p there) :
    ∃ mode entries, d.root.at? there = some (.directory mode entries) ∧
      d.find .goal p = .ok (there, .directory mode entries) := by
  obtain ⟨mode, entries, hat⟩ := waypoint?_eq_directory h.directory
  obtain ⟨links, hway⟩ := h.way
  have hwalk : d.root.walk .goal maxLinks (p.origin d.here) p.allHops =
      .ok (.found there (.directory mode entries)) := by
    rw [Path.allHops, hway.walk_append (.inl rfl)]
    split <;> simp [Node.walk, hat]
  have hstart : d.start p = .ok (p.origin d.here) :=
    start_eq_ok_iff.mpr ⟨h.accepted, rfl, h.origin⟩
  refine ⟨mode, entries, hat, ?_⟩
  rw [find, Disk.walk, hstart]
  simp only [hwalk]

theorem leads_of_find {mode : Nat} {entries : List (FileName × Node)}
    (h : d.find .goal p = .ok (there, .directory mode entries)) : Leads d.root d.here p there := by
  rw [find, Disk.walk] at h
  cases hstart : d.start p with
  | error e => simp [hstart] at h
  | ok l =>
    obtain ⟨haccepted, rfl, horigin⟩ := start_eq_ok_iff.mp hstart
    refine ⟨haccepted, horigin, ?_⟩
    simp only [hstart] at h
    cases hwalk : d.root.walk .goal maxLinks (p.origin d.here) p.allHops with
    | error e => simp [hwalk] at h
    | ok spot =>
      cases spot with
      | vacant directory name => simp [hwalk] at h
      | found l n =>
        simp only [hwalk, Except.ok.injEq, Prod.mk.injEq] at h
        obtain ⟨rfl, rfl⟩ := h
        obtain ⟨links, hway⟩ := way_of_walk_found hwalk rfl
        refine ⟨links, hway.of_filter_eq ?_⟩
        rw [Path.allHops, List.filter_append]
        split <;> simp [Path.isIdle, Path.inward]

/-- A path that ends below a directory is walked only where the directory is led to. -/
theorem leads_of_walk {aim : Aim} {name : FileName} {spot : Spot} (hp : p.bytes ≠ [])
    (hname : Path.IsPlain name) (h : d.walk aim (p.join ⟨name⟩) = .ok spot) :
    ∃ there links, Leads d.root d.here p there ∧
      d.root.walk aim links there [name] = .ok spot := by
  rw [Disk.walk] at h
  cases hstart : d.start (p.join ⟨name⟩) with
  | error e => simp [hstart] at h
  | ok l =>
    obtain ⟨haccepted, rfl, horigin⟩ := start_eq_ok_iff.mp hstart
    have hentry := Path.entryOf_join hp hname
    rw [← hentry.origin] at horigin
    simp only [hstart, Path.allHops_join hp hname, ← hentry.origin] at h
    obtain ⟨links, there, hway⟩ := exists_way_of_walk h (.inl (List.cons_ne_nil _ _))
    have hleads : Leads d.root d.here p there :=
      ⟨hentry.accepted haccepted, horigin, links, hway⟩
    refine ⟨there, links, hleads, ?_⟩
    rw [← hway.walk_append, h]
    exact .inr ⟨List.cons_ne_nil _ _, fun h => hname.ne_nil (List.cons.inj h).1⟩

/-- A path that ends below a directory is walked there by a way to the directory and one more step. -/
theorem walk_join {links : Nat} {name : FileName} (hname : Path.IsPlain name) (hp : p.bytes ≠ [])
    (haccepted : (p.join ⟨name⟩).fault? = none)
    (horigin : d.root.waypoint? (p.origin d.here) = some .directory)
    (hway : Way d.root maxLinks (p.origin d.here) p.hops links there) :
    d.walk .goal (p.join ⟨name⟩) = d.root.walk .goal links there [name] := by
  have hsame := (Path.entryOf_join hp hname).origin d.here
  have hstart : d.start (p.join ⟨name⟩) = .ok (p.origin d.here) :=
    start_eq_ok_iff.mpr ⟨haccepted, hsame, hsame ▸ horigin⟩
  rw [Disk.walk, hstart]
  dsimp only
  rw [Path.allHops_join hp hname]
  exact hway.walk_append (.inl rfl)

/-- A call that names an entry has walked all names of its path but the last. -/
theorem exists_way_of_entry {name : FileName} (h : d.entry p = .ok (there, some name)) :
    p.fault? = none ∧ d.root.waypoint? (p.origin d.here) = some .directory ∧
      IsEntryName name ∧ ∃ outer links, p.names = outer ++ [name] ∧
        Way d.root maxLinks (p.origin d.here) outer links there := by
  rw [entry] at h
  cases hstart : d.start p with
  | error e => simp [hstart] at h
  | ok l =>
    obtain ⟨haccepted, rfl, horigin⟩ := start_eq_ok_iff.mp hstart
    simp only [hstart] at h
    cases hlast : p.hops.getLast? with
    | none => simp [hlast] at h
    | some last =>
      obtain ⟨init, hinit⟩ := List.getLast?_eq_some_iff.mp hlast
      rw [hlast] at h
      simp only [hinit, List.dropLast_concat] at h
      split at h
      · cases h
      · next hwalk =>
        rename_i l mode entries
        split_ifs at h with hdots hlong
        · simp at h
        simp only [Except.ok.injEq, Prod.mk.injEq, Option.some.injEq] at h
        obtain ⟨rfl, rfl⟩ := h
        rw [not_or] at hdots
        have hne : last ≠ [] := by
          have hmem : last ∈ p.hops := hinit ▸ List.mem_append_right _ List.mem_cons_self
          exact of_decide_eq_true (List.mem_filter.mp hmem).2
        have hidle : Path.isIdle last = false := by simp [Path.isIdle, hne, hdots.1]
        obtain ⟨links, hway⟩ := way_of_walk_found hwalk rfl
        refine ⟨haccepted, horigin, ⟨hne, hdots.1, hdots.2, Nat.not_lt.mp hlong⟩,
          init.filter fun s => !Path.isIdle s, links, ?_, hway.of_filter_eq ?_⟩
        · rw [← p.filter_hops, hinit, List.filter_append,
            List.filter_cons_of_pos (by simp [hidle]), List.filter_nil]
        · rw [List.filter_filter, List.filter_append]
          simp [Path.isIdle, Path.inward]
      · cases h

/-- The entry that a path names is in the directory that the path around it leads to. -/
theorem leads_of_entry {outer : Path} {name k : FileName} (hpath : p.EntryOf outer name)
    (h : d.entry p = .ok (there, some k)) :
    k = name ∧ IsEntryName name ∧ Leads d.root d.here outer there := by
  obtain ⟨haccepted, horigin, hname, init, links, hnames, hway⟩ := exists_way_of_entry h
  obtain ⟨hinit, hlast⟩ := List.append_inj' (hnames.symm.trans hpath.names) rfl
  obtain rfl : k = name := (List.cons.inj hlast).1
  rw [← hpath.origin] at horigin hway
  refine ⟨rfl, hname, hpath.accepted haccepted, horigin, links, hway.of_filter_eq ?_⟩
  rw [hinit, outer.filter_hops, outer.filter_names]

/-- The place of the entry that a path names, if the path around it leads to a directory. -/
def place? (d : Disk) (p : Path) : Option Location :=
  match p.fileName?, d.find .goal p.directory with
  | some name, .ok (there, .directory ..) => some (there ++ [name])
  | _, _ => none

theorem place?_eq_some_iff {l : Location} :
    d.place? p = some l ↔ ∃ name there, p.fileName? = some name ∧
      Leads d.root d.here p.directory there ∧ l = there ++ [name] := by
  constructor
  · intro h
    unfold place? at h
    split at h
    · next name there mode entries hname hfind =>
      exact ⟨name, there, hname, leads_of_find hfind, (Option.some.inj h).symm⟩
    · cases h
  · rintro ⟨name, there, hname, hleads, rfl⟩
    obtain ⟨mode, entries, -, hfind⟩ := find_of_leads hleads
    simp [place?, hname, hfind]

end Disk

namespace Leads

variable {root : Node} {here there : Location} {p outer : Path} {name : FileName}

/-- A directory in the directory that a path leads to is led to by the path with its name. -/
theorem entry (h : Leads root here outer there) (hpath : p.EntryOf outer name)
    (hname : IsEntryName name) (haccepted : p.fault? = none)
    (hsee : root.waypoint? (there ++ [name]) = some .directory) :
    Leads root here p (there ++ [name]) := by
  obtain ⟨links, hway⟩ := h.way
  refine ⟨haccepted, hpath.origin here ▸ h.origin, links, ?_⟩
  rw [← hpath.origin]
  refine (hway.append (.enter hname hsee (.done _ _))).of_filter_eq ?_
  rw [p.filter_hops, hpath.names, List.filter_append, outer.filter_hops, hpath.filter_name]

/-- The last step of a path goes from the directory that the path around it leads to. -/
theorem last_of_entry (h : Leads root here p there) (hpath : p.EntryOf outer name) :
    ∃ place links links', Leads root here outer place ∧ Way root links place [name] links' there := by
  obtain ⟨links, hway⟩ := h.way
  have hnames : (outer.hops ++ [name]).filter (fun s => !Path.isIdle s) =
      p.hops.filter fun s => !Path.isIdle s := by
    rw [p.filter_hops, hpath.names, List.filter_append, outer.filter_hops, hpath.filter_name]
  obtain ⟨linksA, place, hplace, hlast⟩ := (hway.of_filter_eq hnames).split
  rw [← hpath.origin] at hplace
  exact ⟨place, linksA, links,
    ⟨hpath.accepted h.accepted, hpath.origin here ▸ h.origin, linksA, hplace⟩, hlast⟩

/-- Where a path leads, its last name is that of something, and if that is a directory the path leads
to it. -/
theorem of_entry (h : Leads root here p there) (hpath : p.EntryOf outer name)
    (hne : name ≠ Path.dots) :
    ∃ place, Leads root here outer place ∧ root.waypoint? (place ++ [name]) ≠ none ∧
      (root.waypoint? (place ++ [name]) = some .directory → there = place ++ [name]) := by
  obtain ⟨place, links, links', hplace, hlast⟩ := h.last_of_entry hpath
  refine ⟨place, hplace, ?_⟩
  cases hlast with
  | idle hidle => exact absurd (Path.isIdle_iff.mpr hidle) (by simp [hpath.not_idle])
  | up => exact absurd rfl hne
  | enter _ hsee hdone =>
    cases hdone
    exact ⟨by simp [hsee], fun _ => rfl⟩
  | follow _ hlink => simp [hlink]

/-- A path leads to one place only below the directory that the path around it leads to. -/
theorem eq_of_join {place : Location} (hp : p.bytes ≠ []) (hname : Path.IsPlain name)
    (h : Leads root here p place) (hsee : root.waypoint? (place ++ [name]) = some .directory)
    (hjoin : Leads root here (p.join ⟨name⟩) there) : there = place ++ [name] := by
  obtain ⟨outer, houter, -, hplace⟩ := hjoin.of_entry (Path.entryOf_join hp hname) hname.ne_dots
  obtain rfl := houter.unique h
  exact hplace hsee

end Leads

end SuiteSplit
