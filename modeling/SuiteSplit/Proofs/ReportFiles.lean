import Mathlib.Data.Set.List
import SuiteSplit.Proofs.CollectionPolicy

/-!
Which files a search gives. A file below the root is given if the pattern matches in its own name, at
any depth, and the way down to it is through directories only. A link is given by its own name, too, if
it leads to a file. Whether it does is decided by its path, so a link whose path is too long leads
nowhere, and the links in the path of the root are followed first. The files come in the order of the
names on the way down, whatever the order of the entries.

A root that is found missing has no files, and neither has one that is no directory. A root that is
looked up in vain for another reason fails the search. That is so for a root below a file, too, though
nothing can be there.
-/

namespace SuiteSplit

open Node

/-! ## The order of places -/

namespace Path

variable {p : Path} {l l' : Location}

/-- Paths below a directory are in the order of the names on the way down. -/
theorem below_precedes_iff (hp : p.bytes ≠ []) (hl : ∀ name ∈ l, IsFileName name)
    (hl' : ∀ name ∈ l', IsFileName name) : (p.below l).precedes (p.below l') ↔ l ≤ l' := by
  have hname (a b : FileName) (hab : a < b) :
      3 :: a.map UInt8.toNat < 3 :: b.map UInt8.toNat :=
    List.cons_lt_cons_self.mpr (List.map_lt (fun _ _ => UInt8.lt_iff_toNat_lt.mp) hab)
  have hkey {l l' : Location} (hlt : l < l') :
      p.key ++ l.map (fun name => 3 :: name.map UInt8.toNat) <
        p.key ++ l'.map fun name => 3 :: name.map UInt8.toNat :=
    List.append_left_lt (List.map_lt hname hlt)
  rw [precedes_iff, key_below hp hl, key_below hp hl']
  constructor
  · intro hle
    rw [← List.not_lt]
    intro hlt
    exact absurd (hkey hlt) (not_lt.mpr hle)
  · intro hle
    rcases List.le_iff_lt_or_eq.mp hle with hlt | rfl
    · exact (hkey hlt).le
    · exact le_refl _

theorem eq_of_below_eq (hp : p.bytes ≠ []) (hl : ∀ name ∈ l, IsFileName name)
    (hl' : ∀ name ∈ l', IsFileName name) (h : p.below l = p.below l') : l = l' := by
  have hhops := congrArg hops h
  rw [hops_below hp hl, hops_below hp hl'] at hhops
  exact List.append_cancel_left hhops

theorem origin_below (hp : p.bytes ≠ []) (hl : ∀ name ∈ l, IsFileName name) (here : Location) :
    (p.below l).origin here = p.origin here := by
  induction l using List.reverseRecOn with
  | nil => rfl
  | append_singleton l name ih =>
    have hname := hl name (List.mem_append_right _ List.mem_cons_self)
    have hnames : ∀ k ∈ l, IsFileName k := fun k hk => hl k (List.mem_append_left _ hk)
    rw [below_concat, ← (entryOf_join (bytes_below_ne_nil hp hnames) hname.toIsPlain).origin, ih hnames]

end Path

/-- There is a way down to a directory by the names of the directories around it. -/
theorem Node.Way.down {root : Node} {links : Nat} {here l : Location}
    (hl : ∀ name ∈ l, Path.IsFileName name) (h : root.waypoint? (here ++ l) = some .directory) :
    Way root links here l links (here ++ l) := by
  induction l generalizing here with
  | nil =>
    rw [List.append_nil]
    exact .done _ _
  | cons name l ih =>
    have hsplit : here ++ name :: l = (here ++ [name]) ++ l := by simp
    rw [hsplit] at h ⊢
    have hsee := waypoint?_of_directory (List.prefix_append _ l) h
    exact .enter (hl name List.mem_cons_self).isEntryName hsee
      (ih (fun k hk => hl k (List.mem_cons_of_mem _ hk)) h)

namespace Disk

/-- A link leads to a file: its path is not too long, and the links that may still be followed behind
the root are enough for itself and for those on the way from it to the file. -/
structure LinksToFile (d : Disk) (root : Path) (links : Nat) (there m : Location) (target : Path) :
    Prop where
  room : (root.below m).bytes.length < pathLimit
  reaches : ∃ left place mode bytes, links = left + 1 ∧
    d.root.walk .goal left (target.origin (there ++ m).dropLast) target.allHops =
      .ok (.found place (.file mode bytes))

/-- At a place below a directory there is a file, or a link that leads to one. -/
inductive FileBelow (d : Disk) (root : Path) (links : Nat) (there m : Location) : Prop
  | file {mode : Nat} {bytes : ByteArray} (hat : d.root.at? (there ++ m) = some (.file mode bytes))
  | link {target : Path} (hat : d.root.at? (there ++ m) = some (.link target))
      (hleads : d.LinksToFile root links there m target)

/-- A file to be given: the pattern matches in the last name on the way down. -/
structure Chooses (d : Disk) (pattern : NamePattern) (root : Path) (links : Nat)
    (there m : Location) : Prop where
  named : m.getLast?.any pattern.matchesName
  file : d.FileBelow root links there m

/-- What a search gives: nothing if there is no directory to search, or the chosen files of a
directory, each of them once and in the order of their places. -/
inductive Finds (d : Disk) (pattern : NamePattern) (root : Path) : List Path → Prop
  | missing (h : d.stat root = .error .notFound) : Finds d pattern root []
  | noDirectory {kind : NodeKind} (h : d.stat root = .ok kind) (hkind : kind ≠ .directory) :
      Finds d pattern root []
  | below {links : Nat} {there : Location} {places : List Location}
      (hroot : Leads d.root d.here root there)
      (hway : Way d.root maxLinks (root.origin d.here) root.hops links there)
      (hopens : d.Opens root there)
      (hplaces : ∀ m, m ∈ places ↔ d.Chooses pattern root links there m)
      (hsorted : places.Pairwise (· < ·)) (hnodup : (places.map root.below).Nodup) :
      Finds d pattern root (places.map root.below)

variable {d : Disk} {pattern : NamePattern} {root : Path} {links : Nat} {there m : Location}
  {files : List Path}

section

variable (hd : d.root.WellNamed) (hroot : Leads d.root d.here root there)
  (hway : Way d.root maxLinks (root.origin d.here) root.hops links there)

include hroot hway

/-- Walking to an entry of a directory below the root goes down from the root. -/
theorem walk_below {outer : Location} {name : FileName} (hname : Path.IsFileName name)
    (houter : ∀ k ∈ outer, Path.IsFileName k)
    (hsee : d.root.waypoint? (there ++ outer) = some .directory)
    (hroom : (root.below (outer ++ [name])).bytes.length < pathLimit) :
    d.walk .goal (root.below (outer ++ [name])) =
      d.root.walk .goal links (there ++ outer) [name] := by
  have hne : root.bytes ≠ [] := (Path.fault?_eq_none_iff.mp hroot.accepted).2.1
  have hnames : ∀ k ∈ outer ++ [name], Path.IsFileName k := by
    rw [List.forall_mem_append, List.forall_mem_singleton]
    exact ⟨houter, hname⟩
  have haccepted : (root.below (outer ++ [name])).fault? = none := by
    rw [Path.fault?_below hroot.accepted hnames, if_pos hroom]
  rw [Path.below_concat] at haccepted ⊢
  have horigin := Path.origin_below hne houter d.here
  refine walk_join hname.toIsPlain (Path.bytes_below_ne_nil hne houter) haccepted ?_ ?_
  · rw [horigin]
    exact hroot.origin
  · rw [horigin, Path.hops_below hne houter]
    exact hway.append (.down houter hsee)

include hd

theorem stat_link_iff {target : Path} (hat : d.root.at? (there ++ m) = some (.link target)) :
    d.stat (root.below m) = .ok .file ↔ d.LinksToFile root links there m target := by
  obtain ⟨outer, name, rfl, hname, houter, hsee⟩ := exists_name_of_at? hd hroot hat rfl
  have hwalk := walk_below hroot hway hname houter hsee
  have hstands : (there ++ (outer ++ [name])).dropLast = there ++ outer := by
    rw [← List.append_assoc, List.dropLast_concat]
  rw [← List.append_assoc] at hat
  rw [stat_eq_ok_iff]
  constructor
  · rintro ⟨place, n, hfind, hkind⟩
    have hfound := find_eq_ok_iff.mp hfind
    have hroom := (Path.fault?_eq_none_iff.mp (walk_eq_ok_iff.mp hfound).1).2.2
    rw [hwalk hroom, walk_singleton hname.isEntryName, hat] at hfound
    cases n <;> cases hkind
    cases links with
    | zero => cases hfound
    | succ left => exact ⟨hroom, left, place, _, _, rfl, hstands.symm ▸ hfound⟩
  · rintro ⟨hroom, left, place, mode, bytes, rfl, hfound⟩
    rw [hstands] at hfound
    refine ⟨place, .file mode bytes, find_eq_ok_iff.mpr ?_, rfl⟩
    rw [hwalk hroom, walk_singleton hname.isEntryName, hat]
    exact hfound

theorem isReport_iff_chooses :
    d.IsReport pattern root there m ↔ d.Chooses pattern root links there m := by
  have hne : root.bytes ≠ [] := (Path.fault?_eq_none_iff.mp hroot.accepted).2.1
  -- the name that the pattern is matched against is the last one on the way down
  have hnamed {n : Node} (hat : d.root.at? (there ++ m) = some n) (hnot : n.isDirectory = false) :
      pattern.matchesPath (root.below m) = m.getLast?.any pattern.matchesName := by
    obtain ⟨outer, name, rfl, hname, houter, -⟩ := exists_name_of_at? hd hroot hat hnot
    rw [Path.below_concat, List.getLast?_concat, Option.any_some]
    exact pattern.matchesPath_join (Path.bytes_below_ne_nil hne houter) hname.toIsPlain
  constructor
  · rintro ⟨hmatch, n, hat, hkind⟩
    cases n with
    | file mode bytes => exact ⟨hnamed hat rfl ▸ hmatch, .file hat⟩
    | link target =>
      have hstat : d.stat (root.below m) = .ok .file := (hkind.resolve_left nofun).2
      exact ⟨hnamed hat rfl ▸ hmatch, .link hat ((stat_link_iff hd hroot hway hat).mp hstat)⟩
    | directory mode entries => simp [kind] at hkind
  · rintro ⟨hmatch, hfile⟩
    cases hfile with
    | file hat => exact ⟨hnamed hat rfl ▸ hmatch, _, hat, .inl rfl⟩
    | link hat hleads =>
      have hstat := (stat_link_iff hd hroot hway hat).mpr hleads
      exact ⟨hnamed hat rfl ▸ hmatch, _, hat, .inr ⟨rfl, hstat⟩⟩

/-- The reports in the order of their paths are the chosen files in the order of their places. -/
theorem Lists.finds (hopens : d.Opens root there) (h : d.Lists pattern root there files) :
    d.Finds pattern root files := by
  have hne : root.bytes ≠ [] := (Path.fault?_eq_none_iff.mp hroot.accepted).2.1
  have hrange : files ∈ Set.range (List.map fun m : {m // d.IsReport pattern root there m} =>
      root.below m.1) := by
    rw [Set.range_list_map]
    intro p hp
    obtain ⟨m, hm, rfl⟩ := (h.mem_iff p).mp hp
    exact ⟨⟨m, hm⟩, rfl⟩
  obtain ⟨reports, rfl⟩ := hrange
  have hfiles : reports.map (fun m => root.below m.1) = (reports.map (·.1)).map root.below := by
    rw [List.map_map]
    rfl
  have hnodup := h.nodup
  rw [hfiles] at hnodup ⊢
  refine .below hroot hway hopens ?_ ?_ hnodup
  · intro m
    rw [← isReport_iff_chooses hd hroot hway, List.mem_map]
    constructor
    · rintro ⟨m, -, rfl⟩
      exact m.2
    · intro hm
      obtain ⟨m', hm', hsame⟩ := List.mem_map.mp ((h.mem_iff _).mpr ⟨m, hm, rfl⟩)
      exact ⟨m', hm', Path.eq_of_below_eq hne (m'.2.names hd hroot) (hm.names hd hroot) hsame⟩
  · rw [List.pairwise_map]
    refine ((List.pairwise_map.mp h.sorted).and (List.pairwise_map.mp h.nodup)).imp ?_
    rintro m m' ⟨hle, hdiffers⟩
    rw [Path.below_precedes_iff hne (m.2.names hd hroot) (m'.2.names hd hroot)] at hle
    refine (List.le_iff_lt_or_eq.mp hle).resolve_right ?_
    intro hsame
    exact hdiffers (congrArg root.below hsame)

/-- The chosen files in the order of their places are the reports in the order of their paths. -/
theorem lists_of_places {places : List Location}
    (hplaces : ∀ m, m ∈ places ↔ d.Chooses pattern root links there m)
    (hsorted : places.Pairwise (· < ·)) (hnodup : (places.map root.below).Nodup) :
    d.Lists pattern root there (places.map root.below) := by
  have hne : root.bytes ≠ [] := (Path.fault?_eq_none_iff.mp hroot.accepted).2.1
  have hreport {m : Location} : m ∈ places ↔ d.IsReport pattern root there m :=
    (hplaces m).trans (isReport_iff_chooses hd hroot hway).symm
  refine ⟨?_, hnodup, ?_⟩
  · intro p
    rw [List.mem_map]
    exact exists_congr fun m => and_congr hreport eq_comm
  · rw [List.pairwise_map]
    refine hsorted.imp_of_mem ?_
    intro m m' hm hm' hlt
    have hnames {m : Location} (hm : m ∈ places) := (hreport.mp hm).names hd hroot
    exact (Path.below_precedes_iff hne (hnames hm) (hnames hm')).mpr
      (List.le_iff_lt_or_eq.mpr (.inl hlt))

end

theorem run_findReports_of_stat (h : d.stat root ≠ .ok .directory) :
    ((findReports pattern root).run d).1 =
      match d.stat root with
      | .error .notFound => .ok []
      | .error e => .error (.failed e)
      | .ok _ => .ok [] := by
  have hask : (Program.ask (.stat root)).run d = (d.stat root, d) := rfl
  rw [findReports, Program.run_bind, hask]
  cases hstat : d.stat root with
  | error e => cases e <;> rfl
  | ok kind =>
    cases kind with
    | file => rfl
    | link => rfl
    | directory => exact absurd hstat h

/-- A search gives the chosen files of the directory that the root leads to, each of them once and in
order, and nothing where there is no directory to search. In every other case it fails. -/
theorem findReports_eq_ok_iff (pattern : NamePattern) (root : Path) (hd : d.root.WellNamed) :
    ((findReports pattern root).run d).1 = .ok files ↔ d.Finds pattern root files := by
  constructor
  · intro hrun
    by_cases hstat : d.stat root = .ok .directory
    · obtain ⟨there, n, hfind, hkind⟩ := stat_eq_ok_iff.mp hstat
      cases n <;> cases hkind
      have hroot := leads_of_find hfind
      obtain ⟨links, hway⟩ := hroot.way
      have hopens : d.Opens root there := by
        by_contra hnot
        rw [findReports_of_not_opens hd hroot hnot] at hrun
        cases hrun
      obtain ⟨found, hlists, hfound⟩ := exists_lists pattern hd hroot hopens
      rw [hfound] at hrun
      cases hrun
      exact hlists.finds hd hroot hway hopens
    · rw [run_findReports_of_stat hstat] at hrun
      split at hrun
      · next hmissing =>
        cases hrun
        exact .missing hmissing
      · cases hrun
      · next hother =>
        cases hrun
        exact .noDirectory hother fun hkind => hstat (hkind ▸ hother)
  · intro h
    cases h with
    | missing hmissing => rw [run_findReports_of_stat (by simp [hmissing]), hmissing]
    | noDirectory hother hkind => rw [run_findReports_of_stat (by simp [hother, hkind]), hother]
    | below hroot hway hopens hplaces hsorted hnodup =>
      obtain ⟨found, hlists, hfound⟩ := exists_lists pattern hd hroot hopens
      rw [hfound, hlists.unique hd hroot (lists_of_places hd hroot hway hplaces hsorted hnodup)]

/-! ## A link to a report -/

open diskOfResults Collector

/-- The link is given as well as the report that it leads to. -/
theorem findReports_diskWithLink :
    diskWithLink.root.WellNamed ∧
      ((findReports anyName (resultsRoot 0)).run diskWithLink).1 =
        .ok [(resultsRoot 0).join ⟨Text.utf8 "a"⟩, (resultsRoot 0).join ⟨Text.utf8 "report"⟩] := by
  have hd : diskWithLink.root.WellNamed := wellNamed_twoResults rfl rfl
  have hroot : Leads diskWithLink.root diskWithLink.here (resultsRoot 0) resultsPlace :=
    leads (by decide)
  have hway : Way diskWithLink.root maxLinks ((resultsRoot 0).origin diskWithLink.here)
      (resultsRoot 0).hops maxLinks resultsPlace := way_resultsRoot 0
  have hlink : diskWithLink.LinksToFile (resultsRoot 0) maxLinks resultsPlace [Text.utf8 "a"]
      ⟨Text.utf8 "report"⟩ := by
    refine ⟨by decide, 39, resultsPlace ++ [Text.utf8 "report"], fileMode,
      Report.nestedReport.toUTF8, rfl, ?_⟩
    exact (walk_singleton isFileName_report.isEntryName).trans rfl
  have hnamed {name : FileName} (htext : (Text.ofUtf8? name).isSome) :
      [name].getLast?.any anyName.matchesName := matchesName_anyName htext
  have hfinds : diskWithLink.Finds anyName (resultsRoot 0)
      ([[Text.utf8 "a"], [Text.utf8 "report"]].map (resultsRoot 0).below) := by
    refine .below hroot hway (opens_twoResults rfl rfl (by decide)) ?_ (by decide) (by decide)
    intro m
    constructor
    · intro hm
      simp only [List.mem_cons, List.not_mem_nil, or_false] at hm
      rcases hm with rfl | rfl
      · exact ⟨hnamed (by decide), .link rfl hlink⟩
      · exact ⟨hnamed (by decide), .file rfl⟩
    · intro hm
      rcases eq_of_isReport_twoResults rfl rfl ((isReport_iff_chooses hd hroot hway).mpr hm)
        with rfl | rfl
      · exact List.mem_cons_self
      · exact List.mem_cons_of_mem _ List.mem_cons_self
  exact ⟨hd, (findReports_eq_ok_iff anyName (resultsRoot 0) hd).mpr hfinds⟩

/-- Paths are looked up by the system. Nothing can stand below a file, so a root there is as good as
missing; but its path is refused as one through a file and not as one to nothing, and the search takes
only the latter for no files and fails. And a link to a file is left out if its own path is too long. -/
theorem findReports_of_unreachable :
    (diskWithLink.stat ((resultsRoot 0).below [Text.utf8 "report", Text.utf8 "a"]) =
        .error .notDirectory ∧
      ((findReports anyName
          ((resultsRoot 0).below [Text.utf8 "report", Text.utf8 "a"])).run diskWithLink).1 =
        .error (.failed .notDirectory)) ∧
    Leads diskWithLink.root diskWithLink.here (resultsRoot 4085) resultsPlace ∧
      anyName.matchesName (Text.utf8 "a") ∧
      diskWithLink.root.at? (resultsPlace ++ [Text.utf8 "a"]) = some linkToReport ∧
      diskWithLink.root.walk .goal maxLinks resultsPlace [Text.utf8 "a"] =
        .ok (.found (resultsPlace ++ [Text.utf8 "report"])
          (.file fileMode Report.nestedReport.toUTF8)) ∧
      ∃ files, ((findReports anyName (resultsRoot 4085)).run diskWithLink).1 = .ok files ∧
        (resultsRoot 4085).below [Text.utf8 "a"] ∉ files := by
  have hd : diskWithLink.root.WellNamed := wellNamed_twoResults rfl rfl
  have hroot : Leads diskWithLink.root diskWithLink.here (resultsRoot 4085) resultsPlace :=
    leads (by decide)
  have hway : Way diskWithLink.root maxLinks ((resultsRoot 4085).origin diskWithLink.here)
      (resultsRoot 4085).hops maxLinks resultsPlace := way_resultsRoot 4085
  have hstat : diskWithLink.stat ((resultsRoot 0).below [Text.utf8 "report", Text.utf8 "a"]) =
      .error .notDirectory := by
    have hstart : diskWithLink.start ((resultsRoot 0).below [Text.utf8 "report", Text.utf8 "a"]) =
        .ok [Text.utf8 "work"] := start_eq_ok_iff.mpr ⟨by decide, by decide, rfl⟩
    have hhops : ((resultsRoot 0).below [Text.utf8 "report", Text.utf8 "a"]).allHops =
        [Path.dot, Text.utf8 "results"] ++ [Text.utf8 "report", Text.utf8 "a"] := by decide
    have hfile : diskWithLink.root.walk .goal maxLinks resultsPlace
        [Text.utf8 "report", Text.utf8 "a"] = .error .notDirectory :=
      (walk_name .goal isFileName_report.isEntryName nofun).trans rfl
    have hwalk : diskWithLink.walk .goal ((resultsRoot 0).below [Text.utf8 "report", Text.utf8 "a"]) =
        .error .notDirectory := by
      rw [Disk.walk, hstart, hhops]
      exact (way.walk_append (.inl rfl)).trans hfile
    rw [stat, find, hwalk]
    rfl
  refine ⟨⟨hstat, ?_⟩, hroot, matchesName_anyName (by decide), rfl, ?_, ?_⟩
  · rw [run_findReports_of_stat (by rw [hstat]; simp), hstat]
  · have hlast : diskWithLink.root.walk .goal 39 resultsPlace [Text.utf8 "report"] = _ :=
      walk_singleton isFileName_report.isEntryName
    exact (walk_singleton isFileName_a.isEntryName).trans hlast
  · obtain ⟨files, hlists, hrun⟩ := exists_lists anyName hd hroot
      (opens_twoResults rfl rfl (by decide))
    refine ⟨files, hrun, ?_⟩
    intro hmem
    obtain ⟨m, hm, hsame⟩ := (hlists.mem_iff _).mp hmem
    obtain rfl := Path.eq_of_below_eq (Path.bytes_spaced_ne_nil 4085)
      (List.forall_mem_singleton.mpr isFileName_a) (hm.names hd hroot) hsame
    cases ((isReport_iff_chooses hd hroot hway).mp hm).file with
    | file hat => cases hat
    | link _ hleads =>
      have hroom := hleads.room
      rw [Path.below_cons, Path.below_nil, length_join isFileName_a.toIsPlain] at hroom
      exact absurd hroom (by decide)

end Disk

end SuiteSplit
