import SuiteSplit.Collection.Search
import SuiteSplit.Proofs.WellNamed
import SuiteSplit.Proofs.ReadPool

/-!
What a search finds. The report files below a directory are the files, and the links to files, whose
paths match the pattern, at any depth. The search gives each of them once, in the order of their paths,
unless the path of some directory below is too long to open that directory.
-/

namespace SuiteSplit

open Node

/-! ## The order of paths -/

namespace Path

/-- The segments of a path as numbers, which is what the order compares. -/
def key (p : Path) : List (List Nat) := p.rankedSegments.map fun (rank, s) => rank :: s.map UInt8.toNat

theorem precedes_iff {p q : Path} : p.precedes q ↔ p.key ≤ q.key := by
  change (compareOfLessAndEq p.key q.key).isLE ↔ p.key ≤ q.key
  exact isLE_compareOfLessAndEq le_antisymm not_le le_total

theorem pairwise_mergeSort (files : List Path) :
    (files.mergeSort precedes).Pairwise fun p q => p.precedes q := by
  apply List.pairwise_mergeSort
  · intro p q r hpq hqr
    exact precedes_iff.mpr ((precedes_iff.mp hpq).trans (precedes_iff.mp hqr))
  · intro p q
    rw [Bool.or_eq_true, precedes_iff, precedes_iff]
    exact le_total _ _

variable {p : Path} {name : FileName} {l l' : Location}

theorem front_join (hp : p.bytes ≠ []) (hname : IsPlain name) : (p.join ⟨name⟩).front = p.front := by
  rw [front, front, isAbsolute_join hp hname]
  split
  · rfl
  · obtain ⟨b, bs, hbytes⟩ := List.exists_cons_of_ne_nil hp
    rcases bytes_join hp hname with ⟨hjoin, hslash⟩ | hjoin
    · rw [hjoin, hbytes]
      rw [hbytes] at hslash
      cases bs with
      | nil =>
        obtain rfl : b = slash := by simpa using hslash
        simp [dot, slash]
      | cons b' bs => simp [dot, slash]
    · rw [hjoin, hbytes]
      cases bs with
      | nil =>
        by_cases hb : b = 0x2E <;> simp [dot, slash, hb]
      | cons b' bs => simp [dot, slash]

/-- A plain name that is joined to a path is the name of the file. -/
theorem fileName?_join (hp : p.bytes ≠ []) (hname : IsPlain name) :
    (p.join ⟨name⟩).fileName? = some name :=
  fileName?_of_names (entryOf_join hp hname).names hname.ne_dots

theorem key_join (hp : p.bytes ≠ []) (hname : IsPlain name) :
    (p.join ⟨name⟩).key = p.key ++ [3 :: name.map UInt8.toNat] := by
  rw [key, key, rankedSegments, rankedSegments, front_join hp hname, (entryOf_join hp hname).names]
  simp [hname.ne_dots]

theorem key_below (hp : p.bytes ≠ []) (hl : ∀ name ∈ l, IsFileName name) :
    (p.below l).key = p.key ++ l.map fun name => 3 :: name.map UInt8.toNat := by
  induction l generalizing p with
  | nil => simp
  | cons name l ih =>
    have hname := hl name List.mem_cons_self
    rw [below_cons, ih (bytes_join_ne_nil hp hname.toIsPlain) fun k hk =>
      hl k (List.mem_cons_of_mem _ hk), key_join hp hname.toIsPlain, List.append_assoc]
    rfl

/-- No two paths below a directory are equal in the order. -/
theorem below_antisymm (hp : p.bytes ≠ []) (hl : ∀ name ∈ l, IsFileName name)
    (hl' : ∀ name ∈ l', IsFileName name) (h : (p.below l).precedes (p.below l'))
    (h' : (p.below l').precedes (p.below l)) : p.below l = p.below l' := by
  have hkey := le_antisymm (precedes_iff.mp h) (precedes_iff.mp h')
  rw [key_below hp hl, key_below hp hl'] at hkey
  have hbytes : Function.Injective fun name : FileName => 3 :: name.map UInt8.toNat := by
    intro a b hab
    exact (List.map_injective_iff.mpr fun _ _ => UInt8.toNat_inj.mp) (List.cons.inj hab).2
  rw [List.map_injective_iff.mpr hbytes (List.append_cancel_left hkey)]

end Path

namespace NamePattern

variable (pattern : NamePattern)

/-- The name is text in which the pattern matches. -/
def matchesName (name : FileName) : Bool :=
  (Text.ofUtf8? name).any fun text => pattern.pattern.matchesIn text.toList

/-- A pattern is matched against the name of the file only. -/
theorem matchesPath_join {p : Path} {name : FileName} (hp : p.bytes ≠ []) (hname : Path.IsPlain name) :
    pattern.matchesPath (p.join ⟨name⟩) = pattern.matchesName name := by
  rw [matchesPath, Path.fileName?_join hp hname]
  rfl

end NamePattern

/-! ## Going through a tree -/

theorem Listing.directoriesIn_eq (p : Path) (es : List (FileName × Node)) :
    directoriesIn p (listEntries es) =
      es.flatMap fun e => directories (p.join ⟨e.1⟩) e.2.listing := by
  induction es with
  | nil => rfl
  | cons e es ih => rw [listEntries, directoriesIn, ih, List.flatMap_cons]

theorem Candidate.ofEntries_eq (pattern : NamePattern) (p : Path) (es : List (FileName × Node)) :
    ofEntries pattern p (listEntries es) =
      es.flatMap fun e => ofListing pattern (p.join ⟨e.1⟩) e.2.listing := by
  induction es with
  | nil => rfl
  | cons e es ih => rw [listEntries, ofEntries, ih, List.flatMap_cons]

namespace Node

variable {n : Node} {p q : Path} {pattern : NamePattern}

/-- What stands below a node stands in one of its entries. -/
theorem exists_at?_iff (h : WellNamed n) {P : Location → Node → Prop} :
    (∃ l m, n.at? l = some m ∧ P l m) ↔
      P [] n ∨ ∃ e ∈ n.entries, ∃ l m, e.2.at? l = some m ∧ P (e.1 :: l) m := by
  constructor
  · rintro ⟨l, m, hat, hP⟩
    cases l with
    | nil =>
      obtain rfl : n = m := Option.some.inj hat
      exact .inl hP
    | cons name l =>
      rw [at?_cons, Option.bind_eq_some_iff] at hat
      obtain ⟨inner, hlookup, hrest⟩ := hat
      exact .inr ⟨(name, inner), (lookup_eq_some_iff_mem h.nodup).mp hlookup, l, m, hrest, hP⟩
  · rintro (hP | ⟨e, he, l, m, hat, hP⟩)
    · exact ⟨[], n, rfl, hP⟩
    · refine ⟨e.1 :: l, m, ?_, hP⟩
      rw [at?_cons, (lookup_eq_some_iff_mem h.nodup).mpr he]
      exact hat

/-- The directories that a search opens. -/
theorem mem_directories (h : WellNamed n) :
    q ∈ n.listing.directories p ↔
      ∃ l m, n.at? l = some m ∧ m.isDirectory ∧ q = p.below l := by
  induction n using entries_induction generalizing p with
  | step n ih =>
    rw [exists_at?_iff h]
    cases n with
    | file mode bytes => simp [listing, Listing.directories, isDirectory, entries]
    | link target => simp [listing, Listing.directories, isDirectory, entries]
    | directory mode es =>
      rw [listing, Listing.directories, Listing.directoriesIn_eq, List.mem_cons, List.mem_flatMap]
      refine or_congr (by simp [isDirectory]) (exists_congr fun e => and_congr_right fun he => ?_)
      exact ih e he (h.entry he)

/-- The files and links that a search takes by their names. -/
theorem mem_ofListing (h : WellNamed n) {c : Candidate} :
    c ∈ Candidate.ofListing pattern p n.listing ↔
      ∃ l m, n.at? l = some m ∧ m.isDirectory = false ∧ pattern.matchesPath (p.below l) ∧
        c = ⟨p.below l, m.kind = .link⟩ := by
  induction n using entries_induction generalizing p with
  | step n ih =>
    rw [exists_at?_iff h]
    cases n with
    | file mode bytes =>
      simp [listing, Candidate.ofListing, Candidate.ofPath, isDirectory, entries, kind]
    | link target =>
      simp [listing, Candidate.ofListing, Candidate.ofPath, isDirectory, entries, kind]
    | directory mode es =>
      rw [listing, Candidate.ofListing, Candidate.ofEntries_eq, List.mem_flatMap]
      simp only [isDirectory, Bool.true_eq_false, false_and, false_or]
      refine exists_congr fun e => and_congr_right fun he => ?_
      exact ih e he (h.entry he)

/-- No path is taken twice. -/
theorem nodup_paths_ofListing (h : WellNamed n) (hp : p.bytes ≠ []) :
    ((Candidate.ofListing pattern p n.listing).map (·.path)).Nodup := by
  induction n using entries_induction generalizing p with
  | step n ih =>
    cases n with
    | file mode bytes =>
      rw [listing, Candidate.ofListing, Candidate.ofPath]
      split <;> simp
    | link target =>
      rw [listing, Candidate.ofListing, Candidate.ofPath]
      split <;> simp
    | directory mode es =>
      rw [listing, Candidate.ofListing, Candidate.ofEntries_eq, List.map_flatMap, List.nodup_flatMap]
      refine ⟨fun e he => ?_, ?_⟩
      · exact ih e he (h.entry he) (Path.bytes_join_ne_nil hp (h.isFileName he).toIsPlain)
      · -- the first name below the directory tells the entry
        have hfirst {e : FileName × Node} (he : e ∈ es) {q : Path}
            (hq : q ∈ (Candidate.ofListing pattern (p.join ⟨e.1⟩) e.2.listing).map (·.path)) :
            ∃ l, q.hops = p.hops ++ e.1 :: l := by
          obtain ⟨c, hc, rfl⟩ := List.mem_map.mp hq
          obtain ⟨l, m, hat, -, -, rfl⟩ := (mem_ofListing (h.entry he)).mp hc
          have hname := h.isFileName he
          refine ⟨l, ?_⟩
          rw [Path.hops_below (Path.bytes_join_ne_nil hp hname.toIsPlain) ((h.entry he).names hat),
            Path.hops_join hp hname.toIsPlain, List.append_assoc]
          rfl
        have hnodup : es.Pairwise fun a b => a.1 ≠ b.1 := List.pairwise_map.mp h.nodup
        refine hnodup.imp_of_mem ?_
        intro a b ha hb hne q hqa hqb
        obtain ⟨l, hl⟩ := hfirst ha hqa
        obtain ⟨l', hl'⟩ := hfirst hb hqb
        rw [hl] at hl'
        exact hne (List.cons.inj (List.append_cancel_left hl')).1

end Node

/-! ## What is found -/

namespace Candidate

/-- The candidate is a file on a disk, or a link that leads to one there. -/
def isFileOn (d : Disk) (c : Candidate) : Bool := !c.isLink || d.stat c.path = .ok .file

theorem run_isFile (c : Candidate) (d : Disk) : c.isFile.run d = (c.isFileOn d, d) := by
  unfold isFile isFileOn
  split
  · next hlink =>
    have hask : (Program.ask (.stat c.path)).run d = (d.stat c.path, d) := rfl
    rw [Program.run_bind, hask, hlink]
    split
    · next h => simp [show d.stat c.path = .ok .file from h]
    · next h => simp [show ¬ d.stat c.path = .ok .file from h]
  · next hfile => simp [hfile]

theorem run_files (cs : List Candidate) (d : Disk) :
    (files cs).run d = ((cs.filter (·.isFileOn d)).map (·.path), d) := by
  induction cs with
  | nil => rfl
  | cons c cs ih =>
    rw [files, Program.run_bind, run_isFile, Program.run_bind, ih, List.filter_cons]
    cases c.isFileOn d <;> rfl

end Candidate

namespace Disk

/-- A report below a directory: a file, or a link that leads to one, whose path matches. -/
structure IsReport (d : Disk) (pattern : NamePattern) (root : Path) (there m : Location) : Prop where
  named : pattern.matchesPath (root.below m)
  file : ∃ n, d.root.at? (there ++ m) = some n ∧
    (n.kind = .file ∨ n.kind = .link ∧ d.stat (root.below m) = .ok .file)

/-- All the reports below a directory, each of them once, in the order of their paths. -/
structure Lists (d : Disk) (pattern : NamePattern) (root : Path) (there : Location)
    (files : List Path) : Prop where
  mem_iff : ∀ p, p ∈ files ↔ ∃ m, d.IsReport pattern root there m ∧ p = root.below m
  nodup : files.Nodup
  sorted : files.Pairwise fun p q => p.precedes q

/-- Every directory below has a path that it can be opened by. -/
def Opens (d : Disk) (root : Path) (there : Location) : Prop :=
  ∀ m n, d.root.at? (there ++ m) = some n → n.isDirectory → (root.below m).bytes.length < pathLimit

variable {d d' : Disk} {pattern : NamePattern} {root : Path} {there : Location}

theorem IsReport.names (hd : d.root.WellNamed) (hroot : Leads d.root d.here root there) {m : Location}
    (h : d.IsReport pattern root there m) : ∀ name ∈ m, Path.IsFileName name := by
  obtain ⟨mode, entries, hat, -⟩ := find_of_leads hroot
  obtain ⟨n, hn, -⟩ := h.file
  rw [at?_append_of_some hat] at hn
  exact (hd.at? hat).names hn

/-- There is one list of the reports. -/
theorem Lists.unique (hd : d.root.WellNamed) (hroot : Leads d.root d.here root there)
    {files files' : List Path} (h : d.Lists pattern root there files)
    (h' : d.Lists pattern root there files') : files = files' := by
  have hne : root.bytes ≠ [] := (Path.fault?_eq_none_iff.mp hroot.accepted).2.1
  have hperm : files.Perm files' := by
    rw [List.perm_ext_iff_of_nodup h.nodup h'.nodup]
    intro p
    rw [h.mem_iff, h'.mem_iff]
  refine hperm.eq_of_pairwise ?_ h.sorted h'.sorted
  intro p q hp hq
  obtain ⟨m, hm, rfl⟩ := (h.mem_iff p).mp hp
  obtain ⟨m', hm', rfl⟩ := (h'.mem_iff q).mp hq
  exact Path.below_antisymm hne (hm.names hd hroot) (hm'.names hd hroot)

/-- What the search does below a directory. -/
theorem run_findReports {mode : Nat} {entries : List (FileName × Node)}
    (hfind : d.find .goal root = .ok (there, .directory mode entries)) :
    (findReports pattern root).run d =
      (match (Listing.directoriesIn root (listEntries entries)).findSome? Path.fault? with
        | some e => .error (.failed e)
        | none => .ok ((((Candidate.ofListing pattern root (directory mode entries).listing).filter
            (·.isFileOn d)).map (·.path)).mergeSort Path.precedes), d) := by
  have hstat : (Program.ask (.stat root)).run d = (.ok .directory, d) := by
    change (d.stat root, d) = _
    rw [stat, hfind]
    rfl
  have hlist : (Program.ask (.list root)).run d = (.ok (listEntries entries), d) := by
    change (d.list root, d) = _
    rw [list, hfind]
    rfl
  rw [findReports, Program.run_bind, hstat]
  dsimp only
  rw [Program.run_bind, hlist]
  dsimp only
  cases (Listing.directoriesIn root (listEntries entries)).findSome? Path.fault? with
  | some e => rfl
  | none =>
    dsimp only
    rw [Program.run_bind, Candidate.run_files]
    rfl

/-- The paths of the directories below can only be too long. -/
theorem fault?_of_mem_directoriesIn (hd : d.root.WellNamed)
    (hroot : Leads d.root d.here root there) {mode : Nat} {entries : List (FileName × Node)}
    (hat : d.root.at? there = some (.directory mode entries)) {q : Path}
    (hq : q ∈ Listing.directories root (directory mode entries).listing) :
    ∃ m n, d.root.at? (there ++ m) = some n ∧ n.isDirectory ∧ q = root.below m ∧
      q.fault? = if q.bytes.length < pathLimit then none else some .nameTooLong := by
  obtain ⟨m, n, hn, hdirectory, rfl⟩ := (mem_directories (hd.at? hat)).mp hq
  refine ⟨m, n, ?_, hdirectory, rfl, Path.fault?_below hroot.accepted ((hd.at? hat).names hn)⟩
  rw [at?_append_of_some hat, hn]

/-- A search fails where the path of a directory is too long. -/
theorem findReports_of_not_opens (hd : d.root.WellNamed) (hroot : Leads d.root d.here root there)
    (h : ¬ d.Opens root there) :
    ((findReports pattern root).run d).1 = .error (.failed .nameTooLong) := by
  obtain ⟨mode, entries, hat, hfind⟩ := find_of_leads hroot
  rw [run_findReports hfind]
  have hmem {q : Path} (hq : q ∈ Listing.directoriesIn root (listEntries entries)) :=
    fault?_of_mem_directoriesIn hd hroot hat (List.mem_cons_of_mem root hq)
  cases hfault : (Listing.directoriesIn root (listEntries entries)).findSome? Path.fault? with
  | some e =>
    obtain ⟨q, hq, he⟩ := List.exists_of_findSome?_eq_some hfault
    obtain ⟨-, -, -, -, -, hlong⟩ := hmem hq
    rw [he] at hlong
    split_ifs at hlong
    cases hlong
    rfl
  | none =>
    refine absurd ?_ h
    intro m n hn hdirectory
    rw [at?_append_of_some hat] at hn
    have hq : root.below m ∈ Listing.directories root (directory mode entries).listing :=
      (mem_directories (hd.at? hat)).mpr ⟨m, n, hn, hdirectory, rfl⟩
    have hnone : (root.below m).fault? = none := by
      rcases List.mem_cons.mp hq with heq | hq
      · rw [heq]
        exact hroot.accepted
      · exact List.findSome?_eq_none_iff.mp hfault _ hq
    exact (Path.fault?_eq_none_iff.mp hnone).2.2

/-- A search that can open every directory gives all the reports. -/
theorem exists_lists (pattern : NamePattern) (hd : d.root.WellNamed)
    (hroot : Leads d.root d.here root there) (h : d.Opens root there) :
    ∃ files, d.Lists pattern root there files ∧ ((findReports pattern root).run d).1 = .ok files := by
  have hne : root.bytes ≠ [] := (Path.fault?_eq_none_iff.mp hroot.accepted).2.1
  obtain ⟨mode, entries, hat, hfind⟩ := find_of_leads hroot
  have hnone : (Listing.directoriesIn root (listEntries entries)).findSome? Path.fault? = none := by
    rw [List.findSome?_eq_none_iff]
    intro q hq
    obtain ⟨m, n, hn, hdirectory, rfl, hfault⟩ :=
      fault?_of_mem_directoriesIn hd hroot hat (List.mem_cons_of_mem root hq)
    rw [hfault, if_pos (h m n hn hdirectory)]
  have hperm := List.mergeSort_perm (((Candidate.ofListing pattern root
    (directory mode entries).listing).filter (·.isFileOn d)).map (·.path)) Path.precedes
  refine ⟨_, ⟨?_, ?_, Path.pairwise_mergeSort _⟩, by rw [run_findReports hfind, hnone]⟩
  · intro p
    rw [hperm.mem_iff, List.mem_map]
    constructor
    · rintro ⟨c, hc, rfl⟩
      rw [List.mem_filter] at hc
      obtain ⟨m, n, hn, hnot, hnamed, rfl⟩ := (mem_ofListing (hd.at? hat)).mp hc.1
      refine ⟨m, ⟨hnamed, n, ?_, ?_⟩, rfl⟩
      · rw [at?_append_of_some hat, hn]
      · cases n with
        | file mode bytes => exact .inl rfl
        | link target =>
          right
          simpa [Candidate.isFileOn, kind] using hc.2
        | directory mode es => cases hnot
    · rintro ⟨m, ⟨hnamed, n, hn, hfile⟩, rfl⟩
      rw [at?_append_of_some hat] at hn
      refine ⟨⟨root.below m, n.kind = .link⟩, List.mem_filter.mpr ⟨?_, ?_⟩, rfl⟩
      · refine (mem_ofListing (hd.at? hat)).mpr ⟨m, n, hn, ?_, hnamed, rfl⟩
        cases n with
        | file mode bytes => rfl
        | link target => rfl
        | directory mode es => simp [kind] at hfile
      · rcases hfile with hfile | ⟨-, hstat⟩
        · simp [Candidate.isFileOn, hfile]
        · simp [Candidate.isFileOn, hstat]
  · refine hperm.nodup_iff.mpr ?_
    exact (nodup_paths_ofListing (hd.at? hat) hne).sublist (List.filter_sublist.map _)

end Disk

end SuiteSplit
