import SuiteSplit.Proofs.ReadBack
import SuiteSplit.Proofs.Removal

/-!
A directory without its failing reports. A report fails when its file cannot be read by its path, or
when what it holds is no report. Taking failing reports away changes nothing for the others, since a
report that can be read does not lead through one that fails: what a link leads to is read by the link,
so the link fails if that does. The exception is a file that fails only because its own path is too
long. It may be read by a link with a shorter path, so either no report is a link, or the paths of all
reports have room.
-/

namespace SuiteSplit

open Node

/-- The records of a report with some bytes. -/
def Report.ofBytes? (bytes : ByteArray) : Option (List TestRecord) :=
  (String.fromUTF8? bytes).bind fun text => (Report.read text).toOption

namespace Leads

variable {root : Node} {here there : Location} {p : Path}

/-- The path of a directory below a directory leads there, unless it is too long. -/
theorem below (h : Leads root here p there) {m : Location} (hm : ∀ name ∈ m, Path.IsFileName name)
    (haccepted : (p.below m).fault? = none) (hsee : root.waypoint? (there ++ m) = some .directory) :
    Leads root here (p.below m) (there ++ m) := by
  have hp : p.bytes ≠ [] := (Path.fault?_eq_none_iff.mp h.accepted).2.1
  induction m using List.reverseRecOn with
  | nil => simpa using h
  | append_singleton m name ih =>
    have hname := hm name (List.mem_append_right _ List.mem_cons_self)
    have hnames : ∀ k ∈ m, Path.IsFileName k := fun k hk => hm k (List.mem_append_left _ hk)
    have hne := Path.bytes_below_ne_nil hp hnames
    have hentry := Path.entryOf_join hne hname.toIsPlain
    rw [Path.below_concat] at haccepted ⊢
    rw [← List.append_assoc] at hsee ⊢
    obtain ⟨mode, entries, hat⟩ := waypoint?_eq_directory hsee
    have houter := waypoint?_of_below (List.cons_ne_nil name []) hat
    exact (ih hnames (hentry.accepted haccepted) houter).entry hentry hname.isEntryName haccepted hsee

end Leads

namespace Disk

variable {d d' : Disk} {pattern : NamePattern} {root p : Path} {there m : Location}
  {records : List TestRecord}

theorem path_readReport : (d.readReport p).path = p := by
  rw [readReport, Collector.readReport, Program.run_bind]
  cases ((Program.readText p).run d).1 with
  | error e => rfl
  | ok text =>
    dsimp only
    cases Report.read text <;> rfl

theorem outcome_eq_ok_iff :
    (d.readReport p).outcome = .ok records ↔
      ∃ bytes, d.read p = .ok bytes ∧ Report.ofBytes? bytes = some records := by
  rw [readReport, Collector.readReport, Program.run_bind, Program.run_readText, Program.textOf]
  cases d.read p with
  | error e => simp [Except.bind]
  | ok bytes =>
    simp only [Except.bind, Report.ofBytes?, Except.ok.injEq, exists_eq_left']
    cases String.fromUTF8? bytes with
    | none => simp
    | some text =>
      dsimp only [Option.bind_some]
      cases Report.read text <;> simp [Except.toOption]

/-- A report fails if its path does not lead to a text. -/
theorem outcome_of_textOf {e : DiskError} (h : Program.textOf (d.read p) = .error e) :
    (d.readReport p).outcome = .error (.unreadable p e) := by
  rw [readReport, Collector.readReport, Program.run_bind, Program.run_readText, h]
  rfl

/-- A report below a directory that fails. -/
def FailsAt (d : Disk) (pattern : NamePattern) (root : Path) (there l : Location) : Prop :=
  ∃ m e, l = there ++ m ∧ d.IsReport pattern root there m ∧
    (d.readReport (root.below m)).outcome = .error e

/-- The same disk, but for some places where nothing stands any more. -/
structure Without (d : Disk) (gone : Location → Prop) (d' : Disk) : Prop where
  here : d'.here = d.here
  taken : ∀ l, gone l → d'.root.at? l = none
  kept : ∀ l, ¬ gone l → (d'.root.at? l).map bare = (d.root.at? l).map bare

/-- No report is a link, or the paths of all reports have room. -/
def Direct (d : Disk) (pattern : NamePattern) (root : Path) (there : Location) : Prop :=
  (∀ m, d.IsReport pattern root there m →
    (d.root.at? (there ++ m)).map Node.kind = some .file) ∨
  ∀ m, d.IsReport pattern root there m → (root.below m).bytes.length < pathLimit

section

variable (hd : d.root.WellNamed) (hroot : Leads d.root d.here root there)

include hd hroot

/-- What is no directory stands in a directory below the root. -/
theorem exists_name_of_at? {n : Node} (hat : d.root.at? (there ++ m) = some n)
    (hnot : n.isDirectory = false) :
    ∃ outer name, m = outer ++ [name] ∧ Path.IsFileName name ∧ (∀ k ∈ outer, Path.IsFileName k) ∧
      d.root.waypoint? (there ++ outer) = some .directory := by
  obtain ⟨mode, entries, hthere⟩ := waypoint?_eq_directory hroot.directory
  have hbelow := hat
  rw [at?_append_of_some hthere] at hbelow
  have hnames := (hd.at? hthere).names hbelow
  rcases List.eq_nil_or_concat m with rfl | ⟨outer, name, rfl⟩
  · -- the root itself is a directory
    cases hbelow
    cases hnot
  · rw [List.concat_eq_append] at hat hnames ⊢
    refine ⟨outer, name, rfl, hnames _ (List.mem_append_right _ List.mem_cons_self),
      fun k hk => hnames k (List.mem_append_left _ hk), ?_⟩
    rw [← List.append_assoc] at hat
    exact waypoint?_of_below (List.cons_ne_nil _ _) hat

/-- A report stands in a directory below the root. -/
theorem IsReport.exists_name (h : d.IsReport pattern root there m) :
    ∃ outer name, m = outer ++ [name] ∧ Path.IsFileName name ∧ (∀ k ∈ outer, Path.IsFileName k) ∧
      d.root.waypoint? (there ++ outer) = some .directory := by
  obtain ⟨n, hat, hkind⟩ := h.file
  refine exists_name_of_at? hd hroot hat ?_
  cases n with
  | file mode bytes => rfl
  | link target => rfl
  | directory mode entries => simp [kind] at hkind

/-- Walking the path of a report is a step out of the directory that the report stands in. -/
theorem IsReport.walk {outer : Location} {name : FileName} {spot : Spot}
    (h : d.IsReport pattern root there (outer ++ [name]))
    (hwalk : d.walk .goal (root.below (outer ++ [name])) = .ok spot) :
    ∃ links, d.root.walk .goal links (there ++ outer) [name] = .ok spot := by
  obtain ⟨outer', name', heq, hname, hnames, hsee⟩ := h.exists_name hd hroot
  obtain ⟨rfl, hlast⟩ := List.append_inj' heq rfl
  obtain rfl : name = name' := (List.cons.inj hlast).1
  have hne : root.bytes ≠ [] := (Path.fault?_eq_none_iff.mp hroot.accepted).2.1
  rw [Path.below_concat] at hwalk
  obtain ⟨place, links, hleads, hstep⟩ :=
    leads_of_walk (Path.bytes_below_ne_nil hne hnames) hname.toIsPlain hwalk
  obtain rfl := hleads.unique (hroot.below hnames hleads.accepted hsee)
  exact ⟨links, hstep⟩

/-- A file is read by its path, unless that is too long. -/
theorem IsReport.read (h : d.IsReport pattern root there m) {mode : Nat} {bytes : ByteArray}
    (hat : d.root.at? (there ++ m) = some (.file mode bytes))
    (hroom : (root.below m).bytes.length < pathLimit) : d.read (root.below m) = .ok bytes := by
  obtain ⟨outer, name, rfl, hname, hnames, hsee⟩ := h.exists_name hd hroot
  have hne : root.bytes ≠ [] := (Path.fault?_eq_none_iff.mp hroot.accepted).2.1
  have haccepted : (root.below (outer ++ [name])).fault? = none := by
    rw [Path.fault?_below hroot.accepted (h.names hd hroot), if_pos hroom]
  rw [Path.below_concat] at haccepted ⊢
  have houter := Path.fault?_of_join (Path.bytes_below_ne_nil hne hnames) hname.toIsPlain haccepted
  rw [← List.append_assoc] at hat
  exact read_join (hroot.below hnames houter hsee) hname.toIsPlain hname.isEntryName haccepted hat

/-- What the path of a file leads to is the file. -/
theorem IsReport.eq_of_find (h : d.IsReport pattern root there m)
    (hkind : (d.root.at? (there ++ m)).map Node.kind = some .file) {l : Location} {n : Node}
    (hfind : d.find .goal (root.below m) = .ok (l, n)) : l = there ++ m := by
  obtain ⟨outer, name, rfl, hname, -, -⟩ := h.exists_name hd hroot
  obtain ⟨links, hwalk⟩ := h.walk hd hroot (find_eq_ok_iff.mp hfind)
  obtain ⟨f, hf, hkind⟩ := Option.map_eq_some_iff.mp hkind
  rw [← List.append_assoc] at hf ⊢
  cases f <;> cases hkind
  rw [walk_singleton hname.isEntryName, hf] at hwalk
  cases hwalk
  rfl

/-- A link that is a report leads to a file, whatever links were followed before it. -/
theorem IsReport.of_link (h : d.IsReport pattern root there m) {target : Path}
    (hat : d.root.at? (there ++ m) = some (.link target)) :
    ∃ l mode bytes links, d.find .goal (root.below m) = .ok (l, .file mode bytes) ∧
      d.root.walk .goal links (target.origin (there ++ m).dropLast) target.allHops =
        .ok (.found l (.file mode bytes)) := by
  obtain ⟨n, hn, hkind⟩ := h.file
  obtain rfl := Option.some.inj (hat.symm.trans hn)
  have hstat : d.stat (root.below m) = .ok .file := hkind.resolve_left nofun |>.2
  obtain ⟨l, f, hfind, hfile⟩ := stat_eq_ok_iff.mp hstat
  obtain ⟨outer, name, rfl, hname, -, -⟩ := h.exists_name hd hroot
  obtain ⟨links, hwalk⟩ := h.walk hd hroot (find_eq_ok_iff.mp hfind)
  cases f <;> cases hfile
  rw [← List.append_assoc] at hat ⊢
  rw [walk_singleton hname.isEntryName, hat] at hwalk
  cases links with
  | zero => cases hwalk
  | succ links =>
    refine ⟨l, _, _, links, hfind, ?_⟩
    rw [List.dropLast_concat]
    exact hwalk

/-- A link that fails leads to a file that holds no report. -/
theorem IsReport.of_failing_link (h : d.IsReport pattern root there m) {target : Path}
    {e : CollectionError} (hat : d.root.at? (there ++ m) = some (.link target))
    (hfails : (d.readReport (root.below m)).outcome = .error e) :
    ∃ l mode bytes links, d.root.at? l = some (.file mode bytes) ∧
      Report.ofBytes? bytes = none ∧
      d.root.walk .goal links (target.origin (there ++ m).dropLast) target.allHops =
        .ok (.found l (.file mode bytes)) := by
  obtain ⟨l, mode, bytes, links, hfind, hwalk⟩ := h.of_link hd hroot hat
  refine ⟨l, mode, bytes, links, at?_of_find hfind, ?_, hwalk⟩
  by_contra hsome
  obtain ⟨records, hrecords⟩ := Option.ne_none_iff_exists'.mp hsome
  have hread := read_eq_ok_iff.mpr ⟨_, _, hfind⟩
  rw [outcome_eq_ok_iff.mpr ⟨bytes, hread, hrecords⟩] at hfails
  cases hfails

/-- What a failing report is made of: its own place, or that of a file that holds no report. -/
def Lost (d : Disk) (pattern : NamePattern) (root : Path) (there l : Location) : Prop :=
  d.FailsAt pattern root there l ∨
    ∃ mode bytes, d.root.at? l = some (.file mode bytes) ∧ Report.ofBytes? bytes = none

/-- What is read through a failing link fails itself. -/
theorem removable_lost : d.root.Removable (d.Lost pattern root there) := by
  constructor
  · rintro l (⟨m, e, rfl, h, -⟩ | ⟨mode, bytes, hat, -⟩) hsee
    · obtain ⟨n, hn, hkind⟩ := h.file
      obtain ⟨mode, entries, hat⟩ := waypoint?_eq_directory hsee
      rw [hat] at hn
      cases hn
      simp [kind] at hkind
    · simp [waypoint?, hat, waypoint] at hsee
  · rintro l name target hlost hat links rest place n hfound
    rcases hlost with ⟨m, e, hm, h, hfails⟩ | ⟨mode, bytes, hfile, -⟩
    · rw [hm] at hat
      obtain ⟨goal, mode, bytes, links', hfile, hnone, hwalk⟩ := h.of_failing_link hd hroot hat hfails
      rw [← hm, List.dropLast_concat] at hwalk
      obtain ⟨outer, name', rfl, -, -, hsee⟩ := h.exists_name hd hroot
      rw [← List.append_assoc] at hm
      obtain rfl := (List.append_inj' hm rfl).1
      obtain rfl := eq_of_walk_append (waypoint?_origin hsee target) hwalk hfound
      exact .inr ⟨mode, bytes, hfile, hnone⟩
    · rw [hfile] at hat
      cases hat

/-- A report that does not fail leads to no place that a failing one is made of. -/
theorem IsReport.not_lost (hdirect : d.Direct pattern root there)
    (h : d.IsReport pattern root there m) {l : Location} {mode : Nat} {bytes : ByteArray}
    (hfind : d.find .goal (root.below m) = .ok (l, .file mode bytes))
    (hrecords : Report.ofBytes? bytes = some records) : ¬ d.Lost pattern root there l := by
  have hat := at?_of_find hfind
  rintro (⟨m', e, rfl, h', hfails⟩ | ⟨mode', bytes', hfile, hnone⟩)
  · have hread (hroom : (root.below m').bytes.length < pathLimit) : False := by
      rw [outcome_eq_ok_iff.mpr ⟨bytes, h'.read hd hroot hat hroom, hrecords⟩] at hfails
      cases hfails
    rcases hdirect with hfiles | hrooms
    · -- the report is the failing file itself
      have hplace := h.eq_of_find hd hroot (hfiles m h) hfind
      obtain rfl := List.append_cancel_left hplace
      rw [outcome_eq_ok_iff.mpr ⟨bytes, read_eq_ok_iff.mpr ⟨_, _, hfind⟩, hrecords⟩] at hfails
      cases hfails
    · exact hread (hrooms m' h')
  · rw [hat] at hfile
    cases hfile
    rw [hrecords] at hnone
    cases hnone

section

variable (hwithout : d.Without (d.FailsAt pattern root there) d')

include hwithout

omit hd hroot in
theorem Without.see_of_not_lost {l : Location} {n : Node} (hat : d.root.at? l = some n)
    (hl : ¬ d.Lost pattern root there l) : ∃ n', d'.root.at? l = some n' ∧ n'.bare = n.bare := by
  have hsame := hwithout.kept l fun hgone => hl (.inl hgone)
  rw [hat, Option.map_some, Option.map_eq_some_iff] at hsame
  exact hsame

omit hd hroot in
theorem Without.see {l : Location} {n : Node} (hat : d'.root.at? l = some n) :
    ¬ d.FailsAt pattern root there l ∧ ∃ n', d.root.at? l = some n' ∧ n'.bare = n.bare := by
  have hgone : ¬ d.FailsAt pattern root there l := by
    intro hgone
    rw [hwithout.taken l hgone] at hat
    cases hat
  have hsame := hwithout.kept l hgone
  rw [hat, Option.map_some, eq_comm, Option.map_eq_some_iff] at hsame
  exact ⟨hgone, hsame⟩

omit hd hroot in
/-- What is found without the failing reports was found before. -/
theorem Without.find {p : Path} {l : Location} {n : Node} (h : d'.find .goal p = .ok (l, n)) :
    ∃ n', d.find .goal p = .ok (l, n') ∧ n'.bare = n.bare := by
  have hnothing : d'.root.Removable fun _ => False := ⟨nofun, nofun⟩
  refine find_of_removable hnothing hwithout.here.symm ?_ h nofun
  intro l n hat _
  exact (hwithout.see hat).2

theorem Without.leads : Leads d'.root d'.here root there := by
  obtain ⟨mode, entries, hat, hfind⟩ := find_of_leads hroot
  have hthere : ¬ d.Lost pattern root there there := fun hlost =>
    (removable_lost hd hroot).not_directory _ hlost hroot.directory
  obtain ⟨n, hn, hbare⟩ := find_of_removable (removable_lost hd hroot) hwithout.here
    (fun l n hat hl => hwithout.see_of_not_lost hat hl) hfind hthere
  cases n <;> cases hbare
  exact leads_of_find hn

/-- The same directories can be opened. -/
theorem Without.opens_iff : d'.Opens root there ↔ d.Opens root there := by
  constructor
  · intro h l n hat hdirectory
    have hl : ¬ d.Lost pattern root there (there ++ l) := by
      intro hlost
      exact (removable_lost hd hroot).not_directory _ hlost
        (waypoint?_of_isDirectory hat hdirectory)
    obtain ⟨n', hn', hbare⟩ := hwithout.see_of_not_lost hat hl
    exact h l n' hn' (isDirectory_of_bare hbare ▸ hdirectory)
  · intro h l n hat hdirectory
    obtain ⟨-, n', hn', hbare⟩ := hwithout.see hat
    exact h l n' hn' (isDirectory_of_bare hbare ▸ hdirectory)

/-- A report that does not fail stays, and it holds the same records. -/
theorem Without.keeps (hdirect : d.Direct pattern root there) (h : d.IsReport pattern root there m)
    (hread : (d.readReport (root.below m)).outcome = .ok records) :
    d'.IsReport pattern root there m ∧ (d'.readReport (root.below m)).outcome = .ok records := by
  obtain ⟨bytes, hbytes, hrecords⟩ := outcome_eq_ok_iff.mp hread
  obtain ⟨l, mode, hfind⟩ := read_eq_ok_iff.mp hbytes
  obtain ⟨f, hfind', hfile⟩ := find_of_removable (removable_lost hd hroot) hwithout.here
    (fun l n hat hl => hwithout.see_of_not_lost hat hl) hfind
    (h.not_lost hd hroot hdirect hfind hrecords)
  cases f <;> cases hfile
  refine ⟨⟨h.named, ?_⟩, outcome_eq_ok_iff.mpr ⟨bytes, read_eq_ok_iff.mpr ⟨_, _, hfind'⟩, hrecords⟩⟩
  obtain ⟨n, hn, hkind⟩ := h.file
  have hgone : ¬ d.FailsAt pattern root there (there ++ m) := by
    rintro ⟨m', e, heq, -, hfails⟩
    obtain rfl := List.append_cancel_left heq
    rw [hread] at hfails
    cases hfails
  have hsame := hwithout.kept _ hgone
  rw [hn, Option.map_some, Option.map_eq_some_iff] at hsame
  obtain ⟨n', hn', hbare⟩ := hsame
  refine ⟨n', hn', ?_⟩
  rw [kind_of_bare hbare]
  exact hkind.imp_right fun hlink => ⟨hlink.1, stat_eq_ok_iff.mpr ⟨_, _, hfind', rfl⟩⟩

/-- The reports that are left are those that did not fail. -/
theorem Without.isReport_iff (hdirect : d.Direct pattern root there) :
    d'.IsReport pattern root there m ↔
      d.IsReport pattern root there m ∧
        ∃ records, (d.readReport (root.below m)).outcome = .ok records := by
  constructor
  · intro h
    obtain ⟨n, hn, hkind⟩ := h.file
    obtain ⟨hgone, n', hn', hbare⟩ := hwithout.see hn
    have hreport : d.IsReport pattern root there m := by
      refine ⟨h.named, n', hn', ?_⟩
      rw [kind_of_bare hbare]
      refine hkind.imp_right ?_
      rintro ⟨hlink, hstat⟩
      obtain ⟨l, f, hfind, hfile⟩ := stat_eq_ok_iff.mp hstat
      obtain ⟨f', hfind', hbare'⟩ := hwithout.find hfind
      exact ⟨hlink, stat_eq_ok_iff.mpr ⟨l, f', hfind', (kind_of_bare hbare').trans hfile⟩⟩
    refine ⟨hreport, ?_⟩
    cases houtcome : (d.readReport (root.below m)).outcome with
    | error e => exact absurd ⟨m, e, rfl, hreport, houtcome⟩ hgone
    | ok records => exact ⟨records, rfl⟩
  · rintro ⟨h, records, hread⟩
    exact (hwithout.keeps hd hroot hdirect h hread).1

/-- The list of the reports that are left. -/
theorem Without.lists (hdirect : d.Direct pattern root there) {files : List Path}
    (h : d.Lists pattern root there files) :
    d'.Lists pattern root there (files.filter fun p => (d.readReport p).outcome.isOk) := by
  refine ⟨?_, h.nodup.filter _, h.sorted.filter _⟩
  intro p
  rw [List.mem_filter, h.mem_iff]
  have hok : (d.readReport p).outcome.isOk ↔ ∃ records, (d.readReport p).outcome = .ok records := by
    cases (d.readReport p).outcome <;> simp [Except.isOk, Except.toBool]
  rw [hok]
  constructor
  · rintro ⟨⟨m, hm, rfl⟩, hread⟩
    exact ⟨m, (hwithout.isReport_iff hd hroot hdirect).mpr ⟨hm, hread⟩, rfl⟩
  · rintro ⟨m, hm, rfl⟩
    obtain ⟨hreport, hread⟩ := (hwithout.isReport_iff hd hroot hdirect).mp hm
    exact ⟨⟨m, hreport, rfl⟩, hread⟩

end

end

end Disk

end SuiteSplit
