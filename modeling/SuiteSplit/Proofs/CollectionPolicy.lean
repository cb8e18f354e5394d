import SuiteSplit.Proofs.RecordOrder
import SuiteSplit.Proofs.ResultsDisk

/-!
What is collected, by the policy for reports that fail. However many reports are read at the same
time and whichever read comes first, all records are given in order, or the failure of the first
failing report, or, where failing reports are left out, the records of the others. Leaving failing
reports out gives what there would be without their files.
-/

namespace SuiteSplit

open Node

namespace ReportRead

/-- The records of a report; none of one that failed. -/
def records (r : ReportRead) : List TestRecord := r.outcome.toOption.getD []

/-- Why a report failed. -/
def failure? (r : ReportRead) : Option CollectionError :=
  match r.outcome with
  | .ok _ => none
  | .error e => some e

end ReportRead

namespace Collector

variable {c : Collector} {d d' : Disk} {root : Path} {there : Location} {files : List Path}

/-! ## Putting together what was read -/

theorem foldlM_take_of_ok {reads : List ReportRead} (h : ∀ r ∈ reads, r.outcome.isOk)
    (known : Collected) :
    reads.foldlM c.take known =
      .ok { known with records := known.records ++ reads.flatMap (·.records) } := by
  induction reads generalizing known with
  | nil => simp [pure, Except.pure]
  | cons r reads ih =>
    have hr := h r List.mem_cons_self
    have hrest := fun r' hr' => h r' (List.mem_cons_of_mem r hr')
    cases houtcome : r.outcome with
    | error e => simp [houtcome, Except.isOk, Except.toBool] at hr
    | ok records =>
      have htake : c.take known r = .ok { known with records := known.records ++ records } := by
        rw [take, houtcome]
      have hrecords : r.records = records := by
        rw [ReportRead.records, houtcome]
        rfl
      rw [List.foldlM_cons, htake]
      change reads.foldlM c.take _ = _
      rw [ih hrest, List.flatMap_cons, hrecords, List.append_assoc]

theorem foldlM_take_skip (hskip : c.policy = .skip) (reads : List ReportRead) (known : Collected) :
    reads.foldlM c.take known = .ok
      { records := known.records ++ reads.flatMap (·.records),
        skipped := known.skipped ++ reads.filterMap (·.failure?) } := by
  induction reads generalizing known with
  | nil => simp [pure, Except.pure]
  | cons r reads ih =>
    have htake : c.take known r = .ok
        { records := known.records ++ r.records, skipped := known.skipped ++ r.failure?.toList } := by
      rw [take, hskip, ReportRead.records, ReportRead.failure?]
      cases r.outcome <;> simp [Except.toOption]
    rw [List.foldlM_cons, htake]
    change reads.foldlM c.take _ = _
    rw [ih, List.flatMap_cons, List.filterMap_cons, List.append_assoc, List.append_assoc]
    cases r.failure? <;> rfl

/-- Reads in the order of their paths are put together in that order. -/
theorem combine_of_sorted (h : files.Pairwise fun p q => p.precedes q) :
    c.combine (files.map d.readReport) =
      match (files.map d.readReport).foldlM c.take {} with
      | .error e => .error e
      | .ok known => .ok { known with records := TestRecord.sorted known.records } := by
  have hsorted : (files.map d.readReport).mergeSort (·.path.precedes ·.path) =
      files.map d.readReport := by
    apply List.mergeSort_of_pairwise
    rw [List.pairwise_map]
    refine h.imp ?_
    intro p q hpq
    rwa [Disk.path_readReport, Disk.path_readReport]
  cases hfold : (files.map d.readReport).foldlM c.take {} with
  | error e => rw [combine, hsorted, hfold]
  | ok known => rw [combine, hsorted, hfold]

/-- What a collector comes to with some report files, in their order. -/
structure Settled (c : Collector) (d : Disk) (files : List Path)
    (result : Except CollectionError Collected) : Prop where
  /-- All reports can be read. -/
  all_read : c.policy = .fail → ∀ records : Path → List TestRecord,
    (∀ p ∈ files, (d.readReport p).outcome = .ok (records p)) →
      result = .ok { records := TestRecord.sorted (files.flatMap records), skipped := [] }
  /-- A report fails, and the ones before it do not. -/
  first_failure : c.policy = .fail → ∀ before p after e, files = before ++ p :: after →
    (∀ q ∈ before, (d.readReport q).outcome.isOk) → (d.readReport p).outcome = .error e →
      result = .error e
  /-- Failing reports are left out, with all of their records. -/
  left_out : c.policy = .skip → result = .ok
    { records := TestRecord.sorted (files.flatMap fun p => (d.readReport p).records),
      skipped := files.filterMap fun p => (d.readReport p).failure? }

theorem settled_combine (h : files.Pairwise fun p q => p.precedes q) :
    c.Settled d files (c.combine (files.map d.readReport)) := by
  rw [combine_of_sorted h]
  refine ⟨?_, ?_, ?_⟩
  · intro _ records hread
    have hok : ∀ r ∈ files.map d.readReport, r.outcome.isOk := by
      intro r hr
      obtain ⟨p, hp, rfl⟩ := List.mem_map.mp hr
      rw [hread p hp]
      rfl
    have hrecords : (files.map d.readReport).flatMap (·.records) = files.flatMap records := by
      rw [List.flatMap_map]
      apply List.flatMap_congr
      intro p hp
      rw [ReportRead.records, hread p hp]
      rfl
    rw [foldlM_take_of_ok hok, hrecords]
    rfl
  · rintro hfail before p after e rfl hbefore he
    have hok : ∀ r ∈ before.map d.readReport, r.outcome.isOk := by
      intro r hr
      obtain ⟨q, hq, rfl⟩ := List.mem_map.mp hr
      exact hbefore q hq
    have htake (known : Collected) : c.take known (d.readReport p) = .error e := by
      rw [take, he, hfail]
    rw [List.map_append, List.map_cons, List.foldlM_append, foldlM_take_of_ok hok]
    change (match (d.readReport p :: after.map d.readReport).foldlM c.take _ with
      | .error e => _
      | .ok known => _) = _
    rw [List.foldlM_cons, htake]
    rfl
  · intro hskip
    rw [foldlM_take_skip hskip, List.flatMap_map, List.filterMap_map]
    rfl

/-! ## Collecting below a directory -/

/-- Below a directory all depends on the search and on what was read. -/
theorem run_collect_of_leads (hroot : Leads d.root d.here root there) :
    ((c.collect root).run d).1 =
      match ((findReports c.pattern root).run d).1 with
      | .error e => .error e
      | .ok files => c.combine (files.map d.readReport) := by
  obtain ⟨mode, entries, -, hfind⟩ := Disk.find_of_leads hroot
  have hstat : (Program.ask (.stat root)).run d = (.ok .directory, d) := by
    change (d.stat root, d) = _
    rw [Disk.stat, hfind]
    rfl
  have hfault : ((c.rootFault? root).run d).1 = none := by
    unfold rootFault?
    split
    · rw [Program.run_bind, hstat]
      rfl
    · rfl
  cases hfind : ((findReports c.pattern root).run d).1 with
  | error e => rw [run_collect, hfault, hfind]
  | ok files => rw [run_collect, hfault, hfind]

theorem collect_withMaxReads (c : Collector) (n : Nat) (root : Path) :
    (c.withMaxReads n).collect root = c.collect root := rfl

/-- Reports that fail have no records. -/
theorem flatMap_filter_isOk (files : List Path) :
    ((files.filter fun p => (d.readReport p).outcome.isOk).flatMap fun p => (d.readReport p).records) =
      files.flatMap fun p => (d.readReport p).records := by
  induction files with
  | nil => rfl
  | cons p files ih =>
    rw [List.filter_cons, List.flatMap_cons, ← ih]
    cases houtcome : (d.readReport p).outcome with
    | error e =>
      have hnone : (d.readReport p).records = [] := by
        rw [ReportRead.records, houtcome]
        rfl
      rw [hnone]
      rfl
    | ok records => rfl

/-- Leaving failing reports out gives the records that there are when they are taken away. -/
theorem map_records_collect_without (hd : d.root.WellNamed) (hroot : Leads d.root d.here root there)
    (hskip : c.policy = .skip) (hdirect : d.Direct c.pattern root there) (hd' : d'.root.WellNamed)
    (hwithout : d.Without (d.FailsAt c.pattern root there) d') :
    (((c.collect root).run d).1).map (·.records) =
      ((({ c with policy := .fail } : Collector).collect root).run d').1.map (·.records) := by
  have hroot' := hwithout.leads hd hroot
  rw [run_collect_of_leads hroot, run_collect_of_leads hroot']
  by_cases hopens : d.Opens root there
  · obtain ⟨files, hfiles, hfound⟩ := Disk.exists_lists c.pattern hd hroot hopens
    obtain ⟨files', hfiles', hfound'⟩ := Disk.exists_lists c.pattern hd' hroot'
      ((hwithout.opens_iff hd hroot).mpr hopens)
    obtain rfl := hfiles'.unique hd' hroot' (hwithout.lists hd hroot hdirect hfiles)
    have hread : ∀ p ∈ files.filter fun p => (d.readReport p).outcome.isOk,
        (d'.readReport p).outcome = .ok (d.readReport p).records := by
      intro p hp
      obtain ⟨m, hm, rfl⟩ := (hfiles'.mem_iff p).mp hp
      obtain ⟨hreport, records, hrecords⟩ := (hwithout.isReport_iff hd hroot hdirect).mp hm
      rw [(hwithout.keeps hd hroot hdirect hreport hrecords).2, ReportRead.records, hrecords]
      rfl
    rw [hfound, hfound']
    dsimp only
    rw [(settled_combine hfiles.sorted).left_out hskip,
      (settled_combine hfiles'.sorted).all_read rfl _ hread, flatMap_filter_isOk]
    simp only [Except.map]
  · have hopens' : ¬ d'.Opens root there := fun h => hopens ((hwithout.opens_iff hd hroot).mp h)
    rw [Disk.findReports_of_not_opens hd hroot hopens,
      Disk.findReports_of_not_opens hd' hroot' hopens']

theorem maxReads_withMaxReads_le {n : Nat} (hn : n ≤ maxPermits) :
    (c.withMaxReads n).maxReads ≤ maxPermits :=
  Nat.max_le.mpr ⟨hn, by decide⟩

/-- What is collected below a directory, whatever order the tasks go on in. With no more reads than
permits they come to an end, and to one only. Where the search can open every directory, they come to
what the policy says; otherwise to the failure of the search, whatever the policy. Leaving failing
reports out gives the records that there are without the files of those reports. -/
theorem concludes_by_policy (c : Collector) (n : Nat) (hd : d.root.WellNamed)
    (hroot : Leads d.root d.here root there) :
    (n ≤ maxPermits → ∃! result, (c.withMaxReads n).Concludes root d result) ∧
    (d.Opens root there → ∃ files, d.Lists c.pattern root there files ∧
      ∀ result, (c.withMaxReads n).Concludes root d result → c.Settled d files result) ∧
    (¬ d.Opens root there → ∀ result, (c.withMaxReads n).Concludes root d result →
      result = .error (.failed .nameTooLong)) ∧
    (c.policy = .skip → d.Direct c.pattern root there → ∀ d', d'.root.WellNamed →
      d.Without (d.FailsAt c.pattern root there) d' → ∀ m result result',
        (c.withMaxReads n).Concludes root d result →
        (({ c with policy := .fail } : Collector).withMaxReads m).Concludes root d' result' →
          result.map (·.records) = result'.map (·.records)) := by
  refine ⟨?_, ?_, ?_, ?_⟩
  · intro hn
    exact ⟨_, concludes_collect (maxReads_withMaxReads_le hn), fun _ h => h.eq_collect⟩
  · intro hopens
    obtain ⟨files, hfiles, hfound⟩ := Disk.exists_lists c.pattern hd hroot hopens
    refine ⟨files, hfiles, ?_⟩
    intro result hresult
    rw [hresult.eq_collect, collect_withMaxReads, run_collect_of_leads hroot, hfound]
    exact settled_combine hfiles.sorted
  · intro hclosed result hresult
    rw [hresult.eq_collect, collect_withMaxReads, run_collect_of_leads hroot,
      Disk.findReports_of_not_opens hd hroot hclosed]
  · intro hskip hdirect d' hd' hwithout m result result' hresult hresult'
    rw [hresult.eq_collect, hresult'.eq_collect, collect_withMaxReads, collect_withMaxReads]
    exact map_records_collect_without hd hroot hskip hdirect hd' hwithout

/-! ## Two results -/

open diskOfResults

/-- A pattern that every name matches. -/
def anyName : NamePattern := ⟨"", .empty⟩

/-- Collectors that stop at failing reports, and that leave them out. -/
def stopping : Collector := { pattern := anyName, maxReads_pos := Nat.one_pos }

def skipping : Collector := { policy := .skip, pattern := anyName, maxReads_pos := Nat.one_pos }

theorem matchesName_anyName {name : FileName} (htext : (Text.ofUtf8? name).isSome) :
    anyName.matchesName name := by
  obtain ⟨text, htext⟩ := Option.isSome_iff_exists.mp htext
  rw [NamePattern.matchesName, htext, Option.any_some, Pattern.matchesIn, anyName, Pattern.ends,
    List.any_replicate]
  simp

theorem matchesPath_anyName {n : Nat} {name : FileName} (hname : Path.IsFileName name)
    (htext : (Text.ofUtf8? name).isSome) : anyName.matchesPath ((resultsRoot n).below [name]) := by
  have hne : (resultsRoot n).bytes ≠ [] := Path.bytes_spaced_ne_nil n
  rw [Path.below_cons, Path.below_nil, anyName.matchesPath_join hne hname.toIsPlain]
  exact matchesName_anyName htext

def twoResults (first second : Node) : Disk :=
  diskOfResults [(Text.utf8 "a", first), (Text.utf8 "report", second)]

def oneResult (first : Node) : Disk := diskOfResults [(Text.utf8 "a", first)]

theorem isFileName_a : Path.IsFileName (Text.utf8 "a") := by decide

theorem isFileName_report : Path.IsFileName (Text.utf8 "report") := by decide

theorem wellNamed_oneResult {first : Node} (hfirst : first.isDirectory = false) :
    (oneResult first).root.WellNamed := by
  refine wellNamed (List.nodup_singleton _) (List.forall_mem_singleton.mpr isFileName_a) ?_
  rw [List.forall_mem_singleton]
  exact wellNamed_of_not_directory hfirst

section

variable {first second : Node} (hfirst : first.isDirectory = false)
  (hsecond : second.isDirectory = false)

include hfirst hsecond

theorem wellNamed_twoResults : (twoResults first second).root.WellNamed := by
  refine wellNamed (by decide : [Text.utf8 "a", Text.utf8 "report"].Nodup) ?_ ?_
  · exact List.forall_mem_cons.mpr ⟨isFileName_a, List.forall_mem_singleton.mpr isFileName_report⟩
  · simp only [List.forall_mem_cons]
    exact ⟨wellNamed_of_not_directory hfirst, wellNamed_of_not_directory hsecond, nofun⟩

theorem opens_twoResults {n : Nat} (h : n + 9 < pathLimit) :
    (twoResults first second).Opens (resultsRoot n) resultsPlace := by
  refine opens ?_ h
  simp only [List.forall_mem_cons]
  exact ⟨hfirst, hsecond, nofun⟩

theorem eq_of_isReport_twoResults {n : Nat} {m : Location}
    (h : (twoResults first second).IsReport anyName (resultsRoot n) resultsPlace m) :
    m = [Text.utf8 "a"] ∨ m = [Text.utf8 "report"] := by
  have hflat : ∀ e ∈ [(Text.utf8 "a", first), (Text.utf8 "report", second)], e.2.entries = [] := by
    simp [entries_of_not_directory, hfirst, hsecond]
  obtain ⟨name, f, rfl, hmem, -⟩ := exists_name_of_isReport hflat h
  simp only [List.mem_cons, Prod.mk.injEq, List.not_mem_nil, or_false] at hmem
  rcases hmem with ⟨rfl, -⟩ | ⟨rfl, -⟩
  · exact .inl rfl
  · exact .inr rfl

/-- The second result is taken away if it is the one that fails. -/
theorem without_twoResults {n : Nat} {records : List TestRecord} {e : CollectionError}
    (hread : ((twoResults first second).readReport
      ((resultsRoot n).join ⟨Text.utf8 "a"⟩)).outcome = .ok records)
    (hreport : (twoResults first second).IsReport anyName (resultsRoot n) resultsPlace
      [Text.utf8 "report"])
    (hfails : ((twoResults first second).readReport
      ((resultsRoot n).join ⟨Text.utf8 "report"⟩)).outcome = .error e) :
    (twoResults first second).Without
      ((twoResults first second).FailsAt anyName (resultsRoot n) resultsPlace)
      (oneResult first) := by
  have hgone (l : Location) :
      (twoResults first second).FailsAt anyName (resultsRoot n) resultsPlace l ↔
        l = resultsPlace ++ [Text.utf8 "report"] := by
    constructor
    · rintro ⟨m, e', rfl, h, hfailure⟩
      rcases eq_of_isReport_twoResults hfirst hsecond h with rfl | rfl
      · rw [Path.below_cons, Path.below_nil, hread] at hfailure
        cases hfailure
      · rfl
    · rintro rfl
      exact ⟨_, e, rfl, hreport, hfails⟩
  refine without (by simp [entries_of_not_directory, hfirst, hsecond]) hgone ?_
  intro name
  by_cases hname : name = Text.utf8 "report"
  · subst hname
    rfl
  · rw [if_neg hname]
    simp [List.lookup_cons, beq_eq_false_iff_ne.mpr hname]

end

/-! ## A damaged report -/

/-- A report, and another one that is the same but for a byte at its end that belongs to no text. -/
def diskWithDamage : Disk := twoResults (.file fileMode Report.nestedReport.toUTF8)
  (.file fileMode (Report.nestedReport.toUTF8.push 0xFF))

/-- What is left of it without the damaged report. -/
def diskWithoutDamage : Disk := oneResult (.file fileMode Report.nestedReport.toUTF8)

theorem ofBytes?_nestedReport :
    Report.ofBytes? Report.nestedReport.toUTF8 = some [Report.innerCase] := by
  rw [Report.ofBytes?, Text.fromUTF8?_toUTF8, Option.bind_some, Report.read_nestedReport]
  rfl

theorem leads_diskWithDamage :
    Leads diskWithDamage.root diskWithDamage.here (resultsRoot 0) resultsPlace := leads (by decide)

theorem wellNamed_diskWithDamage : diskWithDamage.root.WellNamed := wellNamed_twoResults rfl rfl

theorem isReport_a :
    diskWithDamage.IsReport anyName (resultsRoot 0) resultsPlace [Text.utf8 "a"] :=
  ⟨matchesPath_anyName isFileName_a (by decide), _, rfl, .inl rfl⟩

theorem isReport_damaged :
    diskWithDamage.IsReport anyName (resultsRoot 0) resultsPlace [Text.utf8 "report"] :=
  ⟨matchesPath_anyName isFileName_report (by decide), _, rfl, .inl rfl⟩

theorem readReport_a :
    (diskWithDamage.readReport ((resultsRoot 0).join ⟨Text.utf8 "a"⟩)).outcome =
      .ok [Report.innerCase] := by
  have hread := isReport_a.read wellNamed_diskWithDamage leads_diskWithDamage rfl (by decide)
  exact Disk.outcome_eq_ok_iff.mpr ⟨_, hread, ofBytes?_nestedReport⟩

theorem readReport_damaged :
    (diskWithDamage.readReport ((resultsRoot 0).join ⟨Text.utf8 "report"⟩)).outcome =
      .error (.unreadable ((resultsRoot 0).join ⟨Text.utf8 "report"⟩) .notText) := by
  have hread : diskWithDamage.read ((resultsRoot 0).join ⟨Text.utf8 "report"⟩) = _ :=
    isReport_damaged.read wellNamed_diskWithDamage leads_diskWithDamage rfl (by decide)
  have hnone : String.fromUTF8? (Report.nestedReport.toUTF8.push 0xFF) = none := by decide +kernel
  apply Disk.outcome_of_textOf
  simp only [hread, Program.textOf, Except.bind, hnone]

theorem lists_diskWithDamage : diskWithDamage.Lists anyName (resultsRoot 0) resultsPlace
    [(resultsRoot 0).join ⟨Text.utf8 "a"⟩, (resultsRoot 0).join ⟨Text.utf8 "report"⟩] := by
  refine ⟨?_, by decide, by decide⟩
  intro p
  constructor
  · intro hp
    simp only [List.mem_cons, List.not_mem_nil, or_false] at hp
    rcases hp with rfl | rfl
    · exact ⟨_, isReport_a, rfl⟩
    · exact ⟨_, isReport_damaged, rfl⟩
  · rintro ⟨m, hm, rfl⟩
    rcases eq_of_isReport_twoResults rfl rfl hm with rfl | rfl
    · exact List.mem_cons_self
    · exact List.mem_cons_of_mem _ List.mem_cons_self

/-- The damaged report stops the collection, or it is left out with all of its records. -/
theorem concludes_with_damage :
    diskWithDamage.root.WellNamed ∧
      Leads diskWithDamage.root diskWithDamage.here (resultsRoot 0) resultsPlace ∧ 2 ≤ maxPermits ∧
      (∃! result, (stopping.withMaxReads 2).Concludes (resultsRoot 0) diskWithDamage result) ∧
      diskWithDamage.Opens (resultsRoot 0) resultsPlace ∧ skipping.policy = .skip ∧
      diskWithDamage.Direct anyName (resultsRoot 0) resultsPlace ∧
      diskWithoutDamage.root.WellNamed ∧
      diskWithDamage.Without
        (diskWithDamage.FailsAt anyName (resultsRoot 0) resultsPlace) diskWithoutDamage ∧
      (∀ result, (stopping.withMaxReads 2).Concludes (resultsRoot 0) diskWithDamage result →
        result = .error (.unreadable ((resultsRoot 0).join ⟨Text.utf8 "report"⟩) .notText)) ∧
      ∀ result result',
        (skipping.withMaxReads 0).Concludes (resultsRoot 0) diskWithDamage result →
        (stopping.withMaxReads 3).Concludes (resultsRoot 0) diskWithoutDamage result' →
          result.map (·.records) = .ok [Report.innerCase] ∧
            result'.map (·.records) = .ok [Report.innerCase] := by
  have hd := wellNamed_diskWithDamage
  have hroot := leads_diskWithDamage
  have hopens : diskWithDamage.Opens (resultsRoot 0) resultsPlace :=
    opens_twoResults rfl rfl (by decide)
  have hdirect : diskWithDamage.Direct anyName (resultsRoot 0) resultsPlace := by
    left
    intro m hm
    rcases eq_of_isReport_twoResults rfl rfl hm with rfl | rfl <;> rfl
  have hd' : diskWithoutDamage.root.WellNamed := wellNamed_oneResult rfl
  have hwithout : diskWithDamage.Without
      (diskWithDamage.FailsAt anyName (resultsRoot 0) resultsPlace) diskWithoutDamage :=
    without_twoResults rfl rfl readReport_a isReport_damaged readReport_damaged
  obtain ⟨hends, hstopped, -, -⟩ := concludes_by_policy stopping 2 hd hroot
  obtain ⟨-, hskipped, -, hsame⟩ := concludes_by_policy skipping 0 hd hroot
  refine ⟨hd, hroot, by decide, hends (by decide), hopens, rfl, hdirect, hd', hwithout, ?_, ?_⟩
  · intro result hresult
    obtain ⟨files, hfiles, hsettled⟩ := hstopped hopens
    obtain rfl := hfiles.unique hd hroot lists_diskWithDamage
    refine (hsettled result hresult).first_failure rfl [_] _ [] _ rfl ?_ readReport_damaged
    rw [List.forall_mem_singleton, readReport_a]
    rfl
  · intro result result' hresult hresult'
    obtain ⟨files, hfiles, hsettled⟩ := hskipped hopens
    obtain rfl := hfiles.unique hd hroot lists_diskWithDamage
    have hrecords : result.map (·.records) = .ok [Report.innerCase] := by
      rw [(hsettled result hresult).left_out rfl]
      simp [Except.map, ReportRead.records, readReport_a, readReport_damaged, Except.toOption,
        TestRecord.sorted]
    refine ⟨hrecords, ?_⟩
    rw [← hrecords]
    exact (hsame rfl hdirect diskWithoutDamage hd' hwithout 3 result result' hresult hresult').symm

/-- More reads than permits come to nothing, since there are reports. -/
theorem not_concludes_diskWithDamage {result : Except CollectionError Collected} :
    ¬ (stopping.withMaxReads (maxPermits + 1)).Concludes (resultsRoot 0) diskWithDamage result := by
  obtain ⟨files, hfiles, hfound⟩ := Disk.exists_lists anyName wellNamed_diskWithDamage
    leads_diskWithDamage (opens_twoResults rfl rfl (by decide))
  obtain rfl := hfiles.unique wellNamed_diskWithDamage leads_diskWithDamage lists_diskWithDamage
  have hpermits : maxPermits < max (maxPermits + 1) 1 :=
    (Nat.lt_succ_self _).trans_le (Nat.le_max_left _ _)
  exact not_concludes rfl hfound (List.cons_ne_nil _ _) hpermits

/-! ## Paths that are too long -/

/-- A directory without any report, and with a directory in it. -/
def diskWithSuite : Disk := diskOfResults [(Text.utf8 "suite", .emptyDirectory)]

theorem wellNamed_diskWithSuite : diskWithSuite.root.WellNamed := by
  have hsuite : Path.IsFileName (Text.utf8 "suite") := by decide
  refine wellNamed (List.nodup_singleton _) (List.forall_mem_singleton.mpr hsuite) ?_
  rw [List.forall_mem_singleton]
  exact wellNamed_directory List.nodup_nil nofun nofun

theorem not_isReport_diskWithSuite {pattern : NamePattern} {root : Path} {m : Location} :
    ¬ diskWithSuite.IsReport pattern root resultsPlace m := by
  intro h
  have hflat : ∀ e ∈ [(Text.utf8 "suite", Node.emptyDirectory)], e.2.entries = [] := by
    simp [emptyDirectory, entries]
  obtain ⟨name, n, -, hmem, hkind⟩ := exists_name_of_isReport hflat h
  obtain ⟨-, rfl⟩ := Prod.mk.inj (List.mem_singleton.mp hmem)
  simp [kind, emptyDirectory] at hkind

theorem collect_diskWithSuite :
    ((stopping.collect (resultsRoot 4086)).run diskWithSuite).1 =
      .error (.failed .nameTooLong) := by
  have hroot : Leads diskWithSuite.root diskWithSuite.here (resultsRoot 4086) resultsPlace :=
    leads (by decide)
  have hlong : ¬ diskWithSuite.Opens (resultsRoot 4086) resultsPlace := by
    intro h
    have hsuite : Path.IsFileName (Text.utf8 "suite") := by decide
    have hlength := h [Text.utf8 "suite"] .emptyDirectory rfl rfl
    rw [Path.below_cons, Path.below_nil, length_join hsuite.toIsPlain] at hlength
    exact absurd hlength (by decide)
  rw [run_collect_of_leads hroot, Disk.findReports_of_not_opens wellNamed_diskWithSuite hroot hlong]

/-! ## A link to a report -/

def linkToReport : Node := .link ⟨Text.utf8 "report"⟩

/-- A report, with a link to it that has a shorter name. -/
def diskWithLink : Disk := twoResults linkToReport (.file fileMode Report.nestedReport.toUTF8)

/-- What is left of it without the report. -/
def diskWithLooseLink : Disk := oneResult linkToReport

/-- The link leads to the report, if that is there. -/
theorem walk_link {es : List (FileName × Node)}
    (hlink : es.lookup (Text.utf8 "a") = some linkToReport) :
    (diskOfResults es).walk .goal ((resultsRoot 4084).join ⟨Text.utf8 "a"⟩) =
      (diskOfResults es).root.walk .goal 39 resultsPlace [Text.utf8 "report"] := by
  have hat : (diskOfResults es).root.at? (resultsPlace ++ [Text.utf8 "a"]) = some linkToReport := by
    rw [at?_append_of_some at?_place, at?_cons, entries, hlink]
    rfl
  rw [walk_join isFileName_a (by decide), walk_singleton isFileName_a.isEntryName, hat]
  rfl

theorem leads_diskWithLink :
    Leads diskWithLink.root diskWithLink.here (resultsRoot 4084) resultsPlace := leads (by decide)

theorem find_diskWithLink :
    diskWithLink.find .goal ((resultsRoot 4084).join ⟨Text.utf8 "a"⟩) =
      .ok (resultsPlace ++ [Text.utf8 "report"],
        .file fileMode Report.nestedReport.toUTF8) := by
  have hwalk : diskWithLink.walk .goal ((resultsRoot 4084).join ⟨Text.utf8 "a"⟩) =
      diskWithLink.root.walk .goal 39 resultsPlace [Text.utf8 "report"] := walk_link rfl
  have hat : diskWithLink.root.at? (resultsPlace ++ [Text.utf8 "report"]) =
      some (.file fileMode Report.nestedReport.toUTF8) := rfl
  rw [Disk.find_eq_ok_iff, hwalk, walk_singleton isFileName_report.isEntryName, hat]

theorem isReport_link :
    diskWithLink.IsReport anyName (resultsRoot 4084) resultsPlace [Text.utf8 "a"] := by
  have hstat : diskWithLink.stat ((resultsRoot 4084).join ⟨Text.utf8 "a"⟩) = .ok .file :=
    Disk.stat_eq_ok_iff.mpr ⟨_, _, find_diskWithLink, rfl⟩
  refine ⟨matchesPath_anyName isFileName_a (by decide), linkToReport, rfl, .inr ⟨rfl, ?_⟩⟩
  rw [Path.below_cons, Path.below_nil, hstat]

theorem readReport_link :
    (diskWithLink.readReport ((resultsRoot 4084).join ⟨Text.utf8 "a"⟩)).outcome =
      .ok [Report.innerCase] := by
  have hread := Disk.read_eq_ok_iff.mpr ⟨_, _, find_diskWithLink⟩
  exact Disk.outcome_eq_ok_iff.mpr ⟨_, hread, ofBytes?_nestedReport⟩

/-- The report itself fails, since its path is too long. -/
theorem readReport_linked :
    (diskWithLink.readReport ((resultsRoot 4084).join ⟨Text.utf8 "report"⟩)).outcome =
      .error (.unreadable ((resultsRoot 4084).join ⟨Text.utf8 "report"⟩) .nameTooLong) := by
  have hlong : pathLimit ≤ 4084 + 3 + (Text.utf8 "results").length + (Text.utf8 "report").length := by
    decide
  have hfault : ((resultsRoot 4084).join ⟨Text.utf8 "report"⟩).fault? = some .nameTooLong :=
    Path.fault?_join_spaced _ isFileName_results.toIsPlain isFileName_report.toIsPlain
      isFileName_results.no_zero isFileName_report.no_zero hlong
  apply Disk.outcome_of_textOf
  rw [Disk.read, Disk.find, Disk.walk, Disk.start, hfault]
  rfl

theorem without_diskWithLink : diskWithLink.Without
    (diskWithLink.FailsAt anyName (resultsRoot 4084) resultsPlace) diskWithLooseLink := by
  have hreport : diskWithLink.IsReport anyName (resultsRoot 4084) resultsPlace
      [Text.utf8 "report"] :=
    ⟨matchesPath_anyName isFileName_report (by decide), _, rfl, .inl rfl⟩
  exact without_twoResults rfl rfl readReport_link hreport readReport_linked

theorem not_isReport_diskWithLooseLink {m : Location} :
    ¬ diskWithLooseLink.IsReport anyName (resultsRoot 4084) resultsPlace m := by
  intro h
  have hflat : ∀ e ∈ [(Text.utf8 "a", linkToReport)], e.2.entries = [] := by
    simp [linkToReport, entries]
  obtain ⟨name, n, rfl, hmem, hkind⟩ := exists_name_of_isReport hflat h
  obtain ⟨rfl, rfl⟩ := Prod.mk.inj (List.mem_singleton.mp hmem)
  have hlink : linkToReport.kind ≠ .file := by decide
  have hstat := hkind.resolve_left hlink |>.2
  obtain ⟨l, f, hfind, -⟩ := Disk.stat_eq_ok_iff.mp hstat
  have hat : (diskOfResults [(Text.utf8 "a", linkToReport)]).root.at?
      (resultsPlace ++ [Text.utf8 "report"]) = none := rfl
  rw [Path.below_cons, Path.below_nil, Disk.find_eq_ok_iff, walk_link rfl,
    walk_singleton isFileName_report.isEntryName, hat] at hfind
  cases hfind

/-- Leaving failing reports out gives the records that are read through the link. -/
theorem collect_diskWithLink :
    ∃ known, ((skipping.collect (resultsRoot 4084)).run diskWithLink).1 = .ok known ∧
      Report.innerCase ∈ known.records := by
  have hopens : diskWithLink.Opens (resultsRoot 4084) resultsPlace :=
    opens_twoResults rfl rfl (by decide)
  have hd : diskWithLink.root.WellNamed := wellNamed_twoResults rfl rfl
  obtain ⟨files, hfiles, hfound⟩ := Disk.exists_lists anyName hd leads_diskWithLink hopens
  rw [run_collect_of_leads leads_diskWithLink, show skipping.pattern = anyName from rfl, hfound]
  refine ⟨_, (settled_combine hfiles.sorted).left_out rfl, ?_⟩
  rw [TestRecord.sorted, List.mem_mergeSort, List.mem_flatMap]
  refine ⟨(resultsRoot 4084).below [Text.utf8 "a"], (hfiles.mem_iff _).mpr ⟨_, isReport_link, rfl⟩, ?_⟩
  rw [Path.below_cons, Path.below_nil, ReportRead.records, readReport_link]
  exact List.mem_cons_self

/-- Without the report there is nothing to collect. -/
theorem collect_diskWithLooseLink :
    ((stopping.collect (resultsRoot 4084)).run diskWithLooseLink).1 = .ok {} := by
  have hroot : Leads diskWithLooseLink.root diskWithLooseLink.here (resultsRoot 4084)
      resultsPlace := leads (by decide)
  have hopens : diskWithLooseLink.Opens (resultsRoot 4084) resultsPlace :=
    opens (by simp [linkToReport, isDirectory]) (by decide)
  have hd : diskWithLooseLink.root.WellNamed := wellNamed_oneResult rfl
  obtain ⟨files, hfiles, hfound⟩ := Disk.exists_lists anyName hd hroot hopens
  obtain rfl : files = [] := by
    rw [List.eq_nil_iff_forall_not_mem]
    intro p hp
    obtain ⟨m, hm, -⟩ := (hfiles.mem_iff p).mp hp
    exact not_isReport_diskWithLooseLink hm
  have hsettled : stopping.Settled diskWithLooseLink [] _ := settled_combine hfiles.sorted
  rw [run_collect_of_leads hroot, show stopping.pattern = anyName from rfl, hfound]
  refine (hsettled.all_read rfl (fun _ => []) (by simp)).trans ?_
  rw [TestRecord.sorted, List.flatMap_nil, (List.mergeSort_perm _ _).eq_nil]

/-- Paths and reads need room. A search can fail where there is no report that could, since it opens
every directory by its path; a report whose own path is too long can be read by a link, whose records
are lost when the report is taken away; and with more reads than permits nothing is collected. -/
theorem policies_fail_without_room :
    (diskWithSuite.root.WellNamed ∧
      Leads diskWithSuite.root diskWithSuite.here (resultsRoot 4086) resultsPlace ∧
      stopping.Concludes (resultsRoot 4086) diskWithSuite (.error (.failed .nameTooLong)) ∧
      ¬ ∃ files, diskWithSuite.Lists anyName (resultsRoot 4086) resultsPlace files ∧
        ∀ result, stopping.Concludes (resultsRoot 4086) diskWithSuite result →
          stopping.Settled diskWithSuite files result) ∧
    (diskWithLink.root.WellNamed ∧ diskWithLooseLink.root.WellNamed ∧
      Leads diskWithLink.root diskWithLink.here (resultsRoot 4084) resultsPlace ∧
      diskWithLink.Without (diskWithLink.FailsAt anyName (resultsRoot 4084) resultsPlace)
        diskWithLooseLink ∧
      ¬ ∀ result result', skipping.Concludes (resultsRoot 4084) diskWithLink result →
        stopping.Concludes (resultsRoot 4084) diskWithLooseLink result' →
          result.map (·.records) = result'.map (·.records)) ∧
    diskWithDamage.root.WellNamed ∧
      Leads diskWithDamage.root diskWithDamage.here (resultsRoot 0) resultsPlace ∧
      diskWithDamage.Opens (resultsRoot 0) resultsPlace ∧
      ¬ ∃ result,
        (stopping.withMaxReads (maxPermits + 1)).Concludes (resultsRoot 0) diskWithDamage result := by
  have hreads {c : Collector} (hone : c.maxReads = 1) : c.maxReads ≤ maxPermits :=
    hone.le.trans (by decide)
  have hsuite : stopping.Concludes (resultsRoot 4086) diskWithSuite
      (.error (.failed .nameTooLong)) := by
    rw [concludes_iff (hreads rfl), collect_diskWithSuite]
  have hroot : Leads diskWithSuite.root diskWithSuite.here (resultsRoot 4086) resultsPlace :=
    leads (by decide)
  refine ⟨⟨wellNamed_diskWithSuite, hroot, hsuite, ?_⟩, ⟨wellNamed_twoResults rfl rfl,
    wellNamed_oneResult rfl, leads_diskWithLink, without_diskWithLink, ?_⟩, wellNamed_diskWithDamage,
    leads_diskWithDamage, opens_twoResults rfl rfl (by decide), ?_⟩
  · rintro ⟨files, hfiles, hsettled⟩
    have hread : ∀ p ∈ files, (diskWithSuite.readReport p).outcome = .ok [] := by
      intro p hp
      obtain ⟨m, hm, -⟩ := (hfiles.mem_iff p).mp hp
      exact absurd hm not_isReport_diskWithSuite
    have hsuccess := (hsettled _ hsuite).all_read rfl (fun _ => []) hread
    cases hsuccess
  · intro h
    obtain ⟨known, hknown, hmem⟩ := collect_diskWithLink
    have hsame := h _ _ (concludes_collect (hreads rfl)) (concludes_collect (hreads rfl))
    rw [hknown, collect_diskWithLooseLink] at hsame
    obtain hrecords : known.records = [] := Except.ok.inj hsame
    rw [hrecords] at hmem
    cases hmem
  · rintro ⟨result, hresult⟩
    exact not_concludes_diskWithDamage hresult

end Collector

end SuiteSplit
