import SuiteSplit.Proofs.FirstRun
import SuiteSplit.Proofs.ReadPool
import SuiteSplit.Proofs.Restoring

/-!
What grouping leaves on the disk. Settings, the number of batches, the pattern for reports and the
results are all looked at before the first call that changes anything, so whatever is wrong with them
the disk is as it was. Only publishing is left then, and it is all or nothing.
-/

namespace SuiteSplit

open Program Publication

variable {env : Environment} {now : Timestamp} {s : Settings} {json : Bool} {d d' : Disk}
  {events : List Event} {ending : Ending}

/-! ## What only looks -/

namespace Settings

theorem observes_load (env : Environment) (p : Path) :
    Observes (fun _ => True) (fun _ => True) (load env p) := by
  refine (Observes.readText p).bind fun text _ => ?_
  cases text with
  | error e => exact .pure trivial
  | ok text =>
    dsimp only
    split <;> exact .pure trivial

theorem observes_loadFor (env : Environment) (file : Option Path) :
    Observes (fun _ => True) (fun _ => True) (loadFor env file) := by
  unfold loadFor loadOrDefault
  split
  · exact observes_load env _
  · have hpresent : Observes (fun _ => True) (fun _ => True)
        (isPresent (file.getD (.ofString fileName))) :=
      (Observes.stat _).bind fun _ _ => .pure trivial
    refine hpresent.bind fun there _ => ?_
    split
    · exact observes_load env _
    · exact .pure trivial

/-- The number of batches is the one that is asked for. -/
theorem batches_eq_of_batchCount {count : BatchCount} (h : s.batchCount = .ok count) :
    s.batches = some (count.value : Int) := by
  unfold batchCount at h
  split at h
  · cases h
  · next n hn =>
    unfold BatchCount.ofInt at h
    split at h
    · next hrange =>
      cases h
      rw [hn, Int.toNat_of_nonneg hrange.1.le]
    · cases h

end Settings

namespace Collector

theorem observes_readReports (files : List Path) :
    Observes (fun _ => True) (fun _ => True) (readReports files) := by
  induction files with
  | nil => exact .pure trivial
  | cons p files ih =>
    refine (observes_readReport p).bind fun r _ => ?_
    exact ih.bind fun _ _ => .pure trivial

theorem observes_collect (c : Collector) (root : Path) :
    Observes (fun _ => True) (fun _ => True) (c.collect root) := by
  refine (c.observes_rootFault? root).bind fun fault _ => ?_
  cases fault with
  | some e => exact .pure trivial
  | none =>
    refine (observes_findReports c.pattern root).bind fun found _ => ?_
    cases found with
    | error e => exact .pure trivial
    | ok files => exact (observes_readReports files).bind fun _ _ => .pure trivial

end Collector

/-! ## Runs of grouping -/

/-- No directory for one user was made under the target's own name. -/
def Undrawn (target : Path) (events : List Event) : Prop :=
  ∀ name, target.fileName? = some name →
    ∀ event ∈ events, event.drawn? ≠ some (target.directory.join ⟨name⟩)

/-- What becomes of the target of a publication that fails: it is as it was, unless moving it back has
failed, and where no call fails without a reason there is what was there wherever it leads. -/
structure SetBack (now : Timestamp) (target : Path) (bs : List Batch) (d : Disk) (events : List Event)
    (e : ManifestError) (d' : Disk) : Prop where
  undone : Undone d target events d'
  untouched : (publish ManifestFormat.standard now target bs).Faithful d events (.done (.error e)) d' →
    Untouched d target d'

/-- The target holds the files of batches, and nothing else. -/
def HoldsBatches (now : Timestamp) (target : Path) (bs : List Batch) (d : Disk) : Prop :=
  ∃ l n, d.place? target = some l ∧ d.root.at? l = some n ∧
    HoldsFiles (manifestFiles ManifestFormat.standard (BatchIndex.ofBatches now bs) bs) n

/-- How grouping ends, by the first thing that is wrong, and what it leaves on the disk. -/
inductive Grouped (now : Timestamp) (s : Settings) (json : Bool) (d : Disk) :
    List Event → Ending → Disk → Prop
  /-- No number of batches is given, or it is not positive. -/
  | uncounted {e : CountError} (hcount : s.batchCount = .error e) :
      Grouped now s json d [] (.failed e.message) d
  /-- The pattern for the names of reports is invalid. -/
  | unmatched {count : BatchCount} {e : CollectionError} (hcount : s.batchCount = .ok count)
      (hcollector : s.collector = .error e) : Grouped now s json d [] (.failed e.message) d
  /-- Results are missing, unreadable or malformed. -/
  | uncollected {count : BatchCount} {c : Collector} {events : List Event} {e : CollectionError}
      (hcount : s.batchCount = .ok count) (hcollector : s.collector = .ok c)
      (hcollect : (c.collect s.resultsDirectory).Reaches d events (.done (.error e)) d) :
      Grouped now s json d events (.failed
        s!"Failed to collect test results from {s.resultsDirectory.display}" (some e.message)) d
  /-- The batches cannot be written. -/
  | unwritten {count : BatchCount} {c : Collector} {looks writes : List Event}
      {collected : Collected} {e : ManifestError} {d' : Disk} (hcount : s.batchCount = .ok count)
      (hcollector : s.collector = .ok c)
      (hcollect : (c.collect s.resultsDirectory).Reaches d looks (.done (.ok collected)) d)
      (hpublish : (publish ManifestFormat.standard now s.outputDirectory
        (plan count collected.records)).Reaches d writes (.done (.error e)) d')
      (hsetBack : s.outputDirectory.fileName?.isSome → Undrawn s.outputDirectory writes →
        SetBack now s.outputDirectory (plan count collected.records) d writes e d') :
      Grouped now s json d (looks ++ writes)
        ((Ending.failed e.message (e.cause?.map (·.message))).warned collected.warnings) d'
  /-- The batches are written. -/
  | written {count : BatchCount} {c : Collector} {looks writes : List Event} {collected : Collected}
      {index : BatchIndex} {d' : Disk} (hbatches : s.batches = some (count.value : Int))
      (hpositive : 1 ≤ count.value) (hcollector : s.collector = .ok c)
      (hcollect : (c.collect s.resultsDirectory).Reaches d looks (.done (.ok collected)) d)
      (hpublish : (publish ManifestFormat.standard now s.outputDirectory
        (plan count collected.records)).Reaches d writes (.done (.ok index)) d')
      (hholds : s.outputDirectory.fileName?.isSome → Undrawn s.outputDirectory writes →
        HoldsBatches now s.outputDirectory (plan count collected.records) d') :
      Grouped now s json d (looks ++ writes)
        (Ending.warned collected.warnings
          { output := Command.shown json (plan count collected.records) collected.records.length }) d'

theorem setBack_of_reaches {target : Path} {bs : List Batch} {e : ManifestError}
    (hrun : (publish ManifestFormat.standard now target bs).Reaches d events (.done (.error e)) d')
    (hname : target.fileName?.isSome) (hundrawn : Undrawn target events) :
    SetBack now target bs d events e d' := by
  obtain ⟨name, hname⟩ := Option.isSome_iff_exists.mp hname
  refine ⟨((always_publish hname d).of_reaches hrun (hundrawn name hname)).2, fun hfaithful => ?_⟩
  exact (honestly_publish hname d).of_faithful hfaithful (hundrawn name hname) e rfl

theorem holdsBatches_of_reaches {target : Path} {bs : List Batch} {index : BatchIndex}
    (hrun : (publish ManifestFormat.standard now target bs).Reaches d events (.done (.ok index)) d')
    (hname : target.fileName?.isSome) (hundrawn : Undrawn target events) :
    HoldsBatches now target bs d' := by
  obtain ⟨name, hname⟩ := Option.isSome_iff_exists.mp hname
  obtain ⟨-, -, directory, hpublished⟩ :=
    (always_publish hname d).of_reaches hrun (hundrawn name hname)
  obtain ⟨n, hat, hn⟩ := hpublished.holds
  refine ⟨directory ++ [name], n, Disk.place?_eq_some_iff.mpr ?_, hat, hn⟩
  exact ⟨name, directory, hname, hpublished.here_eq ▸ hpublished.leads, rfl⟩

theorem grouped_of_reaches (hrun : (Command.groupTests now s json).Reaches d events (.done ending) d') :
    Grouped now s json d events ending d' := by
  rw [Command.groupTests] at hrun
  cases hcount : s.batchCount with
  | error e =>
    rw [Settings.prepare, hcount] at hrun
    obtain ⟨rfl, rfl, rfl⟩ := hrun.of_pure
    exact .uncounted hcount
  | ok count =>
    cases hcollector : s.collector with
    | error e =>
      rw [Settings.prepare, hcount, hcollector] at hrun
      obtain ⟨rfl, rfl, rfl⟩ := hrun.of_pure
      exact .unmatched hcount hcollector
    | ok c =>
      rw [Settings.prepare, hcount, hcollector] at hrun
      obtain ⟨_, writes, result, d₁, rfl, hlook, hwrite⟩ := hrun.of_bind
      obtain ⟨looks, _, found, d₂, rfl, hcollect, hwrap⟩ := hlook.of_bind
      obtain ⟨rfl, -⟩ := (c.observes_collect s.resultsDirectory).of_reaches hcollect
      cases found with
      | error e =>
        obtain ⟨rfl, rfl, rfl⟩ := hwrap.of_pure
        obtain ⟨rfl, rfl, rfl⟩ := hwrite.of_pure
        rw [List.append_nil, List.append_nil]
        exact .uncollected hcount hcollector hcollect
      | ok collected =>
        obtain ⟨rfl, rfl, rfl⟩ := hwrap.of_pure
        obtain ⟨writes, _, result, d₃, rfl, hpublish, hend⟩ := hwrite.of_bind
        rw [List.append_nil]
        cases result with
        | error e =>
          obtain ⟨_, _, _, d₄, rfl, hshow, hwarn⟩ := hend.of_bind
          obtain ⟨rfl, rfl, rfl⟩ := hshow.of_pure
          obtain ⟨rfl, rfl, rfl⟩ := hwarn.of_pure
          rw [List.append_nil, List.append_nil]
          exact .unwritten hcount hcollector hcollect hpublish (setBack_of_reaches hpublish)
        | ok index =>
          obtain ⟨_, _, _, d₄, rfl, hshow, hwarn⟩ := hend.of_bind
          obtain ⟨rfl, rfl, rfl⟩ := hshow.of_pure
          obtain ⟨rfl, rfl, rfl⟩ := hwarn.of_pure
          rw [List.append_nil, List.append_nil]
          exact .written (Settings.batches_eq_of_batchCount hcount) count.pos hcollector hcollect
            hpublish (holdsBatches_of_reaches hpublish)

/-- A run of the command for grouping changes nothing on the disk before its settings are loaded and the
results are collected, and then all or nothing is published. -/
theorem group_publishes_plan_or_nothing {i : Invocation} {o : GroupOptions}
    (hcommand : i.command = .group o)
    (hrun : (i.perform env now).Reaches d events (.done ending) d') :
    (∃ e, (Settings.loadFor env i.settingsFile).Reaches d events (.done (.error e)) d ∧
      ending = .failed e.message (some e.cause) ∧ d' = d) ∨
    ∃ loads rest s, events = loads ++ rest ∧
      (Settings.loadFor env i.settingsFile).Reaches d loads (.done (.ok s)) d ∧
      Grouped now (s.withGroupOptions o) o.json d rest ending d' := by
  rw [Invocation.perform, hcommand] at hrun
  obtain ⟨loads, rest, result, d₁, rfl, hload, hrest⟩ := hrun.of_bind
  obtain ⟨rfl, -⟩ := (Settings.observes_loadFor env i.settingsFile).of_reaches hload
  cases result with
  | error e =>
    obtain ⟨rfl, rfl, rfl⟩ := hrest.of_pure
    rw [List.append_nil]
    exact .inl ⟨e, hload, rfl, rfl⟩
  | ok s => exact .inr ⟨loads, rest, s, rfl, hload, grouped_of_reaches hrest⟩

/-! ## Runs that fail in the writer -/

/-- A run of grouping from runs of its parts. -/
theorem reaches_groupTests {count : BatchCount} {c : Collector} {looks writes : List Event}
    {collected : Collected} {e : ManifestError} (hprepare : s.prepare = .ok (count, c))
    (hcollect : (c.collect s.resultsDirectory).Reaches d looks (.done (.ok collected)) d)
    (hpublish : (publish ManifestFormat.standard now s.outputDirectory
      (plan count collected.records)).Reaches d writes (.done (.error e)) d') :
    ∃ events, (Command.groupTests now s json).Reaches d events
      (.done ((Ending.failed e.message (e.cause?.map (·.message))).warned collected.warnings)) d' := by
  have hfound : (Command.collect s c).Reaches d (looks ++ []) (.done (.ok collected)) d := by
    rw [Command.collect]
    exact hcollect.bind (.start _ _)
  rw [Command.groupTests, hprepare]
  exact ⟨_, hfound.bind (hpublish.bind (.start _ _))⟩

/-- Grouping into one batch, with the usual settings but for the target. -/
def groupOne (target : String) : Invocation where
  settingsFile := none
  verbose := false
  command := .group { outputDirectory := some (.ofString target), batches := some 1 }

/-- The settings that are used then, where no file gives others. -/
def settingsFor (target : String) : Settings :=
  { settingsOfOne with outputDirectory := .ofString target }

theorem run_loadFor_diskWithOldFiles :
    (Settings.loadFor ⟨[]⟩ none).run diskWithOldFiles = (.ok {}, diskWithOldFiles) := by
  cbv

theorem stat_diskWithOldFiles :
    diskWithOldFiles.stat settingsOfOne.resultsDirectory = .error .notFound := by
  cbv

theorem read_groupOne :
    CommandLine.read ⟨[]⟩ ["group", "-n", "1", "--output-dir", "out/../out"] =
      .ok (groupOne "out/../out") := by
  cbv

/-- Errors of the calls of a publication of one batch, whose files cannot take the place of the previous
ones. -/
def faultsOfInstall : List (Option DiskError) :=
  List.replicate 10 none ++ some (.other 5 "Input/output error") :: List.replicate 3 none

section

/-! The bytes of the files do not matter for what follows. -/

variable (t₁ t₂ t₃ : String) (index : BatchIndex)

private theorem error_through_target :
    ((publishIndexed (Path.ofString "out/../out") [("batch-1.json", t₁), ("batch-1.txt", t₂),
      ("index.json", t₃)] index).run diskWithOldFiles).1 =
        .error (.unwritable (Path.ofString "out/../out") .notFound) := by
  cbv

private theorem gone_through_target :
    ((publishIndexed (Path.ofString "out/../out") [("batch-1.json", t₁), ("batch-1.txt", t₂),
      ("index.json", t₃)] index).run diskWithOldFiles).2.root.at?
        [Text.utf8 "work", Text.utf8 "out"] = none := by
  cbv

private theorem done_of_faultsOfInstall :
    ((publishIndexed (Path.ofString "out") [("batch-1.json", t₁), ("batch-1.txt", t₂),
      ("index.json", t₃)] index).trial faultsOfInstall diskWithOldFiles).2.1 =
        .done (.error (.unwritable (Path.ofString "out") (.other 5 "Input/output error"))) := by
  cbv

private theorem place_of_faultsOfInstall :
    ((publishIndexed (Path.ofString "out") [("batch-1.json", t₁), ("batch-1.txt", t₂),
      ("index.json", t₃)] index).trial faultsOfInstall diskWithOldFiles).2.2.root.at?
        [Text.utf8 "work", Text.utf8 "out"] =
      diskWithOldFiles.root.at? [Text.utf8 "work", Text.utf8 "out"] := by
  cbv

end

/-- Where no batches can be put in the place of the previous ones, grouping fails and these are back. -/
theorem group_set_back :
    let i := groupOne "out"
    let o : GroupOptions := { outputDirectory := some (.ofString "out"), batches := some 1 }
    let place : Location := [Text.utf8 "work", Text.utf8 "out"]
    let e : ManifestError := .unwritable (.ofString "out") (.other 5 "Input/output error")
    ∃ events ending d', i.command = .group o ∧
      (i.perform ⟨[]⟩ midnight).Reaches diskWithOldFiles events (.done ending) d' ∧
      ending = .failed e.message (e.cause?.map (·.message)) ∧
      d'.root.at? place = diskWithOldFiles.root.at? place ∧
      ((∃ e, (Settings.loadFor ⟨[]⟩ i.settingsFile).Reaches diskWithOldFiles events (.done (.error e))
          diskWithOldFiles ∧ ending = .failed e.message (some e.cause) ∧ d' = diskWithOldFiles) ∨
        ∃ loads rest s, events = loads ++ rest ∧
          (Settings.loadFor ⟨[]⟩ i.settingsFile).Reaches diskWithOldFiles loads (.done (.ok s))
            diskWithOldFiles ∧
          Grouped midnight (s.withGroupOptions o) o.json diskWithOldFiles rest ending d') := by
  intro i o place e
  obtain ⟨c, hprepare⟩ := exists_prepare_settingsOfOne
  have hprepare : (settingsFor "out").prepare = .ok (oneBatch, c) := hprepare
  obtain ⟨loads, hload⟩ := reaches_run (Settings.loadFor ⟨[]⟩ none) diskWithOldFiles
  obtain ⟨looks, hcollect⟩ := reaches_run (c.collect settingsOfOne.resultsDirectory) diskWithOldFiles
  rw [run_loadFor_diskWithOldFiles] at hload
  rw [run_collect_missing (Settings.prepare_eq_ok hprepare).2 stat_diskWithOldFiles] at hcollect
  obtain ⟨t₁, t₂, t₃, hfiles⟩ := publish_eq_threeFiles midnight (.ofString "out")
  have hpublish := reaches_trial faultsOfInstall (publish ManifestFormat.standard midnight
    (.ofString "out") (plan oneBatch [])) diskWithOldFiles
  rw [hfiles, done_of_faultsOfInstall, ← hfiles] at hpublish
  have hplace := place_of_faultsOfInstall t₁ t₂ t₃ (BatchIndex.ofBatches midnight (plan oneBatch []))
  rw [← hfiles] at hplace
  obtain ⟨rest, hgroup⟩ := reaches_groupTests hprepare hcollect hpublish
  have hrun : (i.perform ⟨[]⟩ midnight).Reaches diskWithOldFiles (loads ++ rest) _ _ :=
    hload.bind hgroup
  exact ⟨_, _, _, rfl, hrun, rfl, hplace, group_publishes_plan_or_nothing rfl hrun⟩

/-- Grouping fails as publishing does, where there are no settings and no results. -/
theorem run_groupOne_error {target : String} {e : ManifestError}
    (hpublish : (publish ManifestFormat.standard midnight (.ofString target) (plan oneBatch [])).run
      diskWithOldFiles = (.error e, d')) :
    ((groupOne target).perform ⟨[]⟩ midnight).run diskWithOldFiles =
      (.failed e.message (e.cause?.map (·.message)), d') := by
  obtain ⟨c, hprepare⟩ := exists_prepare_settingsOfOne
  have hprepare : (settingsFor target).prepare = .ok (oneBatch, c) := hprepare
  have hgroup : (Command.groupTests midnight (settingsFor target) false).run diskWithOldFiles = _ :=
    run_groupTests_missing hprepare stat_diskWithOldFiles rfl
  change (Settings.loadFor ⟨[]⟩ none >>= _).run diskWithOldFiles = _
  rw [Program.run_bind, run_loadFor_diskWithOldFiles]
  refine hgroup.trans ?_
  rw [show (settingsFor target).outputDirectory = .ofString target from rfl, hpublish]

/-- A target whose path goes through it cannot be moved back: once it is moved aside the path leads
nowhere, and grouping fails with the previous batches gone from their place. -/
theorem failed_group_moves_target_away :
    let target := Path.ofString "out/../out"
    let place : Location := [Text.utf8 "work", Text.utf8 "out"]
    let e : ManifestError := .unwritable target .notFound
    let run := ((groupOne "out/../out").perform ⟨[]⟩ midnight).run diskWithOldFiles
    CommandLine.read ⟨[]⟩ ["group", "-n", "1", "--output-dir", "out/../out"] =
        .ok (groupOne "out/../out") ∧
      run.1 = .failed e.message (e.cause?.map (·.message)) ∧
      diskWithOldFiles.place? target = some place ∧
      (diskWithOldFiles.root.at? place).isSome ∧ run.2.root.at? place = none := by
  dsimp only
  obtain ⟨t₁, t₂, t₃, hfiles⟩ := publish_eq_threeFiles midnight (.ofString "out/../out")
  have herror := error_through_target t₁ t₂ t₃ (BatchIndex.ofBatches midnight (plan oneBatch []))
  have hgone := gone_through_target t₁ t₂ t₃ (BatchIndex.ofBatches midnight (plan oneBatch []))
  rw [← hfiles] at herror hgone
  rcases hpublish : (publish ManifestFormat.standard midnight (.ofString "out/../out")
    (plan oneBatch [])).run diskWithOldFiles with ⟨result, d'⟩
  rw [hpublish] at herror hgone
  obtain rfl : result = _ := herror
  rw [run_groupOne_error hpublish]
  exact ⟨read_groupOne, rfl, by cbv, by cbv, hgone⟩

end SuiteSplit
