import SuiteSplit.Command
import SuiteSplit.Proofs.WorkerSelections

/-!
The first run of a suite, when there are no results yet. A missing directory of results gives no
records, so every batch is empty, but an index is published with the batches all the same. A worker runs
everything only where there is no index, so after a first run of grouping every worker selects nothing.
-/

namespace SuiteSplit

open Publication

section

variable {s : Settings} {c : Collector} {now : Timestamp} {json : Bool} {d d' : Disk} {ending : Ending}
  {count : BatchCount}

theorem Collector.combine_nil (c : Collector) : c.combine [] = .ok {} := by
  have hsorted : ([] : List ReportRead).mergeSort (·.path.precedes ·.path) = [] :=
    (List.mergeSort_perm _ _).eq_nil
  have hrecords : TestRecord.sorted [] = [] := (List.mergeSort_perm _ _).eq_nil
  rw [Collector.combine, hsorted]
  change Except.ok ({ records := TestRecord.sorted [] } : Collected) = _
  rw [hrecords]

/-- Nothing is found below a root that is missing. -/
theorem completes_findReports {pattern : NamePattern} {root : Path}
    {result : Except CollectionError (List Path)} (hmissing : d.stat root = .error .notFound)
    (h : (findReports pattern root).Completes d result d') :
    d' = d ∧ (result = .ok [] ∨ ∃ e, result = .error e) := by
  obtain ⟨answer, d₁, hanswer, -, h⟩ := h.of_ask_bind
  have hanswer : d₁ = d ∧ ∃ e, answer = .error e := by
    cases hanswer with
    | exact => exact ⟨rfl, .notFound, hmissing⟩
    | failed _ e => exact ⟨rfl, e, rfl⟩
  obtain ⟨rfl, e, rfl⟩ := hanswer
  split at h
  · obtain ⟨rfl, rfl⟩ := h.of_pure
    exact ⟨rfl, .inl rfl⟩
  · obtain ⟨rfl, rfl⟩ := h.of_pure
    exact ⟨rfl, .inr ⟨_, rfl⟩⟩
  · cases ‹Except.error e = _›
  · cases ‹Except.error e = _›

/-- What is collected below a missing root is nothing, if it does not have to be there. -/
theorem completes_collect {root : Path} {result : Except CollectionError Collected}
    (hoptional : c.requireRoot = false) (hmissing : d.stat root = .error .notFound)
    (h : (c.collect root).Completes d result d') :
    d' = d ∧ (result = .ok {} ∨ ∃ e, result = .error e) := by
  have hfault : c.rootFault? root = pure none := by simp [Collector.rootFault?, hoptional]
  rw [Collector.collect, hfault] at h
  obtain ⟨found, d₁, hfound, hsearch⟩ := h.of_bind
  obtain ⟨rfl, rfl⟩ := hfound.of_pure
  obtain ⟨files, d₂, hfiles, hread⟩ := hsearch.of_bind
  obtain ⟨rfl, rfl | ⟨e, rfl⟩⟩ := completes_findReports hmissing hfiles
  · obtain ⟨reads, d₃, hreads, hcombine⟩ := hread.of_bind
    obtain ⟨rfl, rfl⟩ := hreads.of_pure
    obtain ⟨rfl, rfl⟩ := hcombine.of_pure
    exact ⟨rfl, .inl c.combine_nil⟩
  · obtain ⟨rfl, rfl⟩ := hread.of_pure
    exact ⟨rfl, .inr ⟨e, rfl⟩⟩

theorem Settings.prepare_eq_ok (h : s.prepare = .ok (count, c)) :
    s.batchCount = .ok count ∧ c.requireRoot = s.requireResults := by
  unfold prepare at h
  split at h
  · cases h
  · next hcount =>
    split at h
    · cases h
    · next hcollector =>
      obtain ⟨rfl, rfl⟩ := Prod.mk.inj (Except.ok.inj h)
      refine ⟨hcount, ?_⟩
      unfold Settings.collector at hcollector
      split at hcollector
      · cases hcollector
      · obtain rfl := Except.ok.inj hcollector
        cases s.maxReads <;> rfl

/-- Grouping succeeds without results only by publishing empty batches. -/
theorem completes_groupTests_missing (hmissing : d.stat s.resultsDirectory = .error .notFound)
    (hoptional : s.requireResults = false)
    (hrun : (Command.groupTests now s json).Completes d ending d')
    (hsucceeded : ending.status = .succeeded) :
    ∃ count index, s.batchCount = .ok count ∧
      (publish ManifestFormat.standard now s.outputDirectory (plan count [])).Completes d (.ok index)
        d' := by
  rw [Command.groupTests] at hrun
  cases hprepare : s.prepare with
  | error failure =>
    rw [hprepare] at hrun
    obtain ⟨rfl, -⟩ := hrun.of_pure
    cases hsucceeded
  | ok prepared =>
    obtain ⟨count, c⟩ := prepared
    obtain ⟨hcount, hrequire⟩ := Settings.prepare_eq_ok hprepare
    rw [hprepare] at hrun
    obtain ⟨collected, d₁, hcollect, hgroup⟩ := hrun.of_bind
    obtain ⟨result, d₂, hresult, hwrap⟩ := hcollect.of_bind
    obtain ⟨rfl, rfl | ⟨e, rfl⟩⟩ := completes_collect (hrequire.trans hoptional) hmissing hresult
    · obtain ⟨rfl, rfl⟩ := hwrap.of_pure
      obtain ⟨written, d₃, hpublish, hend⟩ := hgroup.of_bind
      cases written with
      | error e =>
        obtain ⟨_, d₄, hshow, hwarn⟩ := hend.of_bind
        obtain ⟨rfl, -⟩ := hshow.of_pure
        obtain ⟨rfl, -⟩ := hwarn.of_pure
        cases hsucceeded
      | ok index =>
        obtain ⟨_, d₄, hshow, hwarn⟩ := hend.of_bind
        obtain ⟨-, rfl⟩ := hshow.of_pure
        obtain ⟨-, rfl⟩ := hwarn.of_pure
        exact ⟨count, index, hcount, hpublish⟩
    · obtain ⟨rfl, rfl⟩ := hwrap.of_pure
      obtain ⟨rfl, -⟩ := hgroup.of_pure
      cases hsucceeded

theorem recordable_nil : Recordable [] := by decide

/-- The workers of an empty plan have no classes. -/
theorem resolve_plan_nil {target : Path} {index : BatchIndex} {k : Int} (hnow : now.IsValid)
    (hroom : (batchPath target count.value).bytes.length < pathLimit)
    (hrun : (publish ManifestFormat.standard now target (plan count [])).Completes d (.ok index) d')
    (hlow : 1 ≤ k) (hhigh : k ≤ count.value) :
    (resolve target k).run d' = (.ok (.classes []), d') := by
  obtain ⟨rfl, total, totals, hserves⟩ := exists_serves recordable_nil hnow hroom hrun
  have hcount : (BatchIndex.ofBatches now (plan count [])).batches = count.value :=
    length_plan count []
  rw [← hcount] at hhigh
  obtain ⟨b', hb', rfl⟩ := hserves.exists_of_number hlow hhigh
  have hresolve := hserves.run_resolve hb'
  obtain ⟨b, hb, rfl⟩ := List.mem_map.mp hb'
  have htests : b.tests = [] := by
    have hsublist := tests_sublist hb
    rw [(flatMap_tests_plan count []).eq_nil] at hsublist
    exact List.sublist_nil.mp hsublist
  have hnone : Selection.ofBatch { b with total := totals b } = .classes [] := by
    rw [Selection.ofBatch, Batch.classnames, htests]
    rfl
  rw [hresolve, hnone]

/-- After a first run of grouping, without results, every worker gets a selection, wherever the path of
the batches leaves room for the names of their files; but none of them selects any test. -/
theorem first_run_selects_nothing (hmissing : d.stat s.resultsDirectory = .error .notFound)
    (hoptional : s.requireResults = false) (hnow : now.IsValid)
    (hroom : ∀ count, s.batchCount = .ok count →
      (batchPath s.outputDirectory count.value).bytes.length < pathLimit)
    (hrun : (Command.groupTests now s json).Completes d ending d')
    (hsucceeded : ending.status = .succeeded) :
    ∃ count, s.batchCount = .ok count ∧ ∀ k : Int, 1 ≤ k → k ≤ count.value →
      ∃ selection, (resolve s.outputDirectory k).run d' = (.ok selection, d') ∧
        ∀ id, selection.selects id = false := by
  obtain ⟨count, index, hcount, hpublish⟩ :=
    completes_groupTests_missing hmissing hoptional hrun hsucceeded
  refine ⟨count, hcount, fun k hlow hhigh => ⟨.classes [], ?_, fun _ => rfl⟩⟩
  exact resolve_plan_nil hnow (hroom count hcount) hpublish hlow hhigh

theorem run_collect_missing {root : Path} (hoptional : c.requireRoot = false)
    (hmissing : d.stat root = .error .notFound) : (c.collect root).run d = (.ok {}, d) := by
  have hfault : c.rootFault? root = pure none := by simp [Collector.rootFault?, hoptional]
  have hlook : (Program.ask (.stat root)).run d = (d.stat root, d) := rfl
  have hfiles : (findReports c.pattern root).run d = (.ok [], d) := by
    rw [findReports, Program.run_bind, hlook, hmissing]
    rfl
  rw [Collector.collect, hfault, Program.run_bind, Program.run_pure]
  dsimp only
  rw [Program.run_bind, hfiles]
  dsimp only
  rw [Program.run_bind, Collector.readReports, Program.run_pure, Program.run_pure, c.combine_nil]

/-- Grouping without results publishes empty batches. -/
theorem run_groupTests_missing (hprepare : s.prepare = .ok (count, c))
    (hmissing : d.stat s.resultsDirectory = .error .notFound) (hoptional : s.requireResults = false) :
    let published := (publish ManifestFormat.standard now s.outputDirectory (plan count [])).run d
    (Command.groupTests now s json).run d =
      (match published.1 with
        | .error e => .failed e.message (e.cause?.map (·.message))
        | .ok _ => { output := Command.shown json (plan count []) 0 }, published.2) := by
  have hcollect : (Command.collect s c).run d = (.ok {}, d) := by
    rw [Command.collect, Program.run_bind,
      run_collect_missing ((Settings.prepare_eq_ok hprepare).2.trans hoptional) hmissing]
    rfl
  rw [Command.groupTests, hprepare]
  dsimp only
  rw [Program.run_bind, hcollect]
  dsimp only
  rw [Program.run_bind]
  cases ((publish ManifestFormat.standard now s.outputDirectory (plan count [])).run d).1 <;> rfl

end

/-- Settings for one batch; the results are in the usual directory, which need not be there. -/
def settingsOfOne : Settings := { batches := some 1 }

private theorem publish_threeFiles_batches (t₁ t₂ t₃ : String) (index : BatchIndex) :
    ((publishIndexed settingsOfOne.outputDirectory [("batch-1.json", t₁), ("batch-1.txt", t₂),
      ("index.json", t₃)] index).run Disk.blank).1 = .ok index := by
  cbv

private theorem isOk_prepare_settingsOfOne : settingsOfOne.prepare.isOk = true := by cbv

theorem batchCount_settingsOfOne : settingsOfOne.batchCount = .ok oneBatch := rfl

theorem stat_settingsOfOne : Disk.blank.stat settingsOfOne.resultsDirectory = .error .notFound := by
  cbv

theorem publish_settingsOfOne (now : Timestamp) :
    ((publish ManifestFormat.standard now settingsOfOne.outputDirectory (plan oneBatch [])).run
      Disk.blank).1 = .ok (BatchIndex.ofBatches now (plan oneBatch [])) := by
  rw [plan_oneBatch_nil]
  exact publish_threeFiles_batches _ _ _ _

theorem exists_prepare_settingsOfOne : ∃ c, settingsOfOne.prepare = .ok (oneBatch, c) := by
  cases hprepare : settingsOfOne.prepare with
  | error failure =>
    have hok := isOk_prepare_settingsOfOne
    rw [hprepare] at hok
    cases hok
  | ok prepared =>
    obtain ⟨count, c⟩ := prepared
    obtain rfl : oneBatch = count :=
      Except.ok.inj (batchCount_settingsOfOne.symm.trans (Settings.prepare_eq_ok hprepare).1)
    exact ⟨c, rfl⟩

/-- Grouping for one batch succeeds on a disk with nothing on it. -/
theorem group_settingsOfOne (now : Timestamp) :
    ((Command.groupTests now settingsOfOne false).run Disk.blank).1.status = .succeeded := by
  obtain ⟨c, hprepare⟩ := exists_prepare_settingsOfOne
  rw [run_groupTests_missing hprepare stat_settingsOfOne rfl, publish_settingsOfOne now]

theorem first_run_of_one :
    let run := (Command.groupTests midnight settingsOfOne false).run Disk.blank
    Disk.blank.stat settingsOfOne.resultsDirectory = .error .notFound ∧
      settingsOfOne.requireResults = false ∧ midnight.IsValid ∧
      (∀ count, settingsOfOne.batchCount = .ok count →
        (batchPath settingsOfOne.outputDirectory count.value).bytes.length < pathLimit) ∧
      (Command.groupTests midnight settingsOfOne false).Completes Disk.blank run.1 run.2 ∧
      run.1.status = .succeeded ∧
      ∃ selection, (resolve settingsOfOne.outputDirectory 1).run run.2 = (.ok selection, run.2) ∧
        selection.selects "A.x" = false := by
  intro run
  have hnow : midnight.IsValid := by decide
  have hroom : ∀ count, settingsOfOne.batchCount = .ok count →
      (batchPath settingsOfOne.outputDirectory count.value).bytes.length < pathLimit := by
    intro count hcount
    obtain rfl : oneBatch = count := Except.ok.inj (batchCount_settingsOfOne.symm.trans hcount)
    decide
  have hrun := Program.completes_run (Command.groupTests midnight settingsOfOne false) Disk.blank
  obtain ⟨count, hcount, hresolve⟩ :=
    first_run_selects_nothing stat_settingsOfOne rfl hnow hroom hrun (group_settingsOfOne midnight)
  obtain rfl : oneBatch = count := Except.ok.inj (batchCount_settingsOfOne.symm.trans hcount)
  obtain ⟨selection, hselection, hnone⟩ := hresolve 1 (by decide) (by decide)
  exact ⟨stat_settingsOfOne, rfl, hnow, hroom, hrun, group_settingsOfOne midnight, selection,
    hselection, hnone "A.x"⟩

/-- Not every worker runs everything after a first run: the only worker of one batch leaves a test
out. -/
theorem first_run_leaves_test_out :
    ∃ ending d', (Command.groupTests midnight settingsOfOne false).run Disk.blank = (ending, d') ∧
      Disk.blank.stat settingsOfOne.resultsDirectory = .error .notFound ∧
      settingsOfOne.requireResults = false ∧ ending.status = .succeeded ∧
      ∃ selection, (resolve settingsOfOne.outputDirectory 1).run d' = (.ok selection, d') ∧
        selection.selects "A.x" = false := by
  have hrun := Program.completes_run (Command.groupTests midnight settingsOfOne false) Disk.blank
  have hsucceeded := group_settingsOfOne midnight
  refine ⟨_, _, rfl, stat_settingsOfOne, rfl, hsucceeded, .classes [], ?_, rfl⟩
  obtain ⟨count, index, hcount, hpublish⟩ :=
    completes_groupTests_missing stat_settingsOfOne rfl hrun hsucceeded
  obtain rfl : oneBatch = count := Except.ok.inj (batchCount_settingsOfOne.symm.trans hcount)
  exact resolve_plan_nil (by decide) (by decide) hpublish (by decide) (by decide)

end SuiteSplit
