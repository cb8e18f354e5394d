import SuiteSplit.Proofs.PublishedPlan
import SuiteSplit.Proofs.Selection

/-!
What the workers of a published plan select. Each one gets the classes of its own batch. A class stands
in a single batch, so no pattern is given out twice, and together the workers have one for every class.
-/

namespace SuiteSplit

open Publication

namespace Batch

theorem nodup_classnames (b : Batch) : b.classnames.Nodup := ClassGroup.nodup_eraseDups _

end Batch

section

variable {count : BatchCount} {records : List TestRecord} {b c : Batch}

/-- Two batches of a plan that have a class in common are the same. -/
theorem eq_of_mem_classnames {classname : String} (hb : b ∈ plan count records)
    (hc : c ∈ plan count records) (hmemb : classname ∈ b.classnames)
    (hmemc : classname ∈ c.classnames) : b = c := by
  obtain ⟨t, ht, rfl⟩ := Batch.mem_classnames.mp hmemb
  obtain ⟨u, hu, hsame⟩ := Batch.mem_classnames.mp hmemc
  have htr : t ∈ records :=
    (flatMap_tests_plan count records).subset (List.mem_flatMap.mpr ⟨b, hb, ht⟩)
  obtain ⟨holder, -, -, hothers⟩ := plan_class_whole count htr
  have hbholder : b = holder := by
    by_contra hne
    exact hothers b hb hne t ht rfl
  have hcholder : c = holder := by
    by_contra hne
    exact hothers c hc hne u hu hsame
  rw [hbholder, hcholder]

theorem append_star_injective : Function.Injective fun classname : String => classname ++ "*" := by
  intro s t h
  have hchars := congrArg String.toList h
  simp only [String.toList_append] at hchars
  exact String.toList_inj.mp (List.append_cancel_right hchars)

/-- The patterns of all batches, one after the other. -/
def planPatterns (count : BatchCount) (records : List TestRecord) : List String :=
  (plan count records).flatMap fun b => (Selection.ofBatch b).patterns

/-- No pattern is given out twice, be it to one worker or to two. -/
theorem nodup_planPatterns (count : BatchCount) (records : List TestRecord) :
    (planPatterns count records).Nodup := by
  refine List.nodup_flatMap.mpr ⟨?_, ?_⟩
  · intro b _
    exact b.nodup_classnames.map append_star_injective
  · refine (nodup_plan count records).pairwise_of_forall_ne ?_
    intro b hb c hc hne p hpb hpc
    obtain ⟨classname, hmemb, rfl⟩ := List.mem_map.mp hpb
    obtain ⟨other, hmemc, hsame⟩ := List.mem_map.mp hpc
    obtain rfl := append_star_injective hsame
    exact hne (eq_of_mem_classnames hb hc hmemb hmemc)

/-- There is a pattern for every class of the records, and no other one. -/
theorem mem_planPatterns {p : String} :
    p ∈ planPatterns count records ↔ ∃ t ∈ records, p = t.classname ++ "*" := by
  simp only [planPatterns, List.mem_flatMap, Selection.patterns, Selection.ofBatch, List.mem_map]
  constructor
  · rintro ⟨b, hb, classname, hmem, rfl⟩
    obtain ⟨t, ht, rfl⟩ := Batch.mem_classnames.mp hmem
    exact ⟨t, (flatMap_tests_plan count records).subset (List.mem_flatMap.mpr ⟨b, hb, ht⟩), rfl⟩
  · rintro ⟨t, ht, rfl⟩
    obtain ⟨b, hb, htb⟩ := List.mem_flatMap.mp ((flatMap_tests_plan count records).symm.subset ht)
    exact ⟨b, hb, t.classname, Batch.mem_classnames.mpr ⟨t, htb, rfl⟩, rfl⟩

end

/-- The workers of a published plan select all of it, wherever the path of the target leaves room for
the names of the files. Each gets the distinct classes of its batch in their order and selects every
test of the batch; all patterns together are one for each class; and there is no selection for any
other number. -/
theorem published_plan_selections {count : BatchCount} {records : List TestRecord} {now : Timestamp}
    {target : Path} {d d' : Disk} {index : BatchIndex} (hrecords : Recordable records)
    (hnow : now.IsValid) (hroom : (batchPath target count.value).bytes.length < pathLimit)
    (hrun : (publish ManifestFormat.standard now target (plan count records)).Completes d (.ok index)
      d') :
    (∀ k : Int, 1 ≤ k → k ≤ count.value → ∃ b ∈ plan count records, (b.number : Int) = k ∧
      (resolve target k).run d' = (.ok (.classes (b.tests.map (·.classname)).eraseDups), d') ∧
      ∀ t ∈ b.tests, (Selection.classes (b.tests.map (·.classname)).eraseDups).selects t.id) ∧
    (planPatterns count records).Nodup ∧
    (∀ p, p ∈ planPatterns count records ↔ ∃ t ∈ records, p = t.classname ++ "*") ∧
    ∀ k : Int, ¬ (1 ≤ k ∧ k ≤ count.value) →
      (resolve target k).run d' = (.error (.count (.outOfRange k count.value)), d') := by
  obtain ⟨rfl, total, totals, hserves⟩ := exists_serves hrecords hnow hroom hrun
  have hcount : (BatchIndex.ofBatches now (plan count records)).batches = count.value :=
    length_plan count records
  refine ⟨?_, nodup_planPatterns count records, fun p => mem_planPatterns, ?_⟩
  · intro k hlow hhigh
    rw [← hcount] at hhigh
    obtain ⟨b', hb', rfl⟩ := hserves.exists_of_number hlow hhigh
    have hresolve := hserves.run_resolve hb'
    obtain ⟨b, hb, rfl⟩ := List.mem_map.mp hb'
    exact ⟨b, hb, rfl, hresolve, fun t ht => Selection.selects_ofBatch_id ht⟩
  · intro k hk
    rw [← hcount] at hk ⊢
    exact hserves.run_resolve_outOfRange hk

/-- The second worker selects the tests of its class, and there is no third worker. -/
theorem selections_threeRecords :
    let target := Path.ofString "out"
    let bs := plan twoBatches threeRecords
    let d' := ((publish ManifestFormat.standard midnight target bs).run Disk.blank).2
    Recordable threeRecords ∧ midnight.IsValid ∧ (batchPath target 2).bytes.length < pathLimit ∧
      (publish ManifestFormat.standard midnight target bs).Completes Disk.blank
        (.ok (BatchIndex.ofBatches midnight bs)) d' ∧
      ((∃ b ∈ bs, (b.number : Int) = 2 ∧
        (resolve target 2).run d' = (.ok (.classes (b.tests.map (·.classname)).eraseDups), d')) ∧
      (∀ p, p ∈ planPatterns twoBatches threeRecords ↔ p ∈ ["a\n\"b*", "c*"]) ∧
      (resolve target 3).run d' = (.error (.count (.outOfRange 3 2)), d')) := by
  intro target bs d'
  have hrecords : Recordable threeRecords := by decide
  have hnow : midnight.IsValid := by decide
  have hroom : (batchPath target twoBatches.value).bytes.length < pathLimit := by decide
  have hrun := Program.completes_run (publish ManifestFormat.standard midnight target bs) Disk.blank
  rw [publish_threeRecords] at hrun
  obtain ⟨hresolve, -, hpatterns, hother⟩ := published_plan_selections hrecords hnow hroom hrun
  obtain ⟨b, hb, hnumber, hsecond, -⟩ := hresolve 2 (by decide) (by decide)
  refine ⟨hrecords, hnow, hroom, hrun, ⟨b, hb, hnumber, hsecond⟩, ?_, hother 3 (by decide)⟩
  intro p
  rw [hpatterns]
  simp [threeRecords]

/-- At a path that is too long for the index below it the worker of the one published batch gets an
error. -/
theorem deepTarget_not_resolved :
    ∃ d', (publish ManifestFormat.standard midnight deepTarget (plan oneBatch [])).run Disk.blank =
        (.ok (BatchIndex.ofBatches midnight (plan oneBatch [])), d') ∧
      (resolve deepTarget 1).run d' =
        (.error (.unreadable (indexPath deepTarget) .nameTooLong), d') := by
  have hresult := publish_deepTarget midnight
  generalize (publish ManifestFormat.standard midnight deepTarget (plan oneBatch [])).run Disk.blank =
    run at hresult ⊢
  obtain ⟨result, d'⟩ := run
  refine ⟨d', congrArg (·, d') hresult, ?_⟩
  rw [resolve, Program.run_bind, run_loadIndex_deepTarget]
  rfl

end SuiteSplit
