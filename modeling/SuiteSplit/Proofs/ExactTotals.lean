import SuiteSplit.Proofs.PublishedPlan
import SuiteSplit.Proofs.RecordOrder

/-!
Totals of the records of reports are exact.

A report gives no test a longer time than thirty days. Records of reports that are fewer than 2^64
seconds have times thirty days end, all together, before the longest duration. No sum is cut then,
be it that of a class, of a batch or of an index, and so what an index says of the records does not
depend on the number of batches.
-/

namespace SuiteSplit

/-! ## The times of an accepted report -/

namespace Duration

variable {d : Duration}

/-- The limit is a whole number of nanoseconds, so rounding to nanoseconds does not pass it. -/
theorem nanos_le_of_ofCaseSeconds? {x : Binary64} (h : ofCaseSeconds? x = some d) :
    d.nanos ≤ maxCaseSeconds * nanosPerSecond := by
  unfold ofCaseSeconds? ofSeconds? at h
  split_ifs at h with hrange _
  obtain rfl := Option.some.inj h
  have hsteps : x.steps ≤ maxCaseSeconds * Binary64.stepsPerOne := of_decide_eq_true hrange
  have hscaled : x.scaled nanosPerSecond ≤ maxCaseSeconds * nanosPerSecond := by
    apply roundHalfEven_le Binary64.stepsPerOne_pos
    calc x.steps * nanosPerSecond
        ≤ maxCaseSeconds * Binary64.stepsPerOne * nanosPerSecond := Nat.mul_le_mul_right _ hsteps
      _ = maxCaseSeconds * nanosPerSecond * Binary64.stepsPerOne := Nat.mul_right_comm _ _ _
  exact (Nat.min_le_left _ _).trans hscaled

theorem nanos_le_of_ofTimeText? {raw : List Char} (h : ofTimeText? raw = some d) :
    d.nanos ≤ maxCaseSeconds * nanosPerSecond := by
  unfold ofTimeText? at h
  simp only at h
  split at h
  · cases h
    exact Nat.zero_le _
  · split at h
    · cases h
    · split at h
      · cases h
      · split at h
        · cases h
        · exact nanos_le_of_ofCaseSeconds? h

end Duration

namespace Report

variable {text : String} {records : List TestRecord} {t : TestRecord}

theorem StatesDuration.nanos_le {attributes : List Xml.Attribute} {d : Duration}
    (h : StatesDuration attributes d) : d.nanos ≤ maxCaseSeconds * nanosPerSecond := by
  rcases h with ⟨-, rfl⟩ | ⟨value, -, htime⟩
  · exact Nat.zero_le _
  · exact Duration.nanos_le_of_ofTimeText? htime

/-- Every record is that of a tag in the report. -/
theorem exists_tag_of_mem (h : read text = .ok records) (ht : t ∈ records) :
    ∃ tag, Records tag t := by
  obtain ⟨root, -, htags⟩ := (exists_ofEvents_iff.mp ⟨records, h⟩).root
  obtain ⟨p, hrun, -, hfinish⟩ := ofEvents_eq_ok_iff.mp h
  obtain ⟨-, -, rfl⟩ := (tracks_of_run hrun).finish_eq_ok_iff.mp hfinish
  have hforest := run_tags (run_eq_ok_iff.mp hrun)
  rw [htags] at hforest
  obtain ⟨-, added, hrecords, hadded⟩ := run_forest hforest
  have hmem : t ∈ added := by
    rw [hrecords] at ht
    exact ht
  obtain ⟨i, hi, rfl⟩ := List.mem_iff_getElem.mp hmem
  exact ⟨_, hadded.get (hadded.length_eq ▸ hi) hi⟩

theorem nanos_le_of_read (h : read text = .ok records) (ht : t ∈ records) :
    t.duration.nanos ≤ maxCaseSeconds * nanosPerSecond := by
  obtain ⟨tag, htag⟩ := exists_tag_of_mem h ht
  exact htag.duration.nanos_le

end Report

/-! ## Sums that are not cut -/

section

variable {records : List TestRecord}

/-- The totals that a plan of records gives rise to, those of the classes, of the batches and of the
index, are the exact sums of the nanoseconds, and these sums end before the longest duration. -/
structure HasExactTotals (count : BatchCount) (records : List TestRecord) : Prop where
  groups : ∀ g ∈ ClassGroup.ofRecords records,
    g.total.nanos = (g.tests.map (·.duration.nanos)).sum
  batches : ∀ b ∈ plan count records, b.total.nanos = (b.tests.map (·.duration.nanos)).sum
  index : ∀ now, (BatchIndex.ofBatches now (plan count records)).total.nanos =
    (records.map (·.duration.nanos)).sum
  lt_longest : (records.map (·.duration.nanos)).sum < Duration.longest.nanos

theorem hasExactTotals_of_lt (h : (records.map (·.duration.nanos)).sum < Duration.longest.nanos)
    (count : BatchCount) : HasExactTotals count records := by
  have hgroups : ∀ g ∈ ClassGroup.ofRecords records,
      g.total.nanos = (g.tests.map (·.duration.nanos)).sum := by
    intro g hg
    have hsome : g.tests.Sublist records := by
      rw [ClassGroup.eq_ofClass_of_mem_ofRecords hg]
      exact List.filter_sublist
    have hle := (hsome.map (·.duration.nanos)).sum_le_sum fun _ _ => Nat.zero_le _
    rw [ClassGroup.total, Duration.nanos_sum, List.map_map]
    exact min_eq_left (hle.trans h.le)
  have hbatches : ∀ b ∈ plan count records,
      b.total.nanos = (b.tests.map (·.duration.nanos)).sum := by
    intro b hb
    have hle := ((tests_sublist hb).map (·.duration.nanos)).sum_le_sum fun _ _ => Nat.zero_le _
    rw [sum_nanos_flatMap_plan] at hle
    rw [nanos_total_plan hb]
    exact min_eq_left (hle.trans h.le)
  refine ⟨hgroups, hbatches, ?_, h⟩
  intro now
  have hsum : ((plan count records).map (·.total.nanos)).sum =
      (records.map (·.duration.nanos)).sum := by
    rw [List.map_congr_left hbatches, ← sum_nanos_flatMap_tests, sum_nanos_flatMap_plan]
  rw [BatchIndex.ofBatches, Duration.nanos_sum, List.map_map]
  change min ((plan count records).map (·.total.nanos)).sum Duration.longest.nanos = _
  rw [hsum, min_eq_left h.le]

theorem tests_ofBatches_plan (now : Timestamp) (count : BatchCount) (records : List TestRecord) :
    (BatchIndex.ofBatches now (plan count records)).tests = records.length := by
  rw [BatchIndex.ofBatches, foldl_length_tests, Nat.zero_add,
    (flatMap_tests_plan count records).length_eq]

/-- Fewer records than there are times thirty days in 2^64 seconds. -/
theorem sum_nanos_lt_longest
    (h : ∀ t ∈ records, t.duration.nanos ≤ maxCaseSeconds * nanosPerSecond)
    (hlength : records.length < 2 ^ 64 / maxCaseSeconds) :
    (records.map (·.duration.nanos)).sum < Duration.longest.nanos := by
  have hfewer : records.length ≤ 2 ^ 64 / maxCaseSeconds - 1 := Nat.le_sub_one_of_lt hlength
  calc (records.map (·.duration.nanos)).sum
      ≤ records.length * (maxCaseSeconds * nanosPerSecond) := sum_nanos_le h
    _ ≤ (2 ^ 64 / maxCaseSeconds - 1) * (maxCaseSeconds * nanosPerSecond) :=
        Nat.mul_le_mul_right _ hfewer
    _ < Duration.longest.nanos := by decide

end

/-- No total of records from accepted reports is cut at the longest duration. A report gives a test at
most thirty days, and of fewer records than there are times thirty days in 2^64 seconds every total is
the exact sum. So the indexes of plans for different numbers of batches count the same tests and state
the same total. -/
theorem totals_of_parsed_records :
    (∀ text records, Report.read text = .ok records →
      ∀ t ∈ records, t.duration.nanos ≤ maxCaseSeconds * nanosPerSecond) ∧
    ∀ records : List TestRecord,
      (∀ t ∈ records, ∃ text accepted, Report.read text = .ok accepted ∧ t ∈ accepted) →
      records.length < 2 ^ 64 / maxCaseSeconds →
      ∀ n m : BatchCount, HasExactTotals n records ∧ HasExactTotals m records ∧
        ∀ now later,
          (BatchIndex.ofBatches now (plan n records)).tests =
            (BatchIndex.ofBatches later (plan m records)).tests ∧
          (BatchIndex.ofBatches now (plan n records)).total =
            (BatchIndex.ofBatches later (plan m records)).total := by
  refine ⟨fun text records h t ht => Report.nanos_le_of_read h ht, ?_⟩
  intro records haccepted hlength n m
  have htimes : ∀ t ∈ records, t.duration.nanos ≤ maxCaseSeconds * nanosPerSecond := by
    intro t ht
    obtain ⟨text, accepted, hread, hmem⟩ := haccepted t ht
    exact Report.nanos_le_of_read hread hmem
  have hsum := sum_nanos_lt_longest htimes hlength
  have hn := hasExactTotals_of_lt hsum n
  have hm := hasExactTotals_of_lt hsum m
  refine ⟨hn, hm, ?_⟩
  intro now later
  refine ⟨?_, ?_⟩
  · rw [tests_ofBatches_plan, tests_ofBatches_plan]
  · exact Duration.ext ((hn.index now).trans (hm.index later).symm)

/-- The three records stand in a report. -/
theorem read_threeRecords : Report.read (Report.write threeRecords) = .ok threeRecords := by
  have hreads := Report.readsAs_write threeRecords
  rw [Report.toList_write] at hreads
  exact Report.read_of_readsAs (Report.toList_write threeRecords) hreads
    (Report.run_suite threeRecords (by decide)) rfl

/-- A test of exactly thirty days and one of a nanosecond: the index of two batches and that of a single
one state their sum. -/
theorem totals_of_threeRecords :
    (∀ t ∈ threeRecords, ∃ text accepted, Report.read text = .ok accepted ∧ t ∈ accepted) ∧
    threeRecords.length < 2 ^ 64 / maxCaseSeconds ∧
    HasExactTotals twoBatches threeRecords ∧
    (BatchIndex.ofBatches midnight (plan twoBatches threeRecords)).total.nanos =
      2592000000000001 ∧
    (BatchIndex.ofBatches midnight (plan twoBatches threeRecords)).total =
      (BatchIndex.ofBatches midnight (plan oneBatch threeRecords)).total := by
  have haccepted :
      ∀ t ∈ threeRecords, ∃ text accepted, Report.read text = .ok accepted ∧ t ∈ accepted :=
    fun t ht => ⟨_, _, read_threeRecords, ht⟩
  have hlength : threeRecords.length < 2 ^ 64 / maxCaseSeconds := by decide
  obtain ⟨hexact, -, hsame⟩ :=
    totals_of_parsed_records.2 threeRecords haccepted hlength twoBatches oneBatch
  exact ⟨haccepted, hlength, hexact, (hexact.index midnight).trans (by decide),
    (hsame midnight midnight).2⟩

end SuiteSplit
