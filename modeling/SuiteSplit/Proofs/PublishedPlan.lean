import SuiteSplit.Proofs.ReadBack

/-!
A published plan is what its workers read. Every record of a plan and every count in it is small enough
to be written as a number and read back as the same one; totals may be rounded, but they are read too.
So each worker gets the records of its own batch, and the fingerprint of what all workers get is the
one in the index.
-/

namespace SuiteSplit

open Publication

/-- Records of up to a number of nanoseconds each took at most as many times that together. -/
theorem sum_nanos_le {records : List TestRecord} {bound : Nat}
    (h : ∀ t ∈ records, t.duration.nanos ≤ bound) :
    (records.map (·.duration.nanos)).sum ≤ records.length * bound := by
  have hsum := List.sum_le_card_nsmul (records.map (·.duration.nanos)) bound (by
    intro n hn
    obtain ⟨t, ht, rfl⟩ := List.mem_map.mp hn
    exact h t ht)
  rwa [List.length_map, smul_eq_mul] at hsum

/-- Records that can be written down: fewer than seven million million, of up to thirty days each. -/
structure Recordable (records : List TestRecord) : Prop where
  length_lt : records.length < 7 * 10 ^ 12
  durations : ∀ t ∈ records, t.duration.nanos ≤ Duration.maxRecorded

instance (records : List TestRecord) : Decidable (Recordable records) :=
  decidable_of_iff (records.length < 7 * 10 ^ 12 ∧
    ∀ t ∈ records, t.duration.nanos ≤ Duration.maxRecorded) ⟨fun h => ⟨h.1, h.2⟩, fun h => ⟨h.1, h.2⟩⟩

namespace Recordable

variable {records : List TestRecord} {count : BatchCount} {b : Batch} {d : Duration}

/-- What all records together took is not too near to the longest duration. -/
theorem exact_le (h : Recordable records) (hd : d.nanos ≤ (records.map (·.duration.nanos)).sum) :
    d.exact ≤ 2 ^ 64 - 2 ^ 20 := by
  have hlength := Nat.le_of_lt h.length_lt
  have hnanos : d.nanos ≤ 7 * 10 ^ 12 * Duration.maxRecorded :=
    (hd.trans (sum_nanos_le h.durations)).trans (Nat.mul_le_mul_right _ hlength)
  have hcast : (d.nanos : ℚ) ≤ 7 * 10 ^ 12 * (30 * 86400 * 10 ^ 9) := by exact_mod_cast hnanos
  rw [Duration.exact, div_le_iff₀ (by norm_num)]
  linarith

end Recordable

section

variable {records : List TestRecord} {count : BatchCount} {b : Batch}

theorem tests_sublist (hb : b ∈ plan count records) :
    b.tests.Sublist ((plan count records).flatMap (·.tests)) :=
  List.sublist_flatten_of_mem (List.mem_map_of_mem hb)

/-- The nanoseconds of some records of the plan are among those of all records. -/
theorem sum_nanos_flatMap_plan (count : BatchCount) (records : List TestRecord) :
    (((plan count records).flatMap (·.tests)).map (·.duration.nanos)).sum =
      (records.map (·.duration.nanos)).sum :=
  ((flatMap_tests_plan count records).map _).sum_eq

theorem number_mem_range (hb : b ∈ plan count records) : 1 ≤ b.number ∧ b.number ≤ count.value := by
  have hmem : b.number ∈ (plan count records).map (·.number) := List.mem_map_of_mem hb
  rw [numbers_plan, List.mem_range'_1] at hmem
  omega

theorem length_plan (count : BatchCount) (records : List TestRecord) :
    (plan count records).length = count.value := by
  have h := congrArg List.length (numbers_plan count records)
  rwa [List.length_map, List.length_range'] at h

theorem isStorable_of_mem_plan (hrecords : Recordable records) (hb : b ∈ plan count records) :
    b.IsStorable := by
  refine ⟨?_, ?_, hrecords.exact_le ?_⟩
  · have hmax : maxInt64 < Json.wordLimit := by decide
    exact ((number_mem_range hb).2.trans count.le_max).trans_lt hmax
  · intro t ht
    have hmem := (flatMap_tests_plan count records).subset ((tests_sublist hb).subset ht)
    exact hrecords.durations t hmem
  · rw [nanos_total_plan hb, ← sum_nanos_flatMap_plan count records]
    exact (Nat.min_le_left _ _).trans
      (((tests_sublist hb).map _).sum_le_sum fun _ _ => Nat.zero_le _)

theorem foldl_length_tests (n : Nat) (bs : List Batch) :
    bs.foldl (fun n b => n + b.tests.length) n = n + (bs.flatMap (·.tests)).length := by
  induction bs generalizing n with
  | nil => rfl
  | cons b bs ih => rw [List.foldl_cons, ih, List.flatMap_cons, List.length_append, Nat.add_assoc]

theorem sum_nanos_flatMap_tests (bs : List Batch) :
    ((bs.flatMap (·.tests)).map (·.duration.nanos)).sum =
      (bs.map fun b => (b.tests.map (·.duration.nanos)).sum).sum := by
  rw [List.map_flatMap, List.flatMap, List.sum_flatten, List.map_map]
  rfl

/-- The total of an index is no longer than all tests of its batches together. -/
theorem nanos_total_ofBatches_le {now : Timestamp} {bs : List Batch}
    (h : ∀ b ∈ bs, b.total.nanos ≤ (b.tests.map (·.duration.nanos)).sum) :
    (BatchIndex.ofBatches now bs).total.nanos ≤
      ((bs.flatMap (·.tests)).map (·.duration.nanos)).sum := by
  have hsum : ((bs.map (·.total)).map Duration.nanos).sum ≤
      (bs.map fun b => (b.tests.map (·.duration.nanos)).sum).sum := by
    rw [List.map_map]
    exact List.sum_le_sum h
  rw [BatchIndex.ofBatches, Duration.nanos_sum, sum_nanos_flatMap_tests]
  exact (Nat.min_le_left _ _).trans hsum

theorem isStorable_ofBatches_plan {now : Timestamp} (hrecords : Recordable records)
    (hnow : now.IsValid) (count : BatchCount) :
    (BatchIndex.ofBatches now (plan count records)).IsStorable := by
  refine ⟨?_, ?_, hrecords.exact_le ?_, hnow⟩
  · have hmax : maxInt64 < Json.wordLimit := by decide
    rw [BatchIndex.ofBatches, length_plan]
    exact count.le_max.trans_lt hmax
  · have hlimit : 7 * 10 ^ 12 < Json.wordLimit := by decide
    rw [BatchIndex.ofBatches, foldl_length_tests, Nat.zero_add,
      (flatMap_tests_plan count records).length_eq]
    exact hrecords.length_lt.trans hlimit
  · rw [← sum_nanos_flatMap_plan count records]
    refine nanos_total_ofBatches_le ?_
    intro b hb
    rw [nanos_total_plan hb]
    exact Nat.min_le_left _ _

/-! ## Reading a published plan -/

variable {now : Timestamp} {target : Path} {d d' : Disk} {index : BatchIndex}

theorem Publication.of_publish {formats : List ManifestFormat} {bs : List Batch}
    (h : (publish formats now target bs).Completes d (.ok index) d') :
    index = BatchIndex.ofBatches now bs ∧
      (publishFiles target (manifestFiles formats (BatchIndex.ofBatches now bs) bs)).Completes d
        (.ok ()) d' := by
  obtain ⟨result, d₁, hfiles, hrest⟩ := h.of_bind
  cases result with
  | error e => cases hrest.of_pure.1
  | ok _ =>
    obtain ⟨hindex, rfl⟩ := hrest.of_pure
    exact ⟨Except.ok.inj hindex, hfiles⟩

theorem length_fileName_le {number : Nat} (h : number ≤ maxInt64) :
    (Text.utf8 ((ManifestFormat.json .pretty).fileName number)).length ≤ maxNameLength := by
  have hdigits : (Nat.toDigits 10 number).length ≤ 19 := by
    rw [Nat.length_toDigits_le_iff (by decide) (by decide)]
    exact h.trans_lt (by decide)
  rw [ManifestFormat.length_fileName_json, maxNameLength]
  omega

/-- Where a plan was published its index and its batches are read, with totals that may be rounded. -/
theorem exists_serves (hrecords : Recordable records) (hnow : now.IsValid)
    (hroom : (batchPath target count.value).bytes.length < pathLimit)
    (hrun : (publish ManifestFormat.standard now target (plan count records)).Completes d (.ok index)
      d') :
    index = BatchIndex.ofBatches now (plan count records) ∧
      ∃ (total : Duration) (totals : Batch → Duration), Serves target d' { index with total }
        ((plan count records).map fun b => { b with total := totals b }) := by
  obtain ⟨rfl, hfiles⟩ := of_publish hrun
  obtain ⟨directory, name, hname, hpublished⟩ :=
    exists_published (plainFiles_manifestFiles _ _ _) hfiles
  have hindex := hpublished.read hname lookup_index isPlain_indexName (by decide)
    (fault?_indexPath hpublished.accepted hroom)
  obtain ⟨total, htotal⟩ :=
    BatchIndex.read?_render (isStorable_ofBatches_plan hrecords hnow count)
  have hnumbers : ((plan count records).map (·.number)).Nodup := by
    rw [numbers_plan]
    exact List.nodup_range'
  have hbatch : ∀ b : Batch, ∃ total, b ∈ plan count records →
      (readBatch target b.number).run d' = (.ok { b with total }, d') := by
    intro b
    by_cases hb : b ∈ plan count records
    · have hle := (number_mem_range hb).2
      obtain ⟨total, htotal⟩ := Batch.read?_render (isStorable_of_mem_plan hrecords hb) .pretty
      have hread := hpublished.read hname (lookup_batch hnumbers hb) (isPlain_fileName b.number)
        (length_fileName_le (hle.trans count.le_max))
        (fault?_batchPath hpublished.accepted hle hroom)
      exact ⟨total, fun _ => run_readBatch hread htotal rfl⟩
    · exact ⟨b.total, fun h => absurd h hb⟩
  choose totals htotals using hbatch
  refine ⟨rfl, total, totals, run_loadIndex hindex htotal, ?_, ?_, ?_, ?_⟩
  · rw [List.map_map]
    change (plan count records).map (·.number) = List.range' 1 (plan count records).length
    rw [numbers_plan, length_plan]
  · change 0 < (plan count records).length
    rw [length_plan]
    exact count.pos
  · change (plan count records).length ≤ maxInt64
    rw [length_plan]
    exact count.le_max
  · intro b' hb'
    obtain ⟨b, hb, rfl⟩ := List.mem_map.mp hb'
    exact htotals b hb

/-- A fingerprint does not depend on totals. -/
theorem Batch.fingerprint_map_total (totals : Batch → Duration) (bs : List Batch) :
    Batch.fingerprint (bs.map fun b => { b with total := totals b }) = Batch.fingerprint bs := by
  rw [Batch.fingerprint, Batch.fingerprint, List.flatMap_map]
  rfl

/-- Workers read back what was published, wherever the path of the target leaves room for the names of
the files. The index is the one that publishing has returned. For every number of a batch the worker
gets the records of that batch, and for every other number it is told that there is no such batch. The
fingerprint of all batches that were read is the one in the index. -/
theorem published_plan_read_back (hrecords : Recordable records) (hnow : now.IsValid)
    (hroom : (batchPath target count.value).bytes.length < pathLimit)
    (hrun : (publish ManifestFormat.standard now target (plan count records)).Completes d (.ok index)
      d') :
    ∃ i loaded, (loadIndex target).run d' = (.ok (some i), d') ∧
      i.fingerprint = index.fingerprint ∧ i.batches = index.batches ∧ i.tests = index.tests ∧
      loaded.map (·.number) = List.range' 1 count.value ∧
      loaded.map (·.tests) = (plan count records).map (·.tests) ∧
      (∀ b ∈ loaded, (loadBatch target b.number).run d' = (.ok b, d')) ∧
      (∀ k : Int, ¬ (1 ≤ k ∧ k ≤ count.value) →
        (loadBatch target k).run d' = (.error (.count (.outOfRange k count.value)), d')) ∧
      Batch.fingerprint loaded = i.fingerprint := by
  obtain ⟨rfl, total, totals, hserves⟩ := exists_serves hrecords hnow hroom hrun
  have hcount : (BatchIndex.ofBatches now (plan count records)).batches = count.value :=
    length_plan count records
  refine ⟨_, _, hserves.reads, rfl, rfl, rfl, hcount ▸ hserves.numbers, ?_,
    fun b hb => hserves.run_loadBatch hb, ?_, Batch.fingerprint_map_total _ _⟩
  · rw [List.map_map]
    rfl
  · intro k hk
    rw [← hcount] at hk ⊢
    exact hserves.run_loadBatch_outOfRange hk

end

/-! ## Plans that are published on a disk with nothing on it -/

def twoBatches : BatchCount := ⟨2, by decide, by decide⟩

/-- The longest class has a line feed and a quote in its name. -/
def threeRecords : List TestRecord :=
  [⟨"a\n\"b", "x", .ofNanos 2592000000000000, .failed⟩, ⟨"c", "y", .ofNanos 1, .skipped⟩,
    ⟨"c", "", .ofNanos 0, .successful⟩]

theorem plan_threeRecords : plan twoBatches threeRecords =
    [⟨1, threeRecords.take 1, .ofNanos 2592000000000000⟩, ⟨2, threeRecords.drop 1, .ofNanos 1⟩] := by
  cbv

private theorem publish_fiveFiles (t₁ t₂ t₃ t₄ t₅ : String) (index : BatchIndex) :
    ((publishIndexed (Path.ofString "out") [("batch-1.json", t₁), ("batch-1.txt", t₂),
      ("batch-2.json", t₃), ("batch-2.txt", t₄), ("index.json", t₅)] index).run Disk.blank).1 =
      .ok index := by
  cbv

theorem publish_threeRecords (now : Timestamp) :
    ((publish ManifestFormat.standard now (Path.ofString "out")
      (plan twoBatches threeRecords)).run Disk.blank).1 =
      .ok (BatchIndex.ofBatches now (plan twoBatches threeRecords)) := by
  rw [plan_threeRecords]
  exact publish_fiveFiles _ _ _ _ _ _

/-- Both workers get their records, and a third one is told that there are two. -/
theorem read_back_threeRecords :
    let target := Path.ofString "out"
    let bs := plan twoBatches threeRecords
    let d' := ((publish ManifestFormat.standard midnight target bs).run Disk.blank).2
    Recordable threeRecords ∧ midnight.IsValid ∧ (batchPath target 2).bytes.length < pathLimit ∧
      (publish ManifestFormat.standard midnight target bs).Completes Disk.blank
        (.ok (BatchIndex.ofBatches midnight bs)) d' ∧
      ((∃ loaded : List Batch, loaded.map (·.tests) = [threeRecords.take 1, threeRecords.drop 1] ∧
        ∀ b ∈ loaded, (loadBatch target b.number).run d' = (.ok b, d')) ∧
      (loadBatch target 3).run d' = (.error (.count (.outOfRange 3 2)), d')) := by
  intro target bs d'
  have hrecords : Recordable threeRecords := by decide
  have hnow : midnight.IsValid := by decide
  have hroom : (batchPath target twoBatches.value).bytes.length < pathLimit := by decide
  have hrun := Program.completes_run (publish ManifestFormat.standard midnight target bs) Disk.blank
  rw [publish_threeRecords] at hrun
  obtain ⟨i, loaded, -, -, -, -, -, htests, hloaded, hother, -⟩ :=
    published_plan_read_back hrecords hnow hroom hrun
  refine ⟨hrecords, hnow, hroom, hrun, ⟨loaded, ?_, hloaded⟩, hother 3 (by decide)⟩
  rw [htests, plan_threeRecords]
  rfl

/-! ## A target without room for the names of its files -/

/-- Without records all batches are empty. -/
theorem plan_nil (count : BatchCount) : plan count [] = Assignment.emptyBatches count := by
  have hsorted : ClassGroup.sortForAssignment [] = [] := (ClassGroup.sortForAssignment_perm []).eq_nil
  have hgroups : ClassGroup.ofRecords [] = [] := hsorted
  rw [plan, assign, hgroups, hsorted]
  rfl

def oneBatch : BatchCount := ⟨1, Nat.one_pos, by decide⟩

theorem plan_oneBatch_nil : plan oneBatch [] = [.empty 1] := by
  rw [plan_nil]
  rfl

/-- One batch without tests is published in three files. -/
theorem publish_eq_threeFiles (now : Timestamp) (target : Path) : ∃ t₁ t₂ t₃,
    publish ManifestFormat.standard now target (plan oneBatch []) =
      publishIndexed target [("batch-1.json", t₁), ("batch-1.txt", t₂), ("index.json", t₃)]
        (BatchIndex.ofBatches now (plan oneBatch [])) := by
  rw [plan_oneBatch_nil]
  exact ⟨_, _, _, rfl⟩

theorem isPlain_out : Path.IsPlain (Text.utf8 "out") := Path.isPlain_utf8 (by decide) (by decide)

private theorem isOk_publish_threeFiles (t₁ t₂ t₃ : String) :
    ((publishFiles (.spaced 0 (Text.utf8 "out")) [("batch-1.json", t₁), ("batch-1.txt", t₂),
      ("index.json", t₃)]).run Disk.blank).1.isOk = true := by
  cbv

section

variable {target : Path} (now : Timestamp)

/-- A plan is published however many slashes there are in the path. -/
theorem publish_of_walksLike (h : target.WalksLike (.spaced 0 (Text.utf8 "out")))
    (hdirectory : target.directory = (Path.spaced 0 (Text.utf8 "out")).directory) :
    ((publish ManifestFormat.standard now target (plan oneBatch [])).run Disk.blank).1 =
      .ok (BatchIndex.ofBatches now (plan oneBatch [])) := by
  rw [plan_oneBatch_nil, publish, publishIndexed, Program.run_bind]
  have hok := isOk_run_publishFiles_congr h hdirectory
    (manifestFiles ManifestFormat.standard (BatchIndex.ofBatches now [.empty 1]) [.empty 1]) Disk.blank
  have hthree : ((publishFiles (.spaced 0 (Text.utf8 "out")) (manifestFiles ManifestFormat.standard
      (BatchIndex.ofBatches now [.empty 1]) [.empty 1])).run Disk.blank).1.isOk = true :=
    isOk_publish_threeFiles _ _ _
  rw [hthree] at hok
  cases hresult : ((publishFiles target (manifestFiles ManifestFormat.standard
      (BatchIndex.ofBatches now [.empty 1]) [.empty 1])).run Disk.blank).1 with
  | error e =>
    rw [hresult] at hok
    cases hok
  | ok _ => rfl

end

/-- A path of 4089 bytes. -/
def deepTarget : Path := .spaced 4084 (Text.utf8 "out")

theorem publish_deepTarget (now : Timestamp) :
    ((publish ManifestFormat.standard now deepTarget (plan oneBatch [])).run Disk.blank).1 =
      .ok (BatchIndex.ofBatches now (plan oneBatch [])) := by
  refine publish_of_walksLike now ?_ ?_
  · exact Path.walksLike_spaced 4084 isPlain_out (by decide) (by decide) (by decide)
  · exact (Path.directory_spaced _ isPlain_out).trans (Path.directory_spaced _ isPlain_out).symm

/-- No call accepts the path of the index. -/
theorem read_deepTarget (d : Disk) : d.read (indexPath deepTarget) = .error .nameTooLong := by
  have hfault : (indexPath deepTarget).fault? = some .nameTooLong :=
    Path.fault?_join_spaced _ isPlain_out isPlain_indexName (by decide) (by decide) (by decide)
  rw [Disk.read, Disk.find, Disk.walk, Disk.start, hfault]

theorem run_loadIndex_deepTarget (d : Disk) : (loadIndex deepTarget).run d =
    (.error (.unreadable (indexPath deepTarget) .nameTooLong), d) :=
  run_loadIndex_error (read_deepTarget d) nofun

/-- A target can be published at a path that is too long for the index below it, and no worker can read
it then. -/
theorem deepTarget_not_read_back :
    ∃ d', (publish ManifestFormat.standard midnight deepTarget (plan oneBatch [])).run Disk.blank =
        (.ok (BatchIndex.ofBatches midnight (plan oneBatch [])), d') ∧
      (loadIndex deepTarget).run d' =
        (.error (.unreadable (indexPath deepTarget) .nameTooLong), d') ∧
      (loadBatch deepTarget 1).run d' =
        (.error (.unreadable (indexPath deepTarget) .nameTooLong), d') := by
  have hresult := publish_deepTarget midnight
  generalize (publish ManifestFormat.standard midnight deepTarget (plan oneBatch [])).run Disk.blank =
    run at hresult ⊢
  obtain ⟨result, d'⟩ := run
  refine ⟨d', congrArg (·, d') hresult, run_loadIndex_deepTarget d', ?_⟩
  rw [loadBatch, Program.run_bind, run_loadIndex_deepTarget]
  rfl

end SuiteSplit
