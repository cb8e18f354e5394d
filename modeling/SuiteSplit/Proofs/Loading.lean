import SuiteSplit.Number.Integer64
import SuiteSplit.Proofs.Interleaving
import SuiteSplit.Proofs.ReadBack

/-!
Batches are loaded only from files that agree.

The files of a directory can be missing, left over from an earlier plan, edited by hand or those of
several plans. A batch is loaded by a number if the file with that number describes the batch with that
number, and the index, if there is one, counts up to the number. Everything else is an error. Only a
directory without an index makes a worker run every test; an index that cannot be read or that is no
text is not a missing one.
-/

namespace SuiteSplit

open Publication

variable {d : Disk} {directory : Path}

/-! ## What is read -/

namespace Program

theorem textOf_eq_ok_iff {read : Except DiskError ByteArray} {text : String} :
    textOf read = .ok text ↔ read = .ok text.toUTF8 := by
  constructor
  · intro h
    cases read with
    | error e => cases h
    | ok bytes =>
      rw [textOf, Except.bind] at h
      split at h
      · next text' htext =>
        cases h
        rw [Text.toUTF8_of_fromUTF8? htext]
      · cases h
  · rintro rfl
    rw [textOf, Except.bind, Text.fromUTF8?_toUTF8]

/-- A file that is no text is not a missing one. -/
theorem textOf_eq_notFound_iff {read : Except DiskError ByteArray} :
    textOf read = .error .notFound ↔ read = .error .notFound := by
  cases read with
  | error e =>
    have hsame : textOf (.error e) = .error e := rfl
    rw [hsame, Except.error.injEq, Except.error.injEq]
  | ok bytes =>
    rw [textOf, Except.bind]
    split <;> simp

end Program

/-- A JSON value describes a batch: it has its number, the records of its tests in their order, and its
total. -/
def Batch.IsDescribedBy (b : Batch) (v : Json.Value) : Prop :=
  ∃ number tests total,
    v.fields? ["number", "tests", "totalDuration"] = some [number, .array tests, total] ∧
      number.toCount? = some b.number ∧ tests.mapM TestRecord.ofJson? = some b.tests ∧
      Duration.ofJson? total = some b.total

theorem Batch.isDescribedBy_iff {b : Batch} {v : Json.Value} :
    b.IsDescribedBy v ↔ ofJson? v = some b := by
  constructor
  · rintro ⟨number, tests, total, hfields, h⟩
    exact (ofJson?_eq_some_iff hfields).mpr h
  · intro h
    have hread := h
    rw [ofJson?] at h
    obtain ⟨fields, hfields, h⟩ := Option.bind_eq_some_iff.mp h
    split at h
    · next number tests total =>
      split at h
      · next tests =>
        exact ⟨number, tests, total, hfields, (ofJson?_eq_some_iff hfields).mp hread⟩
      · cases h
    · cases h

/-- The file of a batch holds a JSON text that describes the batch. -/
def Disk.Describes (d : Disk) (directory : Path) (b : Batch) : Prop :=
  ∃ text v, d.read (batchPath directory b.number) = .ok text.toUTF8 ∧ Json.read? text = some v ∧
    b.IsDescribedBy v

/-- The index is missing. -/
def Disk.LacksIndex (d : Disk) (directory : Path) : Prop :=
  d.read (indexPath directory) = .error .notFound

/-- There is an index. -/
def Disk.HasIndex (d : Disk) (directory : Path) (i : BatchIndex) : Prop :=
  ∃ text : String, d.read (indexPath directory) = .ok text.toUTF8 ∧ BatchIndex.read? text = some i

theorem Disk.HasIndex.read? {i : BatchIndex} {text : String} (h : d.HasIndex directory i)
    (hread : d.read (indexPath directory) = .ok text.toUTF8) : BatchIndex.read? text = some i := by
  obtain ⟨text', hread', hindex⟩ := h
  have hsame : text'.toUTF8 = text.toUTF8 := Except.ok.inj (hread'.symm.trans hread)
  have htext : some text' = some text := by
    rw [← Text.fromUTF8?_toUTF8, hsame, Text.fromUTF8?_toUTF8]
  rw [← Option.some.inj htext, hindex]

/-! ## The index -/

/-- What comes of reading the text of an index. -/
def indexOf (p : Path) : Except DiskError String → Except ManifestError (Option BatchIndex)
  | .error .notFound => .ok none
  | .error e => .error (.unreadable p e)
  | .ok text =>
    match BatchIndex.read? text with
    | none => .error (.invalid p)
    | some index => .ok (some index)

theorem run_loadIndex_eq (directory : Path) (d : Disk) : (loadIndex directory).run d =
    (indexOf (indexPath directory) (Program.textOf (d.read (indexPath directory))), d) := by
  rw [loadIndex, Program.run_bind, Program.run_readText, ← indexPath]
  dsimp only
  rcases Program.textOf (d.read (indexPath directory)) with e | text
  · cases e <;> rfl
  · dsimp only [indexOf]
    cases BatchIndex.read? text <;> rfl

theorem indexOf_eq_none_iff {p : Path} {read : Except DiskError String} :
    indexOf p read = .ok none ↔ read = .error .notFound := by
  rcases read with e | text
  · cases e <;> simp [indexOf]
  · rw [indexOf]
    cases BatchIndex.read? text <;> simp

theorem indexOf_eq_some_iff {p : Path} {read : Except DiskError String} {i : BatchIndex} :
    indexOf p read = .ok (some i) ↔ ∃ text, read = .ok text ∧ BatchIndex.read? text = some i := by
  rcases read with e | text
  · cases e <;> simp [indexOf]
  · rw [indexOf]
    cases hindex : BatchIndex.read? text <;> simp [hindex]

theorem loadIndex_eq_none_iff :
    ((loadIndex directory).run d).1 = .ok none ↔ d.LacksIndex directory := by
  rw [run_loadIndex_eq, indexOf_eq_none_iff, Program.textOf_eq_notFound_iff, Disk.LacksIndex]

theorem loadIndex_eq_some_iff {i : BatchIndex} :
    ((loadIndex directory).run d).1 = .ok (some i) ↔ d.HasIndex directory i := by
  simp only [run_loadIndex_eq, indexOf_eq_some_iff, Program.textOf_eq_ok_iff, Disk.HasIndex]

/-! ## Numbers -/

/-- An index without batches accepts no number; others accept the numbers up to their count, however
large that is. -/
theorem checkNumber_index_eq_ok_iff {i : BatchIndex} {k : Int} {n : Nat} (hk : k ≤ maxInt64) :
    checkNumber (some i) k = .ok n ↔ k = n ∧ 1 ≤ k ∧ 1 ≤ i.batches ∧ k ≤ i.batches := by
  have hmax : 0 < maxInt64 := by decide
  rw [checkNumber, BatchIndex.batchCount, BatchCount.ofInt]
  split
  · rw [Except.bind, BatchCount.checkNumber]
    dsimp only
    split <;> simp <;> omega
  · simp only [Except.bind, reduceCtorEq, false_iff]
    omega

theorem checkNumber_none_eq_ok_iff {k : Int} {n : Nat} :
    checkNumber none k = .ok n ↔ k = n ∧ 1 ≤ k := by
  rw [checkNumber]
  split <;> simp <;> omega

/-! ## Batches -/

theorem readBatch_eq_ok_iff {n : Nat} {b : Batch} :
    ((readBatch directory n).run d).1 = .ok b ↔ b.number = n ∧ d.Describes directory b := by
  have hread : b.number = n ∧ d.Describes directory b ↔ b.number = n ∧ ∃ text,
      Program.textOf (d.read (batchPath directory n)) = .ok text ∧ Batch.read? text = some b := by
    simp only [Disk.Describes, Batch.isDescribedBy_iff, Program.textOf_eq_ok_iff, Batch.read?,
      Option.bind_eq_some_iff]
    constructor
    · rintro ⟨rfl, text, v, hbytes, hvalue, hbatch⟩
      exact ⟨rfl, text, hbytes, v, hvalue, hbatch⟩
    · rintro ⟨rfl, text, hbytes, v, hvalue, hbatch⟩
      exact ⟨rfl, text, v, hbytes, hvalue, hbatch⟩
  rw [hread, readBatch, Program.run_bind, Program.run_readText, ← batchPath]
  dsimp only
  rcases Program.textOf (d.read (batchPath directory n)) with e | text
  · simp
  · dsimp only
    cases hbatch : Batch.read? text with
    | none => simp [hbatch]
    | some c =>
      dsimp only
      split
      · next hnumber =>
        simp only [Program.run_pure, Except.ok.injEq, exists_eq_left', hbatch, Option.some.injEq]
        refine ⟨?_, And.right⟩
        rintro rfl
        exact ⟨hnumber, rfl⟩
      · next hnumber =>
        simp only [Program.run_pure, reduceCtorEq, false_iff, Except.ok.injEq, exists_eq_left', hbatch,
          Option.some.injEq]
        rintro ⟨hb, rfl⟩
        exact hnumber hb

/-! ## Loading -/

/-- A batch is loaded by way of the index and of the number that the index accepts. -/
theorem loadBatch_eq_ok_iff_exists {k : Int} {b : Batch} :
    ((loadBatch directory k).run d).1 = .ok b ↔
      ∃ index n, ((loadIndex directory).run d).1 = .ok index ∧ checkNumber index k = .ok n ∧
        ((readBatch directory n).run d).1 = .ok b := by
  have hdisk : ((loadIndex directory).run d).2 = d := by rw [run_loadIndex_eq]
  rw [loadBatch, Program.run_bind, hdisk]
  rcases ((loadIndex directory).run d).1 with e | index
  · simp
  · dsimp only
    cases hcheck : checkNumber index k <;> simp [hcheck]

/-- The files of a directory agree on a batch and its number: the file of the batch describes it, and
the index, if there is one, counts up to the number. -/
structure Disk.Agrees (d : Disk) (directory : Path) (k : Int) (b : Batch) : Prop where
  pos : 1 ≤ k
  number : b.number = k
  describes : d.Describes directory b
  index : d.LacksIndex directory ∨ ∃ i, d.HasIndex directory i ∧ 1 ≤ i.batches ∧ k ≤ i.batches

theorem loadBatch_eq_ok_iff {k : Int} {b : Batch} (hk : k ≤ maxInt64) :
    ((loadBatch directory k).run d).1 = .ok b ↔ d.Agrees directory k b := by
  rw [loadBatch_eq_ok_iff_exists]
  constructor
  · rintro ⟨index, n, hindex, hcheck, hread⟩
    obtain ⟨rfl, hdescribes⟩ := readBatch_eq_ok_iff.mp hread
    cases index with
    | none =>
      obtain ⟨rfl, hpos⟩ := checkNumber_none_eq_ok_iff.mp hcheck
      exact ⟨hpos, rfl, hdescribes, .inl (loadIndex_eq_none_iff.mp hindex)⟩
    | some i =>
      obtain ⟨rfl, hpos, hcount⟩ := (checkNumber_index_eq_ok_iff hk).mp hcheck
      exact ⟨hpos, rfl, hdescribes, .inr ⟨i, loadIndex_eq_some_iff.mp hindex, hcount⟩⟩
  · rintro ⟨hpos, rfl, hdescribes, hlacks | ⟨i, hhas, hcount⟩⟩
    · exact ⟨none, b.number, loadIndex_eq_none_iff.mpr hlacks,
        checkNumber_none_eq_ok_iff.mpr ⟨rfl, hpos⟩, readBatch_eq_ok_iff.mpr ⟨rfl, hdescribes⟩⟩
    · exact ⟨some i, b.number, loadIndex_eq_some_iff.mpr hhas,
        (checkNumber_index_eq_ok_iff hk).mpr ⟨rfl, hpos, hcount⟩,
        readBatch_eq_ok_iff.mpr ⟨rfl, hdescribes⟩⟩

/-- Only a missing index makes a worker run everything. -/
theorem resolve_eq_all_iff (k : Int) :
    ((resolve directory k).run d).1 = .ok .all ↔ d.LacksIndex directory := by
  refine ⟨?_, fun h => by rw [run_resolve_notFound h]⟩
  intro h
  rw [resolve, Program.run_bind] at h
  rcases hloaded : ((loadIndex directory).run d).1 with e | _ | i
  · rw [hloaded] at h
    cases h
  · exact loadIndex_eq_none_iff.mp hloaded
  · rw [hloaded] at h
    dsimp only at h
    rw [Program.run_bind] at h
    split at h
    · cases h
    · cases h

/-- Whatever a directory holds, a batch is loaded by a number exactly if the files agree on it, and
every test is run exactly if the index is missing. -/
theorem loads_iff_agrees (d : Disk) (directory : Path) :
    (∀ (k : Int) (b : Batch), fitsInt64 k →
      (((loadBatch directory k).run d).1 = .ok b ↔ d.Agrees directory k b)) ∧
    ∀ k : Int, ((resolve directory k).run d).1 = .ok .all ↔ d.LacksIndex directory := by
  refine ⟨?_, resolve_eq_all_iff⟩
  intro k b hk
  have hmax : (2 : Int) ^ 63 = maxInt64 + 1 := by decide
  rw [fitsInt64, Bool.and_eq_true, decide_eq_true_eq, decide_eq_true_eq] at hk
  exact loadBatch_eq_ok_iff (by omega)

/-- A disk with two files of batches and an index. -/
def diskOfFiles (first second index : String) : Disk :=
  let here : FileName := Text.utf8 "work"
  let file (name text : String) : FileName × Node := (Text.utf8 name, .file fileMode text.toUTF8)
  let files := [file "batch-1.json" first, file "batch-2.json" second, file "index.json" index]
  ⟨.directory directoryMode [(here, .directory directoryMode [(Text.utf8 "out",
    .directory directoryMode files)])], [here]⟩

theorem read_diskOfFiles (first second index : String) :
    (diskOfFiles first second index).read (batchPath (Path.ofString "out") 1) = .ok first.toUTF8 ∧
      (diskOfFiles first second index).read (indexPath (Path.ofString "out")) = .ok index.toUTF8 := by
  constructor <;> cbv

/-- The index counts one batch, so the file of the second is left over and not loaded. -/
theorem loads_iff_agrees_leftover :
    let out := Path.ofString "out"
    let d := diskOfFiles "[1, [], 0]" "[2, [], 0]" "[1, 0, 0, \"\", \"2025-01-01T00:00:00Z\"]"
    ((loadBatch out 1).run d).1 = .ok ⟨1, [], .zero⟩ ∧ (∀ b, ((loadBatch out 2).run d).1 ≠ .ok b) ∧
      ((resolve out 2).run d).1 ≠ .ok .all := by
  intro out d
  obtain ⟨hload, hresolve⟩ := loads_iff_agrees d out
  obtain ⟨hfirst, hindex⟩ := read_diskOfFiles "[1, [], 0]" "[2, [], 0]"
    "[1, 0, 0, \"\", \"2025-01-01T00:00:00Z\"]"
  have hlacks : ¬ d.LacksIndex out := fun h => nomatch hindex.symm.trans h
  have hread : BatchIndex.read? "[1, 0, 0, \"\", \"2025-01-01T00:00:00Z\"]" =
      some ⟨1, 0, .zero, "", midnight⟩ := by decide +kernel
  have hbatch : Batch.read? "[1, [], 0]" = some ⟨1, [], .zero⟩ := by decide +kernel
  have hdescribes : d.Describes out ⟨1, [], .zero⟩ := by
    obtain ⟨v, hvalue, hdescribed⟩ := Option.bind_eq_some_iff.mp hbatch
    exact ⟨_, v, hfirst, hvalue, Batch.isDescribedBy_iff.mpr hdescribed⟩
  refine ⟨?_, ?_, fun h => hlacks ((hresolve 2).mp h)⟩
  · refine (hload 1 _ (by decide)).mpr ⟨by decide, rfl, hdescribes, .inr ⟨_, ⟨_, hindex, hread⟩, ?_⟩⟩
    decide
  · intro b hb
    obtain ⟨i, hi, -, hcount⟩ := ((hload 2 b (by decide)).mp hb).index.resolve_left hlacks
    rw [hi.read? hindex, Option.some.injEq] at hread
    rw [hread] at hcount
    exact absurd hcount (by decide)

end SuiteSplit
