import SuiteSplit.Manifest.Load
import SuiteSplit.Proofs.Codec
import SuiteSplit.Proofs.FileNames
import SuiteSplit.Proofs.LongPaths
import SuiteSplit.Proofs.Plan
import SuiteSplit.Proofs.Success

/-!
Workers read back what was published. A published directory holds one file for each batch and the
index, each under a name of its own, and a reader that opens them gets the number and the records of
every batch and the fingerprint of them all.

Reading goes by the path of the file, which is longer than the path of the directory. A directory can
be published at a path that leaves no room for the names below it; nothing can be read there.
-/

namespace SuiteSplit

open Node

/-! ## Files below a directory -/

namespace Path

variable {p : Path} {name name' : FileName}

/-- A path that has room for a name has room for every name that is not longer. -/
theorem fault?_join_of_length_le (hp : p.fault? = none) (hname : IsPlain name)
    (hname' : IsPlain name') (hzero : 0 ∉ name) (hle : name.length ≤ name'.length)
    (hroom : (p.join ⟨name'⟩).bytes.length < pathLimit) : (p.join ⟨name⟩).fault? = none := by
  obtain ⟨hzero', hne, -⟩ := fault?_eq_none_iff.mp hp
  refine fault?_eq_none_iff.mpr ⟨?_, bytes_join_ne_nil hne hname, ?_⟩
  · rcases bytes_join hne hname with ⟨hbytes, -⟩ | hbytes
    · simp [hbytes, hzero, hzero']
    · simp [hbytes, hzero, hzero', slash]
  · rw [length_join hne hname'] at hroom
    rw [length_join hne hname]
    omega

end Path

namespace Disk

variable {d : Disk} {p : Path} {there : Location} {name : FileName} {mode : Nat} {bytes : ByteArray}

/-- A file in the directory that a path leads to is read by the path with its name. -/
theorem read_join (hleads : Leads d.root d.here p there) (hplain : Path.IsPlain name)
    (hname : IsEntryName name) (haccepted : (p.join ⟨name⟩).fault? = none)
    (hat : d.root.at? (there ++ [name]) = some (.file mode bytes)) :
    d.read (p.join ⟨name⟩) = .ok bytes := by
  have hp : p.bytes ≠ [] := (Path.fault?_eq_none_iff.mp hleads.accepted).2.1
  obtain ⟨links, hway⟩ := hleads.way
  rw [read, find, walk_join hplain hp haccepted hleads.origin hway, walk_singleton hname, hat]

end Disk

theorem Text.fromUTF8?_toUTF8 (s : String) : String.fromUTF8? s.toUTF8 = some s := by
  have hvalid : s.toUTF8.IsValidUTF8 := s.isValidUTF8
  rw [String.fromUTF8?, dif_pos hvalid]
  rfl

namespace Program

/-- Reading a text is reading bytes, which have to be a text. -/
def textOf (read : Except DiskError ByteArray) : Except DiskError String :=
  read.bind fun bytes => match String.fromUTF8? bytes with
    | some text => .ok text
    | none => .error .notText

theorem run_readText (p : Path) (d : Disk) : (readText p).run d = (textOf (d.read p), d) := by
  have hask : (ask (.read p)).run d = (d.read p, d) := rfl
  rw [readText, run_bind, hask, textOf]
  cases d.read p with
  | error e => rfl
  | ok bytes =>
    dsimp only [Except.bind]
    cases String.fromUTF8? bytes <;> rfl

theorem run_readText_ok {d : Disk} {p : Path} {s : String} (h : d.read p = .ok s.toUTF8) :
    (readText p).run d = (.ok s, d) := by
  simp only [run_readText, h, textOf, Except.bind, Text.fromUTF8?_toUTF8]

theorem run_readText_error {d : Disk} {p : Path} {e : DiskError} (h : d.read p = .error e) :
    (readText p).run d = (.error e, d) := by
  rw [run_readText, h]
  rfl

end Program

/-! ## What a published directory holds -/

namespace Publication

variable {index : BatchIndex} {bs : List Batch} {b : Batch} {target : Path} {d d' : Disk}

/-- What stands under a name is the text of one of its files. -/
theorem exists_mem_of_lookup {files : List (String × String)} {name : String} {bytes : ByteArray}
    (h : (files.map fileBytes).reverse.lookup (Text.utf8 name) = some bytes) :
    ∃ text, (name, text) ∈ files ∧ bytes = text.toUTF8 := by
  obtain ⟨before, after, hsplit, -⟩ := List.lookup_eq_some_iff.mp h
  have hfound : (Text.utf8 name, bytes) ∈ files.map fileBytes := by
    rw [← List.mem_reverse, hsplit]
    exact List.mem_append_right _ List.mem_cons_self
  obtain ⟨⟨name', text⟩, hmem, hbytes⟩ := List.mem_map.mp hfound
  obtain ⟨hname, rfl⟩ := Prod.mk.inj hbytes
  obtain rfl : name' = name := Text.utf8_injective hname
  exact ⟨text, hmem, rfl⟩

/-- The last file of a name is the one that stands there, and it is the only one. -/
theorem lookup_reverse_of_unique {files : List (String × String)} {name text : String}
    (hmem : (name, text) ∈ files)
    (hunique : ∀ file ∈ files, file.1 = name → file.2 = text) :
    (files.map fileBytes).reverse.lookup (Text.utf8 name) = some text.toUTF8 := by
  cases hlookup : (files.map fileBytes).reverse.lookup (Text.utf8 name) with
  | none =>
    have hnone := List.lookup_eq_none_iff.mp hlookup (fileBytes (name, text))
      (List.mem_reverse.mpr (List.mem_map_of_mem hmem))
    simp [fileBytes] at hnone
  | some bytes =>
    obtain ⟨text', hfile, rfl⟩ := exists_mem_of_lookup hlookup
    rw [← hunique _ hfile rfl]

theorem mem_manifestFiles {formats : List ManifestFormat} {file : String × String} :
    file ∈ manifestFiles formats index bs ↔
      (∃ b ∈ bs, ∃ f ∈ formats, (f.fileName b.number, f.render b) = file) ∨
        file = (BatchIndex.fileName, index.render) := by
  simp [manifestFiles]

/-- The index stands in its file. -/
theorem lookup_index :
    ((manifestFiles ManifestFormat.standard index bs).map fileBytes).reverse.lookup
      (Text.utf8 BatchIndex.fileName) = some index.render.toUTF8 := by
  refine lookup_reverse_of_unique (mem_manifestFiles.mpr (.inr rfl)) ?_
  intro file hfile hname
  rcases mem_manifestFiles.mp hfile with ⟨b, -, f, -, rfl⟩ | rfl
  · exact absurd hname (ManifestFormat.fileName_ne_index f b.number)
  · rfl

/-- Batches of different numbers stand in files of their own. -/
theorem lookup_batch (hnumbers : (bs.map (·.number)).Nodup) (hb : b ∈ bs) :
    ((manifestFiles ManifestFormat.standard index bs).map fileBytes).reverse.lookup
      (Text.utf8 ((ManifestFormat.json .pretty).fileName b.number)) =
        some ((ManifestFormat.json .pretty).render b).toUTF8 := by
  refine lookup_reverse_of_unique
    (mem_manifestFiles.mpr (.inl ⟨b, hb, .json .pretty, List.mem_cons_self, rfl⟩)) ?_
  intro file hfile hname
  rcases mem_manifestFiles.mp hfile with ⟨c, hc, f, hf, rfl⟩ | rfl
  · cases f with
    | classList => exact absurd hname (ManifestFormat.fileName_classList_ne .pretty _ _)
    | json layout =>
      obtain rfl : layout = .pretty := by simpa [ManifestFormat.standard] using hf
      have hsame : (ManifestFormat.json .pretty).fileName c.number =
        (ManifestFormat.json .pretty).fileName b.number := hname
      obtain rfl : c = b :=
        List.inj_on_of_nodup_map hnumbers hc hb (ManifestFormat.fileName_json_inj hsame)
      rfl
  · exact absurd hname.symm (ManifestFormat.fileName_ne_index _ _)

/-- The paths of the index and of the file with a batch. -/
def indexPath (target : Path) : Path := target.join (.ofString BatchIndex.fileName)

def batchPath (target : Path) (number : Nat) : Path :=
  target.join (.ofString ((ManifestFormat.json .pretty).fileName number))

theorem isPlain_fileName (number : Nat) :
    Path.IsPlain (Text.utf8 ((ManifestFormat.json .pretty).fileName number)) := by
  have hslash : '/' ∉ ((ManifestFormat.json .pretty).fileName number).toList := by
    rw [ManifestFormat.toList_fileName_json, List.mem_append, List.mem_append, not_or, not_or]
    exact ⟨⟨by decide, Path.slash_not_mem_toDigits number⟩, by decide⟩
  apply Path.isPlain_utf8 hslash
  rw [← String.length_toList, ManifestFormat.toList_fileName_json, List.length_append,
    List.length_append]
  have hfront : "batch-".toList.length = 6 := by decide
  omega

theorem isPlain_indexName : Path.IsPlain (Text.utf8 BatchIndex.fileName) :=
  Path.isPlain_utf8 (by decide) (by decide)

/-- A path with room for the file of a batch has room for the index and for the files of all batches
before it. -/
theorem fault?_indexPath {number : Nat} (htarget : target.fault? = none)
    (hroom : (batchPath target number).bytes.length < pathLimit) :
    (indexPath target).fault? = none := by
  refine Path.fault?_join_of_length_le htarget isPlain_indexName (isPlain_fileName number) (by decide)
    ?_ hroom
  have hindex : (Text.utf8 BatchIndex.fileName).length = 10 := by decide
  rw [ManifestFormat.length_fileName_json]
  omega

theorem fault?_batchPath {number number' : Nat} (htarget : target.fault? = none)
    (hle : number' ≤ number) (hroom : (batchPath target number).bytes.length < pathLimit) :
    (batchPath target number').fault? = none :=
  Path.fault?_join_of_length_le htarget (isPlain_fileName number') (isPlain_fileName number)
    (ManifestFormat.isAscii_fileName_json _ _).zero_not_mem
    (ManifestFormat.length_fileName_json_mono hle) hroom

section

variable {files : List (String × String)} {here directory : Location} {name : FileName}

/-- The path of a published target leads to it. -/
theorem Published.leads_target (h : Published target files here directory name d)
    (hname : target.fileName? = some name) :
    Leads d.root d.here target (directory ++ [name]) := by
  obtain ⟨n, hat, hholds⟩ := h.holds
  rw [h.here_eq]
  exact h.leads.entry (Path.entryOf_directory hname) h.entry h.accepted (waypoint?_of_isDirectory hat hholds.isDirectory)

/-- A published file is read as it was written. -/
theorem Published.read (h : Published target files here directory name d)
    (hname : target.fileName? = some name) {file : String} {bytes : ByteArray}
    (hlookup : (files.map fileBytes).reverse.lookup (Text.utf8 file) = some bytes)
    (hplain : Path.IsPlain (Text.utf8 file)) (hlength : (Text.utf8 file).length ≤ maxNameLength)
    (haccepted : (target.join (.ofString file)).fault? = none) :
    d.read (target.join (.ofString file)) = .ok bytes := by
  obtain ⟨n, hat, hholds⟩ := h.holds
  have hfile : d.root.at? (directory ++ [name] ++ [Text.utf8 file]) = some (.file fileMode bytes) := by
    rw [hholds.at?_append hat, hlookup]
    rfl
  exact Disk.read_join (h.leads_target hname) hplain (hplain.isEntryName hlength) haccepted hfile

end

end Publication

/-! ## Reading an index and batches -/

open Publication

section

variable {target : Path} {d : Disk} {index : BatchIndex} {b : Batch} {text : String} {e : DiskError}
  {number : Nat}

theorem run_loadIndex (hread : d.read (indexPath target) = .ok text.toUTF8)
    (hindex : BatchIndex.read? text = some index) :
    (loadIndex target).run d = (.ok (some index), d) := by
  rw [indexPath] at hread
  rw [loadIndex, Program.run_bind, Program.run_readText_ok hread]
  dsimp only
  rw [hindex]
  rfl

theorem run_loadIndex_notFound (hread : d.read (indexPath target) = .error .notFound) :
    (loadIndex target).run d = (.ok none, d) := by
  rw [indexPath] at hread
  rw [loadIndex, Program.run_bind, Program.run_readText_error hread]
  rfl

/-- Where no index was published every test is run, whatever number is asked for. -/
theorem run_resolve_notFound (hread : d.read (indexPath target) = .error .notFound) (k : Int) :
    (resolve target k).run d = (.ok .all, d) := by
  rw [resolve, Program.run_bind, run_loadIndex_notFound hread]
  rfl

theorem run_loadIndex_error (hread : d.read (indexPath target) = .error e) (he : e ≠ .notFound) :
    (loadIndex target).run d = (.error (.unreadable (indexPath target) e), d) := by
  rw [indexPath] at hread
  rw [loadIndex, Program.run_bind, Program.run_readText_error hread]
  cases e <;> first | exact absurd rfl he | rfl

theorem run_readBatch (hread : d.read (batchPath target number) = .ok text.toUTF8)
    (hbatch : Batch.read? text = some b) (hnumber : b.number = number) :
    (readBatch target number).run d = (.ok b, d) := by
  rw [batchPath] at hread
  rw [readBatch, Program.run_bind, Program.run_readText_ok hread]
  dsimp only
  rw [hbatch]
  dsimp only
  rw [if_pos hnumber]
  rfl

/-- What workers read in a directory: the index, and for every number of a batch by the index that
batch. -/
structure Serves (target : Path) (d : Disk) (index : BatchIndex) (bs : List Batch) : Prop where
  reads : (loadIndex target).run d = (.ok (some index), d)
  numbers : bs.map (·.number) = List.range' 1 index.batches
  batches_pos : 0 < index.batches
  batches_le : index.batches ≤ maxInt64
  batch : ∀ b ∈ bs, (readBatch target b.number).run d = (.ok b, d)

namespace Serves

variable {bs : List Batch} {k : Int}

theorem checkNumber (h : Serves target d index bs) (k : Int) :
    checkNumber (some index) k = if 1 ≤ k ∧ k ≤ index.batches then .ok k.toNat
      else .error (.outOfRange k index.batches) := by
  have hcount : index.batchCount = .ok ⟨index.batches, h.batches_pos, h.batches_le⟩ := by
    have hmin : min index.batches maxInt64 = index.batches := Nat.min_eq_left h.batches_le
    rw [BatchIndex.batchCount, BatchCount.ofInt, hmin, dif_pos]
    · rfl
    · exact ⟨by exact_mod_cast h.batches_pos, by exact_mod_cast h.batches_le⟩
  rw [SuiteSplit.checkNumber, hcount]
  rfl

/-- A batch is loaded by its number. -/
theorem run_loadBatch (h : Serves target d index bs) (hb : b ∈ bs) :
    (loadBatch target b.number).run d = (.ok b, d) := by
  have hmem : b.number ∈ List.range' 1 index.batches := h.numbers ▸ List.mem_map_of_mem hb
  have hrange : 1 ≤ (b.number : Int) ∧ (b.number : Int) ≤ index.batches := by
    rw [List.mem_range'_1] at hmem
    omega
  rw [loadBatch, Program.run_bind, h.reads]
  dsimp only
  rw [h.checkNumber, if_pos hrange]
  exact h.batch b hb

/-- There is a batch for every number up to the count. -/
theorem exists_of_number (h : Serves target d index bs) (hlow : 1 ≤ k) (hhigh : k ≤ index.batches) :
    ∃ b ∈ bs, (b.number : Int) = k := by
  have hmem : k.toNat ∈ bs.map (·.number) := by
    rw [h.numbers, List.mem_range'_1]
    omega
  obtain ⟨b, hb, hnumber⟩ := List.mem_map.mp hmem
  exact ⟨b, hb, by omega⟩

/-- No other number is accepted. -/
theorem run_loadBatch_outOfRange (h : Serves target d index bs)
    (hk : ¬ (1 ≤ k ∧ k ≤ index.batches)) :
    (loadBatch target k).run d = (.error (.count (.outOfRange k index.batches)), d) := by
  rw [loadBatch, Program.run_bind, h.reads]
  dsimp only
  rw [h.checkNumber, if_neg hk]
  rfl

/-- A worker runs the classes of the batch with its number. -/
theorem run_resolve (h : Serves target d index bs) (hb : b ∈ bs) :
    (resolve target b.number).run d = (.ok (.ofBatch b), d) := by
  rw [resolve, Program.run_bind, h.reads]
  dsimp only
  rw [Program.run_bind, h.run_loadBatch hb]
  rfl

theorem run_resolve_outOfRange (h : Serves target d index bs)
    (hk : ¬ (1 ≤ k ∧ k ≤ index.batches)) :
    (resolve target k).run d = (.error (.count (.outOfRange k index.batches)), d) := by
  rw [resolve, Program.run_bind, h.reads]
  dsimp only
  rw [Program.run_bind, h.run_loadBatch_outOfRange hk]
  rfl

end Serves

end

end SuiteSplit
