import SuiteSplit.Proofs.Interleaving
import SuiteSplit.Proofs.PublishedPlan

/-!
A worker that reads while a new plan is published.

The worker opens the index twice and then the file of its batch, and a publication may do any of its
calls in between. Where a plan was published before, the target holds all files of the old plan, or
nothing, or all files of the new one at every point. So whatever the worker has seen of an index, the
file of its batch is one that the old or the new plan has for that number, and it is read whole.
-/

namespace SuiteSplit

open Node Program

namespace Publication

section

variable {target : Path} {files old : List (String × String)} {here directory : Location}
  {base base' : Node} {name : FileName} {d d₀ : Disk}

/-! ## Publishing over files -/

theorem Intact.over (h : Intact target files here base directory name d)
    (hsame : base.at? (directory ++ [name]) = base'.at? (directory ++ [name])) :
    Intact target files here base' directory name d :=
  ⟨h.here_eq, h.leads, hsame ▸ h.holds⟩

/-- Where the directory of the target is there, no directories are made for it. -/
theorem intact_of_grown (hleads : Leads d₀.root d₀.here target.directory directory)
    (h : d₀.Grown target.directory d) : Intact target files d₀.here d₀.root directory name d where
  here_eq := h.here
  leads _ hplace := hplace.unique (hleads.mono fun _ _ hw => h.grown.waypoint? hw)
  holds := .inl (h.at?_eq_of_leads hleads _)

/-- Publishing at a target that is there leaves it as it was, or away, or with all files. No directory
for one user is made in its place, since it is there as long as such directories are made. -/
theorem always_republish (hname : target.fileName? = some name) (hplain : PlainFiles files)
    (hleads : Leads d₀.root d₀.here target.directory directory)
    (hsome : d₀.root.at? (directory ++ [name]) ≠ none) :
    Program.Always (fun _ => True) (Intact target files d₀.here d₀.root directory name)
      (fun _ _ _ => True) (publishFiles target files) [] d₀ := by
  refine ((Program.always_makeDirectories target.directory d₀ []).mono
    (fun _ h => intact_of_grown hleads h) (fun _ _ _ h _ => h)).bind fun past result d₁ hintact h₁ => ?_
  split
  · exact .pure hintact trivial
  · refine .ask_bind hintact fun answer d₂ hanswer _ => ?_
    rcases hanswer.makePrivateDirectory target.bytes_directory_ne_nil (by decide) (by decide) with
      ⟨staged, place, rfl, hstaged, -, hplace, hnone, rfl⟩ | ⟨e, rfl, rfl⟩
    · rw [h₁.here] at hplace
      obtain rfl := hintact.leads place hplace
      have hsame := h₁.at?_eq_of_leads hleads (place ++ [name])
      have hne : staged ≠ name := by
        rintro rfl
        exact hsome (hsame.symm.trans hnone)
      have site : Site target d₀.here d₁.root place name staged := ⟨hplace, hstaged, hne, hnone⟩
      have hspares : Spares target d₁.root place name fun _ => True := .inr (hsame ▸ hsome)
      refine (always_commit hname hspares site hplain (site.staging h₁.here)).mono ?_ ?_
      · exact fun d h => h.over hsame
      · exact fun _ _ _ _ _ => trivial
    · exact .pure hintact trivial

theorem always_republishIndexed (index : BatchIndex) (hname : target.fileName? = some name)
    (hplain : PlainFiles files) (hleads : Leads d₀.root d₀.here target.directory directory)
    (hsome : d₀.root.at? (directory ++ [name]) ≠ none) :
    Program.Always (fun _ => True) (Intact target files d₀.here d₀.root directory name)
      (fun _ _ _ => True) (publishIndexed target files index) [] d₀ := by
  refine (always_republish hname hplain hleads hsome).bind fun past result d hintact _ => ?_
  cases result with
  | error e => exact .pure hintact trivial
  | ok _ => exact .pure hintact trivial

/-! ## What can be read meanwhile -/

/-- A target that is there holds the old files or the new ones. -/
theorem Intact.exists_holdsFiles (h : Intact target files here base directory name d)
    (hold : ∃ n, base.at? (directory ++ [name]) = some n ∧ HoldsFiles old n)
    (hsome : d.root.at? (directory ++ [name]) ≠ none) :
    ∃ fs n, (fs = old ∨ fs = files) ∧ d.root.at? (directory ++ [name]) = some n ∧
      HoldsFiles fs n := by
  rcases h.holds with hsame | hnone | ⟨n, hat, hholds⟩
  · obtain ⟨n, hat, hholds⟩ := hold
    exact ⟨old, n, .inl rfl, hsame.trans hat, hholds⟩
  · exact absurd hnone hsome
  · exact ⟨files, n, .inr rfl, hat, hholds⟩

/-- What is read below the target is an old file or a new one, as a whole. -/
theorem Intact.mem_of_read (h : Intact target files here base directory name d)
    (hname : target.fileName? = some name) (haccepted : target.fault? = none)
    (hentry : IsEntryName name)
    (hold : ∃ n, base.at? (directory ++ [name]) = some n ∧ HoldsFiles old n) {file text : String}
    (hplain : Path.IsPlain (Text.utf8 file))
    (hread : d.read (target.join (.ofString file)) = .ok text.toUTF8) :
    (file, text) ∈ old ∨ (file, text) ∈ files := by
  have hne : target.bytes ≠ [] := (Path.fault?_eq_none_iff.mp haccepted).2.1
  obtain ⟨there, hthere, hfound⟩ := Disk.read_eq_ok hne hplain hread
  -- the path leads through the target, so the target is there
  obtain ⟨place, hplace, hsee, hend⟩ :=
    hthere.of_entry (Path.entryOf_directory hname) hentry.ne_dots
  obtain rfl := h.leads place (h.here_eq ▸ hplace)
  obtain ⟨fs, n, hfs, hat, hholds⟩ :=
    h.exists_holdsFiles hold fun hnone => hsee (by rw [waypoint?, hnone, Option.map_none])
  obtain rfl := hend (waypoint?_of_isDirectory hat hholds.isDirectory)
  rw [hholds.at?_append hat] at hfound
  have hlookup : (fs.map fileBytes).reverse.lookup (Text.utf8 file) = some text.toUTF8 := by
    rcases hfound with ⟨link, hlink⟩ | ⟨mode, hfile⟩
    · simp at hlink
    · obtain ⟨bytes, hbytes, hfile⟩ := Option.map_eq_some_iff.mp hfile
      cases hfile
      exact hbytes
  obtain ⟨text', hmem, htext⟩ := exists_mem_of_lookup hlookup
  obtain rfl : text = text' := String.toByteArray_inj.mp htext
  rcases hfs with rfl | rfl
  · exact .inl hmem
  · exact .inr hmem

end

/-- The file of a batch is that of a batch with the number. -/
theorem exists_of_mem_manifestFiles {formats : List ManifestFormat} {index : BatchIndex}
    {bs : List Batch} {number : Nat} {text : String}
    (h : ((ManifestFormat.json .pretty).fileName number, text) ∈ manifestFiles formats index bs) :
    ∃ b ∈ bs, ∃ layout, b.number = number ∧ text = (ManifestFormat.json layout).render b := by
  rcases mem_manifestFiles.mp h with ⟨b, hb, f, -, hfile⟩ | hfile
  · obtain ⟨hname, rfl⟩ := Prod.mk.inj hfile
    cases f with
    | json layout => exact ⟨b, hb, layout, ManifestFormat.fileName_json_inj hname, rfl⟩
    | classList => exact absurd hname (ManifestFormat.fileName_classList_ne _ _ _)
  · exact absurd (Prod.mk.inj hfile).1 (ManifestFormat.fileName_ne_index _ _)

end Publication

open Publication

/-! ## What a worker sees -/

section

variable {inv : Disk → Prop} {target : Path} {k : Int}

theorem checkNumber_eq_ok {index : Option BatchIndex} {number : Nat}
    (h : checkNumber index k = .ok number) : (number : Int) = k := by
  cases index with
  | none =>
    change (if _ then _ else _) = _ at h
    split at h
    · cases h
      omega
    · cases h
  | some index =>
    change index.batchCount.bind _ = _ at h
    cases hcount : index.batchCount with
    | error e =>
      rw [hcount] at h
      cases h
    | ok count =>
      rw [hcount] at h
      change (if _ then _ else _) = _ at h
      split at h
      · cases h
        omega
      · cases h

/-- The batch stood in the file of its number on one of the disks. -/
def StoodInFile (inv : Disk → Prop) (target : Path) (b : Batch) : Prop :=
  ∃ d text, inv d ∧ d.read (batchPath target b.number) = .ok text.toUTF8 ∧ Batch.read? text = some b

theorem observes_loadIndex : Observes inv (fun _ => True) (loadIndex target) := by
  refine (Observes.readText _).bind fun result _ => ?_
  split
  · exact .pure trivial
  · exact .pure trivial
  · split
    · exact .pure trivial
    · exact .pure trivial

theorem observes_readBatch {number : Nat} : Observes inv
    (fun result => ∀ b, result = .ok b → b.number = number ∧ StoodInFile inv target b)
    (readBatch target number) := by
  refine (Observes.readText _).bind fun result hread => ?_
  cases result with
  | error e => exact .pure nofun
  | ok text =>
    dsimp only
    split
    · exact .pure nofun
    · next b hb =>
      split
      · next hnumber =>
        apply Observes.pure
        rintro _ ⟨rfl⟩
        obtain ⟨d, hd, hbytes⟩ := hread text rfl
        subst hnumber
        exact ⟨rfl, d, text, hd, hbytes, hb⟩
      · exact .pure nofun

theorem observes_loadBatch : Observes inv
    (fun result => ∀ b, result = .ok b → (b.number : Int) = k ∧ StoodInFile inv target b)
    (loadBatch target k) := by
  refine observes_loadIndex.bind fun result _ => ?_
  cases result with
  | error e => exact .pure nofun
  | ok index =>
    dsimp only
    cases hnumber : checkNumber index k with
    | error e => exact .pure nofun
    | ok number =>
      refine observes_readBatch.mono fun result hbatch => ?_
      rintro b rfl
      obtain ⟨rfl, hstood⟩ := hbatch b rfl
      exact ⟨checkNumber_eq_ok hnumber, hstood⟩

theorem observes_resolve : Observes inv
    (fun result => ∀ s, result = .ok s → s = .all ∨
      ∃ b, s = .ofBatch b ∧ (b.number : Int) = k ∧ StoodInFile inv target b)
    (resolve target k) := by
  refine observes_loadIndex.bind fun result _ => ?_
  split
  · exact .pure nofun
  · apply Observes.pure
    rintro _ ⟨rfl⟩
    exact .inl rfl
  · refine observes_loadBatch.bind fun result hbatch => ?_
    split
    · exact .pure nofun
    · next b =>
      apply Observes.pure
      rintro _ ⟨rfl⟩
      exact .inr ⟨b, rfl, hbatch b rfl⟩

end

/-- A batch that stood in its file at a point of a publication over published files is one of the old
plan or of the new one, as far as a worker goes by it. -/
theorem StoodInFile.exists_planned {target : Path} {formats formats' : List ManifestFormat}
    {index index' : BatchIndex} {bs bs' : List Batch} {here directory : Location} {name : FileName}
    {d₀ : Disk} {b : Batch} (hname : target.fileName? = some name)
    (hold : Published target (manifestFiles formats index bs) here directory name d₀)
    (h : StoodInFile (Intact target (manifestFiles formats' index' bs') here d₀.root directory name)
      target b) :
    (∃ c ∈ bs, c.number = b.number ∧ Selection.ofBatch b = .ofBatch c) ∨
      ∃ c ∈ bs', c.number = b.number ∧ Selection.ofBatch b = .ofBatch c := by
  obtain ⟨d, text, hintact, hread, hb⟩ := h
  have hbatch {formats : List ManifestFormat} {index : BatchIndex} {bs : List Batch}
      (hmem : ((ManifestFormat.json .pretty).fileName b.number, text) ∈
        manifestFiles formats index bs) :
      ∃ c ∈ bs, c.number = b.number ∧ Selection.ofBatch b = .ofBatch c := by
    obtain ⟨c, hc, layout, hnumber, rfl⟩ := exists_of_mem_manifestFiles hmem
    obtain ⟨-, hclasses⟩ := Batch.of_read?_render hb
    exact ⟨c, hc, hnumber, by rw [Selection.ofBatch, Selection.ofBatch, hclasses]⟩
  rcases hintact.mem_of_read hname hold.accepted hold.entry hold.holds (isPlain_fileName _) hread with
    hmem | hmem
  · exact .inl (hbatch hmem)
  · exact .inr (hbatch hmem)

/-- A worker that races a publication never runs a wrong share. Whatever calls of the two fail and in
whatever order they are made, it runs everything, or it fails, or it runs the classes of the batch with
its number in the plan that was published before or in the new one. -/
theorem resolve_racing_publish {formats formats' : List ManifestFormat} {now now' : Timestamp}
    {target : Path} {bs bs' : List Batch} {k : Int} {index : BatchIndex} {d d₀ d' : Disk}
    {p : Program (Except ManifestError BatchIndex)} {result : Except ManifestError Selection}
    (hpublished : (publish formats now target bs).Completes d (.ok index) d₀)
    (hraces : Races (publish formats' now' target bs') (resolve target k) d₀ p (.done result) d') :
    result = .ok .all ∨ (∃ e, result = .error e) ∨
      (∃ b ∈ bs, (b.number : Int) = k ∧ result = .ok (.ofBatch b)) ∨
      ∃ b ∈ bs', (b.number : Int) = k ∧ result = .ok (.ofBatch b) := by
  obtain ⟨-, hfiles⟩ := of_publish hpublished
  obtain ⟨directory, name, hname, hold⟩ := exists_published (plainFiles_manifestFiles _ _ _) hfiles
  have hleads : Leads d₀.root d₀.here target.directory directory := hold.here_eq ▸ hold.leads
  have hsome : d₀.root.at? (directory ++ [name]) ≠ none := by
    obtain ⟨n, hat, -⟩ := hold.holds
    simp [hat]
  have hwriter := always_republishIndexed (BatchIndex.ofBatches now' bs') hname
    (plainFiles_manifestFiles formats' (BatchIndex.ofBatches now' bs') bs') hleads hsome
  obtain ⟨-, hseen⟩ := hraces.observes hwriter observes_resolve
  cases result with
  | error e => exact .inr (.inl ⟨e, rfl⟩)
  | ok s =>
    rcases hseen s rfl with rfl | ⟨b, rfl, rfl, hstood⟩
    · exact .inl rfl
    · rw [hold.here_eq] at hstood
      rcases hstood.exists_planned hname hold with ⟨c, hc, hnumber, hclasses⟩ |
        ⟨c, hc, hnumber, hclasses⟩
      · exact .inr (.inr (.inl ⟨c, hc, by rw [hnumber], by rw [hclasses]⟩))
      · exact .inr (.inr (.inr ⟨c, hc, by rw [hnumber], by rw [hclasses]⟩))

private theorem publish_eq_fiveFiles (now : Timestamp) (target : Path) : ∃ t₁ t₂ t₃ t₄ t₅,
    publish ManifestFormat.standard now target (plan twoBatches threeRecords) =
      publishIndexed target [("batch-1.json", t₁), ("batch-1.txt", t₂), ("batch-2.json", t₃),
        ("batch-2.txt", t₄), ("index.json", t₅)]
        (BatchIndex.ofBatches now (plan twoBatches threeRecords)) := by
  rw [plan_threeRecords]
  exact ⟨_, _, _, _, _, rfl⟩

/-- Whatever stands in the files, the target is away once the previous one was moved aside. -/
private theorem resolve_halfway (t₁ t₂ t₃ t₄ t₅ u₁ u₂ u₃ : String) (index index' : BatchIndex) :
    ((resolve (Path.ofString "out") 2).run ((publishIndexed (Path.ofString "out")
      [("batch-1.json", u₁), ("batch-1.txt", u₂), ("index.json", u₃)] index').trial
      (List.replicate 10 none) ((publishIndexed (Path.ofString "out") [("batch-1.json", t₁),
        ("batch-1.txt", t₂), ("batch-2.json", t₃), ("batch-2.txt", t₄), ("index.json", t₅)]
        index).run Disk.blank).2).2.2).1 = .ok .all := by
  cbv

/-- A worker that comes between the two renames of a publication runs everything. -/
theorem resolve_between_renames :
    let target := Path.ofString "out"
    let old := plan twoBatches threeRecords
    let new := plan oneBatch []
    let d₀ := ((publish ManifestFormat.standard midnight target old).run Disk.blank).2
    let halfway := (publish ManifestFormat.standard midnight target new).trial
      (List.replicate 10 none) d₀
    let seen := (resolve target 2).run halfway.2.2
    (publish ManifestFormat.standard midnight target old).Completes Disk.blank
        (.ok (BatchIndex.ofBatches midnight old)) d₀ ∧
      Races (publish ManifestFormat.standard midnight target new) (resolve target 2) d₀ halfway.2.1
        (.done seen.1) seen.2 ∧
      seen.1 = .ok .all ∧
      (seen.1 = .ok .all ∨ (∃ e, seen.1 = .error e) ∨
        (∃ b ∈ old, (b.number : Int) = 2 ∧ seen.1 = .ok (.ofBatch b)) ∨
        ∃ b ∈ new, (b.number : Int) = 2 ∧ seen.1 = .ok (.ofBatch b)) := by
  dsimp only
  have hpublished := completes_run (publish ManifestFormat.standard midnight (Path.ofString "out")
    (plan twoBatches threeRecords)) Disk.blank
  rw [publish_threeRecords] at hpublished
  have hseen : ((resolve (Path.ofString "out") 2).run ((publish ManifestFormat.standard midnight
      (Path.ofString "out") (plan oneBatch [])).trial (List.replicate 10 none)
      ((publish ManifestFormat.standard midnight (Path.ofString "out")
        (plan twoBatches threeRecords)).run Disk.blank).2).2.2).1 = .ok .all := by
    obtain ⟨t₁, t₂, t₃, t₄, t₅, hold⟩ := publish_eq_fiveFiles midnight (Path.ofString "out")
    obtain ⟨u₁, u₂, u₃, hnew⟩ := publish_eq_threeFiles midnight (Path.ofString "out")
    rw [hold, hnew]
    exact resolve_halfway t₁ t₂ t₃ t₄ t₅ u₁ u₂ u₃ _ _
  generalize ((publish ManifestFormat.standard midnight (Path.ofString "out")
    (plan twoBatches threeRecords)).run Disk.blank).2 = d₀ at hpublished hseen ⊢
  have hraces := (reaches_trial (List.replicate 10 none) (publish ManifestFormat.standard midnight
    (Path.ofString "out") (plan oneBatch [])) d₀).races (races_run _ (resolve (Path.ofString "out") 2) _)
  exact ⟨hpublished, hraces, hseen, resolve_racing_publish hpublished hraces⟩

end SuiteSplit
