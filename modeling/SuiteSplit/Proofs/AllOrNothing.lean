import SuiteSplit.Proofs.Growth
import SuiteSplit.Proofs.Publishing

/-!
Publishing is all or nothing. Whatever calls fail, the place that the target names holds what it held
before the call, or nothing, or all new files. The directories around the target are made first; where
their path goes up through double dots the target may be one of them.
-/

namespace SuiteSplit

open Node

namespace Publication

/-- What a place held before the publication. Where the path around the target led nowhere and goes up
through double dots, directories that are made on its way may have been added. -/
def StoodAt (d₀ : Disk) (target : Path) (l : Location) (previous : Option Node) : Prop :=
  previous = d₀.root.at? l ∨
    d₀.place? target = none ∧ Path.dots ∈ target.directory.names ∧
      Node.Grown (d₀.root.at? l) previous

/-- A place that the target names before the publication or at a point of it. -/
def Named (d₀ : Disk) (target : Path) (d : Disk) (l : Location) : Prop :=
  d₀.place? target = some l ∨ d.place? target = some l

/-- At a point of the publication the target holds its previous content, or nothing, or all files. -/
def Sound (d₀ : Disk) (target : Path) (files : List (String × String)) (d : Disk) : Prop :=
  ∀ l, Named d₀ target d l → ∃ previous, StoodAt d₀ target l previous ∧
    (d.root.at? l = previous ∨ d.root.at? l = none ∨
      ∃ n, d.root.at? l = some n ∧ HoldsFiles files n)

/-- The target is as it was, or moving it back has failed and its previous content is in the retired
directory. -/
def Undone (d₀ : Disk) (target : Path) (past : List Event) (d : Disk) : Prop :=
  ∀ l, Named d₀ target d l → ∃ previous, StoodAt d₀ target l previous ∧
    (d.root.at? l = previous ∨ ∃ retired e,
      ⟨.makePrivateDirectory target.directory retiredStart,
        .ok (target.directory.join ⟨retired⟩)⟩ ∈ past ∧
      ⟨.rename (Publication.previous (target.directory.join ⟨retired⟩)) target, .error e⟩ ∈ past ∧
      d.root.at? l = none ∧ d.root.at? (l.dropLast ++ [retired, previousName]) = previous)

section

variable {target : Path} {files : List (String × String)} {d₀ d₁ d : Disk} {l : Location}
  {directory : Location} {name : FileName} {past : List Event}

/-- Before the target is touched it holds what it held. -/
theorem stoodAt_of_grown (h : d₀.Grown target.directory d) (hl : Named d₀ target d l) :
    StoodAt d₀ target l (d.root.at? l) := by
  by_cases hleads : ∃ there, Leads d₀.root d₀.here target.directory there
  · obtain ⟨there, hleads⟩ := hleads
    exact .inl (h.at?_eq_of_leads hleads l)
  · have hnone : d₀.place? target = none := by
      rw [Option.eq_none_iff_forall_ne_some]
      intro l hl
      obtain ⟨-, there, -, hthere, -⟩ := Disk.place?_eq_some_iff.mp hl
      exact hleads ⟨there, hthere⟩
    rcases hl with hl | hl
    · rw [hnone] at hl
      cases hl
    · by_cases hdots : Path.dots ∈ target.directory.names
      · exact .inr ⟨hnone, hdots, h.grown.at? l⟩
      · obtain ⟨name, there, -, hthere, rfl⟩ := Disk.place?_eq_some_iff.mp hl
        exact .inl (h.at?_eq_of_no_dots hdots hthere name)

theorem sound_of_grown (h : d₀.Grown target.directory d) : Sound d₀ target files d :=
  fun _ hl => ⟨_, stoodAt_of_grown h hl, .inl rfl⟩

theorem undone_of_grown (h : d₀.Grown target.directory d) : Undone d₀ target past d :=
  fun _ hl => ⟨_, stoodAt_of_grown h hl, .inl rfl⟩

/-- The target names one place only. -/
theorem Named.eq (h : d₀.Grown target.directory d₁) (hname : target.fileName? = some name)
    (hleads : Leads d₁.root d₀.here target.directory directory)
    (hd : d.here = d₀.here)
    (hunique : ∀ place, Leads d.root d₀.here target.directory place → place = directory)
    (hl : Named d₀ target d l) : l = directory ++ [name] := by
  rcases hl with hl | hl
  · obtain ⟨k, there, hk, hthere, rfl⟩ := Disk.place?_eq_some_iff.mp hl
    obtain rfl := Option.some.inj (hname.symm.trans hk)
    rw [(hthere.mono fun l w hw => h.grown.waypoint? hw).unique hleads]
  · obtain ⟨k, there, hk, hthere, rfl⟩ := Disk.place?_eq_some_iff.mp hl
    obtain rfl := Option.some.inj (hname.symm.trans hk)
    rw [hunique there (hd ▸ hthere)]

/-- From the point on where the target's directory is known, what is said of it is said of all places
that the target names. -/
theorem Settled.undone (h : d₀.Grown target.directory d₁) (hname : target.fileName? = some name)
    (hleads : Leads d₁.root d₀.here target.directory directory)
    (hd : Intact target files d₀.here d₁.root directory name d)
    (hfailed : Failed target d₁.root directory name past d) : Undone d₀ target past d := by
  intro l hl
  obtain rfl := hl.eq h hname hleads hd.here_eq hd.leads
  have hplace : d₁.place? target = some (directory ++ [name]) :=
    Disk.place?_eq_some_iff.mpr ⟨name, directory, hname, h.here ▸ hleads, rfl⟩
  refine ⟨d₁.root.at? (directory ++ [name]), stoodAt_of_grown h (.inr hplace), ?_⟩
  rwa [List.dropLast_concat]

theorem Intact.sound (h : d₀.Grown target.directory d₁) (hname : target.fileName? = some name)
    (hleads : Leads d₁.root d₀.here target.directory directory)
    (hd : Intact target files d₀.here d₁.root directory name d) : Sound d₀ target files d := by
  intro l hl
  obtain rfl := hl.eq h hname hleads hd.here_eq hd.leads
  have hplace : d₁.place? target = some (directory ++ [name]) :=
    Disk.place?_eq_some_iff.mpr ⟨name, directory, hname, h.here ▸ hleads, rfl⟩
  exact ⟨_, stoodAt_of_grown h (.inr hplace), hd.holds⟩

/-- The end of a publication, for all places that the target names. -/
def Ended (d₀ : Disk) (target : Path) (files : List (String × String)) (name : FileName)
    (past : List Event) (result : Except ManifestError Unit) (d : Disk) : Prop :=
  match result with
  | .ok _ => ∃ directory, Published target files d₀.here directory name d
  | .error _ => Undone d₀ target past d

theorem always_publishFiles (hname : target.fileName? = some name) (hplain : PlainFiles files)
    (d₀ : Disk) :
    Program.Always (Elsewhere target name) (Sound d₀ target files)
      (Ended d₀ target files name) (publishFiles target files) [] d₀ := by
  refine ((Program.always_makeDirectories target.directory d₀ []).mono
    (fun _ h => sound_of_grown h) (fun _ _ _ h _ => h)).bind fun past result d₁ hsound h₁ => ?_
  split
  · exact .pure hsound (undone_of_grown h₁)
  · refine .ask_bind hsound fun answer d₂ hanswer hallowed => ?_
    rcases hanswer.makePrivateDirectory target.bytes_directory_ne_nil (by decide) (by decide) with
      ⟨staged, directory, rfl, hstaged, -, hleads, hnone, rfl⟩ | ⟨e, rfl, rfl⟩
    · rw [h₁.here] at hleads
      have hne : staged ≠ name := by
        rintro rfl
        exact hallowed rfl
      have site : Site target d₀.here d₁.root directory name staged :=
        ⟨hleads, hstaged, hne, hnone⟩
      have h₂ := site.staging h₁.here
      refine (always_commit hname (.inl fun _ h => h) site hplain h₂).mono (fun _ h => h.sound h₁ hname hleads) ?_
      intro past₃ result d₃ hintact hsettled
      match result, hsettled with
      | .error e, hfailed => exact Settled.undone h₁ hname hleads hintact hfailed
      | .ok _, hpublished => exact ⟨directory, hpublished⟩
    · exact .pure hsound (undone_of_grown h₁)

end

/-- A publication that succeeds has published all of its files. -/
theorem always_publish {formats : List ManifestFormat} {now : Timestamp} {target : Path}
    {bs : List Batch} {name : FileName} (hname : target.fileName? = some name) (d₀ : Disk) :
    let index := BatchIndex.ofBatches now bs
    Program.Always (Elsewhere target name) (Sound d₀ target (manifestFiles formats index bs))
      (fun past result d =>
        match result with
        | .ok i => i = index ∧
          ∃ directory, Published target (manifestFiles formats index bs) d₀.here directory name d
        | .error _ => Undone d₀ target past d)
      (publish formats now target bs) [] d₀ := by
  intro index
  have hplain := plainFiles_manifestFiles formats index bs
  refine (always_publishFiles hname hplain d₀).bind fun past result d hsound hended => ?_
  match result, hended with
  | .error e, hundone => exact .pure hsound hundone
  | .ok _, hpublished => exact .pure hsound ⟨rfl, hpublished⟩

end Publication

open Publication

/-- Publishing is all or nothing, whatever calls of it fail. At every point the target holds its
previous content, or nothing, or exactly the new files. It holds the new files if publishing succeeds;
if publishing fails it is as it was, unless moving it back has failed, and then its previous content is
in the retired directory. -/
theorem publish_all_or_nothing {formats : List ManifestFormat} {now : Timestamp} {target : Path}
    {bs : List Batch} {name : FileName} {d₀ d : Disk} {events : List Event}
    {p : Program (Except ManifestError BatchIndex)} (hname : target.fileName? = some name)
    (hrun : (publish formats now target bs).Reaches d₀ events p d)
    (hdrawn : ∀ event ∈ events, event.drawn? ≠ some (target.directory.join ⟨name⟩)) :
    let index := BatchIndex.ofBatches now bs
    let files := manifestFiles formats index bs
    Sound d₀ target files d ∧
      (∀ i, p = .done (.ok i) → i = index ∧
        ∃ l n, d.place? target = some l ∧ d.root.at? l = some n ∧ HoldsFiles files n) ∧
      ∀ e, p = .done (.error e) → Undone d₀ target events d := by
  intro index files
  have h := (always_publish hname d₀).of_reaches hrun hdrawn
  refine ⟨h.holds, ?_, ?_⟩
  · rintro i rfl
    obtain ⟨-, rfl, directory, hpublished⟩ := h
    obtain ⟨n, hat, hn⟩ := hpublished.holds
    refine ⟨rfl, directory ++ [name], n, Disk.place?_eq_some_iff.mpr ?_, hat, hn⟩
    exact ⟨name, directory, hname, hpublished.here_eq ▸ hpublished.leads, rfl⟩
  · rintro e rfl
    exact h.2

/-- A disk on which files were published before. -/
def diskWithOldFiles : Disk :=
  let here : FileName := Text.utf8 "work"
  let old : Node := .directory directoryMode [(Text.utf8 "index.json", .file fileMode "".toUTF8)]
  ⟨.directory directoryMode [(here, .directory directoryMode [(Text.utf8 "out", old)])], [here]⟩

/-- Errors of the calls of a publication whose staged directory cannot take its place. -/
def faultsOfSwap : List (Option DiskError) :=
  List.replicate 8 none ++ some (.other 5 "Input/output error") :: List.replicate 3 none

def midnight : Timestamp := ⟨⟨2025, 1, 1⟩, 0, 0, 0⟩

theorem publish_nil (formats : List ManifestFormat) (now : Timestamp) (target : Path) :
    publish formats now target [] =
      publishIndexed target [(BatchIndex.fileName, (BatchIndex.ofBatches now []).render)]
        (BatchIndex.ofBatches now []) := rfl

section

/-! The bytes of the files do not matter for what follows. -/

variable (text : String) (index : BatchIndex)

private theorem drawn_of_faultsOfSwap :
    (((publishIndexed (Path.ofString "out") [(BatchIndex.fileName, text)] index).trial
      faultsOfSwap diskWithOldFiles).1.all fun event => event.drawn? ≠
        some ((Path.ofString "out").directory.join ⟨Text.utf8 "out"⟩)) = true := by
  cbv

private theorem done_of_faultsOfSwap :
    ((publishIndexed (Path.ofString "out") [(BatchIndex.fileName, text)] index).trial
      faultsOfSwap diskWithOldFiles).2.1 =
        .done (.error (.unwritable (Path.ofString "out") (.other 5 "Input/output error"))) := by
  cbv

private theorem place_of_faultsOfSwap :
    ((publishIndexed (Path.ofString "out") [(BatchIndex.fileName, text)] index).trial
      faultsOfSwap diskWithOldFiles).2.2.place? (Path.ofString "out") =
        some [Text.utf8 "work", Text.utf8 "out"] := by
  cbv

private theorem error_through_dots :
    ((publishIndexed (Path.ofString "a/../a/.") [(BatchIndex.fileName, text)] index).run
      Disk.blank).1 = .error (.unwritable (Path.ofString "a/../a/.") .busy) := by
  cbv

private theorem place_through_dots :
    ((publishIndexed (Path.ofString "a/../a/.") [(BatchIndex.fileName, text)] index).run
      Disk.blank).2.place? (Path.ofString "a/../a/.") =
        some [Text.utf8 "work", Text.utf8 "a"] := by
  cbv

private theorem made_through_dots :
    ((publishIndexed (Path.ofString "a/../a/.") [(BatchIndex.fileName, text)] index).run
      Disk.blank).2.root.at? [Text.utf8 "work", Text.utf8 "a"] = some .emptyDirectory := by
  cbv

end

/-- The previous files are back when the staged directory cannot take their place. -/
theorem undone_of_faultsOfSwap :
    let target := Path.ofString "out"
    let run := (publish ManifestFormat.standard midnight target []).trial faultsOfSwap
      diskWithOldFiles
    target.fileName? = some (Text.utf8 "out") ∧
      (∀ event ∈ run.1, event.drawn? ≠ some (target.directory.join ⟨Text.utf8 "out"⟩)) ∧
      run.2.1 = .done (.error (.unwritable target (.other 5 "Input/output error"))) ∧
      run.2.2.place? target = some [Text.utf8 "work", Text.utf8 "out"] ∧
      Undone diskWithOldFiles target run.1 run.2.2 := by
  have hname : (Path.ofString "out").fileName? = some (Text.utf8 "out") := by cbv
  have hdrawn := drawn_of_faultsOfSwap (BatchIndex.ofBatches midnight []).render
    (BatchIndex.ofBatches midnight [])
  have hdone := done_of_faultsOfSwap (BatchIndex.ofBatches midnight []).render
    (BatchIndex.ofBatches midnight [])
  have hplace := place_of_faultsOfSwap (BatchIndex.ofBatches midnight []).render
    (BatchIndex.ofBatches midnight [])
  rw [← publish_nil ManifestFormat.standard] at hdrawn hdone hplace
  have hevents := fun event hevent =>
    of_decide_eq_true (List.all_eq_true.mp hdrawn event hevent)
  have h := publish_all_or_nothing hname (Program.reaches_trial faultsOfSwap _ diskWithOldFiles)
    hevents
  exact ⟨hname, hevents, hdone, hplace, h.2.2 _ hdone⟩

/-- A target can be one of the directories that are made on the way to it. Publishing fails then, and
where nothing was there is a directory. -/
theorem failed_publish_makes_target :
    let target := Path.ofString "a/../a/."
    let run := (publish ManifestFormat.standard midnight target []).run Disk.blank
    let place : Location := [Text.utf8 "work", Text.utf8 "a"]
    target.fileName? = some (Text.utf8 "a") ∧
      run.1 = .error (.unwritable target .busy) ∧
      run.2.place? target = some place ∧
      Disk.blank.root.at? place = none ∧ run.2.root.at? place = some .emptyDirectory := by
  dsimp only
  rw [publish_nil]
  exact ⟨by cbv, error_through_dots _ _, place_through_dots _ _, by cbv, made_through_dots _ _⟩

end SuiteSplit
