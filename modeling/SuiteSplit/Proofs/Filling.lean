import SuiteSplit.Manifest.Publish
import SuiteSplit.Proofs.Calls
import SuiteSplit.Proofs.Scene

/-!
Filling a staged directory. While files are written the target keeps what it held, and when nothing
fails the staged directory holds each file with its last text, and no other file.
-/

namespace SuiteSplit

open Node

namespace Publication

/-- The name and the bytes of a file. -/
def fileBytes (file : String × String) : FileName × ByteArray := (Text.utf8 file.1, file.2.toUTF8)

/-- A directory that others may read and that holds files, each with the last text of its name, and
nothing else. -/
def HoldsFiles (files : List (String × String)) (n : Node) : Prop :=
  ∃ entries, n = .directory directoryMode entries ∧ ∀ name,
    entries.lookup name = ((files.map fileBytes).reverse.lookup name).map (Node.file fileMode)

/-- Names of files that can stand in a directory. -/
def PlainFiles (files : List (String × String)) : Prop :=
  ∀ file ∈ files, '/' ∉ file.1.toList ∧ 3 ≤ file.1.length

/-- Where files are published: a name in the directory that the path around the target leads to, with a
staged directory beside it that was not there before. -/
structure Site (target : Path) (here : Location) (base : Node) (directory : Location)
    (name staged : FileName) : Prop where
  leads : Leads base here target.directory directory
  plain : Path.IsPlain staged
  ne : staged ≠ name
  new : base.at? (directory ++ [staged]) = none

/-- What a point of the publication is allowed to look like: the path of the target leads to its
directory or nowhere, and the target holds its previous content, or nothing, or all files. -/
structure Intact (target : Path) (files : List (String × String)) (here : Location) (base : Node)
    (directory : Location) (name : FileName) (d : Disk) : Prop where
  here_eq : d.here = here
  leads : ∀ place, Leads d.root here target.directory place → place = directory
  holds : d.root.at? (directory ++ [name]) = base.at? (directory ++ [name]) ∨
    d.root.at? (directory ++ [name]) = none ∨
    ∃ n, d.root.at? (directory ++ [name]) = some n ∧ HoldsFiles files n

/-- The staged directory holds a node, and nothing else has changed. -/
structure Staging (here : Location) (base : Node) (directory : Location) (name staged : FileName)
    (n : Node) (d : Disk) : Prop where
  here_eq : d.here = here
  scene : Scene base directory [(name, base.at? (directory ++ [name])), (staged, some n)] d.root
  isDirectory : n.isDirectory

section

variable {target : Path} {files : List (String × String)} {here : Location} {base n : Node}
  {directory : Location} {name staged : FileName} {d d' : Disk} {allowed : Event → Prop}
  {past : List Event}

/-- A new directory for one user, in which files are to be staged. -/
theorem Site.staging (site : Site target here d.root directory name staged) (hhere : d.here = here) :
    Staging here d.root directory name staged (.directory privateMode [])
      (d.put (directory ++ [staged]) (some (.directory privateMode []))) := by
  refine ⟨hhere, (Scene.start site.leads.directory name).add ?_ _, rfl⟩
  simpa using site.ne.symm

theorem Staging.at?_staged (h : Staging here base directory name staged n d) :
    d.root.at? (directory ++ [staged]) = some n := h.scene.inside _ _ (by simp)

theorem Staging.leads_unique (site : Site target here base directory name staged)
    (h : Staging here base directory name staged n d) {place : Location}
    (hleads : Leads d.root here target.directory place) : place = directory := by
  refine h.scene.leads_unique ?_ site.leads hleads
  exact .cons (.inr (.inr rfl)) (.cons (.inr (.inl site.new)) nofun)

theorem Staging.intact (site : Site target here base directory name staged)
    (h : Staging here base directory name staged n d) :
    Intact target files here base directory name d :=
  ⟨h.here_eq, fun _ => h.leads_unique site, .inl (h.scene.inside _ _ (by simp))⟩

/-- The path of the staged directory. -/
def stagedPath (target : Path) (staged : FileName) : Path := target.directory.join ⟨staged⟩

theorem Site.entryOf (site : Site target here base directory name staged) :
    (stagedPath target staged).EntryOf target.directory staged :=
  Path.entryOf_join target.bytes_directory_ne_nil site.plain

theorem Site.bytes_ne_nil (site : Site target here base directory name staged) :
    (stagedPath target staged).bytes ≠ [] :=
  Path.bytes_join_ne_nil target.bytes_directory_ne_nil site.plain

/-- The path of the staged directory leads there or nowhere. -/
theorem Staging.leads_staged (site : Site target here base directory name staged)
    (h : Staging here base directory name staged n d) {place : Location}
    (hleads : Leads d.root d.here (stagedPath target staged) place) :
    place = directory ++ [staged] := by
  obtain ⟨outer, houter, -, hplace⟩ := hleads.of_entry site.entryOf site.plain.ne_dots
  rw [h.here_eq] at houter
  obtain rfl := h.leads_unique site houter
  exact hplace (waypoint?_of_isDirectory h.at?_staged h.isDirectory)

theorem Staging.put_below (site : Site target here base directory name staged)
    (h : Staging here base directory name staged n d) (v : Option Node) (k : FileName) :
    Staging here base directory name staged (n.put v [k])
      (d.put (directory ++ [staged] ++ [k]) v) := by
  have hother : ∀ e ∈ [(name, base.at? (directory ++ [name]))] ++ [], e.1 ≠ staged := by
    simpa using site.ne.symm
  have hscene : Scene base directory ([(name, base.at? (directory ++ [name]))] ++
    (staged, some n) :: []) d.root := h.scene
  exact ⟨h.here_eq, hscene.put_below hother v k, by rw [isDirectory_put, h.isDirectory]⟩

theorem Staging.put (site : Site target here base directory name staged)
    (h : Staging here base directory name staged n d) {n' : Node} (hn' : n'.isDirectory) :
    Staging here base directory name staged n' (d.put (directory ++ [staged]) (some n')) := by
  have hother : ∀ e ∈ [(name, base.at? (directory ++ [name]))] ++ [], e.1 ≠ staged := by
    simpa using site.ne.symm
  have hscene : Scene base directory ([(name, base.at? (directory ++ [name]))] ++
    (staged, some n) :: []) d.root := h.scene
  exact ⟨h.here_eq, hscene.put hother (some n'), hn'⟩

theorem HoldsFiles.isDirectory (h : HoldsFiles files n) : n.isDirectory := by
  obtain ⟨entries, rfl, -⟩ := h
  rfl

theorem holdsFiles_nil : HoldsFiles [] (.directory directoryMode []) := ⟨[], rfl, fun _ => rfl⟩

/-- A file more, in place of an older one of its name. -/
theorem HoldsFiles.append {file : String × String} (h : HoldsFiles files n) :
    HoldsFiles (files ++ [file]) (n.put (some (.file fileMode file.2.toUTF8)) [Text.utf8 file.1]) := by
  obtain ⟨entries, rfl, hentries⟩ := h
  refine ⟨_, put_single _ _ _ _, fun k => ?_⟩
  rw [lookup_assign, List.map_append, List.reverse_append]
  simp only [List.map_cons, List.map_nil, List.reverse_singleton, List.singleton_append,
    List.lookup_cons, fileBytes]
  by_cases hk : k = Text.utf8 file.1
  · simp [hk]
  · simp [hk, beq_eq_false_iff_ne.mpr hk, hentries]

/-- Under a name stands the file with its last text, or nothing. -/
theorem HoldsFiles.at?_append {root : Node} {l : Location} (h : HoldsFiles files n)
    (hat : root.at? l = some n) (name : FileName) :
    root.at? (l ++ [name]) =
      ((files.map fileBytes).reverse.lookup name).map (Node.file fileMode) := by
  obtain ⟨entries, rfl, hentries⟩ := h
  rw [at?_append_of_some hat, at?_cons, ← hentries]
  simp [Node.entries]

/-- What is written to the staged directory is a new file, or a file in place of an older one. -/
theorem Staging.write (site : Site target here base directory name staged)
    (h : Staging here base directory name staged n d) (hn : HoldsFiles files n)
    {file : String × String} (hplain : '/' ∉ file.1.toList ∧ 3 ≤ file.1.length)
    (hwrite : d.write ((stagedPath target staged).join (.ofString file.1)) file.2.toUTF8 =
      .ok ((), d')) :
    Staging here base directory name staged
      (n.put (some (.file fileMode file.2.toUTF8)) [Text.utf8 file.1]) d' := by
  have hname := Path.isPlain_utf8 hplain.1 hplain.2
  obtain ⟨place, hleads, hnew, hold⟩ := Disk.write_eq_ok site.bytes_ne_nil hname hwrite
  obtain rfl := h.leads_staged site hleads
  have hat := hn.at?_append h.at?_staged (Text.utf8 file.1)
  have hd' : d' = d.put (directory ++ [staged] ++ [Text.utf8 file.1])
      (some (.file fileMode file.2.toUTF8)) := by
    cases hlast : (files.map fileBytes).reverse.lookup (Text.utf8 file.1) with
    | none => exact hnew (by rw [hat, hlast]; rfl)
    | some bytes => exact hold fileMode bytes (by rw [hat, hlast]; rfl)
  rw [hd']
  exact h.put_below site _ _

/-- What the staged directory holds in the end. -/
def Filled (files : List (String × String)) (here : Location) (base : Node) (directory : Location)
    (name staged : FileName) (result : Except ManifestError Unit) (d : Disk) : Prop :=
  ∃ n, Staging here base directory name staged n d ∧ (result = .ok () → HoldsFiles files n)

theorem always_writeFiles (site : Site target here base directory name staged)
    {done rest : List (String × String)} (hplain : PlainFiles rest)
    (h : Staging here base directory name staged n d) (hn : HoldsFiles done n) :
    Program.Always allowed (Intact target files here base directory name)
      (fun _ result d => Filled (done ++ rest) here base directory name staged result d)
      (writeFiles (stagedPath target staged) rest) past d := by
  induction rest generalizing done n past d with
  | nil => exact .pure (h.intact site) ⟨n, h, fun _ => by rwa [List.append_nil]⟩
  | cons file rest ih =>
    rw [writeFiles]
    refine .ask_bind (h.intact site) fun answer d' hanswer _ => ?_
    rcases hanswer.settled (show _ = d.settle (d.write _ _) from rfl) nofun with
      ⟨_, rfl, hwrite⟩ | ⟨e, rfl, rfl⟩
    · have h' := h.write site hn (hplain file List.mem_cons_self) hwrite
      rw [List.append_cons]
      exact ih (fun f hf => hplain f (List.mem_cons_of_mem _ hf)) h' hn.append
    · exact .pure (h.intact site) ⟨n, h, nofun⟩

theorem always_fill (site : Site target here base directory name staged)
    (hplain : PlainFiles files) {mode : Nat}
    (h : Staging here base directory name staged (.directory mode []) d) :
    Program.Always allowed (Intact target files here base directory name)
      (fun _ result d => Filled files here base directory name staged result d)
      (fill (stagedPath target staged) files) past d := by
  rw [fill]
  refine .ask_bind (h.intact site) fun answer d' hanswer _ => ?_
  rcases hanswer.settled (show _ = d.settle (d.setMode _ _) from rfl) nofun with
    ⟨_, rfl, hmode⟩ | ⟨e, rfl, rfl⟩
  · obtain ⟨place, hleads, hput⟩ :=
      Disk.setMode_eq_ok target.bytes_directory_ne_nil site.plain hmode
    rw [h.here_eq] at hleads
    obtain rfl := h.leads_unique site hleads
    rw [hput mode [] h.at?_staged]
    exact always_writeFiles site hplain (h.put site rfl) holdsFiles_nil
  · exact .pure (h.intact site) ⟨_, h, nofun⟩

end

end Publication

end SuiteSplit
