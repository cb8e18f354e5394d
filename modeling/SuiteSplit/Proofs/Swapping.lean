import SuiteSplit.Proofs.Filling

/-!
Swapping a staged directory into the place of the target. The previous target goes through a retired
directory and comes back if the swap fails; when even that fails it stays there.
-/

namespace SuiteSplit

open Node

namespace Publication

/-- A site at the name of the target, with a retired directory beside the staged one, neither of which
was there before. -/
structure Exchange (target : Path) (here : Location) (base : Node) (directory : Location)
    (name staged retired : FileName) : Prop extends Site target here base directory name staged where
  fileName_eq : target.fileName? = some name
  retired_plain : Path.IsPlain retired
  retired_ne_name : retired ≠ name
  retired_ne_staged : retired ≠ staged
  retired_new : base.at? (directory ++ [retired]) = none

/-- What the target, the staged and the retired directory hold while nothing else has changed. -/
structure Swapping (here : Location) (base : Node) (directory : Location)
    (name staged retired : FileName) (t s r : Option Node) (d : Disk) : Prop where
  here_eq : d.here = here
  scene : Scene base directory [(name, t), (staged, s), (retired, r)] d.root

/-- The name of the previous target in the retired directory. -/
def previousName : FileName := Text.utf8 "previous"

theorem isPlain_previousName : Path.IsPlain previousName :=
  Path.isPlain_utf8 (by decide) (by decide)

section

variable {target : Path} {files : List (String × String)} {here : Location} {base n : Node}
  {directory : Location} {name staged retired : FileName} {t s r : Option Node} {d d' : Disk}
  {allowed : Event → Prop} {past : List Event}

namespace Swapping

theorem at?_target (h : Swapping here base directory name staged retired t s r d) :
    d.root.at? (directory ++ [name]) = t := h.scene.inside _ _ (by simp)

theorem at?_staged (h : Swapping here base directory name staged retired t s r d) :
    d.root.at? (directory ++ [staged]) = s := h.scene.inside _ _ (by simp)

theorem at?_retired (h : Swapping here base directory name staged retired t s r d) :
    d.root.at? (directory ++ [retired]) = r := h.scene.inside _ _ (by simp)

variable (site : Exchange target here base directory name staged retired)

include site

theorem put_target (h : Swapping here base directory name staged retired t s r d)
    (t' : Option Node) :
    Swapping here base directory name staged retired t' s r
      (d.put (directory ++ [name]) t') := by
  have hscene : Scene base directory ([] ++ (name, t) :: [(staged, s), (retired, r)]) d.root :=
    h.scene
  refine ⟨h.here_eq, hscene.put ?_ t'⟩
  simp [site.ne, site.retired_ne_name]

theorem put_staged (h : Swapping here base directory name staged retired t s r d)
    (s' : Option Node) :
    Swapping here base directory name staged retired t s' r
      (d.put (directory ++ [staged]) s') := by
  have hscene : Scene base directory ([(name, t)] ++ (staged, s) :: [(retired, r)]) d.root :=
    h.scene
  refine ⟨h.here_eq, hscene.put ?_ s'⟩
  simp [site.ne.symm, site.retired_ne_staged]

theorem put_retired (h : Swapping here base directory name staged retired t s r d)
    (r' : Option Node) :
    Swapping here base directory name staged retired t s r'
      (d.put (directory ++ [retired]) r') := by
  have hscene : Scene base directory ([(name, t), (staged, s)] ++ (retired, r) :: []) d.root :=
    h.scene
  refine ⟨h.here_eq, hscene.put ?_ r'⟩
  simp [site.retired_ne_name.symm, site.retired_ne_staged.symm]

theorem put_below_retired (h : Swapping here base directory name staged retired t s r d)
    (v : Option Node) (k : FileName) :
    Swapping here base directory name staged retired t s (r.map (Node.put v [k]))
      (d.put (directory ++ [retired] ++ [k]) v) := by
  have hscene : Scene base directory ([(name, t), (staged, s)] ++ (retired, r) :: []) d.root :=
    h.scene
  refine ⟨h.here_eq, hscene.put_below ?_ v k⟩
  simp [site.retired_ne_name.symm, site.retired_ne_staged.symm]

theorem agrees (ht : t = none ∨ t = base.at? (directory ++ [name])) :
    Scene.Agrees base directory [(name, t), (staged, s), (retired, r)] := by
  refine .cons ?_ (.cons (.inr (.inl site.new)) (.cons (.inr (.inl site.retired_new)) nofun))
  exact ht.imp_right .inr

/-- As long as the target is as it was or gone, its path leads to its directory or nowhere. -/
theorem leads_unique (h : Swapping here base directory name staged retired t s r d)
    (ht : t = none ∨ t = base.at? (directory ++ [name])) {place : Location}
    (hleads : Leads d.root here target.directory place) : place = directory :=
  h.scene.leads_unique (agrees site ht) site.leads hleads

theorem intact (h : Swapping here base directory name staged retired t s r d)
    (ht : t = none ∨ t = base.at? (directory ++ [name])) :
    Intact target files here base directory name d := by
  refine ⟨h.here_eq, fun _ => h.leads_unique site ht, ?_⟩
  rw [h.at?_target]
  exact ht.elim (fun h => .inr (.inl h)) .inl

end Swapping

/-- A new directory for one user beside the staged one. -/
theorem Staging.exchange (h : Staging here base directory name staged n d)
    (hfileName : target.fileName? = some name) (site : Site target here base directory name staged)
    (hplain : Path.IsPlain retired) (hname : retired ≠ name)
    (hnone : d.root.at? (directory ++ [retired]) = none) :
    Exchange target here base directory name staged retired ∧
      Swapping here base directory name staged retired (base.at? (directory ++ [name])) (some n)
        (some (.directory privateMode []))
        (d.put (directory ++ [retired]) (some (.directory privateMode []))) := by
  have hstaged : retired ≠ staged := by
    rintro rfl
    rw [h.at?_staged] at hnone
    cases hnone
  have hnew : ∀ e ∈ [(name, base.at? (directory ++ [name])), (staged, some n)], e.1 ≠ retired := by
    simp [hname.symm, hstaged.symm]
  exact ⟨⟨site, hfileName, hplain, hname, hstaged, h.scene.at?_eq_none_of_new hnew hnone⟩,
    h.here_eq, h.scene.add hnew _⟩

theorem entryOf_previous {retiredAt : Path} (h : retiredAt.bytes ≠ []) :
    (previous retiredAt).EntryOf retiredAt previousName :=
  Path.entryOf_join h isPlain_previousName

/-- The path of the retired directory. -/
theorem Exchange.entryOf_retired (site : Exchange target here base directory name staged retired) :
    (target.directory.join ⟨retired⟩).EntryOf target.directory retired :=
  Path.entryOf_join target.bytes_directory_ne_nil site.retired_plain

theorem Exchange.entryOf_previous
    (site : Exchange target here base directory name staged retired) :
    (previous (target.directory.join ⟨retired⟩)).EntryOf (target.directory.join ⟨retired⟩)
      previousName :=
  Publication.entryOf_previous <|
    Path.bytes_join_ne_nil target.bytes_directory_ne_nil site.retired_plain

/-- The path of the retired directory leads there or nowhere. -/
theorem Swapping.leads_retired (site : Exchange target here base directory name staged retired)
    (h : Swapping here base directory name staged retired t s (some n) d)
    (ht : t = none ∨ t = base.at? (directory ++ [name])) (hn : n.isDirectory) {place : Location}
    (hleads : Leads d.root d.here (target.directory.join ⟨retired⟩) place) :
    place = directory ++ [retired] := by
  obtain ⟨outer, houter, -, hplace⟩ :=
    hleads.of_entry site.entryOf_retired site.retired_plain.ne_dots
  rw [h.here_eq] at houter
  obtain rfl := h.leads_unique site ht houter
  exact hplace (waypoint?_of_isDirectory h.at?_retired hn)

/-- What is moved aside is all of the target. -/
theorem Swapping.rename_target (site : Exchange target here base directory name staged retired)
    (h : Swapping here base directory name staged retired (base.at? (directory ++ [name])) s
      (some (.directory privateMode [])) d)
    (hrename : d.rename target (previous (target.directory.join ⟨retired⟩)) = .ok ((), d')) :
    ∃ old, base.at? (directory ++ [name]) = some old ∧
      Swapping here base directory name staged retired none s
        (some (.directory privateMode [(previousName, old)])) d' := by
  obtain ⟨place, place', old, hleads, hleads', -, -, hold, hmoved⟩ :=
    Disk.rename_eq_ok (Path.entryOf_directory site.fileName_eq) site.entryOf_previous hrename
  rw [h.here_eq] at hleads
  obtain rfl := h.leads_unique site (.inr rfl) hleads
  obtain rfl := h.leads_retired site (.inr rfl) rfl hleads'
  rw [h.at?_target] at hold
  refine ⟨old, hold, ?_⟩
  rcases hmoved with hsame | ⟨-, rfl⟩
  · simpa using congrArg List.length hsame
  · have h' := (h.put_target site none).put_below_retired site (some old) previousName
    rwa [Option.map_some, put_single] at h'

/-- What is moved back is what was moved aside. -/
theorem Swapping.rename_previous (site : Exchange target here base directory name staged retired)
    {old : Node}
    (h : Swapping here base directory name staged retired none s
      (some (.directory privateMode [(previousName, old)])) d)
    (hrename : d.rename (previous (target.directory.join ⟨retired⟩)) target = .ok ((), d')) :
    ∃ r, Swapping here base directory name staged retired (some old) s r d' := by
  obtain ⟨place, place', n, hleads, hleads', -, -, hn, hmoved⟩ :=
    Disk.rename_eq_ok site.entryOf_previous (Path.entryOf_directory site.fileName_eq) hrename
  rw [h.here_eq] at hleads'
  obtain rfl := h.leads_unique site (.inl rfl) hleads'
  obtain rfl := h.leads_retired site (.inl rfl) rfl hleads
  rw [at?_append_of_some h.at?_retired, at?_cons] at hn
  obtain rfl : old = n := by simpa [Node.entries] using hn
  rcases hmoved with hsame | ⟨-, rfl⟩
  · simpa using congrArg List.length hsame
  · exact ⟨_, (h.put_below_retired site none previousName).put_target site (some old)⟩

/-- The target holds all files, and its path leads there. -/
structure Published (target : Path) (files : List (String × String)) (here : Location)
    (directory : Location) (name : FileName) (d : Disk) : Prop where
  here_eq : d.here = here
  accepted : target.fault? = none
  entry : IsEntryName name
  leads : Leads d.root here target.directory directory
  holds : ∃ n, d.root.at? (directory ++ [name]) = some n ∧ HoldsFiles files n

/-- The staged directory takes the place of the target only if nothing is lost by that. -/
theorem Swapping.rename_staged (site : Exchange target here base directory name staged retired)
    (h : Swapping here base directory name staged retired t (some n) r d)
    (ht : t = none ∨ t = base.at? (directory ++ [name])) (hn : HoldsFiles files n)
    (hrename : d.rename (stagedPath target staged) target = .ok ((), d')) :
    Swapping here base directory name staged retired (some n) none r d' ∧
      ∀ r' d'', Swapping here base directory name staged retired (some n) none r' d'' →
        Published target files here directory name d'' := by
  obtain ⟨place, place', n', hleads, hleads', hentry, haccepted, hn', hmoved⟩ :=
    Disk.rename_eq_ok site.entryOf (Path.entryOf_directory site.fileName_eq) hrename
  rw [h.here_eq] at hleads hleads'
  obtain rfl := h.leads_unique site ht hleads
  obtain rfl := h.leads_unique site ht hleads'
  rw [h.at?_staged] at hn'
  obtain rfl := Option.some.inj hn'
  rcases hmoved with hsame | ⟨hfree, rfl⟩
  · exact absurd (List.cons.inj (List.append_cancel_left hsame)).1 site.ne
  refine ⟨(h.put_staged site none).put_target site (some n), fun r' d'' h'' => ?_⟩
  refine ⟨h''.here_eq, haccepted, hentry, ?_, n, h''.at?_target, hn⟩
  refine h.scene.leads_later (agrees site ht) site.leads hleads h''.scene ?_ ?_
  · intro k v' hmem
    simp only [List.mem_cons, Prod.mk.injEq, List.not_mem_nil, or_false] at hmem ⊢
    rcases hmem with ⟨rfl, -⟩ | ⟨rfl, -⟩ | ⟨rfl, -⟩
    · exact ⟨t, .inl ⟨rfl, rfl⟩⟩
    · exact ⟨some n, .inr (.inl ⟨rfl, rfl⟩)⟩
    · exact ⟨r, .inr (.inr ⟨rfl, rfl⟩)⟩
  · intro k v hmem hv rest w hw
    simp only [List.mem_cons, Prod.mk.injEq, List.not_mem_nil, or_false] at hmem
    rcases hmem with ⟨rfl, rfl⟩ | ⟨rfl, rfl⟩ | ⟨rfl, rfl⟩
    · -- what gave way was an empty directory, and a directory is there again
      rw [waypoint?, at?_append, ← hv] at hw
      rw [waypoint?, at?_append_of_some h''.at?_target]
      rw [h.at?_target] at hfree
      obtain ⟨entries, rfl, -⟩ := hn
      cases v with
      | none => simp at hw
      | some old =>
        obtain ⟨mode, rfl⟩ := Disk.eq_of_replaceFault? rfl hfree
        cases rest with
        | nil => simpa [waypoint] using hw
        | cons x rest => simp [at?_cons, Node.entries] at hw
    · rw [waypoint?, at?_append_of_none site.new] at hw
      cases hw
    · rw [waypoint?, at?_append_of_none site.retired_new] at hw
      cases hw

end

end Publication

end SuiteSplit
