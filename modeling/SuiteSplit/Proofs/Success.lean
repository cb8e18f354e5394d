import SuiteSplit.Proofs.AllOrNothing

/-!
What a publication that succeeds has done. A directory for one user may even be given the target's own
name; publishing does not succeed then, since the target would be found where nothing should be.
-/

namespace SuiteSplit

open Node

namespace Node

/-- A walk along a way finds something, also if it does not follow a link at the end. -/
theorem exists_found_of_way {root n : Node} {links links' : Nat} {here there : Location}
    {todo : List FileName} (h : Way root links here todo links' there)
    (hat : root.at? there = some n) :
    ∃ l m, root.walk .entry links here todo = .ok (.found l m) := by
  induction h with
  | done links here => exact ⟨here, n, by rw [walk, hat]⟩
  | idle hname _ ih =>
    rw [walk, if_pos hname]
    exact ih hat
  | up _ ih =>
    rw [walk, if_neg (by decide), if_pos rfl]
    exact ih hat
  | enter hname hsee _ ih =>
    obtain ⟨mode, entries, hdirectory⟩ := waypoint?_eq_directory hsee
    rw [walk_name .entry hname (fun h => by cases h.1), hdirectory]
    exact ih hat
  | @follow name target links here rest links' there hname hsee _ ih =>
    rw [walk_name .entry hname (fun h => by cases h.1), waypoint?_eq_link hsee]
    dsimp only
    split
    · exact ⟨_, _, rfl⟩
    · exact ih hat

/-- Where nothing was, something new changes nothing else that a walk sees. -/
theorem waypoint?_put_of_none {root : Node} {directory l : Location} {name : FileName}
    {w : Waypoint} (v : Option Node) (hnone : root.at? (directory ++ [name]) = none)
    (hw : root.waypoint? l = some w) :
    (root.put v (directory ++ [name])).waypoint? l = some w := by
  rw [Scene.waypoint?_put_of_outside v root [], hw]
  rintro ⟨rest, rfl⟩
  rw [waypoint?, at?_append_of_none hnone] at hw
  cases hw

theorem waypoint?_put_directory {root : Node} {directory : Location}
    (h : root.waypoint? directory = some .directory) (name : FileName) (mode : Nat)
    (entries : List (FileName × Node)) :
    (root.put (some (.directory mode entries)) (directory ++ [name])).waypoint?
      (directory ++ [name]) = some .directory :=
  waypoint?_of_at? (at?_put_concat (any_isDirectory_iff.mpr h) _ _)

end Node

namespace Disk

variable {d d' : Disk} {p source target : Path}

/-- Something is found where a path leads. -/
theorem exists_linkStat_of_leads {there : Location} (h : Leads d.root d.here p there) :
    ∃ kind, d.linkStat p = .ok kind := by
  obtain ⟨mode, entries, hat⟩ := waypoint?_eq_directory h.directory
  obtain ⟨links, hway⟩ := h.way
  have hall : Way d.root maxLinks (p.origin d.here) p.allHops links there := by
    apply hway.of_filter_eq
    rw [Path.allHops, List.filter_append]
    split <;> simp [Path.isIdle, Path.inward]
  obtain ⟨l, n, hwalk⟩ := exists_found_of_way hall hat
  have hstart : d.start p = .ok (p.origin d.here) :=
    start_eq_ok_iff.mpr ⟨h.accepted, rfl, h.origin⟩
  refine ⟨n.kind, ?_⟩
  rw [linkStat, find, Disk.walk, hstart]
  simp only [hwalk]
  rfl

/-- Only what has a file name is put in the place of something. -/
theorem exists_fileName?_of_rename (h : d.rename source target = .ok ((), d')) :
    target.fault? = none ∧ ∃ name, target.fileName? = some name := by
  obtain ⟨_, _, _, name, _, hmoves⟩ := rename_eq_ok_iff.mp h
  obtain ⟨haccepted, -, hname, outer, -, hnames, -⟩ := exists_way_of_entry hmoves.entry'
  exact ⟨haccepted, name, Path.fileName?_of_names hnames hname.ne_dots⟩

/-- A directory is not moved into itself. -/
theorem rename_below_ne_ok {outer outer' : Path} {name name' : FileName}
    {directory : Location} (hsource : source.EntryOf outer name)
    (htarget : target.EntryOf outer' name') (hleads : Leads d.root d.here outer directory)
    (hleads' : ∀ place, Leads d.root d.here outer' place → place = directory ++ [name]) :
    d.rename source target ≠ .ok ((), d') := by
  intro h
  obtain ⟨there, k, there', k', n, hmoves⟩ := rename_eq_ok_iff.mp h
  obtain ⟨rfl, -, hthere⟩ := leads_of_entry hsource hmoves.entry
  obtain ⟨rfl, -, hthere'⟩ := leads_of_entry htarget hmoves.entry'
  obtain rfl := hthere.unique hleads
  obtain rfl := hleads' _ hthere'
  exact hmoves.not_below (by simp [inside])

end Disk

namespace Publication

open Program

section

variable {target stagedAt retiredAt : Path} {files : List (String × String)} {d d' : Disk}
  {hadPrevious : Bool}

/-! ## The parts of a publication that succeeds -/

theorem of_publishFiles (h : (publishFiles target files).Completes d (.ok ()) d') :
    ∃ d₁ staged d₂ d₃, d.Grown target.directory d₁ ∧
      d₁.Answers (.makePrivateDirectory target.directory stagedStart) (.ok staged) d₂ ∧
      (fill staged files).Completes d₂ (.ok ()) d₃ ∧ (swap staged target).Completes d₃ (.ok ()) d' := by
  obtain ⟨made, d₁, hmade, h⟩ := h.of_bind
  have hgrown := (hmade.of_always (always_makeDirectories target.directory d [])).1
  cases made with
  | error e => cases h.of_pure.1
  | ok _ =>
    obtain ⟨staged, d₂, hstaged, -, h⟩ := h.of_ask_bind
    cases staged with
    | error e => cases h.of_pure.1
    | ok staged =>
      obtain ⟨filled, d₃, hfilled, h⟩ := h.of_bind
      cases filled with
      | error e =>
        obtain ⟨_, _, -, h⟩ := h.of_bind
        cases h.of_pure.1
      | ok _ => exact ⟨d₁, staged, d₂, d₃, hgrown, hstaged, hfilled, h⟩

theorem of_swap (h : (swap stagedAt target).Completes d (.ok ()) d') :
    ∃ retired d₁ hadPrevious d₂,
      d.Answers (.makePrivateDirectory target.directory retiredStart) (.ok retired) d₁ ∧
      (retire target retired).Completes d₁ (.ok hadPrevious) d₂ ∧
      (install stagedAt target retired hadPrevious).Completes d₂ (.ok ()) d' := by
  obtain ⟨retired, d₁, hretired, -, h⟩ := h.of_ask_bind
  cases retired with
  | error e =>
    obtain ⟨_, _, -, h⟩ := h.of_bind
    cases h.of_pure.1
  | ok retired =>
    obtain ⟨had, d₂, hhad, h⟩ := h.of_bind
    cases had with
    | error e =>
      obtain ⟨_, _, -, h⟩ := h.of_bind
      obtain ⟨_, _, -, h⟩ := h.of_bind
      cases h.of_pure.1
    | ok had => exact ⟨retired, d₁, had, d₂, hretired, hhad, h⟩

/-- Either nothing is found at the target, or what is there is moved aside. -/
theorem of_retire (h : (retire target retiredAt).Completes d (.ok hadPrevious) d') :
    d.linkStat target = .error .notFound ∨
      d.rename target (previous retiredAt) = .ok ((), d') := by
  obtain ⟨kind, d₁, hkind, hfound, hrest⟩ := h.of_ask_bind
  have hd : d₁ = d := by cases hkind <;> rfl
  subst hd
  split at hrest
  · exact .inl (hfound rfl)
  · cases hrest.of_pure.1
  · obtain ⟨answer, d₂, hanswer, -, hmoved⟩ := hrest.of_ask_bind
    rcases hanswer.settled (show _ = d₁.settle (d₁.rename _ _) from rfl) nofun with
      ⟨_, rfl, hrename⟩ | ⟨e, rfl, rfl⟩
    · obtain ⟨-, rfl⟩ := hmoved.of_pure
      exact .inr hrename
    · cases hmoved.of_pure.1

theorem of_install (h : (install stagedAt target retiredAt hadPrevious).Completes d (.ok ()) d') :
    ∃ d₁, d.rename stagedAt target = .ok ((), d₁) := by
  obtain ⟨answer, d₁, hanswer, -, hrest⟩ := h.of_ask_bind
  rcases hanswer.settled (show _ = d.settle (d.rename _ _) from rfl) nofun with
    ⟨_, rfl, hrename⟩ | ⟨e, rfl, rfl⟩
  · exact ⟨d₁, hrename⟩
  · obtain ⟨_, _, -, hrest⟩ := hrest.of_bind
    cases hrest.of_pure.1

end

/-! ## A directory for one user in the place of the target -/

section

variable {target : Path} {files : List (String × String)} {here : Location} {base n : Node}
  {directory : Location} {name staged : FileName} {d d' : Disk} {hadPrevious : Bool}

theorem linkStat_ne_notFound (hfileName : target.fileName? = some name) (hname : IsEntryName name)
    (haccepted : target.fault? = none) (hleads : Leads d.root d.here target.directory directory)
    (hsee : d.root.waypoint? (directory ++ [name]) = some .directory) :
    d.linkStat target ≠ .error .notFound := by
  obtain ⟨kind, hkind⟩ := Disk.exists_linkStat_of_leads <|
    hleads.entry (Path.entryOf_directory hfileName) hname haccepted hsee
  rw [hkind]
  exact nofun

/-- The target is not moved into itself. -/
theorem not_completes_retire (hfileName : target.fileName? = some name) (hname : IsEntryName name)
    (hplain : Path.IsPlain name) (haccepted : target.fault? = none)
    (hleads : Leads d.root d.here target.directory directory)
    (hsee : d.root.waypoint? (directory ++ [name]) = some .directory) :
    ¬ (retire target (target.directory.join ⟨name⟩)).Completes d (.ok hadPrevious) d' := by
  intro h
  have hprevious := entryOf_previous (Path.bytes_join_ne_nil target.bytes_directory_ne_nil hplain)
  rcases of_retire h with hnone | hrename
  · exact linkStat_ne_notFound hfileName hname haccepted hleads hsee hnone
  · refine Disk.rename_below_ne_ok (Path.entryOf_directory hfileName) hprevious hleads ?_ hrename
    exact fun _ => hleads.eq_of_join target.bytes_directory_ne_nil hplain hsee

/-- The disk on which a staged directory has been moved to a retired one. -/
theorem Staging.scene_of_moved {k retired : FileName}
    (h : Staging here base directory k staged n d)
    (site : Site target here base directory k staged) (hk : retired ≠ k) (hstaged : retired ≠ staged)
    (old : Node) :
    Scene base directory [(k, base.at? (directory ++ [k])), (staged, none),
        (retired, some (.directory privateMode [(previousName, old)]))]
      (((d.put (directory ++ [retired]) (some (.directory privateMode []))).put
        (directory ++ [staged]) none).put (directory ++ [retired] ++ [previousName]) (some old)).root := by
  have hmade : Scene base directory ([(k, base.at? (directory ++ [k]))] ++
      (staged, some n) :: [(retired, some (.directory privateMode []))]) _ :=
    h.scene.add (by simp [hk.symm, hstaged.symm]) (some (.directory privateMode []))
  have hleft : Scene base directory ([(k, base.at? (directory ++ [k])), (staged, none)] ++
      (retired, some (.directory privateMode [])) :: []) _ :=
    hmade.put (by simp [site.ne.symm, hstaged]) none
  have hmoved := hleft.put_below (by simp [hk.symm, hstaged.symm]) (some old) previousName
  rwa [Option.map_some, put_single] at hmoved

/-- A filled directory in the place of the target is moved aside itself, and is not there when it should
take its place. -/
theorem not_completes_swap (hfileName : target.fileName? = some staged) (hname : IsEntryName staged)
    (site : Site target here base directory Path.inward staged)
    (h : Staging here base directory Path.inward staged n d) :
    ¬ (swap (stagedPath target staged) target).Completes d (.ok ()) d' := by
  intro hswap
  obtain ⟨_, d₁, _, d₂, hretired, hretire, hinstall⟩ := of_swap hswap
  obtain ⟨d₃, hlast⟩ := of_install hinstall
  obtain ⟨haccepted, -⟩ := Disk.exists_fileName?_of_rename hlast
  rcases hretired.makePrivateDirectory target.bytes_directory_ne_nil (by decide) (by decide) with
    ⟨retired, place, hpath, hplain, -, hleads, hnone, rfl⟩ | ⟨e, he, -⟩
  case inr => cases he
  obtain rfl := Except.ok.inj hpath
  have hleads₁ : Leads (d.put (place ++ [retired]) (some (.directory privateMode []))).root d.here
    target.directory place := hleads.mono fun l w hw => waypoint?_put_of_none _ hnone hw
  have hplace := hleads
  rw [h.here_eq] at hplace
  obtain rfl := h.leads_unique site hplace
  have hstaged : retired ≠ staged := by
    rintro rfl
    rw [h.at?_staged] at hnone
    cases hnone
  have hinward : retired ≠ Path.inward := hplain.ne_nil
  have hnew : base.at? (place ++ [retired]) = none := by
    refine h.scene.at?_eq_none_of_new ?_ hnone
    simp [hinward.symm, hstaged.symm]
  have hsee : d.root.waypoint? (place ++ [staged]) = some .directory :=
    waypoint?_of_isDirectory h.at?_staged h.isDirectory
  rcases of_retire hretire with hfound | hmoved
  · refine linkStat_ne_notFound hfileName hname haccepted hleads₁ ?_ hfound
    exact waypoint?_put_of_none _ hnone hsee
  · have hprevious := entryOf_previous (Path.bytes_join_ne_nil target.bytes_directory_ne_nil hplain)
    obtain ⟨there, there', old, hthere, hthere', -, -, -, hmoved⟩ :=
      Disk.rename_eq_ok (Path.entryOf_directory hfileName) hprevious hmoved
    obtain rfl := hthere.unique hleads₁
    obtain rfl := hleads₁.eq_of_join target.bytes_directory_ne_nil hplain
      (waypoint?_put_directory hleads.directory _ _ _) hthere'
    rcases hmoved with hsame | ⟨-, rfl⟩
    · simpa using congrArg List.length hsame
    have hscene := h.scene_of_moved site hinward hstaged old
    obtain ⟨last, _, _, hlastLeads, -, -, -, hat, -⟩ :=
      Disk.rename_eq_ok site.entryOf (Path.entryOf_directory hfileName) hlast
    obtain rfl : last = there := by
      refine hscene.leads_unique ?_ site.leads (h.here_eq ▸ hlastLeads)
      refine .cons (.inr (.inr rfl)) (.cons (.inl rfl) (.cons (.inr (.inl hnew)) ?_))
      exact fun _ _ hmem => absurd hmem List.not_mem_nil
    rw [hscene.inside staged none (by simp)] at hat
    cases hat

/-- A staged directory with another name than the target takes its place. -/
theorem published_of_swap (hfileName : target.fileName? = some name)
    (site : Site target here base directory name staged)
    (h : Staging here base directory name staged n d) (hn : HoldsFiles files n)
    (hswap : (swap (stagedPath target staged) target).Completes d (.ok ()) d') :
    Published target files here directory name d' := by
  obtain ⟨_, d₁, had, d₂, hretired, hretire, hinstall⟩ := of_swap hswap
  obtain ⟨d₃, hlast⟩ := of_install hinstall
  obtain ⟨haccepted, -⟩ := Disk.exists_fileName?_of_rename hlast
  rcases hretired.makePrivateDirectory target.bytes_directory_ne_nil (by decide) (by decide) with
    ⟨retired, place, hpath, hplain, hentry, hleads, hnone, rfl⟩ | ⟨e, he, -⟩
  case inr => cases he
  obtain rfl := Except.ok.inj hpath
  have hname : retired ≠ name := by
    rintro rfl
    have hleads₁ := hleads.mono fun l w hw =>
      waypoint?_put_of_none (some (.directory privateMode [])) hnone hw
    refine not_completes_retire hfileName hentry hplain haccepted hleads₁ ?_ hretire
    exact waypoint?_put_directory hleads.directory _ _ _
  rw [h.here_eq] at hleads
  obtain rfl := h.leads_unique site hleads
  obtain ⟨site', h'⟩ := h.exchange hfileName site hplain hname hnone
  -- the calls before are of interest only when moving the target back fails
  let made : Event := ⟨.makePrivateDirectory target.directory retiredStart,
    .ok (target.directory.join ⟨retired⟩)⟩
  have halways : Program.Always (fun _ => True)
      (Intact target files here base place name) _ _ [made] _ := always_retire site' h'
  obtain ⟨-, past, hpast, hretired⟩ := hretire.of_always halways
  obtain ⟨-, _, hpublished⟩ := hinstall.of_always
    (always_install site' (hpast.subset List.mem_cons_self) hn hretired)
  exact hpublished

end

/-- A publication that succeeds has published all files. -/
theorem exists_published {target : Path} {files : List (String × String)} {d d' : Disk}
    (hplain : PlainFiles files) (h : (publishFiles target files).Completes d (.ok ()) d') :
    ∃ directory name, target.fileName? = some name ∧
      Published target files d.here directory name d' := by
  obtain ⟨d₁, _, d₂, d₃, hgrown, hstaged, hfill, hswap⟩ := of_publishFiles h
  obtain ⟨_, _, _, _, -, -, hinstall⟩ := of_swap hswap
  obtain ⟨_, hlast⟩ := of_install hinstall
  obtain ⟨-, name, hfileName⟩ := Disk.exists_fileName?_of_rename hlast
  rcases hstaged.makePrivateDirectory target.bytes_directory_ne_nil (by decide) (by decide) with
    ⟨staged, directory, hpath, hstagedPlain, hentry, hleads, hnone, rfl⟩ | ⟨e, he, -⟩
  case inr => cases he
  obtain rfl := Except.ok.inj hpath
  rw [hgrown.here] at hleads
  refine ⟨directory, name, hfileName, ?_⟩
  have hfilled {k : FileName} (hk : staged ≠ k) :
      ∃ n, Site target d.here d₁.root directory k staged ∧
        Staging d.here d₁.root directory k staged n d₃ ∧ HoldsFiles files n := by
    have site : Site target d.here d₁.root directory k staged := ⟨hleads, hstagedPlain, hk, hnone⟩
    have halways : Program.Always (fun _ => True)
        (Intact target files d.here d₁.root directory k) _ _ [] _ :=
      always_fill site hplain (site.staging hgrown.here)
    obtain ⟨-, _, n, h₃, hn⟩ := hfill.of_always halways
    exact ⟨n, site, h₃, hn rfl⟩
  by_cases hne : staged = name
  · subst hne
    obtain ⟨n, site, h₃, -⟩ := hfilled hstagedPlain.ne_nil
    exact absurd hswap (not_completes_swap hfileName hentry site h₃)
  · obtain ⟨n, site, h₃, hn⟩ := hfilled hne
    exact published_of_swap hfileName site h₃ hn hswap

end Publication

end SuiteSplit
