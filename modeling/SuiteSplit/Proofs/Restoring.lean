import SuiteSplit.Proofs.AllOrNothing
import SuiteSplit.Proofs.FaithfulRun

/-!
Moving the previous target back. If no call fails without a reason, the previous target is moved back to
its place whenever the path of the target still leads there: it stands in the retired directory, and
nothing is in its way. Where that path goes through the target itself it leads nowhere once the target
is moved aside, and so the previous target stays in the retired directory.
-/

namespace SuiteSplit

open Node

namespace Disk

variable {d d' : Disk} {p outer source target : Path} {there place : Location} {name k : FileName}

/-- The name of an entry is the last segment of its path. -/
theorem getLast?_hops_of_entry (h : d.entry p = .ok (there, some k)) : p.hops.getLast? = some k := by
  unfold entry at h
  split at h
  · cases h
  · split at h
    · cases h
    · next last hlast =>
      split at h
      · cases h
      · split_ifs at h
        · cases h
        · cases h
          exact hlast
      · cases h

/-- A path that names an entry names one wherever the path around it leads to a directory. -/
theorem entry_of_leads (hpath : p.EntryOf outer name) (h : d.entry p = .ok (there, some k))
    (hleads : Leads d'.root d'.here outer place) : d'.entry p = .ok (place, some name) := by
  obtain ⟨haccepted, -⟩ := exists_way_of_entry h
  have hlast := getLast?_hops_of_entry h
  obtain ⟨rfl, hname, -⟩ := leads_of_entry hpath h
  obtain ⟨init, hinit⟩ := List.getLast?_eq_some_iff.mp hlast
  obtain ⟨mode, entries, hat⟩ := waypoint?_eq_directory hleads.directory
  obtain ⟨links, hway⟩ := hleads.way
  have hfilter : init.filter (fun s => !Path.isIdle s) = outer.hops.filter fun s => !Path.isIdle s := by
    have hnames := p.filter_hops
    rw [hinit, List.filter_append, hpath.filter_name, hpath.names] at hnames
    rw [List.append_cancel_right hnames, outer.filter_hops]
  have hwalk : d'.root.walk .goal maxLinks (p.origin d'.here) (init ++ [Path.inward]) =
      .ok (.found place (.directory mode entries)) := by
    rw [← hpath.origin, (hway.of_filter_eq hfilter).walk_append (.inl rfl)]
    simp [Node.walk, hat]
  have hstart : d'.start p = .ok (p.origin d'.here) :=
    start_eq_ok_iff.mpr ⟨haccepted, rfl, hpath.origin d'.here ▸ hleads.origin⟩
  rw [entry, hstart, hlast]
  simp only [hinit, List.dropLast_concat, hwalk]
  rw [if_neg (not_or.mpr ⟨hname.ne_dot, hname.ne_dots⟩), if_neg (Nat.not_lt.mpr hname.length_le)]

/-- Nothing is in the way of a renaming to a vacant entry elsewhere. -/
theorem exists_rename {there' : Location} {name' : FileName} {n : Node}
    (hentry : d.entry source = .ok (there, some name))
    (hentry' : d.entry target = .ok (there', some name'))
    (hat : d.root.at? (there ++ [name]) = some n)
    (hkind : ¬ (!n.isDirectory ∧ (source.asksDirectory ∨ target.asksDirectory)))
    (hfree : d.root.at? (there' ++ [name']) = none)
    (hbelow : ¬ there ++ [name] <+: there' ++ [name'])
    (habove : ¬ there' ++ [name'] <+: there ++ [name]) :
    ∃ d', d.rename source target = .ok ((), d') := by
  have hne : there ++ [name] ≠ there' ++ [name'] := fun heq => hbelow (heq ▸ List.prefix_rfl)
  refine ⟨_, rename_eq_ok_iff.mpr ⟨there, name, there', name', n, hentry, hentry', hat, hkind, ?_, ?_,
    .inr ⟨hne, by rw [hfree, replaceFault?], rfl⟩⟩⟩
  · simp [inside, hbelow]
  · simp [inside, habove]

end Disk

namespace Publication

section

variable {target : Path} {files : List (String × String)} {here : Location} {base n : Node}
  {directory : Location} {name staged retired : FileName} {t s r : Option Node} {d d' : Disk}
  {allowed : Event → Prop}

/-- What was moved aside can be moved back as long as the path around the target leads to its
directory. -/
theorem Swapping.exists_rename_previous
    (site : Exchange target here base directory name staged retired) {old : Node} {d₀ d₁ : Disk}
    (hretired : IsEntryName retired)
    (h₀ : Swapping here base directory name staged retired (base.at? (directory ++ [name])) s
      (some (.directory privateMode [])) d₀)
    (hmoved : d₀.rename target (previous (target.directory.join ⟨retired⟩)) = .ok ((), d₁))
    (hold : base.at? (directory ++ [name]) = some old)
    (h : Swapping here base directory name staged retired none s
      (some (.directory privateMode [(previousName, old)])) d)
    (hleads : Leads d.root d.here target.directory directory) :
    ∃ d', d.rename (previous (target.directory.join ⟨retired⟩)) target = .ok ((), d') := by
  obtain ⟨there, k, there', k', n, hentry, hentry', hat, hkind, -⟩ := Disk.rename_eq_ok_iff.mp hmoved
  have htarget := Path.entryOf_directory site.fileName_eq
  have hprevious := site.entryOf_previous
  obtain ⟨rfl, -, hthere⟩ := Disk.leads_of_entry htarget hentry
  obtain rfl : there = directory := h₀.leads_unique site (.inr rfl) (h₀.here_eq ▸ hthere)
  rw [h₀.at?_target, hold] at hat
  obtain rfl := Option.some.inj hat
  have haccepted := hprevious.accepted (Disk.exists_way_of_entry hentry').1
  have hsee : d.root.waypoint? (there ++ [retired]) = some .directory :=
    waypoint?_of_at? h.at?_retired
  have hretiredLeads := hleads.entry site.entryOf_retired hretired haccepted hsee
  have hat : d.root.at? (there ++ [retired] ++ [previousName]) = some old := by
    rw [at?_append_of_some h.at?_retired, at?_cons]
    simp [Node.entries]
  refine Disk.exists_rename (Disk.entry_of_leads hprevious hentry' hretiredLeads)
    (Disk.entry_of_leads htarget hentry hleads) hat (by rwa [or_comm]) h.at?_target ?_ ?_
  · intro hbelow
    simpa using hbelow.length_le
  · rw [List.append_assoc, List.prefix_append_right_inj, List.singleton_append, List.cons_prefix_cons]
    exact fun habove => site.retired_ne_name habove.1.symm

/-! ## Faithful runs of a publication -/

/-- The target holds what it held, or its path leads nowhere. -/
def Spared (target : Path) (here : Location) (base : Node) (directory : Location) (name : FileName)
    (d : Disk) : Prop :=
  d.root.at? (directory ++ [name]) = base.at? (directory ++ [name]) ∨
    ∀ place, ¬ Leads d.root here target.directory place

/-- Nothing leads to where something was taken away. -/
theorem leads_of_put_none {root : Node} {p : Path} {there : Location}
    (hdirectory : root.waypoint? directory = some .directory)
    (h : Leads (root.put none (directory ++ [staged])) here p there) : Leads root here p there := by
  refine h.mono fun l w hw => ?_
  by_cases hl : directory ++ [staged] <+: l
  · obtain ⟨rest, rfl⟩ := hl
    rw [waypoint?, at?_append, at?_put_concat (any_isDirectory_iff.mpr hdirectory)] at hw
    cases hw
  · rwa [← Scene.waypoint?_put_of_outside none root [] hl]

theorem honestly_discard_staged (site : Exchange target here base directory name staged retired)
    (h : Swapping here base directory name staged retired t s r d)
    (ht : t = none ∨ t = base.at? (directory ++ [name])) :
    Program.Honestly allowed
      (fun _ d' => ∃ s, Swapping here base directory name staged retired t s r d')
      (discard (stagedPath target staged)) d := by
  have halways : Program.Always allowed (Intact target [] here base directory name) _ _ [] d :=
    always_discard_staged site h ht
  exact (Program.Honestly.of_always halways).mono fun _ _ ⟨_, _, _, hend⟩ => hend

theorem honestly_discard_retired (site : Exchange target here base directory name staged retired)
    (h : Swapping here base directory name staged retired t s r d)
    (ht : t = none ∨ t = base.at? (directory ++ [name])) :
    Program.Honestly allowed
      (fun _ d' => ∃ r, Swapping here base directory name staged retired t s r d')
      (discard (target.directory.join ⟨retired⟩)) d := by
  have halways : Program.Always allowed (Intact target [] here base directory name) _ _ [] d :=
    always_discard_retired site h ht
  exact (Program.Honestly.of_always halways).mono fun _ _ ⟨_, _, _, hend⟩ => hend

/-- The target was moved aside from a disk on which nothing else has changed since. -/
def MovedAside (target : Path) (here : Location) (base : Node) (directory : Location)
    (name staged retired : FileName) (s : Option Node) : Prop :=
  ∃ d₀ d₁, Swapping here base directory name staged retired (base.at? (directory ++ [name])) s
      (some (.directory privateMode [])) d₀ ∧
    d₀.rename target (previous (target.directory.join ⟨retired⟩)) = .ok ((), d₁)

theorem honestly_retire (site : Exchange target here base directory name staged retired)
    (h : Swapping here base directory name staged retired (base.at? (directory ++ [name])) s
      (some (.directory privateMode [])) d) :
    Program.Honestly allowed
      (fun result d' => Retired here base directory name staged retired s result d' ∧
        (result = .ok true → MovedAside target here base directory name staged retired s))
      (retire target (target.directory.join ⟨retired⟩)) d := by
  refine .ask_bind fun answer d' hanswer _ _ => ?_
  have hd : d' = d := by cases hanswer <;> rfl
  subst hd
  split
  · exact .pure ⟨h, nofun⟩
  · exact .pure ⟨h, nofun⟩
  · refine .ask_bind fun answer d'' hanswer _ _ => ?_
    rcases hanswer.settled (show _ = d'.settle (d'.rename _ _) from rfl) nofun with
      ⟨_, rfl, hrename⟩ | ⟨e, rfl, rfl⟩
    · exact .pure ⟨h.rename_target site hrename, fun _ => ⟨d', d'', h, hrename⟩⟩
    · exact .pure ⟨h, nofun⟩

/-- Moving the target back fails only where its path leads nowhere. -/
theorem honestly_restore {hadPrevious : Bool}
    (site : Exchange target here base directory name staged retired) (hretired : IsEntryName retired)
    (h : Retired here base directory name staged retired s (.ok hadPrevious) d)
    (hmoved : hadPrevious = true → MovedAside target here base directory name staged retired s) :
    Program.Honestly allowed
      (fun kept d' => if kept then
        (∃ r, Swapping here base directory name staged retired none s r d') ∧
          ∀ place, ¬ Leads d'.root here target.directory place
        else ∃ r, Swapping here base directory name staged retired (base.at? (directory ++ [name])) s
          r d')
      (restore target (target.directory.join ⟨retired⟩) hadPrevious) d := by
  cases hadPrevious with
  | false => exact .pure ⟨_, h⟩
  | true =>
    obtain ⟨old, hold, h⟩ := h
    obtain ⟨d₀, d₁, h₀, haside⟩ := hmoved rfl
    refine .ask_bind fun answer d' hanswer hreason _ => ?_
    rcases hanswer.settled (show _ = d.settle (d.rename _ _) from rfl) nofun with
      ⟨_, rfl, hrename⟩ | ⟨e, rfl, rfl⟩
    · rw [hold]
      exact .pure (h.rename_previous site hrename)
    · refine .pure ⟨⟨_, h⟩, fun place hplace => ?_⟩
      obtain rfl := h.leads_unique site (.inl rfl) hplace
      obtain ⟨d'', hback⟩ :=
        Swapping.exists_rename_previous site hretired h₀ haside hold h (h.here_eq ▸ hplace)
      have hfailed : (d'.settle (d'.rename _ target)).1 = .error e := hreason e rfl
      rw [hback] at hfailed
      cases hfailed

theorem honestly_revert {hadPrevious : Bool}
    (site : Exchange target here base directory name staged retired) (hretired : IsEntryName retired)
    (h : Retired here base directory name staged retired s (.ok hadPrevious) d)
    (hmoved : hadPrevious = true → MovedAside target here base directory name staged retired s) :
    Program.Honestly allowed (fun _ d' => Spared target here base directory name d')
      (revert (stagedPath target staged) target (target.directory.join ⟨retired⟩) hadPrevious) d := by
  refine (honestly_restore site hretired h hmoved).bind fun kept d₁ h₁ => ?_
  cases kept with
  | false =>
    obtain ⟨r, h₁⟩ := h₁
    refine (honestly_discard_staged site h₁ (.inr rfl)).bind fun _ d₂ ⟨s, h₂⟩ => ?_
    exact (honestly_discard_retired site h₂ (.inr rfl)).mono fun _ d₃ ⟨r, h₃⟩ => .inl h₃.at?_target
  | true =>
    obtain ⟨⟨r, h₁⟩, hnowhere⟩ := h₁
    have hput := h₁.put_staged site none
    have hunique : ∀ place, Leads d₁.root d₁.here target.directory place → place = directory := by
      rw [h₁.here_eq]
      exact fun _ => h₁.leads_unique site (.inl rfl)
    have halways : Program.Always allowed (Intact target [] here base directory name) _ _ [] d₁ :=
      always_discard site.entryOf (h₁.intact site (.inl rfl)) hunique (hput.intact site (.inl rfl))
    refine (Program.Honestly.of_always halways).bind fun _ d₂ ⟨_, _, _, hd₂⟩ => .pure (.inr ?_)
    rcases hd₂ with rfl | rfl
    · exact hnowhere
    · exact fun place hplace => hnowhere place (leads_of_put_none h₁.scene.directory_eq hplace)

/-- What is left where publishing has failed. -/
def SparedUnlessOk {α : Type} (target : Path) (here : Location) (base : Node) (directory : Location)
    (name : FileName) (result : Except ManifestError α) (d : Disk) : Prop :=
  ∀ e, result = .error e → Spared target here base directory name d

theorem honestly_install {hadPrevious : Bool}
    (site : Exchange target here base directory name staged retired) (hretired : IsEntryName retired)
    (h : Retired here base directory name staged retired s (.ok hadPrevious) d)
    (hmoved : hadPrevious = true → MovedAside target here base directory name staged retired s) :
    Program.Honestly allowed (SparedUnlessOk target here base directory name)
      (install (stagedPath target staged) target (target.directory.join ⟨retired⟩) hadPrevious) d := by
  refine .ask_bind fun answer d' hanswer _ _ => ?_
  rcases hanswer.settled (show _ = d.settle (d.rename _ _) from rfl) nofun with
    ⟨_, rfl, -⟩ | ⟨e, rfl, rfl⟩
  · exact Program.Honestly.trivial.bind fun _ _ _ => .pure nofun
  · refine (honestly_revert site hretired h hmoved).bind fun _ d'' hspared => ?_
    exact .pure fun _ _ => hspared

theorem honestly_abandon (site : Site target here base directory name staged)
    (h : Staging here base directory name staged n d) (e : ManifestError) :
    Program.Honestly allowed (SparedUnlessOk target here base directory name)
      (do discard (stagedPath target staged); pure (.error e) : Program (Except ManifestError Unit))
      d := by
  have halways : Program.Always allowed (Intact target [] here base directory name) _ _ [] d :=
    always_discard_staging site h
  refine (Program.Honestly.of_always halways).bind fun _ d' ⟨_, _, hsame⟩ => ?_
  exact .pure fun _ _ => .inl hsame

theorem honestly_swap (hfileName : target.fileName? = some name)
    (hspares : Spares target base directory name allowed)
    (site : Site target here base directory name staged)
    (h : Staging here base directory name staged n d) :
    Program.Honestly allowed (SparedUnlessOk target here base directory name)
      (swap (stagedPath target staged) target) d := by
  refine .ask_bind fun answer d' hanswer _ hallowed => ?_
  rcases hanswer.makePrivateDirectory target.bytes_directory_ne_nil (by decide) (by decide) with
    ⟨retired, place, rfl, hplain, hretired, hleads, hnone, rfl⟩ | ⟨e, rfl, rfl⟩
  · rw [h.here_eq] at hleads
    obtain rfl := h.leads_unique site hleads
    have hname := hspares.ne hallowed (h.scene.inside _ _ (by simp)) hnone
    obtain ⟨site', h'⟩ := h.exchange hfileName site hplain hname hnone
    refine (honestly_retire site' h').bind fun result d₁ ⟨h₁, hmoved⟩ => ?_
    match result, h₁, hmoved with
    | .ok hadPrevious, h₁, hmoved =>
      refine honestly_install site' hretired h₁ fun hhad => hmoved ?_
      rw [hhad]
    | .error e, h₁, _ =>
      refine (honestly_discard_retired site' h₁ (.inr rfl)).bind fun _ d₂ ⟨r, h₂⟩ => ?_
      refine (honestly_discard_staged site' h₂ (.inr rfl)).bind fun _ d₃ ⟨s, h₃⟩ => ?_
      exact .pure fun _ _ => .inl h₃.at?_target
  · exact honestly_abandon site h _

theorem honestly_commit (hfileName : target.fileName? = some name)
    (hspares : Spares target base directory name allowed)
    (site : Site target here base directory name staged) (hplain : PlainFiles files) {mode : Nat}
    (h : Staging here base directory name staged (.directory mode []) d) :
    Program.Honestly allowed (SparedUnlessOk target here base directory name)
      (commit (stagedPath target staged) target files) d := by
  have halways : Program.Always allowed (Intact target files here base directory name) _ _ [] d :=
    always_fill site hplain h
  refine (Program.Honestly.of_always halways).bind fun result d₁ ⟨_, _, n, h₁, _⟩ => ?_
  cases result with
  | error e => exact honestly_abandon site h₁ e
  | ok _ => exact honestly_swap hfileName hspares site h₁

/-- Wherever the target leads, there is what was there before the publication. -/
def Untouched (d₀ : Disk) (target : Path) (d : Disk) : Prop :=
  ∀ l, d.place? target = some l → StoodAt d₀ target l (d.root.at? l)

theorem untouched_of_grown {d₀ d : Disk} (h : d₀.Grown target.directory d) :
    Untouched d₀ target d := fun _ hl => stoodAt_of_grown h (.inr hl)

theorem Spared.untouched {d₀ d₁ : Disk} (h : d₀.Grown target.directory d₁)
    (hname : target.fileName? = some name) (hleads : Leads d₁.root d₀.here target.directory directory)
    (hd : Intact target files d₀.here d₁.root directory name d)
    (hspared : Spared target d₀.here d₁.root directory name d) : Untouched d₀ target d := by
  intro l hl
  obtain rfl := (show Named d₀ target d l from .inr hl).eq h hname hleads hd.here_eq hd.leads
  obtain ⟨k, place, -, hplace, -⟩ := Disk.place?_eq_some_iff.mp hl
  rcases hspared with hsame | hnowhere
  · rw [hsame]
    refine stoodAt_of_grown h (.inr (Disk.place?_eq_some_iff.mpr ?_))
    exact ⟨name, directory, hname, h.here ▸ hleads, rfl⟩
  · exact absurd (hd.here_eq ▸ hplace) (hnowhere place)

theorem honestly_publishFiles (hname : target.fileName? = some name) (hplain : PlainFiles files)
    (d₀ : Disk) :
    Program.Honestly (Elsewhere target name)
      (fun result d => ∀ e, result = .error e → Untouched d₀ target d)
      (publishFiles target files) d₀ := by
  refine (Program.Honestly.of_always
    (Program.always_makeDirectories target.directory d₀ [])).bind fun result d₁ ⟨hgrown, _⟩ => ?_
  split
  · exact .pure fun _ _ => untouched_of_grown hgrown
  · refine .ask_bind fun answer d₂ hanswer _ hallowed => ?_
    rcases hanswer.makePrivateDirectory target.bytes_directory_ne_nil (by decide) (by decide) with
      ⟨staged, directory, rfl, hstaged, -, hleads, hnone, rfl⟩ | ⟨e, rfl, rfl⟩
    · rw [hgrown.here] at hleads
      have hne : staged ≠ name := by
        rintro rfl
        exact hallowed rfl
      have site : Site target d₀.here d₁.root directory name staged :=
        ⟨hleads, hstaged, hne, hnone⟩
      have h₂ := site.staging hgrown.here
      have halways : Program.Always (Elsewhere target name)
          (Intact target files d₀.here d₁.root directory name)
          (Settled target files d₀.here d₁.root directory name) _ [] _ :=
        always_commit hname (.inl fun _ h => h) site hplain h₂
      have hcommit := honestly_commit hname (.inl fun _ h => h) site hplain h₂
      refine ((Program.Honestly.of_always halways).and hcommit).mono ?_
      rintro result d₃ ⟨⟨hintact, -⟩, hspared⟩ e he
      exact (hspared e he).untouched hgrown hname hleads hintact
    · exact .pure fun _ _ => untouched_of_grown hgrown

/-- Where no call fails without a reason, a publication that fails leaves the target as it was,
wherever it leads then. -/
theorem honestly_publish {formats : List ManifestFormat} {now : Timestamp} {bs : List Batch}
    (hname : target.fileName? = some name) (d₀ : Disk) :
    Program.Honestly (Elsewhere target name)
      (fun result d => ∀ e, result = .error e → Untouched d₀ target d)
      (publish formats now target bs) d₀ := by
  have hplain := plainFiles_manifestFiles formats (BatchIndex.ofBatches now bs) bs
  refine (honestly_publishFiles hname hplain d₀).bind fun result d huntouched => ?_
  match result, huntouched with
  | .error e, huntouched => exact .pure fun _ _ => huntouched e rfl
  | .ok _, _ => exact .pure nofun

end

end Publication

end SuiteSplit
