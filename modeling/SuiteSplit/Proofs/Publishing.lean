import SuiteSplit.Proofs.Swapping

/-!
What a publication does once the directory of its target is known. The target holds what it held, or
nothing, or all new files at every point. In the end it holds all new files, or what it held before,
unless moving that back has failed.
-/

namespace SuiteSplit

open Node

namespace Publication

/-- No directory for one user was given the path of the target. -/
def Elsewhere (target : Path) (name : FileName) (event : Event) : Prop :=
  event.drawn? ≠ some (target.directory.join ⟨name⟩)

/-- What is allowed leaves the path of the target alone: it is never drawn, or something stands there
before the target is touched. -/
def Spares (target : Path) (base : Node) (directory : Location) (name : FileName)
    (allowed : Event → Prop) : Prop :=
  (∀ event, allowed event → Elsewhere target name event) ∨ base.at? (directory ++ [name]) ≠ none

/-- What is left when publishing has failed: the target is as it was, or moving it back has failed as
well and its previous content is in the retired directory. -/
def Failed (target : Path) (base : Node) (directory : Location) (name : FileName)
    (past : List Event) (d : Disk) : Prop :=
  d.root.at? (directory ++ [name]) = base.at? (directory ++ [name]) ∨
  ∃ retired e,
    ⟨.makePrivateDirectory target.directory retiredStart,
      .ok (target.directory.join ⟨retired⟩)⟩ ∈ past ∧
    ⟨.rename (previous (target.directory.join ⟨retired⟩)) target, .error e⟩ ∈ past ∧
    d.root.at? (directory ++ [name]) = none ∧
    d.root.at? (directory ++ [retired, previousName]) = base.at? (directory ++ [name])

/-- What the end of a publication looks like. -/
def Settled (target : Path) (files : List (String × String)) (here : Location) (base : Node)
    (directory : Location) (name : FileName) (past : List Event) (result : Except ManifestError Unit)
    (d : Disk) : Prop :=
  match result with
  | .ok _ => Published target files here directory name d
  | .error _ => Failed target base directory name past d

section

variable {target : Path} {files : List (String × String)} {here : Location} {base n : Node}
  {directory : Location} {name staged retired : FileName} {t s r : Option Node} {d d' : Disk}
  {past : List Event}

theorem always_discard {allowed : Event → Prop} {inv : Disk → Prop} {q : Path} {k : FileName}
    (hq : q.EntryOf target.directory k) (hinv : inv d)
    (hleads : ∀ place, Leads d.root d.here target.directory place → place = directory)
    (hput : inv (d.put (directory ++ [k]) none)) :
    Program.Always allowed inv
      (fun past' _ d' => past <+: past' ∧ (d' = d ∨ d' = d.put (directory ++ [k]) none))
      (discard q) past d := by
  refine .ask_bind hinv fun answer d' hanswer _ => ?_
  rcases hanswer.settled (show _ = d.settle (d.remove q) from rfl) nofun with
    ⟨_, rfl, hremove⟩ | ⟨e, rfl, rfl⟩
  · obtain ⟨place, hplace, rfl⟩ := Disk.remove_eq_ok hq hremove
    obtain rfl := hleads place hplace
    exact .pure hput ⟨List.prefix_append _ _, .inr rfl⟩
  · exact .pure hinv ⟨List.prefix_append _ _, .inl rfl⟩

/-- What the target and the retired directory hold after the target was moved aside. -/
def Retired (here : Location) (base : Node) (directory : Location)
    (name staged retired : FileName) (s : Option Node) (result : Except DiskError Bool)
    (d : Disk) : Prop :=
  if result = .ok true then
    ∃ old, base.at? (directory ++ [name]) = some old ∧
      Swapping here base directory name staged retired none s
        (some (.directory privateMode [(previousName, old)])) d
  else
    Swapping here base directory name staged retired (base.at? (directory ++ [name])) s
      (some (.directory privateMode [])) d

theorem always_retire {allowed : Event → Prop}
    (site : Exchange target here base directory name staged retired)
    (h : Swapping here base directory name staged retired (base.at? (directory ++ [name])) s
      (some (.directory privateMode [])) d) :
    Program.Always allowed (Intact target files here base directory name)
      (fun past' result d' => past <+: past' ∧
        Retired here base directory name staged retired s result d')
      (retire target (target.directory.join ⟨retired⟩)) past d := by
  refine .ask_bind (h.intact site (.inr rfl)) fun answer d' hanswer _ => ?_
  have hd : d' = d := by cases hanswer <;> rfl
  subst hd
  split
  · exact .pure (h.intact site (.inr rfl)) ⟨List.prefix_append _ _, h⟩
  · exact .pure (h.intact site (.inr rfl)) ⟨List.prefix_append _ _, h⟩
  · refine .ask_bind (h.intact site (.inr rfl)) fun answer d'' hanswer _ => ?_
    rcases hanswer.settled (show _ = d'.settle (d'.rename _ _) from rfl) nofun with
      ⟨_, rfl, hrename⟩ | ⟨e, rfl, rfl⟩
    · obtain ⟨old, hold, h'⟩ := h.rename_target site hrename
      refine .pure (h'.intact site (.inl rfl)) ⟨?_, old, hold, h'⟩
      exact (List.prefix_append _ _).trans (List.prefix_append _ _)
    · refine .pure (h.intact site (.inr rfl)) ⟨?_, h⟩
      exact (List.prefix_append _ _).trans (List.prefix_append _ _)

/-- What the target and the retired directory hold after the target was moved back, or after that has
failed. -/
def Restored (target : Path) (here : Location) (base : Node) (directory : Location)
    (name staged retired : FileName) (s : Option Node) (past : List Event) (kept : Bool)
    (d : Disk) : Prop :=
  if kept then
    (∃ e, ⟨.rename (previous (target.directory.join ⟨retired⟩)) target, .error e⟩ ∈ past) ∧
    ∃ old, base.at? (directory ++ [name]) = some old ∧
      Swapping here base directory name staged retired none s
        (some (.directory privateMode [(previousName, old)])) d
  else
    ∃ r, Swapping here base directory name staged retired (base.at? (directory ++ [name])) s r d

theorem always_restore {allowed : Event → Prop} {hadPrevious : Bool}
    (site : Exchange target here base directory name staged retired)
    (h : Retired here base directory name staged retired s (.ok hadPrevious) d) :
    Program.Always allowed (Intact target files here base directory name)
      (fun past' kept d' => past <+: past' ∧
        Restored target here base directory name staged retired s past' kept d')
      (restore target (target.directory.join ⟨retired⟩) hadPrevious) past d := by
  cases hadPrevious with
  | false =>
    have h' : Swapping here base directory name staged retired _ s _ d := h
    exact .pure (h'.intact site (.inr rfl)) ⟨List.prefix_rfl, _, h'⟩
  | true =>
    obtain ⟨old, hold, h⟩ := h
    refine .ask_bind (h.intact site (.inl rfl)) fun answer d' hanswer _ => ?_
    rcases hanswer.settled (show _ = d.settle (d.rename _ _) from rfl) nofun with
      ⟨_, rfl, hrename⟩ | ⟨e, rfl, rfl⟩
    · obtain ⟨r, h'⟩ := h.rename_previous site hrename
      rw [← hold] at h'
      exact .pure (h'.intact site (.inr rfl)) ⟨List.prefix_append _ _, r, h'⟩
    · exact .pure (h.intact site (.inl rfl))
        ⟨List.prefix_append _ _, ⟨e, by simp⟩, old, hold, h⟩

/-- Directories that are discarded in the end were not there before. -/
theorem always_discard_staged {allowed : Event → Prop}
    (site : Exchange target here base directory name staged retired)
    (h : Swapping here base directory name staged retired t s r d)
    (ht : t = none ∨ t = base.at? (directory ++ [name])) :
    Program.Always allowed (Intact target files here base directory name)
      (fun past' _ d' => past <+: past' ∧
        ∃ s, Swapping here base directory name staged retired t s r d')
      (discard (stagedPath target staged)) past d := by
  have hput := h.put_staged site none
  refine (always_discard site.entryOf (h.intact site ht) ?_ (hput.intact site ht)).mono
    (fun _ h => h) ?_
  · rw [h.here_eq]
    exact fun _ => h.leads_unique site ht
  · rintro past' _ d' - ⟨hpast, rfl | rfl⟩
    · exact ⟨hpast, s, h⟩
    · exact ⟨hpast, none, hput⟩

theorem always_discard_retired {allowed : Event → Prop}
    (site : Exchange target here base directory name staged retired)
    (h : Swapping here base directory name staged retired t s r d)
    (ht : t = none ∨ t = base.at? (directory ++ [name])) :
    Program.Always allowed (Intact target files here base directory name)
      (fun past' _ d' => past <+: past' ∧
        ∃ r, Swapping here base directory name staged retired t s r d')
      (discard (target.directory.join ⟨retired⟩)) past d := by
  have hput := h.put_retired site none
  refine (always_discard site.entryOf_retired (h.intact site ht) ?_ (hput.intact site ht)).mono
    (fun _ h => h) ?_
  · rw [h.here_eq]
    exact fun _ => h.leads_unique site ht
  · rintro past' _ d' - ⟨hpast, rfl | rfl⟩
    · exact ⟨hpast, r, h⟩
    · exact ⟨hpast, none, hput⟩

theorem Published.intact (h : Published target files here directory name d) :
    Intact target files here base directory name d :=
  ⟨h.here_eq, fun _ hplace => hplace.unique h.leads, .inr (.inr h.holds)⟩

/-- When the staged directory cannot take its place, the target is moved back, or that fails too. -/
theorem always_revert {allowed : Event → Prop} {hadPrevious : Bool}
    (site : Exchange target here base directory name staged retired)
    (hretired : (⟨.makePrivateDirectory target.directory retiredStart,
      .ok (target.directory.join ⟨retired⟩)⟩ : Event) ∈ past)
    (h : Retired here base directory name staged retired s (.ok hadPrevious) d) :
    Program.Always allowed (Intact target files here base directory name)
      (fun past' _ d' => Failed target base directory name past' d')
      (revert (stagedPath target staged) target (target.directory.join ⟨retired⟩) hadPrevious)
      past d := by
  refine (always_restore site h).bind fun past₁ kept d₁ _ ⟨hpast₁, h₁⟩ => ?_
  cases kept with
  | false =>
    obtain ⟨r, h₁⟩ := h₁
    refine (always_discard_staged site h₁ (.inr rfl)).bind fun past₂ _ d₂ _ ⟨_, s, h₂⟩ => ?_
    refine (always_discard_retired site h₂ (.inr rfl)).mono (fun _ h => h) ?_
    rintro past₃ _ d₃ - ⟨-, r, h₃⟩
    exact .inl h₃.at?_target
  | true =>
    obtain ⟨⟨e, he⟩, old, hold, h₁⟩ := h₁
    refine (always_discard_staged site h₁ (.inl rfl)).bind fun past₂ _ d₂ hinv ⟨hpast₂, s, h₂⟩ => ?_
    refine .pure hinv (.inr ⟨retired, e, ?_, hpast₂.subset he, h₂.at?_target, ?_⟩)
    · exact (hpast₁.trans hpast₂).subset hretired
    · rw [List.append_cons, at?_append_of_some h₂.at?_retired, hold, at?_cons]
      simp [Node.entries]

theorem always_install {hadPrevious : Bool} {allowed : Event → Prop}
    (site : Exchange target here base directory name staged retired)
    (hretired : (⟨.makePrivateDirectory target.directory retiredStart,
      .ok (target.directory.join ⟨retired⟩)⟩ : Event) ∈ past)
    (hn : HoldsFiles files n)
    (h : Retired here base directory name staged retired (some n) (.ok hadPrevious) d) :
    Program.Always allowed (Intact target files here base directory name)
      (Settled target files here base directory name)
      (install (stagedPath target staged) target (target.directory.join ⟨retired⟩) hadPrevious)
      past d := by
  obtain ⟨t, r, ht, hswap⟩ : ∃ t r, (t = none ∨ t = base.at? (directory ++ [name])) ∧
      Swapping here base directory name staged retired t (some n) r d := by
    cases hadPrevious with
    | true =>
      obtain ⟨old, -, h⟩ := h
      exact ⟨_, _, .inl rfl, h⟩
    | false => exact ⟨_, _, .inr rfl, h⟩
  refine .ask_bind (hswap.intact site ht) fun answer d' hanswer _ => ?_
  rcases hanswer.settled (show _ = d.settle (d.rename _ _) from rfl) nofun with
    ⟨_, rfl, hrename⟩ | ⟨e, rfl, rfl⟩
  · obtain ⟨h', hpublished⟩ := hswap.rename_staged site ht hn hrename
    have hp := hpublished r d' h'
    have hp' := hpublished none _ (h'.put_retired site none)
    refine (always_discard site.entryOf_retired hp.intact ?_ hp'.intact).bind ?_
    · rw [hp.here_eq]
      exact fun _ hplace => hplace.unique hp.leads
    · rintro past' _ d'' hinv ⟨-, rfl | rfl⟩
      · exact .pure hinv hp
      · exact .pure hinv hp'
  · refine (always_revert site (List.mem_append_left _ hretired) h).bind fun past' _ d' hinv hfailed => ?_
    exact .pure hinv hfailed

/-- A staged directory that is discarded leaves the target as it was. -/
theorem always_discard_staging {allowed : Event → Prop}
    (site : Site target here base directory name staged)
    (h : Staging here base directory name staged n d) :
    Program.Always allowed (Intact target files here base directory name)
      (fun _ _ d' => d'.root.at? (directory ++ [name]) = base.at? (directory ++ [name]))
      (discard (stagedPath target staged)) past d := by
  have hscene : Scene base directory ([(name, base.at? (directory ++ [name]))] ++
    (staged, some n) :: []) d.root := h.scene
  have hput := hscene.put (by simpa using site.ne.symm) none
  have hat := hput.inside name _ (List.mem_append_left _ List.mem_cons_self)
  have hintact : Intact target files here base directory name
      (d.put (directory ++ [staged]) none) := by
    refine ⟨h.here_eq, fun place hplace => hput.leads_unique ?_ site.leads hplace, .inl hat⟩
    exact .cons (.inr (.inr rfl)) (.cons (.inl rfl) nofun)
  refine (always_discard site.entryOf (h.intact site) ?_ hintact).mono (fun _ h => h) ?_
  · rw [h.here_eq]
    exact fun _ => h.leads_unique site
  · rintro past' _ d' - ⟨-, rfl | rfl⟩
    · exact h.scene.inside _ _ (by simp)
    · exact hat

/-- A staged directory is given up before the target was touched. -/
theorem always_abandon {allowed : Event → Prop}
    (site : Site target here base directory name staged)
    (h : Staging here base directory name staged n d) (e : ManifestError) :
    Program.Always allowed (Intact target files here base directory name)
      (Settled target files here base directory name)
      (do discard (stagedPath target staged); pure (.error e)) past d := by
  refine (always_discard_staging site h).bind fun past' _ d' hinv hat => ?_
  exact .pure hinv (.inl hat)

theorem Spares.ne {allowed : Event → Prop} {parent : Path} {start : String} {k : FileName}
    (h : Spares target base directory name allowed)
    (hallowed : allowed ⟨.makePrivateDirectory parent start, .ok (target.directory.join ⟨k⟩)⟩)
    (hsame : d.root.at? (directory ++ [name]) = base.at? (directory ++ [name]))
    (hnone : d.root.at? (directory ++ [k]) = none) : k ≠ name := by
  rintro rfl
  rcases h with helsewhere | hsome
  · exact helsewhere _ hallowed rfl
  · exact hsome (hsame.symm.trans hnone)

theorem always_swap {allowed : Event → Prop} (hfileName : target.fileName? = some name)
    (hspares : Spares target base directory name allowed)
    (site : Site target here base directory name staged)
    (h : Staging here base directory name staged n d) (hn : HoldsFiles files n) :
    Program.Always allowed (Intact target files here base directory name)
      (Settled target files here base directory name)
      (swap (stagedPath target staged) target) past d := by
  refine .ask_bind (h.intact site) fun answer d' hanswer hallowed => ?_
  rcases hanswer.makePrivateDirectory target.bytes_directory_ne_nil (by decide) (by decide) with
    ⟨retired, place, rfl, hplain, -, hleads, hnone, rfl⟩ | ⟨e, rfl, rfl⟩
  · rw [h.here_eq] at hleads
    obtain rfl := h.leads_unique site hleads
    have hname := hspares.ne hallowed (h.scene.inside _ _ (by simp)) hnone
    obtain ⟨site', h'⟩ := h.exchange hfileName site hplain hname hnone
    refine (always_retire site' h').bind fun past₁ result d₁ _ ⟨hpast, hretired⟩ => ?_
    match result, hretired with
    | .ok hadPrevious, hretired =>
      exact always_install site'
        (hpast.subset (List.mem_append_right _ List.mem_cons_self)) hn hretired
    | .error e, h₁ =>
      refine (always_discard_retired site' h₁ (.inr rfl)).bind fun past₂ _ d₂ _ ⟨_, r, h₂⟩ => ?_
      refine (always_discard_staged site' h₂ (.inr rfl)).bind fun past₃ _ d₃ hinv ⟨_, s, h₃⟩ => ?_
      exact .pure hinv (.inl h₃.at?_target)
  · exact always_abandon site h _

theorem always_commit {allowed : Event → Prop} (hfileName : target.fileName? = some name)
    (hspares : Spares target base directory name allowed)
    (site : Site target here base directory name staged)
    (hplain : PlainFiles files) {mode : Nat}
    (h : Staging here base directory name staged (.directory mode []) d) :
    Program.Always allowed (Intact target files here base directory name)
      (Settled target files here base directory name)
      (commit (stagedPath target staged) target files) past d := by
  refine (always_fill site hplain h).bind fun past₁ result d₁ _ ⟨n, h₁, hn⟩ => ?_
  match result, hn with
  | .error e, _ => exact always_abandon site h₁ e
  | .ok _, hn => exact always_swap hfileName hspares site h₁ (hn rfl)

end

theorem plainFiles_manifestFiles (formats : List ManifestFormat) (index : BatchIndex)
    (bs : List Batch) : PlainFiles (manifestFiles formats index bs) := by
  have hname (number : Nat) (ending : String) (hending : '/' ∉ ending.toList) :
      '/' ∉ ("batch-" ++ toString number ++ ending).toList ∧
        3 ≤ ("batch-" ++ toString number ++ ending).length := by
    have hdigits : '/' ∉ (toString number).toList := by
      rw [Nat.toString_eq_ofList_toDigits, String.toList_ofList]
      exact Path.slash_not_mem_toDigits number
    have hlength : "batch-".length = 6 := by decide
    simp only [String.toList_append, List.mem_append, not_or, String.length_append]
    exact ⟨⟨⟨by decide, hdigits⟩, hending⟩, by omega⟩
  intro file hfile
  rw [manifestFiles, List.mem_append, List.mem_flatMap] at hfile
  rcases hfile with ⟨b, -, hb⟩ | hfile
  · obtain ⟨f, -, rfl⟩ := List.mem_map.mp hb
    cases f with
    | json layout => exact hname b.number ".json" (by decide)
    | classList => exact hname b.number ".txt" (by decide)
  · rw [List.mem_singleton.mp hfile]
    change '/' ∉ BatchIndex.fileName.toList ∧ 3 ≤ BatchIndex.fileName.length
    decide

end Publication

end SuiteSplit
