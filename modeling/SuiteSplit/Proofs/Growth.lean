import SuiteSplit.Proofs.Calls

/-!
Making directories on the way to a path. Whatever fails, every place holds what it held, or a new
directory where nothing was. A path that leads to a directory already makes none, and on a path without
double dots nothing is made at or below an entry of the directory that the path leads to.
-/

namespace SuiteSplit

namespace Node

theorem waypoint_bare (n : Node) : n.bare.waypoint = n.waypoint := by
  cases n <;> rfl

theorem kind_bare (n : Node) : n.bare.kind = n.kind := by
  cases n <;> rfl

theorem kind_of_bare {m n : Node} (h : m.bare = n.bare) : m.kind = n.kind := by
  rw [← kind_bare, h, kind_bare]

/-- At and below a place stands what stood there, but for new directories where nothing stood. -/
def Grown (old new : Option Node) : Prop :=
  ∀ l, (new.bind (·.at? l)).map bare = (old.bind (·.at? l)).map bare ∨
    old.bind (·.at? l) = none ∧ (new.bind (·.at? l)).map bare = some emptyDirectory

namespace Grown

variable {old new : Option Node} {root root' : Node}

theorem refl (n : Option Node) : Grown n n := fun _ => .inl rfl

theorem trans {mid : Option Node} (h : Grown old mid) (h' : Grown mid new) : Grown old new := by
  intro l
  rcases h' l with hsame' | ⟨hnone', hmade'⟩
  · rcases h l with hsame | ⟨hnone, hmade⟩
    · exact .inl (hsame'.trans hsame)
    · exact .inr ⟨hnone, hsame'.trans hmade⟩
  · rcases h l with hsame | ⟨hnone, hmade⟩
    · rw [hnone', Option.map_none, eq_comm, Option.map_eq_none_iff] at hsame
      exact .inr ⟨hsame, hmade'⟩
    · simp [hnone'] at hmade

/-- What is grown is grown at every place. -/
theorem at? (h : Grown (some root) (some root')) (l : Location) :
    Grown (root.at? l) (root'.at? l) := by
  intro m
  rw [← at?_append, ← at?_append]
  exact h (l ++ m)

theorem waypoint? (h : Grown (some root) (some root')) {l : Location} {w : Waypoint}
    (hw : root.waypoint? l = some w) : root'.waypoint? l = some w := by
  obtain ⟨n, hn, rfl⟩ := Option.map_eq_some_iff.mp hw
  rcases h l with hsame | ⟨hnone, -⟩
  · simp only [Option.bind_some, hn, Option.map_some, Option.map_eq_some_iff] at hsame
    obtain ⟨n', hn', hbare⟩ := hsame
    rw [Node.waypoint?, hn', Option.map_some, ← waypoint_bare, hbare, waypoint_bare]
  · simp [hn] at hnone

theorem waypoint?_of_none (h : Grown (some root) (some root')) {l : Location}
    (hnone : root.at? l = none) :
    root'.waypoint? l = none ∨ root'.waypoint? l = some .directory := by
  rcases h l with hsame | ⟨-, hmade⟩
  · left
    simpa [hnone, Node.waypoint?] using hsame
  · right
    simp only [Option.bind_some, Option.map_eq_some_iff] at hmade
    obtain ⟨n, hn, hbare⟩ := hmade
    rw [Node.waypoint?, hn, Option.map_some, ← waypoint_bare, hbare]
    rfl

theorem put {directory : Location} {name : FileName}
    (hdirectory : (root.at? directory).any isDirectory)
    (hnone : root.at? (directory ++ [name]) = none) :
    Grown (some root) (some (root.put (some emptyDirectory) (directory ++ [name]))) := by
  intro l
  simp only [Option.bind_some]
  have hput := at?_put_concat hdirectory (some emptyDirectory) name
  by_cases habove : l <+: directory ++ [name]
  · obtain ⟨rest, hrest⟩ := habove
    cases rest with
    | nil =>
      rw [List.append_nil] at hrest
      subst hrest
      exact .inr ⟨hnone, by rw [hput]; rfl⟩
    | cons next rest =>
      left
      rw [← hrest, at?_put_append _ _ _ _ (List.cons_ne_nil _ _), Option.map_map]
      congr 1
      funext n
      exact bare_put _ _ _ _
  · by_cases hbelow : directory ++ [name] <+: l
    · obtain ⟨rest, rfl⟩ := hbelow
      cases rest with
      | nil => simp at habove
      | cons next rest =>
        left
        rw [at?_append_of_some hput, at?_append_of_none hnone]
        rfl
    · exact .inl (by rw [at?_put_of_apart _ _ ⟨hbelow, habove⟩])

end Grown

/-- Without double dots and links a way only goes down. -/
theorem Way.prefix_of_directories {root : Node} {links links' : Nat} {here there : Location}
    {todo : List FileName} (h : Way root links here todo links' there) (hdots : Path.dots ∉ todo)
    (hsee : ∀ l, here <+: l → root.waypoint? l = none ∨ root.waypoint? l = some .directory) :
    here <+: there := by
  induction h with
  | done => exact List.prefix_rfl
  | idle _ _ ih => exact ih (fun h => hdots (List.mem_cons_of_mem _ h)) hsee
  | up => exact absurd List.mem_cons_self hdots
  | enter _ _ _ ih =>
    refine (List.prefix_append _ _).trans (ih (fun h => hdots (List.mem_cons_of_mem _ h)) ?_)
    exact fun l hl => hsee l ((List.prefix_append _ _).trans hl)
  | follow _ hlink _ _ =>
    rcases hsee _ (List.prefix_append _ [_]) with h | h <;> rw [hlink] at h <;> cases h

end Node

open Node

/-- A disk on which directories on the way to a path were made. A place that is not as it was has a new
directory at or below it, and that one is on the way. -/
structure Disk.Grown (p : Path) (d d' : Disk) : Prop where
  here : d'.here = d.here
  grown : Node.Grown (some d.root) (some d'.root)
  made : ∀ l, d'.root.at? l = d.root.at? l ∨
    ∃ c front links, l <+: c ∧ d.root.at? c = none ∧ front <+: p.names ∧
      Way d'.root maxLinks (p.origin d.here) front links c

namespace Disk.Grown

variable {p : Path} {d d' d'' : Disk}

theorem refl (p : Path) (d : Disk) : Grown p d d := ⟨rfl, .refl _, fun _ => .inl rfl⟩

theorem trans (h : Grown p d d') (h' : Grown p d' d'') : Grown p d d'' := by
  refine ⟨h'.here.trans h.here, h.grown.trans h'.grown, fun l => ?_⟩
  have hsee l w (hw : d'.root.waypoint? l = some w) := h'.grown.waypoint? hw
  rcases h'.made l with hsame' | ⟨c, front, links, hl, hnone, hfront, hway⟩
  · rcases h.made l with hsame | ⟨c, front, links, hl, hnone, hfront, hway⟩
    · exact .inl (hsame'.trans hsame)
    · exact .inr ⟨c, front, links, hl, hnone, hfront, hway.mono hsee⟩
  · refine .inr ⟨c, front, links, hl, ?_, hfront, h.here ▸ hway⟩
    by_contra hsome
    obtain ⟨n, hn⟩ := Option.ne_none_iff_exists'.mp hsome
    have hw := h.grown.waypoint? (waypoint?_of_at? hn)
    simp [waypoint?, hnone] at hw

/-- A directory on the way is made only where the directory around it is led to. -/
theorem makeDirectory {q : Path} (hnames : q.names <+: p.names)
    (habsolute : q.isAbsolute = p.isAbsolute) (h : d.makeDirectory q = .ok ((), d')) :
    Grown p d d' := by
  obtain ⟨there, name, hentry, hnone, rfl⟩ := create_eq_ok h
  obtain ⟨-, horigin, hname, outer, links, hq, hway⟩ := exists_way_of_entry hentry
  have horiginEq : q.origin d.here = p.origin d.here := by
    rw [Path.origin, Path.origin, habsolute]
  have hdirectory : (d.root.at? there).any isDirectory :=
    any_isDirectory_iff.mpr (hway.directory horigin)
  have hgrown := Node.Grown.put hdirectory hnone
  refine ⟨rfl, hgrown, fun l => ?_⟩
  by_cases hl : l <+: there ++ [name]
  · refine .inr ⟨there ++ [name], q.names, links, hl, hnone, hnames, ?_⟩
    rw [hq, ← horiginEq]
    have hmono := hway.mono fun l w hw => hgrown.waypoint? hw
    exact hmono.append (.enter hname (waypoint?_of_at? (at?_put_concat hdirectory _ _)) (.done _ _))
  · by_cases hbelow : there ++ [name] <+: l
    · -- nothing is below what was nothing, nor in the new directory
      obtain ⟨rest, rfl⟩ := hbelow
      have hput := at?_put_concat hdirectory (some emptyDirectory) name
      left
      cases rest with
      | nil => simp at hl
      | cons next rest =>
        rw [root_put, at?_append_of_some hput, at?_append_of_none hnone]
        rfl
    · exact .inl (at?_put_of_apart _ _ ⟨hbelow, hl⟩)

/-- Nothing is made where the path leads to a directory already. -/
theorem at?_eq_of_leads (h : Grown p d d') {there : Location} (hleads : Leads d.root d.here p there)
    (l : Location) : d'.root.at? l = d.root.at? l := by
  rcases h.made l with hsame | ⟨c, front, links, -, hnone, ⟨rest, hrest⟩, hway⟩
  · exact hsame
  · obtain ⟨linksP, hwayP⟩ := hleads.way
    have hnames : Way _ _ _ (front ++ rest) _ _ := hwayP.of_filter_eq <| by
      rw [hrest, p.filter_names, p.filter_hops]
    obtain ⟨linksA, place, hplace, -⟩ := hnames.split
    obtain rfl : place = c :=
      (hplace.mono fun l w hw => h.grown.waypoint? hw).unique hway
    have hsee := hplace.directory hleads.origin
    simp [waypoint?, hnone] at hsee

/-- Without double dots in the path nothing is made at or below an entry of its directory. -/
theorem at?_eq_of_no_dots (h : Grown p d d') (hdots : Path.dots ∉ p.names) {there : Location}
    (hleads : Leads d'.root d'.here p there) (name : FileName) :
    d'.root.at? (there ++ [name]) = d.root.at? (there ++ [name]) := by
  rcases h.made (there ++ [name]) with hsame | ⟨c, front, links, hc, hnone, ⟨rest, hrest⟩, hway⟩
  · exact hsame
  · obtain ⟨linksP, hwayP⟩ := hleads.way
    have hnames : Way _ _ _ (front ++ rest) _ _ := hwayP.of_filter_eq <| by
      rw [hrest, p.filter_names, p.filter_hops]
    obtain ⟨linksA, place, hplace, hdown⟩ := hnames.split
    rw [h.here] at hplace
    obtain rfl := hplace.unique hway
    have hbelow : place <+: there := by
      refine hdown.prefix_of_directories (fun hmem => hdots ?_) fun l hl => ?_
      · exact hrest ▸ List.mem_append_right _ hmem
      · obtain ⟨m, rfl⟩ := hl
        exact h.grown.waypoint?_of_none (at?_append_of_none hnone m)
    have hlength := (hc.trans hbelow).length_le
    simp at hlength

end Disk.Grown

namespace Program

variable {allowed : Event → Prop} {p : Path} {d₀ d : Disk} {past : List Event}

/-- What makes directories on the way lets the disk grow, call by call. -/
theorem always_makeFirst {paths : List Path}
    (hpaths : ∀ q ∈ paths, q.bytes ≠ [] → q.names <+: p.names ∧ q.isAbsolute = p.isAbsolute)
    (h : d₀.Grown p d) :
    Always allowed (d₀.Grown p) (fun _ _ _ => True) (makeFirst paths) past d := by
  induction paths generalizing past d with
  | nil => exact .pure h trivial
  | cons q outer ih =>
    rw [makeFirst]
    split
    · exact .pure h trivial
    · next hq =>
      obtain ⟨hnames, habsolute⟩ := hpaths q List.mem_cons_self hq
      have hstep {d d' : Disk} {answer} (h : d₀.Grown p d)
          (hanswer : d.Answers (.makeDirectory q) answer d') : d₀.Grown p d' := by
        rcases hanswer.settled (show _ = d.settle (d.makeDirectory q) from rfl) nofun with
          ⟨_, -, hmake⟩ | ⟨e, -, rfl⟩
        · exact h.trans (.makeDirectory hnames habsolute hmake)
        · exact h
      have hlook {d : Disk} {past} (e : DiskError) (h : d₀.Grown p d) :
          Always allowed (d₀.Grown p) (fun _ _ _ => True) (unlessDirectory q e) past d := by
        refine .ask_bind h fun answer d' hanswer _ => ?_
        have hd : d' = d := by cases hanswer <;> rfl
        subst hd
        split <;> exact .pure h trivial
      refine .ask_bind h fun answer d' hanswer _ => ?_
      have h' := hstep h hanswer
      split
      · exact .pure h' trivial
      · have houter := fun q hq => hpaths q (List.mem_cons_of_mem _ hq)
        refine (ih houter h').bind fun past a d h _ => ?_
        split
        · exact .pure h trivial
        · refine .ask_bind h fun answer d' hanswer _ => ?_
          have h'' := hstep h hanswer
          split
          · exact .pure h'' trivial
          · exact hlook _ h''
      · exact hlook _ h'

theorem always_makeDirectories (p : Path) (d : Disk) (past : List Event) :
    Always allowed (d.Grown p) (fun _ _ _ => True) (makeDirectories p) past d := by
  refine always_makeFirst (fun q hq hne => ?_) (.refl p d)
  obtain ⟨hbytes, hnames⟩ := Path.of_mem_around hq
  exact ⟨hnames, (Path.isAbsolute_of_prefix hbytes hne).symm⟩

end Program

end SuiteSplit
