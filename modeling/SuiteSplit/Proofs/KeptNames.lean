import SuiteSplit.Proofs.Calls
import SuiteSplit.Proofs.Removal

/-!
Calls keep a tree well named. Whatever programs do on a disk, also where some of their calls fail,
the entries of a directory keep different names, and each is a name that a path can hold. What a call
names is a segment of its path, or of the path of a link on the way, so links have to lead along paths
without a zero byte. No call makes another link.
-/

namespace SuiteSplit

theorem Text.mem_of_mem_splitOn {α : Type} [DecidableEq α] {mark x : α} {xs part : List α}
    (h : part ∈ xs.splitOn mark) (hx : x ∈ part) : x ∈ xs := by
  obtain ⟨i, hi⟩ := List.mem_iff_getElem?.mp h
  have hpart : part ∈ (xs.splitOn mark).intersperse [mark] :=
    List.mem_iff_getElem?.mpr ⟨2 * i, by rw [List.getElem?_intersperse_two_mul, hi]⟩
  have hmem : x ∈ [mark].intercalate (xs.splitOn mark) := List.mem_flatten.mpr ⟨part, hpart, hx⟩
  rwa [List.intercalate_splitOn] at hmem

namespace Path

/-- No slash is in a segment, and no byte that is not in the path. -/
theorem of_mem_allHops {p : Path} (hzero : 0 ∉ p.bytes) {name : FileName} (h : name ∈ p.allHops) :
    slash ∉ name ∧ 0 ∉ name := by
  rw [allHops, List.mem_append, hops_eq, List.mem_filter] at h
  rcases h with ⟨hpart, -⟩ | h
  · exact ⟨Text.not_mem_of_mem_splitOn hpart, fun hname =>
      hzero (Text.mem_of_mem_splitOn hpart hname)⟩
  · split at h
    · rw [List.mem_singleton.mp h]
      simp [inward]
    · cases h

end Path

namespace Node

/-- The names are as a system keeps them, and links lead along paths without a zero byte. -/
structure Kept (root : Node) : Prop where
  wellNamed : root.WellNamed
  link : ∀ l target, root.at? l = some (.link target) → 0 ∉ target.bytes

namespace Kept

variable {root n m : Node} {l : Location} {name : FileName} {mode : Nat}
  {es : List (FileName × Node)} {v : Option Node}

theorem of_not_directory (h : n.isDirectory = false)
    (hlink : ∀ target, n = .link target → 0 ∉ target.bytes) : Kept n := by
  refine ⟨wellNamed_of_not_directory h, ?_⟩
  intro l target hat
  cases l with
  | nil => exact hlink target (Option.some.inj hat)
  | cons name rest =>
    rw [at?_cons_of_not_directory h] at hat
    cases hat

theorem file (mode : Nat) (bytes : ByteArray) : Kept (.file mode bytes) :=
  of_not_directory rfl nofun

theorem ofLink {target : Path} (h : 0 ∉ target.bytes) : Kept (.link target) := by
  refine of_not_directory rfl ?_
  rintro _ ⟨⟩
  exact h

theorem at? (h : Kept root) (hat : root.at? l = some n) : Kept n := by
  refine ⟨h.wellNamed.at? hat, ?_⟩
  intro m target hm
  refine h.link (l ++ m) target ?_
  rw [at?_append_of_some hat, hm]

theorem entry (h : Kept n) {e : FileName × Node} (he : e ∈ n.entries) : Kept e.2 := by
  refine h.at? (l := [e.1]) ?_
  rw [at?_cons, (lookup_eq_some_iff_mem h.wellNamed.nodup).mpr he]
  rfl

theorem directory (hnodup : (es.map Prod.fst).Nodup)
    (hnames : ∀ name ∈ es.map Prod.fst, Path.IsFileName name) (hes : ∀ e ∈ es, Kept e.2) :
    Kept (directory mode es) := by
  refine ⟨wellNamed_directory hnodup hnames fun e he => (hes e he).wellNamed, ?_⟩
  intro l target hat
  cases l with
  | nil => cases hat
  | cons name rest =>
    rw [at?_cons, Option.bind_eq_some_iff] at hat
    obtain ⟨inner, hlookup, hrest⟩ := hat
    exact (hes _ (mem_of_lookup hlookup)).link rest target hrest

theorem withMode (h : Kept n) : Kept (n.withMode mode) := by
  cases n with
  | file mode' bytes => exact .file mode bytes
  | link target => exact h
  | directory mode' es =>
    refine .directory h.wellNamed.nodup ?_ fun e he => h.entry he
    intro name hname
    obtain ⟨e, he, rfl⟩ := List.mem_map.mp hname
    exact h.wellNamed.isFileName he

/-- A name that is set is new, or its entry is replaced. A name that is taken away leaves the rest. -/
theorem assign (h : Kept (.directory mode es))
    (hv : ∀ m, v = some m → Path.IsFileName name ∧ Kept m) :
    Kept (.directory mode (assign name v es)) := by
  have hnodup : (es.map Prod.fst).Nodup := h.wellNamed.nodup
  have hnames : ∀ k ∈ es.map Prod.fst, Path.IsFileName k := (h.wellNamed [] mode es rfl).2
  have hes : ∀ e ∈ es, Kept e.2 := fun e he => h.entry he
  unfold Node.assign
  split
  · have hsub : (es.filter (·.1 ≠ name)).Sublist es := List.filter_sublist
    exact .directory ((hsub.map _).nodup hnodup) (fun k hk => hnames k ((hsub.map _).subset hk))
      fun e he => hes e (hsub.subset he)
  · next m =>
    obtain ⟨hname, hm⟩ := hv m rfl
    split
    · next hnew =>
      have hmem : name ∉ es.map Prod.fst := by
        intro hmem
        obtain ⟨e, he, rfl⟩ := List.mem_map.mp hmem
        rw [(lookup_eq_some_iff_mem hnodup).mpr he] at hnew
        cases hnew
      refine .directory ?_ ?_ ?_
      · rw [List.map_append, List.nodup_append]
        refine ⟨hnodup, List.nodup_singleton _, ?_⟩
        rintro k hk k' hk' rfl
        obtain rfl : k = name := by simpa using hk'
        exact hmem hk
      · rw [List.map_append, List.forall_mem_append]
        exact ⟨hnames, by simpa using hname⟩
      · rw [List.forall_mem_append]
        exact ⟨hes, by simpa using hm⟩
    · refine .directory ?_ ?_ ?_
      · rwa [List.map_map]
      · rwa [List.map_map]
      intro e he
      obtain ⟨old, hold, rfl⟩ := List.mem_map.mp he
      dsimp only
      split
      · exact hm
      · exact hes _ hold

theorem put (h : Kept root) (hv : ∀ m, v = some m → Path.IsFileName name ∧ Kept m) :
    Kept (root.put v (l ++ [name])) := by
  induction l generalizing root with
  | nil =>
    cases root with
    | file mode bytes => exact h
    | link target => exact h
    | directory mode es =>
      rw [List.nil_append, put_single]
      exact h.assign hv
  | cons k l ih =>
    cases root with
    | file mode bytes =>
      rw [List.cons_append, put_of_not_directory rfl]
      exact h
    | link target =>
      rw [List.cons_append, put_of_not_directory rfl]
      exact h
    | directory mode es =>
      have hne : l ++ [name] ≠ [] := List.append_ne_nil_of_right_ne_nil _ (List.cons_ne_nil _ _)
      obtain ⟨next, rest, hrest⟩ := List.exists_cons_of_ne_nil hne
      rw [List.cons_append, hrest, put_cons_cons]
      split
      · exact h
      · next inner hlookup =>
        have hmem : (k, inner) ∈ es := mem_of_lookup hlookup
        refine h.assign ?_
        rintro m ⟨⟩
        rw [← hrest]
        exact ⟨h.wellNamed.isFileName hmem, ih (h.entry hmem)⟩

/-- A node in place of another one. -/
theorem replace (h : Kept root) (hat : root.at? l = some n) (hm : Kept m) :
    Kept (root.put (some m) l) := by
  rcases List.eq_nil_or_concat l with rfl | ⟨outer, name, rfl⟩
  · rw [put_nil]
    exact hm
  · rw [List.concat_eq_append] at hat ⊢
    refine h.put ?_
    rintro m' ⟨⟩
    exact ⟨h.wellNamed.names hat _ (List.mem_append_right _ List.mem_cons_self), hm⟩

/-- A walk ends at a vacant spot with a name for a path. -/
theorem isFileName_of_walk (h : Kept root) {aim : Aim} {links : Nat} {here there : Location}
    {todo : List FileName} (htodo : ∀ k ∈ todo, Path.slash ∉ k ∧ 0 ∉ k)
    (hwalk : root.walk aim links here todo = .ok (.vacant there name)) : Path.IsFileName name := by
  fun_induction Node.walk root aim links here todo
  case case3 hidle ih => exact ih (fun k hk => htodo k (List.mem_cons_of_mem _ hk)) hwalk
  case case4 hidle ih => exact ih (fun k hk => htodo k (List.mem_cons_of_mem _ hk)) hwalk
  case case7 hidle hup hlong hnone hfile =>
    cases hwalk
    obtain ⟨hslash, hzero⟩ := htodo name List.mem_cons_self
    exact ⟨⟨fun hnil => hidle (.inl hnil), hslash, fun hdot => hidle (.inr hdot), hup⟩, hzero,
      Nat.not_lt.mp hlong⟩
  case case11 hidle hup hfile hlong mode entries hat ih =>
    exact ih (fun k hk => htodo k (List.mem_cons_of_mem _ hk)) hwalk
  case case14 hidle hup hfile hlong target hat hend links ih =>
    refine ih (fun k hk => ?_) hwalk
    rcases List.mem_append.mp hk with hk | hk
    · exact Path.of_mem_allHops (h.link _ _ hat) hk
    · exact htodo k (List.mem_cons_of_mem _ hk)
  all_goals cases hwalk

end Kept

end Node

open Node

namespace Disk

variable {d d' : Disk} {p : Path}

theorem kept_blank : Kept blank.root := by
  refine .directory (List.nodup_singleton _) (List.forall_mem_singleton.mpr (by decide)) ?_
  rw [List.forall_mem_singleton]
  exact .directory List.nodup_nil nofun nofun

/-- What a call names is a name for a path. -/
theorem isFileName_of_entry {there : Location} {name : FileName}
    (h : d.entry p = .ok (there, some name)) : Path.IsFileName name := by
  obtain ⟨haccepted, -, hname, outer, -, hnames, -⟩ := exists_way_of_entry h
  have hzero : 0 ∉ p.bytes := (Path.fault?_eq_none_iff.mp haccepted).1
  have hmem : name ∈ p.names := hnames ▸ List.mem_append_right _ List.mem_cons_self
  rw [Path.names_eq] at hmem
  have hpart := (List.mem_filter.mp hmem).1
  exact ⟨⟨hname.ne_inward, Text.not_mem_of_mem_splitOn hpart, hname.ne_dot, hname.ne_dots⟩,
    fun h => hzero (Text.mem_of_mem_splitOn hpart h), hname.length_le⟩

section

variable (hd : Kept d.root)

include hd

theorem kept_of_create {n : Node} (hn : Kept n) (h : d.create p n = .ok ((), d')) :
    Kept d'.root := by
  obtain ⟨there, name, hentry, -, rfl⟩ := create_eq_ok h
  refine hd.put ?_
  rintro m ⟨⟩
  exact ⟨isFileName_of_entry hentry, hn⟩

/-- Links are not made by any call, but by those who use the disk. -/
theorem kept_of_makeLink {target : Path} (h : d.makeLink p target = .ok ((), d')) :
    Kept d'.root := by
  unfold makeLink at h
  split at h
  · cases h
  · cases h
  · next hfault hcreate =>
    split_ifs at h
    cases h
    exact kept_of_create hd (.ofLink (Path.fault?_eq_none_iff.mp hfault).1) hcreate

theorem kept_of_makePrivateUnder {p' : Path} {name : FileName}
    (h : d.makePrivateUnder p name = .ok (p', d')) : Kept d'.root := by
  have hempty : Kept (.directory privateMode []) := .directory List.nodup_nil nofun nofun
  obtain ⟨-, hcreate⟩ := create_of_makePrivateUnder h
  exact kept_of_create hd hempty hcreate

theorem kept_of_setMode {mode : Nat} (h : d.setMode p mode = .ok ((), d')) : Kept d'.root := by
  rw [setMode] at h
  cases hfind : d.find .goal p with
  | error e =>
    rw [hfind] at h
    cases h
  | ok found =>
    rw [hfind] at h
    cases h
    have hat := at?_of_find hfind
    exact hd.replace hat (hd.at? hat).withMode

theorem kept_of_write {bytes : ByteArray} (h : d.write p bytes = .ok ((), d')) : Kept d'.root := by
  rw [write] at h
  cases hwalk : d.walk .file p with
  | error e =>
    rw [hwalk] at h
    cases h
  | ok spot =>
    obtain ⟨hfault, -, hspot⟩ := walk_eq_ok_iff.mp hwalk
    rw [hwalk] at h
    cases spot with
    | vacant directory name =>
      cases h
      have hzero : 0 ∉ p.bytes := (Path.fault?_eq_none_iff.mp hfault).1
      refine hd.put ?_
      rintro m ⟨⟩
      exact ⟨hd.isFileName_of_walk (fun k hk => Path.of_mem_allHops hzero hk) hspot, .file _ _⟩
    | found l n =>
      cases n with
      | file mode old =>
        cases h
        exact hd.replace (at?_of_walk_found hspot) (.file _ _)
      | link target => cases h
      | directory mode es => cases h

theorem kept_of_rename {source target : Path} (h : d.rename source target = .ok ((), d')) :
    Kept d'.root := by
  obtain ⟨there, name, there', name', n, hmoves⟩ := rename_eq_ok_iff.mp h
  rcases hmoves.moved with ⟨-, rfl⟩ | ⟨-, -, rfl⟩
  · exact hd
  · have hgone : Kept (d.root.put none (there ++ [name])) := hd.put nofun
    refine hgone.put ?_
    rintro m ⟨⟩
    exact ⟨isFileName_of_entry hmoves.entry', hd.at? hmoves.at?_source⟩

theorem kept_of_remove (h : d.remove p = .ok ((), d')) : Kept d'.root := by
  obtain ⟨there, name, -, rfl⟩ := exists_entry_of_remove h
  exact hd.put nofun

/-- No call makes a name that is none for a path. -/
theorem Answers.kept {r : Request} {answer : r.Answer} (h : d.Answers r answer d') :
    Kept d'.root := by
  have hsettle {α : Type} (change : Change α)
      (hchange : ∀ a d', change = .ok (a, d') → Kept d'.root) : Kept (d.settle change).2.root := by
    rcases d.settle_cases change with ⟨a, d', hok, hsettle⟩ | ⟨e, hsettle⟩
    · rw [hsettle]
      exact hchange a d' hok
    · rw [hsettle]
      exact hd
  cases h with
  | failed r e => exact hd
  | drawn parent start characters _ _ =>
    exact hsettle _ fun _ _ hmake => kept_of_makePrivateUnder hd hmake
  | exact r =>
    cases r with
    | stat p => exact hd
    | linkStat p => exact hd
    | read p => exact hd
    | list p => exact hd
    | makeDirectory p =>
      have hempty : Kept emptyDirectory := .directory List.nodup_nil nofun nofun
      exact hsettle _ fun _ _ hmake => kept_of_create hd hempty hmake
    | makePrivateDirectory parent start =>
      refine hsettle _ fun _ _ hmake => ?_
      rw [Disk.makePrivateDirectory] at hmake
      split at hmake
      · cases hmake
      · exact kept_of_makePrivateUnder hd hmake
    | setMode p mode => exact hsettle _ fun _ _ hset => kept_of_setMode hd hset
    | write p bytes => exact hsettle _ fun _ _ hwrite => kept_of_write hd hwrite
    | rename source target => exact hsettle _ fun _ _ hrename => kept_of_rename hd hrename
    | remove p => exact hsettle _ fun _ _ hremove => kept_of_remove hd hremove

end

end Disk

namespace Program

variable {α : Type} {p p' : Program α} {d d' : Disk} {events : List Event}

/-- At every point of every run the names are kept, whichever calls fail. -/
theorem Reaches.kept (h : p.Reaches d events p' d') (hd : Kept d.root) : Kept d'.root := by
  induction h with
  | start p d => exact hd
  | step hanswer _ ih => exact ih (hanswer.kept hd)

/-- Every program leaves a tree that is well named, if it starts on a blank disk. -/
theorem wellNamed_run_blank (p : Program α) : (p.run Disk.blank).2.root.WellNamed := by
  obtain ⟨events, hrun⟩ := p.reaches_run Disk.blank
  exact (hrun.kept Disk.kept_blank).wellNamed

end Program

end SuiteSplit
