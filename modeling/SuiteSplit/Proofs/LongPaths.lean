import SuiteSplit.Proofs.AllOrNothing

/-!
Paths that walk alike. What a call does depends on the hops of a path and not on the slashes between
them, so any number of slashes can stand between two names. A path with many of them is still accepted
where the path of a file below it is too long.
-/

namespace SuiteSplit

open Publication

namespace Path

/-- The paths differ in nothing that a walk looks at. -/
structure WalksLike (p q : Path) : Prop where
  fault : p.fault? = q.fault?
  absolute : p.isAbsolute = q.isAbsolute
  hops : p.hops = q.hops
  asksDirectory : p.asksDirectory = q.asksDirectory

end Path

namespace Disk

variable {p q source source' target target' : Path}

theorem start_congr (h : p.WalksLike q) (d : Disk) : d.start p = d.start q := by
  rw [start, start, h.fault, Path.origin, Path.origin, h.absolute]

theorem find_congr (h : p.WalksLike q) (d : Disk) (aim : Aim) : d.find aim p = d.find aim q := by
  rw [find, find, Disk.walk, Disk.walk, start_congr h, Path.allHops, Path.allHops, h.hops,
    h.asksDirectory]

theorem linkStat_congr (h : p.WalksLike q) (d : Disk) : d.linkStat p = d.linkStat q := by
  rw [linkStat, linkStat, find_congr h]

theorem entry_congr (h : p.WalksLike q) (d : Disk) : d.entry p = d.entry q := by
  rw [entry, entry, start_congr h, h.hops]

theorem rename_congr (hsource : source.WalksLike source') (htarget : target.WalksLike target')
    (d : Disk) : d.rename source target = d.rename source' target' := by
  rw [rename, rename, entry_congr hsource, entry_congr htarget, hsource.asksDirectory,
    htarget.asksDirectory]

end Disk

/-! ## A name behind slashes -/

namespace Path

section

variable {p : Path} {name : FileName}

theorem length_join (hp : p.bytes ≠ []) (hname : IsPlain name) :
    (p.join ⟨name⟩).bytes.length =
      p.bytes.length + name.length + if p.bytes.getLast? = some slash then 0 else 1 := by
  have hrelative : (⟨name⟩ : Path).isAbsolute = false := by
    simp only [isAbsolute, decide_eq_false_iff_not]
    exact fun h => hname.no_slash (List.mem_of_mem_head? h)
  simp only [join, hrelative, hp, Bool.false_eq_true, false_or, if_false]
  split
  · simp
  · simp only [List.length_append, List.length_cons]
    omega

end

/-- The path of a name in the current directory, with some more slashes in front of the name. -/
def spaced (n : Nat) (name : FileName) : Path := ⟨dot ++ List.replicate (n + 1) slash ++ name⟩

section

variable {name : FileName} (n : Nat)

theorem bytes_spaced_ne_nil : (spaced n name).bytes ≠ [] := by simp [spaced, dot]

theorem length_spaced : (spaced n name).bytes.length = n + 2 + name.length := by
  simp only [spaced, dot, List.length_append, List.length_replicate, List.length_cons,
    List.length_nil]
  omega

theorem zero_not_mem_spaced (hzero : 0 ∉ name) : 0 ∉ (spaced n name).bytes := by
  simp [spaced, dot, slash, hzero]

variable (hname : IsPlain name)

include hname

theorem splitOn_replicate_slash :
    (List.replicate n slash ++ name).splitOn slash = List.replicate n [] ++ [name] := by
  induction n with
  | zero => exact List.splitOn_eq_singleton hname.no_slash
  | succ n ih =>
    have hsplit : ([] ++ slash :: (List.replicate n slash ++ name)).splitOn slash =
        ([] : List UInt8).splitOn slash ++ (List.replicate n slash ++ name).splitOn slash :=
      List.splitOn_append_cons_self ..
    rw [List.nil_append, List.splitOn_nil, ih] at hsplit
    exact hsplit

theorem hops_spaced : (spaced n name).hops = [dot, name] := by
  have hdot : dot.splitOn slash = [dot] := by decide
  have hbytes : (spaced n name).bytes = dot ++ slash :: (List.replicate n slash ++ name) := by
    rw [spaced, List.replicate_succ, List.append_assoc, List.cons_append]
  rw [hops_eq, hbytes, List.splitOn_append_cons_self, hdot, splitOn_replicate_slash _ hname]
  simp [dot, hname.ne_nil]

theorem asksDirectory_spaced : (spaced n name).asksDirectory = false := by
  have hlast : name.getLast? ≠ some slash := fun h => hname.no_slash (List.mem_of_getLast? h)
  rw [asksDirectory, spaced, List.getLast?_append_of_ne_nil _ hname.ne_nil]
  exact decide_eq_false hlast

theorem directory_spaced : (spaced n name).directory = ⟨dot⟩ := by
  have hfront : (spaced n name).front = dot := by
    rw [front, isAbsolute, spaced, List.replicate_succ]
    simp [dot, slash]
  have hsegments : (spaced n name).segments = List.replicate (n + 1) [] ++ [name] := by
    rw [segments, hfront, Text.splitOn_eq_splitOn, spaced, List.append_assoc, List.drop_left,
      splitOn_replicate_slash _ hname, dropIdle_eq,
      List.rdropWhile_concat_neg _ _ _ (by simp [hname.not_idle])]
  have hidle : dropIdle (List.replicate (n + 1) []) = [] := by
    rw [dropIdle_eq, List.rdropWhile_eq_nil_iff]
    intro s hs
    rw [List.eq_of_mem_replicate hs]
    rfl
  have hparent : (spaced n name).parent? = some ⟨dot⟩ := by
    rw [parent?, if_neg (by simp [hsegments]), hsegments, List.dropLast_concat, hidle, hfront]
    rfl
  rw [directory, hparent]
  rfl

/-- Slashes do not matter as long as the path is not too long. -/
theorem walksLike_spaced (hzero : 0 ∉ name) {m : Nat} (hm : m + 2 + name.length < pathLimit)
    (hn : n + 2 + name.length < pathLimit) : (spaced n name).WalksLike (spaced m name) := by
  have haccepted (k : Nat) (hk : k + 2 + name.length < pathLimit) :
      (spaced k name).fault? = none := by
    refine fault?_eq_none_iff.mpr ⟨zero_not_mem_spaced k hzero, bytes_spaced_ne_nil k, ?_⟩
    rwa [length_spaced]
  refine ⟨(haccepted n hn).trans (haccepted m hm).symm, rfl, ?_, ?_⟩
  · rw [hops_spaced _ hname, hops_spaced _ hname]
  · rw [asksDirectory_spaced _ hname, asksDirectory_spaced _ hname]

/-- The path of a file below can be too long. -/
theorem fault?_join_spaced {file : FileName} (hfile : IsPlain file) (hzero : 0 ∉ name)
    (hzero' : 0 ∉ file) (hlong : pathLimit ≤ n + 3 + name.length + file.length) :
    ((spaced n name).join ⟨file⟩).fault? = some .nameTooLong := by
  have hne : (spaced n name).bytes ≠ [] := bytes_spaced_ne_nil n
  have hlast : (spaced n name).bytes.getLast? ≠ some slash := by
    simpa [asksDirectory] using asksDirectory_spaced n hname
  have hlength := length_join hne hfile
  rw [if_neg hlast, length_spaced] at hlength
  have hzeros : 0 ∉ ((spaced n name).join ⟨file⟩).bytes := by
    rcases bytes_join hne hfile with ⟨hbytes, -⟩ | hbytes <;>
      simp [hbytes, zero_not_mem_spaced n hzero, hzero', slash]
  rw [fault?, if_neg (by simpa using hzeros), if_neg (bytes_join_ne_nil hne hfile), if_pos (by omega)]

end

end Path

/-! ## Publishing -/

namespace Publication

variable {p q : Path} {d : Disk}

/-- Targets that walk alike are retired alike. -/
theorem run_retire_congr (h : p.WalksLike q) (retired : Path) (d : Disk) :
    (retire p retired).run d = (retire q retired).run d := by
  have hlook (target : Path) : (Program.ask (.linkStat target)).run d = (d.linkStat target, d) := rfl
  have hmove (target : Path) : (Program.ask (.rename target (previous retired))).run d =
      d.settle (d.rename target (previous retired)) := rfl
  rw [retire, retire, Program.run_bind, Program.run_bind, hlook, hlook, Disk.linkStat_congr h]
  cases d.linkStat q with
  | error e => cases e <;> rfl
  | ok kind =>
    dsimp only
    rw [Program.run_bind, Program.run_bind, hmove, hmove,
      Disk.rename_congr h ⟨rfl, rfl, rfl, rfl⟩]
    cases d.rename q (previous retired) <;> rfl

/-- A staged directory takes the place of the target when moving it there succeeds. -/
theorem isOk_run_install (staged target retired : Path) (hadPrevious : Bool) (d : Disk) :
    ((install staged target retired hadPrevious).run d).1.isOk = (d.rename staged target).isOk := by
  have hmove : (Program.ask (.rename staged target)).run d = d.settle (d.rename staged target) := rfl
  rw [install, Program.run_bind, hmove]
  cases d.rename staged target with
  | error e =>
    dsimp only [Disk.settle]
    rw [Program.run_bind]
    rfl
  | ok done =>
    dsimp only [Disk.settle]
    rw [Program.run_bind]
    rfl

theorem isOk_run_swap_congr (h : p.WalksLike q) (hdirectory : p.directory = q.directory)
    (staged : Path) (d : Disk) :
    ((swap staged p).run d).1.isOk = ((swap staged q).run d).1.isOk := by
  have hmake : (Program.ask (.makePrivateDirectory q.directory retiredStart)).run d =
      d.settle (d.makePrivateDirectory q.directory retiredStart) := rfl
  rw [swap, swap, Program.run_bind, Program.run_bind, hdirectory, hmake]
  cases (d.settle (d.makePrivateDirectory q.directory retiredStart)).1 with
  | error e => rfl
  | ok retired =>
    dsimp only
    rw [Program.run_bind, Program.run_bind, run_retire_congr h]
    cases ((retire q retired).run _).1 with
    | error e => rfl
    | ok hadPrevious =>
      dsimp only
      rw [isOk_run_install, isOk_run_install, Disk.rename_congr ⟨rfl, rfl, rfl, rfl⟩ h]

/-- Publishing succeeds for targets that walk alike. -/
theorem isOk_run_publishFiles_congr (h : p.WalksLike q) (hdirectory : p.directory = q.directory)
    (files : List (String × String)) (d : Disk) :
    ((publishFiles p files).run d).1.isOk = ((publishFiles q files).run d).1.isOk := by
  rw [publishFiles, publishFiles, Program.run_bind, Program.run_bind, hdirectory]
  cases ((Program.makeDirectories q.directory).run d).1 with
  | error e => rfl
  | ok _ =>
    dsimp only
    have hmake (d : Disk) : (Program.ask (.makePrivateDirectory q.directory stagedStart)).run d =
        d.settle (d.makePrivateDirectory q.directory stagedStart) := rfl
    rw [Program.run_bind, Program.run_bind, hmake]
    generalize ((Program.makeDirectories q.directory).run d).2 = d₁
    cases (d₁.settle (d₁.makePrivateDirectory q.directory stagedStart)).1 with
    | error e => rfl
    | ok staged =>
      dsimp only
      rw [commit, commit, Program.run_bind, Program.run_bind]
      cases ((fill staged files).run _).1 with
      | error e => rfl
      | ok _ => exact isOk_run_swap_congr h hdirectory _ _

end Publication

end SuiteSplit
