import Mathlib
import SuiteSplit.Collection
import SuiteSplit.Proofs.Interleaving

/-!
Reports that are read at the same time.

Each report has a task of its own. A task waits until fewer reads are going on than there may be at the
same time, reads its report, and is finished with what that gave. Which of the tasks goes on next is
open. What a task will be finished with is known from the start, as long as nobody changes the disk, so
the order does not matter; and as long as one read is allowed, some task can go on until all are
finished.

A read needs a permit, and there is a limit to the permits that a pool can be set up with. If more
reads are allowed than that, no task is started and nothing is collected, unless there is no report.
-/

namespace SuiteSplit

/-- What a task that reads one report is at. -/
inductive ReadTask
  | waiting (p : Path)
  | reading (p : Path)
  | finished (r : ReportRead)

/-- What reading the report at a path gives. -/
def Disk.readReport (d : Disk) (p : Path) : ReportRead := ((Collector.readReport p).run d).1

namespace ReadTask

def isReading : ReadTask → Bool
  | reading _ => true
  | _ => false

/-- What the task is going to be finished with. -/
def outlook (d : Disk) : ReadTask → ReportRead
  | waiting p => d.readReport p
  | reading p => d.readReport p
  | finished r => r

def stepsLeft : ReadTask → Nat
  | waiting _ => 2
  | reading _ => 1
  | finished _ => 0

/-- One of the tasks goes on. -/
inductive Step (d : Disk) (maxReads : Nat) : List ReadTask → List ReadTask → Prop
  | start {before after : List ReadTask} {p : Path}
      (hfree : (before ++ waiting p :: after).countP isReading < maxReads) :
      Step d maxReads (before ++ waiting p :: after) (before ++ reading p :: after)
  | finish {before after : List ReadTask} {p : Path} :
      Step d maxReads (before ++ reading p :: after) (before ++ finished (d.readReport p) :: after)

/-- What the tasks can come to, whichever of them goes on at each time. -/
abbrev Run (d : Disk) (maxReads : Nat) : List ReadTask → List ReadTask → Prop :=
  Relation.ReflTransGen (Step d maxReads)

variable {d : Disk} {maxReads : Nat} {tasks tasks' : List ReadTask}

/-! ## One step -/

theorem Step.map_outlook (h : Step d maxReads tasks tasks') :
    tasks'.map (outlook d) = tasks.map (outlook d) := by
  cases h <;> simp [outlook]

/-- No more reads go on than there may be. -/
theorem Step.countP_le (h : Step d maxReads tasks tasks')
    (hle : tasks.countP isReading ≤ maxReads) : tasks'.countP isReading ≤ maxReads := by
  cases h with
  | start hfree =>
    simp only [List.countP_append, List.countP_cons, isReading] at hfree ⊢
    simp only [Bool.false_eq_true, if_false, if_true] at hfree ⊢
    omega
  | finish =>
    simp only [List.countP_append, List.countP_cons, isReading] at hle ⊢
    simp only [Bool.false_eq_true, if_false, if_true] at hle ⊢
    omega

/-- Each task takes two steps, so there is an end to them. -/
theorem Step.sum_stepsLeft (h : Step d maxReads tasks tasks') :
    (tasks'.map stepsLeft).sum + 1 = (tasks.map stepsLeft).sum := by
  cases h <;> simp only [List.map_append, List.map_cons, List.sum_append, List.sum_cons, stepsLeft] <;>
    omega

/-- Some task can go on until all are finished. -/
theorem exists_step (hmaxReads : 0 < maxReads)
    (hopen : tasks ∉ Set.range (List.map finished)) : ∃ tasks', Step d maxReads tasks tasks' := by
  by_cases hreading : ∃ p, reading p ∈ tasks
  · obtain ⟨p, hp⟩ := hreading
    obtain ⟨before, after, rfl⟩ := List.append_of_mem hp
    exact ⟨_, .finish⟩
  · by_cases hwaiting : ∃ p, waiting p ∈ tasks
    · -- nobody reads, so there is room
      obtain ⟨p, hp⟩ := hwaiting
      have hnone : tasks.countP isReading = 0 := by
        rw [List.countP_eq_zero]
        intro task htask hread
        cases task with
        | waiting q => cases hread
        | reading q => exact hreading ⟨q, htask⟩
        | finished r => cases hread
      obtain ⟨before, after, rfl⟩ := List.append_of_mem hp
      exact ⟨_, .start (hnone ▸ hmaxReads)⟩
    · refine absurd ?_ hopen
      rw [Set.range_list_map]
      intro task htask
      cases task with
      | waiting q => exact absurd ⟨q, htask⟩ hwaiting
      | reading q => exact absurd ⟨q, htask⟩ hreading
      | finished r => exact ⟨r, rfl⟩

/-! ## A run -/

theorem Run.map_outlook (h : Run d maxReads tasks tasks') :
    tasks'.map (outlook d) = tasks.map (outlook d) := by
  induction h with
  | refl => rfl
  | tail _ hstep ih => exact hstep.map_outlook.trans ih

/-- However the tasks went on, they are finished with what was read at their paths. -/
theorem Run.eq_of_finished {files : List Path} {reads : List ReportRead}
    (h : Run d maxReads (files.map waiting) (reads.map finished)) :
    reads = files.map d.readReport := by
  have hread := h.map_outlook
  rw [List.map_map, List.map_map] at hread
  rw [← List.map_id reads]
  exact hread

/-- At no time more reports are read than may be. -/
theorem Run.countP_le {files : List Path} (h : Run d maxReads (files.map waiting) tasks) :
    tasks.countP isReading ≤ maxReads := by
  induction h with
  | refl =>
    have hnone : (files.map waiting).countP isReading = 0 := by
      simp [isReading]
    omega
  | tail _ hstep ih => exact hstep.countP_le ih

/-- Wherever the tasks are, they can be brought to their end. -/
theorem exists_run_finished (hmaxReads : 0 < maxReads) (tasks : List ReadTask) :
    ∃ reads : List ReportRead, Run d maxReads tasks (reads.map finished) := by
  by_cases hopen : tasks ∈ Set.range (List.map finished)
  · obtain ⟨reads, rfl⟩ := hopen
    exact ⟨reads, .refl⟩
  · obtain ⟨tasks', hstep⟩ := exists_step (d := d) hmaxReads hopen
    have hless := hstep.sum_stepsLeft
    obtain ⟨reads, hrun⟩ := exists_run_finished hmaxReads tasks'
    exact ⟨reads, .head hstep hrun⟩
termination_by (tasks.map stepsLeft).sum

end ReadTask

/-! ## Collecting with tasks -/

open Program in
theorem observes_readReport (p : Path) :
    Observes (fun _ => True) (fun _ => True) (Collector.readReport p) := by
  refine (Observes.readText p).bind fun text _ => ?_
  cases text with
  | error e => exact .pure trivial
  | ok text =>
    dsimp only
    split <;> exact .pure trivial

theorem Disk.run_readReports (d : Disk) (files : List Path) :
    (Collector.readReports files).run d = (files.map d.readReport, d) := by
  induction files with
  | nil => rfl
  | cons p files ih =>
    have hread : (Collector.readReport p).run d = (d.readReport p, d) :=
      Prod.ext rfl ((observes_readReport p).run_snd trivial)
    rw [Collector.readReports, Program.run_bind, hread, Program.run_bind, ih]
    rfl

open Program in
theorem observes_files (cs : List Candidate) :
    Observes (fun _ => True) (fun _ => True) (Candidate.files cs) := by
  induction cs with
  | nil => exact .pure trivial
  | cons c cs ih =>
    have hfile : Observes (fun _ => True) (fun _ => True) c.isFile := by
      unfold Candidate.isFile
      split
      · refine (Observes.stat _).bind ?_
        intro kind _
        split <;> exact .pure trivial
      · exact .pure trivial
    refine hfile.bind ?_
    intro _ _
    refine ih.bind ?_
    intro _ _
    exact .pure trivial

open Program in
theorem observes_findReports (pattern : NamePattern) (root : Path) :
    Observes (fun _ => True) (fun _ => True) (findReports pattern root) := by
  refine (Observes.stat _).bind ?_
  intro kind _
  split
  · exact .pure trivial
  · exact .pure trivial
  · refine (Observes.list _).bind ?_
    intro entries _
    split
    · exact .pure trivial
    · split
      · exact .pure trivial
      · refine (observes_files _).bind ?_
        intro _ _
        exact .pure trivial
  · exact .pure trivial

namespace Collector

open Program in
theorem observes_rootFault? (c : Collector) (root : Path) :
    Observes (fun _ => True) (fun _ => True) (c.rootFault? root) := by
  unfold rootFault?
  split
  · refine (Observes.stat _).bind ?_
    intro kind _
    split <;> exact .pure trivial
  · exact .pure trivial

/-- Collecting in terms of what its parts give. -/
theorem run_collect (c : Collector) (root : Path) (d : Disk) :
    ((c.collect root).run d).1 =
      match ((c.rootFault? root).run d).1 with
      | some e => .error e
      | none =>
        match ((findReports c.pattern root).run d).1 with
        | .error e => .error e
        | .ok files => c.combine (files.map d.readReport) := by
  have hroot : (c.rootFault? root).run d = (((c.rootFault? root).run d).1, d) :=
    Prod.ext rfl ((c.observes_rootFault? root).run_snd trivial)
  have hfind : (findReports c.pattern root).run d =
      (((findReports c.pattern root).run d).1, d) :=
    Prod.ext rfl ((observes_findReports c.pattern root).run_snd trivial)
  rw [collect, Program.run_bind, hroot]
  cases ((c.rootFault? root).run d).1 with
  | some e => rfl
  | none =>
    dsimp only
    rw [Program.run_bind, hfind]
    cases ((findReports c.pattern root).run d).1 with
    | error e => rfl
    | ok files =>
      dsimp only
      rw [Program.run_bind, d.run_readReports]
      rfl

/-- The most permits that a pool of reads can be set up with. -/
def maxPermits : Nat := (2 ^ 64 - 1) / 2 ^ 3

/-- What collecting can come to when each report is read by a task of its own. The pool of permits is
set up once there are reports to read. -/
inductive Concludes (c : Collector) (root : Path) (d : Disk) :
    Except CollectionError Collected → Prop
  | missing {e : CollectionError} (hroot : ((c.rootFault? root).run d).1 = some e) :
      Concludes c root d (.error e)
  | unsearchable {e : CollectionError} (hroot : ((c.rootFault? root).run d).1 = none)
      (hfind : ((findReports c.pattern root).run d).1 = .error e) : Concludes c root d (.error e)
  | finished {files : List Path} {reads : List ReportRead}
      (hroot : ((c.rootFault? root).run d).1 = none)
      (hfind : ((findReports c.pattern root).run d).1 = .ok files)
      (hpermits : files = [] ∨ c.maxReads ≤ maxPermits)
      (hrun : ReadTask.Run d c.maxReads (files.map .waiting) (reads.map .finished)) :
      Concludes c root d (c.combine reads)

variable {c : Collector} {root : Path} {d : Disk} {result : Except CollectionError Collected}

/-- The order in which the tasks go on does not matter: it is as if the reports were read one after the
other. -/
theorem Concludes.eq_collect (h : c.Concludes root d result) :
    result = ((c.collect root).run d).1 := by
  rw [run_collect]
  cases h with
  | missing hroot => rw [hroot]
  | unsearchable hroot hfind => rw [hroot, hfind]
  | finished hroot hfind _ hrun => rw [hroot, hfind, hrun.eq_of_finished]

/-- There is always an order in which all tasks come to their end. -/
theorem concludes_collect (hpermits : c.maxReads ≤ maxPermits) :
    c.Concludes root d ((c.collect root).run d).1 := by
  rw [run_collect]
  cases hroot : ((c.rootFault? root).run d).1 with
  | some e => exact .missing hroot
  | none =>
    cases hfind : ((findReports c.pattern root).run d).1 with
    | error e => exact .unsearchable hroot hfind
    | ok files =>
      obtain ⟨reads, hrun⟩ :=
        ReadTask.exists_run_finished (d := d) c.maxReads_pos (files.map .waiting)
      have hend := Concludes.finished hroot hfind (.inr hpermits) hrun
      rwa [hrun.eq_of_finished] at hend

theorem concludes_iff (hpermits : c.maxReads ≤ maxPermits) :
    c.Concludes root d result ↔ result = ((c.collect root).run d).1 :=
  ⟨Concludes.eq_collect, fun h => h ▸ concludes_collect hpermits⟩

/-- With more reads than permits nothing comes of reports that were found. -/
theorem not_concludes {files : List Path} (hroot : ((c.rootFault? root).run d).1 = none)
    (hfind : ((findReports c.pattern root).run d).1 = .ok files) (hfiles : files ≠ [])
    (hpermits : maxPermits < c.maxReads) : ¬ c.Concludes root d result := by
  intro h
  cases h with
  | missing hfault => simp [hroot] at hfault
  | unsearchable _ hfault => simp [hfind] at hfault
  | finished _ hfound hroom _ =>
    rw [hfind] at hfound
    cases hfound
    exact hroom.elim hfiles (Nat.not_le.mpr hpermits)

end Collector

end SuiteSplit
