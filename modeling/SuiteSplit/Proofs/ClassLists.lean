import SuiteSplit.Proofs.ExactTotals
import SuiteSplit.Proofs.Lines
import SuiteSplit.Proofs.WorkerSelections

/-!
Class lists are read back line by line.

A batch is also published as a list of its classes: the distinct ones, in the order in which they
first appear among the tests, one on a line. Nothing is escaped in it. So a reader of lines gets the
classes just where no class has a line feed in its name, and a report can give a class such a name.
-/

namespace SuiteSplit

/-! ## First appearances -/

/-- The distinct ones of some names, in the order in which they first appear. -/
structure FirstAppearances (names distinct : List String) : Prop where
  nodup : distinct.Nodup
  mem_iff : ∀ name, name ∈ distinct ↔ name ∈ names
  ordered : distinct.Pairwise fun a b => names.idxOf a < names.idxOf b

theorem eraseDups_concat (names : List String) (name : String) : (names ++ [name]).eraseDups =
    names.eraseDups ++ if name ∈ names then [] else [name] := by
  rw [List.eraseDups_append]
  by_cases h : name ∈ names <;> simp [List.removeAll, List.eraseDups_cons, h]

/-- By induction from the back: a name that is added there is behind all others. -/
theorem pairwise_idxOf_eraseDups (names : List String) :
    names.eraseDups.Pairwise fun a b => names.idxOf a < names.idxOf b := by
  induction names using List.reverseRecOn with
  | nil => exact .nil
  | append_singleton names name ih =>
    have hold : ∀ a ∈ names.eraseDups, (names ++ [name]).idxOf a = names.idxOf a := by
      intro a ha
      exact List.idxOf_append_of_mem (List.mem_eraseDups.mp ha)
    have hsame : names.eraseDups.Pairwise
        fun a b => (names ++ [name]).idxOf a < (names ++ [name]).idxOf b := by
      refine ih.imp_of_mem ?_
      intro a b ha hb hab
      rwa [hold a ha, hold b hb]
    rw [eraseDups_concat]
    split
    · rwa [List.append_nil]
    · next hnew =>
      refine List.pairwise_append.mpr ⟨hsame, List.pairwise_singleton _ _, ?_⟩
      intro a ha b hb
      obtain rfl := List.mem_singleton.mp hb
      rw [hold a ha, List.idxOf_append_of_notMem hnew]
      have hfront := List.idxOf_lt_length_iff.mpr (List.mem_eraseDups.mp ha)
      exact hfront.trans_le (Nat.le_add_right _ _)

namespace Batch

theorem firstAppearances_classnames (b : Batch) :
    FirstAppearances (b.tests.map (·.classname)) b.classnames where
  nodup := b.nodup_classnames
  mem_iff _ := List.mem_eraseDups
  ordered := pairwise_idxOf_eraseDups _

/-! ## Reading lines -/

/-- A reader of lines gets the classes of the batch. -/
def ClassListReads (b : Batch) : Prop :=
  Text.lines? (ManifestFormat.classList.render b).toList = some (b.classnames.map String.toList)

theorem classListReads_iff (b : Batch) :
    b.ClassListReads ↔ ∀ t ∈ b.tests, '\n' ∉ t.classname.toList := by
  rw [ClassListReads, ManifestFormat.render, Text.toList_join_lines, Text.lines?_ofLines_eq_some_iff]
  simp [mem_classnames]

end Batch

/-- The class list of each batch of a plan has the distinct classes of the batch in the order in which
they first appear. It is read back line by line just where none of them has a line feed in its name;
so all class lists of a plan are, just where no class of the records has one. -/
theorem class_lists_of_plan (count : BatchCount) (records : List TestRecord) :
    (∀ b ∈ plan count records, FirstAppearances (b.tests.map (·.classname)) b.classnames ∧
      (b.ClassListReads ↔ ∀ t ∈ b.tests, '\n' ∉ t.classname.toList)) ∧
    ((∀ b ∈ plan count records, b.ClassListReads) ↔ ∀ t ∈ records, '\n' ∉ t.classname.toList) := by
  refine ⟨fun b _ => ⟨b.firstAppearances_classnames, b.classListReads_iff⟩, ?_⟩
  simp only [Batch.classListReads_iff, ← (flatMap_tests_plan count records).mem_iff,
    List.mem_flatMap]
  constructor
  · rintro h t ⟨b, hb, ht⟩
    exact h b hb t ht
  · intro h b hb t ht
    exact h t ⟨b, hb, ht⟩

/-- Three classes in the order of their groups, of which one has two tests. -/
theorem class_list_of_three_classes :
    let records : List TestRecord := [⟨"A", "x", .ofNanos 1, .successful⟩,
      ⟨"AB", "y", .ofNanos 1, .successful⟩, ⟨"A\t", "z", .zero, .skipped⟩,
      ⟨"AB", "x", .ofNanos 1, .failed⟩]
    ∃ b ∈ plan oneBatch records, b.ClassListReads ∧ b.classnames = ["AB", "A", "A\t"] := by
  intro records
  let tests : List TestRecord := [⟨"AB", "y", .ofNanos 1, .successful⟩,
    ⟨"AB", "x", .ofNanos 1, .failed⟩, ⟨"A", "x", .ofNanos 1, .successful⟩,
    ⟨"A\t", "z", .zero, .skipped⟩]
  have hplan : plan oneBatch records = [⟨1, tests, .ofNanos 3⟩] := by cbv
  have hb : (⟨1, tests, .ofNanos 3⟩ : Batch) ∈ plan oneBatch records := by simp [hplan]
  have hreads := ((class_lists_of_plan oneBatch records).1 _ hb).2
  exact ⟨_, hb, hreads.mpr (by decide), by decide⟩

/-- The class of a report whose name has a line feed in it is read as two. -/
theorem class_list_of_threeRecords :
    ¬ ∀ (text : String) (records : List TestRecord), Report.read text = .ok records →
      ∀ (count : BatchCount), ∀ b ∈ plan count records,
        Text.lines? (ManifestFormat.classList.render b).toList =
          some (b.classnames.map String.toList) := by
  intro hall
  have hreads := hall _ _ read_threeRecords twoBatches
  rw [plan_threeRecords] at hreads
  have hfirst := hreads _ List.mem_cons_self
  exact absurd hfirst (by decide +kernel)

end SuiteSplit
