import SuiteSplit.Manifest.Selection
import SuiteSplit.Proofs.Plan

/-!
Which batches select a planned test. A plan divides the records by whole classes, while a selection
looks at the fronts of ids. The batch that holds a record always selects it. Another batch selects it
too as soon as one of its classes is a front of the id, which happens when a class is a front of
another one.
-/

namespace SuiteSplit

namespace Batch

theorem mem_classnames {b : Batch} {classname : String} :
    classname ∈ b.classnames ↔ ∃ t ∈ b.tests, t.classname = classname := by
  simp [classnames, List.mem_eraseDups]

end Batch

namespace Selection

/-- The class of some record of the batch is a front of the id. -/
def Fronts (b : Batch) (id : String) : Prop := ∃ t ∈ b.tests, t.classname.toList <+: id.toList

theorem selects_ofBatch_iff (b : Batch) (id : String) :
    (ofBatch b).selects id ↔ Fronts b id := by
  simp only [ofBatch, selects, List.any_eq_true, List.isPrefixOf_iff_prefix, Fronts]
  constructor
  · rintro ⟨classname, hmem, hfront⟩
    obtain ⟨t, ht, rfl⟩ := Batch.mem_classnames.mp hmem
    exact ⟨t, ht, hfront⟩
  · rintro ⟨t, ht, hfront⟩
    exact ⟨t.classname, Batch.mem_classnames.mpr ⟨t, ht, rfl⟩, hfront⟩

theorem fronts_id {b : Batch} {t : TestRecord} (ht : t ∈ b.tests) : Fronts b t.id := by
  refine ⟨t, ht, ?_⟩
  rw [TestRecord.id, String.append_assoc, String.toList_append]
  exact List.prefix_append _ _

theorem selects_ofBatch_id {b : Batch} {t : TestRecord} (ht : t ∈ b.tests) :
    (ofBatch b).selects t.id := (selects_ofBatch_iff b t.id).mpr (fronts_id ht)

end Selection

/-- The batches of a plan have different numbers, so none of them stands in it twice. -/
theorem nodup_plan (count : BatchCount) (records : List TestRecord) :
    (plan count records).Nodup := by
  apply List.Nodup.of_map (·.number)
  rw [numbers_plan]
  exact List.nodup_range'

theorem exists_holder (count : BatchCount) {records : List TestRecord} {t : TestRecord}
    (ht : t ∈ records) :
    ∃ b ∈ plan count records, ∀ c ∈ plan count records, t ∈ c.tests ↔ c = b := by
  obtain ⟨b, hb, ⟨before, after, htests, _⟩, hothers⟩ := plan_class_whole count ht
  refine ⟨b, hb, ?_⟩
  intro c hc
  constructor
  · intro htc
    by_contra hne
    exact hothers c hc hne t htc rfl
  · rintro rfl
    have hown : t ∈ records.filter (·.classname = t.classname) := by simpa using ht
    rw [htests]
    simp [hown]

private theorem countP_eq_one_iff {α : Type} {l : List α} {p : α → Bool} (hnodup : l.Nodup) {a : α}
    (ha : a ∈ l) (hpa : p a) : l.countP p = 1 ↔ ∀ b ∈ l, b ≠ a → ¬ p b := by
  obtain ⟨before, after, rfl⟩ := List.append_of_mem ha
  rw [List.nodup_middle, List.nodup_cons] at hnodup
  have hothers : (∀ b ∈ before ++ a :: after, b ≠ a → ¬ p b) ↔ ∀ b ∈ before ++ after, ¬ p b := by
    constructor
    · intro h b hb
      refine h b (by simp only [List.mem_append, List.mem_cons] at hb ⊢; tauto) ?_
      rintro rfl
      exact hnodup.1 hb
    · intro h b hb hne
      refine h b ?_
      simp only [List.mem_append, List.mem_cons] at hb ⊢
      tauto
  rw [hothers, ← List.countP_eq_zero]
  simp only [List.countP_append, List.countP_cons, hpa, if_true]
  omega

/-- Of the batches of a plan, one holds a planned test, and it selects the test. The others select it
just when the class of one of their records is a front of the id, and so a single batch selects the
test just when there is none of that kind among the others. -/
theorem selections_of_planned_test (count : BatchCount) {records : List TestRecord} {t : TestRecord}
    (ht : t ∈ records) :
    ∃ b ∈ plan count records,
      (∀ c ∈ plan count records, t ∈ c.tests ↔ c = b) ∧
      (Selection.ofBatch b).selects t.id ∧
      (∀ c ∈ plan count records, c ≠ b →
        ((Selection.ofBatch c).selects t.id ↔
          ∃ u ∈ c.tests, u.classname.toList <+: t.id.toList)) ∧
      ((plan count records).countP (fun c => (Selection.ofBatch c).selects t.id) = 1 ↔
        ∀ c ∈ plan count records, c ≠ b →
          ¬ ∃ u ∈ c.tests, u.classname.toList <+: t.id.toList) := by
  obtain ⟨b, hb, hholds⟩ := exists_holder count ht
  have hown := Selection.selects_ofBatch_id ((hholds b hb).mpr rfl)
  refine ⟨b, hb, hholds, hown, ?_, ?_⟩
  · intro c _ _
    exact Selection.selects_ofBatch_iff c t.id
  · rw [countP_eq_one_iff (nodup_plan count records) hb hown]
    apply forall₃_congr
    intro c _ _
    exact not_congr (Selection.selects_ofBatch_iff c t.id)

/-- A class that no other one is a front of: the batch of `AB` alone selects `AB.y`. -/
theorem selection_of_AB_y :
    let two : BatchCount := ⟨2, by decide, by decide⟩
    let t : TestRecord := ⟨"AB", "y", .ofNanos 2, .failed⟩
    let records : List TestRecord := [t, ⟨"B", "x", .ofNanos 1, .successful⟩]
    t ∈ records ∧
      (plan two records).countP (fun c => (Selection.ofBatch c).selects t.id) = 1 := by
  intro two t records
  have hplan : plan two records =
      [⟨1, [t], .ofNanos 2⟩, ⟨2, [⟨"B", "x", .ofNanos 1, .successful⟩], .ofNanos 1⟩] := by
    cbv
  have ht : t ∈ records := List.mem_cons_self
  obtain ⟨b, _, hholds, _, _, honce⟩ := selections_of_planned_test two ht
  refine ⟨ht, honce.mpr ?_⟩
  intro c hc hne
  have htc : t ∉ c.tests := mt (hholds c hc).mp hne
  rw [hplan] at hc
  simp only [List.mem_cons, List.not_mem_nil, or_false] at hc
  rcases hc with rfl | rfl
  · simp at htc
  · decide

/-- A class that is a front of another one: both batches select `AB.y`, so it is not true that of
every planned test there is a single batch that selects it. -/
theorem AB_y_selected_twice :
    ¬ ∀ (count : BatchCount) (records : List TestRecord), ∀ t ∈ records,
      (plan count records).countP (fun b => (Selection.ofBatch b).selects t.id) = 1 := by
  intro hall
  let t : TestRecord := ⟨"AB", "y", .ofNanos 1, .successful⟩
  let records : List TestRecord := [⟨"A", "x", .ofNanos 2, .successful⟩, t]
  have honce := hall ⟨2, by decide, by decide⟩ records t (by simp [records])
  have htwice : (plan ⟨2, by decide, by decide⟩ records).countP
      (fun b => (Selection.ofBatch b).selects t.id) = 2 := by
    cbv
  omega

end SuiteSplit
