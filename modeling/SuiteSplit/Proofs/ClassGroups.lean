import SuiteSplit.Proofs.InputOrder

/-!
What the groups of a list of records are.

The groups are described without the way in which they are made: one for each class, with the records of
that class in their order, and the groups one behind the other in assignment order. This leaves no
choice, so the groups of records are the only ones that fit. The records that are held by the groups, in
the order of the groups, fit the same description, and are grouped in the same way again. And groups
that are made record by record, each one joining the group of its class, are the same ones, too.
-/

namespace SuiteSplit.ClassGroup

/-- Keys in the order of their code points, a key before its continuations. -/
def KeyBefore (a b : String) : Prop := List.Lex (fun c d => c.toNat < d.toNat) a.toList b.toList

theorem keyBefore_iff (a b : String) : KeyBefore a b ↔ a < b := Iff.rfl

/-- There is one group for each class, and it holds the records of that class. -/
structure OnePerClass (records : List TestRecord) (gs : List ClassGroup) : Prop where
  /-- No class has two groups. -/
  keys_nodup : (gs.map (·.key)).Nodup
  /-- The classes are those of the records. -/
  mem_keys : ∀ c, c ∈ gs.map (·.key) ↔ ∃ t ∈ records, t.classname = c
  /-- A group holds all records of its class, in their order. -/
  tests_eq : ∀ g ∈ gs, g.tests = records.filter (·.classname = g.key)

/-- The groups are those of the records. -/
structure IsGrouping (records : List TestRecord) (gs : List ClassGroup) : Prop
    extends OnePerClass records gs where
  /-- The longest group comes first, and of equally long ones the one whose key comes first. -/
  ordered : gs.Pairwise fun g h => h.total < g.total ∨ (g.total = h.total ∧ KeyBefore g.key h.key)

section

variable {records : List TestRecord} {gs : List ClassGroup} {g : ClassGroup}

theorem OnePerClass.eq_ofClass (h : OnePerClass records gs) (hg : g ∈ gs) :
    g = ofClass records g.key := by
  have htests := h.tests_eq g hg
  cases g
  exact congrArg _ htests

/-- A class has a group because of one of its records. -/
theorem OnePerClass.tests_ne_nil (h : OnePerClass records gs) (hg : g ∈ gs) : g.tests ≠ [] := by
  obtain ⟨t, ht, hkey⟩ := (h.mem_keys g.key).mp (List.mem_map_of_mem hg)
  rw [h.tests_eq g hg]
  exact List.ne_nil_of_mem (List.mem_filter.mpr ⟨ht, decide_eq_true hkey⟩)

theorem OnePerClass.classname_eq (h : OnePerClass records gs) (hg : g ∈ gs) :
    ∀ t ∈ g.tests, t.classname = g.key := by
  intro t ht
  rw [h.tests_eq g hg] at ht
  exact of_decide_eq_true (List.mem_filter.mp ht).2

/-- Sorting leaves no choice between the groups of different classes. -/
theorem OnePerClass.sortForAssignment_eq (h : OnePerClass records gs) :
    sortForAssignment gs = ofRecords records := by
  have hclasses : (gs.map (·.key)).Perm (records.map (·.classname)).eraseDups := by
    rw [List.perm_ext_iff_of_nodup h.keys_nodup (nodup_eraseDups _)]
    intro c
    rw [h.mem_keys, List.mem_eraseDups, List.mem_map]
  have hgroups : (gs.map (·.key)).map (ofClass records) = gs := by
    rw [List.map_map]
    refine (List.map_congr_left fun g hg => ?_).trans (List.map_id gs)
    exact (h.eq_ofClass hg).symm
  have hperm := hclasses.map (ofClass records)
  rw [hgroups] at hperm
  exact sortForAssignment_eq_of_perm h.keys_nodup hperm

end

theorem nanos_total (g : ClassGroup) :
    g.total.nanos = min (g.tests.map (·.duration.nanos)).sum Duration.longest.nanos := by
  rw [total, Duration.nanos_sum, List.map_map]
  rfl

/-- Of two groups with different keys only one can come first. -/
theorem before_of_precedes {g h : ClassGroup} (hkey : g.key ≠ h.key) (hgh : g.precedes h) :
    h.total < g.total ∨ (g.total = h.total ∧ KeyBefore g.key h.key) := by
  refine ((precedes_iff g h).mp hgh).imp_right ?_
  rintro ⟨htotal, hle⟩
  refine ⟨htotal, (keyBefore_iff _ _).mpr ?_⟩
  by_contra hlt
  exact hkey (String.le_antisymm hle (String.not_lt.mp hlt))

theorem precedes_of_before {g h : ClassGroup}
    (hgh : h.total < g.total ∨ (g.total = h.total ∧ KeyBefore g.key h.key)) : g.precedes h := by
  refine (precedes_iff g h).mpr (hgh.imp_right ?_)
  rintro ⟨htotal, hlt⟩
  exact ⟨htotal, String.not_lt.mp (String.lt_asymm ((keyBefore_iff _ _).mp hlt))⟩

theorem isGrouping_ofRecords (records : List TestRecord) : IsGrouping records (ofRecords records) where
  keys_nodup := nodup_keys_ofRecords records
  mem_keys c := by
    rw [((ofRecords_perm records).map (·.key)).mem_iff, List.map_map]
    simp [ofClass]
  tests_eq g hg := congrArg tests (eq_ofClass_of_mem_ofRecords hg)
  ordered := by
    have hkeys := List.pairwise_map.mp (nodup_keys_ofRecords records)
    exact (hkeys.and (pairwise_precedes _)).imp fun h => before_of_precedes h.1 h.2

/-- There is one grouping only. -/
theorem IsGrouping.eq_ofRecords {records : List TestRecord} {gs : List ClassGroup}
    (h : IsGrouping records gs) : gs = ofRecords records := by
  have hsorted := eq_sortForAssignment h.keys_nodup (.refl gs) (h.ordered.imp precedes_of_before)
  exact hsorted.trans h.sortForAssignment_eq

/-! ## Making the groups record by record -/

/-- The record joins the group of its class, or gets a new group at the place of its class, where the
groups stand in the order of their keys. -/
def join (t : TestRecord) : List ClassGroup → List ClassGroup
  | [] => [⟨t.classname, [t]⟩]
  | g :: gs =>
    if t.classname < g.key then ⟨t.classname, [t]⟩ :: g :: gs
    else if t.classname = g.key then ⟨g.key, g.tests ++ [t]⟩ :: gs
    else g :: join t gs

def InKeyOrder (gs : List ClassGroup) : Prop := (gs.map (·.key)).Pairwise (· < ·)

section

variable {records : List TestRecord} {gs before after : List ClassGroup} {g : ClassGroup}
  {t : TestRecord}

theorem join_append (hbefore : ∀ g ∈ before, g.key < t.classname) :
    join t (before ++ after) = before ++ join t after := by
  induction before with
  | nil => rfl
  | cons g before ih =>
    obtain ⟨hg, hbefore⟩ := List.forall_mem_cons.mp hbefore
    rw [List.cons_append, join, if_neg (String.lt_asymm hg),
      if_neg fun heq => String.lt_irrefl _ (heq ▸ hg), ih hbefore, List.cons_append]

theorem join_old (hbefore : ∀ g ∈ before, g.key < t.classname) (hg : t.classname = g.key) :
    join t (before ++ g :: after) = before ++ ⟨g.key, g.tests ++ [t]⟩ :: after := by
  rw [join_append hbefore, join, if_neg (hg ▸ String.lt_irrefl _), if_pos hg]

theorem join_new (hbefore : ∀ g ∈ before, g.key < t.classname)
    (hafter : ∀ g ∈ after, t.classname < g.key) :
    join t (before ++ after) = before ++ ⟨t.classname, [t]⟩ :: after := by
  rw [join_append hbefore]
  cases after with
  | nil => rfl
  | cons g after => rw [join, if_pos (hafter g (List.mem_cons_self ..))]

/-- Groups in key order are cut at a class, which has a group or is between two groups. -/
theorem InKeyOrder.exists_cut (h : InKeyOrder gs) (c : String) : ∃ before after,
    (∀ g ∈ before, g.key < c) ∧ (∀ g ∈ after, c < g.key) ∧
      (gs = before ++ after ∨ ∃ g, c = g.key ∧ gs = before ++ g :: after) := by
  induction gs with
  | nil => exact ⟨[], [], nofun, nofun, .inl rfl⟩
  | cons g gs ih =>
    rw [InKeyOrder, List.map_cons, List.pairwise_cons, List.forall_mem_map] at h
    rcases lt_trichotomy g.key c with hlt | rfl | hgt
    · obtain ⟨before, after, hbefore, hafter, hsplit⟩ := ih h.2
      refine ⟨g :: before, after, List.forall_mem_cons.mpr ⟨hlt, hbefore⟩, hafter, ?_⟩
      rcases hsplit with rfl | ⟨k, hk, rfl⟩
      · exact .inl rfl
      · exact .inr ⟨k, hk, rfl⟩
    · exact ⟨[], gs, nofun, h.1, .inr ⟨g, rfl, rfl⟩⟩
    · refine ⟨[], g :: gs, nofun, ?_, .inl rfl⟩
      exact List.forall_mem_cons.mpr ⟨hgt, fun k hk => hgt.trans (h.1 k hk)⟩

theorem InKeyOrder.insert (h : InKeyOrder (before ++ after)) (hbefore : ∀ k ∈ before, k.key < g.key)
    (hafter : ∀ k ∈ after, g.key < k.key) : InKeyOrder (before ++ g :: after) := by
  simp only [InKeyOrder, List.map_append, List.map_cons, List.pairwise_append, List.pairwise_cons,
    List.forall_mem_map, List.forall_mem_cons] at h ⊢
  exact ⟨h.1, ⟨hafter, h.2.1⟩, fun k hk => ⟨hbefore k hk, h.2.2 k hk⟩⟩

/-- One record more, where the group of its class has that record behind those that it had, and the other
groups are as before. -/
theorem OnePerClass.concat (h : OnePerClass records gs) (horder : InKeyOrder (before ++ g :: after))
    (hkey : g.key = t.classname) (htests : g.tests = records.filter (·.classname = t.classname) ++ [t])
    (hclasses : ∀ c, c ∈ (before ++ g :: after).map (·.key) ↔ c ∈ gs.map (·.key) ∨ t.classname = c)
    (hothers : ∀ k ∈ before ++ after, k ∈ gs ∧ t.classname ≠ k.key) :
    OnePerClass (records ++ [t]) (before ++ g :: after) where
  keys_nodup := horder.imp ne_of_lt
  mem_keys c := by
    rw [hclasses, h.mem_keys]
    simp [or_and_right, exists_or]
  tests_eq k hk := by
    rw [List.filter_append, List.filter_singleton]
    rw [List.mem_append, List.mem_cons, or_left_comm, ← List.mem_append] at hk
    rcases hk with rfl | hk
    · rw [htests, hkey, decide_eq_true rfl]
      rfl
    · obtain ⟨hold, hother⟩ := hothers k hk
      rw [h.tests_eq k hold, decide_eq_false hother]
      exact (List.append_nil _).symm

/-- One step: with the record that joins, the groups are those of one record more. -/
theorem OnePerClass.join (h : OnePerClass records gs) (horder : InKeyOrder gs) (t : TestRecord) :
    OnePerClass (records ++ [t]) (ClassGroup.join t gs) ∧ InKeyOrder (ClassGroup.join t gs) := by
  obtain ⟨before, after, hbefore, hafter, hsplit⟩ := horder.exists_cut t.classname
  have hne : ∀ k ∈ before ++ after, t.classname ≠ k.key := by
    intro k hk
    rcases List.mem_append.mp hk with hk | hk
    · exact (hbefore k hk).ne'
    · exact (hafter k hk).ne
  rcases hsplit with rfl | ⟨g, hg, rfl⟩
  · have hnone : records.filter (·.classname = t.classname) = [] := by
      rw [List.filter_eq_nil_iff]
      intro u hu heq
      obtain ⟨k, hk, hkey⟩ := List.mem_map.mp
        ((h.mem_keys t.classname).mpr ⟨u, hu, of_decide_eq_true heq⟩)
      exact hne k hk hkey.symm
    have horder' : InKeyOrder (before ++ ⟨t.classname, [t]⟩ :: after) := horder.insert hbefore hafter
    rw [join_new hbefore hafter]
    refine ⟨h.concat horder' rfl (by rw [hnone]; rfl) (fun c => ?_) (fun k hk => ⟨hk, hne k hk⟩), horder'⟩
    simp [or_comm, or_left_comm, eq_comm]
  · have hkeys : (before ++ ⟨g.key, g.tests ++ [t]⟩ :: after).map (·.key) =
        (before ++ g :: after).map (·.key) := by simp
    have horder' : InKeyOrder (before ++ ⟨g.key, g.tests ++ [t]⟩ :: after) := by
      rwa [InKeyOrder, hkeys]
    have htests : g.tests ++ [t] = records.filter (·.classname = t.classname) ++ [t] := by
      rw [hg, h.tests_eq g (by simp)]
    rw [join_old hbefore hg]
    refine ⟨h.concat horder' hg.symm htests (fun c => ?_) (fun k hk => ⟨?_, hne k hk⟩), horder'⟩
    · rw [hkeys, or_iff_left_of_imp]
      rintro rfl
      simp [hg]
    · exact List.mem_append.mpr ((List.mem_append.mp hk).imp_right (List.mem_cons_of_mem g))

/-- All steps. -/
theorem onePerClass_foldl_join (records : List TestRecord) :
    OnePerClass records (records.foldl (fun gs t => ClassGroup.join t gs) []) ∧
      InKeyOrder (records.foldl (fun gs t => ClassGroup.join t gs) []) := by
  induction records using List.reverseRecOn with
  | nil => exact ⟨⟨List.nodup_nil, fun c => by simp, nofun⟩, List.Pairwise.nil⟩
  | append_singleton records t ih =>
    rw [List.foldl_concat]
    exact ih.1.join ih.2 t

end

/-- Records that join their groups one after the other give the groups of all of them. -/
theorem ofRecords_eq_sort_joins (records : List TestRecord) :
    ofRecords records = sortForAssignment (records.foldl (fun gs t => join t gs) []) :=
  (onePerClass_foldl_join records).1.sortForAssignment_eq.symm

/-! ## Grouping what the groups hold -/

section

variable {records : List TestRecord} {gs : List ClassGroup} {g : ClassGroup}

/-- Among the records of all groups those of a class are the ones of its group, in their order. -/
theorem OnePerClass.filter_flatMap_tests (h : OnePerClass records gs) (hg : g ∈ gs) :
    (gs.flatMap (·.tests)).filter (·.classname = g.key) = g.tests := by
  obtain ⟨before, after, hsplit⟩ := List.append_of_mem hg
  have hkeys := h.keys_nodup
  rw [hsplit, List.map_append, List.map_cons, List.nodup_middle, List.nodup_cons,
    ← List.map_append] at hkeys
  have hothers (hs : List ClassGroup) (hsub : hs ⊆ before ++ after) :
      (hs.flatMap (·.tests)).filter (·.classname = g.key) = [] := by
    rw [List.filter_eq_nil_iff]
    intro t ht hkey
    obtain ⟨k, hk, htk⟩ := List.mem_flatMap.mp ht
    have hmem : k ∈ gs := by
      rw [hsplit]
      rcases List.mem_append.mp (hsub hk) with hk | hk <;> simp [hk]
    have hsame : k.key = g.key := (h.classname_eq hmem t htk).symm.trans (of_decide_eq_true hkey)
    exact hkeys.1 (List.mem_map.mpr ⟨k, hsub hk, hsame⟩)
  have hown : g.tests.filter (·.classname = g.key) = g.tests := by
    rw [List.filter_eq_self]
    exact fun t ht => decide_eq_true (h.classname_eq hg t ht)
  rw [hsplit, List.flatMap_append, List.flatMap_cons, List.filter_append, List.filter_append, hown,
    hothers before (List.subset_append_left ..), hothers after (List.subset_append_right ..),
    List.nil_append, List.append_nil]

/-- The groups of records are those of the records that they hold, too. -/
theorem OnePerClass.flatMap_tests (h : OnePerClass records gs) :
    OnePerClass (gs.flatMap (·.tests)) gs where
  keys_nodup := h.keys_nodup
  mem_keys c := by
    rw [List.mem_map]
    constructor
    · rintro ⟨g, hg, rfl⟩
      obtain ⟨t, ht⟩ := List.exists_mem_of_ne_nil _ (h.tests_ne_nil hg)
      exact ⟨t, List.mem_flatMap.mpr ⟨g, hg, ht⟩, h.classname_eq hg t ht⟩
    · rintro ⟨t, ht, rfl⟩
      obtain ⟨g, hg, htg⟩ := List.mem_flatMap.mp ht
      exact ⟨g, hg, (h.classname_eq hg t htg).symm⟩
  tests_eq g hg := (h.filter_flatMap_tests hg).symm

end

/-- The groups of records are their one grouping: for each class one group, not empty, of all its
records in their order, with the sum of their times, cut at the longest duration, as its total, and the
groups in strict assignment order. Grouped again, the records of the groups give the same groups. -/
theorem groups_of_records (records : List TestRecord) :
    (∀ gs, IsGrouping records gs ↔ gs = ofRecords records) ∧
      (∀ g ∈ ofRecords records, g.tests ≠ [] ∧
        g.total.nanos = min (g.tests.map (·.duration.nanos)).sum Duration.longest.nanos) ∧
      ofRecords ((ofRecords records).flatMap (·.tests)) = ofRecords records := by
  have hgrouping := isGrouping_ofRecords records
  refine ⟨fun gs => ⟨IsGrouping.eq_ofRecords, fun h => h ▸ hgrouping⟩, ?_, ?_⟩
  · exact fun g hg => ⟨hgrouping.tests_ne_nil hg, nanos_total g⟩
  · exact (IsGrouping.mk hgrouping.flatMap_tests hgrouping.ordered).eq_ofRecords.symm

end SuiteSplit.ClassGroup
