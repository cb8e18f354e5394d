import SuiteSplit.Proofs.Locality
import SuiteSplit.Proofs.Acceptance

/-!
Reports that were cut off.

The items of a report whose root element has ended hold no further tag, and those of a front that ends
before are without the end of the root element. So a report can be cut behind the last `>` of its root
element, where it has all of its records, and at no place before.
-/

namespace SuiteSplit

namespace Xml

/-- A text without the byte order mark in front of it. -/
def behindMark : List Char → List Char
  | '\ufeff' :: cs => cs
  | cs => cs

theorem behindMark_plain {cs : List Char} (h : ∀ ds, cs = '\ufeff' :: ds → False) :
    behindMark cs = cs := by
  unfold behindMark
  split
  · next ds => exact (h ds rfl).elim
  · rfl

theorem events_eq (cs : List Char) : events cs = eventsFrom 0 (behindMark cs) := by
  unfold events
  split
  · rfl
  · next hplain => rw [behindMark_plain hplain]

theorem behindMark_append {cs : List Char} (h : cs ≠ []) (ds : List Char) :
    behindMark (cs ++ ds) = behindMark cs ++ ds := by
  obtain ⟨c, cs, rfl⟩ := List.exists_cons_of_ne_nil h
  by_cases hmark : c = '\ufeff'
  · subst hmark
    rfl
  · have hplain (es : List Char) : behindMark (c :: es) = c :: es := by
      apply behindMark_plain
      intro ds heq
      exact hmark (List.cons.inj heq).1
    rw [List.cons_append, hplain, hplain, List.cons_append]

/-- A front of what stands behind the mark is a front of the text. -/
theorem exists_front_behindMark {cs front behind : List Char} (hfront : front ≠ [])
    (h : behindMark cs = front ++ behind) :
    ∃ whole, cs = whole ++ behind ∧ behindMark whole = front ∧ front <:+ whole := by
  by_cases hmark : ∃ ds, cs = '\ufeff' :: ds
  · obtain ⟨ds, rfl⟩ := hmark
    change ds = _ at h
    exact ⟨'\ufeff' :: front, by rw [h, List.cons_append], rfl, List.suffix_cons ..⟩
  · have hplain : behindMark cs = cs := behindMark_plain fun ds heq => hmark ⟨ds, heq⟩
    rw [hplain] at h
    refine ⟨front, h, ?_, List.suffix_rfl⟩
    rw [h, behindMark_append hfront] at hplain
    exact List.append_cancel_right hplain

/-- A front that lacks something lacks it behind the mark as well. -/
theorem exists_behindMark_eq_append {whole front more : List Char} (h : whole = front ++ more)
    (hmore : more ≠ []) (hwhole : behindMark whole ≠ []) :
    ∃ rest, rest ≠ [] ∧ behindMark whole = behindMark front ++ rest := by
  by_cases hfront : front = []
  · subst hfront
    exact ⟨behindMark whole, hwhole, rfl⟩
  · exact ⟨more, hmore, h ▸ behindMark_append hfront more⟩

end Xml

namespace Report

open Xml

variable {items before after more : List Item} {item last : Item}

/-- The item is the end of the root element, or all of it. -/
def EndsRoot (before : List Item) (item : Item) : Prop :=
  ¬ RootClosed before ∧ RootClosed (before ++ [item])

theorem rootClosed_concat_of_not_tag (h : item.event.isTag = false) :
    RootClosed (before ++ [item]) ↔ RootClosed before := by
  rw [RootClosed, RootClosed, rootsIn_concat, openBehind_concat, Xml.Event.nest_of_not_tag h,
    Xml.Event.addsRoot_of_not_tag h, Nat.add_zero]

theorem rootClosed_append_of_not_tag (h : ∀ item ∈ more, item.event.isTag = false) :
    RootClosed (before ++ more) ↔ RootClosed before := by
  induction more using List.reverseRecOn with
  | nil => rw [List.append_nil]
  | append_singleton more item ih =>
    rw [← List.append_assoc, rootClosed_concat_of_not_tag (h item (by simp))]
    exact ih fun i hi => h i (List.mem_append_left _ hi)

theorem EndsRoot.isTag (h : EndsRoot before item) : item.event.isTag := by
  by_contra htag
  exact h.1 ((rootClosed_concat_of_not_tag (Bool.eq_false_iff.mpr htag)).mp h.2)

theorem Fine.front (h : Fine (items ++ more)) : Fine items := by
  intro before item after d hsplit
  apply h before item (after ++ more) d
  rw [hsplit, List.append_assoc, List.cons_append]

/-- Behind the end of the root element stand no tags. -/
theorem Fine.not_isTag (h : Fine (before ++ item :: after)) (hclosed : RootClosed before) :
    item.event.isTag = false := by
  have hsound (d : Defect) : ¬ Violation before item d := h before item after d rfl
  cases hevent : item.event with
  | startTag tag =>
    apply (hsound (.secondRoot item.stop) _).elim
    rw [Violation, hevent]
    exact .inl ⟨hclosed, rfl⟩
  | emptyTag tag =>
    apply (hsound (.secondRoot item.stop) _).elim
    rw [Violation, hevent]
    exact .inl ⟨hclosed, rfl⟩
  | endTag name =>
    apply (hsound (.unmatchedEnd name item.start) _).elim
    rw [Violation, hevent]
    exact .inl ⟨hclosed.2, rfl⟩
  | _ => rfl

theorem Fine.rest_not_tags (h : Fine (before ++ after)) (hclosed : RootClosed before) :
    ∀ item ∈ after, item.event.isTag = false := by
  induction after generalizing before with
  | nil => exact fun item hitem => nomatch hitem
  | cons first after ih =>
    have hfirst := h.not_isTag hclosed
    rw [List.append_cons] at h
    have hrest := ih h ((rootClosed_concat_of_not_tag hfirst).mpr hclosed)
    exact List.forall_mem_cons.mpr ⟨hfirst, hrest⟩

/-- Where the root element has ended, there is the item that ended it. -/
theorem exists_endsRoot (h : RootClosed items) :
    ∃ before item after, items = before ++ item :: after ∧ EndsRoot before item := by
  induction items using List.reverseRecOn with
  | nil => exact absurd h.1 (Nat.lt_irrefl 0)
  | append_singleton items item ih =>
    by_cases hclosed : RootClosed items
    · obtain ⟨before, last, after, rfl, hends⟩ := ih hclosed
      exact ⟨before, last, after ++ [item], by simp, hends⟩
    · exact ⟨items, item, [], rfl, hclosed, h⟩

/-- Items without tags store nothing. -/
theorem run_not_tags {p q : Progress} (hitems : ∀ item ∈ items, item.event.isTag = false)
    (hrun : items.foldlM Progress.step p = .ok q) : q = p := by
  induction items generalizing p with
  | nil =>
    cases hrun
    rfl
  | cons item items ih =>
    obtain ⟨middle, hstep, hrest⟩ := foldlM_cons_ok_iff.mp hrun
    rw [List.forall_mem_cons] at hitems
    cases step_of_not_tag hitems.1 hstep
    exact ih hitems.2 hrest

/-! ## Fronts of a report -/

/-- A report can end with its root element: what stands behind adds no records. -/
theorem ofEvents_upTo_root {fault : Option Fault} {records : List TestRecord}
    (h : ofEvents ⟨before ++ last :: after, fault⟩ = .ok records) (hends : EndsRoot before last) :
    ofEvents ⟨before ++ [last], none⟩ = .ok records := by
  obtain ⟨p, hrun, -, hfinish⟩ := ofEvents_eq_ok_iff.mp h
  rw [List.append_cons] at hrun
  have hfine : Fine (before ++ [last] ++ after) := exists_run_iff.mp ⟨p, hrun⟩
  obtain ⟨q, hfront, hbehind⟩ := foldlM_append_ok_iff.mp hrun
  cases run_not_tags (hfine.rest_not_tags hends.2) hbehind
  exact ofEvents_eq_ok_iff.mpr ⟨p, hfront, rfl, hfinish⟩

/-- Items from before the end of the root element, and others that are no tags, are no report. -/
theorem not_isReport_of_prefix {kept loose : List Item} {fault : Option Fault}
    (hfine : Fine (before ++ [last])) (hends : EndsRoot before last) (hkept : kept <+: before)
    (hloose : ∀ item ∈ loose, item.event.isTag = false) : ¬ IsReport ⟨kept ++ loose, fault⟩ := by
  intro hreport
  obtain ⟨-, -, hopen, hroots⟩ := isReport_iff.mp hreport
  have hwhole : RootClosed (kept ++ loose) := ⟨by rw [hroots]; exact Nat.one_pos, hopen⟩
  have hclosed := (rootClosed_append_of_not_tag hloose).mp hwhole
  obtain ⟨between, rfl⟩ := hkept
  have hbetween := hfine.front.rest_not_tags hclosed
  exact hends.1 ((rootClosed_append_of_not_tag hbetween).mpr hclosed)

/-- A front that lacks something of a text whose last item ends its root element is no report. -/
theorem not_isReport_of_front {whole front more : List Char} (hwhole : whole = front ++ more)
    (hmore : more ≠ []) (hevents : (Xml.events whole).items = before ++ [last])
    (hstop : last.stop = Text.width (behindMark whole)) (hfine : Fine (before ++ [last]))
    (hends : EndsRoot before last) : ¬ IsReport (Xml.events front) := by
  have hmark : behindMark whole ≠ [] := by
    intro hnil
    rw [events_eq, hnil, eventsFrom_text List.not_mem_nil] at hevents
    change [] = before ++ [last] at hevents
    simp at hevents
  obtain ⟨rest, hne, hbehind⟩ := exists_behindMark_eq_append hwhole hmore hmark
  obtain ⟨kept, loose, hfront, hprefix, hstops, hloose⟩ :=
    items_of_front 0 (behindMark front) rest
  rw [← hbehind, ← events_eq, hevents] at hprefix
  have hshort : 0 + Text.width (behindMark front) < last.stop := by
    have hpos := Text.width_pos hne
    rw [hstop, hbehind, Text.width_append]
    omega
  have hkept : kept <+: before := by
    rcases List.prefix_concat_iff.mp hprefix with rfl | hkept
    · have hlast := hstops last (by simp)
      omega
    · exact hkept
  have hdocument : Xml.events front = ⟨kept ++ loose, (Xml.events front).fault⟩ := by
    rw [events_eq, ← hfront]
  rw [hdocument]
  exact not_isReport_of_prefix hfine hends hkept hloose

/-- A report that is cut inside of its root element is refused. The text up to the last `>` of that
element has all of the records, and no shorter front of it is a report, wherever it ends. -/
theorem truncated_report_refused {text : String} {records : List TestRecord}
    (h : read text = .ok records) :
    ∃ whole behind : String, text = whole ++ behind ∧
      (∃ before last after, (Xml.events text.toList).items = before ++ last :: after ∧
        EndsRoot before last ∧ Xml.events whole.toList = ⟨before ++ [last], none⟩) ∧
      whole.toList.getLast? = some '>' ∧
      read whole = .ok records ∧
      ∀ front more : String, whole = front ++ more → more ≠ "" → ∃ d, read front = .error d := by
  obtain ⟨-, hfine, hopen, hroots⟩ := isReport_iff.mp (exists_ofEvents_iff.mp ⟨records, h⟩)
  have hclosed : RootClosed (Xml.events text.toList).items :=
    ⟨by rw [hroots]; exact Nat.one_pos, hopen⟩
  obtain ⟨before, last, after, hitems, hends⟩ := exists_endsRoot hclosed
  have hitems' := hitems
  rw [events_eq] at hitems'
  obtain ⟨lead, behind, hsplit, hevents, hstop⟩ := exists_front_of_tag hitems' hends.isTag
  rw [List.append_cons] at hsplit
  obtain ⟨whole, htext, hmark, hsuffix⟩ := exists_front_behindMark (by simp) hsplit
  have hwhole : Xml.events whole = ⟨before ++ [last], none⟩ := by rw [events_eq, hmark, hevents]
  refine ⟨.ofList whole, .ofList behind, ?_, ⟨before, last, after, hitems, hends, ?_⟩, ?_, ?_, ?_⟩
  · apply String.toList_injective
    simpa using htext
  · simpa using hwhole
  · obtain ⟨mark, rfl⟩ := hsuffix
    simp
  · have hall : ofEvents ⟨(Xml.events text.toList).items, (Xml.events text.toList).fault⟩ =
        .ok records := h
    rw [hitems] at hall
    rw [read, String.toList_ofList, hwhole]
    exact ofEvents_upTo_root hall hends
  · intro front more hfront hmore
    rw [hitems, List.append_cons] at hfine
    cases hread : read front with
    | error d => exact ⟨d, rfl⟩
    | ok records' =>
      have hreport := exists_ofEvents_iff.mp ⟨records', hread⟩
      have hlists : whole = front.toList ++ more.toList := by
        simpa using congrArg String.toList hfront
      have hrest : more.toList ≠ [] := fun hnil => hmore (String.toList_eq_nil_iff.mp hnil)
      refine absurd hreport (not_isReport_of_front hlists hrest ?_ ?_ hfine.front hends)
      · rw [hwhole]
      · rw [hstop, hmark, Nat.zero_add]

/-- An empty suite with a line end behind it. -/
theorem truncated_empty_suite :
    read "<suite></suite>\n" = .ok [] ∧
      ∃ whole behind : String, "<suite></suite>\n" = whole ++ behind ∧ read whole = .ok [] ∧
        ∀ front more : String, whole = front ++ more → more ≠ "" → ∃ d, read front = .error d := by
  have hopening : Markup.read "suite></suite>\n".toList =
      .ok ⟨.startTag ⟨"suite".toList⟩, 6, "</suite>\n".toList⟩ := rfl
  have hclosing : Markup.read "/suite>\n".toList = .ok ⟨.endTag "suite".toList, 7, ['\n']⟩ := rfl
  have hevents : Xml.events "<suite></suite>\n".toList =
      ⟨[⟨.startTag ⟨"suite".toList⟩, 0, 7⟩, ⟨.endTag "suite".toList, 7, 15⟩], none⟩ := by
    have hlast : eventsFrom 15 ['\n'] = ⟨[], none⟩ := eventsFrom_text (by decide) 15
    have hsecond : eventsFrom 7 "</suite>\n".toList = ⟨[⟨.endTag "suite".toList, 7, 15⟩], none⟩ := by
      have hmarkup := eventsFrom_markup (List.not_mem_nil : '<' ∉ []) hclosing 7
      simp only [Text.width_nil, Nat.add_zero, Nat.reduceAdd, hlast] at hmarkup
      exact hmarkup
    have hmarkup := eventsFrom_markup (List.not_mem_nil : '<' ∉ []) hopening 0
    simp only [Text.width_nil, Nat.add_zero, Nat.reduceAdd, hsecond] at hmarkup
    exact hmarkup
  have hread : read "<suite></suite>\n" = .ok [] := by
    rw [read, hevents]
    rfl
  obtain ⟨whole, behind, hsplit, -, -, hwhole, hfronts⟩ := truncated_report_refused hread
  exact ⟨hread, whole, behind, hsplit, hwhole, hfronts⟩

end Report

end SuiteSplit
