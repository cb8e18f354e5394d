import SuiteSplit.Proofs.WrappedReports

/-!
Reports that were appended to others.

Where one text stands behind another, the last text of the one runs into the first text of the other, and
else each is read as it is alone. Behind a report, whose root element has ended, the first tag of another
one is refused, and so is a text in front of that tag if there is more to it than white space.
-/

namespace SuiteSplit

namespace Text

theorem all_isAsciiSpace_dropWhile (cs : List Char) :
    (cs.dropWhile isBlank).all isAsciiSpace = cs.all isAsciiSpace := by
  have hblanks : (cs.takeWhile isBlank).all isAsciiSpace := by
    rw [List.all_eq_true]
    intro c hc
    simp [isAsciiSpace, List.mem_takeWhile_imp hc]
  conv_rhs => rw [← List.takeWhile_append_dropWhile (p := isBlank) (l := cs), List.all_append, hblanks,
    Bool.true_and]

theorem all_isAsciiSpace_trimEnd (cs : List Char) :
    (trimEnd isBlank cs).all isAsciiSpace = cs.all isAsciiSpace := by
  rw [trimEnd, List.all_reverse, all_isAsciiSpace_dropWhile, List.all_reverse]

end Text

namespace Xml

/-! ## Texts that stand one behind the other -/

section

variable {offset : Nat} {cs : List Char}

/-- What stands behind a text is read with the end of that text in front, from behind its last
construct. -/
theorem exists_last_lead (h : (eventsFrom offset cs).fault = none) : ∃ kept start lead,
    '<' ∉ lead ∧ (eventsFrom offset cs).items = kept ++ leadItems start lead ∧
      ∀ more, eventsFrom offset (cs ++ more) =
        ⟨kept ++ (eventsFrom start (lead ++ more)).items, (eventsFrom start (lead ++ more)).fault⟩ := by
  induction cs using document_induction generalizing offset with
  | text lead hlead => exact ⟨[], offset, lead, hlead, by rw [eventsFrom_text hlead]; rfl, fun _ => rfl⟩
  | fault lead inside cause distance hlead hread =>
    rw [eventsFrom_fault hlead hread] at h
    cases h
  | markup lead inside m hlead hread ih =>
    rw [eventsFrom_markup hlead hread] at h ⊢
    obtain ⟨kept, start, last, hlast, hitems, hmore⟩ := ih h
    refine ⟨leadItems offset lead ++ ⟨m.event, offset + Text.width lead,
      offset + Text.width lead + 1 + m.size⟩ :: kept, start, last, hlast, ?_, ?_⟩
    · simp only [hitems, List.append_assoc, List.cons_append]
    · intro more
      rw [List.append_assoc, List.cons_append, eventsFrom_markup hlead (Markup.read_append hread more)]
      simp only [hmore, List.append_assoc, List.cons_append]

/-- What the events of a text are does not depend on where it stands. -/
theorem readsAs_of_wellFormed (h : (eventsFrom offset cs).fault = none) :
    ReadsAs cs ((eventsFrom offset cs).items.map (·.event)) := by
  induction cs using document_induction generalizing offset with
  | text lead hlead =>
    intro offset'
    rw [eventsFrom_text hlead, eventsFrom_text hlead]
    exact ⟨rfl, by rw [map_event_leadItems, map_event_leadItems offset]⟩
  | fault lead inside cause distance hlead hread =>
    rw [eventsFrom_fault hlead hread] at h
    cases h
  | markup lead inside m hlead hread ih =>
    rw [eventsFrom_markup hlead hread] at h ⊢
    rw [List.map_append, map_event_leadItems, List.map_cons]
    exact .behind hlead hread (ih h)

end

end Xml

namespace Report

open Xml

/-! ## Behind the root element -/

section

variable {p q : Progress} {items : List Item}

/-- Outside of elements a text is passed over if it is white space, and is refused otherwise. -/
theorem run_leadItems (hopen : p.openNames = []) (start : Nat) (lead : List Char) :
    (leadItems start lead).foldlM Progress.step p =
      if lead.all Text.isAsciiSpace then .ok p else .error (.strayText (start + Text.width lead)) := by
  have hshown := Text.all_isAsciiSpace_dropWhile lead
  rw [leadItems]
  split
  · next hnone =>
    rw [hnone, List.all_nil] at hshown
    rw [← hshown]
    rfl
  · rw [← hshown, ← Text.all_isAsciiSpace_trimEnd, List.foldlM_cons, Progress.step]
    simp only [hopen, List.isEmpty_nil, Bool.true_and]
    cases (Text.trimEnd Text.isBlank (lead.dropWhile Text.isBlank)).all Text.isAsciiSpace <;> rfl

/-- What is neither a tag nor refused outside of elements is passed over there. -/
theorem step_outside {item : Item} (hopen : p.openNames = []) (htag : item.event.isTag = false)
    (h : Progress.takeEvent {} item.event = .ok q) : p.step item = .ok p := by
  unfold Progress.takeEvent Progress.step at h
  unfold Progress.step
  cases hevent : item.event with
  | text body =>
    rw [hevent] at h
    rw [hopen]
    exact ite_error_eq_ok_iff.mpr ⟨(ite_error_eq_ok_iff.mp h).1, rfl⟩
  | cdata body =>
    rw [hevent] at h
    cases h
  | aside => rfl
  | _ =>
    rw [hevent] at htag
    cases htag

theorem openNames_of_rootClosed (h : p.rootClosed) : p.openNames = [] := by
  rw [Progress.rootClosed, Bool.and_eq_true, List.isEmpty_iff] at h
  exact h.2

/-- Items that have a root element are refused behind another one, at their first tag. -/
theorem run_second_root (hclosed : p.rootClosed)
    (hrun : (items.map (·.event)).foldlM Progress.takeEvent {} = .ok q) (hroot : q.seenRoot) :
    ∃ offset, items.foldlM Progress.step p = .error (.secondRoot offset) := by
  induction items with
  | nil =>
    cases hrun
    cases hroot
  | cons item items ih =>
    obtain ⟨r, hstep, hrest⟩ := foldlM_cons_ok_iff.mp hrun
    rcases step_ok hstep with ⟨tag, hevent, -⟩ | ⟨tag, hevent, -⟩ | ⟨name, hevent, hclose⟩ | ⟨htag, rfl⟩
    · refine ⟨item.stop, foldlM_cons_error_iff.mpr (.inl ?_)⟩
      simp only at hevent
      simp [Progress.step, hevent, hclosed]
    · refine ⟨item.stop, foldlM_cons_error_iff.mpr (.inl ?_)⟩
      simp only at hevent
      simp [Progress.step, hevent, hclosed]
    · cases hclose
    · obtain ⟨offset, hbehind⟩ := ih hrest
      exact ⟨offset, foldlM_cons_error_iff.mpr (.inr
        ⟨p, step_outside (openNames_of_rootClosed hclosed) htag hstep, hbehind⟩)⟩

/-! ## Reports -/

theorem all_isAsciiSpace_of_run {start : Nat} {lead : List Char} (hopen : p.openNames = [])
    (hrun : (leadItems start lead).foldlM Progress.step p = .ok q) : lead.all Text.isAsciiSpace := by
  rw [run_leadItems hopen] at hrun
  by_contra hspace
  rw [if_neg hspace] at hrun
  cases hrun

/-- The progress behind a report, and the text at its end. -/
theorem exists_end_of_read {text : String} {records : List TestRecord} (h : read text = .ok records) :
    ∃ kept start lead p, '<' ∉ lead ∧ lead.all Text.isAsciiSpace ∧
      kept.foldlM Progress.step {} = .ok p ∧ p.rootClosed ∧
      ∀ more, (Xml.events (text.toList ++ more)).items =
        kept ++ (eventsFrom start (lead ++ more)).items := by
  obtain ⟨p, hrun, hfault, hfinish⟩ := ofEvents_eq_ok_iff.mp h
  obtain ⟨hopen, hroots, -⟩ := (tracks_of_run hrun).finish_eq_ok_iff.mp hfinish
  have hclosed : p.rootClosed :=
    (tracks_of_run hrun).rootClosed_iff.mpr ⟨by rw [hroots]; exact Nat.one_pos, hopen⟩
  rw [events_eq] at hrun hfault hroots
  have hne : text.toList ≠ [] := by
    intro hnil
    have hnone : behindMark [] = [] := rfl
    rw [hnil, hnone, eventsFrom_text List.not_mem_nil] at hroots
    cases hroots
  obtain ⟨kept, start, lead, hlead, hitems, hmore⟩ := exists_last_lead hfault
  rw [hitems] at hrun
  obtain ⟨r, hkept, htext⟩ := foldlM_append_ok_iff.mp hrun
  cases run_not_tags (fun _ => not_isTag_of_mem_leadItems) htext
  have hspace := all_isAsciiSpace_of_run (openNames_of_rootClosed hclosed) htext
  refine ⟨kept, start, lead, p, hlead, hspace, hkept, hclosed, fun more => ?_⟩
  rw [events_eq, behindMark_append hne, hmore]

/-- The text in front of the first construct of a report, and the items from there on. -/
theorem exists_start_of_read {text : String} {records : List TestRecord} (h : read text = .ok records) :
    ∃ lead inside m es q, '<' ∉ lead ∧ lead.all Text.isAsciiSpace ∧
      behindMark text.toList = lead ++ '<' :: inside ∧ Markup.read inside = .ok m ∧ ReadsAs m.rest es ∧
      (m.event :: es).foldlM Progress.takeEvent {} = .ok q ∧ q.seenRoot := by
  obtain ⟨q, hrun, hfault, hfinish⟩ := ofEvents_eq_ok_iff.mp h
  have hroot : q.seenRoot := by
    by_contra hunseen
    have htracks := tracks_of_run hrun
    obtain ⟨-, hroots, -⟩ := htracks.finish_eq_ok_iff.mp hfinish
    rw [htracks.roots, if_neg hunseen] at hroots
    cases hroots
  rw [events_eq] at hrun hfault
  have hbracket : '<' ∈ behindMark text.toList := by
    by_contra hnone
    rw [eventsFrom_text hnone] at hrun
    cases run_not_tags (fun _ => not_isTag_of_mem_leadItems) hrun
    cases hroot
  obtain ⟨lead, inside, hsplit, hlead⟩ := List.eq_append_cons_of_mem hbracket
  rw [hsplit] at hrun hfault
  cases hread : Markup.read inside with
  | error e =>
    rw [eventsFrom_fault hlead hread] at hfault
    cases hfault
  | ok m =>
    rw [eventsFrom_markup hlead hread] at hrun hfault
    obtain ⟨r, htext, hbehind⟩ := foldlM_append_ok_iff.mp hrun
    cases run_not_tags (fun _ => not_isTag_of_mem_leadItems) htext
    exact ⟨lead, inside, m, _, q, hlead, all_isAsciiSpace_of_run rfl htext, hsplit, hread,
      readsAs_of_wellFormed hfault, run_eq_ok_iff.mp hbehind, hroot⟩

/-- Behind the root element a report is refused: at its first tag, or at the text in front of it if that
is not all white space. -/
theorem run_report_behind {text : String} {records : List TestRecord} (h : read text = .ok records)
    (hclosed : p.rootClosed) {gap : List Char} (hgap : '<' ∉ gap) (start : Nat) : ∃ offset,
      (eventsFrom start (gap ++ behindMark text.toList)).items.foldlM Progress.step p =
        .error (if gap.all Text.isAsciiSpace then .secondRoot offset else .strayText offset) := by
  obtain ⟨lead, inside, m, es, q, hlead, hspace, hsplit, hread, hreads, hrun, hroot⟩ :=
    exists_start_of_read h
  have hlead' : '<' ∉ gap ++ lead := by simp [hgap, hlead]
  rw [hsplit, ← List.append_assoc, eventsFrom_markup hlead' hread, List.foldlM_append,
    run_leadItems (openNames_of_rootClosed hclosed), List.all_append, hspace, Bool.and_true]
  split
  · have hitems := (hreads (start + Text.width (gap ++ lead) + 1 + m.size)).2
    rw [← hitems, ← List.map_cons (f := Item.event) (a := ⟨m.event, start + Text.width (gap ++ lead),
      start + Text.width (gap ++ lead) + 1 + m.size⟩)] at hrun
    exact run_second_root hclosed hrun hroot
  · exact ⟨_, rfl⟩

/-- What stands behind a report is refused if it is another report with a text in front: for the root
element if that text is white space, and else for the text. -/
theorem refused_behind_gap {s t : String} {first second : List TestRecord} (hs : read s = .ok first)
    (ht : read t = .ok second) {gap : List Char} (hgap : '<' ∉ gap) : ∃ offset,
      ofEvents (Xml.events (s.toList ++ (gap ++ behindMark t.toList))) =
        .error (if gap.all Text.isAsciiSpace then .secondRoot offset else .strayText offset) := by
  obtain ⟨kept, start, lead, p, hlead, hspace, hkept, hclosed, hmore⟩ := exists_end_of_read hs
  have hgap' : '<' ∉ lead ++ gap := by simp [hlead, hgap]
  obtain ⟨offset, hbehind⟩ := run_report_behind ht hclosed hgap' start
  rw [List.all_append, hspace, Bool.true_and, List.append_assoc] at hbehind
  have hrun : (Xml.events (s.toList ++ (gap ++ behindMark t.toList))).items.foldlM Progress.step {} =
      .error (if gap.all Text.isAsciiSpace then .secondRoot offset else .strayText offset) := by
    rw [hmore, List.foldlM_append, hkept]
    exact hbehind
  refine ⟨offset, ?_⟩
  rw [ofEvents, Reading.fold_eq_error_iff.mpr (.inl hrun)]
  rfl

/-- A report with another one behind it is refused, whatever text stands between them. If that is white
space only, the root element of the second report is what is wrong, unless a byte order mark in front
makes its text no white space. -/
theorem appended_report_refused {s u t : String} {first second : List TestRecord}
    (hs : read s = .ok first) (ht : read t = .ok second) (hu : '<' ∉ u.toList) :
    ∃ offset, read (s ++ u ++ t) = .error
      (if u.toList.all Text.isAsciiSpace ∧ t.toList.head? ≠ some '\ufeff' then .secondRoot offset
        else .strayText offset) := by
  rw [read, String.toList_append, String.toList_append, List.append_assoc]
  by_cases hmark : t.toList.head? = some '\ufeff'
  · obtain ⟨cs, hcs⟩ := List.head?_eq_some_iff.mp hmark
    have hsplit : u.toList ++ t.toList = (u.toList ++ ['\ufeff']) ++ behindMark t.toList := by
      rw [hcs, List.append_assoc]
      rfl
    have hbracket : '<' ∉ u.toList ++ ['\ufeff'] := by simp [hu]
    obtain ⟨offset, hread⟩ := refused_behind_gap hs ht hbracket
    have hgap : ¬ (u.toList ++ ['\ufeff']).all Text.isAsciiSpace := by
      simp [Text.isAsciiSpace, Text.isBlank]
    rw [if_neg hgap, ← hsplit] at hread
    exact ⟨offset, by rw [hread, if_neg fun h => h.2 hmark]⟩
  · have hplain : behindMark t.toList = t.toList :=
      behindMark_plain fun cs hcs => hmark (hcs ▸ List.head?_cons)
    obtain ⟨offset, hread⟩ := refused_behind_gap hs ht hu
    rw [hplain] at hread
    exact ⟨offset, by simp [hread, hmark]⟩

/-- A byte order mark at the start of a report is passed over. -/
theorem read_behind_mark {text : String} (h : text.toList.head? ≠ some '\ufeff') :
    read ("\ufeff" ++ text) = read text := by
  have hplain : behindMark text.toList = text.toList :=
    behindMark_plain fun cs hcs => h (hcs ▸ List.head?_cons)
  have hmark : behindMark ("\ufeff" ++ text).toList = text.toList := by
    rw [String.toList_append]
    rfl
  rw [read, read, events_eq, events_eq, hmark, hplain]

/-- A report in front of itself with a line end between, and in front of itself with a byte order mark. -/
theorem nested_report_appended :
    read nestedReport = .ok [innerCase] ∧ read ("\ufeff" ++ nestedReport) = .ok [innerCase] ∧
      (∃ offset, read (nestedReport ++ "\r\n" ++ nestedReport) = .error (.secondRoot offset)) ∧
      ∃ offset, read (nestedReport ++ "" ++ ("\ufeff" ++ nestedReport)) = .error (.strayText offset) := by
  have hread := read_nestedReport
  have hfirst : nestedReport.toList.head? ≠ some '\ufeff' := by
    rw [toList_nestedReport]
    decide
  have hmarked := (read_behind_mark hfirst).trans hread
  refine ⟨hread, hmarked, ?_, ?_⟩
  · obtain ⟨offset, h⟩ := appended_report_refused hread hread (u := "\r\n") (by decide)
    rw [if_pos ⟨by decide, hfirst⟩] at h
    exact ⟨offset, h⟩
  · obtain ⟨offset, h⟩ := appended_report_refused hread hmarked (u := "") (by decide)
    have hmark : ("\ufeff" ++ nestedReport).toList.head? = some '\ufeff' := by
      rw [String.toList_append]
      rfl
    rw [if_neg fun hno => hno.2 hmark] at h
    exact ⟨offset, h⟩

end

end Report

end SuiteSplit
