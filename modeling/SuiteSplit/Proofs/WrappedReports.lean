import SuiteSplit.Proofs.RecordOrder
import SuiteSplit.Proofs.Truncation

/-!
Reports inside of an element.

The tags of a text do not depend on what stands around it: a construct ends where it ends, and where two
texts meet, only a text of the one can run into a text of the other. Between the tags of an element text
says nothing, so the records of reports that stand one behind the other in an element are those of the
first, followed by those of the second, and so on.
-/

namespace SuiteSplit

namespace Xml

/-! ## Tags of a text -/

/-- A text is markup up to its end, and has the given tags. -/
inductive HasTags : List Char → List Event → Prop
  | text {lead : List Char} (hlead : '<' ∉ lead) : HasTags lead []
  | markup {lead inside : List Char} {m : Markup} {ts : List Event} (hlead : '<' ∉ lead)
    (hread : Markup.read inside = .ok m) (hrest : HasTags m.rest ts) :
    HasTags (lead ++ '<' :: inside) (tags [m.event] ++ ts)

theorem tags_append (es fs : List Event) : tags (es ++ fs) = tags es ++ tags fs := List.filter_append ..

theorem tags_cons (e : Event) (es : List Event) : tags (e :: es) = tags [e] ++ tags es :=
  tags_append [e] es

theorem tags_leadItems (offset : Nat) (lead : List Char) :
    tags ((leadItems offset lead).map (·.event)) = [] := by
  refine List.filter_eq_nil_iff.mpr fun e he => ?_
  obtain ⟨item, hitem, rfl⟩ := List.mem_map.mp he
  rw [not_isTag_of_mem_leadItems hitem]
  exact Bool.false_ne_true

/-- What is read without a fault is markup up to its end. -/
theorem hasTags_of_events {offset : Nat} {cs : List Char} (h : (eventsFrom offset cs).fault = none) :
    HasTags cs (tags ((eventsFrom offset cs).items.map (·.event))) := by
  induction cs using document_induction generalizing offset with
  | text lead hlead =>
    rw [eventsFrom_text hlead, tags_leadItems]
    exact .text hlead
  | fault lead inside cause distance hlead hread =>
    rw [eventsFrom_fault hlead hread] at h
    cases h
  | markup lead inside m hlead hread ih =>
    rw [eventsFrom_markup hlead hread] at h ⊢
    rw [List.map_append, tags_append, tags_leadItems, List.nil_append, List.map_cons, tags_cons]
    exact .markup hlead hread (ih h)

/-- The events of a text in front of a construct do not depend on where it stands. -/
theorem map_event_leadItems (offset : Nat) (lead : List Char) :
    (leadItems offset lead).map (·.event) = (leadItems 0 lead).map (·.event) := by
  unfold leadItems
  split <;> rfl

theorem ReadsAs.behind {lead inside : List Char} {m : Markup} {es : List Event} (hlead : '<' ∉ lead)
    (hread : Markup.read inside = .ok m) (h : ReadsAs m.rest es) :
    ReadsAs (lead ++ '<' :: inside) ((leadItems 0 lead).map (·.event) ++ m.event :: es) := by
  intro offset
  rw [eventsFrom_markup hlead hread]
  refine ⟨(h _).1, ?_⟩
  rw [List.map_append, map_event_leadItems, List.map_cons, (h _).2]

namespace HasTags

variable {cs ds lead : List Char} {ts us : List Event}

/-- A text without markup in front adds no tags. -/
theorem behind (hlead : '<' ∉ lead) (h : HasTags cs ts) : HasTags (lead ++ cs) ts := by
  cases h with
  | text hlead' => exact .text (by simp [hlead, hlead'])
  | markup hlead' hread hrest =>
    rw [← List.append_assoc]
    exact .markup (by simp [hlead, hlead']) hread hrest

theorem of_behindMark (h : HasTags (behindMark cs) ts) : HasTags cs ts := by
  unfold behindMark at h
  split at h
  · exact h.behind (by decide : '<' ∉ ['\ufeff'])
  · exact h

theorem append (h : HasTags cs ts) (h' : HasTags ds us) : HasTags (cs ++ ds) (ts ++ us) := by
  induction h with
  | text hlead => exact h'.behind hlead
  | @markup lead inside m ts hlead hread _ ih =>
    rw [List.append_assoc, List.cons_append, List.append_assoc]
    exact .markup (m := { m with rest := m.rest ++ ds }) hlead (Markup.read_append hread ds) ih

/-- In front of a construct a text is read as its tags, with other events between them. -/
theorem exists_readsAs {n : Markup} (h : HasTags cs ts) (hread : Markup.read ds = .ok n)
    (hrest : ReadsAs n.rest us) :
    ∃ es, tags es = ts ∧ ReadsAs (cs ++ '<' :: ds) (es ++ n.event :: us) := by
  induction h with
  | @text lead hlead => exact ⟨_, tags_leadItems 0 lead, .behind hlead hread hrest⟩
  | @markup lead inside m ts hlead hm _ ih =>
    obtain ⟨es, hes, hreads⟩ := ih
    refine ⟨(leadItems 0 lead).map (·.event) ++ ([m.event] ++ es), ?_, ?_⟩
    · rw [tags_append, tags_leadItems, tags_append, hes, List.nil_append]
    · have hbehind := ReadsAs.behind (m := { m with rest := m.rest ++ '<' :: ds }) hlead
        (Markup.read_append hm ('<' :: ds)) hreads
      simpa using hbehind

end HasTags

/-! ## Names of elements -/

/-- The character can stand in the name of an element: it is no blank, quote or bracket, and no slash,
exclamation mark or question mark. -/
def isPlain (c : Char) : Bool :=
  !Text.isBlank c && !Text.endsOrQuotes c && !"</!?".toList.contains c

/-- A name in a tag that has nothing else in it. -/
def IsPlainName (name : List Char) : Prop := name ≠ [] ∧ name.all isPlain

instance (name : List Char) : Decidable (IsPlainName name) :=
  inferInstanceAs (Decidable (_ ∧ _))

namespace IsPlainName

variable {name : List Char}

theorem forall_mem (h : IsPlainName name) : ∀ c ∈ name, isPlain c := List.all_eq_true.mp h.2

theorem passes (h : IsPlainName name) : Text.Passes none name none := by
  refine .plain (List.all_eq_true.mpr fun c hc => ?_)
  have hplain := h.forall_mem c hc
  simp only [isPlain, Bool.and_eq_true] at hplain
  exact hplain.1.2

theorem all_not_isBlank (h : IsPlainName name) : name.all fun c => !Text.isBlank c := by
  refine List.all_eq_true.mpr fun c hc => ?_
  have hplain := h.forall_mem c hc
  simp only [isPlain, Bool.and_eq_true] at hplain
  exact hplain.1.1

theorem name_eq (h : IsPlainName name) : (Tag.mk name).name = name :=
  List.takeWhile_eq_self_iff.mpr (List.all_eq_true.mp h.all_not_isBlank)

theorem not_mem (h : IsPlainName name) {c : Char} (hc : isPlain c = false) : c ∉ name :=
  fun hmem => Bool.eq_false_iff.mp hc (h.forall_mem c hmem)

/-- The tag is that of an element with an end tag. -/
theorem opening_eq (h : IsPlainName name) : Markup.opening name = .startTag ⟨name⟩ := by
  refine if_neg fun hslash => ?_
  exact h.not_mem (by decide) (List.mem_of_getLast? hslash)

end IsPlainName

/-- A text in an element is read as its tags, with other events between them. -/
theorem exists_readsAs_element {name cs : List Char} {ts : List Event} (hname : IsPlainName name)
    (h : HasTags cs ts) : ∃ es, tags es = ts ∧
      ReadsAs ('<' :: (name ++ '>' :: (cs ++ '<' :: '/' :: (name ++ ['>']))))
        (.startTag ⟨name⟩ :: (es ++ [.endTag name])) := by
  have hslash : Text.Passes none ['/'] none := .plain rfl
  have hend : Text.Passes none ('/' :: name) none := hslash.append hname.passes
  obtain ⟨es, hes, hreads⟩ :=
    h.exists_readsAs (Markup.read_closing hend hname.all_not_isBlank []) .nil
  obtain ⟨c, rest, rfl⟩ := List.exists_cons_of_ne_nil hname.1
  have hfirst (c' : Char) (hc' : isPlain c' = false) : c ≠ c' := by
    rintro rfl
    exact hname.not_mem hc' List.mem_cons_self
  have hopening := ReadsAs.opening hname.passes
    ⟨hfirst '!' (by decide), hfirst '?' (by decide), hfirst '/' (by decide)⟩ hreads
  rw [hname.opening_eq] at hopening
  exact ⟨es, hes, hopening⟩

end Xml

namespace Report

open Xml

/-! ## Runs inside of elements -/

namespace Progress

/-- The same progress in a document with further elements open around it and records in front. -/
def within (outer : List (List Char)) (before : List TestRecord) (p : Progress) : Progress :=
  { p with openNames := p.openNames ++ outer, seenRoot := true, records := before ++ p.records }

variable {outer : List (List Char)} {before : List TestRecord} {p q : Progress} {e : Xml.Event}

theorem takeEvent_within_of_not_tag (houter : outer ≠ []) (h : e.isTag = false) :
    (p.within outer before).takeEvent e = .ok (p.within outer before) := by
  have hopen : (p.within outer before).openNames.isEmpty = false := by simp [within, houter]
  unfold takeEvent step
  cases e with
  | text body => simp [hopen]
  | cdata body => simp [hopen]
  | aside => rfl
  | _ => cases h

theorem openTag_within {tag : Tag} (h : p.openTag tag = .ok q) :
    (p.within outer before).openTag tag = .ok (q.within outer before) := by
  rcases ite_testcase_eq_ok_iff.mp h with ⟨hname, c, hc, rfl⟩ | ⟨hname, rfl⟩
  · exact ite_testcase_eq_ok_iff.mpr (.inl ⟨hname, c, hc, rfl⟩)
  · exact ite_testcase_eq_ok_iff.mpr (.inr ⟨hname, rfl⟩)

theorem emptyTag_within {tag : Tag} (h : p.emptyTag tag = .ok q) :
    (p.within outer before).emptyTag tag = .ok (q.within outer before) := by
  rcases ite_testcase_eq_ok_iff.mp h with ⟨hname, c, hc, rfl⟩ | ⟨hname, rfl⟩
  · exact ite_testcase_eq_ok_iff.mpr (.inl ⟨hname, c, hc, by simp only [within, List.append_assoc]⟩)
  · exact ite_testcase_eq_ok_iff.mpr (.inr ⟨hname, rfl⟩)

theorem closeTag_within {name : List Char} {offset : Nat} (h : p.closeTag name offset = .ok q) :
    (p.within outer before).closeTag name offset = .ok (q.within outer before) := by
  unfold closeTag at h
  split at h
  · cases h
  · next expected inner hnames =>
    obtain ⟨hname, h⟩ := ite_error_eq_ok_iff.mp h
    have hopen : (p.within outer before).openNames = expected :: (inner ++ outer) := by
      rw [within, hnames, List.cons_append]
    have hcurrent : (p.within outer before).current = p.current := rfl
    rw [closeTag, hopen, hcurrent]
    refine ite_error_eq_ok_iff.mpr ⟨hname, ?_⟩
    split at h
    · cases h
      simp only [within, List.append_assoc]
    · cases h
      simp only [within]

/-- What an event does it does inside of other elements as well. -/
theorem takeEvent_within (houter : outer ≠ []) (h : p.takeEvent e = .ok q) :
    (p.within outer before).takeEvent e = .ok (q.within outer before) := by
  have hplace : ¬ (p.within outer before).rootClosed := by simp [within, rootClosed, houter]
  rcases step_ok h with ⟨tag, rfl, -, hopen⟩ | ⟨tag, rfl, -, hempty⟩ | ⟨name, rfl, hclose⟩ | ⟨htag, rfl⟩
  · exact ite_error_eq_ok_iff.mpr ⟨hplace, openTag_within hopen⟩
  · exact ite_error_eq_ok_iff.mpr ⟨hplace, emptyTag_within hempty⟩
  · exact closeTag_within hclose
  · exact takeEvent_within_of_not_tag houter htag

/-- Inside of other elements events are read as their tags are read alone. -/
theorem run_within {es : List Xml.Event} (houter : outer ≠ [])
    (h : (tags es).foldlM takeEvent p = .ok q) :
    es.foldlM takeEvent (p.within outer before) = .ok (q.within outer before) := by
  induction es generalizing p with
  | nil =>
    cases h
    rfl
  | cons e es ih =>
    rw [foldlM_cons_ok_iff]
    rw [tags, List.filter_cons] at h
    split at h
    · obtain ⟨m, hstep, hrest⟩ := foldlM_cons_ok_iff.mp h
      exact ⟨_, takeEvent_within houter hstep, ih hrest⟩
    · next htag =>
      exact ⟨_, takeEvent_within_of_not_tag houter (Bool.eq_false_iff.mpr htag), ih h⟩

end Progress

/-! ## Reports inside of an element -/

/-- Behind a report no element and no test case is open. -/
theorem exists_tags_of_read {text : String} {records : List TestRecord}
    (h : read text = .ok records) : ∃ ts, HasTags text.toList ts ∧
      ts.foldlM Progress.takeEvent {} = .ok { seenRoot := true, records } := by
  obtain ⟨p, hrun, hfault, hfinish⟩ := ofEvents_eq_ok_iff.mp h
  obtain ⟨root, -, hroot⟩ := (exists_ofEvents_iff.mp ⟨records, h⟩).root
  have htracks := tracks_of_run hrun
  obtain ⟨hopen, hroots, rfl⟩ := htracks.finish_eq_ok_iff.mp hfinish
  have htags := run_tags (run_eq_ok_iff.mp hrun)
  have hcurrent : p.current = none := by
    rw [hroot] at htags
    simpa using (run_forest htags).1
  have hseen : p.seenRoot = true := by
    have hone := htracks.roots
    rw [hroots] at hone
    by_contra hunseen
    rw [if_neg hunseen] at hone
    cases hone
  have hend : p = { seenRoot := true, records := p.records } := by
    rw [Progress.mk.injEq]
    exact ⟨htracks.openNames.trans hopen, hseen, hcurrent, rfl⟩
  rw [hend] at htags
  rw [events_eq] at hfault htags
  exact ⟨_, (hasTags_of_events hfault).of_behindMark, htags⟩

/-- Reports that stand one behind the other in an element add the records of each. -/
theorem exists_tags_of_texts {texts : List String} {results : List (List TestRecord)}
    (h : List.Forall₂ (fun text records => read text = .ok records) texts results)
    {outer : List (List Char)} (houter : outer ≠ []) :
    ∃ ts, HasTags (texts.flatMap String.toList) ts ∧ ∀ before es, tags es = ts →
      es.foldlM Progress.takeEvent ⟨outer, true, none, before⟩ =
        .ok ⟨outer, true, none, before ++ results.flatten⟩ := by
  have hfresh (before : List TestRecord) :
      Progress.within outer before {} = ⟨outer, true, none, before⟩ := by simp [Progress.within]
  induction h with
  | nil =>
    refine ⟨[], .text List.not_mem_nil, fun before es hes => ?_⟩
    rw [List.flatten_nil, List.append_nil, ← hfresh]
    exact Progress.run_within houter (hes ▸ List.foldlM_nil)
  | @cons text records texts results htext _ ih =>
    obtain ⟨ts, htags, hrun⟩ := exists_tags_of_read htext
    obtain ⟨us, htags', hrun'⟩ := ih
    refine ⟨ts ++ us, htags.append htags', fun before es hes => ?_⟩
    obtain ⟨front, behind, rfl, rfl, hbehind⟩ := List.filter_eq_append_iff.mp hes
    have hfirst : front.foldlM Progress.takeEvent (Progress.within outer before {}) =
        .ok ⟨outer, true, none, before ++ records⟩ := Progress.run_within houter hrun
    have hrest := hrun' (before ++ records) behind hbehind
    rw [hfresh] at hfirst
    rw [List.append_assoc] at hrest
    exact foldlM_append_ok_iff.mpr ⟨_, hfirst, hrest⟩

/-- Reports that stand one behind the other in an element are a report, and its records are theirs, one
report behind the other. -/
theorem read_wrapped {name : String} (hname : IsPlainName name.toList)
    (hcase : name ≠ "testcase") {texts : List String} {results : List (List TestRecord)}
    (h : List.Forall₂ (fun text records => read text = .ok records) texts results) :
    read ("<" ++ name ++ ">" ++ String.join texts ++ "</" ++ name ++ ">") = .ok results.flatten := by
  obtain ⟨ts, htags, hrun⟩ := exists_tags_of_texts h (List.cons_ne_nil name.toList [])
  obtain ⟨es, hes, hreads⟩ := exists_readsAs_element hname htags
  have htext : ("<" ++ name ++ ">" ++ String.join texts ++ "</" ++ name ++ ">").toList =
      '<' :: (name.toList ++ '>' :: (texts.flatMap String.toList ++ '<' :: '/' ::
        (name.toList ++ ['>']))) := by
    simp
  have hother : name.toList ≠ "testcase".toList := mt String.toList_inj.mp hcase
  have hopen : Progress.takeEvent {} (.startTag ⟨name.toList⟩) =
      .ok ⟨[name.toList], true, none, []⟩ := by
    refine ite_testcase_eq_ok_iff.mpr (.inr ?_)
    rw [hname.name_eq]
    exact ⟨hother, rfl⟩
  have hclose : Progress.takeEvent ⟨[name.toList], true, none, results.flatten⟩ (.endTag name.toList) =
      .ok { seenRoot := true, records := results.flatten } := by
    refine ite_error_eq_ok_iff.mpr ⟨not_not.mpr rfl, ?_⟩
    rw [if_neg hother]
  refine read_of_readsAs htext hreads ?_ (p := { seenRoot := true, records := results.flatten }) rfl
  refine foldlM_cons_ok_iff.mpr ⟨_, hopen, foldlM_append_ok_iff.mpr ⟨_, hrun [] es hes, ?_⟩⟩
  exact foldlM_cons_ok_iff.mpr ⟨_, hclose, List.foldlM_nil⟩

/-- Two reports in an element give the records of both. -/
theorem read_wrapped_pair {name s t : String} {before behind : List TestRecord}
    (hname : IsPlainName name.toList) (hcase : name ≠ "testcase") (hs : read s = .ok before)
    (ht : read t = .ok behind) :
    read ("<" ++ name ++ ">" ++ s ++ t ++ "</" ++ name ++ ">") = .ok (before ++ behind) := by
  have hpair := read_wrapped hname hcase (.cons hs (.cons ht .nil))
  simpa [String.append_assoc] using hpair

/-- Two suites, the first with one test case and the second with three. -/
theorem read_wrapped_suites :
    IsPlainName "testsuites".toList ∧ read (write [outerCase]) = .ok [outerCase] ∧
      read (write specialRecords) = .ok specialRecords ∧
      read ("<" ++ "testsuites" ++ ">" ++ write [outerCase] ++ write specialRecords ++
        "</" ++ "testsuites" ++ ">") = .ok ([outerCase] ++ specialRecords) := by
  have hname : IsPlainName "testsuites".toList := by decide
  have hread (records : List TestRecord)
      (h : ∀ r ∈ records, r.duration.nanos ≤ maxCaseSeconds * nanosPerSecond) :
      read (write records) = .ok records := by
    have hreads := readsAs_write records
    rw [toList_write] at hreads
    exact read_of_readsAs (toList_write records) hreads (run_suite records h) rfl
  have hfirst := hread [outerCase] (by decide)
  have hsecond := hread specialRecords (by decide)
  exact ⟨hname, hfirst, hsecond, read_wrapped_pair hname (by decide) hfirst hsecond⟩

end Report

end SuiteSplit
