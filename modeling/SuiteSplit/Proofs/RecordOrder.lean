import SuiteSplit.Proofs.StandardReport

/-!
Which test cases of a report are recorded, and in which order.

The reader holds one open test case at a time and adds records when test cases are complete. So a
test case with an end tag is recorded where that tag stands, unless an element of a test case with
an end tag of its own was opened in it: that one has taken its place. Where no test case stands in
another, each is recorded, in the order of the start tags.
-/

namespace SuiteSplit.Report

open Xml

/-! ## Test cases of a document -/

/-- The tag, if it is that of a test case. -/
def ownCase (tag : Tag) : List Tag := if tag.name = "testcase".toList then [tag] else []

/-- The test cases among elements, at any depth, in the order of their start tags. -/
def casesOf : Forest → List Tag
  | .nil => []
  | .empty tag rest => ownCase tag ++ casesOf rest
  | .element tag inside rest => ownCase tag ++ casesOf inside ++ casesOf rest

/-- A test case with an end tag stands among the elements, at any depth. -/
def OpensCase : Forest → Prop
  | .nil => False
  | .empty _ rest => OpensCase rest
  | .element tag inside rest =>
    tag.name = "testcase".toList ∨ OpensCase inside ∨ OpensCase rest

instance decidableOpensCase : (f : Forest) → Decidable (OpensCase f)
  | .nil => inferInstanceAs (Decidable False)
  | .empty _ rest => decidableOpensCase rest
  | .element _ inside rest =>
    have := decidableOpensCase inside
    have := decidableOpensCase rest
    inferInstanceAs (Decidable (_ ∨ _ ∨ _))

/-- The test cases that are recorded, in the order in which they are complete. -/
def recordedOf : Forest → List Tag
  | .nil => []
  | .empty tag rest => ownCase tag ++ recordedOf rest
  | .element tag inside rest =>
    recordedOf inside ++ (if OpensCase inside then [] else ownCase tag) ++ recordedOf rest

/-- No test case stands in another. -/
def Apart : Forest → Prop
  | .nil => True
  | .empty _ rest => Apart rest
  | .element tag inside rest =>
    (tag.name = "testcase".toList → casesOf inside = []) ∧ Apart inside ∧ Apart rest

theorem ownCase_of_eq {tag : Tag} (h : tag.name = "testcase".toList) : ownCase tag = [tag] := if_pos h

theorem ownCase_of_ne {tag : Tag} (h : tag.name ≠ "testcase".toList) : ownCase tag = [] := if_neg h

theorem not_opensCase {f : Forest} (h : casesOf f = []) : ¬ OpensCase f := by
  induction f with
  | nil => exact not_false
  | empty tag rest ih => exact ih (List.append_eq_nil_iff.mp h).2
  | element tag inside rest ihinside ihrest =>
    obtain ⟨hfront, hrest⟩ := List.append_eq_nil_iff.mp h
    obtain ⟨hown, hinside⟩ := List.append_eq_nil_iff.mp hfront
    rintro (hname | hopens | hopens)
    · rw [ownCase_of_eq hname] at hown
      cases hown
    · exact ihinside hinside hopens
    · exact ihrest hrest hopens

/-- Where test cases stand apart, each is recorded, in the order of the start tags. -/
theorem recordedOf_eq_casesOf {f : Forest} (h : Apart f) : recordedOf f = casesOf f := by
  induction f with
  | nil => rfl
  | empty tag rest ih => rw [recordedOf, casesOf, ih h]
  | element tag inside rest ihinside ihrest =>
    obtain ⟨halone, hinside, hrest⟩ := h
    rw [recordedOf, casesOf, ihinside hinside, ihrest hrest]
    by_cases hname : tag.name = "testcase".toList
    · have hnone := halone hname
      rw [hnone, if_neg (not_opensCase hnone), List.nil_append, List.append_nil]
    · rw [ownCase_of_ne hname, ite_self, List.append_nil, List.nil_append]

/-! ## What is stored of an open test case -/

/-- What a test case takes from its own tag; the elements in it change nothing of that. -/
def OpenCase.origin (c : OpenCase) : String × String × Duration := (c.classname, c.name, c.duration)

@[simp] theorem OpenCase.origin_mark (c : OpenCase) (name : List Char) :
    (c.mark name).origin = c.origin := by
  unfold OpenCase.mark
  split_ifs <;> rfl

/-- A record carries what the tag says. -/
def Records (tag : Tag) (r : TestRecord) : Prop := Describes tag r.classname r.name r.duration

section

variable {p q : Progress} {tag : Tag} {name : List Char} {offset : Nat}

theorem openTag_stores (h : p.openTag tag = .ok q) : q.records = p.records ∧
    (tag.name = "testcase".toList → ∃ c, q.current = some c ∧ Describes tag c.classname c.name c.duration) ∧
    (tag.name ≠ "testcase".toList → q.current.map (·.origin) = p.current.map (·.origin)) := by
  rcases ite_testcase_eq_ok_iff.mp h with ⟨hname, c, hc, rfl⟩ | ⟨hname, rfl⟩
  · exact ⟨rfl, fun _ => ⟨c, rfl, (describes_of_ofTag hc).1⟩, absurd hname⟩
  · exact ⟨rfl, (absurd · hname), fun _ => by simp [Function.comp_def]⟩

theorem emptyTag_stores (h : p.emptyTag tag = .ok q) :
    q.current.map (·.origin) = p.current.map (·.origin) ∧
      ∃ added, q.records = p.records ++ added ∧ List.Forall₂ Records (ownCase tag) added := by
  rcases ite_testcase_eq_ok_iff.mp h with ⟨hname, c, hc, rfl⟩ | ⟨hname, rfl⟩
  · rw [ownCase_of_eq hname]
    exact ⟨rfl, [c.toRecord], rfl, .cons (describes_of_ofTag hc).1 .nil⟩
  · rw [ownCase_of_ne hname]
    exact ⟨by simp [Function.comp_def], [], by simp, .nil⟩

theorem closeTag_stores (h : p.closeTag name offset = .ok q) :
    (name = "testcase".toList → q.current = none ∧
      q.records = p.records ++ p.current.toList.map OpenCase.toRecord) ∧
    (name ≠ "testcase".toList → q.current = p.current ∧ q.records = p.records) := by
  unfold Progress.closeTag at h
  split at h
  · cases h
  · split at h
    · cases h
    · by_cases hname : name = "testcase".toList
      · rw [if_pos hname] at h
        refine ⟨fun _ => ?_, absurd hname⟩
        cases hcurrent : p.current <;> rw [hcurrent] at h <;> cases h <;> simp
      · rw [if_neg hname] at h
        cases h
        exact ⟨(absurd · hname), fun _ => ⟨rfl, rfl⟩⟩

end

/-- At its end tag a test case is recorded, unless another was opened in it. -/
theorem records_own {current : Option OpenCase} {tag : Tag} {c : OpenCase} {inside : Forest}
    (hname : tag.name = "testcase".toList) (hc : Describes tag c.classname c.name c.duration)
    (hcurrent : current.map (·.origin) = if OpensCase inside then none else some c.origin) :
    List.Forall₂ Records (if OpensCase inside then [] else ownCase tag)
      (current.toList.map OpenCase.toRecord) := by
  by_cases hopens : OpensCase inside
  · rw [if_pos hopens, Option.map_eq_none_iff] at hcurrent
    rw [hcurrent, if_pos hopens]
    exact .nil
  · rw [if_neg hopens, Option.map_eq_some_iff] at hcurrent
    obtain ⟨c', rfl, horigin⟩ := hcurrent
    obtain ⟨hclass, hname', hduration⟩ : c'.classname = c.classname ∧ c'.name = c.name ∧
        c'.duration = c.duration := by simpa [OpenCase.origin] using horigin
    rw [if_neg hopens, ownCase_of_eq hname]
    refine .cons ?_ .nil
    rw [← hclass, ← hname', ← hduration] at hc
    exact hc

/-! ## Runs over elements -/

section

variable {p q m : Progress} {tag : Tag} {inside : Forest} {added : List TestRecord} {offset : Nat}

/-- Behind the end tag of a test case none is open, and its own record stands last. -/
theorem stores_of_case (hname : tag.name = "testcase".toList) {start : Progress}
    (hstart : p.openTag tag = .ok start)
    (hcurrent : m.current.map (·.origin) =
      if OpensCase inside then none else start.current.map (·.origin))
    (hrecords : m.records = start.records ++ added) (hend : m.closeTag tag.name offset = .ok q) :
    q.current = none ∧ ∃ own, q.records = p.records ++ (added ++ own) ∧
      List.Forall₂ Records (if OpensCase inside then [] else ownCase tag) own := by
  obtain ⟨hsame, hcase, -⟩ := openTag_stores hstart
  obtain ⟨c, hc, hdescribes⟩ := hcase hname
  obtain ⟨hnone, hadded⟩ := (closeTag_stores hend).1 hname
  rw [hc] at hcurrent
  refine ⟨hnone, m.current.toList.map OpenCase.toRecord, ?_, records_own hname hdescribes hcurrent⟩
  rw [hadded, hrecords, hsame, List.append_assoc]

/-- Any other element keeps what its content has stored. -/
theorem stores_of_other (hname : tag.name ≠ "testcase".toList) {start : Progress}
    (hstart : p.openTag tag = .ok start)
    (hcurrent : m.current.map (·.origin) =
      if OpensCase inside then none else start.current.map (·.origin))
    (hrecords : m.records = start.records ++ added) (hend : m.closeTag tag.name offset = .ok q) :
    (q.current.map (·.origin) = if OpensCase inside then none else p.current.map (·.origin)) ∧
      q.records = p.records ++ added := by
  obtain ⟨hsame, -, hother⟩ := openTag_stores hstart
  obtain ⟨hkept, hrecords'⟩ := (closeTag_stores hend).2 hname
  rw [hother hname] at hcurrent
  rw [hsame] at hrecords
  exact ⟨(congrArg _ hkept).trans hcurrent, hrecords'.trans hrecords⟩

/-- An empty element is read by its tag. -/
theorem of_run_empty {rest : Forest}
    (hrun : (Forest.empty tag rest).events.foldlM Progress.takeEvent p = .ok q) :
    ∃ m, p.emptyTag tag = .ok m ∧ rest.events.foldlM Progress.takeEvent m = .ok q := by
  obtain ⟨m, hstep, hrest⟩ := foldlM_cons_ok_iff.mp hrun
  exact ⟨m, (ite_error_eq_ok_iff.mp hstep).2, hrest⟩

/-- Another element is read by its start tag, what stands in it, and its end tag. -/
theorem of_run_element {rest : Forest}
    (hrun : (Forest.element tag inside rest).events.foldlM Progress.takeEvent p = .ok q) :
    ∃ start m behind, p.openTag tag = .ok start ∧
      inside.events.foldlM Progress.takeEvent start = .ok m ∧
      m.closeTag tag.name 0 = .ok behind ∧ rest.events.foldlM Progress.takeEvent behind = .ok q := by
  obtain ⟨start, hstart, hrun⟩ := foldlM_cons_ok_iff.mp hrun
  obtain ⟨m, hinside, hrun⟩ := foldlM_append_ok_iff.mp hrun
  obtain ⟨behind, hend, hrest⟩ := foldlM_cons_ok_iff.mp hrun
  exact ⟨start, m, behind, (ite_error_eq_ok_iff.mp hstart).2, hinside, hend, hrest⟩

end

/-- Reading elements adds the records of those that are complete, and leaves the open test case open
unless another was opened in it. -/
theorem run_forest {f : Forest} {p q : Progress}
    (hrun : f.events.foldlM Progress.takeEvent p = .ok q) :
    (q.current.map (·.origin) = if OpensCase f then none else p.current.map (·.origin)) ∧
      ∃ added, q.records = p.records ++ added ∧ List.Forall₂ Records (recordedOf f) added := by
  induction f generalizing p q with
  | nil =>
    cases hrun
    exact ⟨rfl, [], by simp, .nil⟩
  | empty tag rest ih =>
    obtain ⟨m, hempty, hrest⟩ := of_run_empty hrun
    obtain ⟨hcurrent, added, hrecords, hadded⟩ := emptyTag_stores hempty
    obtain ⟨hcurrent', added', hrecords', hadded'⟩ := ih hrest
    rw [hcurrent] at hcurrent'
    refine ⟨hcurrent', added ++ added', ?_, ?_⟩
    · rw [hrecords', hrecords, List.append_assoc]
    · exact List.rel_append hadded hadded'
  | element tag inside rest ihinside ihrest =>
    obtain ⟨start, m, behind, hstart, hinside, hend, hrest⟩ := of_run_element hrun
    obtain ⟨hcurrentInside, added, hrecordsInside, hadded⟩ := ihinside hinside
    obtain ⟨hcurrent, added', hrecords, hadded'⟩ := ihrest hrest
    by_cases hname : tag.name = "testcase".toList
    · obtain ⟨hnone, own, hown, howned⟩ :=
        stores_of_case hname hstart hcurrentInside hrecordsInside hend
      rw [hnone, Option.map_none, ite_self] at hcurrent
      refine ⟨hcurrent.trans (if_pos (.inl hname)).symm, added ++ own ++ added', ?_, ?_⟩
      · rw [hrecords, hown, List.append_assoc]
      · exact List.rel_append (List.rel_append hadded howned) hadded'
    · obtain ⟨hkept, hsame⟩ := stores_of_other hname hstart hcurrentInside hrecordsInside hend
      rw [hkept] at hcurrent
      have hsplit : OpensCase (.element tag inside rest) ↔ OpensCase inside ∨ OpensCase rest :=
        or_iff_right hname
      refine ⟨hcurrent.trans ?_, added ++ added', ?_, ?_⟩
      · by_cases hrest : OpensCase rest <;> by_cases hopens : OpensCase inside <;>
          simp [hsplit, hrest, hopens]
      · rw [hrecords, hsame, List.append_assoc]
      · rw [recordedOf, ownCase_of_ne hname, ite_self, List.append_nil]
        exact List.rel_append hadded hadded'

/-- Only tags change what is stored. -/
theorem run_tags {es : List Xml.Event} {p q : Progress} (hrun : es.foldlM Progress.takeEvent p = .ok q) :
    (tags es).foldlM Progress.takeEvent p = .ok q := by
  induction es generalizing p with
  | nil => exact hrun
  | cons e es ih =>
    obtain ⟨m, hstep, hrest⟩ := foldlM_cons_ok_iff.mp hrun
    rw [tags, List.filter_cons]
    split
    · exact foldlM_cons_ok_iff.mpr ⟨m, hstep, ih hrest⟩
    · next htag =>
      cases step_of_not_tag (Bool.eq_false_iff.mpr htag) hstep
      exact ih hrest

/-- The records of a report are those of the test cases that are complete, in that order, whatever
forest of elements its tags are read as. Where no test case stands in another, these are all test
cases, in the order of their start tags. -/
theorem read_records_complete_cases {text : String} {records : List TestRecord}
    (h : read text = .ok records) :
    (∃ root : Forest, root.roots = 1 ∧
      tags ((Xml.events text.toList).items.map (·.event)) = root.events) ∧
    ∀ root : Forest, tags ((Xml.events text.toList).items.map (·.event)) = root.events →
      List.Forall₂ Records (recordedOf root) records ∧
      (Apart root → List.Forall₂ Records (casesOf root) records) := by
  refine ⟨(exists_ofEvents_iff.mp ⟨records, h⟩).root, ?_⟩
  intro root hroot
  obtain ⟨p, hrun, -, hfinish⟩ := ofEvents_eq_ok_iff.mp h
  obtain ⟨-, -, rfl⟩ := (tracks_of_run hrun).finish_eq_ok_iff.mp hfinish
  have htags := run_tags (run_eq_ok_iff.mp hrun)
  rw [hroot] at htags
  obtain ⟨-, added, hrecords, hadded⟩ := run_forest htags
  have hall : List.Forall₂ Records (recordedOf root) p.records := by
    rw [hrecords]
    exact hadded
  exact ⟨hall, fun hapart => recordedOf_eq_casesOf hapart ▸ hall⟩

/-! ## A test case in a test case -/

def outerCase : TestRecord := ⟨"A", "x", .zero, .successful⟩

def innerCase : TestRecord := ⟨"B", "y", .zero, .successful⟩

/-- A report with a test case in the content of another. -/
def nestedReport : String :=
  "<a><testcase classname=\"A\" name=\"x\" time=\"0.000000000\">" ++
    "<testcase classname=\"B\" name=\"y\" time=\"0.000000000\"></testcase></testcase></a>"

def nestedRoot : Forest :=
  .element ⟨"a".toList⟩ (.element (caseTag outerCase) (.element (caseTag innerCase) .nil .nil) .nil) .nil

theorem nestedRoot_events : nestedRoot.events =
    [.startTag ⟨"a".toList⟩, .startTag (caseTag outerCase), .startTag (caseTag innerCase),
      .endTag "testcase".toList, .endTag "testcase".toList, .endTag "a".toList] := by
  simp only [nestedRoot, Forest.events, caseTag_name]
  rfl

theorem toList_nestedReport : nestedReport.toList = '<' :: ("a".toList ++ '>' :: '<' ::
    ((caseTag outerCase).content ++ '>' :: (writeCase innerCase ++
      '<' :: ("/testcase".toList ++ '>' :: '<' :: ("/a".toList ++ '>' :: []))))) := by
  decide +kernel

theorem readsAs_nestedReport : ReadsAs nestedReport.toList nestedRoot.events := by
  have ha : Text.Passes none "a".toList none := .plain rfl
  have hendCase : Text.Passes none "/testcase".toList none := .plain rfl
  have hend : Text.Passes none "/a".toList none := .plain rfl
  have hclosing := ReadsAs.closing hendCase rfl (.closing hend rfl .nil)
  have hcontent := readsAs_writeCase innerCase hclosing
  have houter := ReadsAs.opening (passes_caseTag outerCase) (by decide) hcontent
  rw [toList_nestedReport, nestedRoot_events, ← opening_caseTag outerCase]
  exact ReadsAs.opening ha (by decide) houter

/-- At the end tag of the outer test case none is open any more. -/
theorem run_nestedRoot : nestedRoot.events.foldlM Progress.takeEvent {} =
    .ok { seenRoot := true, records := [innerCase] } := by
  have houter := takeEvent_startCase (r := outerCase) (p := ⟨["a".toList], true, none, []⟩)
    Bool.false_ne_true (by decide)
  have hinner := takeEvent_startCase (r := innerCase)
    (p := ⟨["testcase".toList, "a".toList], true, some (opened outerCase), []⟩)
    Bool.false_ne_true (by decide)
  rw [nestedRoot_events]
  refine foldlM_cons_ok_iff.mpr ⟨_, rfl, foldlM_cons_ok_iff.mpr ⟨_, houter, ?_⟩⟩
  refine foldlM_cons_ok_iff.mpr ⟨_, hinner, foldlM_cons_ok_iff.mpr ⟨_, rfl, ?_⟩⟩
  exact foldlM_cons_ok_iff.mpr ⟨_, rfl, foldlM_cons_ok_iff.mpr ⟨_, rfl, List.foldlM_nil⟩⟩

theorem read_nestedReport : read nestedReport = .ok [innerCase] :=
  read_of_readsAs toList_nestedReport (toList_nestedReport ▸ readsAs_nestedReport) run_nestedRoot rfl

theorem casesOf_nestedRoot : casesOf nestedRoot = [caseTag outerCase, caseTag innerCase] := by
  have hroot : ownCase ⟨"a".toList⟩ = [] := ownCase_of_ne (by decide)
  simp only [nestedRoot, casesOf, hroot, ownCase_of_eq (caseTag_name _), List.nil_append,
    List.append_nil, List.singleton_append]

theorem tags_nestedReport :
    tags ((Xml.events nestedReport.toList).items.map (·.event)) = nestedRoot.events := by
  rw [(events_of_readsAs toList_nestedReport (toList_nestedReport ▸ readsAs_nestedReport)).2,
    nestedRoot_events]
  rfl

/-- The outer test case has no record: the inner one took its place. -/
theorem nested_case_lost : ∃ records root, read nestedReport = .ok records ∧
    tags ((Xml.events nestedReport.toList).items.map (·.event)) = root.events ∧
    ¬ List.Forall₂ Records (casesOf root) records := by
  refine ⟨[innerCase], nestedRoot, read_nestedReport, tags_nestedReport, ?_⟩
  intro hall
  have hlength := hall.length_eq
  rw [casesOf_nestedRoot] at hlength
  cases hlength

theorem nested_case_recorded : read nestedReport = .ok [innerCase] ∧
    List.Forall₂ Records (recordedOf nestedRoot) [innerCase] :=
  ⟨read_nestedReport, ((read_records_complete_cases read_nestedReport).2 nestedRoot tags_nestedReport).1⟩

end SuiteSplit.Report
