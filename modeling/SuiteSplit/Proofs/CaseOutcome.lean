import SuiteSplit.Proofs.RecordOrder

/-!
What decides how a test ended.

The reader marks the open test case at the tag of every element that stands in it, however deep. So the
outcome of a record is told by the names of all elements in its test case. Where a failure, an error or
a skip stands as a child of its test case only, this is what the children tell.
-/

namespace SuiteSplit.Report

open Xml

/-! ## Names of elements -/

/-- The names of the elements that stand in no other. -/
def childNames : Forest → List (List Char)
  | .nil => []
  | .empty tag rest => tag.name :: childNames rest
  | .element tag _ rest => tag.name :: childNames rest

/-- The names of the elements at any depth, in the order of the start tags. -/
def allNames : Forest → List (List Char)
  | .nil => []
  | .empty tag rest => tag.name :: allNames rest
  | .element tag inside rest => tag.name :: (allNames inside ++ allNames rest)

/-- The names of the elements that stand in others. -/
def deepNames : Forest → List (List Char)
  | .nil => []
  | .empty _ rest => deepNames rest
  | .element _ inside rest => allNames inside ++ deepNames rest

theorem mem_allNames {f : Forest} {name : List Char} :
    name ∈ allNames f ↔ name ∈ childNames f ∨ name ∈ deepNames f := by
  induction f with
  | nil => simp [allNames, childNames, deepNames]
  | empty tag rest ih => simp [allNames, childNames, deepNames, ih, or_assoc]
  | element tag inside rest _ ih =>
    simp only [allNames, childNames, deepNames, List.mem_cons, List.mem_append, ih]
    tauto

/-- The names by which an element tells how a test ended. -/
def failureNames : List (List Char) := ["failure".toList, "error".toList]

def skipName : List Char := "skipped".toList

theorem mem_failureNames {name : List Char} :
    name ∈ failureNames ↔ name = "failure".toList ∨ name = "error".toList := by
  simp only [failureNames, List.mem_cons, List.not_mem_nil, or_false]

/-- How a test ended that has elements of the given names in it. -/
def outcomeOf (names : List (List Char)) : Outcome :=
  if failureNames.any names.contains then .failed
  else if names.contains skipName then .skipped
  else .successful

/-- No element that stands in another one of these tells how a test ended. -/
def IsShallow (f : Forest) : Prop := ∀ name ∈ skipName :: failureNames, name ∉ deepNames f

instance (f : Forest) : Decidable (IsShallow f) := inferInstanceAs (Decidable (∀ name ∈ _, _))

theorem outcomeOf_congr {names names' : List (List Char)}
    (h : ∀ name ∈ skipName :: failureNames, name ∈ names ↔ name ∈ names') :
    outcomeOf names = outcomeOf names' := by
  rw [List.forall_mem_cons] at h
  have hfailure : (∃ name ∈ failureNames, name ∈ names) ↔ ∃ name ∈ failureNames, name ∈ names' :=
    exists_congr fun name => and_congr_right fun hname => h.2 name hname
  simp only [outcomeOf, List.any_eq_true, List.contains_iff_mem, hfailure, h.1]

theorem outcomeOf_allNames {f : Forest} (h : IsShallow f) :
    outcomeOf (allNames f) = outcomeOf (childNames f) := by
  refine outcomeOf_congr fun name hname => ?_
  rw [mem_allNames, or_iff_left (h name hname)]

/-! ## Marks -/

namespace OpenCase

theorem failed_mark (c : OpenCase) (name : List Char) :
    (c.mark name).failed = (c.failed || decide (name ∈ failureNames)) := by
  by_cases hfailure : name ∈ failureNames
  · rw [mark, if_pos (mem_failureNames.mp hfailure), decide_eq_true hfailure, Bool.or_true]
  · rw [mark, if_neg (mt mem_failureNames.mpr hfailure), decide_eq_false hfailure, Bool.or_false]
    split <;> rfl

theorem skipped_mark (c : OpenCase) (name : List Char) :
    (c.mark name).skipped = (c.skipped || decide (name = skipName)) := by
  by_cases hskip : name = skipName
  · subst hskip
    rw [decide_eq_true rfl, Bool.or_true]
    rfl
  · rw [decide_eq_false hskip, Bool.or_false, mark]
    split
    · rfl
    · exact congrArg skipped (if_neg hskip)

theorem mark_testcase (c : OpenCase) : c.mark "testcase".toList = c := rfl

theorem failed_foldl_mark (c : OpenCase) (names : List (List Char)) :
    (names.foldl mark c).failed = (c.failed || decide (∃ name ∈ failureNames, name ∈ names)) := by
  induction names generalizing c with
  | nil => simp
  | cons name names ih =>
    rw [List.foldl_cons, ih, failed_mark, Bool.or_assoc, ← Bool.decide_or]
    congr 2
    simp only [List.mem_cons, and_or_left, exists_or, exists_eq_right]

theorem skipped_foldl_mark (c : OpenCase) (names : List (List Char)) :
    (names.foldl mark c).skipped = (c.skipped || decide (skipName ∈ names)) := by
  induction names generalizing c with
  | nil => simp
  | cons name names ih =>
    rw [List.foldl_cons, ih, skipped_mark, Bool.or_assoc, ← Bool.decide_or]
    congr 2
    simp only [List.mem_cons, eq_comm]

/-- A test case without marks ends as the names of the elements in it tell. -/
theorem outcome_foldl_mark {c : OpenCase} (hfailed : c.failed = false) (hskipped : c.skipped = false)
    (names : List (List Char)) : (names.foldl mark c).outcome = outcomeOf names := by
  rw [outcome, failed_foldl_mark, skipped_foldl_mark, hfailed, hskipped, outcomeOf]
  simp

theorem unmarked_of_ofTag {tag : Tag} {c : OpenCase} (h : ofTag tag = .ok c) :
    c.failed = false ∧ c.skipped = false := by
  unfold ofTag at h
  split at h
  · cases h
  · split at h
    · cases h
    · cases h
    · cases h
      exact ⟨rfl, rfl⟩

end OpenCase

/-! ## Runs over elements -/

/-- A test case of a document: its tag, and the elements in it. -/
structure Case where
  tag : Tag
  inside : Forest
deriving Repr

/-- The test case of an element, if it is one. -/
def ofElement (tag : Tag) (inside : Forest) : List Case :=
  if tag.name = "testcase".toList then [⟨tag, inside⟩] else []

/-- The test cases that are recorded, in the order in which they are complete. -/
def recordedCases : Forest → List Case
  | .nil => []
  | .empty tag rest => ofElement tag .nil ++ recordedCases rest
  | .element tag inside rest =>
    recordedCases inside ++ (if OpensCase inside then [] else ofElement tag inside) ++
      recordedCases rest

theorem map_tag_ofElement (tag : Tag) (inside : Forest) :
    (ofElement tag inside).map (·.tag) = ownCase tag := by
  unfold ofElement ownCase
  split <;> rfl

theorem map_tag_recordedCases (f : Forest) : (recordedCases f).map (·.tag) = recordedOf f := by
  induction f with
  | nil => rfl
  | empty tag rest ih => rw [recordedCases, recordedOf, List.map_append, map_tag_ofElement, ih]
  | element tag inside rest ihinside ihrest =>
    rw [recordedCases, recordedOf, List.map_append, List.map_append, ihinside, ihrest]
    split
    · rfl
    · rw [map_tag_ofElement]

/-- How the test cases ended by what stands in them. -/
def outcomes (cases : List Case) : List Outcome := cases.map fun c => outcomeOf (allNames c.inside)

section

variable {p q m : Progress} {tag : Tag} {inside : Forest} {offset : Nat}

theorem openTag_current (h : p.openTag tag = .ok q) :
    (tag.name = "testcase".toList → ∃ c, q.current = some c ∧ c.failed = false ∧ c.skipped = false) ∧
    (tag.name ≠ "testcase".toList → q.current = p.current.map (·.mark tag.name)) := by
  rcases ite_testcase_eq_ok_iff.mp h with ⟨hname, c, hc, rfl⟩ | ⟨hname, rfl⟩
  · exact ⟨fun _ => ⟨c, rfl, OpenCase.unmarked_of_ofTag hc⟩, absurd hname⟩
  · exact ⟨(absurd · hname), fun _ => rfl⟩

theorem emptyTag_outcome (h : p.emptyTag tag = .ok q) :
    q.current = p.current.map (·.mark tag.name) ∧ ∃ added, q.records = p.records ++ added ∧
      added.map (·.outcome) = outcomes (ofElement tag .nil) := by
  rcases ite_testcase_eq_ok_iff.mp h with ⟨hname, c, hc, rfl⟩ | ⟨hname, rfl⟩
  · obtain ⟨hfailed, hskipped⟩ := OpenCase.unmarked_of_ofTag hc
    refine ⟨?_, [c.toRecord], rfl, ?_⟩
    · simp only [hname, OpenCase.mark_testcase, Option.map_id']
    · rw [ofElement, if_pos hname]
      exact congrArg ([·]) (OpenCase.outcome_foldl_mark hfailed hskipped [])
  · rw [ofElement, if_neg hname]
    exact ⟨rfl, [], (List.append_nil _).symm, rfl⟩

/-- At its end tag a test case has been marked by all elements in it. -/
theorem outcome_own {c : OpenCase} (hname : tag.name = "testcase".toList)
    (hfailed : c.failed = false) (hskipped : c.skipped = false)
    (hcurrent : m.current =
      if OpensCase inside then none else some ((allNames inside).foldl OpenCase.mark c)) :
    (m.current.toList.map OpenCase.toRecord).map (·.outcome) =
      outcomes (if OpensCase inside then [] else ofElement tag inside) := by
  rw [hcurrent, ofElement, if_pos hname]
  split
  · rfl
  · exact congrArg ([·]) (OpenCase.outcome_foldl_mark hfailed hskipped _)

end

/-- Reading elements marks the test case that is open in front of them by all of their names, unless
another was opened in it, and adds records that end as the elements in their test cases tell. -/
theorem run_forest_outcomes {f : Forest} {p q : Progress}
    (hrun : f.events.foldlM Progress.takeEvent p = .ok q) :
    (q.current =
      if OpensCase f then none else p.current.map fun c => (allNames f).foldl OpenCase.mark c) ∧
      ∃ added, q.records = p.records ++ added ∧
        added.map (·.outcome) = outcomes (recordedCases f) := by
  induction f generalizing p q with
  | nil =>
    cases hrun
    refine ⟨?_, [], (List.append_nil _).symm, rfl⟩
    simp only [OpensCase, allNames, List.foldl_nil, Option.map_id', if_false]
  | empty tag rest ih =>
    obtain ⟨m, hempty, hrest⟩ := of_run_empty hrun
    obtain ⟨hcurrent, added, hrecords, hadded⟩ := emptyTag_outcome hempty
    obtain ⟨hcurrent', added', hrecords', hadded'⟩ := ih hrest
    rw [hcurrent, Option.map_map] at hcurrent'
    refine ⟨hcurrent', added ++ added', ?_, ?_⟩
    · rw [hrecords', hrecords, List.append_assoc]
    · rw [List.map_append, hadded, hadded', recordedCases, outcomes, outcomes, outcomes,
        List.map_append]
  | element tag inside rest ihinside ihrest =>
    obtain ⟨start, m, behind, hstart, hinside, hend, hrest⟩ := of_run_element hrun
    obtain ⟨hcase, hother⟩ := openTag_current hstart
    have hsame := (openTag_stores hstart).1
    obtain ⟨hcurrentInside, added, hrecordsInside, hadded⟩ := ihinside hinside
    obtain ⟨hcurrent, added', hrecords, hadded'⟩ := ihrest hrest
    by_cases hname : tag.name = "testcase".toList
    · obtain ⟨c, hc, hfailed, hskipped⟩ := hcase hname
      obtain ⟨hnone, hown⟩ := (closeTag_stores hend).1 hname
      rw [hc, Option.map_some] at hcurrentInside
      rw [hnone, Option.map_none, ite_self] at hcurrent
      refine ⟨hcurrent.trans (if_pos (.inl hname)).symm,
        added ++ m.current.toList.map OpenCase.toRecord ++ added', ?_, ?_⟩
      · simp only [hrecords, hown, hrecordsInside, hsame, List.append_assoc]
      · have howned := outcome_own hname hfailed hskipped hcurrentInside
        rw [List.map_append, List.map_append, hadded, howned, hadded', recordedCases]
        simp only [outcomes, List.map_append]
    · obtain ⟨hkept, hnone⟩ := (closeTag_stores hend).2 hname
      have hsplit : OpensCase (.element tag inside rest) ↔ OpensCase inside ∨ OpensCase rest :=
        or_iff_right hname
      rw [hkept, hcurrentInside, hother hname] at hcurrent
      refine ⟨hcurrent.trans ?_, added ++ added', ?_, ?_⟩
      · by_cases hrest : OpensCase rest <;> by_cases hopens : OpensCase inside <;>
          simp [hsplit, hrest, hopens, allNames, Function.comp_def]
      · simp only [hrecords, hnone, hrecordsInside, hsame, List.append_assoc]
      · rw [List.map_append, hadded, hadded', recordedCases, ofElement, if_neg hname, ite_self,
          List.append_nil]
        simp only [outcomes, List.map_append]

/-- The record of a test case carries what its tag says, and ends as the elements at any depth in it
tell. -/
structure IsRecordOf (c : Case) (r : TestRecord) : Prop where
  records : Records c.tag r
  outcome_eq : r.outcome = outcomeOf (allNames c.inside)

theorem IsRecordOf.outcome_eq_of_shallow {c : Case} {r : TestRecord} (h : IsRecordOf c r)
    (hshallow : IsShallow c.inside) : r.outcome = outcomeOf (childNames c.inside) :=
  h.outcome_eq.trans (outcomeOf_allNames hshallow)

theorem forall₂_isRecordOf {f : Forest} {records : List TestRecord}
    (hrecords : List.Forall₂ Records (recordedOf f) records)
    (houtcomes : records.map (·.outcome) = outcomes (recordedCases f)) :
    List.Forall₂ IsRecordOf (recordedCases f) records := by
  rw [← map_tag_recordedCases, List.forall₂_map_left_iff] at hrecords
  have hends : List.Forall₂ (· = ·) (outcomes (recordedCases f)) (records.map (·.outcome)) := by
    rw [List.forall₂_eq_eq_eq, houtcomes]
  rw [outcomes, List.forall₂_map_left_iff, List.forall₂_map_right_iff] at hends
  exact List.Forall₂.mp (fun _ _ hrecord hend => ⟨hrecord, hend.symm⟩) hrecords hends

/-- A record of a report ends as the elements at any depth in its test case tell, whatever forest of
elements the tags of the report are read as. Where failures, errors and skips are children of their test
cases, the children decide. -/
theorem read_outcomes_by_elements {text : String} {records : List TestRecord}
    (h : read text = .ok records) :
    (∃ root : Forest, root.roots = 1 ∧
      tags ((Xml.events text.toList).items.map (·.event)) = root.events) ∧
    ∀ root : Forest, tags ((Xml.events text.toList).items.map (·.event)) = root.events →
      List.Forall₂ IsRecordOf (recordedCases root) records ∧
      List.Forall₂ (fun c r => IsShallow c.inside → r.outcome = outcomeOf (childNames c.inside))
        (recordedCases root) records := by
  refine ⟨(exists_ofEvents_iff.mp ⟨records, h⟩).root, ?_⟩
  intro root hroot
  obtain ⟨p, hrun, -, hfinish⟩ := ofEvents_eq_ok_iff.mp h
  obtain ⟨-, -, rfl⟩ := (tracks_of_run hrun).finish_eq_ok_iff.mp hfinish
  have htags := run_tags (run_eq_ok_iff.mp hrun)
  rw [hroot] at htags
  obtain ⟨-, added, hrecords, hadded⟩ := run_forest htags
  obtain ⟨-, added', hrecords', houtcomes⟩ := run_forest_outcomes htags
  obtain rfl : added = added' := List.append_cancel_left (hrecords.symm.trans hrecords')
  have hall : List.Forall₂ IsRecordOf (recordedCases root) p.records := by
    rw [hrecords]
    exact forall₂_isRecordOf hadded houtcomes
  exact ⟨hall, hall.imp fun c r hr => hr.outcome_eq_of_shallow⟩

/-! ## A failure in another element -/

/-- A report with a failure that is no child of its test case. -/
def deepReport : String :=
  "<a><testcase classname=\"A\" name=\"x\" time=\"0.000000000\">" ++
    "<b><failure/></b></testcase></a>"

def deepRoot : Forest :=
  .element ⟨"a".toList⟩ (.element (caseTag outerCase)
    (.element ⟨"b".toList⟩ (.empty ⟨"failure".toList⟩ .nil) .nil) .nil) .nil

theorem deepRoot_events : deepRoot.events =
    [.startTag ⟨"a".toList⟩, .startTag (caseTag outerCase), .startTag ⟨"b".toList⟩,
      .emptyTag ⟨"failure".toList⟩, .endTag "b".toList, .endTag "testcase".toList,
      .endTag "a".toList] := by
  simp only [deepRoot, Forest.events, caseTag_name]
  rfl

theorem toList_deepReport : deepReport.toList = '<' :: ("a".toList ++ '>' :: '<' ::
    ((caseTag outerCase).content ++ '>' :: '<' :: ("b".toList ++ '>' :: '<' ::
      ("failure/".toList ++ '>' :: '<' :: ("/b".toList ++ '>' :: '<' ::
        ("/testcase".toList ++ '>' :: '<' :: ("/a".toList ++ '>' :: []))))))) := by
  decide +kernel

theorem readsAs_deepReport : ReadsAs deepReport.toList deepRoot.events := by
  have ha : Text.Passes none "a".toList none := .plain rfl
  have hb : Text.Passes none "b".toList none := .plain rfl
  have hfailure : Text.Passes none "failure/".toList none := .plain rfl
  have hendB : Text.Passes none "/b".toList none := .plain rfl
  have hendCase : Text.Passes none "/testcase".toList none := .plain rfl
  have hend : Text.Passes none "/a".toList none := .plain rfl
  have hclosing := ReadsAs.closing hendB rfl (.closing hendCase rfl (.closing hend rfl .nil))
  have hinside := ReadsAs.opening hb (by decide) (.opening hfailure (by decide) hclosing)
  have hcase := ReadsAs.opening (passes_caseTag outerCase) (by decide) hinside
  rw [toList_deepReport, deepRoot_events, ← opening_caseTag outerCase]
  exact ReadsAs.opening ha (by decide) hcase

/-- The test case is open when the failure is read. -/
theorem run_deepRoot : deepRoot.events.foldlM Progress.takeEvent {} =
    .ok { seenRoot := true, records := [{ outerCase with outcome := .failed }] } := by
  have hcase := takeEvent_startCase (r := outerCase) (p := ⟨["a".toList], true, none, []⟩)
    Bool.false_ne_true (by decide)
  rw [deepRoot_events]
  refine foldlM_cons_ok_iff.mpr ⟨_, rfl, foldlM_cons_ok_iff.mpr ⟨_, hcase, ?_⟩⟩
  refine foldlM_cons_ok_iff.mpr ⟨_, rfl, foldlM_cons_ok_iff.mpr ⟨_, rfl, ?_⟩⟩
  refine foldlM_cons_ok_iff.mpr ⟨_, rfl, foldlM_cons_ok_iff.mpr ⟨_, rfl, ?_⟩⟩
  exact foldlM_cons_ok_iff.mpr ⟨_, rfl, List.foldlM_nil⟩

theorem read_deepReport : read deepReport = .ok [{ outerCase with outcome := .failed }] :=
  read_of_readsAs toList_deepReport (toList_deepReport ▸ readsAs_deepReport) run_deepRoot rfl

theorem tags_deepReport :
    tags ((Xml.events deepReport.toList).items.map (·.event)) = deepRoot.events := by
  rw [(events_of_readsAs toList_deepReport (toList_deepReport ▸ readsAs_deepReport)).2,
    deepRoot_events]
  rfl

theorem recordedCases_deepRoot : recordedCases deepRoot =
    [⟨caseTag outerCase, .element ⟨"b".toList⟩ (.empty ⟨"failure".toList⟩ .nil) .nil⟩] := by
  have hb : (Tag.mk "b".toList).name ≠ "testcase".toList := by decide
  have hfailure : (Tag.mk "failure".toList).name ≠ "testcase".toList := by decide
  simp only [deepRoot, recordedCases, ofElement, OpensCase, caseTag_name, hb, hfailure, or_false,
    if_true, if_false, List.nil_append, List.append_nil]

/-- The children of the test case do not tell how it ended: none of them is a failure. -/
theorem deep_failure_counts : ∃ records root, read deepReport = .ok records ∧
    tags ((Xml.events deepReport.toList).items.map (·.event)) = root.events ∧
    ¬ List.Forall₂ (fun c r => r.outcome = outcomeOf (childNames c.inside))
      (recordedCases root) records := by
  refine ⟨_, deepRoot, read_deepReport, tags_deepReport, ?_⟩
  rw [recordedCases_deepRoot, List.forall₂_cons, not_and_or]
  exact .inl (by decide)

theorem deep_failure_recorded : read deepReport = .ok [{ outerCase with outcome := .failed }] ∧
    List.Forall₂ IsRecordOf (recordedCases deepRoot) [{ outerCase with outcome := .failed }] :=
  ⟨read_deepReport, ((read_outcomes_by_elements read_deepReport).2 deepRoot tags_deepReport).1⟩

end SuiteSplit.Report
