import SuiteSplit.Proofs.Acceptance
import SuiteSplit.Proofs.CaseTime
import SuiteSplit.Proofs.Markup

/-!
Reports in their standard form.

A standard report has one suite with one `testcase` element for each record: the class and the name
with their special characters as references by name, the time with nine digits of fraction, and an
empty element for a failure or a skip. Reading such a report undoes writing it.
-/

namespace SuiteSplit.Report

open Xml

/-! ## Writing -/

/-- A character of an attribute value; those with a meaning in markup are references by name. -/
def escape (c : Char) : List Char :=
  if c = '&' then "&amp;".toList
  else if c = '<' then "&lt;".toList
  else if c = '>' then "&gt;".toList
  else if c = '"' then "&quot;".toList
  else [c]

def escaped (s : String) : List Char := s.toList.flatMap escape

/-- An attribute with a blank in front. -/
def writeAttribute (key : String) (value : List Char) : List Char :=
  [' '] ++ key.toList ++ ['=', '"'] ++ value ++ ['"']

def caseAttributes (r : TestRecord) : List Char :=
  writeAttribute "classname" (escaped r.classname) ++ writeAttribute "name" (escaped r.name) ++
    writeAttribute "time" r.duration.toTimeText

/-- The tag of a test case, without its brackets. -/
def caseTag (r : TestRecord) : Tag := ⟨"testcase".toList ++ caseAttributes r⟩

theorem content_caseTag (r : TestRecord) :
    (caseTag r).content = "testcase".toList ++ caseAttributes r := rfl

/-- The element that tells how a test ended, if there is one. -/
def outcomeElement : Outcome → List Char
  | .successful => []
  | .failed => "<failure/>".toList
  | .skipped => "<skipped/>".toList

def writeCase (r : TestRecord) : List Char :=
  "<".toList ++ (caseTag r).content ++ ">".toList ++ outcomeElement r.outcome ++
    "</testcase>".toList

/-- The standard report of records. -/
def write (records : List TestRecord) : String :=
  .ofList ("<testsuite>".toList ++ records.flatMap writeCase ++ "</testsuite>".toList)

theorem toList_write (records : List TestRecord) : (write records).toList =
    "<testsuite>".toList ++ records.flatMap writeCase ++ "</testsuite>".toList :=
  String.toList_ofList

/-! ## Values -/

theorem not_mem_escaped (s : String) : '"' ∉ escaped s := by
  rw [escaped, List.mem_flatMap]
  rintro ⟨c, -, hc⟩
  unfold escape at hc
  split_ifs at hc with _ _ _ hquote
  · exact absurd hc (by decide)
  · exact absurd hc (by decide)
  · exact absurd hc (by decide)
  · exact absurd hc (by decide)
  · exact hquote (List.mem_singleton.mp hc).symm

theorem expandFrom_escape (stop offset : Nat) (c : Char) (cs : List Char) :
    ∃ offset', Reference.expandFrom stop offset (escape c ++ cs) =
      (Reference.expandFrom stop offset' cs).map (c :: ·) := by
  unfold escape
  split_ifs with hamp hlt hgt hquot
  · subst hamp
    exact ⟨_, Reference.expandFrom_named "amp".toList rfl (fun _ => rfl)⟩
  · subst hlt
    exact ⟨_, Reference.expandFrom_named "lt".toList rfl (fun _ => rfl)⟩
  · subst hgt
    exact ⟨_, Reference.expandFrom_named "gt".toList rfl (fun _ => rfl)⟩
  · subst hquot
    exact ⟨_, Reference.expandFrom_named "quot".toList rfl (fun _ => rfl)⟩
  · exact ⟨_, Reference.expandFrom_plain hamp⟩

/-- A reference by name is replaced by the character that it was written for. -/
theorem expand_escaped (s : String) : Reference.expand (escaped s) = .ok s.toList := by
  have hfrom (stop offset : Nat) (cs : List Char) :
      Reference.expandFrom stop offset (cs.flatMap escape) = .ok cs := by
    induction cs generalizing offset with
    | nil => rw [List.flatMap_nil, Reference.expandFrom]
    | cons c cs ih =>
      obtain ⟨offset', hc⟩ := expandFrom_escape stop offset c (cs.flatMap escape)
      rw [List.flatMap_cons, hc, ih]
      rfl
  exact hfrom _ _ _

theorem not_mem_toTimeText {c : Char} (hdigit : c.isDigit = false) (hpoint : c ≠ '.')
    (d : Duration) : c ∉ d.toTimeText := by
  intro hc
  rcases Duration.mem_toTimeText hc with h | h
  · rw [hdigit] at h
    cases h
  · exact hpoint h

/-! ## The tag of a test case -/

theorem listsAs_writeAttribute {known : List (List Char)} {key : String} {c : Char}
    {cs value rest : List Char} {attributes : List Attribute} (hkey : key.toList = c :: cs)
    (hc : Text.isBlank c = false) (hcs : cs.all Tag.inKey) (hnew : key.toList ∉ known)
    (hvalue : '"' ∉ value) (h : Tag.ListsAs (key.toList :: known) rest attributes) :
    Tag.ListsAs known (writeAttribute key value ++ rest) (⟨key.toList, value⟩ :: attributes) := by
  have hshape : writeAttribute key value ++ rest =
      ' ' :: c :: (cs ++ '=' :: '"' :: (value ++ '"' :: rest)) := by
    simp [writeAttribute, hkey]
  rw [hkey] at h hnew ⊢
  rw [hshape]
  exact .cons hc hcs hnew hvalue h

theorem listsAs_caseAttributes (r : TestRecord) : Tag.ListsAs [] (caseAttributes r)
    [⟨"classname".toList, escaped r.classname⟩, ⟨"name".toList, escaped r.name⟩,
      ⟨"time".toList, r.duration.toTimeText⟩] := by
  have htime := not_mem_toTimeText (c := '"') (by decide) (by decide) r.duration
  have hrest : caseAttributes r = writeAttribute "classname" (escaped r.classname) ++
      (writeAttribute "name" (escaped r.name) ++
        (writeAttribute "time" r.duration.toTimeText ++ [])) := by
    simp [caseAttributes]
  rw [hrest]
  apply listsAs_writeAttribute rfl rfl rfl (by decide) (not_mem_escaped _)
  apply listsAs_writeAttribute rfl rfl rfl (by decide) (not_mem_escaped _)
  exact listsAs_writeAttribute rfl rfl rfl (by decide) htime .nil

theorem caseTag_name (r : TestRecord) : (caseTag r).name = "testcase".toList := by
  have hname : "testcase".toList.all fun c => !Text.isBlank c := rfl
  obtain ⟨cs, hblank⟩ : ∃ cs, caseAttributes r = ' ' :: cs := by
    simp [caseAttributes, writeAttribute]
  rw [Tag.name, content_caseTag, hblank, List.takeWhile_append_of_pos (List.all_eq_true.mp hname),
    List.takeWhile_cons_of_neg (by decide), List.append_nil]

/-- The attributes that are read are those that were written. -/
theorem attributes_caseTag (r : TestRecord) : (caseTag r).attributes =
    ⟨[⟨"classname".toList, escaped r.classname⟩, ⟨"name".toList, escaped r.name⟩,
      ⟨"time".toList, r.duration.toTimeText⟩], none⟩ := by
  rw [Tag.attributes, caseTag_name, content_caseTag, List.drop_left]
  exact listsAs_caseAttributes r [] _ List.map_nil

/-- What the tag of a record says before its content is read. -/
def opened (r : TestRecord) : OpenCase :=
  { classname := r.classname, name := r.name, duration := r.duration }

/-- The tag of a test case gives back what it was written for. -/
theorem ofTag_caseTag {r : TestRecord}
    (h : r.duration.nanos ≤ maxCaseSeconds * nanosPerSecond) :
    OpenCase.ofTag (caseTag r) = .ok (opened r) := by
  have hclass : CaseAttributes.take {} ⟨"classname".toList, escaped r.classname⟩ =
      .ok { classname := some r.classname.toList } := by
    rw [CaseAttributes.take, expand_escaped]
    rfl
  have hname (known : CaseAttributes) : known.take ⟨"name".toList, escaped r.name⟩ =
      .ok { known with name := some r.name.toList } := by
    rw [CaseAttributes.take, expand_escaped]
    rfl
  have htime (known : CaseAttributes) : known.take ⟨"time".toList, r.duration.toTimeText⟩ =
      .ok { known with duration := r.duration } := by
    rw [CaseAttributes.take, Reference.expand_eq_self (not_mem_toTimeText (by decide) (by decide) _)]
    simp only
    rw [if_neg (by decide), if_neg (by decide), if_pos trivial, Duration.ofTimeText?_toTimeText h]
  have hfold : (caseTag r).attributes.fold CaseAttributes.take Defect.attributeList {} =
      .ok ⟨some r.classname.toList, some r.name.toList, r.duration⟩ := by
    rw [attributes_caseTag]
    refine Reading.fold_eq_ok_iff.mpr ⟨?_, rfl⟩
    exact foldlM_cons_ok_iff.mpr ⟨_, hclass, foldlM_cons_ok_iff.mpr ⟨_, hname _,
      foldlM_cons_ok_iff.mpr ⟨_, htime _, List.foldlM_nil⟩⟩⟩
  rw [OpenCase.ofTag, hfold]
  simp [opened]

/-! ## Markup -/

theorem passes_writeAttribute (key : String) {value : List Char}
    (hkey : key.toList.all fun c => !Text.endsOrQuotes c) (hvalue : '"' ∉ value) :
    Text.Passes none (writeAttribute key value) none := by
  have hblank : Text.Passes none [' '] none := .plain rfl
  have hequals : Text.Passes none ['='] none := .plain rfl
  have hsign : Text.Passes none ['=', '"'] (some '"') := hequals.append .openQuote
  exact (((hblank.append (.plain hkey)).append hsign).append (.quoted hvalue)).append .closeQuote

theorem passes_caseTag (r : TestRecord) : Text.Passes none (caseTag r).content none := by
  have hclass := passes_writeAttribute "classname" rfl (not_mem_escaped r.classname)
  have hname := passes_writeAttribute "name" rfl (not_mem_escaped r.name)
  have htime := passes_writeAttribute "time" rfl
    (not_mem_toTimeText (c := '"') (by decide) (by decide) r.duration)
  have htag : Text.Passes none "testcase".toList none := .plain rfl
  exact htag.append ((hclass.append hname).append htime)

/-- The tag ends with a quote, so it is no empty element. -/
theorem opening_caseTag (r : TestRecord) :
    Markup.opening (caseTag r).content = .startTag (caseTag r) := by
  have hquote (key : String) (value : List Char) :
      (writeAttribute key value).getLast? = some '"' := List.getLast?_concat
  have hlast : (caseTag r).content.getLast? = some '"' := by
    rw [content_caseTag, caseAttributes, List.getLast?_append, List.getLast?_append, hquote]
    rfl
  rw [Markup.opening, hlast, if_neg (by decide)]

/-- The events of the element that tells how a test ended. -/
def outcomeEvents : Outcome → List Xml.Event
  | .successful => []
  | .failed => [.emptyTag ⟨"failure".toList⟩]
  | .skipped => [.emptyTag ⟨"skipped".toList⟩]

def caseEvents (r : TestRecord) : List Xml.Event :=
  .startTag (caseTag r) :: outcomeEvents r.outcome ++ [.endTag "testcase".toList]

section

variable {rest : List Char} {es : List Xml.Event}

theorem readsAs_outcomeElement (outcome : Outcome) (h : ReadsAs rest es) :
    ReadsAs (outcomeElement outcome ++ rest) (outcomeEvents outcome ++ es) := by
  cases outcome with
  | successful => exact h
  | failed =>
    have hpasses : Text.Passes none "failure/".toList none := .plain rfl
    exact ReadsAs.opening hpasses (by decide) h
  | skipped =>
    have hpasses : Text.Passes none "skipped/".toList none := .plain rfl
    exact ReadsAs.opening hpasses (by decide) h

theorem readsAs_writeCase (r : TestRecord) (h : ReadsAs rest es) :
    ReadsAs (writeCase r ++ rest) (caseEvents r ++ es) := by
  have hend : Text.Passes none "/testcase".toList none := .plain rfl
  have hclosing : ReadsAs ("</testcase>".toList ++ rest) (.endTag "testcase".toList :: es) :=
    ReadsAs.closing hend rfl h
  have hopening := ReadsAs.opening (passes_caseTag r) (by decide)
    (readsAs_outcomeElement r.outcome hclosing)
  have htext : writeCase r ++ rest = '<' :: ((caseTag r).content ++ '>' ::
      (outcomeElement r.outcome ++ ("</testcase>".toList ++ rest))) := by
    simp [writeCase]
  have hevents : caseEvents r ++ es = Markup.opening (caseTag r).content ::
      (outcomeEvents r.outcome ++ (.endTag "testcase".toList :: es)) := by
    simp [caseEvents, opening_caseTag]
  rw [htext, hevents]
  exact hopening

theorem readsAs_cases (records : List TestRecord) (h : ReadsAs rest es) :
    ReadsAs (records.flatMap writeCase ++ rest) (records.flatMap caseEvents ++ es) := by
  induction records with
  | nil => exact h
  | cons r records ih =>
    rw [List.flatMap_cons, List.flatMap_cons, List.append_assoc, List.append_assoc]
    exact readsAs_writeCase r ih

theorem readsAs_write (records : List TestRecord) : ReadsAs (write records).toList
    (.startTag ⟨"testsuite".toList⟩ :: (records.flatMap caseEvents ++
      [.endTag "testsuite".toList])) := by
  have hopen : Text.Passes none "testsuite".toList none := .plain rfl
  have hend : Text.Passes none "/testsuite".toList none := .plain rfl
  have hclosing : ReadsAs "</testsuite>".toList [.endTag "testsuite".toList] :=
    ReadsAs.closing hend rfl .nil
  have hopening := ReadsAs.opening hopen (by decide) (readsAs_cases records hclosing)
  have htext : (write records).toList = '<' :: ("testsuite".toList ++ '>' ::
      (records.flatMap writeCase ++ "</testsuite>".toList)) := by
    simp [toList_write]
  rw [htext]
  exact hopening

end

/-! ## Records -/

section

variable {r : TestRecord} {records : List TestRecord}

/-- Between the test cases of a suite. -/
def inSuite (records : List TestRecord) : Progress := ⟨["testsuite".toList], true, none, records⟩

theorem takeEvent_startCase {p : Progress} (hplace : ¬ p.rootClosed)
    (h : r.duration.nanos ≤ maxCaseSeconds * nanosPerSecond) :
    p.takeEvent (.startTag (caseTag r)) = .ok { p with
      seenRoot := true, openNames := "testcase".toList :: p.openNames, current := some (opened r) } := by
  rw [Progress.takeEvent, Progress.step]
  simp only
  rw [if_neg hplace, Progress.openTag, if_pos (isTestcase_iff.mpr (caseTag_name r)), ofTag_caseTag h,
    caseTag_name]
  rfl

/-- One test case adds its record, and nothing else is changed. -/
theorem run_caseEvents (h : r.duration.nanos ≤ maxCaseSeconds * nanosPerSecond) :
    (caseEvents r).foldlM Progress.takeEvent (inSuite records) = .ok (inSuite (records ++ [r])) := by
  obtain ⟨classname, name, duration, outcome⟩ := r
  rw [caseEvents, List.cons_append, foldlM_cons_ok_iff]
  refine ⟨_, takeEvent_startCase Bool.false_ne_true h, ?_⟩
  cases outcome with
  | successful => exact foldlM_cons_ok_iff.mpr ⟨_, rfl, List.foldlM_nil⟩
  | failed =>
    exact foldlM_cons_ok_iff.mpr ⟨_, rfl, foldlM_cons_ok_iff.mpr ⟨_, rfl, List.foldlM_nil⟩⟩
  | skipped =>
    exact foldlM_cons_ok_iff.mpr ⟨_, rfl, foldlM_cons_ok_iff.mpr ⟨_, rfl, List.foldlM_nil⟩⟩

theorem run_cases (records : List TestRecord) {more : List TestRecord}
    (h : ∀ r ∈ more, r.duration.nanos ≤ maxCaseSeconds * nanosPerSecond) :
    (more.flatMap caseEvents).foldlM Progress.takeEvent (inSuite records) =
      .ok (inSuite (records ++ more)) := by
  induction more generalizing records with
  | nil =>
    rw [List.append_nil]
    rfl
  | cons r more ih =>
    obtain ⟨hr, hmore⟩ := List.forall_mem_cons.mp h
    have hrest := ih (records ++ [r]) hmore
    rw [List.append_assoc] at hrest
    rw [List.flatMap_cons, foldlM_append_ok_iff]
    exact ⟨_, run_caseEvents hr, hrest⟩

theorem events_of_readsAs {text : String} {cs : List Char} {es : List Xml.Event}
    (htext : text.toList = '<' :: cs) (hreads : ReadsAs ('<' :: cs) es) :
    (Xml.events text.toList).fault = none ∧ (Xml.events text.toList).items.map (·.event) = es := by
  rw [htext]
  exact hreads 0

/-- A document that opens with a tag is read through its events. -/
theorem read_of_readsAs {text : String} {cs : List Char} {es : List Xml.Event} {p : Progress}
    (htext : text.toList = '<' :: cs) (hreads : ReadsAs ('<' :: cs) es)
    (hrun : es.foldlM Progress.takeEvent {} = .ok p) (hfinish : p.finish = .ok records) :
    read text = .ok records := by
  obtain ⟨hwell, hitems⟩ := events_of_readsAs htext hreads
  exact ofEvents_eq_ok_iff.mpr ⟨p, run_eq_ok_iff.mpr (hitems ▸ hrun), hwell, hfinish⟩

/-- Behind its end tag a suite has left the records of its test cases. -/
theorem run_suite (records : List TestRecord)
    (h : ∀ r ∈ records, r.duration.nanos ≤ maxCaseSeconds * nanosPerSecond) :
    (.startTag ⟨"testsuite".toList⟩ :: (records.flatMap caseEvents ++
      [.endTag "testsuite".toList])).foldlM Progress.takeEvent {} =
        .ok { seenRoot := true, records } := by
  have hclose : (inSuite records).takeEvent (.endTag "testsuite".toList) =
      .ok { seenRoot := true, records } := rfl
  refine foldlM_cons_ok_iff.mpr ⟨inSuite [], rfl, ?_⟩
  refine foldlM_append_ok_iff.mpr ⟨inSuite records, run_cases [] h, ?_⟩
  exact foldlM_cons_ok_iff.mpr ⟨_, hclose, List.foldlM_nil⟩

/-- Reading a standard report gives the records that it was written for. -/
theorem read_write (records : List TestRecord)
    (h : ∀ r ∈ records, r.duration.nanos ≤ maxCaseSeconds * nanosPerSecond) :
    read (write records) = .ok records := by
  have hreads := readsAs_write records
  rw [toList_write] at hreads
  exact read_of_readsAs (toList_write records) hreads (run_suite records h) rfl

/-- Special characters, line breaks, the longest time and the shortest one. -/
def specialRecords : List TestRecord :=
  [⟨"a.\"B\" & <C>", "it's\ngröße", .ofNanos (maxCaseSeconds * nanosPerSecond), .failed⟩,
    ⟨"", "&amp;", .ofNanos 1, .skipped⟩, ⟨"a.B", "c", .zero, .successful⟩]

theorem read_write_specialRecords :
    (∀ r ∈ specialRecords, r.duration.nanos ≤ maxCaseSeconds * nanosPerSecond) ∧
      read (write specialRecords) = .ok specialRecords :=
  ⟨by decide, read_write specialRecords (by decide)⟩

example : write [⟨"a<b", "c", .ofNanos 1500000000, .failed⟩] =
    "<testsuite><testcase classname=\"a&lt;b\" name=\"c\" time=\"1.500000000\">" ++
      "<failure/></testcase></testsuite>" := by
  decide +kernel

end

end SuiteSplit.Report
