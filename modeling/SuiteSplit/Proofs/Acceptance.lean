import SuiteSplit.Proofs.CaseTag
import SuiteSplit.Proofs.Nesting

/-!
Which documents are reports.

The reader goes once over the events with a stack of names and a few flags. What it accepts is a
grammar: markup without fault, one root element whose tags are nested well, nothing but white space
around it, and `testcase` tags that are those of test cases. What it reports of any other document is
the first violation of that grammar in document order. A violation is stated through what stands
before it in the document, not through what the reader has stored.
-/

namespace SuiteSplit.Report

open Xml

/-- The names of the elements that are open behind items, the innermost first. -/
def openBehind (items : List Item) : List (List Char) := openAfter [] (items.map (·.event))

/-- How many elements of the items stand in no other. -/
def rootsIn (items : List Item) : Nat := rootCount [] (items.map (·.event))

/-- The event is the start of an element or the whole of an empty one. -/
def Opens (e : Xml.Event) (tag : Tag) : Prop := e = .startTag tag ∨ e = .emptyTag tag

/-- What may stand outside of the root element. -/
def MayStandOutside : Xml.Event → Prop
  | .text body => ∀ c ∈ body, Text.isAsciiSpace c
  | .cdata _ => False
  | _ => True

/-- A document that is a report. -/
structure IsReport (document : Reading Item Fault) : Prop where
  wellFormed : document.fault = none
  root : ∃ f : Forest, f.roots = 1 ∧ tags (document.items.map (·.event)) = f.events
  outside : ∀ before item after, document.items = before ++ item :: after →
    openBehind before = [] → MayStandOutside item.event
  cases : ∀ item ∈ document.items, ∀ tag, Opens item.event tag →
    tag.name = "testcase".toList → IsCase tag

/-- The root element stands before, with its end. -/
def RootClosed (before : List Item) : Prop := 0 < rootsIn before ∧ openBehind before = []

/-- What is wrong with an item behind others, if those are without fault. -/
def Violation (before : List Item) (item : Item) (d : Defect) : Prop :=
  match item.event with
  | .text body =>
    openBehind before = [] ∧ ¬ MayStandOutside (.text body) ∧ d = .strayText item.stop
  | .cdata _ => openBehind before = [] ∧ d = .strayCdata item.stop
  | .startTag tag | .emptyTag tag =>
    RootClosed before ∧ d = .secondRoot item.stop ∨
      ¬ RootClosed before ∧ tag.name = "testcase".toList ∧ CaseFault tag d
  | .endTag name =>
    openBehind before = [] ∧ d = .unmatchedEnd name item.start ∨
      ∃ expected outer, openBehind before = expected :: outer ∧ expected ≠ name ∧
        d = .mismatchedEnd expected name item.start
  | .aside => False

/-- No item violates the grammar. -/
def Fine (items : List Item) : Prop :=
  ∀ before item after d, items = before ++ item :: after → ¬ Violation before item d

/-- The first thing that is wrong with a document. -/
inductive FirstDefect (document : Reading Item Fault) : Defect → Prop
  | violation {before after : List Item} {item : Item} {d : Defect}
    (split : document.items = before ++ item :: after) (fine : Fine before)
    (violation : Violation before item d) : FirstDefect document d
  | malformed {cause : Fault} (fine : Fine document.items) (fault : document.fault = some cause) :
    FirstDefect document (.malformed cause)
  | unclosed {name : List Char} {outer : List (List Char)} (fine : Fine document.items)
    (wellFormed : document.fault = none) (inside : openBehind document.items = name :: outer) :
    FirstDefect document (.unclosed name)
  | noRoot (fine : Fine document.items) (wellFormed : document.fault = none)
    (closed : openBehind document.items = []) (none : rootsIn document.items = 0) :
    FirstDefect document .noRoot

/-! ## What the reader stores -/

/-- The stored names and the flag are those of the items that were read. -/
structure Tracks (items : List Item) (p : Progress) : Prop where
  nests : Nests [] (items.map (·.event))
  openNames : p.openNames = openBehind items
  roots : rootsIn items = if p.seenRoot then 1 else 0

section

variable {items before after : List Item} {item : Item} {p q : Progress} {d : Defect}

theorem tracks_nil : Tracks [] {} := ⟨trivial, rfl, rfl⟩

theorem openBehind_concat : openBehind (items ++ [item]) = item.event.nest (openBehind items) := by
  simp [openBehind]

theorem rootsIn_concat :
    rootsIn (items ++ [item]) = rootsIn items + item.event.addsRoot (openBehind items) := by
  simp [rootsIn, openBehind]

theorem nests_concat : Nests [] ((items ++ [item]).map (·.event)) ↔
    Nests [] (items.map (·.event)) ∧ item.event.Fits (openBehind items) := by
  simp [openBehind]

theorem Tracks.rootClosed_iff (h : Tracks items p) : p.rootClosed ↔ RootClosed items := by
  rw [Progress.rootClosed, RootClosed, h.roots, h.openNames]
  cases p.seenRoot <;> simp

/-! ## Steps that fail -/

theorem isTestcase_iff {tag : Tag} : Progress.isTestcase tag ↔ tag.name = "testcase".toList :=
  decide_eq_true_iff

theorem map_eq_error_iff {α β ε : Type} {f : α → β} {x : Except ε α} {e : ε} :
    x.map f = .error e ↔ x = .error e := by
  cases x <;> simp [Except.map]

/-- Both readers of tags fail at the tag of a test case only. -/
theorem ite_testcase_eq_error_iff {tag : Tag} {found : OpenCase → Progress} :
    (if Progress.isTestcase tag then (OpenCase.ofTag tag).map found else .ok q) = .error d ↔
      tag.name = "testcase".toList ∧ CaseFault tag d := by
  split
  · next h => rw [map_eq_error_iff, ofTag_eq_error_iff, and_iff_right (isTestcase_iff.mp h)]
  · next h => exact iff_of_false nofun fun hd => h (isTestcase_iff.mpr hd.1)

theorem openTag_eq_error_iff {tag : Tag} :
    p.openTag tag = .error d ↔ tag.name = "testcase".toList ∧ CaseFault tag d :=
  ite_testcase_eq_error_iff

theorem emptyTag_eq_error_iff {tag : Tag} :
    p.emptyTag tag = .error d ↔ tag.name = "testcase".toList ∧ CaseFault tag d :=
  ite_testcase_eq_error_iff

theorem closeTag_eq_error_iff {name : List Char} {offset : Nat} :
    p.closeTag name offset = .error d ↔
      p.openNames = [] ∧ d = .unmatchedEnd name offset ∨
      ∃ expected outer, p.openNames = expected :: outer ∧ expected ≠ name ∧
        d = .mismatchedEnd expected name offset := by
  unfold Progress.closeTag
  cases p.openNames with
  | nil => simp [eq_comm]
  | cons expected outer =>
    by_cases hname : expected = name
    · simp only [hname, ne_eq, not_true, if_false]
      split <;> simp
    · simp only [ne_eq, hname, not_false_eq_true, if_true, List.cons.injEq, reduceCtorEq, false_and,
        false_or, Except.error.injEq]
      constructor
      · rintro rfl
        exact ⟨expected, outer, ⟨rfl, rfl⟩, hname, rfl⟩
      · rintro ⟨_, _, ⟨rfl, rfl⟩, -, rfl⟩
        rfl

theorem ite_eq_error_iff {α ε : Type} {c : Prop} [Decidable c] {e e' : ε} {x : Except ε α} :
    (if c then .error e else x) = .error e' ↔ c ∧ e' = e ∨ ¬ c ∧ x = .error e' := by
  split <;> simp [*, eq_comm]

/-- A step refuses exactly the items that violate the grammar where they stand. -/
theorem Tracks.step_eq_error_iff (h : Tracks before p) :
    p.step item = .error d ↔ Violation before item d := by
  have hnames : p.openNames.isEmpty ↔ openBehind before = [] := by
    rw [h.openNames, List.isEmpty_iff]
  unfold Progress.step Violation
  cases item.event with
  | text body =>
    simp only
    rw [ite_eq_error_iff, Bool.and_eq_true, hnames]
    simp [MayStandOutside, and_assoc]
  | cdata body =>
    simp only
    rw [ite_eq_error_iff, hnames]
    simp
  | startTag tag =>
    simp only
    rw [ite_eq_error_iff, h.rootClosed_iff, openTag_eq_error_iff]
  | emptyTag tag =>
    simp only
    rw [ite_eq_error_iff, h.rootClosed_iff, emptyTag_eq_error_iff]
  | endTag name =>
    simp only
    rw [closeTag_eq_error_iff, h.openNames]
  | aside => simp

/-! ## Steps that succeed -/

theorem ite_testcase_eq_ok_iff {tag : Tag} {found : OpenCase → Progress} {other : Progress} :
    (if Progress.isTestcase tag then (OpenCase.ofTag tag).map found else .ok other) = .ok q ↔
      tag.name = "testcase".toList ∧ (∃ c, OpenCase.ofTag tag = .ok c ∧ q = found c) ∨
      tag.name ≠ "testcase".toList ∧ q = other := by
  rw [ne_eq, ← isTestcase_iff]
  split
  · next h => cases OpenCase.ofTag tag <;> simp [Except.map, h, eq_comm]
  · next h => simp [h, eq_comm]

theorem openTag_ok {tag : Tag} (h : p.openTag tag = .ok q) :
    q.openNames = tag.name :: p.openNames ∧ q.seenRoot := by
  rcases ite_testcase_eq_ok_iff.mp h with ⟨-, c, -, rfl⟩ | ⟨-, rfl⟩ <;> exact ⟨rfl, rfl⟩

theorem emptyTag_ok {tag : Tag} (h : p.emptyTag tag = .ok q) :
    q.openNames = p.openNames ∧ q.seenRoot := by
  rcases ite_testcase_eq_ok_iff.mp h with ⟨-, c, -, rfl⟩ | ⟨-, rfl⟩ <;> exact ⟨rfl, rfl⟩

theorem closeTag_ok {name : List Char} {offset : Nat} (h : p.closeTag name offset = .ok q) :
    p.openNames = name :: q.openNames ∧ q.seenRoot = p.seenRoot := by
  unfold Progress.closeTag at h
  split at h
  · cases h
  · next expected outer hnames =>
    split at h
    · cases h
    · next hname =>
      rw [ne_eq, not_not] at hname
      rw [hnames, hname]
      split at h <;> cases h <;> exact ⟨rfl, rfl⟩

/-- An element that may be opened leaves one root: it is the first, or it stands in another. -/
theorem Tracks.rootsIn_opened (h : Tracks items p) (hplace : ¬ RootClosed items) :
    rootsIn items + (if openBehind items = [] then 1 else 0) = 1 := by
  have hroots := h.roots
  rcases Nat.eq_zero_or_pos (rootsIn items) with hnone | hsome
  · have hopen : openBehind items = [] := openAfter_eq_nil hnone
    rw [hnone, if_pos hopen]
  · have hopen : openBehind items ≠ [] := fun hopen => hplace ⟨hsome, hopen⟩
    rw [if_neg hopen]
    split_ifs at hroots <;> omega

theorem Tracks.concat (h : Tracks items p) (hfits : item.event.Fits p.openNames)
    (hnames : q.openNames = item.event.nest p.openNames)
    (hroots : rootsIn items + item.event.addsRoot (openBehind items) = if q.seenRoot then 1 else 0) :
    Tracks (items ++ [item]) q := by
  rw [h.openNames] at hfits hnames
  exact ⟨nests_concat.mpr ⟨h.nests, hfits⟩, hnames.trans openBehind_concat.symm,
    rootsIn_concat.trans hroots⟩

/-- What a step does that succeeds: it takes a tag in, or it does nothing. -/
theorem step_ok (h : p.step item = .ok q) :
    (∃ tag, item.event = .startTag tag ∧ ¬ p.rootClosed ∧ p.openTag tag = .ok q) ∨
    (∃ tag, item.event = .emptyTag tag ∧ ¬ p.rootClosed ∧ p.emptyTag tag = .ok q) ∨
    (∃ name, item.event = .endTag name ∧ p.closeTag name item.start = .ok q) ∨
    item.event.isTag = false ∧ q = p := by
  unfold Progress.step at h
  split at h
  · split at h
    · cases h
    · next hevent _ => exact .inr (.inr (.inr ⟨by rw [hevent]; rfl, by cases h; rfl⟩))
  · split at h
    · cases h
    · next hevent _ => exact .inr (.inr (.inr ⟨by rw [hevent]; rfl, by cases h; rfl⟩))
  · next tag hevent =>
    split at h
    · cases h
    · next hclosed => exact .inl ⟨tag, hevent, hclosed, h⟩
  · next tag hevent =>
    split at h
    · cases h
    · next hclosed => exact .inr (.inl ⟨tag, hevent, hclosed, h⟩)
  · next name hevent => exact .inr (.inr (.inl ⟨name, hevent, h⟩))
  · next hevent => exact .inr (.inr (.inr ⟨by rw [hevent]; rfl, by cases h; rfl⟩))

theorem step_of_not_tag (h : item.event.isTag = false)
    (hstep : p.step item = .ok q) : q = p := by
  rcases step_ok hstep with ⟨tag, hevent, -⟩ | ⟨tag, hevent, -⟩ | ⟨name, hevent, -⟩ | ⟨-, hsame⟩
  · rw [hevent] at h
    cases h
  · rw [hevent] at h
    cases h
  · rw [hevent] at h
    cases h
  · exact hsame

/-- A step that succeeds stores what it read. -/
theorem Tracks.step (h : Tracks items p) (hstep : p.step item = .ok q) :
    Tracks (items ++ [item]) q := by
  have hopened (hclosed : ¬ p.rootClosed) := h.rootsIn_opened (mt h.rootClosed_iff.mpr hclosed)
  rcases step_ok hstep with ⟨tag, hevent, hclosed, hopen⟩ | ⟨tag, hevent, hclosed, hempty⟩ |
    ⟨name, hevent, hclose⟩ | ⟨htag, rfl⟩
  · obtain ⟨hnames, hseen⟩ := openTag_ok hopen
    apply h.concat
    · rw [hevent]
      trivial
    · rw [hevent, hnames, Xml.Event.nest]
    · rw [hevent, hseen, Xml.Event.addsRoot, hopened hclosed, if_pos rfl]
  · obtain ⟨hnames, hseen⟩ := emptyTag_ok hempty
    apply h.concat
    · rw [hevent]
      trivial
    · rw [hevent, hnames]
      rfl
    · rw [hevent, hseen, Xml.Event.addsRoot, hopened hclosed, if_pos rfl]
  · obtain ⟨hnames, hseen⟩ := closeTag_ok hclose
    apply h.concat
    · rw [hevent, hnames]
      rfl
    · rw [hevent, hnames]
      rfl
    · rw [hevent, hseen]
      exact h.roots
  · apply h.concat
    · exact Xml.Event.fits_of_not_tag htag
    · rw [Xml.Event.nest_of_not_tag htag]
    · rw [Xml.Event.addsRoot_of_not_tag htag, Nat.add_zero]
      exact h.roots

/-! ## Runs -/

theorem Tracks.foldlM {more : List Item} (h : Tracks items p)
    (hrun : more.foldlM Progress.step p = .ok q) : Tracks (items ++ more) q := by
  induction more generalizing items p with
  | nil =>
    cases hrun
    rwa [List.append_nil]
  | cons item more ih =>
    obtain ⟨middle, hstep, hrest⟩ := foldlM_cons_ok_iff.mp hrun
    have := ih (h.step hstep) hrest
    rwa [List.append_assoc] at this

theorem tracks_of_run (hrun : items.foldlM Progress.step {} = .ok p) : Tracks items p :=
  tracks_nil.foldlM hrun

/-- A run fails at the first item that violates the grammar. -/
theorem run_eq_error_iff : items.foldlM Progress.step {} = .error d ↔
    ∃ before item after, items = before ++ item :: after ∧
      (∃ p, before.foldlM Progress.step {} = .ok p) ∧ Violation before item d := by
  rw [foldlM_eq_error_iff]
  constructor
  · rintro ⟨before, item, after, p, hsplit, hrun, hstep⟩
    exact ⟨before, item, after, hsplit, ⟨p, hrun⟩, (tracks_of_run hrun).step_eq_error_iff.mp hstep⟩
  · rintro ⟨before, item, after, hsplit, ⟨p, hrun⟩, hviolation⟩
    exact ⟨before, item, after, p, hsplit, hrun, (tracks_of_run hrun).step_eq_error_iff.mpr hviolation⟩

/-- A run succeeds exactly over items without a violation. -/
theorem exists_run_iff : (∃ p, items.foldlM Progress.step {} = .ok p) ↔ Fine items := by
  constructor
  · rintro ⟨p, hrun⟩ before item after d rfl hviolation
    obtain ⟨middle, hbefore, -⟩ := foldlM_append_ok_iff.mp hrun
    have herror := run_eq_error_iff.mpr ⟨before, item, after, rfl, ⟨middle, hbefore⟩, hviolation⟩
    rw [hrun] at herror
    cases herror
  · intro hfine
    cases hrun : items.foldlM Progress.step {} with
    | ok p => exact ⟨p, rfl⟩
    | error d =>
      obtain ⟨before, item, after, hsplit, -, hviolation⟩ := run_eq_error_iff.mp hrun
      exact absurd hviolation (hfine before item after d hsplit)

end

/-! ## Places -/

/-- A step over an event, wherever it stands. -/
def Progress.takeEvent (p : Progress) (e : Xml.Event) : Except Defect Progress := p.step ⟨e, 0, 0⟩

section

variable {p q : Progress} {item : Item} {items : List Item}

theorem ite_error_eq_ok_iff {α ε : Type} {c : Prop} [Decidable c] {e : ε} {x : Except ε α} {a : α} :
    (if c then .error e else x) = .ok a ↔ ¬ c ∧ x = .ok a := by
  split <;> simp [*]

theorem closeTag_ok_congr {name : List Char} {start start' : Nat} :
    p.closeTag name start = .ok q ↔ p.closeTag name start' = .ok q := by
  unfold Progress.closeTag
  cases p.openNames with
  | nil => simp
  | cons expected outer => rw [ite_error_eq_ok_iff, ite_error_eq_ok_iff]

/-- Where nothing is refused, it does not matter where the events stand. -/
theorem step_eq_ok_iff : p.step item = .ok q ↔ p.takeEvent item.event = .ok q := by
  unfold Progress.takeEvent Progress.step
  cases item.event with
  | endTag name => exact closeTag_ok_congr
  | aside => rfl
  | _ =>
    simp only
    rw [ite_error_eq_ok_iff, ite_error_eq_ok_iff]

theorem run_eq_ok_iff : items.foldlM Progress.step p = .ok q ↔
    (items.map (·.event)).foldlM Progress.takeEvent p = .ok q := by
  induction items generalizing p with
  | nil => rfl
  | cons item items ih =>
    rw [List.map_cons, foldlM_cons_ok_iff, foldlM_cons_ok_iff]
    exact exists_congr fun middle => and_congr step_eq_ok_iff ih

end

/-! ## Documents -/

theorem Tracks.finish_eq_error_iff {items : List Item} {p : Progress} {d : Defect}
    (h : Tracks items p) : p.finish = .error d ↔
      (∃ name outer, openBehind items = name :: outer ∧ d = .unclosed name) ∨
      openBehind items = [] ∧ rootsIn items = 0 ∧ d = .noRoot := by
  rw [← h.openNames, h.roots, Progress.finish]
  cases p.openNames with
  | nil => cases p.seenRoot <;> simp [eq_comm]
  | cons name outer =>
    simp only [Except.error.injEq, reduceCtorEq, false_and, or_false]
    constructor
    · rintro rfl
      exact ⟨name, outer, rfl, rfl⟩
    · rintro ⟨_, _, h, rfl⟩
      cases h
      rfl

theorem Tracks.finish_eq_ok_iff {items : List Item} {p : Progress} {records : List TestRecord}
    (h : Tracks items p) : p.finish = .ok records ↔
      openBehind items = [] ∧ rootsIn items = 1 ∧ records = p.records := by
  rw [← h.openNames, h.roots, Progress.finish]
  cases p.openNames with
  | nil => cases p.seenRoot <;> simp [eq_comm]
  | cons name outer => simp

section

variable {document : Reading Item Fault} {d : Defect} {records : List TestRecord}

theorem ofEvents_eq_ok_iff : ofEvents document = .ok records ↔ ∃ p,
    document.items.foldlM Progress.step {} = .ok p ∧ document.fault = none ∧ p.finish = .ok records := by
  rw [ofEvents]
  cases hfold : document.fold Progress.step Defect.malformed {} with
  | error e =>
    apply iff_of_false nofun
    rintro ⟨p, hrun, hwell, -⟩
    rw [Reading.fold_eq_ok_iff.mpr ⟨hrun, hwell⟩] at hfold
    cases hfold
  | ok p =>
    obtain ⟨hrun, hwell⟩ := Reading.fold_eq_ok_iff.mp hfold
    simp [hrun, hwell, Except.bind]

/-- What is reported is the first thing that is wrong. -/
theorem ofEvents_eq_error_iff : ofEvents document = .error d ↔ FirstDefect document d := by
  have hparts : ofEvents document = .error d ↔
      document.items.foldlM Progress.step {} = .error d ∨
      ∃ p, document.items.foldlM Progress.step {} = .ok p ∧
        ((∃ fault, document.fault = some fault ∧ d = .malformed fault) ∨
          document.fault = none ∧ p.finish = .error d) := by
    rw [ofEvents, Reading.fold]
    cases document.items.foldlM Progress.step {} with
    | error e => simp [Except.bind]
    | ok p => cases document.fault <;> simp [Except.bind, eq_comm]
  rw [hparts]
  constructor
  · rintro (hrun | ⟨p, hrun, ⟨fault, hfault, rfl⟩ | ⟨hwell, hfinish⟩⟩)
    · obtain ⟨before, item, after, hsplit, hbefore, hviolation⟩ := run_eq_error_iff.mp hrun
      exact .violation hsplit (exists_run_iff.mp hbefore) hviolation
    · exact .malformed (exists_run_iff.mp ⟨p, hrun⟩) hfault
    · have hfine := exists_run_iff.mp ⟨p, hrun⟩
      rcases (tracks_of_run hrun).finish_eq_error_iff.mp hfinish with
        ⟨name, outer, hinside, rfl⟩ | ⟨hclosed, hnone, rfl⟩
      · exact .unclosed hfine hwell hinside
      · exact .noRoot hfine hwell hclosed hnone
  · intro hdefect
    cases hdefect with
    | violation hsplit hfine hviolation =>
      exact .inl (run_eq_error_iff.mpr ⟨_, _, _, hsplit, exists_run_iff.mpr hfine, hviolation⟩)
    | malformed hfine hfault =>
      obtain ⟨p, hrun⟩ := exists_run_iff.mpr hfine
      exact .inr ⟨p, hrun, .inl ⟨_, hfault, rfl⟩⟩
    | unclosed hfine hwell hinside =>
      obtain ⟨p, hrun⟩ := exists_run_iff.mpr hfine
      have hfinish := (tracks_of_run hrun).finish_eq_error_iff.mpr (.inl ⟨_, _, hinside, rfl⟩)
      exact .inr ⟨p, hrun, .inr ⟨hwell, hfinish⟩⟩
    | noRoot hfine hwell hclosed hnone =>
      obtain ⟨p, hrun⟩ := exists_run_iff.mpr hfine
      have hfinish := (tracks_of_run hrun).finish_eq_error_iff.mpr (.inr ⟨hclosed, hnone, rfl⟩)
      exact .inr ⟨p, hrun, .inr ⟨hwell, hfinish⟩⟩

/-- In a report nothing violates the grammar. -/
theorem IsReport.fine (h : IsReport document) : Fine document.items := by
  intro before item after d hsplit hviolation
  obtain ⟨f, hroots, htags⟩ := h.root
  obtain ⟨hnests, -, hcount⟩ := nests_of_forest htags
  rw [hsplit, List.map_append, List.map_cons, nests_append, nests_cons] at hnests
  rw [hroots, hsplit, List.map_append, List.map_cons, rootCount_append, rootCount_cons] at hcount
  have houtside := h.outside before item after hsplit
  have hcase := h.cases item (by rw [hsplit]; simp)
  have hfits : item.event.Fits (openBehind before) := hnests.2.1
  have honce : rootsIn before + item.event.addsRoot (openBehind before) ≤ 1 := by
    have := hcount.ge
    rw [rootsIn, openBehind]
    omega
  have hopened {tag : Tag} (hopens : Opens item.event tag)
      (h : RootClosed before ∧ d = .secondRoot item.stop ∨
        ¬ RootClosed before ∧ tag.name = "testcase".toList ∧ CaseFault tag d) : False := by
    rcases h with ⟨⟨hroot, hclosed⟩, -⟩ | ⟨-, hname, hfault⟩
    · have hadds : item.event.addsRoot (openBehind before) = 1 := by
        rcases hopens with hevent | hevent <;> rw [hevent, Xml.Event.addsRoot, if_pos hclosed]
      omega
    · exact (hcase tag hopens hname).not_caseFault hfault
  unfold Violation at hviolation
  split at hviolation
  · next hevent => exact hviolation.2.1 (hevent ▸ houtside hviolation.1)
  · next hevent =>
    have := houtside hviolation.1
    rw [hevent] at this
    exact this
  · next hevent => exact hopened (.inl hevent) hviolation
  · next hevent => exact hopened (.inr hevent) hviolation
  · next name hevent =>
    have hfirst : (openBehind before).head? = some name := by rwa [hevent] at hfits
    rcases hviolation with ⟨hclosed, -⟩ | ⟨expected, outer, hinside, hdiffers, -⟩
    · rw [hclosed] at hfirst
      cases hfirst
    · rw [hinside] at hfirst
      cases hfirst
      exact hdiffers rfl
  · exact hviolation

theorem Fine.mayStandOutside {items before after : List Item} {item : Item} (h : Fine items)
    (hsplit : items = before ++ item :: after) (hopen : openBehind before = []) :
    MayStandOutside item.event := by
  cases hevent : item.event with
  | text body =>
    by_contra hstray
    apply h before item after (.strayText item.stop) hsplit
    rw [Violation, hevent]
    exact ⟨hopen, hstray, rfl⟩
  | cdata body =>
    apply h before item after (.strayCdata item.stop) hsplit
    rw [Violation, hevent]
    exact ⟨hopen, rfl⟩
  | _ => trivial

theorem Fine.isCase {items : List Item} {item : Item} {tag : Tag} (h : Fine items)
    (hitem : item ∈ items) (hopens : Opens item.event tag) (hname : tag.name = "testcase".toList) :
    IsCase tag := by
  obtain ⟨before, after, hsplit⟩ := List.append_of_mem hitem
  have hopened {d : Defect} (hd : RootClosed before ∧ d = .secondRoot item.stop ∨
      ¬ RootClosed before ∧ tag.name = "testcase".toList ∧ CaseFault tag d) : False := by
    apply h before item after d hsplit
    rcases hopens with hevent | hevent <;> rw [Violation, hevent] <;> exact hd
  cases hcase : OpenCase.ofTag tag with
  | ok c => exact exists_ofTag_iff.mp ⟨c, hcase⟩
  | error d =>
    exfalso
    by_cases hclosed : RootClosed before
    · exact hopened (.inl ⟨hclosed, rfl⟩)
    · exact hopened (.inr ⟨hclosed, hname, caseFault_of_ofTag hcase⟩)

/-- Nothing violates the grammar in a report, and what is read to its end without a violation is
one. -/
theorem isReport_iff : IsReport document ↔ document.fault = none ∧ Fine document.items ∧
    openBehind document.items = [] ∧ rootsIn document.items = 1 := by
  constructor
  · intro h
    obtain ⟨f, hroots, htags⟩ := h.root
    obtain ⟨-, hclosed, hcount⟩ := nests_of_forest htags
    exact ⟨h.wellFormed, h.fine, hclosed, hcount.trans hroots⟩
  · rintro ⟨hwell, hfine, hclosed, hroots⟩
    obtain ⟨p, hrun⟩ := exists_run_iff.mpr hfine
    refine ⟨hwell, ?_, ?_, ?_⟩
    · obtain ⟨f, hcount, htags⟩ := exists_forest_of_nests (tracks_of_run hrun).nests hclosed
      exact ⟨f, hcount.trans hroots, htags⟩
    · intro before item after hsplit hopen
      exact hfine.mayStandOutside hsplit hopen
    · intro item hitem tag hopens hname
      exact hfine.isCase hitem hopens hname

theorem exists_ofEvents_iff : (∃ records, ofEvents document = .ok records) ↔ IsReport document := by
  rw [isReport_iff]
  constructor
  · rintro ⟨records, h⟩
    obtain ⟨p, hrun, hwell, hfinish⟩ := ofEvents_eq_ok_iff.mp h
    obtain ⟨hclosed, hroots, -⟩ := (tracks_of_run hrun).finish_eq_ok_iff.mp hfinish
    exact ⟨hwell, exists_run_iff.mp ⟨p, hrun⟩, hclosed, hroots⟩
  · rintro ⟨hwell, hfine, hclosed, hroots⟩
    obtain ⟨p, hrun⟩ := exists_run_iff.mpr hfine
    have hfinish := (tracks_of_run hrun).finish_eq_ok_iff.mpr ⟨hclosed, hroots, rfl⟩
    exact ⟨p.records, ofEvents_eq_ok_iff.mpr ⟨p, hrun, hwell, hfinish⟩⟩

/-- A document is read exactly if it is a report, and what is reported of any other document is the
first thing that is wrong with it. -/
theorem read_decides_isReport (text : String) :
    ((∃ records, read text = .ok records) ↔ IsReport (Xml.events text.toList)) ∧
      ∀ d, read text = .error d ↔ FirstDefect (Xml.events text.toList) d :=
  ⟨exists_ofEvents_iff, fun _ => ofEvents_eq_error_iff⟩

end

end SuiteSplit.Report
