import Mathlib.Tactic.Common
import SuiteSplit.Xml.Event

/-!
Elements and the tags that make them up.

A sequence of events is nested well if every end tag closes the element that was opened last. Such
a sequence with no element left open is that of a forest of elements, and the tags of a forest are
nested well: the two descriptions are the same.
-/

namespace SuiteSplit.Xml

/-- Elements that stand side by side, each with the elements in it. -/
inductive Forest
  | nil
  | empty (tag : Tag) (rest : Forest)
  | element (tag : Tag) (inside rest : Forest)
deriving Repr

namespace Forest

/-- The tags of the elements, in the order of a document. -/
def events : Forest → List Event
  | nil => []
  | empty tag rest => .emptyTag tag :: rest.events
  | element tag inside rest => .startTag tag :: (inside.events ++ .endTag tag.name :: rest.events)

/-- The elements that stand in no other. -/
def roots : Forest → Nat
  | nil => 0
  | empty _ rest => rest.roots + 1
  | element _ _ rest => rest.roots + 1

end Forest

namespace Event

def isTag : Event → Bool
  | startTag _ => true
  | emptyTag _ => true
  | endTag _ => true
  | _ => false

/-- The names of the open elements behind an event, the innermost first. -/
def nest (names : List (List Char)) : Event → List (List Char)
  | startTag tag => tag.name :: names
  | endTag _ => names.tail
  | _ => names

/-- An end tag has to close the innermost element. -/
def Fits (names : List (List Char)) : Event → Prop
  | endTag name => names.head? = some name
  | _ => True

/-- The elements that an event adds to those that stand in no other. -/
def addsRoot (names : List (List Char)) : Event → Nat
  | startTag _ => if names = [] then 1 else 0
  | emptyTag _ => if names = [] then 1 else 0
  | _ => 0

section

variable {e : Event} {names : List (List Char)}

theorem nest_of_not_tag (h : e.isTag = false) : e.nest names = names := by
  cases e <;> first | rfl | cases h

theorem fits_of_not_tag (h : e.isTag = false) : e.Fits names := by
  cases e with
  | endTag name => cases h
  | _ => trivial

theorem addsRoot_of_not_tag (h : e.isTag = false) : e.addsRoot names = 0 := by
  cases e <;> first | rfl | cases h

end

end Event

/-- The names of the open elements behind events, the innermost first. -/
def openAfter (names : List (List Char)) (es : List Event) : List (List Char) :=
  es.foldl Event.nest names

/-- Every end tag closes the innermost element. -/
def Nests (names : List (List Char)) : List Event → Prop
  | [] => True
  | e :: es => e.Fits names ∧ Nests (e.nest names) es

/-- How many of the elements that are opened stand in no other. -/
def rootCount (names : List (List Char)) : List Event → Nat
  | [] => 0
  | e :: es => e.addsRoot names + rootCount (e.nest names) es

section

variable {names : List (List Char)} {es fs : List Event} {e : Event}

@[simp] theorem openAfter_nil : openAfter names [] = names := rfl

@[simp] theorem openAfter_cons : openAfter names (e :: es) = openAfter (e.nest names) es := rfl

@[simp] theorem openAfter_append :
    openAfter names (es ++ fs) = openAfter (openAfter names es) fs := List.foldl_append

@[simp] theorem nests_nil : Nests names [] := trivial

@[simp] theorem nests_cons : Nests names (e :: es) ↔ e.Fits names ∧ Nests (e.nest names) es := Iff.rfl

@[simp] theorem nests_append :
    Nests names (es ++ fs) ↔ Nests names es ∧ Nests (openAfter names es) fs := by
  induction es generalizing names with
  | nil => simp
  | cons e es ih => simp [ih, and_assoc]

@[simp] theorem rootCount_nil : rootCount names [] = 0 := rfl

@[simp] theorem rootCount_cons :
    rootCount names (e :: es) = e.addsRoot names + rootCount (e.nest names) es := rfl

@[simp] theorem rootCount_append :
    rootCount names (es ++ fs) = rootCount names es + rootCount (openAfter names es) fs := by
  induction es generalizing names with
  | nil => simp
  | cons e es ih => simp [ih, Nat.add_assoc]

/-- Where an element is open, one that stands in no other was opened. -/
theorem openAfter_eq_nil (h : rootCount [] es = 0) : openAfter [] es = [] := by
  induction es with
  | nil => rfl
  | cons e es ih =>
    rw [rootCount_cons, Nat.add_eq_zero_iff] at h
    cases e with
    | startTag tag => simp [Event.addsRoot] at h
    | emptyTag tag => simp [Event.addsRoot] at h
    | _ => exact ih h.2

end

/-! ## Only tags count -/

/-- The tags among events. -/
def tags (es : List Event) : List Event := es.filter Event.isTag

section

variable {names : List (List Char)} {es : List Event}

theorem openAfter_tags : openAfter names (tags es) = openAfter names es := by
  induction es generalizing names with
  | nil => rfl
  | cons e es ih =>
    rw [tags, List.filter_cons]
    cases htag : e.isTag with
    | true => exact ih
    | false => exact ih.trans (by rw [openAfter_cons, Event.nest_of_not_tag htag])

theorem nests_tags : Nests names (tags es) ↔ Nests names es := by
  induction es generalizing names with
  | nil => rfl
  | cons e es ih =>
    rw [tags, List.filter_cons]
    cases htag : e.isTag with
    | true => exact and_congr_right fun _ => ih
    | false =>
      exact ih.trans (by
        rw [nests_cons, Event.nest_of_not_tag htag, and_iff_right (Event.fits_of_not_tag htag)])

theorem rootCount_tags : rootCount names (tags es) = rootCount names es := by
  induction es generalizing names with
  | nil => rfl
  | cons e es ih =>
    rw [tags, List.filter_cons]
    cases htag : e.isTag with
    | true => exact congrArg (e.addsRoot names + ·) ih
    | false =>
      exact ih.trans (by
        rw [rootCount_cons, Event.nest_of_not_tag htag, Event.addsRoot_of_not_tag htag, Nat.zero_add])

end

/-! ## Forests nest well -/

namespace Forest

@[simp] theorem openAfter_events (f : Forest) (names : List (List Char)) :
    openAfter names f.events = names := by
  induction f generalizing names with
  | nil => rfl
  | empty tag rest ih => simp [events, Event.nest, ih]
  | element tag inside rest ihinside ihrest => simp [events, Event.nest, ihinside, ihrest]

theorem nests_events (f : Forest) (names : List (List Char)) : Nests names f.events := by
  induction f generalizing names with
  | nil => trivial
  | empty tag rest ih => simp [events, Event.nest, Event.Fits, ih]
  | element tag inside rest ihinside ihrest =>
    simp [events, Event.nest, Event.Fits, ihinside, ihrest]

/-- Inside of an element nothing counts as a root. -/
theorem rootCount_events_of_ne_nil (f : Forest) {names : List (List Char)} (h : names ≠ []) :
    rootCount names f.events = 0 := by
  induction f generalizing names with
  | nil => rfl
  | empty tag rest ih => simp [events, Event.nest, Event.addsRoot, h, ih h]
  | element tag inside rest ihinside ihrest =>
    simp [events, Event.nest, Event.addsRoot, h, ihinside, ihrest h]

theorem rootCount_events (f : Forest) : rootCount [] f.events = f.roots := by
  induction f with
  | nil => rfl
  | empty tag rest ih => simp [events, roots, Event.nest, Event.addsRoot, ih, Nat.add_comm]
  | element tag inside rest _ ihrest =>
    simp [events, roots, Event.nest, Event.addsRoot, rootCount_events_of_ne_nil, ihrest,
      Nat.add_comm]

end Forest

/-! ## What nests well is a forest -/

/-- Events that close the elements of the given names one after another, with whole elements in
front of each end tag and behind the last one. -/
inductive Closing : List (List Char) → List Event → Prop
  | done (f : Forest) : Closing [] f.events
  | close (f : Forest) {name : List Char} {names : List (List Char)} {es : List Event}
    (h : Closing names es) : Closing (name :: names) (f.events ++ .endTag name :: es)

namespace Closing

variable {names : List (List Char)} {name : List Char} {es : List Event}

theorem exists_forest (h : Closing [] es) : ∃ f : Forest, es = f.events := by
  cases h with
  | done f => exact ⟨f, rfl⟩

theorem exists_close (h : Closing (name :: names) es) :
    ∃ (f : Forest) (rest : List Event), es = f.events ++ .endTag name :: rest ∧ Closing names rest := by
  cases h with
  | close f h => exact ⟨f, _, rfl, h⟩

theorem empty (tag : Tag) (h : Closing names es) : Closing names (.emptyTag tag :: es) := by
  cases h with
  | done f => exact .done (.empty tag f)
  | close f h => exact .close (.empty tag f) h

theorem element (tag : Tag) (h : Closing (tag.name :: names) es) :
    Closing names (.startTag tag :: es) := by
  obtain ⟨inside, rest, rfl, hrest⟩ := h.exists_close
  cases hrest with
  | done f => exact .done (.element tag inside f)
  | @close f outer names rest hrest =>
    have : Closing (outer :: names) ((Forest.element tag inside f).events ++ .endTag outer :: rest) :=
      .close (.element tag inside f) hrest
    simpa only [Forest.events, List.cons_append, List.append_assoc] using this

end Closing

/-- Read from its end, a sequence of tags that nests well closes what is open in front of it. -/
theorem closing_of_nests {names : List (List Char)} {es : List Event} (htags : ∀ e ∈ es, e.isTag)
    (hnests : Nests names es) (hopen : openAfter names es = []) : Closing names es := by
  induction es generalizing names with
  | nil =>
    rw [openAfter_nil] at hopen
    rw [hopen]
    exact .done .nil
  | cons e es ih =>
    obtain ⟨hfits, hrest⟩ := hnests
    have hclosing := ih (fun e he => htags e (List.mem_cons_of_mem _ he)) hrest hopen
    cases e with
    | startTag tag => exact hclosing.element tag
    | emptyTag tag => exact hclosing.empty tag
    | endTag name =>
      cases names with
      | nil => cases hfits
      | cons outer names =>
        cases hfits
        exact .close .nil hclosing
    | _ => cases htags _ (List.mem_cons_self ..)

/-- The tags of events that nest well and leave nothing open are those of a forest. -/
theorem exists_forest_of_nests {es : List Event} (hnests : Nests [] es)
    (hopen : openAfter [] es = []) :
    ∃ f : Forest, f.roots = rootCount [] es ∧ tags es = f.events := by
  have htags : ∀ e ∈ tags es, e.isTag := fun e he => (List.mem_filter.mp he).2
  obtain ⟨f, hf⟩ := (closing_of_nests htags (nests_tags.mpr hnests)
    (openAfter_tags.trans hopen)).exists_forest
  refine ⟨f, ?_, hf⟩
  rw [← f.rootCount_events, ← hf, rootCount_tags]

/-- Events whose tags are those of a forest nest well, leave nothing open, and have its roots. -/
theorem nests_of_forest {es : List Event} {f : Forest} (h : tags es = f.events) :
    Nests [] es ∧ openAfter [] es = [] ∧ rootCount [] es = f.roots := by
  refine ⟨nests_tags.mp ?_, openAfter_tags.symm.trans ?_, rootCount_tags.symm.trans ?_⟩
  · rw [h]
    exact f.nests_events []
  · rw [h]
    exact f.openAfter_events []
  · rw [h]
    exact f.rootCount_events

end SuiteSplit.Xml
