import Mathlib.Tactic.Common
import SuiteSplit.Proofs.Markup
import SuiteSplit.Proofs.Reading
import SuiteSplit.Proofs.Rounding
import SuiteSplit.Report

/-!
What a `testcase` tag has to look like.

A tag is that of a test case if its attributes can be read to the last one, it states a class and a
name, and its time, if there is one, is a time. What it gives is then what its own attributes say.
Otherwise the fault that is reported is the one that stands first in the tag; what is missing counts
behind everything that stands there.
-/

namespace SuiteSplit

open Xml

/-! ## Times -/

/-- The text of a time: blank, or the numeral of a number of seconds between zero and the longest
time of one test. -/
def StatesTime (raw : List Char) : Prop :=
  Text.trim Text.isWhiteSpace raw = [] ∨
    ∃ numeral x, Numeral.read? (Text.trim Text.isWhiteSpace raw) = some numeral ∧
      Binary64.ofDecimal? numeral.value = some x ∧ (numeral.negative → x = .zero) ∧
      x.leNat maxCaseSeconds

namespace Duration

/-- A duration holds every time that a test can have. -/
theorem ofSeconds?_isSome {x : Binary64} (h : x.leNat maxCaseSeconds) : (ofSeconds? x).isSome := by
  have hsteps : x.steps < 2 ^ 64 * Binary64.stepsPerOne := by
    have hle : x.steps ≤ maxCaseSeconds * Binary64.stepsPerOne := of_decide_eq_true h
    exact Nat.lt_of_le_of_lt hle (Nat.mul_lt_mul_of_pos_right (by decide) Binary64.stepsPerOne_pos)
  have hbelow : x.ltNat (2 ^ 64) := decide_eq_true hsteps
  rw [ofSeconds?, if_pos hbelow]
  rfl

theorem ofTimeText?_isSome_iff {raw : List Char} : (ofTimeText? raw).isSome ↔ StatesTime raw := by
  unfold ofTimeText? StatesTime
  simp only
  split
  · next hblank => simp [hblank]
  · next hblank =>
    cases hread : Numeral.read? (Text.trim Text.isWhiteSpace raw) with
    | none => simp [hblank]
    | some numeral =>
      cases hnumber : Binary64.ofDecimal? numeral.value with
      | none => simp [hblank, hnumber]
      | some x =>
        by_cases hnegative : numeral.negative ∧ x ≠ .zero
        · simp [hblank, hnumber, hnegative]
        · have hsign : numeral.negative → x = .zero := fun h => not_not.mp fun hx => hnegative ⟨h, hx⟩
          by_cases hrange : x.leNat maxCaseSeconds
          · have := ofSeconds?_isSome hrange
            simp [hblank, hnumber, hnegative, ofCaseSeconds?, hrange, this]
            exact hsign
          · simp [hblank, hnumber, hnegative, ofCaseSeconds?, hrange]

end Duration

namespace Report

/-! ## One attribute -/

/-- What is wrong with an attribute of a test case. -/
inductive AttributeFault (a : Attribute) : Defect → Prop
  | value {error : ReferenceError} (h : Reference.expand a.value = .error error) :
    AttributeFault a (.attributeValue error)
  | time {value : List Char} (hkey : a.key = "time".toList) (h : Reference.expand a.value = .ok value)
    (htime : ¬ StatesTime value) : AttributeFault a (.invalidTime value)

/-- An attribute that a test case can have. -/
def IsReadable (a : Attribute) : Prop :=
  ∃ value, Reference.expand a.value = .ok value ∧ (a.key = "time".toList → StatesTime value)

theorem take_eq_error_iff {known : CaseAttributes} {a : Attribute} {d : Defect} :
    known.take a = .error d ↔ AttributeFault a d := by
  unfold CaseAttributes.take
  constructor
  · intro h
    split at h
    · next hvalue => cases h; exact .value hvalue
    · next value hvalue =>
      split_ifs at h with hclass hname htime
      split at h
      · cases h
      · next hnone =>
        cases h
        refine .time htime hvalue ?_
        intro hstates
        rw [← Duration.ofTimeText?_isSome_iff, hnone] at hstates
        cases hstates
  · rintro (⟨hvalue⟩ | ⟨hkey, hvalue, htime⟩)
    · rw [hvalue]
    · rw [← Duration.ofTimeText?_isSome_iff, Option.not_isSome_iff_eq_none] at htime
      rw [hvalue, hkey]
      simp only
      rw [if_neg (by decide), if_neg (by decide), if_pos trivial, htime]

theorem exists_take_iff (known : CaseAttributes) {a : Attribute} :
    (∃ known', known.take a = .ok known') ↔ IsReadable a := by
  unfold CaseAttributes.take IsReadable
  cases hvalue : Reference.expand a.value with
  | error e => simp
  | ok value =>
    simp only [Except.ok.injEq, exists_eq_left', ← Duration.ofTimeText?_isSome_iff]
    split_ifs with hclass hname htime
    · simp [hclass]
    · simp [hname]
    · cases Duration.ofTimeText? value <;> simp [htime]
    · exact iff_of_true ⟨_, rfl⟩ (absurd · htime)

/-! ## What the attributes say -/

/-- One of the attributes has the key, and its value reads so. -/
def HasValue (attributes : List Attribute) (key : String) (value : List Char) : Prop :=
  ∃ a ∈ attributes, a.key = key.toList ∧ Reference.expand a.value = .ok value

/-- None of the attributes has the key. -/
def Lacks (attributes : List Attribute) (key : String) : Prop :=
  ∀ a ∈ attributes, a.key ≠ key.toList

/-- What is known of a key is what the attributes say. -/
def Says (attributes : List Attribute) (key : String) : Option (List Char) → Prop
  | none => Lacks attributes key
  | some value => HasValue attributes key value

/-- The duration that the attributes state; without a time it is zero. -/
def StatesDuration (attributes : List Attribute) (duration : Duration) : Prop :=
  Lacks attributes "time" ∧ duration = .zero ∨
    ∃ value, HasValue attributes "time" value ∧ Duration.ofTimeText? value = some duration

section

variable {attributes : List Attribute} {a : Attribute} {key : String} {value : List Char}

theorem HasValue.not_lacks (h : HasValue attributes key value) : ¬ Lacks attributes key := by
  obtain ⟨a, ha, hkey, -⟩ := h
  exact fun hlacks => hlacks a ha hkey

theorem Says.eq_none_iff {known : Option (List Char)} (h : Says attributes key known) :
    known = none ↔ Lacks attributes key := by
  cases known with
  | none => exact iff_of_true rfl h
  | some value => exact iff_of_false nofun (HasValue.not_lacks h)

theorem HasValue.concat (h : HasValue attributes key value) : HasValue (attributes ++ [a]) key value := by
  obtain ⟨b, hb, hkey, hvalue⟩ := h
  exact ⟨b, List.mem_append_left _ hb, hkey, hvalue⟩

theorem hasValue_concat (hkey : a.key = key.toList) (h : Reference.expand a.value = .ok value) :
    HasValue (attributes ++ [a]) key value :=
  ⟨a, by simp, hkey, h⟩

theorem Lacks.concat (h : Lacks attributes key) (hkey : a.key ≠ key.toList) :
    Lacks (attributes ++ [a]) key := by
  intro b hb
  rcases List.mem_append.mp hb with hb | hb
  · exact h b hb
  · rw [List.mem_singleton.mp hb]
    exact hkey

/-- An attribute says nothing about other keys than its own. -/
theorem Says.concat {known : Option (List Char)} (h : Says attributes key known)
    (hkey : a.key ≠ key.toList) : Says (attributes ++ [a]) key known := by
  cases known with
  | none => exact Lacks.concat h hkey
  | some value => exact HasValue.concat h

theorem StatesDuration.concat {duration : Duration} (h : StatesDuration attributes duration)
    (hkey : a.key ≠ "time".toList) : StatesDuration (attributes ++ [a]) duration := by
  rcases h with ⟨hlacks, hzero⟩ | ⟨value, hvalue, htime⟩
  · exact .inl ⟨hlacks.concat hkey, hzero⟩
  · exact .inr ⟨value, hvalue.concat, htime⟩

end

/-- What was taken so far is what the attributes say. -/
structure Gathered (attributes : List Attribute) (known : CaseAttributes) : Prop where
  classname : Says attributes "classname" known.classname
  name : Says attributes "name" known.name
  duration : StatesDuration attributes known.duration

theorem gathered_nil : Gathered [] {} where
  classname := nofun
  name := nofun
  duration := .inl ⟨nofun, rfl⟩

theorem Gathered.take {attributes : List Attribute} {known known' : CaseAttributes} {a : Attribute}
    (h : Gathered attributes known) (htake : known.take a = .ok known') :
    Gathered (attributes ++ [a]) known' := by
  unfold CaseAttributes.take at htake
  split at htake
  · cases htake
  · next value hvalue =>
    split_ifs at htake with hclass hname htime
    · cases htake
      exact ⟨hasValue_concat hclass hvalue, h.name.concat (by rw [hclass]; decide),
        h.duration.concat (by rw [hclass]; decide)⟩
    · cases htake
      exact ⟨h.classname.concat hclass, hasValue_concat hname hvalue,
        h.duration.concat (by rw [hname]; decide)⟩
    · split at htake
      · next duration hduration =>
        cases htake
        exact ⟨h.classname.concat hclass, h.name.concat hname,
          .inr ⟨value, hasValue_concat htime hvalue, hduration⟩⟩
      · cases htake
    · cases htake
      exact ⟨h.classname.concat hclass, h.name.concat hname, h.duration.concat htime⟩

theorem Gathered.foldlM {attributes more : List Attribute} {known known' : CaseAttributes}
    (h : Gathered attributes known) (hfold : more.foldlM CaseAttributes.take known = .ok known') :
    Gathered (attributes ++ more) known' := by
  induction more generalizing attributes known with
  | nil =>
    cases hfold
    rwa [List.append_nil]
  | cons a more ih =>
    obtain ⟨middle, htake, hrest⟩ := foldlM_cons_ok_iff.mp hfold
    have := ih (h.take htake) hrest
    rwa [List.append_assoc] at this

theorem exists_foldlM_take_iff (known : CaseAttributes) {attributes : List Attribute} :
    (∃ known', attributes.foldlM CaseAttributes.take known = .ok known') ↔
      ∀ a ∈ attributes, IsReadable a := by
  induction attributes generalizing known with
  | nil => simp [pure, Except.pure]
  | cons a attributes ih =>
    rw [List.forall_mem_cons, ← exists_take_iff known, List.foldlM_cons]
    cases known.take a with
    | error e => simp [bind, Except.bind]
    | ok middle => simpa [bind, Except.bind] using ih middle

/-! ## The tag -/

/-- A tag of a test case. -/
structure IsCase (tag : Tag) : Prop where
  listed : tag.attributes.fault = none
  unique : (tag.attributes.items.map (·.key)).Nodup
  readable : ∀ a ∈ tag.attributes.items, IsReadable a
  classname : ¬ Lacks tag.attributes.items "classname"
  name : ¬ Lacks tag.attributes.items "name"

/-- The first thing that is wrong with a tag of a test case. -/
inductive CaseFault (tag : Tag) : Defect → Prop
  | unreadable {before after : List Attribute} {a : Attribute} {d : Defect}
    (split : tag.attributes.items = before ++ a :: after) (readable : ∀ b ∈ before, IsReadable b)
    (fault : AttributeFault a d) : CaseFault tag d
  | list {error : AttributeError} (readable : ∀ a ∈ tag.attributes.items, IsReadable a)
    (fault : tag.attributes.fault = some error) : CaseFault tag (.attributeList error)
  | classname (readable : ∀ a ∈ tag.attributes.items, IsReadable a)
    (listed : tag.attributes.fault = none) (lacks : Lacks tag.attributes.items "classname") :
    CaseFault tag (.missingAttribute "classname")
  | name (readable : ∀ a ∈ tag.attributes.items, IsReadable a)
    (listed : tag.attributes.fault = none) (states : ¬ Lacks tag.attributes.items "classname")
    (lacks : Lacks tag.attributes.items "name") : CaseFault tag (.missingAttribute "name")

/-- A test case is what its tag says. -/
structure Describes (tag : Tag) (classname name : String) (duration : Duration) : Prop where
  classname : HasValue tag.attributes.items "classname" classname.toList
  name : HasValue tag.attributes.items "name" name.toList
  duration : StatesDuration tag.attributes.items duration

section

variable {tag : Tag} {d : Defect}

/-- The fold over the attributes comes to its end where the list does and every attribute can be
read. -/
theorem exists_fold_attributes (hreadable : ∀ a ∈ tag.attributes.items, IsReadable a)
    (hlisted : tag.attributes.fault = none) :
    ∃ known, tag.attributes.fold CaseAttributes.take Defect.attributeList {} = .ok known ∧
      Gathered tag.attributes.items known := by
  obtain ⟨known, hfold⟩ := (exists_foldlM_take_iff {}).mpr hreadable
  exact ⟨known, Reading.fold_eq_ok_iff.mpr ⟨hfold, hlisted⟩, by simpa using gathered_nil.foldlM hfold⟩

theorem ofTag_of_caseFault (h : CaseFault tag d) : OpenCase.ofTag tag = .error d := by
  unfold OpenCase.ofTag
  cases h with
  | @unreadable before after a d hsplit hreadable hfault =>
    obtain ⟨known, hbefore⟩ := (exists_foldlM_take_iff {}).mpr hreadable
    have hitems := foldlM_eq_error_iff.mpr
      ⟨before, a, after, known, hsplit, hbefore, take_eq_error_iff.mpr hfault⟩
    rw [Reading.fold_eq_error_iff.mpr (.inl hitems)]
  | list hreadable hfault =>
    obtain ⟨known, hitems⟩ := (exists_foldlM_take_iff {}).mpr hreadable
    rw [Reading.fold_eq_error_iff.mpr (.inr ⟨known, _, hitems, hfault, rfl⟩)]
  | classname hreadable hlisted hlacks =>
    obtain ⟨known, hfold, hgathered⟩ := exists_fold_attributes hreadable hlisted
    rw [hfold]
    simp only
    rw [hgathered.classname.eq_none_iff.mpr hlacks]
  | name hreadable hlisted hstates hlacks =>
    obtain ⟨known, hfold, hgathered⟩ := exists_fold_attributes hreadable hlisted
    obtain ⟨classname, hclass⟩ :=
      Option.ne_none_iff_exists'.mp (mt hgathered.classname.eq_none_iff.mp hstates)
    rw [hfold]
    simp only
    rw [hclass, hgathered.name.eq_none_iff.mpr hlacks]

theorem caseFault_of_ofTag (h : OpenCase.ofTag tag = .error d) : CaseFault tag d := by
  unfold OpenCase.ofTag at h
  split at h
  · next e hfold =>
    cases h
    rcases Reading.fold_eq_error_iff.mp hfold with hitems | ⟨known, error, hitems, hfault, rfl⟩
    · obtain ⟨before, a, after, known, hsplit, hbefore, htake⟩ := foldlM_eq_error_iff.mp hitems
      exact .unreadable hsplit ((exists_foldlM_take_iff _).mp ⟨known, hbefore⟩) (take_eq_error_iff.mp htake)
    · exact .list ((exists_foldlM_take_iff _).mp ⟨known, hitems⟩) hfault
  · next known hfold =>
    obtain ⟨hitems, hlisted⟩ := Reading.fold_eq_ok_iff.mp hfold
    have hreadable := (exists_foldlM_take_iff _).mp ⟨known, hitems⟩
    have hgathered : Gathered tag.attributes.items known := by
      simpa using gathered_nil.foldlM hitems
    split at h
    · next hclass =>
      cases h
      exact .classname hreadable hlisted (hgathered.classname.eq_none_iff.mp hclass)
    · next hname hclass =>
      cases h
      exact .name hreadable hlisted (mt hgathered.classname.eq_none_iff.mpr hclass)
        (hgathered.name.eq_none_iff.mp hname)
    · cases h

theorem ofTag_eq_error_iff : OpenCase.ofTag tag = .error d ↔ CaseFault tag d :=
  ⟨caseFault_of_ofTag, ofTag_of_caseFault⟩

/-- A test case is what its tag says, and the tag was read to its end. -/
theorem describes_of_ofTag {c : OpenCase} (h : OpenCase.ofTag tag = .ok c) :
    Describes tag c.classname c.name c.duration ∧ tag.attributes.fault = none ∧
      ∀ a ∈ tag.attributes.items, IsReadable a := by
  unfold OpenCase.ofTag at h
  split at h
  · cases h
  · next known hfold =>
    obtain ⟨hitems, hlisted⟩ := Reading.fold_eq_ok_iff.mp hfold
    have hgathered : Gathered tag.attributes.items known := by
      simpa using gathered_nil.foldlM hitems
    refine ⟨?_, hlisted, (exists_foldlM_take_iff _).mp ⟨known, hitems⟩⟩
    split at h
    · cases h
    · cases h
    · next classname name hclass hname =>
      cases h
      have hsaysClass := hgathered.classname
      have hsaysName := hgathered.name
      rw [hclass] at hsaysClass
      rw [hname] at hsaysName
      exact ⟨by simpa [Says] using hsaysClass, by simpa [Says] using hsaysName, hgathered.duration⟩

theorem exists_ofTag_iff : (∃ c, OpenCase.ofTag tag = .ok c) ↔ IsCase tag := by
  constructor
  · rintro ⟨c, h⟩
    obtain ⟨hdescribes, hlisted, hreadable⟩ := describes_of_ofTag h
    exact ⟨hlisted, tag.nodup_keys, hreadable, hdescribes.classname.not_lacks,
      hdescribes.name.not_lacks⟩
  · rintro ⟨hlisted, -, hreadable, hclass, hname⟩
    cases h : OpenCase.ofTag tag with
    | ok c => exact ⟨c, rfl⟩
    | error d =>
      exfalso
      cases caseFault_of_ofTag h with
      | @unreadable before after a d hsplit _ hfault =>
        have ha : IsReadable a := hreadable a (by rw [hsplit]; simp)
        rw [← exists_take_iff {}] at ha
        obtain ⟨known', htake⟩ := ha
        rw [take_eq_error_iff.mpr hfault] at htake
        cases htake
      | list _ hfault => rw [hlisted] at hfault; cases hfault
      | classname _ _ hlacks => exact hclass hlacks
      | name _ _ _ hlacks => exact hname hlacks

theorem IsCase.not_caseFault (h : IsCase tag) : ¬ CaseFault tag d := by
  obtain ⟨c, hc⟩ := exists_ofTag_iff.mpr h
  intro hfault
  rw [ofTag_of_caseFault hfault] at hc
  cases hc

end

end Report

end SuiteSplit
