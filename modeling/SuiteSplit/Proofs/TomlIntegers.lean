import Mathlib.Tactic.Common
import SuiteSplit.Toml.Reader

/-!
Every integer of a TOML document fits 64 bits.

An integer is checked when it is read. What is read into arrays and tables and what headers and dotted
keys add to a table keeps the integers as they are, so none of a whole document is out of range.
-/

namespace SuiteSplit.Toml

/-! ## What a reader gives -/

/-- Whatever comes of an attempt has a property. -/
def Gives {α : Type} (p : α → Prop) (attempt : Option α) : Prop := ∀ a, attempt = some a → p a

namespace Gives

variable {α β : Type} {p : α → Prop} {q : β → Prop} {attempt : Option α}

theorem none : Gives p none := nofun

theorem some {a : α} (h : p a) : Gives p (some a) := by
  rintro _ ⟨⟩
  exact h

theorem bind {f : α → Option β} (h : Gives p attempt) (hf : ∀ a, p a → Gives q (f a)) :
    Gives q (attempt.bind f) := by
  intro b hb
  obtain ⟨a, ha, hfa⟩ := Option.bind_eq_some_iff.mp hb
  exact hf a (h a ha) b hfa

/-- Goes on with whatever was read. -/
theorem bind_any {f : α → Option β} (hf : ∀ a, Gives q (f a)) : Gives q (attempt.bind f) :=
  bind (p := fun _ => True) (fun _ _ => trivial) fun a _ => hf a

theorem map {f : α → β} (h : Gives p attempt) (hf : ∀ a, p a → q (f a)) :
    Gives q (attempt.map f) := by
  intro b hb
  obtain ⟨a, ha, rfl⟩ := Option.map_eq_some_iff.mp hb
  exact hf a (h a ha)

theorem map_any {f : α → β} (hf : ∀ a, q (f a)) : Gives q (attempt.map f) :=
  map (p := fun _ => True) (fun _ _ => trivial) fun a _ => hf a

theorem ite {c : Prop} [Decidable c] {other : Option α} (h : Gives p attempt)
    (hother : Gives p other) : Gives p (if c then attempt else other) := by
  split
  · exact h
  · exact hother

theorem orElse {other : Unit → Option α} (h : Gives p attempt) (hother : Gives p (other ())) :
    Gives p (attempt.orElse other) := by
  cases attempt with
  | none => exact hother
  | some a => exact h

end Gives

/-! ## Values -/

/-- All integers in a value fit 64 bits. -/
inductive Value.Fits : Value → Prop
  | text (s : List Char) : Fits (.text s)
  | integer {n : Int} (low : minInteger ≤ n) (high : n ≤ maxInteger) : Fits (.integer n)
  | float (literal : List Char) : Fits (.float literal)
  | bool (b : Bool) : Fits (.bool b)
  | moment (literal : List Char) : Fits (.moment literal)
  | array {items : List Value} (h : ∀ v ∈ items, v.Fits) : Fits (.array items)
  | table {origin : Origin} {entries : Entries} (h : ∀ e ∈ entries, e.2.Fits) :
    Fits (.table origin entries)
  | tables {items : List Entries} (h : ∀ entries ∈ items, ∀ e ∈ entries, e.2.Fits) :
    Fits (.tables items)

/-- All integers in a table fit 64 bits. -/
def Entries.Fit (entries : Entries) : Prop := ∀ e ∈ entries, e.2.Fits

/-! ## Simple values -/

/-- A reader gives values whose integers fit. -/
abbrev GivesFit (attempt : Read Value) : Prop := Gives (·.1.Fits) attempt

theorem fits_integer? (n : Int) : Gives Value.Fits (integer? n) := by
  rw [integer?]
  split
  · next h => exact .some (.integer h.1 h.2)
  · exact .none

theorem fits_readInBase? (base : Nat) (cs : List Char) : GivesFit (readInBase? base cs) :=
  .bind_any fun _ => (fits_integer? _).map fun _ h => h

theorem fits_float? (literal : List Char) : Gives Value.Fits (float? literal) :=
  .bind_any fun _ => .ite (.some (.float _)) .none

theorem fits_readNumber? (cs : List Char) : GivesFit (readNumber? cs) := by
  unfold readNumber?
  split
  · exact fits_readInBase? _ _
  · exact fits_readInBase? _ _
  · exact fits_readInBase? _ _
  · refine .ite (.some (Value.Fits.float _)) ?_
    refine .bind_any fun _ => .bind_any fun _ => .bind_any fun _ => .ite ?_ ?_
    · exact (fits_integer? _).map fun _ h => h
    · exact (fits_float? _).map fun _ h => h

theorem fits_readMoment? (cs : List Char) : GivesFit (readMoment? cs) := .map_any fun _ => .moment _

theorem fits_readWord? (cs : List Char) : GivesFit (readWord? cs) := by
  intro a ha
  obtain ⟨⟨word, b⟩, -, hword⟩ := List.exists_of_findSome?_eq_some ha
  dsimp only at hword
  split at hword
  · cases hword
    exact .bool b
  · cases hword

theorem fits_readScalar? (cs : List Char) : GivesFit (readScalar? cs) := by
  unfold readScalar?
  split
  · exact .map_any fun _ => .text _
  · exact .map_any fun _ => .text _
  · exact (fits_readWord? cs).orElse ((fits_readMoment? cs).orElse (fits_readNumber? cs))

/-! ## Tables -/

namespace Entries

variable {entries : Entries} {key : Key} {v : Value} {path : List Key} {origin : Origin}

theorem fit_nil : Fit [] := fun _ he => absurd he List.not_mem_nil

theorem Fit.of_lookup (h : entries.Fit) (hkey : entries.lookup key = some v) : v.Fits := by
  obtain ⟨before, after, rfl, -⟩ := List.lookup_eq_some_iff.mp hkey
  exact h (key, v) (by simp)

theorem Fit.append (h : entries.Fit) (hv : v.Fits) : Fit (entries ++ [(key, v)]) := by
  intro e he
  rcases List.mem_append.mp he with he | he
  · exact h e he
  · rw [List.mem_singleton.mp he]
    exact hv

theorem Fit.replace (h : entries.Fit) (hv : v.Fits) : Fit (entries.replace key v) := by
  intro e he
  obtain ⟨old, hold, rfl⟩ := List.mem_map.mp he
  dsimp only
  split
  · exact hv
  · exact h old hold

theorem Fit.add? (h : entries.Fit) (hv : v.Fits) : Gives Fit (entries.add? key v) := by
  rw [Entries.add?]
  split
  · exact .some (h.append hv)
  · exact .none

/-- A change at the end of a path keeps the integers if it keeps them there. -/
theorem Fit.descend? {byDots : Bool} {change : Origin × Entries → Option Entries}
    (hchange : ∀ origin entries, Fit entries → Gives Fit (change (origin, entries)))
    (h : entries.Fit) : Gives Fit (Entries.descend? byDots path change origin entries) := by
  induction path generalizing origin entries with
  | nil => exact hchange origin entries h
  | cons key path ih =>
    rw [Entries.descend?]
    split
    · exact (ih fit_nil).map fun _ hinner => h.append (.table hinner)
    · next inner hlookup =>
      split
      · exact .none
      · cases h.of_lookup hlookup with
        | table hinner => exact (ih hinner).map fun _ hinner => h.replace (.table hinner)
    · next items hlookup =>
      split
      · exact .none
      · next last hlast =>
        cases h.of_lookup hlookup with
        | tables hitems =>
          refine (ih (hitems last (List.mem_of_getLast? hlast))).map fun inner hinner => ?_
          refine h.replace (.tables ?_)
          intro table htable
          rcases List.mem_append.mp htable with htable | htable
          · exact hitems table (List.dropLast_subset _ htable)
          · rw [List.mem_singleton.mp htable]
            exact hinner
    · exact .none

theorem Fit.insert? (h : entries.Fit) (hv : v.Fits) :
    Gives Fit (Entries.insert? path key v (origin, entries)) := by
  refine h.descend? ?_
  intro origin entries h
  dsimp only
  split
  · exact .none
  · exact h.add? hv

theorem Fit.openTable? (h : entries.Fit) : Gives Fit (Entries.openTable? path key entries) := by
  refine h.descend? ?_
  intro origin entries h
  dsimp only
  split
  · exact .some (h.append (.table fit_nil))
  · next inner hlookup =>
    cases h.of_lookup hlookup with
    | table hinner => exact .some (h.replace (.table hinner))
  · exact .none

theorem Fit.appendTable? (h : entries.Fit) : Gives Fit (Entries.appendTable? path key entries) := by
  refine h.descend? ?_
  intro origin entries h
  dsimp only
  split
  · exact .some (h.append (.tables (by simp)))
  · next items hlookup =>
    cases h.of_lookup hlookup with
    | tables hitems =>
      refine .some (h.replace (.tables ?_))
      intro table htable
      rcases List.mem_append.mp htable with htable | htable
      · exact hitems table htable
      · rw [List.mem_singleton.mp htable]
        exact fit_nil
  · exact .none

end Entries

/-! ## Values that hold others -/

/-- One step more of each of the three readers uses fewer steps of the others. -/
theorem fits_readValue?_items_members (steps : Nat) :
    (∀ levels cs, GivesFit (readValue? levels steps cs)) ∧
    (∀ levels cs, Gives (∀ v ∈ ·.1, Value.Fits v) (readItems? levels steps cs)) ∧
    ∀ levels entries cs, Entries.Fit entries →
      Gives (Entries.Fit ·.1) (readMembers? levels entries steps cs) := by
  induction steps with
  | zero => exact ⟨fun _ _ => .none, fun _ _ => .none, fun _ _ _ _ => .none⟩
  | succ steps ih =>
    obtain ⟨hvalue, hitems, hmembers⟩ := ih
    refine ⟨?_, ?_, ?_⟩
    · intro levels cs
      unfold readValue?
      split
      · exact .none
      · exact .none
      · exact (hitems _ _).map fun _ h => .array h
      · split
        · exact .some (.table Entries.fit_nil)
        · exact (hmembers _ _ _ Entries.fit_nil).map fun _ h => .table h
      · exact fits_readScalar? _
    · intro levels cs
      unfold readItems?
      split
      · exact .none
      · exact .some nofun
      · refine (hvalue _ _).bind fun (v, cs) hv => ?_
        dsimp only
        split
        · exact (hitems _ _).map fun _ hvs => List.forall_mem_cons.mpr ⟨hv, hvs⟩
        · exact .some (List.forall_mem_singleton.mpr hv)
        · exact .none
    · intro levels entries cs hentries
      unfold readMembers?
      refine .bind_any fun _ => .bind_any fun _ => (hvalue _ _).bind fun (v, cs) hv =>
        (hentries.insert? hv).bind fun entries hentries => ?_
      split
      · exact hmembers _ _ _ hentries
      · exact .some hentries
      · exact .none

theorem fits_readValue? (levels steps : Nat) (cs : List Char) :
    GivesFit (readValue? levels steps cs) := (fits_readValue?_items_members steps).1 levels cs

/-! ## Documents -/

namespace Document

/-- All integers in what was read of a document fit 64 bits. -/
def Fits (d : Document) : Prop := d.entries.Fit

variable {d : Document}

theorem Fits.insert? {path : List Key} {key : Key} {v : Value} (h : d.Fits) (hv : v.Fits) :
    Gives Fits (d.insert? path key v) :=
  (Entries.Fit.descend? (fun _ _ hentries => hentries.insert? hv) h).map fun _ h => h

theorem Fits.readHeader? (h : d.Fits) (cs : List Char) : Gives (Fits ·.1) (d.readHeader? cs) := by
  unfold Document.readHeader?
  split
  · refine .bind_any fun _ => .bind_any fun _ => .bind_any fun _ => ?_
    exact (Entries.Fit.appendTable? h).bind fun _ h => .some h
  · refine .bind_any fun _ => .bind_any fun _ => ?_
    exact (Entries.Fit.openTable? h).bind fun _ h => .some h

theorem Fits.readEntry? (h : d.Fits) (cs : List Char) : Gives (Fits ·.1) (d.readEntry? cs) := by
  refine .bind_any fun _ => .bind_any fun _ => ?_
  exact (fits_readValue? _ _ _).bind fun _ hv => (h.insert? hv).bind fun _ h => .some h

theorem Fits.readLines? (h : d.Fits) (steps : Nat) (cs : List Char) :
    Gives Fits (d.readLines? steps cs) := by
  induction steps generalizing d cs with
  | zero => exact .none
  | succ steps ih =>
    unfold Document.readLines?
    split
    · exact .some h
    · exact (h.readHeader? _).bind fun _ h => .bind_any (ih h)
    · exact .ite (.bind_any (ih h)) ((h.readEntry? _).bind fun _ h => .bind_any (ih h))

end Document

/-- No integer of a document is out of range. -/
theorem fit_read? (text : String) : Gives Entries.Fit (read? text) :=
  (Document.Fits.readLines? (d := ⟨[], []⟩) Entries.fit_nil _ _).map fun _ h => h

end SuiteSplit.Toml
