import SuiteSplit.Proofs.Batch
import SuiteSplit.Proofs.Codec

/-!
The total of a batch over its history.

Groups are added to a batch, and in between it may be written as JSON and be replaced by what is read
of that. The total is written beside the tests and is rounded on its own. Up to 2^23 seconds it comes
back as it was, as the times of the tests do, so that reading changes nothing and the total stays the
sum of the tests' times. One nanosecond more comes back as two.
-/

namespace SuiteSplit

namespace Duration

/-- Up to here every duration is read back as it was: 2^23 seconds, some 97 days. -/
def exactLimit : Nat := 2 ^ 23 * nanosPerSecond

theorem ofJson?_toJson_of_le {d : Duration} (h : d.nanos ≤ exactLimit) :
    ofJson? d.toJson = some d := by
  rcases Nat.lt_or_eq_of_le h with hless | hsame
  · apply ofJson?_toJson_of_lt
    rwa [seconds, Nat.div_lt_iff_lt_mul (by decide)]
  · obtain rfl : d = ofNanos exactLimit := Duration.ext hsame
    decide +kernel

theorem ofJson?_toJson_succ_exactLimit :
    ofJson? (ofNanos (exactLimit + 1)).toJson = some (ofNanos (exactLimit + 2)) := by
  decide +kernel

end Duration

namespace Batch

variable {b c : Batch} {g : ClassGroup} {layout : Json.Layout}

/-! ## One step -/

/-- The total is the sum of the tests' times, and these are of at most thirty days each. -/
structure IsSummed (b : Batch) : Prop where
  tests : ∀ t ∈ b.tests, t.duration.nanos ≤ Duration.maxRecorded
  total : b.total = Duration.sum (b.tests.map (·.duration))

theorem isSummed_empty (number : Nat) : (empty number).IsSummed := ⟨nofun, rfl⟩

theorem IsSummed.add (h : b.IsSummed)
    (hg : ∀ t ∈ g.tests, t.duration.nanos ≤ Duration.maxRecorded) : (b.add g).IsSummed where
  tests := List.forall_mem_append.mpr ⟨h.tests, hg⟩
  total := by
    rw [total_add, tests_add, List.map_append, Duration.sum_append, h.total]
    rfl

/-- A batch with a total of at most 2^23 seconds is read back as it was. -/
theorem eq_of_read?_render (htests : ∀ t ∈ b.tests, t.duration.nanos ≤ Duration.maxRecorded)
    (htotal : b.total.nanos ≤ Duration.exactLimit)
    (hread : read? ((ManifestFormat.json layout).render b) = some c) : c = b := by
  obtain ⟨hnumber, hrecords, hduration⟩ := read?_render_eq_some_iff.mp hread
  rw [mapM_ofJson?_toJson htests] at hrecords
  rw [Duration.ofJson?_toJson_of_le htotal] at hduration
  obtain ⟨number, tests, total⟩ := c
  obtain rfl : number = b.number := Json.Value.eq_of_toCount?_ofNat hnumber
  obtain rfl := Option.some.inj hrecords
  obtain rfl := Option.some.inj hduration
  rfl

/-! ## Whole histories -/

/-- A batch after groups of tests of up to thirty days were added to an empty one and it was read back
from JSON, in any order. The durations are the totals that were written, the last one first. -/
inductive History (number : Nat) : List Duration → Batch → Prop
  | start : History number [] (empty number)
  | add {stored : List Duration} {b : Batch} {g : ClassGroup} (before : History number stored b)
    (tests : ∀ t ∈ g.tests, t.duration.nanos ≤ Duration.maxRecorded) : History number stored (b.add g)
  | reread {stored : List Duration} {b c : Batch} {layout : Json.Layout}
    (before : History number stored b)
    (read : read? ((ManifestFormat.json layout).render b) = some c) :
    History number (b.total :: stored) c

theorem History.addAll {number : Nat} {stored : List Duration} (h : History number stored b)
    {gs : List ClassGroup} (hgs : ∀ g ∈ gs, ∀ t ∈ g.tests, t.duration.nanos ≤ Duration.maxRecorded) :
    History number stored (b.addAll gs) := by
  induction gs generalizing b with
  | nil => exact h
  | cons g gs ih =>
    obtain ⟨hg, hrest⟩ := List.forall_mem_cons.mp hgs
    exact ih (h.add hg) hrest

theorem History.isSummed {number : Nat} {stored : List Duration} (h : History number stored b)
    (hstored : ∀ d ∈ stored, d.nanos ≤ Duration.exactLimit) : b.IsSummed := by
  induction h with
  | start => exact isSummed_empty number
  | add _ tests ih => exact (ih hstored).add tests
  | reread _ read ih =>
    obtain ⟨htotal, hbefore⟩ := List.forall_mem_cons.mp hstored
    have hsummed := ih hbefore
    rwa [eq_of_read?_render hsummed.tests htotal read]

/-- As long as no total of more than 2^23 seconds was written, the total of a batch is the sum of its
tests' times, however often it was written and read back. Written with such a total, the batch is read
back as it was. -/
theorem total_of_history {number : Nat} {stored : List Duration} (h : History number stored b)
    (hstored : ∀ d ∈ stored, d.nanos ≤ Duration.exactLimit) :
    b.total = Duration.sum (b.tests.map (·.duration)) ∧
      (b.number < Json.wordLimit → b.total.nanos ≤ Duration.exactLimit →
        ∀ layout, read? ((ManifestFormat.json layout).render b) = some b) := by
  have hsummed := h.isSummed hstored
  refine ⟨hsummed.total, ?_⟩
  intro hnumber htotal layout
  exact read?_render_eq_some_iff.mpr ⟨Json.Value.toCount?_ofNat hnumber,
    mapM_ofJson?_toJson hsummed.tests, Duration.ofJson?_toJson_of_le htotal⟩

/-! ## At the limit -/

/-- A class with one test. -/
def oneTest (classname : String) (nanos : Nat) : ClassGroup :=
  ⟨classname, [⟨classname, "t", .ofNanos nanos, .successful⟩]⟩

/-- Three tests of thirty days, and one that leads up to 2^23 seconds and as far beyond as is said. -/
def longGroups (beyond : Nat) : List ClassGroup :=
  [oneTest "A" Duration.maxRecorded, oneTest "B" Duration.maxRecorded,
    oneTest "C" Duration.maxRecorded, oneTest "D" (612608 * nanosPerSecond + beyond)]

theorem history_longGroups {beyond : Nat} (h : beyond ≤ nanosPerSecond) :
    History 1 [] ((empty 1).addAll (longGroups beyond)) := by
  refine History.start.addAll ?_
  have hlast : 612608 * nanosPerSecond + beyond ≤ Duration.maxRecorded :=
    (Nat.add_le_add_left h _).trans (by decide)
  simp [longGroups, oneTest, hlast]

/-- A total of 2^23 seconds was written, and a nanosecond was added to what was read. -/
theorem total_of_history_longGroups :
    let b := ((empty 1).addAll (longGroups 0)).add (oneTest "E" 1)
    History 1 [.ofNanos Duration.exactLimit] b ∧
      (∀ d ∈ [Duration.ofNanos Duration.exactLimit], d.nanos ≤ Duration.exactLimit) ∧
      b.total = Duration.sum (b.tests.map (·.duration)) ∧
      b.total = .ofNanos (Duration.exactLimit + 1) := by
  intro b
  have hlong : History 1 [] ((empty 1).addAll (longGroups 0)) := history_longGroups (Nat.zero_le _)
  have htotal : ((empty 1).addAll (longGroups 0)).total = .ofNanos Duration.exactLimit := by
    decide +kernel
  have hread := (total_of_history hlong nofun).2 (by decide) (by rw [htotal]; decide) .compact
  have hhistory := (hlong.reread hread).add (g := oneTest "E" 1) (by decide)
  rw [htotal] at hhistory
  have hstored : ∀ d ∈ [Duration.ofNanos Duration.exactLimit], d.nanos ≤ Duration.exactLimit := by
    decide
  exact ⟨hhistory, hstored, (total_of_history hhistory hstored).1, by decide +kernel⟩

/-- A total of a nanosecond more than 2^23 seconds is read as a nanosecond too much, so it is not true
of every history that the total is the sum of the tests' times. -/
theorem total_differs_beyond_limit :
    ¬ ∀ (number : Nat) (stored : List Duration) (b : Batch), History number stored b →
      b.total = Duration.sum (b.tests.map (·.duration)) := by
  intro hall
  let long := (empty 1).addAll (longGroups 1)
  have hlong : History 1 [] long := history_longGroups (by decide)
  have hread : read? ((ManifestFormat.json .pretty).render long) =
      some { long with total := .ofNanos (Duration.exactLimit + 2) } := by
    refine read?_render_eq_some_iff.mpr ⟨Json.Value.toCount?_ofNat (by decide), ?_, ?_⟩
    · exact mapM_ofJson?_toJson (by decide)
    · have htotal : long.total = .ofNanos (Duration.exactLimit + 1) := by decide +kernel
      rw [htotal]
      exact Duration.ofJson?_toJson_succ_exactLimit
  have hsum := hall _ _ _ (hlong.reread hread)
  exact absurd hsum (by decide +kernel)

end Batch

end SuiteSplit
