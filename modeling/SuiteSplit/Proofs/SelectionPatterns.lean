import SuiteSplit.Command
import SuiteSplit.Proofs.Lines
import SuiteSplit.Proofs.WorkerSelections

/-!
What the patterns of a selection say.

A worker may be told its share by patterns alone, and patterns tell the classes of a batch. There is
one selection that they do not tell from another: a batch without tests has no pattern, as has the
selection of everything, but it selects nothing.
-/

namespace SuiteSplit.Selection

open Publication

/-- Whether a runner that is given patterns runs a test: without patterns it runs every one, otherwise
those whose ids start with a pattern up to its star. -/
def admits (patterns : List (List Char)) (id : String) : Bool :=
  patterns.isEmpty || patterns.any fun pattern => pattern.dropLast.isPrefixOf id.toList

variable {f g s : Selection}

theorem patterns_classes_injective : Function.Injective fun names => (classes names).patterns :=
  List.map_injective_iff.mpr append_star_injective

/-- Equal patterns are those of one selection, or those of everything and of no class. -/
theorem patterns_eq_iff : f.patterns = g.patterns ↔
    f = g ∨ (f = .all ∧ g = .classes []) ∨ (f = .classes [] ∧ g = .all) := by
  constructor
  · intro h
    cases f with
    | all =>
      cases g with
      | all => exact .inl rfl
      | classes names =>
        obtain rfl : names = [] := List.map_eq_nil_iff.mp h.symm
        exact .inr (.inl ⟨rfl, rfl⟩)
    | classes names =>
      cases g with
      | all =>
        obtain rfl : names = [] := List.map_eq_nil_iff.mp h
        exact .inr (.inr ⟨rfl, rfl⟩)
      | classes others =>
        obtain rfl : names = others := patterns_classes_injective h
        exact .inl rfl
  · rintro (rfl | ⟨rfl, rfl⟩ | ⟨rfl, rfl⟩) <;> rfl

theorem any_dropLast_patterns (names : List String) (id : String) :
    ((classes names).patterns.map String.toList).any (fun p => p.dropLast.isPrefixOf id.toList) =
      (classes names).selects id := by
  rw [patterns, List.map_map, List.any_map, selects]
  congr 1
  funext name
  change ((name ++ "*").toList.dropLast).isPrefixOf id.toList = _
  rw [String.toList_append]
  exact congrArg (List.isPrefixOf · id.toList) List.dropLast_concat

/-- But for the selection of no class, the patterns admit what is selected. -/
theorem admits_patterns_iff :
    (∀ id, s.selects id = admits (s.patterns.map String.toList) id) ↔ s ≠ .classes [] := by
  constructor
  · rintro h rfl
    exact absurd (h "") (by decide)
  · intro hs id
    cases s with
    | all => rfl
    | classes names =>
      have hnames : names ≠ [] := fun h => hs (h ▸ rfl)
      rw [admits, any_dropLast_patterns]
      simp [patterns, hnames]

theorem lines?_patterns_iff (s : Selection) :
    Text.lines? (Ending.ofLines s.patterns).output.toList = some (s.patterns.map String.toList) ↔
      ∀ p ∈ s.patterns, '\n' ∉ p.toList := by
  rw [Ending.ofLines, Text.toList_join_lines, Text.lines?_ofLines_eq_some_iff, List.forall_mem_map]

/-- The command for the patterns of a worker prints those of its selection. -/
theorem run_printPatterns {directory : Path} {number : Int} {d d' : Disk} (hnumber : 1 ≤ number)
    (hresolve : (resolve directory number).run d = (.ok s, d')) :
    (Command.printPatterns directory number).run d = (.ofLines s.patterns, d') := by
  rw [Command.printPatterns, if_neg (not_lt.mpr hnumber), Program.run_bind, hresolve]
  rfl

/-- Where a plan was published, the worker of a batch gets the selection of that batch. -/
theorem run_resolve_of_publish {count : BatchCount} {records : List TestRecord} {now : Timestamp}
    {target : Path} {d d' : Disk} {index : BatchIndex} {b : Batch} (hrecords : Recordable records)
    (hnow : now.IsValid) (hroom : (batchPath target count.value).bytes.length < pathLimit)
    (hrun : (publish ManifestFormat.standard now target (plan count records)).Completes d (.ok index)
      d') (hb : b ∈ plan count records) :
    (resolve target b.number).run d' = (.ok (.ofBatch b), d') := by
  obtain ⟨-, total, totals, hserves⟩ := exists_serves hrecords hnow hroom hrun
  have hresolve := hserves.run_resolve (List.mem_map_of_mem hb)
  exact hresolve

/-- The second worker, once the three records are published. -/
theorem resolve_threeRecords : ∃ d : Disk, (resolve (.ofString "out") 2).run d =
    (.ok (.ofBatch ⟨2, threeRecords.drop 1, .ofNanos 1⟩), d) := by
  have hrun := Program.completes_run
    (publish ManifestFormat.standard midnight (.ofString "out") (plan twoBatches threeRecords)) Disk.blank
  rw [publish_threeRecords] at hrun
  have hsecond : (⟨2, threeRecords.drop 1, .ofNanos 1⟩ : Batch) ∈ plan twoBatches threeRecords := by
    rw [plan_threeRecords]
    exact List.mem_cons_of_mem _ List.mem_cons_self
  have hresolve := run_resolve_of_publish (by decide) (by decide) (by decide) hrun hsecond
  rw [Nat.cast_ofNat] at hresolve
  exact ⟨_, hresolve⟩

/-- Selections with equal patterns select alike, unless one of them is the selection of everything and
the other is not: that one selects nothing. A runner that is given the patterns of a selection runs what
is selected, unless that is the selection of no class. And where a worker gets a selection, its command
prints the patterns, each on a line just where no pattern has a line feed in it. -/
theorem patterns_determine_selection (f g : Selection) (h : f.patterns = g.patterns) :
    ((∀ id, f.selects id = g.selects id) ↔ (f = .all ↔ g = .all)) ∧
    ((∀ id, f.selects id = admits (f.patterns.map String.toList) id) ↔ f ≠ .classes []) ∧
    ∀ (directory : Path) (number : Int) (d d' : Disk), 1 ≤ number →
      (resolve directory number).run d = (.ok f, d') →
      ∃ ending, (Command.printPatterns directory number).run d = (ending, d') ∧
        (Text.lines? ending.output.toList = some (f.patterns.map String.toList) ↔
          ∀ p ∈ f.patterns, '\n' ∉ p.toList) := by
  refine ⟨?_, admits_patterns_iff, ?_⟩
  · rcases patterns_eq_iff.mp h with rfl | ⟨rfl, rfl⟩ | ⟨rfl, rfl⟩
    · simp
    · simp [selects]
    · simp [selects]
  · intro directory number d d' hnumber hresolve
    exact ⟨_, run_printPatterns hnumber hresolve, lines?_patterns_iff f⟩

/-- Two batches of one class select alike, and what is printed for one of them tells its share. -/
theorem selections_of_equal_patterns :
    let b : Batch := ⟨2, threeRecords.drop 1, .ofNanos 1⟩
    let c : Batch := ⟨1, [⟨"c", "z", .zero, .failed⟩], .zero⟩
    (ofBatch b).patterns = (ofBatch c).patterns ∧
      (∀ id, (ofBatch b).selects id = (ofBatch c).selects id) ∧
      (∀ id, (ofBatch b).selects id = admits ["c*".toList] id) ∧
      ∃ d ending, (resolve (.ofString "out") 2).run d = (.ok (ofBatch b), d) ∧
        (Command.printPatterns (.ofString "out") 2).run d = (ending, d) ∧
        Text.lines? ending.output.toList = some ["c*".toList] := by
  intro b c
  have hsame : (ofBatch b).patterns = (ofBatch c).patterns := by decide
  obtain ⟨hselects, hadmits, hprinted⟩ :=
    patterns_determine_selection (ofBatch b) (ofBatch c) hsame
  obtain ⟨d, hresolve⟩ := resolve_threeRecords
  obtain ⟨ending, hprint, hlines⟩ := hprinted (.ofString "out") 2 d d (by decide) hresolve
  exact ⟨hsame, hselects.mpr (by decide), hadmits.mpr (by decide), d, ending, hresolve, hprint,
    hlines.mpr (by decide)⟩

/-- The batch without tests has the patterns of everything and selects nothing. -/
theorem empty_batch_selects_nothing :
    ¬ ∀ f g : Selection, (f = .all ∨ ∃ b, f = .ofBatch b) → (g = .all ∨ ∃ b, g = .ofBatch b) →
      f.patterns = g.patterns → ∀ id, f.selects id = g.selects id := by
  intro hall
  have hsame := hall .all (.ofBatch (.empty 1)) (.inl rfl) (.inr ⟨_, rfl⟩) rfl "A.x"
  exact absurd hsame (by decide)

end SuiteSplit.Selection
