import SuiteSplit.Proofs.FileNames
import SuiteSplit.Proofs.PatternMatches
import SuiteSplit.Proofs.ReportSearch

/-!
The names by which reports are chosen.

A pattern sees the last name of a path and nothing else of it. The standard pattern asks for both ends of
the name, so it takes all of it: its first and last characters as they are written, and between them
whatever holds no line feed. How the repetition in the middle would be shared with what stands behind it
does not matter, as one way is enough.
-/

namespace SuiteSplit

namespace CodeSet

theorem toNat_le_lastCode (c : Char) : c.toNat ≤ lastCode := by
  have h := c.valid
  simp only [UInt32.isValidChar, Nat.isValidChar] at h
  simp only [Char.toNat, lastCode]
  omega

theorem contains_singleton {c d : Char} : (singleton c).contains d ↔ d = c := by
  simp only [contains, containsCode, singleton, range, List.any_cons, List.any_nil, Bool.or_false,
    Bool.and_eq_true, decide_eq_true_eq]
  rw [← Char.toNat_inj]
  omega

end CodeSet

namespace Pattern

variable {p : Pattern} {set : CodeSet} {cs before inner after : List Char} {n : Nat}

/-- Characters as they are written, and the pattern behind them. -/
def literal (cs : List Char) (p : Pattern) : Pattern :=
  cs.foldr (fun c behind => .seq (.one (.singleton c)) behind) p

theorem takes_literal : (literal cs p).Takes before inner after ↔
    ∃ rest, inner = cs ++ rest ∧ p.Takes (before ++ cs) rest after := by
  induction cs generalizing before inner with
  | nil => simp [literal]
  | cons c cs ih =>
    constructor
    · rintro ⟨x, y, rfl, ⟨d, rfl, hd⟩, hy⟩
      obtain rfl := CodeSet.contains_singleton.mp hd
      obtain ⟨rest, rfl, hrest⟩ := ih.mp hy
      exact ⟨rest, rfl, by simpa using hrest⟩
    · rintro ⟨rest, rfl, hrest⟩
      refine ⟨[c], cs ++ rest, rfl, ⟨c, rfl, CodeSet.contains_singleton.mpr rfl⟩, ?_⟩
      exact ih.mpr ⟨rest, rfl, by simpa using hrest⟩

theorem repeated_one : Matching.repeated (one set).Takes n before inner after ↔
    inner.length = n ∧ ∀ c ∈ inner, set.contains c := by
  induction n generalizing before inner with
  | zero =>
    rw [List.length_eq_zero_iff]
    constructor
    · rintro rfl
      exact ⟨rfl, nofun⟩
    · rintro ⟨rfl, -⟩
      rfl
  | succ n ih =>
    constructor
    · rintro ⟨x, y, rfl, ⟨c, rfl, hc⟩, hy⟩
      obtain ⟨rfl, hall⟩ := ih.mp hy
      exact ⟨rfl, List.forall_mem_cons.mpr ⟨hc, hall⟩⟩
    · rintro ⟨hlength, hall⟩
      cases inner with
      | nil => cases hlength
      | cons c inner =>
        obtain ⟨hc, hall⟩ := List.forall_mem_cons.mp hall
        exact ⟨[c], inner, rfl, ⟨c, rfl, hc⟩, ih.mpr ⟨Nat.succ.inj hlength, hall⟩⟩

theorem takes_any_number : (times (one set) 0 none).Takes before inner after ↔
    ∀ c ∈ inner, set.contains c := by
  constructor
  · rintro ⟨n, -, -, h⟩
    exact (repeated_one.mp h).2
  · intro h
    exact ⟨inner.length, Nat.zero_le _, nofun, repeated_one.mpr ⟨rfl, h⟩⟩

/-! ## The standard pattern -/

/-- What a dot stands for. -/
def noLineFeed : CodeSet := anyCode.diff (.ofChars ['\n'])

theorem contains_noLineFeed {c : Char} : noLineFeed.contains c ↔ c ≠ '\n' := by
  have hset : noLineFeed = ⟨[⟨0, 9⟩, ⟨11, CodeSet.lastCode⟩]⟩ := by decide +kernel
  have hlast : c.toNat ≤ CodeSet.lastCode := CodeSet.toNat_le_lastCode c
  have hfeed : '\n'.toNat = 10 := rfl
  simp only [hset, CodeSet.contains, CodeSet.containsCode, List.any_cons, List.any_nil, Bool.or_false,
    Bool.or_eq_true, Bool.and_eq_true, decide_eq_true_eq, ne_eq]
  rw [← Char.toNat_inj]
  omega

theorem read?_standardText : read? NamePattern.standardText =
    some (.seq (.assert .textStart) (literal "TEST-".toList
      (.seq (.times (.one noLineFeed) 0 none) (literal ".xml".toList (.assert .textEnd))))) := by
  cbv

theorem takes_textStart : (assert .textStart).Takes before inner after ↔ inner = [] ∧ before = [] := by
  simp [Takes, Assertion.holds]

theorem takes_textEnd : (assert .textEnd).Takes before inner after ↔ inner = [] ∧ after = [] := by
  simp [Takes, Assertion.holds]

/-- A pattern that asks for both ends of a text takes the whole text. -/
theorem matchesIn_framed {front back text : List Char} :
    (seq (assert .textStart) (literal front (seq p (literal back (assert .textEnd))))).matchesIn text ↔
      ∃ inner, text = front ++ inner ++ back ∧ p.Takes front inner back := by
  rw [matchesIn_iff]
  constructor
  · rintro ⟨before, whole, after, rfl, x, y, rfl, hstart, hy⟩
    obtain ⟨rfl, rfl⟩ := takes_textStart.mp hstart
    obtain ⟨rest, rfl, inner, z, rfl, hinner, hz⟩ := takes_literal.mp hy
    obtain ⟨last, rfl, hend⟩ := takes_literal.mp hz
    obtain ⟨rfl, rfl⟩ := takes_textEnd.mp hend
    exact ⟨inner, by simp, by simpa using hinner⟩
  · rintro ⟨inner, rfl, hinner⟩
    refine ⟨[], front ++ (inner ++ back), [], by simp, [], _, rfl, takes_textStart.mpr ⟨rfl, rfl⟩, ?_⟩
    refine takes_literal.mpr ⟨inner ++ back, rfl, inner, back, rfl, by simpa using hinner, ?_⟩
    exact takes_literal.mpr ⟨[], (List.append_nil back).symm, takes_textEnd.mpr ⟨rfl, rfl⟩⟩

end Pattern

namespace Path

/-- The last segment of a path that is neither empty nor a dot. -/
def lastName? (p : Path) : Option FileName :=
  ((p.bytes.splitOn slash).filter fun s => s ≠ [] ∧ s ≠ dot).getLast?

theorem lastName?_eq (p : Path) : p.lastName? = p.names.getLast? := by
  rw [names_eq, lastName?]
  congr 2
  funext s
  cases s <;> simp [isIdle]

theorem lastName?_join (directory : Path) {name : FileName} (hname : IsPlain name) :
    (directory.join ⟨name⟩).lastName? = some name := by
  by_cases hempty : directory.bytes = []
  · have hjoin : directory.join ⟨name⟩ = ⟨name⟩ := by simp [join, hempty]
    rw [hjoin, lastName?, List.splitOn_eq_singleton hname.no_slash]
    simp [hname.ne_nil, hname.ne_dot]
  · rw [lastName?_eq, (entryOf_join hempty hname).names, List.getLast?_concat]

end Path

namespace NamePattern

variable {pattern : NamePattern} {p q : Path}

theorem matchesPath_iff : pattern.matchesPath p ↔ ∃ text : String,
    p.lastName? = some (Text.utf8 text) ∧ Text.utf8 text ≠ Path.dots ∧
      pattern.pattern.matchesIn text.toList := by
  rw [matchesPath, Path.fileName?_eq, ← Path.lastName?_eq, Option.any_eq_true]
  simp only [Option.bind_eq_some_iff, Option.filter_eq_some_iff, Text.ofUtf8?_eq_some_iff,
    decide_eq_true_eq]
  constructor
  · rintro ⟨text, ⟨-, ⟨hlast, hdots⟩, rfl⟩, hmatches⟩
    exact ⟨text, hlast, hdots, hmatches⟩
  · rintro ⟨text, hlast, hdots, hmatches⟩
    exact ⟨text, ⟨_, ⟨hlast, hdots⟩, rfl⟩, hmatches⟩

theorem matchesPath_congr (h : p.lastName? = q.lastName?) :
    pattern.matchesPath p = pattern.matchesPath q := by
  rw [Path.lastName?_eq, Path.lastName?_eq] at h
  rw [matchesPath, matchesPath, Path.fileName?_eq, Path.fileName?_eq, h]

theorem standard_matchesIn_iff {text : String} : standard.pattern.matchesIn text.toList ↔
    ∃ m : String, '\n' ∉ m.toList ∧ text = "TEST-" ++ m ++ ".xml" := by
  have hpattern : standard.pattern = .seq (.assert .textStart) (.literal "TEST-".toList
      (.seq (.times (.one Pattern.noLineFeed) 0 none) (.literal ".xml".toList (.assert .textEnd)))) := by
    rw [standard, ofText?, Pattern.read?_standardText]
    rfl
  rw [hpattern, Pattern.matchesIn_framed]
  simp only [Pattern.takes_any_number, Pattern.contains_noLineFeed]
  constructor
  · rintro ⟨inner, htext, hinner⟩
    refine ⟨.ofList inner, fun h => hinner _ (by simpa using h) rfl, ?_⟩
    rw [← String.toList_inj, htext]
    simp
  · rintro ⟨m, hm, rfl⟩
    refine ⟨m.toList, by simp, ?_⟩
    rintro c hc rfl
    exact hm hc

theorem utf8_reportName_ne_dots (m : String) : Text.utf8 ("TEST-" ++ m ++ ".xml") ≠ Path.dots := by
  intro h
  have hlong := Path.length_le_length_utf8 ("TEST-" ++ m ++ ".xml")
  rw [h, String.length_append, String.length_append] at hlong
  exact absurd (Nat.le_trans (Nat.le_add_right_of_le (Nat.le_add_right _ _)) hlong) (by decide)

/-- The standard pattern chooses a path if its last name is `TEST-`, any text without a line feed, and
`.xml`; a path that ends in two dots has no such name. Every pattern decides by the last name only, so it
does not matter in which directory a file stands. -/
theorem chooses_by_last_name :
    (∀ p : Path, standard.matchesPath p ↔ ∃ m : String, '\n' ∉ m.toList ∧
      p.lastName? = some (Text.utf8 ("TEST-" ++ m ++ ".xml"))) ∧
    (∀ (pattern : NamePattern) (p q : Path), p.lastName? = q.lastName? →
      pattern.matchesPath p = pattern.matchesPath q) ∧
    ∀ (pattern : NamePattern) (directory directory' : Path) (name : FileName), Path.IsPlain name →
      pattern.matchesPath (directory.join ⟨name⟩) = pattern.matchesPath (directory'.join ⟨name⟩) := by
  refine ⟨fun p => ?_, fun _ _ _ => matchesPath_congr, fun _ directory directory' _ hname => ?_⟩
  · simp only [matchesPath_iff, standard_matchesIn_iff]
    constructor
    · rintro ⟨-, hlast, -, m, hm, rfl⟩
      exact ⟨m, hm, hlast⟩
    · rintro ⟨m, hm, hlast⟩
      exact ⟨_, hlast, utf8_reportName_ne_dots m, m, hm, rfl⟩
  · apply matchesPath_congr
    rw [directory.lastName?_join hname, directory'.lastName?_join hname]

theorem chooses_doubled_ending :
    standard.matchesPath (.ofString "build/TEST-a.xml.xml/.") ∧
    ¬ standard.matchesPath (.ofString "build/TEST-a.xml/..") ∧
    standard.matchesPath (.ofString "TEST-a") = standard.matchesPath (.ofString "/b//TEST-a/") ∧
    Path.IsPlain (Text.utf8 "TEST-a.xml") ∧
    standard.matchesPath ((Path.ofString "build").join ⟨Text.utf8 "TEST-a.xml"⟩) =
      standard.matchesPath ((Path.ofString "").join ⟨Text.utf8 "TEST-a.xml"⟩) := by
  have hplain : Path.IsPlain (Text.utf8 "TEST-a.xml") := Path.isPlain_utf8 (by decide) (by decide)
  obtain ⟨hstandard, hlast, hjoin⟩ := chooses_by_last_name
  refine ⟨(hstandard _).mpr ⟨"a.xml", by decide, by cbv⟩, fun h => ?_, hlast _ _ _ (by cbv), hplain,
    hjoin _ _ _ _ hplain⟩
  obtain ⟨m, -, hm⟩ := (hstandard _).mp h
  have hdots : (Path.ofString "build/TEST-a.xml/..").lastName? = some Path.dots := by cbv
  exact utf8_reportName_ne_dots m (Option.some.inj (hm.symm.trans hdots))

end NamePattern

end SuiteSplit
