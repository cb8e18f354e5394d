import SuiteSplit.Proofs.FailingReports

/-!
A disk with one directory of results. The directory has many paths, since slashes in front of its name
change nothing, so the paths of the results can be as long as paths may be, or longer.
-/

namespace SuiteSplit

open Node

def resultsPlace : Location := [Text.utf8 "work", Text.utf8 "results"]

def diskOfResults (entries : List (FileName × Node)) : Disk :=
  ⟨.directory directoryMode [(Text.utf8 "work", .directory directoryMode
    [(Text.utf8 "results", .directory directoryMode entries)])], [Text.utf8 "work"]⟩

/-- A path of the directory of results, with slashes in front of its name. -/
def resultsRoot (n : Nat) : Path := .spaced n (Text.utf8 "results")

namespace diskOfResults

variable {es es' : List (FileName × Node)} {name : FileName} {n : Nat}

theorem at?_place :
    (diskOfResults es).root.at? resultsPlace = some (.directory directoryMode es) := rfl

theorem isFileName_results : Path.IsFileName (Text.utf8 "results") := by decide

theorem wellNamed (hnodup : (es.map Prod.fst).Nodup)
    (hnames : ∀ name ∈ es.map Prod.fst, Path.IsFileName name)
    (hes : ∀ e ∈ es, WellNamed e.2) : (diskOfResults es).root.WellNamed := by
  have hwork : Path.IsFileName (Text.utf8 "work") := by decide
  refine wellNamed_directory (List.nodup_singleton _) (List.forall_mem_singleton.mpr hwork) ?_
  rw [List.forall_mem_singleton]
  refine wellNamed_directory (List.nodup_singleton _)
    (List.forall_mem_singleton.mpr isFileName_results) ?_
  rw [List.forall_mem_singleton]
  exact wellNamed_directory hnodup hnames hes

theorem way : Way (diskOfResults es).root maxLinks [Text.utf8 "work"]
    [Path.dot, Text.utf8 "results"] maxLinks resultsPlace :=
  .idle (.inr rfl) (.enter isFileName_results.isEntryName rfl (.done _ _))

theorem way_resultsRoot (n : Nat) :
    Way (diskOfResults es).root maxLinks ((resultsRoot n).origin (diskOfResults es).here)
      (resultsRoot n).hops maxLinks resultsPlace := by
  rw [resultsRoot, Path.hops_spaced n isFileName_results.toIsPlain]
  exact way

theorem leads (h : n + 9 < pathLimit) :
    Leads (diskOfResults es).root (diskOfResults es).here (resultsRoot n) resultsPlace := by
  refine ⟨?_, rfl, maxLinks, way_resultsRoot n⟩
  refine Path.fault?_eq_none_iff.mpr
    ⟨Path.zero_not_mem_spaced n isFileName_results.no_zero, Path.bytes_spaced_ne_nil n, ?_⟩
  rw [resultsRoot, Path.length_spaced]
  exact h

/-- Where no result has something below it, every report is one of the results. -/
theorem exists_name_of_isReport (hflat : ∀ e ∈ es, e.2.entries = []) {pattern : NamePattern}
    {root : Path} {m : Location} (h : (diskOfResults es).IsReport pattern root resultsPlace m) :
    ∃ name n, m = [name] ∧ (name, n) ∈ es ∧
      (n.kind = .file ∨ n.kind = .link ∧ (diskOfResults es).stat (root.below m) = .ok .file) := by
  obtain ⟨n, hn, hkind⟩ := h.file
  rw [at?_append_of_some at?_place] at hn
  cases m with
  | nil =>
    cases hn
    simp [kind] at hkind
  | cons name rest =>
    rw [at?_cons, Option.bind_eq_some_iff] at hn
    obtain ⟨inner, hlookup, hrest⟩ := hn
    have hmem := mem_of_lookup hlookup
    cases rest with
    | nil =>
      cases hrest
      exact ⟨name, _, rfl, hmem, hkind⟩
    | cons next rest =>
      rw [at?_cons, hflat _ hmem] at hrest
      cases hrest

/-- Taking away one of the results. -/
theorem without {gone : Location → Prop} {taken : FileName} (hflat : ∀ e ∈ es, e.2.entries = [])
    (hgone : ∀ l, gone l ↔ l = resultsPlace ++ [taken])
    (hes : ∀ name, es'.lookup name = if name = taken then none else es.lookup name) :
    (diskOfResults es).Without gone (diskOfResults es') := by
  refine ⟨rfl, ?_, ?_⟩
  · intro l hl
    obtain rfl := (hgone l).mp hl
    rw [at?_append_of_some at?_place, at?_cons, entries, hes, if_pos rfl]
    rfl
  · intro l hl
    by_cases hplace : resultsPlace <+: l
    · obtain ⟨m, rfl⟩ := hplace
      rw [at?_append_of_some at?_place, at?_append_of_some at?_place]
      cases m with
      | nil => rfl
      | cons name rest =>
        rw [at?_cons, at?_cons, entries, entries, hes]
        split
        · next hname =>
          cases hlookup : es.lookup name with
          | none => rfl
          | some n =>
            cases rest with
            | nil => exact absurd ((hgone _).mpr (hname ▸ rfl)) hl
            | cons next rest =>
              rw [Option.bind_some, at?_cons, hflat _ (mem_of_lookup hlookup)]
              rfl
        · rfl
    · -- on the way to the results both disks are the same
      cases l with
      | nil => rfl
      | cons k l =>
        rw [diskOfResults, diskOfResults, at?_cons, at?_cons, entries, entries]
        by_cases hk : k = Text.utf8 "work"
        · subst hk
          cases l with
          | nil => rfl
          | cons k' l =>
            by_cases hk' : k' = Text.utf8 "results"
            · subst hk'
              exact absurd ⟨l, rfl⟩ hplace
            · simp [at?_cons, entries, List.lookup_cons, beq_eq_false_iff_ne.mpr hk']
        · simp [List.lookup_cons, beq_eq_false_iff_ne.mpr hk]

theorem length_join (hname : Path.IsPlain name) :
    ((resultsRoot n).join ⟨name⟩).bytes.length = n + 10 + name.length := by
  unfold resultsRoot
  have hslash : (Path.spaced n (Text.utf8 "results")).bytes.getLast? ≠ some Path.slash := by
    have h := Path.asksDirectory_spaced n isFileName_results.toIsPlain
    simpa [Path.asksDirectory] using h
  rw [Path.length_join (Path.bytes_spaced_ne_nil n) hname, if_neg hslash, Path.length_spaced]
  have hlength : (Text.utf8 "results").length = 7 := by decide
  omega

/-- Walking to one of the results. -/
theorem walk_join (hname : Path.IsFileName name) (hroom : n + 10 + name.length < pathLimit) :
    (diskOfResults es).walk .goal ((resultsRoot n).join ⟨name⟩) =
      (diskOfResults es).root.walk .goal maxLinks resultsPlace [name] := by
  have hne : (resultsRoot n).bytes ≠ [] := Path.bytes_spaced_ne_nil n
  have hroot : Leads (diskOfResults es).root (diskOfResults es).here (resultsRoot n) resultsPlace :=
    leads (by omega)
  have haccepted : ((resultsRoot n).join ⟨name⟩).fault? = none := by
    have hfault := Path.fault?_below hroot.accepted (List.forall_mem_singleton.mpr hname)
    rwa [Path.below_cons, Path.below_nil, length_join hname.toIsPlain, if_pos hroom] at hfault
  exact Disk.walk_join hname.toIsPlain hne haccepted hroot.origin (way_resultsRoot n)

theorem opens (hes : ∀ e ∈ es, e.2.isDirectory = false) (h : n + 9 < pathLimit) :
    (diskOfResults es).Opens (resultsRoot n) resultsPlace := by
  intro m f hat hdirectory
  rw [at?_append_of_some at?_place] at hat
  cases m with
  | nil =>
    rw [Path.below_nil, resultsRoot, Path.length_spaced]
    exact h
  | cons name rest =>
    rw [at?_cons, Option.bind_eq_some_iff] at hat
    obtain ⟨inner, hlookup, hrest⟩ := hat
    have hinner := hes _ (mem_of_lookup hlookup)
    cases rest with
    | nil =>
      cases hrest
      rw [hinner] at hdirectory
      cases hdirectory
    | cons next rest =>
      rw [at?_cons_of_not_directory hinner] at hrest
      cases hrest

end diskOfResults

end SuiteSplit
