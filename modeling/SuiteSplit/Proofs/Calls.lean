import SuiteSplit.Proofs.FaultyRun
import SuiteSplit.Proofs.Leading

/-!
What calls do, said in places. A call that changes the disk and does not fail has found the directory
that the path around its own leads to, and it changes one entry of that directory; renaming changes
two. Any other answer leaves the disk as it was.
-/

namespace SuiteSplit

open Node

namespace Disk

variable {d d' : Disk} {p outer : Path} {name : FileName}

@[simp] theorem root_put (d : Disk) (l : Location) (v : Option Node) :
    (d.put l v).root = d.root.put v l := rfl

@[simp] theorem here_put (d : Disk) (l : Location) (v : Option Node) : (d.put l v).here = d.here :=
  rfl

theorem settle_cases {α : Type} (d : Disk) (change : Change α) :
    (∃ a d', change = .ok (a, d') ∧ d.settle change = (.ok a, d')) ∨
      ∃ e, d.settle change = (.error e, d) := by
  cases change with
  | ok result => exact .inl ⟨result.1, result.2, rfl, rfl⟩
  | error e => exact .inr ⟨e, rfl⟩

/-- A call that changes the disk does what it says, or fails and changes nothing. -/
theorem Answers.settled {r : Request} {answer : r.Answer} {change : Change r.Value}
    (h : d.Answers r answer d') (hr : d.answer r = d.settle change)
    (hdrawn : ∀ parent start, r ≠ .makePrivateDirectory parent start) :
    (∃ a, answer = .ok a ∧ change = .ok (a, d')) ∨ ∃ e, answer = .error e ∧ d' = d := by
  cases h with
  | exact =>
    rw [hr]
    rcases d.settle_cases change with ⟨a, d', hchange, hsettle⟩ | ⟨e, hsettle⟩
    · rw [hsettle]
      exact .inl ⟨a, rfl, hchange⟩
    · rw [hsettle]
      exact .inr ⟨e, rfl, rfl⟩
  | failed r e => exact .inr ⟨e, rfl, rfl⟩
  | drawn => exact absurd rfl (hdrawn _ _)

theorem create_eq_ok {n : Node} (h : d.create p n = .ok ((), d')) :
    ∃ there k, d.entry p = .ok (there, some k) ∧ d.root.at? (there ++ [k]) = none ∧
      d' = d.put (there ++ [k]) (some n) := by
  unfold create at h
  split at h
  · cases h
  · cases h
  · next there k hentry =>
    split at h
    · cases h
    · next hnone =>
      cases h
      exact ⟨there, k, hentry, hnone, rfl⟩

theorem create_of_makePrivateUnder {p' : Path} (h : d.makePrivateUnder p name = .ok (p', d')) :
    p' = p.join ⟨name⟩ ∧ d.create (p.join ⟨name⟩) (.directory privateMode []) = .ok ((), d') := by
  rw [makePrivateUnder] at h
  cases hcreate : d.create (p.join ⟨name⟩) (.directory privateMode []) with
  | error e => simp [hcreate, Except.map] at h
  | ok result =>
    simp only [hcreate, Except.map, Except.ok.injEq, Prod.mk.injEq] at h
    obtain ⟨rfl, rfl⟩ := h
    exact ⟨rfl, rfl⟩

theorem makePrivateUnder_eq_ok {p' : Path} (hp : p.bytes ≠ []) (hname : Path.IsPlain name)
    (h : d.makePrivateUnder p name = .ok (p', d')) :
    ∃ there, p' = p.join ⟨name⟩ ∧ IsEntryName name ∧ Leads d.root d.here p there ∧
      d.root.at? (there ++ [name]) = none ∧
      d' = d.put (there ++ [name]) (some (.directory privateMode [])) := by
  obtain ⟨rfl, hcreate⟩ := create_of_makePrivateUnder h
  obtain ⟨there, k, hentry, hnone, rfl⟩ := create_eq_ok hcreate
  obtain ⟨rfl, hentryName, hleads⟩ := leads_of_entry (Path.entryOf_join hp hname) hentry
  exact ⟨there, rfl, hentryName, hleads, hnone, rfl⟩

/-- Where a walk below a directory ends, unless a link is there. -/
theorem spot_of_walk {aim : Aim} {spot : Spot} (hp : p.bytes ≠ []) (hname : Path.IsPlain name)
    (h : d.walk aim (p.join ⟨name⟩) = .ok spot) :
    ∃ there, Leads d.root d.here p there ∧
      match d.root.at? (there ++ [name]) with
      | none => spot = .vacant there name
      | some (.link _) => True
      | some n => spot = .found (there ++ [name]) n := by
  obtain ⟨there, links, hleads, hlast⟩ := leads_of_walk hp hname h
  refine ⟨there, hleads, ?_⟩
  have hidle : ¬ (name = Path.inward ∨ name = Path.dot) :=
    not_or.mpr ⟨hname.ne_nil, hname.ne_dot⟩
  have hend : ¬ (aim = .file ∧ [] = [Path.inward]) := fun h => nomatch h.2
  rw [Node.walk, if_neg hidle, if_neg hname.ne_dots, if_neg hend] at hlast
  split at hlast
  · cases hlast
  · cases hat : d.root.at? (there ++ [name]) with
    | none =>
      simp only [hat, if_true, Except.ok.injEq] at hlast
      exact hlast.symm
    | some n =>
      cases n with
      | link target => trivial
      | file mode bytes =>
        simp only [hat, if_true, Except.ok.injEq] at hlast
        exact hlast.symm
      | directory mode entries =>
        simp only [hat, Node.walk, Except.ok.injEq] at hlast
        exact hlast.symm

theorem setMode_eq_ok {mode : Nat} (hp : p.bytes ≠ []) (hname : Path.IsPlain name)
    (h : d.setMode (p.join ⟨name⟩) mode = .ok ((), d')) :
    ∃ there, Leads d.root d.here p there ∧ ∀ mode' entries,
      d.root.at? (there ++ [name]) = some (.directory mode' entries) →
        d' = d.put (there ++ [name]) (some (.directory mode entries)) := by
  rw [setMode, find] at h
  cases hwalk : d.walk .goal (p.join ⟨name⟩) with
  | error e => simp [hwalk, Except.map] at h
  | ok spot =>
    obtain ⟨there, hleads, hspot⟩ := spot_of_walk hp hname hwalk
    refine ⟨there, hleads, fun mode' entries hat => ?_⟩
    rw [hat] at hspot
    simp only [hwalk, hspot, Except.map, Except.ok.injEq, Prod.mk.injEq, true_and] at h
    exact h.symm

/-- A file that is written in a directory is new, or it has its old permissions. -/
theorem write_eq_ok {bytes : ByteArray} (hp : p.bytes ≠ []) (hname : Path.IsPlain name)
    (h : d.write (p.join ⟨name⟩) bytes = .ok ((), d')) :
    ∃ there, Leads d.root d.here p there ∧
      (d.root.at? (there ++ [name]) = none →
        d' = d.put (there ++ [name]) (some (.file fileMode bytes))) ∧
      ∀ mode old, d.root.at? (there ++ [name]) = some (.file mode old) →
        d' = d.put (there ++ [name]) (some (.file mode bytes)) := by
  rw [write] at h
  cases hwalk : d.walk .file (p.join ⟨name⟩) with
  | error e => simp [hwalk] at h
  | ok spot =>
    obtain ⟨there, hleads, hspot⟩ := spot_of_walk hp hname hwalk
    refine ⟨there, hleads, fun hat => ?_, fun mode old hat => ?_⟩
    all_goals
      rw [hat] at hspot
      simp only [hwalk, hspot, Except.ok.injEq, Prod.mk.injEq, true_and] at h
      exact h.symm

/-- What is read below a directory is the file there, unless a link is there. -/
theorem read_eq_ok {bytes : ByteArray} (hp : p.bytes ≠ []) (hname : Path.IsPlain name)
    (h : d.read (p.join ⟨name⟩) = .ok bytes) :
    ∃ there, Leads d.root d.here p there ∧
      ((∃ target, d.root.at? (there ++ [name]) = some (.link target)) ∨
        ∃ mode, d.root.at? (there ++ [name]) = some (.file mode bytes)) := by
  rw [read, find] at h
  cases hwalk : d.walk .goal (p.join ⟨name⟩) with
  | error e => simp [hwalk] at h
  | ok spot =>
    obtain ⟨there, hleads, hspot⟩ := spot_of_walk hp hname hwalk
    refine ⟨there, hleads, ?_⟩
    cases hat : d.root.at? (there ++ [name]) with
    | none =>
      rw [hat] at hspot
      simp [hwalk, hspot] at h
    | some n =>
      cases n with
      | link target => exact .inl ⟨target, rfl⟩
      | file mode old =>
        rw [hat] at hspot
        simp only [hwalk, hspot, Except.ok.injEq] at h
        exact .inr ⟨mode, by rw [h]⟩
      | directory mode entries =>
        rw [hat] at hspot
        simp [hwalk, hspot] at h

theorem exists_entry_of_remove (h : d.remove p = .ok ((), d')) :
    ∃ there name, d.entry p = .ok (there, some name) ∧ d' = d.put (there ++ [name]) none := by
  unfold remove at h
  split at h
  · cases h
  · cases h
  · cases h
  · next there k _ hentry =>
    cases h
    exact ⟨there, k, hentry, rfl⟩

theorem remove_eq_ok (hpath : p.EntryOf outer name) (h : d.remove p = .ok ((), d')) :
    ∃ there, Leads d.root d.here outer there ∧ d' = d.put (there ++ [name]) none := by
  obtain ⟨there, k, hentry, rfl⟩ := exists_entry_of_remove h
  obtain ⟨rfl, -, hleads⟩ := leads_of_entry hpath hentry
  exact ⟨there, hleads, rfl⟩

/-- Of what stands in the way of a directory only an empty directory gives way. -/
theorem eq_of_replaceFault? {n old : Node} (hn : n.isDirectory)
    (h : replaceFault? n (some old) = none) : ∃ mode, old = .directory mode [] := by
  rw [replaceFault?, hn] at h
  cases old with
  | file mode bytes => cases h
  | link target => cases h
  | directory mode entries =>
    cases entries with
    | nil => exact ⟨mode, rfl⟩
    | cons e entries => cases h

/-- What stands at one entry is taken to another one. Nothing is in the way there, and neither of the two
is below the other. -/
structure Moves (d : Disk) (source target : Path) (there : Location) (name : FileName)
    (there' : Location) (name' : FileName) (n : Node) (d' : Disk) : Prop where
  entry : d.entry source = .ok (there, some name)
  entry' : d.entry target = .ok (there', some name')
  at?_source : d.root.at? (there ++ [name]) = some n
  kind : ¬ (!n.isDirectory ∧ (source.asksDirectory ∨ target.asksDirectory))
  not_below : ¬ inside (there' ++ [name']) (there ++ [name])
  not_above : ¬ inside (there ++ [name]) (there' ++ [name'])
  moved : there ++ [name] = there' ++ [name'] ∧ d' = d ∨
    there ++ [name] ≠ there' ++ [name'] ∧ replaceFault? n (d.root.at? (there' ++ [name'])) = none ∧
      d' = (d.put (there ++ [name]) none).put (there' ++ [name']) (some n)

theorem rename_eq_ok_iff {source target : Path} : d.rename source target = .ok ((), d') ↔
    ∃ there name there' name' n, d.Moves source target there name there' name' n d' := by
  constructor
  · intro h
    unfold rename at h
    split at h
    · cases h
    · cases h
    · cases h
    · cases h
    · next there k there' k' hentry hentry' =>
      dsimp only at h
      split at h
      · cases h
      · next n hat =>
        refine ⟨there, k, there', k', n, ?_⟩
        split_ifs at h with hkind hbelow habove hsame
        · cases h
          exact ⟨hentry, hentry', hat, hkind, hbelow, habove, .inl ⟨hsame, rfl⟩⟩
        · split at h
          · cases h
          · next hfree =>
            cases h
            exact ⟨hentry, hentry', hat, hkind, hbelow, habove, .inr ⟨hsame, hfree, rfl⟩⟩
  · rintro ⟨there, k, there', k', n, h⟩
    rw [rename, h.entry, h.entry']
    simp only [h.at?_source, if_neg h.kind, if_neg h.not_below, if_neg h.not_above]
    rcases h.moved with ⟨hsame, rfl⟩ | ⟨hne, hfree, rfl⟩
    · rw [if_pos hsame]
    · rw [if_neg hne, hfree]

/-- Renaming takes what stands at one entry to another one, where nothing is in the way. -/
theorem rename_eq_ok {source target outer' : Path} {name' : FileName}
    (hsource : source.EntryOf outer name) (htarget : target.EntryOf outer' name')
    (h : d.rename source target = .ok ((), d')) :
    ∃ there there' n, Leads d.root d.here outer there ∧ Leads d.root d.here outer' there' ∧
      IsEntryName name' ∧ target.fault? = none ∧ d.root.at? (there ++ [name]) = some n ∧
      (there ++ [name] = there' ++ [name'] ∨
        replaceFault? n (d.root.at? (there' ++ [name'])) = none ∧
          d' = (d.put (there ++ [name]) none).put (there' ++ [name']) (some n)) := by
  obtain ⟨there, k, there', k', n, hmoves⟩ := rename_eq_ok_iff.mp h
  obtain ⟨rfl, -, hleads⟩ := leads_of_entry hsource hmoves.entry
  obtain ⟨rfl, hname, hleads'⟩ := leads_of_entry htarget hmoves.entry'
  have haccepted := (exists_way_of_entry hmoves.entry').1
  refine ⟨there, there', n, hleads, hleads', hname, haccepted, hmoves.at?_source, ?_⟩
  exact hmoves.moved.imp And.left And.right

/-! ## Directories for one user -/

theorem isPlain_drawnName {start : String} {characters : List Char} (hslash : '/' ∉ start.toList)
    (hlength : 3 ≤ start.length) (hcharacters : '/' ∉ characters) :
    Path.IsPlain (drawnName start characters) := by
  refine Path.isPlain_utf8 ?_ ?_
  · rw [String.toList_append, String.toList_ofList, List.mem_append, not_or]
    exact ⟨hslash, hcharacters⟩
  · rw [String.length_append]
    omega

theorem isPlain_freshName {start : String} (hslash : '/' ∉ start.toList)
    (hlength : 3 ≤ start.length) (entries : List (FileName × Node)) :
    Path.IsPlain (freshName start entries) := by
  have hnumbered (i : Nat) : Path.IsPlain (numberedName start i) := by
    refine isPlain_drawnName hslash hlength ?_
    rw [List.leftpad, List.mem_append, not_or]
    exact ⟨fun h => absurd (List.eq_of_mem_replicate h) (by decide), Path.slash_not_mem_toDigits i⟩
  dsimp only [freshName]
  cases hfind : ((List.range (min (entries.length + 1) (10 ^ drawnLength))).map
      (numberedName start)).find? fun name => (entries.lookup name).isNone with
  | none => exact hnumbered 0
  | some name =>
    obtain ⟨i, -, rfl⟩ := List.mem_map.mp (List.mem_of_find?_eq_some hfind)
    exact hnumbered i

/-- A directory for one user is new, in the directory that the path leads to. -/
theorem Answers.makePrivateDirectory {start : String}
    {answer : Except DiskError Path} (hp : p.bytes ≠ []) (hslash : '/' ∉ start.toList)
    (hlength : 3 ≤ start.length) (h : d.Answers (.makePrivateDirectory p start) answer d') :
    (∃ name there, answer = .ok (p.join ⟨name⟩) ∧ Path.IsPlain name ∧ IsEntryName name ∧
      Leads d.root d.here p there ∧ d.root.at? (there ++ [name]) = none ∧
      d' = d.put (there ++ [name]) (some (.directory privateMode []))) ∨
    ∃ e, answer = .error e ∧ d' = d := by
  have hchange : ∃ change : Change Path, answer = (d.settle change).1 ∧
      d' = (d.settle change).2 ∧ ∀ p' d'', change = .ok (p', d'') →
        ∃ name, Path.IsPlain name ∧ d.makePrivateUnder p name = .ok (p', d'') := by
    cases h with
    | failed r e => exact ⟨.error e, rfl, rfl, nofun⟩
    | drawn parent start characters _ hcharacters =>
      have hno : '/' ∉ characters := fun h => absurd (hcharacters _ h) (by decide)
      exact ⟨_, rfl, rfl, fun p' d'' hmake => ⟨_, isPlain_drawnName hslash hlength hno, hmake⟩⟩
    | exact =>
      refine ⟨d.makePrivateDirectory p start, rfl, rfl, fun p' d'' hmake => ?_⟩
      unfold Disk.makePrivateDirectory at hmake
      split at hmake
      · cases hmake
      · exact ⟨_, isPlain_freshName hslash hlength _, hmake⟩
  obtain ⟨change, rfl, rfl, hmade⟩ := hchange
  rcases d.settle_cases change with ⟨p', d', hok, hsettle⟩ | ⟨e, hsettle⟩
  · obtain ⟨name, hname, hmake⟩ := hmade p' d' hok
    obtain ⟨there, rfl, hentry, hleads, hnone, rfl⟩ := makePrivateUnder_eq_ok hp hname hmake
    rw [hsettle]
    exact .inl ⟨name, there, rfl, hname, hentry, hleads, hnone, rfl⟩
  · rw [hsettle]
    exact .inr ⟨e, rfl, rfl⟩

end Disk

end SuiteSplit
