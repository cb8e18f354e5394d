import SuiteSplit.Command
import SuiteSplit.Proofs.Lines
import SuiteSplit.Proofs.ReadBack
import SuiteSplit.Proofs.TomlIntegers

/-!
Validating settings finds what grouping would refuse.

Both commands load the settings in the same way. Settings are in order if the pattern of the reports is
one and the number of batches, where it is set, is positive. Exactly then validation succeeds, and
exactly then grouping goes on to the disk, once it has a number of batches.

Validation reports that settings are valid before it looks at the number of batches. So that line does
not tell that they are: it stands there also where validation then fails for that number.
-/

namespace SuiteSplit

open Toml

namespace Settings

variable {env : Environment} {d : Disk} {s : Settings}

/-! ## The number of batches in a file -/

/-- A number of batches that is set is a signed 64-bit integer. -/
def BatchesFit (s : Settings) : Prop := ∀ n, s.batches = some n → minInteger ≤ n ∧ n ≤ maxInteger

theorem fits_of_values? {v : Value} (h : v.Fits) :
    Gives (∀ w, some w ∈ · → w.Fits) (values? v) := by
  unfold values?
  split
  · cases h with
    | table hentries =>
      refine .some fun w hw => ?_
      obtain ⟨key, -, hkey⟩ := List.mem_map.mp hw
      exact Entries.Fit.of_lookup hentries hkey
  · cases h with
    | array hitems =>
      refine .some fun w hw => ?_
      obtain ⟨i, -, hi⟩ := List.mem_mapIdx.mp hw
      exact hitems w (List.mem_of_getElem? hi)
  · cases h with
    | tables hitems =>
      refine .some fun w hw => ?_
      obtain ⟨i, -, hi⟩ := List.mem_mapIdx.mp hw
      obtain ⟨entries, hentries, rfl⟩ := Option.map_eq_some_iff.mp hi
      exact .table (hitems entries (List.mem_of_getElem? hentries))
  · exact .some fun w hw => by simp at hw
  · exact .none

/-- The number of batches is what stands in the first place. -/
theorem exists_values?_of_ofToml? {v : Value} (h : ofToml? v = some s) :
    ∃ first rest, values? v = some (first :: rest) ∧
      setting? none (integer? · |>.map some) first = some s.batches := by
  rw [ofToml?] at h
  obtain ⟨values, hvalues, h⟩ := Option.bind_eq_some_iff.mp h
  split at h
  · simp only [Option.bind_eq_bind, Option.bind_eq_some_iff, Option.pure_def, Option.some.injEq] at h
    obtain ⟨batches, hbatches, -, -, -, -, -, -, -, -, -, -, -, -, rfl⟩ := h
    exact ⟨_, _, hvalues, hbatches⟩
  · cases h

theorem batchesFit_ofToml? {v : Value} (h : v.Fits) : Gives BatchesFit (ofToml? v) := by
  intro s hs n hn
  obtain ⟨first, rest, hvalues, hfirst⟩ := exists_values?_of_ofToml? hs
  rw [hn] at hfirst
  cases first with
  | none => cases hfirst
  | some w =>
    have hw := fits_of_values? h _ hvalues w List.mem_cons_self
    obtain ⟨m, hm, hmn⟩ := Option.map_eq_some_iff.mp hfirst
    cases hmn
    cases hw with
    | integer low high =>
      cases hm
      exact ⟨low, high⟩
    | _ => cases hm

theorem batchesFit_default : BatchesFit {} := nofun

theorem batchesFit_parse? (text : String) : Gives BatchesFit (parse? text) := by
  refine (fit_read? text).bind fun entries hentries => ?_
  cases hlookup : entries.lookup "batching".toList with
  | none => exact .some batchesFit_default
  | some v => exact batchesFit_ofToml? (hentries.of_lookup hlookup)

theorem batches_of_expand {s' : Settings} (h : s.expand env = .ok s') : s'.batches = s.batches := by
  rw [expand] at h
  rcases hresults : expandPath env s.resultsDirectory with e | results
  · rw [hresults] at h
    cases h
  · rcases houtput : expandPath env s.outputDirectory with e | output
    · rw [hresults, houtput] at h
      cases h
    · rw [hresults, houtput] at h
      cases h
      rfl

theorem batchesFit_read {text : String} (h : read env text = .ok s) : s.BatchesFit := by
  rw [read] at h
  split at h
  · cases h
  · next parsed hparsed =>
    intro n hn
    rw [batches_of_expand h] at hn
    exact batchesFit_parse? text parsed hparsed n hn

theorem batchesFit_load {p : Path} (h : ((load env p).run d).1 = .ok s) : s.BatchesFit := by
  rw [load, Program.run_bind, Program.run_readText] at h
  rcases htext : Program.textOf (d.read p) with e | text
  · rw [htext] at h
    cases h
  · rw [htext] at h
    dsimp only at h
    rcases hread : read env text with e | s'
    · rw [hread] at h
      cases h
    · rw [hread] at h
      cases h
      exact batchesFit_read hread

/-- The number of batches in a file is never out of range. -/
theorem batchesFit_loadFor {file : Option Path} (h : ((loadFor env file).run d).1 = .ok s) :
    s.BatchesFit := by
  rw [loadFor, loadOrDefault] at h
  split at h
  · exact batchesFit_load h
  · rw [Program.run_bind] at h
    split at h
    · exact batchesFit_load h
    · cases h
      exact batchesFit_default

/-! ## Checks -/

theorem exists_collector_iff :
    (∃ c, s.collector = .ok c) ↔ (NamePattern.ofText? s.reportPattern).isSome := by
  rw [collector]
  cases NamePattern.ofText? s.reportPattern <;> simp

theorem exists_batchCount_iff (h : s.BatchesFit) :
    (∃ count, s.batchCount = .ok count) ↔ ∃ n, s.batches = some n ∧ 1 ≤ n := by
  have hmax : maxInteger = maxInt64 := by decide
  rw [batchCount]
  cases hbatches : s.batches with
  | none => simp
  | some n =>
    have hn := (h n hbatches).2
    simp only [BatchCount.ofInt, Option.some.injEq, exists_eq_left']
    split
    · next hrange => exact iff_of_true ⟨_, rfl⟩ hrange.1
    · next hrange =>
      refine iff_of_false (by simp) ?_
      omega

theorem exists_prepare_iff : (∃ prepared, s.prepare = .ok prepared) ↔
    (∃ count, s.batchCount = .ok count) ∧ ∃ c, s.collector = .ok c := by
  rw [prepare]
  rcases s.batchCount with e | count
  · simp
  · rcases s.collector with e | c <;> simp

/-- Settings that validation should accept: the pattern of the reports is one, and a number of batches
that is set is positive. -/
structure IsInOrder (s : Settings) : Prop where
  pattern : (NamePattern.ofText? s.reportPattern).isSome
  batches : ∀ n, s.batches = some n → 1 ≤ n

end Settings

/-! ## What validation prints -/

namespace Command

open Settings

variable {s : Settings}

/-- The line that reports valid settings. -/
def validLine : String := "Configuration is valid!"

theorem validLine_infix_ofLines (lines : List String) :
    validLine.toList <:+: (Ending.ofLines (heading ++ lines)).output.toList := by
  have hlines : (Ending.ofLines (heading ++ lines)).output.toList =
      validLine.toList ++ '\n' :: Text.ofLines ((heading.tail ++ lines).map String.toList) := by
    rw [Ending.ofLines, Text.toList_join_lines]
    exact Text.ofLines_cons _ _
  rw [hlines]
  exact (List.prefix_append _ _).isInfix

theorem validLine_infix_showSettings_iff :
    validLine.toList <:+: (showSettings s).output.toList ↔
      (NamePattern.ofText? s.reportPattern).isSome := by
  rw [← exists_collector_iff, showSettings]
  rcases s.collector with e | c
  · refine iff_of_false ?_ nofun
    intro hinfix
    cases List.infix_nil.mp hinfix
  · refine iff_of_true ?_ ⟨c, rfl⟩
    dsimp only
    split
    · exact validLine_infix_ofLines _
    · exact validLine_infix_ofLines _
    · exact validLine_infix_ofLines []

theorem succeeded_showSettings_iff (h : s.BatchesFit) :
    (showSettings s).status = .succeeded ↔ s.IsInOrder := by
  have hcount := exists_batchCount_iff h
  have hinOrder : s.IsInOrder ↔ (∃ c, s.collector = .ok c) ∧ ∀ n, s.batches = some n → 1 ≤ n := by
    rw [exists_collector_iff]
    exact ⟨fun h => ⟨h.pattern, h.batches⟩, fun h => ⟨h.1, h.2⟩⟩
  rw [hinOrder, showSettings]
  rcases s.collector with e | c
  · exact iff_of_false nofun nofun
  · dsimp only
    cases hbatches : s.batches with
    | none => exact iff_of_true rfl ⟨⟨c, rfl⟩, nofun⟩
    | some n =>
      simp only [hbatches, Option.some.injEq, exists_eq_left'] at hcount
      rcases hchecked : s.batchCount with e | count
      · rw [hchecked] at hcount
        refine iff_of_false nofun ?_
        rintro ⟨-, hpos⟩
        obtain ⟨count, hok⟩ := hcount.mpr (hpos n rfl)
        cases hok
      · refine iff_of_true rfl ⟨⟨c, rfl⟩, ?_⟩
        rintro _ ⟨⟩
        exact hcount.mp ⟨count, hchecked⟩

/-- For a number of batches that is not positive, the first lines are printed and then it is refused. -/
theorem showSettings_of_not_pos {n : Int} (hpattern : (NamePattern.ofText? s.reportPattern).isSome)
    (hbatches : s.batches = some n) (hn : n < 1) :
    showSettings s = { Ending.ofLines heading with
      status := .failed { message := (CountError.notPositive n).message } } := by
  obtain ⟨c, hc⟩ := exists_collector_iff.mpr hpattern
  have hcount : s.batchCount = .error (.notPositive n) := by
    rw [batchCount, hbatches]
    exact dif_neg (by omega)
  rw [showSettings, hc]
  dsimp only
  rw [hbatches, hcount]

end Command

/-! ## Where grouping begins to work -/

/-- A program makes a call. -/
def Program.Acts {α : Type} : Program α → Prop
  | done _ => False
  | call .. => True

theorem Program.Acts.bind {α β : Type} {p : Program α} (h : p.Acts) (f : α → Program β) :
    (p >>= f).Acts := by
  cases p with
  | done a => exact absurd h id
  | call r next => trivial

theorem Collector.acts_collect (c : Collector) (root : Path) : (c.collect root).Acts := by
  have hsearch : (findReports c.pattern root).Acts := trivial
  rw [collect, rootFault?]
  split
  · trivial
  · exact hsearch.bind _

/-- Grouping ends at once, with nothing done, unless its settings are prepared. -/
theorem Command.acts_groupTests_iff {now : Timestamp} {s : Settings} {json : Bool} :
    (groupTests now s json).Acts ↔ ∃ prepared, s.prepare = .ok prepared := by
  rw [groupTests]
  rcases s.prepare with e | ⟨count, c⟩
  · exact iff_of_false id nofun
  · refine iff_of_true (Program.Acts.bind ?_ _) ⟨_, rfl⟩
    exact (c.acts_collect s.resultsDirectory).bind _

/-- The options give a positive number of batches to settings without one, and none to others. -/
def GroupOptions.Complete (o : GroupOptions) (s : Settings) : Prop :=
  if s.batches = none then ∃ n, o.batches = some n ∧ 1 ≤ n ∧ fitsInt64 n else o.batches = none

section

variable {o : GroupOptions} {s : Settings}

/-- Grouping takes the number of batches from the options, or else from the settings, and it has to be
there and positive. -/
theorem Settings.exists_prepare_withGroupOptions_iff (h : (s.withGroupOptions o).BatchesFit) :
    (∃ prepared, (s.withGroupOptions o).prepare = .ok prepared) ↔
      (∃ n, (o.batches <|> s.batches) = some n ∧ 1 ≤ n) ∧
        (NamePattern.ofText? s.reportPattern).isSome := by
  rw [exists_prepare_iff, exists_batchCount_iff h, exists_collector_iff]
  rfl

theorem GroupOptions.Complete.exists_prepare_iff (ho : o.Complete s) (h : s.BatchesFit) :
    (∃ prepared, (s.withGroupOptions o).prepare = .ok prepared) ↔ s.IsInOrder := by
  have hbatches : (s.withGroupOptions o).batches = (o.batches <|> s.batches) := rfl
  rw [Complete] at ho
  cases hs : s.batches with
  | none =>
    rw [if_pos hs] at ho
    obtain ⟨n, hn, hpos, hn'⟩ := ho
    have hsame : (o.batches <|> s.batches) = some n := by
      rw [hn]
      rfl
    have hfit : (s.withGroupOptions o).BatchesFit := by
      intro m hm
      rw [hbatches, hsame, Option.some.injEq] at hm
      rw [fitsInt64, Bool.and_eq_true, decide_eq_true_eq, decide_eq_true_eq] at hn'
      rw [minInteger, maxInteger]
      omega
    rw [Settings.exists_prepare_withGroupOptions_iff hfit, hsame]
    refine ⟨fun h => ⟨h.2, ?_⟩, fun h => ⟨⟨n, rfl, hpos⟩, h.pattern⟩⟩
    rw [hs]
    nofun
  | some m =>
    rw [if_neg (by simp [hs])] at ho
    have hsame : (o.batches <|> s.batches) = s.batches := by
      rw [ho]
      rfl
    have hfit : (s.withGroupOptions o).BatchesFit := by rwa [Settings.BatchesFit, hbatches, hsame]
    rw [Settings.exists_prepare_withGroupOptions_iff hfit, hsame]
    refine ⟨fun ⟨⟨n, hn, hpos⟩, hpattern⟩ => ⟨hpattern, ?_⟩,
      fun h => ⟨⟨m, hs, h.batches m hs⟩, h.pattern⟩⟩
    intro k hk
    rw [hn, Option.some.injEq] at hk
    rwa [← hk]

end

/-- With the settings that are loaded, grouping goes on to the disk. -/
def Command.PassesChecks (env : Environment) (now : Timestamp) (file : Option Path) (o : GroupOptions)
    (d : Disk) : Prop :=
  ∃ s, ((Settings.loadFor env file).run d).1 = .ok s ∧
    (groupTests now (s.withGroupOptions o) o.json).Acts

/-- Validation shows the settings that are loaded. -/
theorem run_validate (env : Environment) (now : Timestamp) (file : Option Path) (verbose : Bool)
    (d : Disk) : (((⟨file, verbose, .validate⟩ : Invocation).perform env now).run d).1 =
      match ((Settings.loadFor env file).run d).1 with
      | .error e => .failed e.message (some e.cause)
      | .ok s => Command.showSettings s := by
  rw [Invocation.perform, Command.withSettings, Program.run_bind]
  rcases ((Settings.loadFor env file).run d).1 with e | s <;> rfl

/-- Validation succeeds exactly with settings that are in order, and exactly where grouping goes on to
the disk, once a number of batches is given where the file has none. The line that reports valid
settings tells only that the settings are loaded and their pattern is one. -/
theorem validation_agrees_with_grouping (env : Environment) (now : Timestamp) (file : Option Path)
    (verbose : Bool) (d : Disk) :
    let loaded := ((Settings.loadFor env file).run d).1
    let ending := (((⟨file, verbose, .validate⟩ : Invocation).perform env now).run d).1
    (ending.status = .succeeded ↔ ∃ s, loaded = .ok s ∧ s.IsInOrder) ∧
    (∀ o : GroupOptions, (∀ s, loaded = .ok s → o.Complete s) →
      (ending.status = .succeeded ↔ Command.PassesChecks env now file o d)) ∧
    (Command.validLine.toList <:+: ending.output.toList ↔
      ∃ s, loaded = .ok s ∧ (NamePattern.ofText? s.reportPattern).isSome) := by
  intro loaded ending
  have hending : ending = _ := run_validate env now file verbose d
  have hfit (s : Settings) (h : loaded = .ok s) : s.BatchesFit := Settings.batchesFit_loadFor h
  have hsucceeds : ending.status = .succeeded ↔ ∃ s, loaded = .ok s ∧ s.IsInOrder := by
    rw [hending]
    rcases hloaded : ((Settings.loadFor env file).run d).1 with e | s
    · exact iff_of_false nofun (by simp [loaded, hloaded])
    · simp only [loaded, hloaded, Except.ok.injEq, exists_eq_left']
      exact Command.succeeded_showSettings_iff (hfit s hloaded)
  refine ⟨hsucceeds, ?_, ?_⟩
  · intro o ho
    rw [hsucceeds, Command.PassesChecks]
    constructor
    · rintro ⟨s, hs, horder⟩
      exact ⟨s, hs, Command.acts_groupTests_iff.mpr
        (((ho s hs).exists_prepare_iff (hfit s hs)).mpr horder)⟩
    · rintro ⟨s, hs, hacts⟩
      exact ⟨s, hs, ((ho s hs).exists_prepare_iff (hfit s hs)).mp
        (Command.acts_groupTests_iff.mp hacts)⟩
  · rw [hending]
    rcases hloaded : ((Settings.loadFor env file).run d).1 with e | s
    · refine iff_of_false ?_ (by simp [loaded, hloaded])
      intro hinfix
      cases List.infix_nil.mp hinfix
    · simp only [loaded, hloaded, Except.ok.injEq, exists_eq_left']
      exact Command.validLine_infix_showSettings_iff

/-! ## A file with settings -/

/-- A disk with a settings file. -/
def diskWithSettings (text : String) : Disk :=
  let here : FileName := Text.utf8 "work"
  ⟨.directory directoryMode [(here, .directory directoryMode
    [(Text.utf8 Settings.fileName, .file fileMode text.toUTF8)])], [here]⟩

theorem loadFor_diskWithSettings (text : String) :
    ((Settings.loadFor ⟨[]⟩ none).run (diskWithSettings text)).1 =
      match Settings.read ⟨[]⟩ text with
      | .error e => .error (.faulty (.ofString Settings.fileName) e)
      | .ok s => .ok s := by
  have hstat : (diskWithSettings text).stat (.ofString Settings.fileName) = .ok .file := by cbv
  have hread : (diskWithSettings text).read (.ofString Settings.fileName) = .ok text.toUTF8 := by cbv
  have hpresent : (Program.isPresent (.ofString Settings.fileName)).run (diskWithSettings text) =
      (true, diskWithSettings text) := by
    rw [Program.isPresent, Program.run_bind]
    change (((diskWithSettings text).stat _).isOk, _) = _
    rw [hstat]
    rfl
  rw [Settings.loadFor, Settings.loadOrDefault, if_neg (by decide), Program.run_bind]
  dsimp only [Option.getD_none]
  simp only [hpresent, if_true]
  rw [Settings.load, Program.run_bind, Program.run_readText_ok hread]
  dsimp only
  rcases Settings.read ⟨[]⟩ text with e | s <;> rfl

theorem isSome_standardPattern : (NamePattern.ofText? NamePattern.standardText).isSome := by cbv

/-- A file without a number of batches is valid, and grouping into three goes on with it; a file with
a negative number is neither valid nor enough for grouping. -/
theorem validation_agrees_with_grouping_by_file :
    let unset := diskWithSettings "[batching]\n"
    let negative := diskWithSettings "[batching]\nnumber_of_batches = -1\n"
    let validate : Invocation := ⟨none, false, .validate⟩
    ((validate.perform ⟨[]⟩ midnight).run unset).1.status = .succeeded ∧
      Command.PassesChecks ⟨[]⟩ midnight none { batches := some 3 } unset ∧
      ((validate.perform ⟨[]⟩ midnight).run negative).1.status ≠ .succeeded ∧
      ¬ Command.PassesChecks ⟨[]⟩ midnight none {} negative := by
  intro unset negative validate
  have hunset : ((Settings.loadFor ⟨[]⟩ none).run unset).1 = .ok {} := by
    have hread : Settings.read ⟨[]⟩ "[batching]\n" = .ok {} := by decide +kernel
    rw [loadFor_diskWithSettings, hread]
  have hnegative : ((Settings.loadFor ⟨[]⟩ none).run negative).1 = .ok { batches := some (-1) } := by
    have hread : Settings.read ⟨[]⟩ "[batching]\nnumber_of_batches = -1\n" =
        .ok { batches := some (-1) } := by decide +kernel
    rw [loadFor_diskWithSettings, hread]
  obtain ⟨hvalid, hgroups, -⟩ := validation_agrees_with_grouping ⟨[]⟩ midnight none false unset
  obtain ⟨hvalid', hgroups', -⟩ := validation_agrees_with_grouping ⟨[]⟩ midnight none false negative
  have hsucceeds := hvalid.mpr ⟨_, hunset, isSome_standardPattern, nofun⟩
  have hfails : ((validate.perform ⟨[]⟩ midnight).run negative).1.status ≠ .succeeded := by
    intro h
    obtain ⟨s, hs, horder⟩ := hvalid'.mp h
    cases hnegative.symm.trans hs
    exact absurd (horder.batches (-1) rfl) (by decide)
  refine ⟨hsucceeds, (hgroups { batches := some 3 } ?_).mp hsucceeds, hfails,
    fun h => hfails ((hgroups' {} ?_).mpr h)⟩
  · intro s hs
    cases hunset.symm.trans hs
    exact ⟨3, rfl, by decide, by decide⟩
  · intro s hs
    cases hnegative.symm.trans hs
    rfl

/-- A number of batches that is not positive is refused after the line that reports valid settings. -/
theorem valid_line_of_no_batches :
    let text := "[batching]\nnumber_of_batches = 0\n"
    let ending := ((perform ⟨[]⟩ midnight ["validate"]).run (diskWithSettings text)).1
    Command.validLine.toList <:+: ending.output.toList ∧
      ending.status = .failed ⟨"Number of batches must be a positive integer, got 0", none⟩ := by
  intro text ending
  have hread : Settings.read ⟨[]⟩ text = .ok { batches := some 0 } := by decide +kernel
  have hline : CommandLine.read ⟨[]⟩ ["validate"] = .ok ⟨none, false, .validate⟩ := by cbv
  have hending : ending = { Ending.ofLines Settings.heading with
      status := .failed { message := (CountError.notPositive 0).message } } := by
    have hrun : ending = (((⟨none, false, .validate⟩ : Invocation).perform ⟨[]⟩ midnight).run
        (diskWithSettings text)).1 := by
      dsimp only [ending]
      rw [perform, hline]
    rw [hrun, run_validate, loadFor_diskWithSettings, hread]
    exact Command.showSettings_of_not_pos isSome_standardPattern rfl (by decide)
  rw [hending]
  exact ⟨Command.validLine_infix_ofLines [], rfl⟩

end SuiteSplit
