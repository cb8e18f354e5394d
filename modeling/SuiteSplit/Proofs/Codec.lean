import SuiteSplit.Manifest.Format
import SuiteSplit.Manifest.Index
import SuiteSplit.Proofs.JsonReader
import SuiteSplit.Proofs.Seconds
import SuiteSplit.Proofs.Timestamp

/-!
Records, batches and indexes are read back as they were written. Totals are not: a sum of many
durations can be too long for its nanoseconds to survive, but it is still read as some duration.
-/

namespace SuiteSplit

namespace Json.Value

variable {fields : List (String × Value)}

theorem mapM_eq_some_map {α β : Type} {f : α → Option β} {g : α → β} {l : List α}
    (h : ∀ a ∈ l, f a = some (g a)) : l.mapM f = some (l.map g) := by
  induction l with
  | nil => rfl
  | cons a l ih =>
    rw [List.mapM_cons, h a List.mem_cons_self, ih fun b hb => h b (List.mem_cons_of_mem _ hb)]
    rfl

theorem mapM_map_eq_some {α β : Type} {f : α → Option β} {g : β → α} {l : List β}
    (h : ∀ b ∈ l, f (g b) = some b) : (l.map g).mapM f = some l := by
  rw [List.mapM_map, mapM_eq_some_map (f := f ∘ g) (g := id) h, List.map_id]

theorem forall₂_of_mapM {α β : Type} {f : α → Option β} {l : List α} {l' : List β}
    (h : l.mapM f = some l') : List.Forall₂ (fun a b => f a = some b) l l' := by
  induction l generalizing l' with
  | nil =>
    cases h
    exact .nil
  | cons a l ih =>
    rw [List.mapM_cons] at h
    obtain ⟨b, hb, hrest⟩ := Option.bind_eq_some_iff.mp h
    obtain ⟨bs, hbs, hdone⟩ := Option.bind_eq_some_iff.mp hrest
    cases hdone
    exact .cons hb (ih hbs)

theorem filter_key (h : (fields.map Prod.fst).Nodup) {field : String × Value} (hmem : field ∈ fields) :
    ((fields.map fun (key, value) => (some key.toList, value)).filter
      (·.1 = some field.1.toList)) = [(some field.1.toList, field.2)] := by
  induction fields with
  | nil => cases hmem
  | cons other fields ih =>
    rw [List.map_cons, List.nodup_cons] at h
    rw [List.map_cons]
    rcases List.mem_cons.mp hmem with rfl | hmem
    · have hrest : (fields.map fun (key, value) => (some key.toList, value)).filter
          (·.1 = some field.1.toList) = [] := by
        rw [List.filter_eq_nil_iff]
        intro m hm hkey
        obtain ⟨other, hother, rfl⟩ := List.mem_map.mp hm
        have hsame : other.1 = field.1 := by simpa [String.toList_inj] using hkey
        exact h.1 (hsame ▸ List.mem_map_of_mem hother)
      rw [List.filter_cons_of_pos (by simp), hrest]
    · have hne : other.1 ≠ field.1 := by
        intro hsame
        exact h.1 (hsame ▸ List.mem_map_of_mem hmem)
      rw [List.filter_cons_of_neg (by simpa [String.toList_inj] using hne), ih h.2 hmem]

/-- An object has the fields that it was made of. -/
theorem fields?_ofFields {keys : List String} (hsame : fields.map Prod.fst = keys) (h : keys.Nodup) :
    (ofFields fields).fields? keys = some (fields.map Prod.snd) := by
  subst hsame
  have hkeys : ((fields.map fun (key, value) => ((some key.toList : Option (List Char)), value)).all
      (·.1.isSome)) = true := by
    rw [List.all_map, List.all_eq_true]
    intro field _
    rfl
  rw [ofFields, fields?, if_pos hkeys, List.mapM_map]
  apply mapM_eq_some_map
  intro field hfield
  rw [Function.comp, filter_key h hfield]

theorem isCanonical_ofNat (n : Nat) : (ofNat n).IsCanonical := .number (Number.isCanonical_ofNat n)

theorem isCanonical_ofText (s : String) : (ofText s).IsCanonical := .text _

theorem isCanonical_ofFields (h : ∀ field ∈ fields, field.2.IsCanonical) :
    (ofFields fields).IsCanonical := by
  refine .object ?_
  intro m hm
  obtain ⟨field, hfield, rfl⟩ := List.mem_map.mp hm
  exact h field hfield

@[simp] theorem toText?_ofText (s : String) : (ofText s).toText? = some s := by
  rw [ofText, toText?, String.ofList_toList]

theorem toCount?_ofNat {n : Nat} (h : n < wordLimit) : (ofNat n).toCount? = some n :=
  Number.toCount?_ofNat h

/-- A number that is read as a count is read as the count that it was. -/
theorem eq_of_toCount?_ofNat {m n : Nat} (h : (ofNat n).toCount? = some m) : m = n := by
  change (if _ then none else some (natOfDigits (Nat.toDigits 10 n))) = some m at h
  split at h
  · cases h
  · rw [natOfDigits_toDigits] at h
    exact (Option.some.inj h).symm

end Json.Value

open Json.Value

theorem Duration.isCanonical_toJson (d : Duration) : d.toJson.IsCanonical :=
  .number (Json.Number.isCanonical_ofBinary64 _)

namespace Outcome

@[simp] theorem ofJson?_toJson (o : Outcome) : ofJson? o.toJson = some o := by
  cases o <;> rfl

theorem isCanonical_toJson (o : Outcome) : o.toJson.IsCanonical := isCanonical_ofText _

end Outcome

namespace TestRecord

variable {t : TestRecord}

theorem isCanonical_toJson (t : TestRecord) : t.toJson.IsCanonical := by
  apply isCanonical_ofFields
  simp [isCanonical_ofText, t.duration.isCanonical_toJson, t.outcome.isCanonical_toJson]

theorem ofJson?_eq_some_iff {v classname name duration outcome : Json.Value}
    (hfields : v.fields? ["classname", "name", "duration", "result"] =
      some [classname, name, duration, outcome]) : ofJson? v = some t ↔
    classname.toText? = some t.classname ∧ name.toText? = some t.name ∧
      Duration.ofJson? duration = some t.duration ∧ Outcome.ofJson? outcome = some t.outcome := by
  rw [ofJson?, hfields]
  simp only [Option.pure_def, Option.bind_eq_bind, Option.bind_some, Option.bind_eq_some_iff,
    Option.some.injEq]
  constructor
  · rintro ⟨_, hclassname, _, hname, _, hduration, _, houtcome, rfl⟩
    exact ⟨hclassname, hname, hduration, houtcome⟩
  · rintro ⟨hclassname, hname, hduration, houtcome⟩
    exact ⟨_, hclassname, _, hname, _, hduration, _, houtcome, rfl⟩

theorem fields?_toJson (t : TestRecord) :
    t.toJson.fields? ["classname", "name", "duration", "result"] =
      some [.ofText t.classname, .ofText t.name, t.duration.toJson, t.outcome.toJson] :=
  fields?_ofFields rfl (by simp)

/-- A record of a test of up to thirty days is read back as it was. -/
theorem ofJson?_toJson (h : t.duration.nanos ≤ Duration.maxRecorded) :
    ofJson? t.toJson = some t :=
  (ofJson?_eq_some_iff t.fields?_toJson).mpr ⟨toText?_ofText _, toText?_ofText _,
    Duration.ofJson?_toJson h, Outcome.ofJson?_toJson _⟩

/-- However long the test took, a record that is read back has its class. -/
theorem classname_of_ofJson?_toJson {u : TestRecord} (h : ofJson? t.toJson = some u) :
    u.classname = t.classname := by
  obtain ⟨hclassname, -⟩ := (ofJson?_eq_some_iff t.fields?_toJson).mp h
  rw [toText?_ofText] at hclassname
  exact (Option.some.inj hclassname).symm

end TestRecord

namespace Batch

variable {b : Batch}

/-- A batch whose number is a count, whose tests took up to thirty days each, and whose total is not
too near to the longest duration. -/
structure IsStorable (b : Batch) : Prop where
  number : b.number < Json.wordLimit
  tests : ∀ t ∈ b.tests, t.duration.nanos ≤ Duration.maxRecorded
  total : b.total.exact ≤ 2 ^ 64 - 2 ^ 20

theorem isCanonical_toJson (b : Batch) : b.toJson.IsCanonical := by
  have htests : (Json.Value.array (b.tests.map (·.toJson))).IsCanonical := by
    refine .array ?_
    intro v hv
    obtain ⟨t, -, rfl⟩ := List.mem_map.mp hv
    exact t.isCanonical_toJson
  apply isCanonical_ofFields
  simp [isCanonical_ofNat, htests, b.total.isCanonical_toJson]

theorem ofJson?_eq_some_iff {v number total : Json.Value} {tests : List Json.Value}
    (hfields : v.fields? ["number", "tests", "totalDuration"] = some [number, .array tests, total]) :
    ofJson? v = some b ↔ number.toCount? = some b.number ∧
      tests.mapM TestRecord.ofJson? = some b.tests ∧ Duration.ofJson? total = some b.total := by
  rw [ofJson?, hfields]
  simp only [Option.pure_def, Option.bind_eq_bind, Option.bind_some, Option.bind_eq_some_iff,
    Option.some.injEq]
  constructor
  · rintro ⟨_, hnumber, _, htests, _, htotal, rfl⟩
    exact ⟨hnumber, htests, htotal⟩
  · rintro ⟨hnumber, htests, htotal⟩
    exact ⟨_, hnumber, _, htests, _, htotal, rfl⟩

theorem fields?_toJson (b : Batch) : b.toJson.fields? ["number", "tests", "totalDuration"] =
    some [.ofNat b.number, .array (b.tests.map (·.toJson)), b.total.toJson] :=
  fields?_ofFields rfl (by simp)

/-- What is read of the file of a batch is read field by field. -/
theorem read?_render_eq_some_iff {c : Batch} {layout : Json.Layout} :
    read? ((ManifestFormat.json layout).render b) = some c ↔
      (ofNat b.number).toCount? = some c.number ∧
        (b.tests.map (·.toJson)).mapM TestRecord.ofJson? = some c.tests ∧
        Duration.ofJson? b.total.toJson = some c.total := by
  rw [read?, ManifestFormat.render, Json.read?_render b.isCanonical_toJson layout, Option.bind_some]
  exact ofJson?_eq_some_iff b.fields?_toJson

theorem mapM_ofJson?_toJson (h : ∀ t ∈ b.tests, t.duration.nanos ≤ Duration.maxRecorded) :
    (b.tests.map (·.toJson)).mapM TestRecord.ofJson? = some b.tests :=
  mapM_map_eq_some fun t ht => TestRecord.ofJson?_toJson (h t ht)

/-- A batch is read from its file with its number and its tests. -/
theorem read?_render (h : b.IsStorable) (layout : Json.Layout) :
    ∃ total, read? ((ManifestFormat.json layout).render b) = some { b with total } := by
  obtain ⟨total, htotal⟩ := Duration.exists_ofJson?_toJson h.total
  exact ⟨total, read?_render_eq_some_iff.mpr
    ⟨toCount?_ofNat h.number, mapM_ofJson?_toJson h.tests, htotal⟩⟩

/-- However long its tests took, a batch that is read from its file has its number and its classes. -/
theorem of_read?_render {c : Batch} {layout : Json.Layout}
    (h : read? ((ManifestFormat.json layout).render b) = some c) :
    c.number = b.number ∧ c.classnames = b.classnames := by
  obtain ⟨hnumber, htests, -⟩ := read?_render_eq_some_iff.mp h
  refine ⟨eq_of_toCount?_ofNat hnumber, ?_⟩
  have hrecords := List.forall₂_map_left_iff.mp (forall₂_of_mapM htests)
  have hclasses : c.tests.map (·.classname) = b.tests.map (·.classname) := by
    rw [← List.forall₂_eq_eq_eq, List.forall₂_map_left_iff, List.forall₂_map_right_iff]
    exact hrecords.flip.imp fun u t hread => TestRecord.classname_of_ofJson?_toJson hread
  rw [classnames, classnames, hclasses]

end Batch

namespace BatchIndex

variable {i : BatchIndex}

/-- An index of counts, with a total that is not too near to the longest duration, of a point in time
that exists. -/
structure IsStorable (i : BatchIndex) : Prop where
  batches : i.batches < Json.wordLimit
  tests : i.tests < Json.wordLimit
  total : i.total.exact ≤ 2 ^ 64 - 2 ^ 20
  generatedAt : i.generatedAt.IsValid

theorem isCanonical_toJson (i : BatchIndex) : i.toJson.IsCanonical := by
  have htext : (Json.Value.text (some i.generatedAt.print)).IsCanonical := .text _
  apply isCanonical_ofFields
  simp [isCanonical_ofNat, isCanonical_ofText, htext, i.total.isCanonical_toJson]

theorem ofJson?_eq_some {v batches tests total fingerprint generatedAt : Json.Value} {text : String}
    (hfields : v.fields?
      ["numberOfBatches", "totalTests", "totalDuration", "fingerprint", "generatedAt"] =
      some [batches, tests, total, fingerprint, generatedAt])
    (hbatches : batches.toCount? = some i.batches) (htests : tests.toCount? = some i.tests)
    (htotal : Duration.ofJson? total = some i.total)
    (hfingerprint : fingerprint.toText? = some i.fingerprint)
    (htext : generatedAt.toText? = some text)
    (hgeneratedAt : Timestamp.read? text.toList = some i.generatedAt) : ofJson? v = some i := by
  rw [ofJson?, hfields]
  simp [hbatches, htests, htotal, hfingerprint, htext, hgeneratedAt]

theorem ofJson?_toJson (h : i.IsStorable) : ∃ total, ofJson? i.toJson = some { i with total } := by
  obtain ⟨total, htotal⟩ := Duration.exists_ofJson?_toJson h.total
  have htext : Timestamp.read? (String.ofList i.generatedAt.print).toList = some i.generatedAt := by
    rw [String.toList_ofList, Timestamp.read?_print h.generatedAt]
  exact ⟨total, ofJson?_eq_some (fields?_ofFields rfl (by simp)) (toCount?_ofNat h.batches)
    (toCount?_ofNat h.tests) htotal (toText?_ofText _) rfl htext⟩

/-- An index is read from its file with everything but its total. -/
theorem read?_render (h : i.IsStorable) : ∃ total, read? i.render = some { i with total } := by
  obtain ⟨total, htotal⟩ := ofJson?_toJson h
  refine ⟨total, ?_⟩
  rw [read?, render, Json.read?_render i.isCanonical_toJson .pretty, Option.bind_some, htotal]

end BatchIndex

end SuiteSplit
