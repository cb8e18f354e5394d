import SuiteSplit.Manifest.Fingerprint
import SuiteSplit.Proofs.Batch
import SuiteSplit.Proofs.FileNames

/-!
What a fingerprint tells of the batches that it was made of.

The stream that is hashed states no lengths, and the bytes of its numbers can be any bytes. It is still
taken apart from the left: numbers have a width, a text ends at the first zero, and the byte that ends a
batch starts no record. So the stream tells the batches, as long as no class and no name has a NUL in it.
Where one has, the stream can also be read with the class cut at another place.
-/

namespace SuiteSplit

namespace Sha256

@[simp] theorem length_lowBytes (width n : Nat) : (lowBytes width n).length = width := by
  induction width generalizing n with
  | zero => rfl
  | succ width ih => rw [lowBytes, List.length_cons, ih]

/-- A number is told by its low bytes if it has no others. -/
theorem lowBytes_inj {width m n : Nat} (hm : m < 256 ^ width) (hn : n < 256 ^ width)
    (h : lowBytes width m = lowBytes width n) : m = n := by
  induction width generalizing m n with
  | zero => omega
  | succ width ih =>
    rw [lowBytes, lowBytes] at h
    obtain ⟨hfirst, hrest⟩ := List.cons.inj h
    have hlow : m % 256 = n % 256 := by simpa using congrArg UInt8.toNat hfirst
    have hhigh : m / 256 = n / 256 := by
      rw [Nat.pow_succ, Nat.mul_comm] at hm hn
      exact ih (Nat.div_lt_of_lt_mul hm) (Nat.div_lt_of_lt_mul hn) hrest
    omega

theorem digitChar_inj {m n : Nat} (hm : m < 16) (hn : n < 16)
    (h : Nat.digitChar m = Nat.digitChar n) : m = n := by
  have hdigits : ∀ i j : Fin 16, Nat.digitChar i = Nat.digitChar j → i = j := by decide
  exact congrArg Fin.val (hdigits ⟨m, hm⟩ ⟨n, hn⟩ h)

theorem hex_injective : Function.Injective hex := by
  intro bs cs h
  replace h := String.ofList_injective h
  induction bs generalizing cs with
  | nil =>
    cases cs with
    | nil => rfl
    | cons c cs => cases h
  | cons b bs ih =>
    cases cs with
    | nil => cases h
    | cons c cs =>
      rw [List.flatMap_cons, List.flatMap_cons] at h
      obtain ⟨hdigits, hrest⟩ := List.append_inj h rfl
      obtain ⟨hhigh, hlow⟩ : Nat.digitChar (b.toNat / 16) = Nat.digitChar (c.toNat / 16) ∧
          Nat.digitChar (b.toNat % 16) = Nat.digitChar (c.toNat % 16) := by simpa using hdigits
      have hb := b.toNat_lt
      have hc := c.toNat_lt
      have hhigh := digitChar_inj (by omega) (by omega) hhigh
      have hlow := digitChar_inj (by omega) (by omega) hlow
      obtain rfl : b = c := UInt8.toNat_inj.mp (by omega)
      rw [ih hrest]

end Sha256

namespace Text

/-- The byte that ends a batch is in no text. -/
theorem last_not_mem_utf8 (s : String) : 0xff ∉ utf8 s := by
  have hbyte (n : Nat) (hn : n % 256 < 255) : (0xff : UInt8) ≠ UInt8.ofNat n := by
    intro h
    have := congrArg UInt8.toNat h
    rw [UInt8.toNat_ofNat'] at this
    simp at this
    omega
  rw [utf8, List.mem_flatMap]
  rintro ⟨c, -, hc⟩
  rw [String.utf8EncodeChar] at hc
  split_ifs at hc <;> simp (disch := omega) only [List.mem_cons, List.not_mem_nil, hbyte, or_self] at hc

theorem zero_not_mem_utf8 {s : String} (h : '\x00' ∉ s.toList) : 0 ∉ utf8 s := by
  refine Path.not_mem_utf8 (by decide) fun c hc hval => h ?_
  obtain rfl : c = '\x00' := Char.ext (UInt32.toNat_inj.mp hval)
  exact hc

/-- What stands in front of the first zero, and what stands behind it, are told by the whole. -/
theorem append_zero_inj {xs ys rest rest' : List UInt8} (hxs : 0 ∉ xs) (hys : 0 ∉ ys)
    (h : xs ++ 0 :: rest = ys ++ 0 :: rest') : xs = ys ∧ rest = rest' := by
  rcases List.append_eq_append_iff.mp h with ⟨more, rfl, hmore⟩ | ⟨more, rfl, hmore⟩ <;>
    cases more with
    | nil => simp_all
    | cons b more =>
      obtain ⟨rfl, -⟩ := List.cons.inj hmore
      simp at hxs hys

theorem utf8_append (s t : String) : utf8 (s ++ t) = utf8 s ++ utf8 t := by
  rw [utf8, String.toList_append, List.flatMap_append, utf8, utf8]

end Text

/-! ## Records -/

theorem Outcome.rank_toUInt8_injective : Function.Injective fun o : Outcome => o.rank.toUInt8 := by
  intro o o' h
  cases o <;> cases o' <;> first | rfl | cases h

namespace TestRecord

/-- There is no NUL in the class and in the name. -/
def IsNulFree (t : TestRecord) : Prop := '\x00' ∉ t.classname.toList ∧ '\x00' ∉ t.name.toList

instance (t : TestRecord) : Decidable t.IsNulFree := inferInstanceAs (Decidable (_ ∧ _))

variable {t u : TestRecord} {rest rest' : List UInt8}

theorem stream_append (t : TestRecord) (rest : List UInt8) :
    t.stream ++ rest = Text.utf8 t.classname ++ 0 :: (Text.utf8 t.name ++ 0 ::
      (Sha256.lowBytes 16 t.duration.nanos ++ t.outcome.rank.toUInt8 :: rest)) := by
  simp [stream]

/-- A record is told by its stream, and so is where the stream ends. -/
theorem stream_append_inj (ht : t.IsNulFree) (hu : u.IsNulFree)
    (h : t.stream ++ rest = u.stream ++ rest') : t = u ∧ rest = rest' := by
  have hwidth (t : TestRecord) : t.duration.nanos < 256 ^ 16 :=
    t.duration.nanos_lt.trans (by decide)
  rw [stream_append, stream_append] at h
  obtain ⟨hclass, h⟩ :=
    Text.append_zero_inj (Text.zero_not_mem_utf8 ht.1) (Text.zero_not_mem_utf8 hu.1) h
  obtain ⟨hname, h⟩ :=
    Text.append_zero_inj (Text.zero_not_mem_utf8 ht.2) (Text.zero_not_mem_utf8 hu.2) h
  obtain ⟨hduration, h⟩ := List.append_inj h (by simp)
  obtain ⟨houtcome, hrest⟩ := List.cons.inj h
  have hduration := Duration.ext (Sha256.lowBytes_inj (hwidth t) (hwidth u) hduration)
  have houtcome := Outcome.rank_toUInt8_injective houtcome
  have hclass := Text.utf8_injective hclass
  have hname := Text.utf8_injective hname
  refine ⟨?_, hrest⟩
  cases t
  cases u
  simp_all

/-- A record does not start as a batch ends. -/
theorem exists_stream_cons (t : TestRecord) : ∃ b bs, t.stream = b :: bs ∧ b ≠ 0xff := by
  have hlast := Text.last_not_mem_utf8 t.classname
  rw [← List.append_nil t.stream, stream_append]
  cases hclass : Text.utf8 t.classname with
  | nil => exact ⟨0, _, rfl, by decide⟩
  | cons b bs =>
    rw [hclass, List.mem_cons, not_or] at hlast
    exact ⟨b, _, rfl, Ne.symm hlast.1⟩

end TestRecord

/-! ## Batches -/

namespace Batch

variable {b c : Batch} {bs cs : List Batch} {rest rest' : List UInt8}

/-- The records of a batch are told by the stream up to the byte that ends the batch. -/
theorem flatMap_stream_tests_inj {ts us : List TestRecord} (hts : ∀ t ∈ ts, t.IsNulFree)
    (hus : ∀ u ∈ us, u.IsNulFree)
    (h : ts.flatMap (·.stream) ++ 0xff :: rest = us.flatMap (·.stream) ++ 0xff :: rest') :
    ts = us ∧ rest = rest' := by
  induction ts generalizing us with
  | nil =>
    cases us with
    | nil => exact ⟨rfl, (List.cons.inj h).2⟩
    | cons u us =>
      obtain ⟨b, bs, hu, hb⟩ := u.exists_stream_cons
      rw [List.flatMap_cons, hu] at h
      exact absurd (List.cons.inj h).1.symm hb
  | cons t ts ih =>
    cases us with
    | nil =>
      obtain ⟨b, bs, ht, hb⟩ := t.exists_stream_cons
      rw [List.flatMap_cons, ht] at h
      exact absurd (List.cons.inj h).1 hb
    | cons u us =>
      rw [List.forall_mem_cons] at hts hus
      rw [List.flatMap_cons, List.flatMap_cons, List.append_assoc, List.append_assoc] at h
      obtain ⟨rfl, hbehind⟩ := TestRecord.stream_append_inj hts.1 hus.1 h
      obtain ⟨rfl, hrest⟩ := ih hts.2 hus.2 hbehind
      exact ⟨rfl, hrest⟩

/-- There is no NUL in the classes and names of a batch. -/
def IsNulFree (b : Batch) : Prop := ∀ t ∈ b.tests, t.IsNulFree

instance (b : Batch) : Decidable b.IsNulFree := inferInstanceAs (Decidable (∀ t ∈ b.tests, _))

theorem stream_append (b : Batch) (rest : List UInt8) :
    b.stream ++ rest =
      Sha256.lowBytes 8 b.number ++ (b.tests.flatMap (·.stream) ++ 0xff :: rest) := by
  simp [stream]

theorem stream_append_inj (hb : b.IsNulFree) (hc : c.IsNulFree) (hbnumber : b.number < 2 ^ 64)
    (hcnumber : c.number < 2 ^ 64) (h : b.stream ++ rest = c.stream ++ rest') :
    b.number = c.number ∧ b.tests = c.tests ∧ rest = rest' := by
  rw [stream_append, stream_append] at h
  obtain ⟨hnumber, h⟩ := List.append_inj h (by simp)
  exact ⟨Sha256.lowBytes_inj hbnumber hcnumber hnumber, flatMap_stream_tests_inj hb hc h⟩

theorem stream_ne_nil (b : Batch) : b.stream ≠ [] := by
  simp [stream]

/-- The stream tells how many batches there are, their numbers and their records. -/
theorem flatMap_stream_inj (hbs : ∀ b ∈ bs, b.IsNulFree ∧ b.number < 2 ^ 64)
    (hcs : ∀ c ∈ cs, c.IsNulFree ∧ c.number < 2 ^ 64) (h : bs.flatMap stream = cs.flatMap stream) :
    bs.map (fun b => (b.number, b.tests)) = cs.map fun c => (c.number, c.tests) := by
  induction bs generalizing cs with
  | nil =>
    cases cs with
    | nil => rfl
    | cons c cs => exact absurd (List.append_eq_nil_iff.mp h.symm).1 c.stream_ne_nil
  | cons b bs ih =>
    cases cs with
    | nil => exact absurd (List.append_eq_nil_iff.mp h).1 b.stream_ne_nil
    | cons c cs =>
      rw [List.forall_mem_cons] at hbs hcs
      obtain ⟨hnumber, htests, hrest⟩ :=
        stream_append_inj hbs.1.1 hcs.1.1 hbs.1.2 hcs.1.2 h
      rw [List.map_cons, List.map_cons, hnumber, htests, ih hbs.2 hcs.2 hrest]

/-- A batch that groups were added to, with a number of 64 bits. -/
structure IsAssembled (b : Batch) : Prop where
  number_lt : b.number < 2 ^ 64
  exists_groups : ∃ gs : List ClassGroup, b = (empty b.number).addAll gs

/-- The total of such a batch is that of its records. -/
theorem IsAssembled.total_eq (h : b.IsAssembled) : b.total = Duration.sum (b.tests.map (·.duration)) := by
  obtain ⟨gs, hgs⟩ := h.exists_groups
  rw [hgs]
  exact total_addAll_empty b.number gs

theorem IsAssembled.eq (hb : b.IsAssembled) (hc : c.IsAssembled) (hnumber : b.number = c.number)
    (htests : b.tests = c.tests) : b = c := by
  have htotal : b.total = c.total := by rw [hb.total_eq, hc.total_eq, htests]
  cases b
  cases c
  simp_all

theorem eq_of_map_number_tests (hbs : ∀ b ∈ bs, b.IsAssembled) (hcs : ∀ c ∈ cs, c.IsAssembled)
    (h : bs.map (fun b => (b.number, b.tests)) = cs.map fun c => (c.number, c.tests)) : bs = cs := by
  induction bs generalizing cs with
  | nil => exact (List.map_eq_nil_iff.mp h.symm).symm
  | cons b bs ih =>
    cases cs with
    | nil => cases h
    | cons c cs =>
      rw [List.forall_mem_cons] at hbs hcs
      obtain ⟨hfirst, hrest⟩ := List.cons.inj h
      obtain ⟨hnumber, htests⟩ := Prod.mk.inj hfirst
      rw [hbs.1.eq hcs.1 hnumber htests, ih hbs.2 hcs.2 hrest]

end Batch

/-- Batches are told by what is hashed, and so by their fingerprint if no other stream has the same hash,
as long as there is no NUL in any class or name. -/
theorem fingerprint_determines_batches {bs cs : List Batch} (hbs : ∀ b ∈ bs, b.IsAssembled)
    (hcs : ∀ c ∈ cs, c.IsAssembled) (hbsFree : ∀ b ∈ bs, b.IsNulFree)
    (hcsFree : ∀ c ∈ cs, c.IsNulFree) :
    (bs.flatMap Batch.stream = cs.flatMap Batch.stream → bs = cs) ∧
      ((Sha256.hash (bs.flatMap Batch.stream) = Sha256.hash (cs.flatMap Batch.stream) →
          bs.flatMap Batch.stream = cs.flatMap Batch.stream) →
        Batch.fingerprint bs = Batch.fingerprint cs → bs = cs) := by
  have hstream (h : bs.flatMap Batch.stream = cs.flatMap Batch.stream) : bs = cs :=
    Batch.eq_of_map_number_tests hbs hcs <| Batch.flatMap_stream_inj
      (fun b hb => ⟨hbsFree b hb, (hbs b hb).number_lt⟩)
      (fun c hc => ⟨hcsFree c hc, (hcs c hc).number_lt⟩) h
  refine ⟨hstream, fun hhash hfingerprint => hstream (hhash ?_)⟩
  exact Sha256.hex_injective hfingerprint

/-- A batch with one test, which takes no time. -/
def batchOfTest (classname name : String) (outcome : Outcome) : Batch :=
  (Batch.empty 1).addAll [⟨classname, [⟨classname, name, .zero, outcome⟩]⟩]

theorem isAssembled_batchOfTest (classname name : String) (outcome : Outcome) :
    (batchOfTest classname name outcome).IsAssembled :=
  ⟨show 1 < 2 ^ 64 by decide, _, rfl⟩

/-- The stream tells a failed test from a skipped one. -/
theorem stream_of_failed_test :
    let failed := [batchOfTest "A" "x" .failed]
    let skipped := [batchOfTest "A" "x" .skipped]
    (∀ b ∈ failed, b.IsAssembled) ∧ (∀ b ∈ skipped, b.IsAssembled) ∧
      (∀ b ∈ failed, b.IsNulFree) ∧ (∀ b ∈ skipped, b.IsNulFree) ∧
      failed.flatMap Batch.stream ≠ skipped.flatMap Batch.stream := by
  intro failed skipped
  have hfailed : ∀ b ∈ failed, b.IsAssembled :=
    List.forall_mem_singleton.mpr (isAssembled_batchOfTest ..)
  have hskipped : ∀ b ∈ skipped, b.IsAssembled :=
    List.forall_mem_singleton.mpr (isAssembled_batchOfTest ..)
  have hfailedFree : ∀ b ∈ failed, b.IsNulFree := by decide
  have hskippedFree : ∀ b ∈ skipped, b.IsNulFree := by decide
  refine ⟨hfailed, hskipped, hfailedFree, hskippedFree, fun h => ?_⟩
  have heq := (fingerprint_determines_batches hfailed hskipped hfailedFree hskippedFree).1 h
  exact absurd heq (by decide)

/-- Two lists of batches with the same stream have the same numbers and records in the same order, or there
is a NUL in some class or name. -/
theorem stream_decodes_uniquely {bs cs : List Batch} (hbs : ∀ b ∈ bs, b.number < 2 ^ 64)
    (hcs : ∀ c ∈ cs, c.number < 2 ^ 64) (h : bs.flatMap Batch.stream = cs.flatMap Batch.stream) :
    (∃ b ∈ bs ++ cs, ∃ t ∈ b.tests, '\x00' ∈ t.classname.toList ∨ '\x00' ∈ t.name.toList) ∨
      List.Forall₂ (fun b c => b.number = c.number ∧ b.tests = c.tests) bs cs := by
  by_cases hfree : ∀ b ∈ bs ++ cs, b.IsNulFree
  · right
    obtain ⟨hbsFree, hcsFree⟩ := List.forall_mem_append.mp hfree
    have hsame := Batch.flatMap_stream_inj (fun b hb => ⟨hbsFree b hb, hbs b hb⟩)
      (fun c hc => ⟨hcsFree c hc, hcs c hc⟩) h
    rw [← List.forall₂_eq_eq_eq, List.forall₂_map_left_iff, List.forall₂_map_right_iff] at hsame
    exact hsame.imp fun _ _ => Prod.mk.inj
  · left
    simp only [Batch.IsNulFree, TestRecord.IsNulFree, not_forall] at hfree
    obtain ⟨b, hb, t, ht, hnul⟩ := hfree
    exact ⟨b, hb, t, ht, by tauto⟩

/-- The stream tells all of a list of batches but the totals. -/
theorem stream_decodes_with_other_total :
    let bs := [batchOfTest "A" "x" .failed, Batch.empty 2]
    let cs := [{ batchOfTest "A" "x" .failed with total := .longest }, Batch.empty 2]
    bs ≠ cs ∧ bs.flatMap Batch.stream = cs.flatMap Batch.stream ∧
      List.Forall₂ (fun b c => b.number = c.number ∧ b.tests = c.tests) bs cs := by
  intro bs cs
  have hstream : bs.flatMap Batch.stream = cs.flatMap Batch.stream := by decide
  have hfree : ¬ ∃ b ∈ bs ++ cs, ∃ t ∈ b.tests, '\x00' ∈ t.classname.toList ∨ '\x00' ∈ t.name.toList := by
    decide
  have hsame := (stream_decodes_uniquely (by decide) (by decide) hstream).resolve_left hfree
  exact ⟨by decide, hstream, hsame⟩

/-! ## A NUL in a class or name -/

/-- What stands behind a NUL in the class can as well belong to the name, and the other way round. -/
theorem TestRecord.exists_twin {t : TestRecord} (h : ¬ t.IsNulFree) :
    ∃ u, u ≠ t ∧ u.stream = t.stream := by
  have hzero : Text.utf8 "\x00" = [0] := by decide
  have hone : "\x00".length = 1 := by decide
  have hcut {s : String} (hs : '\x00' ∈ s.toList) : ∃ x y, s = x ++ "\x00" ++ y := by
    obtain ⟨x, y, hxy⟩ := List.append_of_mem hs
    refine ⟨.ofList x, .ofList y, String.toList_injective ?_⟩
    simp [hxy]
  by_cases hclass : '\x00' ∈ t.classname.toList
  · obtain ⟨x, y, hxy⟩ := hcut hclass
    refine ⟨⟨x, y ++ "\x00" ++ t.name, t.duration, t.outcome⟩, ?_, ?_⟩
    · intro hsame
      have hlength := congrArg (fun u => u.classname.length) hsame
      simp only [hxy, String.length_append] at hlength
      omega
    · simp [stream, hxy, Text.utf8_append, hzero]
  · have hname : '\x00' ∈ t.name.toList := by
      by_contra hname
      exact h ⟨hclass, hname⟩
    obtain ⟨x, y, hxy⟩ := hcut hname
    refine ⟨⟨t.classname ++ "\x00" ++ x, y, t.duration, t.outcome⟩, ?_, ?_⟩
    · intro hsame
      have hlength := congrArg (fun u => u.classname.length) hsame
      simp only [String.length_append] at hlength
      omega
    · simp [stream, hxy, Text.utf8_append, hzero]

/-- Batches with a NUL in a class or name share their stream with other batches. -/
theorem exists_batches_with_stream {bs : List Batch} (hbs : ∀ b ∈ bs, b.IsAssembled)
    (h : ¬ ∀ b ∈ bs, b.IsNulFree) :
    ∃ cs, (∀ c ∈ cs, c.IsAssembled) ∧ cs ≠ bs ∧ cs.flatMap Batch.stream = bs.flatMap Batch.stream := by
  simp only [Batch.IsNulFree, not_forall] at h
  obtain ⟨b, hb, t, ht, hnul⟩ := h
  obtain ⟨u, hne, hstream⟩ := TestRecord.exists_twin hnul
  obtain ⟨before, after, rfl⟩ := List.append_of_mem hb
  obtain ⟨ts, ts', htests⟩ := List.append_of_mem ht
  let c : Batch := (Batch.empty b.number).addAll [⟨u.classname, ts ++ u :: ts'⟩]
  have hnumber : c.number = b.number := Batch.number_addAll _ _
  have hctests : c.tests = ts ++ u :: ts' := by simp [c, Batch.empty]
  have hc : c.IsAssembled := ⟨hnumber ▸ (hbs b hb).number_lt, _, by rw [hnumber]⟩
  refine ⟨before ++ c :: after, ?_, ?_, ?_⟩
  · rw [List.forall_mem_append, List.forall_mem_cons] at hbs ⊢
    exact ⟨hbs.1, hc, hbs.2.2⟩
  · intro hsame
    have hcb : c = b := by simpa using hsame
    rw [hcb, htests] at hctests
    simp [hne.symm] at hctests
  · have hcb : c.stream = b.stream := by
      rw [Batch.stream, Batch.stream, hnumber, htests, hctests]
      simp [hstream]
    simp [hcb]

/-- A class with a NUL in it and a name with a NUL in it give the same stream. -/
theorem stream_of_cut_names :
    let first := [batchOfTest "A\x00B" "C" .successful]
    let second := [batchOfTest "A" "B\x00C" .successful]
    (∀ b ∈ first, b.IsAssembled) ∧ (∀ b ∈ second, b.IsAssembled) ∧
      first.flatMap Batch.stream = second.flatMap Batch.stream ∧
      Batch.fingerprint first = Batch.fingerprint second ∧ first ≠ second := by
  intro first second
  have hstream : first.flatMap Batch.stream = second.flatMap Batch.stream := by decide
  refine ⟨?_, ?_, hstream, congrArg (fun s => Sha256.hex (Sha256.hash s)) hstream, by decide⟩
  · exact List.forall_mem_singleton.mpr (isAssembled_batchOfTest ..)
  · exact List.forall_mem_singleton.mpr (isAssembled_batchOfTest ..)

end SuiteSplit
