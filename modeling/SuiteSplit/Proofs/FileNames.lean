import SuiteSplit.Manifest.Format
import SuiteSplit.Manifest.Index
import SuiteSplit.Proofs.Digits
import SuiteSplit.Proofs.Leading

/-!
The names of published files. No two files of one publication have the same name, and how long the
path of a batch file is depends on the digits of its number.
-/

namespace SuiteSplit

namespace Text

theorem toByteArray_utf8 (s : String) : (utf8 s).toByteArray = s.toByteArray := by
  rw [← String.utf8Encode_toList, List.utf8Encode]
  rfl

theorem utf8_injective {s t : String} (h : utf8 s = utf8 t) : s = t := by
  rw [← String.toByteArray_inj, ← toByteArray_utf8, ← toByteArray_utf8, h]

/-- The bytes that are a text are those of the text. -/
theorem ofUtf8?_eq_some_iff {bytes : List UInt8} {s : String} :
    ofUtf8? bytes = some s ↔ bytes = utf8 s := by
  have hbytes : bytes = utf8 s ↔ bytes.toByteArray = s.toByteArray := by
    rw [← toByteArray_utf8, List.toByteArray_inj]
  rw [hbytes, ofUtf8?, String.fromUTF8?]
  split
  · rw [Option.some.injEq, ← String.toByteArray_inj]
    rfl
  · next hinvalid =>
    constructor
    · exact nofun
    · intro h
      exact absurd s.isValidUTF8 (h ▸ hinvalid)

/-- The texts whose characters are bytes of their own other than zero. -/
def IsAscii (s : String) : Prop := ∀ c ∈ s.toList, 0 < c.val.toNat ∧ c.val.toNat < 128

theorem IsAscii.zero_not_mem {s : String} (h : IsAscii s) : 0 ∉ utf8 s :=
  Path.not_mem_utf8 (by decide) fun c hc => (h c hc).1.ne'

theorem IsAscii.length_utf8 {s : String} (h : IsAscii s) : (utf8 s).length = s.length := by
  have hone : ∀ c ∈ s.toList, (String.utf8EncodeChar c).length = 1 := by
    intro c hc
    rw [String.length_utf8EncodeChar, Char.utf8Size_eq_one_iff]
    have := (h c hc).2
    exact UInt32.le_iff_toNat_le.mpr (by simpa using Nat.le_of_lt_succ this)
  rw [utf8, List.length_flatMap, List.map_congr_left hone, List.map_const', List.sum_replicate, String.length_toList]
  simp

end Text

namespace ManifestFormat

variable {layout layout' : Json.Layout} {m n : Nat}

theorem toList_fileName_json (layout : Json.Layout) (n : Nat) :
    ((json layout).fileName n).toList = "batch-".toList ++ Nat.toDigits 10 n ++ ".json".toList := by
  change ("batch-" ++ toString n ++ ".json").toList = _
  rw [String.toList_append, String.toList_append, Nat.toString_eq_ofList_toDigits,
    @String.toList_ofList (Nat.toDigits 10 n)]

theorem toList_fileName_classList (n : Nat) :
    (classList.fileName n).toList = "batch-".toList ++ Nat.toDigits 10 n ++ ".txt".toList := by
  change ("batch-" ++ toString n ++ ".txt").toList = _
  rw [String.toList_append, String.toList_append, Nat.toString_eq_ofList_toDigits,
    @String.toList_ofList (Nat.toDigits 10 n)]

/-- The number of a batch can be told from the name of its file. -/
theorem fileName_json_inj (h : (json layout).fileName m = (json layout').fileName n) : m = n := by
  have hchars := congrArg String.toList h
  rw [toList_fileName_json, toList_fileName_json] at hchars
  have hdigits := List.append_cancel_left (List.append_cancel_right hchars)
  rw [← natOfDigits_toDigits m, hdigits, natOfDigits_toDigits]

theorem fileName_classList_ne (layout : Json.Layout) (m n : Nat) :
    classList.fileName m ≠ (json layout).fileName n := by
  intro h
  have hlast := congrArg (fun s => s.toList.getLast?) h
  simp only [toList_fileName_json, toList_fileName_classList] at hlast
  rw [List.getLast?_append_of_ne_nil _ (by decide), List.getLast?_append_of_ne_nil _ (by decide)]
    at hlast
  exact absurd hlast (by decide)

theorem fileName_ne_index (format : ManifestFormat) (n : Nat) :
    format.fileName n ≠ BatchIndex.fileName := by
  intro h
  have hfirst := congrArg (fun s => s.toList.head?) h
  cases format with
  | json layout =>
    simp only [toList_fileName_json, List.append_assoc] at hfirst
    exact absurd hfirst (by rw [List.head?_append_of_ne_nil _ (by decide)]; decide)
  | classList =>
    simp only [toList_fileName_classList, List.append_assoc] at hfirst
    exact absurd hfirst (by rw [List.head?_append_of_ne_nil _ (by decide)]; decide)

theorem isAscii_fileName_json (layout : Json.Layout) (n : Nat) :
    Text.IsAscii ((json layout).fileName n) := by
  have hfront : ∀ c ∈ "batch-".toList, 0 < c.val.toNat ∧ c.val.toNat < 128 := by simp
  have hback : ∀ c ∈ ".json".toList, 0 < c.val.toNat ∧ c.val.toNat < 128 := by simp
  intro c hc
  rw [toList_fileName_json, List.mem_append, List.mem_append] at hc
  rcases hc with (hc | hc) | hc
  · exact hfront c hc
  · obtain ⟨hlow, hhigh⟩ := Char.isDigit_iff_toNat.mp (isDigit_of_mem_toDigits hc)
    exact ⟨Nat.lt_of_lt_of_le (by decide) hlow, Nat.lt_of_le_of_lt hhigh (by decide)⟩
  · exact hback c hc

/-- The bytes of a batch file's name. -/
theorem length_fileName_json (layout : Json.Layout) (n : Nat) :
    (Text.utf8 ((json layout).fileName n)).length = (Nat.toDigits 10 n).length + 11 := by
  rw [(isAscii_fileName_json layout n).length_utf8, ← String.length_toList, toList_fileName_json]
  have hfront : "batch-".toList.length = 6 := by decide
  have hback : ".json".toList.length = 5 := by decide
  rw [List.length_append, List.length_append]
  omega

theorem length_fileName_json_mono (h : m ≤ n) :
    (Text.utf8 ((json layout).fileName m)).length ≤ (Text.utf8 ((json layout).fileName n)).length := by
  rw [length_fileName_json, length_fileName_json, Nat.add_le_add_iff_right,
    Nat.length_toDigits_le_iff (by decide) Nat.length_toDigits_pos]
  exact Nat.lt_of_le_of_lt h (lt_ten_pow_length_toDigits n)

end ManifestFormat

theorem Path.IsPlain.isEntryName {name : FileName} (h : Path.IsPlain name)
    (hlength : name.length ≤ maxNameLength) : Node.IsEntryName name :=
  ⟨h.ne_nil, h.ne_dot, h.ne_dots, hlength⟩

end SuiteSplit
