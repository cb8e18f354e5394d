import Mathlib.Data.List.Nodup
import Mathlib.Tactic.Common
import SuiteSplit.Xml.Attribute
import SuiteSplit.Xml.Reference

/-!
Reading markup that was written to be read.

Each reader of the markup gets one lemma that says what it makes of a construct in its plain form,
whatever stands behind the construct: a tag whose quotes are closed, an attribute between double
quotes, a reference by name. A document is then read by putting the lemmas together in its order.
-/

namespace SuiteSplit

namespace Text

/-! ## White space -/

theorem dropWhile_eq_self {p : Char → Bool} {cs : List Char} (h : ∀ c ∈ cs, p c = false) :
    cs.dropWhile p = cs := by
  cases cs with
  | nil => rfl
  | cons c cs => rw [List.dropWhile_cons_of_neg (by simp [h c (List.mem_cons_self ..)])]

theorem trimEnd_eq_self {p : Char → Bool} {cs : List Char} (h : ∀ c ∈ cs, p c = false) :
    trimEnd p cs = cs := by
  rw [trimEnd, dropWhile_eq_self, List.reverse_reverse]
  intro c hc
  exact h c (List.mem_reverse.mp hc)

/-! ## Tags -/

/-- The character has a part in where a tag ends. -/
def endsOrQuotes (c : Char) : Bool := c = '>' || c = '"' || c = '\''

/-- A scan for the end of a tag passes over a text and has the second quote open behind it. -/
def Passes (before : Option Char) (cs : List Char) (behind : Option Char) : Prop :=
  ∀ rest, cutTag before (cs ++ rest) =
    (cutTag behind rest).map fun (inside, after) => (cs ++ inside, after)

namespace Passes

variable {q q' q'' : Option Char} {cs cs' : List Char}

theorem nil : Passes q [] q := by
  intro rest
  cases h : cutTag q rest <;> simp [h]

theorem append (h : Passes q cs q') (h' : Passes q' cs' q'') : Passes q (cs ++ cs') q'' := by
  intro rest
  rw [List.append_assoc, h, h', Option.map_map]
  simp only [Function.comp_def, List.append_assoc]

/-- Outside of quotes everything is passed but a quote and the end of the tag. -/
theorem plain (h : cs.all fun c => !endsOrQuotes c) : Passes none cs none := by
  induction cs with
  | nil => exact nil
  | cons c cs ih =>
    intro rest
    rw [List.all_cons, Bool.and_eq_true] at h
    obtain ⟨hc, hcs⟩ := h
    obtain ⟨hend, hdouble, hsingle⟩ : c ≠ '>' ∧ c ≠ '"' ∧ c ≠ '\'' := by
      simpa [endsOrQuotes, and_assoc] using hc
    have htail := ih hcs rest
    rw [List.cons_append, cutTag, if_neg (fun h => hend h.2)]
    simp only [hdouble, hsingle, or_self, if_false]
    rw [htail, Option.map_map]
    rfl

theorem openQuote : Passes none ['"'] (some '"') := by
  intro rest
  rw [List.cons_append, cutTag, if_neg (by simp)]
  rfl

theorem closeQuote : Passes (some '"') ['"'] none := by
  intro rest
  rw [List.cons_append, cutTag, if_neg (by simp)]
  rfl

/-- Between double quotes everything is passed but a double quote. -/
theorem quoted (h : '"' ∉ cs) : Passes (some '"') cs (some '"') := by
  induction cs with
  | nil => exact nil
  | cons c cs ih =>
    intro rest
    rw [List.mem_cons, not_or] at h
    have htail := ih h.2 rest
    rw [List.cons_append, cutTag, if_neg (by simp)]
    simp only [Ne.symm h.1, if_false]
    rw [htail, Option.map_map]
    rfl

theorem cutTag_end (h : Passes none cs none) (rest : List Char) :
    cutTag none (cs ++ '>' :: rest) = some (cs, rest) := by
  rw [h, cutTag, if_pos ⟨rfl, rfl⟩, Option.map_some]
  simp only [List.append_nil]

end Passes

theorem cutAt_append {mark : Char} {cs : List Char} (h : mark ∉ cs) (rest : List Char) :
    cutAt [mark] (cs ++ mark :: rest) = some (cs, rest) := by
  induction cs with
  | nil => simp [cutAt]
  | cons c cs ih =>
    rw [List.mem_cons, not_or] at h
    have hfirst : ¬ [mark].isPrefixOf (c :: (cs ++ mark :: rest)) := by
      rw [List.isPrefixOf_iff_prefix, List.cons_prefix_cons]
      exact fun hprefix => h.1 hprefix.1
    rw [List.cons_append, cutAt, if_neg hfirst, ih h.2]
    rfl

end Text

namespace Xml

namespace Markup

theorem tag_eq {cs : List Char} (h : Text.Passes none cs none) (make : List Char → Event)
    (rest : List Char) :
    tag make (cs ++ '>' :: rest) = .ok ⟨make cs, 1 + Text.width cs, rest⟩ := by
  rw [tag, h.cutTag_end]

/-- A tag that opens an element starts with its name. -/
theorem read_opening {c : Char} {cs : List Char} (h : Text.Passes none (c :: cs) none)
    (hc : c ≠ '!' ∧ c ≠ '?' ∧ c ≠ '/') (rest : List Char) :
    read (c :: cs ++ '>' :: rest) = .ok ⟨opening (c :: cs), 1 + Text.width (c :: cs), rest⟩ := by
  rw [← tag_eq h opening rest]
  rw [List.cons_append, read]
  · intro cs' h'; exact hc.1 (List.cons.inj h').1
  · intro cs' h'; exact hc.2.1 (List.cons.inj h').1
  · intro cs' h'; exact hc.2.2 (List.cons.inj h').1

/-- Without blanks all of an end tag is the name. -/
theorem closingName_eq_self {cs : List Char} (h : cs.all fun c => !Text.isBlank c) :
    closingName cs = cs := by
  have hblank : ∀ c ∈ cs, Text.isBlank c = false := by simpa using h
  simp only [closingName, Text.trimEnd_eq_self hblank, ite_self]

theorem read_closing {cs : List Char} (h : Text.Passes none ('/' :: cs) none)
    (hname : cs.all fun c => !Text.isBlank c) (rest : List Char) :
    read ('/' :: cs ++ '>' :: rest) = .ok ⟨.endTag cs, 1 + Text.width ('/' :: cs), rest⟩ := by
  rw [List.cons_append, read, ← List.cons_append, tag_eq h, List.drop_one, List.tail_cons,
    closingName_eq_self hname]

end Markup

/-! ## Events -/

/-- A text is read as events without a fault, wherever it starts. -/
def ReadsAs (cs : List Char) (es : List Event) : Prop :=
  ∀ offset, (eventsFrom offset cs).fault = none ∧
    (eventsFrom offset cs).items.map (·.event) = es

namespace ReadsAs

theorem nil : ReadsAs [] [] := by
  intro offset
  rw [eventsFrom]
  simp [textItem, Reading.complete]

theorem markup {cs : List Char} {m : Markup} {es : List Event} (hm : Markup.read cs = .ok m)
    (h : ReadsAs m.rest es) : ReadsAs ('<' :: cs) (m.event :: es) := by
  intro offset
  rw [eventsFrom]
  split
  · next hend => simp [Text.isBlank] at hend
  · next c inside hbracket =>
    obtain ⟨-, rfl⟩ : c = '<' ∧ cs = inside := by simpa [Text.isBlank, eq_comm] using hbracket
    split
    · next herror => rw [hm] at herror; cases herror
    · next m' hmarkup =>
      rw [hm] at hmarkup
      cases hmarkup
      have htext (r : Reading Item Fault) (start stop : Nat) :
          textItem (List.takeWhile (· ≠ '<') (List.dropWhile Text.isBlank ('<' :: cs))) start stop r =
            r := by
        simp [textItem, Text.isBlank]
      rw [htext]
      exact ⟨(h _).1, congrArg (m.event :: ·) (h _).2⟩

theorem opening {c : Char} {cs rest : List Char} {es : List Event} (h : Text.Passes none (c :: cs) none)
    (hc : c ≠ '!' ∧ c ≠ '?' ∧ c ≠ '/') (hrest : ReadsAs rest es) :
    ReadsAs ('<' :: (c :: cs ++ '>' :: rest)) (Markup.opening (c :: cs) :: es) :=
  markup (Markup.read_opening h hc rest) hrest

theorem closing {cs rest : List Char} {es : List Event} (h : Text.Passes none ('/' :: cs) none)
    (hname : cs.all fun c => !Text.isBlank c) (hrest : ReadsAs rest es) :
    ReadsAs ('<' :: ('/' :: cs ++ '>' :: rest)) (.endTag cs :: es) :=
  markup (Markup.read_closing h hname rest) hrest

end ReadsAs

/-! ## Attributes -/

namespace Tag

/-- The first attribute of a text, if it stands between double quotes. -/
theorem attributesFrom_eq_cons (seen : List (List Char × Nat)) (here : Place) {c : Char}
    {cs afterSign body value after : List Char}
    (hstart : here.rest.dropWhile Text.isBlank = c :: cs)
    (hsign : (cs.dropWhile inKey).dropWhile Text.isBlank = '=' :: afterSign)
    (hnew : seen.find? (·.1 = c :: cs.takeWhile inKey) = none)
    (hquote : afterSign.dropWhile Text.isBlank = '"' :: body)
    (hvalue : Text.cutAt ['"'] body = some (value, after)) :
    ∃ start offset, attributesFrom seen here =
      (attributesFrom ((c :: cs.takeWhile inKey, start) :: seen) ⟨offset, after⟩).cons
        ⟨c :: cs.takeWhile inKey, value⟩ := by
  fun_cases Tag.attributesFrom seen here with
  | case1 start hend => cases hstart.symm.trans hend
  | case2 start c' cs' hs key behind afterSign' hb earlier previous hfound =>
    cases hstart.symm.trans hs
    cases hnew.symm.trans hfound
  | case3 start c' cs' hs key behind afterSign' hb hnone opening hend =>
    cases hstart.symm.trans hs
    cases hsign.symm.trans hb
    cases hquote.symm.trans hend
  | case4 start c' cs' hs key behind afterSign' hb hnone opening quote body' ho hq value' after' hcut =>
    cases hstart.symm.trans hs
    cases hsign.symm.trans hb
    cases hquote.symm.trans ho
    cases hvalue.symm.trans hcut
    exact ⟨_, _, rfl⟩
  | case5 start c' cs' hs key behind afterSign' hb hnone opening quote body' ho hq hcut =>
    cases hstart.symm.trans hs
    cases hsign.symm.trans hb
    cases hquote.symm.trans ho
    cases hvalue.symm.trans hcut
  | case6 start c' cs' hs key behind afterSign' hb hnone opening quote body' ho hq =>
    cases hstart.symm.trans hs
    cases hsign.symm.trans hb
    cases hquote.symm.trans ho
    exact absurd (.inl rfl) hq
  | case7 start c' cs' hs behind hb =>
    cases hstart.symm.trans hs
    exact absurd hsign (hb afterSign)

/-- A text is the list of attributes behind others with the given keys, wherever it starts. -/
def ListsAs (known : List (List Char)) (cs : List Char) (attributes : List Attribute) : Prop :=
  ∀ seen offset, seen.map (·.1) = known → attributesFrom seen ⟨offset, cs⟩ = ⟨attributes, none⟩

theorem ListsAs.nil {known : List (List Char)} : ListsAs known [] [] := by
  intro seen offset _
  rw [attributesFrom]
  split
  · rfl
  · next hrest => cases hrest

theorem ListsAs.cons {known : List (List Char)} {c : Char} {key value rest : List Char}
    {attributes : List Attribute} (hc : Text.isBlank c = false) (hkey : key.all inKey)
    (hnew : c :: key ∉ known) (hvalue : '"' ∉ value)
    (h : ListsAs ((c :: key) :: known) rest attributes) :
    ListsAs known (' ' :: c :: (key ++ '=' :: '"' :: (value ++ '"' :: rest)))
      (⟨c :: key, value⟩ :: attributes) := by
  intro seen offset hseen
  rw [List.all_eq_true] at hkey
  have htake : (key ++ '=' :: '"' :: (value ++ '"' :: rest)).takeWhile inKey = key := by
    rw [List.takeWhile_append_of_pos hkey, List.takeWhile_cons_of_neg (by decide), List.append_nil]
  have hfind : seen.find? (·.1 = c :: key) = none := by
    rw [List.find?_eq_none]
    intro s hs hsame
    rw [← hseen] at hnew
    exact hnew (List.mem_map.mpr ⟨s, hs, of_decide_eq_true hsame⟩)
  obtain ⟨start, offset', hcons⟩ := attributesFrom_eq_cons seen
    ⟨offset, ' ' :: c :: (key ++ '=' :: '"' :: (value ++ '"' :: rest))⟩
    (by rw [List.dropWhile_cons_of_pos (by decide), List.dropWhile_cons_of_neg (by simp [hc])])
    (by rw [List.dropWhile_append_of_pos hkey, List.dropWhile_cons_of_neg (by decide),
      List.dropWhile_cons_of_neg (by decide)])
    (by rwa [htake]) (List.dropWhile_cons_of_neg (by decide)) (Text.cutAt_append hvalue rest)
  rw [hcons, htake, h _ offset' (by simp [hseen])]
  rfl

/-- No key stands in a tag for a second time, nor one that is known to stand before. -/
theorem keys_attributesFrom (seen : List (List Char × Nat)) (here : Place) :
    ((attributesFrom seen here).items.map (·.key)).Nodup ∧
      ∀ a ∈ (attributesFrom seen here).items, ∀ s ∈ seen, s.1 ≠ a.key := by
  fun_induction Tag.attributesFrom seen here with
  | case4 seen here start c cs hs key behind afterSign hb hnew opening quote body ho hq value after hc ih =>
    obtain ⟨hnodup, hfresh⟩ := ih
    have hkey : ∀ s ∈ seen, s.1 ≠ key := by simpa using hnew
    refine ⟨?_, ?_⟩
    · rw [Reading.cons, List.map_cons, List.nodup_cons]
      refine ⟨?_, hnodup⟩
      rw [List.mem_map]
      rintro ⟨a, ha, hak⟩
      exact hfresh a ha _ (List.mem_cons_self ..) hak.symm
    · intro a ha s hs'
      rcases List.mem_cons.mp ha with rfl | ha
      · exact hkey s hs'
      · exact hfresh a ha s (List.mem_cons_of_mem _ hs')
  | _ => simp [Reading.complete, Reading.stop]

theorem nodup_keys (tag : Tag) : (tag.attributes.items.map (·.key)).Nodup :=
  (keys_attributesFrom _ _).1

end Tag

/-! ## References -/

namespace Reference

variable {stop offset : Nat} {cs : List Char}

/-- A character that starts no reference stands for itself. -/
theorem expandFrom_plain {c : Char} (hc : c ≠ '&') :
    expandFrom stop offset (c :: cs) = (expandFrom stop (offset + c.utf8Size) cs).map (c :: ·) := by
  rw [expandFrom, if_neg hc]

/-- A text without references stands for itself. -/
theorem expand_eq_self (h : '&' ∉ cs) : expand cs = .ok cs := by
  have hfrom (stop offset : Nat) (cs : List Char) (h : '&' ∉ cs) :
      expandFrom stop offset cs = .ok cs := by
    induction cs generalizing offset with
    | nil => rw [expandFrom]
    | cons c cs ih =>
      rw [List.mem_cons, not_or] at h
      rw [expandFrom_plain (Ne.symm h.1), ih _ h.2]
      rfl
  exact hfrom _ _ _ h

/-- A reference by name stands for its character. -/
theorem expandFrom_named (name : List Char) {c : Char} (hname : name.all inName)
    (hresolve : ∀ start, resolve start name = .ok c) :
    expandFrom stop offset ('&' :: (name ++ ';' :: cs)) =
      (expandFrom stop (offset + 2 + Text.width name) cs).map (c :: ·) := by
  rw [List.all_eq_true] at hname
  have htake : (name ++ ';' :: cs).takeWhile inName = name := by
    rw [List.takeWhile_append_of_pos hname, List.takeWhile_cons_of_neg (by decide), List.append_nil]
  have hdrop : (name ++ ';' :: cs).dropWhile inName = ';' :: cs := by
    rw [List.dropWhile_append_of_pos hname, List.dropWhile_cons_of_neg (by decide)]
  rw [expandFrom, if_pos rfl]
  split
  · next rest hrest =>
    cases hdrop.symm.trans hrest
    simp only [htake, hresolve]
  · next hrest => exact absurd hdrop (hrest cs)

end Reference

end Xml

end SuiteSplit
