import Mathlib
import SuiteSplit.Proofs.Nesting

/-!
Markup is read from the left, and what a construct is does not depend on what stands behind it. A
construct that was read ends with a `>`, and with another text behind that `>` it is read as the same
construct. So the items of a front of a document are those of the document, as far as constructs end in
the front, and at most one text behind them.
-/

namespace SuiteSplit

namespace Text

@[simp] theorem width_nil : width [] = 0 := rfl

theorem width_eq_sum (cs : List Char) : width cs = (cs.map Char.utf8Size).sum := by
  rw [width, List.sum_eq_foldl, List.foldl_map]

@[simp] theorem width_cons (c : Char) (cs : List Char) : width (c :: cs) = c.utf8Size + width cs := by
  rw [width_eq_sum, width_eq_sum, List.map_cons, List.sum_cons]

@[simp] theorem width_append (cs ds : List Char) : width (cs ++ ds) = width cs + width ds := by
  rw [width_eq_sum, width_eq_sum, width_eq_sum, List.map_append, List.sum_append]

theorem width_pos {cs : List Char} (h : cs ≠ []) : 0 < width cs := by
  obtain ⟨c, rest, rfl⟩ := List.exists_cons_of_ne_nil h
  have hpos := c.utf8Size_pos
  rw [width_cons]
  omega

/-! ## Cuts -/

section

variable {mark cs before after : List Char}

theorem cutAt_local (hmark : mark ≠ []) (h : cutAt mark cs = some (before, after)) (x : List Char) :
    cutAt mark (before ++ mark ++ x) = some (before, x) := by
  induction cs generalizing before with
  | nil =>
    rw [cutAt, if_neg hmark] at h
    cases h
  | cons c cs ih =>
    rw [cutAt] at h
    split at h
    · obtain ⟨rfl, -⟩ := Prod.mk.inj (Option.some.inj h)
      obtain ⟨m, ms, rfl⟩ := List.exists_cons_of_ne_nil hmark
      rw [List.nil_append, List.cons_append, cutAt, if_pos (by simp)]
      simp
    · next hfront =>
      obtain ⟨⟨before', after'⟩, hcut, heq⟩ := Option.map_eq_some_iff.mp h
      obtain ⟨rfl, rfl⟩ := Prod.mk.inj heq
      -- the mark is no longer than what stands in front of the rest, so it is no prefix either
      have hfront' : ¬ mark.isPrefixOf (c :: (before' ++ mark ++ x)) := by
        rw [List.isPrefixOf_iff_prefix] at hfront ⊢
        intro hprefix
        apply hfront
        have hshort : mark <+: c :: (before' ++ mark) :=
          List.prefix_of_prefix_length_le hprefix ⟨x, by simp⟩ (by simp; omega)
        rw [cutAt_eq_append hcut]
        exact hshort.trans ⟨after', by simp⟩
      rw [List.cons_append, List.cons_append, cutAt, if_neg hfront', ih hcut]
      rfl

theorem cutTag_local {quote : Option Char} (h : cutTag quote cs = some (before, after))
    (x : List Char) : cutTag quote (before ++ '>' :: x) = some (before, x) := by
  induction cs generalizing before quote with
  | nil => cases h
  | cons c cs ih =>
    unfold cutTag at h
    split at h
    · next hend =>
      obtain ⟨rfl, -⟩ := Prod.mk.inj (Option.some.inj h)
      unfold cutTag
      exact if_pos ⟨hend.1, rfl⟩
    · next hinside =>
      obtain ⟨⟨before', after'⟩, hcut, heq⟩ := Option.map_eq_some_iff.mp h
      obtain ⟨rfl, rfl⟩ := Prod.mk.inj heq
      unfold cutTag
      rw [List.cons_append]
      simp only [if_neg hinside, ih hcut]
      rfl

theorem cutBalanced_local {depth : Nat} (h : cutBalanced depth cs = some (before, after))
    (x : List Char) : cutBalanced depth (before ++ '>' :: x) = some (before, x) := by
  induction cs generalizing before depth with
  | nil => cases h
  | cons c cs ih =>
    unfold cutBalanced at h
    split at h
    · next hend =>
      obtain ⟨rfl, -⟩ := Prod.mk.inj (Option.some.inj h)
      unfold cutBalanced
      exact if_pos ⟨rfl, hend.2⟩
    · next hinside =>
      obtain ⟨⟨before', after'⟩, hcut, heq⟩ := Option.map_eq_some_iff.mp h
      obtain ⟨rfl, rfl⟩ := Prod.mk.inj heq
      unfold cutBalanced
      rw [List.cons_append]
      simp only [if_neg hinside, ih hcut]
      rfl

end

end Text

namespace Xml

namespace Markup

/-- Markup that is read from a text: its last character is a `>`, its size counts what was read and
the given bytes in front, and with another text behind the `>` it is read as the same construct. -/
def Local (reader : List Char → Except (Malformation × Nat) Markup) (lead : Nat) (cs : List Char)
    (m : Markup) : Prop :=
  ∃ used, cs = used ++ '>' :: m.rest ∧ m.size = lead + Text.width used + 1 ∧
    ∀ x, reader (used ++ '>' :: x) = .ok { m with rest := x }

variable {cs : List Char} {m : Markup}

theorem tag_local {make : List Char → Event} (h : tag make cs = .ok m) :
    Local (tag make) 0 cs m := by
  unfold tag at h
  split at h
  · next inside rest hcut =>
    cases h
    refine ⟨inside, Text.cutTag_eq_append hcut, by simp only; omega, ?_⟩
    intro x
    rw [tag, Text.cutTag_local hcut]
  · cases h

/-- A cut at a mark that ends with a `>` is made in the same place with another text behind the mark. -/
theorem cutAt_bracket {close before after : List Char} (h : Text.cutAt close cs = some (before, after))
    (mark : List Char) (hclose : close = mark ++ ['>']) :
    cs = before ++ mark ++ '>' :: after ∧
      ∀ x, Text.cutAt close (before ++ mark ++ '>' :: x) = some (before, x) := by
  subst hclose
  constructor
  · simpa using Text.cutAt_eq_append h
  · intro x
    simpa using Text.cutAt_local (by simp) h x

theorem instruction_local (h : instruction cs = .ok m) : Local instruction 1 cs m := by
  unfold instruction at h
  split at h
  · cases h
  · next hfirst =>
    split at h
    · next body rest hcut =>
      cases h
      obtain ⟨hsplit, hlocal⟩ := cutAt_bracket hcut ['?'] rfl
      refine ⟨body ++ ['?'], hsplit, ?_, ?_⟩
      · rw [Text.width_append]
        change 3 + Text.width body = 1 + (Text.width body + 1) + 1
        omega
      · intro x
        unfold instruction
        split
        · next cs' hx =>
          cases body with
          | nil => cases hx
          | cons c body =>
            cases hx
            exact absurd hsplit (hfirst _)
        · rw [hlocal]
    · cases h

theorem declaration_cdata (cs : List Char) : declaration ('[' :: ("CDATA[".toList ++ cs)) =
    match Text.cutAt "]]>".toList cs with
    | some (body, rest) => .ok ⟨.cdata body, 11 + Text.width body, rest⟩
    | none => .error (.unclosed .cdata, 0) := by
  rw [declaration, if_pos (List.isPrefixOf_iff_prefix.mpr (List.prefix_append _ _))]
  rfl

theorem declaration_comment (cs : List Char) : declaration ('-' :: '-' :: cs) =
    match Text.cutAt "-->".toList cs with
    | some (body, rest) => .ok ⟨.aside, 6 + Text.width body, rest⟩
    | none => .error (.unclosed .comment, 0) := rfl

theorem declaration_letter {c : Char} (hletter : c = 'D' ∨ c = 'd') (cs : List Char) :
    declaration (c :: cs) =
      match Text.cutBalanced 0 (c :: cs) with
      | some (inside, rest) =>
        if (inside.take 7).map Char.toUpper ≠ "DOCTYPE".toList then .error (.unclosed .doctype, 0)
        else if (inside.drop 7).all Text.isBlank then
          .error (.namelessDoctype, 2 + Text.width inside)
        else .ok ⟨.aside, 2 + Text.width inside, rest⟩
      | none => .error (.unclosed .doctype, 0) := by
  rcases hletter with rfl | rfl <;> rfl

theorem cdata_local (h : declaration ('[' :: ("CDATA[".toList ++ cs)) = .ok m) :
    Local declaration 1 ('[' :: ("CDATA[".toList ++ cs)) m := by
  rw [declaration_cdata] at h
  split at h
  · next body rest hcut =>
    cases h
    obtain ⟨rfl, hlocal⟩ := cutAt_bracket hcut [']', ']'] rfl
    refine ⟨'[' :: ("CDATA[".toList ++ (body ++ [']', ']'])), by simp, ?_, ?_⟩
    · rw [Text.width_cons, Text.width_append, Text.width_append]
      change 11 + Text.width body = 1 + (1 + (6 + (Text.width body + 2))) + 1
      omega
    · intro x
      rw [List.cons_append, List.append_assoc, declaration_cdata, hlocal]
  · cases h

theorem comment_local (h : declaration ('-' :: '-' :: cs) = .ok m) :
    Local declaration 1 ('-' :: '-' :: cs) m := by
  rw [declaration_comment] at h
  split at h
  · next body rest hcut =>
    cases h
    obtain ⟨rfl, hlocal⟩ := cutAt_bracket hcut ['-', '-'] rfl
    refine ⟨'-' :: '-' :: (body ++ ['-', '-']), by simp, ?_, ?_⟩
    · rw [Text.width_cons, Text.width_cons, Text.width_append]
      change 6 + Text.width body = 1 + (1 + (1 + (Text.width body + 2))) + 1
      omega
    · intro x
      rw [List.cons_append, List.cons_append, declaration_comment, hlocal]
  · cases h

theorem doctype_local {c : Char} (hletter : c = 'D' ∨ c = 'd') (h : declaration (c :: cs) = .ok m) :
    Local declaration 1 (c :: cs) m := by
  rw [declaration_letter hletter] at h
  split at h
  · next inside rest hcut =>
    split at h
    · cases h
    · next hdoctype =>
      split at h
      · cases h
      · next hname =>
        cases h
        have hsplit := Text.cutBalanced_eq_append hcut
        refine ⟨inside, hsplit, by simp only; omega, ?_⟩
        intro x
        cases inside with
        | nil =>
          cases hsplit
          rcases hletter with h | h <;> cases h
        | cons c' inside =>
          cases hsplit
          have hlocal := Text.cutBalanced_local hcut x
          rw [List.cons_append] at hlocal ⊢
          rw [declaration_letter hletter, hlocal]
          simp only [if_neg hdoctype, if_neg hname]
  · cases h

theorem declaration_local (h : declaration cs = .ok m) : Local declaration 1 cs m := by
  have hread := h
  unfold declaration at h
  split at h
  · next cs =>
    split at h
    · next hname =>
      obtain ⟨cs, rfl⟩ := List.isPrefixOf_iff_prefix.mp hname
      exact cdata_local hread
    · cases h
  · exact comment_local hread
  · cases h
  · split at h
    · next hletter => exact doctype_local hletter hread
    · cases h
  · cases h

theorem read_local (h : read cs = .ok m) : Local read 0 cs m := by
  unfold read at h
  split at h
  · obtain ⟨used, hsplit, hsize, hread⟩ := declaration_local h
    refine ⟨'!' :: used, by rw [hsplit, List.cons_append], ?_, hread⟩
    rw [Text.width_cons, hsize]
    change 1 + Text.width used + 1 = 0 + (1 + Text.width used) + 1
    omega
  · obtain ⟨used, hsplit, hsize, hread⟩ := instruction_local h
    refine ⟨'?' :: used, by rw [hsplit, List.cons_append], ?_, hread⟩
    rw [Text.width_cons, hsize]
    change 1 + Text.width used + 1 = 0 + (1 + Text.width used) + 1
    omega
  · obtain ⟨used, hsplit, hsize, hread⟩ := tag_local h
    refine ⟨used, hsplit, hsize, ?_⟩
    intro x
    cases used with
    | nil => cases hsplit
    | cons c used =>
      cases hsplit
      exact hread x
  · next cs hdeclaration hinstruction hclosing =>
    obtain ⟨used, hsplit, hsize, hread⟩ := tag_local h
    refine ⟨used, hsplit, hsize, ?_⟩
    intro x
    rw [read, hread x]
    all_goals
      intro cs' hx
      cases used with
      | nil => cases hx
      | cons c used =>
        cases hx
        first
          | exact hdeclaration _ hsplit
          | exact hinstruction _ hsplit
          | exact hclosing _ hsplit

/-- A construct is the same with more behind it. -/
theorem read_append (h : read cs = .ok m) (more : List Char) :
    read (cs ++ more) = .ok { m with rest := m.rest ++ more } := by
  obtain ⟨used, hsplit, -, hread⟩ := read_local h
  have hmore : cs ++ more = used ++ '>' :: (m.rest ++ more) := by rw [hsplit]; simp
  rw [hmore, hread]

end Markup

/-! ## Events -/

/-- The item of the text in front of a construct, if it is more than blanks. -/
def leadItems (offset : Nat) (lead : List Char) : List Item :=
  if lead.dropWhile Text.isBlank = [] then []
  else [⟨.text (Text.trimEnd Text.isBlank (lead.dropWhile Text.isBlank)),
    offset + Text.width (lead.takeWhile Text.isBlank), offset + Text.width lead⟩]

section

variable {offset : Nat} {lead inside : List Char}

theorem not_isTag_of_mem_leadItems {item : Item} (h : item ∈ leadItems offset lead) :
    item.event.isTag = false := by
  unfold leadItems at h
  split at h
  · cases h
  · rw [List.mem_singleton.mp h]
    rfl

theorem textItem_lead (r : Reading Item Fault) :
    textItem (lead.dropWhile Text.isBlank) (offset + Text.width (lead.takeWhile Text.isBlank))
      (offset + Text.width lead) r = ⟨leadItems offset lead ++ r.items, r.fault⟩ := by
  unfold textItem leadItems
  split <;> rfl

theorem width_lead : offset + Text.width (lead.takeWhile Text.isBlank) +
    Text.width (lead.dropWhile Text.isBlank) = offset + Text.width lead := by
  rw [Nat.add_assoc, ← Text.width_append, List.takeWhile_append_dropWhile]

private theorem takeWhile_append_cons_of_neg {p : Char → Bool} {c : Char} (hc : p c = false)
    (cs ds : List Char) : (cs ++ c :: ds).takeWhile p = cs.takeWhile p := by
  induction cs with
  | nil => simp [hc]
  | cons d cs ih => simp [List.takeWhile_cons, ih]

private theorem dropWhile_append_cons_of_neg {p : Char → Bool} {c : Char} (hc : p c = false)
    (cs ds : List Char) : (cs ++ c :: ds).dropWhile p = cs.dropWhile p ++ c :: ds := by
  induction cs with
  | nil => simp [hc]
  | cons d cs ih =>
    rw [List.cons_append, List.dropWhile_cons, List.dropWhile_cons]
    split
    · exact ih
    · rfl

private theorem shown_ne_bracket (h : '<' ∉ lead) :
    ∀ c ∈ lead.dropWhile Text.isBlank, decide (c ≠ '<') := by
  intro c hc
  rw [decide_eq_true_eq]
  rintro rfl
  exact h ((List.dropWhile_sublist _).subset hc)

/-- A document without markup is a text. -/
theorem eventsFrom_text (h : '<' ∉ lead) (offset : Nat) :
    eventsFrom offset lead = ⟨leadItems offset lead, none⟩ := by
  have hshown := shown_ne_bracket h
  have hbehind := List.dropWhile_eq_nil_iff.mpr hshown
  rw [eventsFrom]
  simp only [List.takeWhile_eq_self_iff.mpr hshown, width_lead]
  split
  · rw [textItem_lead]
    simp [Reading.complete]
  · next hbracket => cases hbehind.symm.trans hbracket

/-- A document with markup is a text, a construct and the rest. -/
theorem eventsFrom_bracket (h : '<' ∉ lead) (offset : Nat) : eventsFrom offset (lead ++ '<' :: inside) =
    let bracket := offset + Text.width lead
    let behind : Reading Item Fault :=
      match Markup.read inside with
      | .error (cause, distance) => .stop ⟨cause, bracket + distance⟩
      | .ok m => (eventsFrom (bracket + 1 + m.size) m.rest).cons
          ⟨m.event, bracket, bracket + 1 + m.size⟩
    ⟨leadItems offset lead ++ behind.items, behind.fault⟩ := by
  have hshown := shown_ne_bracket h
  have hblanks := takeWhile_append_cons_of_neg (p := Text.isBlank) (c := '<') rfl lead inside
  have hdrop := dropWhile_append_cons_of_neg (p := Text.isBlank) (c := '<') rfl lead inside
  have hbody : (lead.dropWhile Text.isBlank ++ '<' :: inside).takeWhile (· ≠ '<') =
      lead.dropWhile Text.isBlank := by
    rw [List.takeWhile_append_of_pos hshown, List.takeWhile_cons_of_neg (by simp), List.append_nil]
  have hbehind : (lead.dropWhile Text.isBlank ++ '<' :: inside).dropWhile (· ≠ '<') =
      '<' :: inside := by
    rw [List.dropWhile_append_of_pos hshown, List.dropWhile_cons_of_neg (by simp)]
  rw [eventsFrom]
  simp only [hblanks, hdrop, hbody, width_lead]
  split
  · next hend =>
    rw [hdrop, hbehind] at hend
    cases hend
  · next hbracket =>
    rw [hdrop, hbehind] at hbracket
    cases hbracket
    rw [textItem_lead]
    split <;> next hread => rw [hread]

theorem eventsFrom_fault {cause : Malformation} {distance : Nat} (h : '<' ∉ lead)
    (hread : Markup.read inside = .error (cause, distance)) (offset : Nat) :
    eventsFrom offset (lead ++ '<' :: inside) =
      ⟨leadItems offset lead, some ⟨cause, offset + Text.width lead + distance⟩⟩ := by
  rw [eventsFrom_bracket h, hread]
  simp [Reading.stop]

theorem eventsFrom_markup {m : Markup} (h : '<' ∉ lead) (hread : Markup.read inside = .ok m)
    (offset : Nat) : eventsFrom offset (lead ++ '<' :: inside) =
      let bracket := offset + Text.width lead
      let behind := eventsFrom (bracket + 1 + m.size) m.rest
      ⟨leadItems offset lead ++ ⟨m.event, bracket, bracket + 1 + m.size⟩ :: behind.items,
        behind.fault⟩ := by
  rw [eventsFrom_bracket h, hread]
  rfl

end

/-- A document is a text, or a text with a construct and a document behind it, or a text with
something behind it that is no construct. -/
@[elab_as_elim]
theorem document_induction {motive : List Char → Prop}
    (text : ∀ lead, '<' ∉ lead → motive lead)
    (markup : ∀ lead inside m, '<' ∉ lead → Markup.read inside = .ok m → motive m.rest →
      motive (lead ++ '<' :: inside))
    (fault : ∀ lead inside cause distance, '<' ∉ lead →
      Markup.read inside = .error (cause, distance) → motive (lead ++ '<' :: inside))
    (cs : List Char) : motive cs := by
  induction hlength : cs.length using Nat.strongRecOn generalizing cs with
  | ind n ih =>
    by_cases hbracket : '<' ∈ cs
    · obtain ⟨lead, inside, rfl, hlead⟩ := List.eq_append_cons_of_mem hbracket
      cases hread : Markup.read inside with
      | error e => exact fault lead inside e.1 e.2 hlead hread
      | ok m =>
        apply markup lead inside m hlead hread
        apply ih m.rest.length _ _ rfl
        have hrest := Markup.read_rest hread
        rw [← hlength]
        simp only [List.length_append, List.length_cons]
        omega
    · exact text cs hbracket

/-! ## Fronts of a document -/

section

variable {offset : Nat}

theorem stop_of_mem_leadItems (lead : List Char) : ∀ item ∈ leadItems offset lead,
    item.stop = offset + Text.width lead := by
  intro item hitem
  unfold leadItems at hitem
  split at hitem
  · cases hitem
  · rw [List.mem_singleton.mp hitem]

/-- The items of a front are those of the document, as far as they end in the front, and no tags
behind them. -/
theorem items_of_front (offset : Nat) (front more : List Char) : ∃ kept loose,
    (eventsFrom offset front).items = kept ++ loose ∧
      kept <+: (eventsFrom offset (front ++ more)).items ∧
      (∀ item ∈ kept, item.stop ≤ offset + Text.width front) ∧
      ∀ item ∈ loose, item.event.isTag = false := by
  induction front using document_induction generalizing offset with
  | text lead hlead =>
    refine ⟨[], leadItems offset lead, ?_, List.nil_prefix, by simp, ?_⟩
    · rw [eventsFrom_text hlead, List.nil_append]
    · exact fun item hitem => not_isTag_of_mem_leadItems hitem
  | fault lead inside cause distance hlead hread =>
    refine ⟨[], leadItems offset lead, ?_, List.nil_prefix, by simp, ?_⟩
    · rw [eventsFrom_fault hlead hread, List.nil_append]
    · exact fun item hitem => not_isTag_of_mem_leadItems hitem
  | markup lead inside m hlead hread ih =>
    obtain ⟨kept, loose, hitems, hkept, hstops, hloose⟩ := ih (offset + Text.width lead + 1 + m.size)
    obtain ⟨used, hsplit, hsize, -⟩ := Markup.read_local hread
    have hwidth : Text.width inside = m.size + Text.width m.rest := by
      rw [hsplit, hsize, Text.width_append, Text.width_cons]
      change Text.width used + (1 + Text.width m.rest) = _
      omega
    have hmore := eventsFrom_markup hlead (Markup.read_append hread more) offset
    rw [← List.cons_append, ← List.append_assoc] at hmore
    rw [eventsFrom_markup hlead hread, hmore]
    have hall : Text.width (lead ++ '<' :: inside) = Text.width lead + (1 + (m.size + Text.width m.rest)) := by
      rw [Text.width_append, Text.width_cons, hwidth]
      rfl
    refine ⟨leadItems offset lead ++ ⟨m.event, offset + Text.width lead,
      offset + Text.width lead + 1 + m.size⟩ :: kept, loose, ?_, ?_, ?_, hloose⟩
    · simp only [hitems, List.append_assoc, List.cons_append]
    · exact (List.prefix_append_right_inj _).mpr (List.cons_prefix_cons.mpr ⟨rfl, hkept⟩)
    · intro item hitem
      rw [hall]
      rcases List.mem_append.mp hitem with hitem | hitem
      · have := stop_of_mem_leadItems lead item hitem
        omega
      · rcases List.mem_cons.mp hitem with rfl | hitem
        · simp only
          omega
        · have := hstops item hitem
          omega

/-- Where texts are not tags, a tag behind a lead is a construct or stands behind it. -/
private theorem split_behind_lead {lead before items after : List Item} {first tag : Item}
    (hlead : ∀ item ∈ lead, item.event.isTag = false) (htag : tag.event.isTag)
    (h : lead ++ first :: items = before ++ tag :: after) :
    before = lead ∧ first = tag ∧ items = after ∨
      ∃ between, before = lead ++ first :: between ∧ items = between ++ tag :: after := by
  rcases List.append_eq_append_iff.mp h with ⟨as, rfl, hrest⟩ | ⟨bs, rfl, hrest⟩
  · cases as with
    | nil =>
      cases hrest
      exact .inl ⟨List.append_nil _, rfl, rfl⟩
    | cons a as =>
      cases hrest
      exact .inr ⟨as, rfl, rfl⟩
  · cases bs with
    | nil =>
      cases hrest
      exact .inl ⟨(List.append_nil _).symm, rfl, rfl⟩
    | cons b bs =>
      cases hrest
      rw [hlead tag (by simp)] at htag
      cases htag

/-- Behind a tag the document can end: its front up to there has the items up to the tag. -/
theorem exists_front_of_tag {cs : List Char} {before after : List Item} {tag : Item}
    (hitems : (eventsFrom offset cs).items = before ++ tag :: after) (htag : tag.event.isTag) :
    ∃ front behind, cs = front ++ '>' :: behind ∧
      eventsFrom offset (front ++ ['>']) = ⟨before ++ [tag], none⟩ ∧
      tag.stop = offset + Text.width (front ++ ['>']) := by
  have hlone (offset : Nat) (lead : List Char) (before : List Item) :
      leadItems offset lead ≠ before ++ tag :: after := by
    intro h
    have hmem : tag ∈ leadItems offset lead := by rw [h]; simp
    rw [not_isTag_of_mem_leadItems hmem] at htag
    cases htag
  induction cs using document_induction generalizing offset before with
  | text lead hlead =>
    rw [eventsFrom_text hlead] at hitems
    exact (hlone _ _ _ hitems).elim
  | fault lead inside cause distance hlead hread =>
    rw [eventsFrom_fault hlead hread] at hitems
    exact (hlone _ _ _ hitems).elim
  | markup lead inside m hlead hread ih =>
    rw [eventsFrom_markup hlead hread] at hitems
    obtain ⟨used, hsplit, hsize, hlocal⟩ := Markup.read_local hread
    have hwidth : Text.width (lead ++ '<' :: (used ++ ['>'])) = Text.width lead + 1 + m.size := by
      simp only [Text.width_append, Text.width_cons, hsize]
      change Text.width lead + (1 + (Text.width used + 1)) = _
      omega
    rcases split_behind_lead (fun _ => not_isTag_of_mem_leadItems) htag hitems with
      ⟨rfl, rfl, -⟩ | ⟨between, rfl, hbetween⟩
    · refine ⟨lead ++ '<' :: used, m.rest, by rw [hsplit]; simp, ?_, ?_⟩
      · rw [List.append_assoc, List.cons_append, eventsFrom_markup hlead (hlocal [])]
        simp only [eventsFrom_text List.not_mem_nil]
        rfl
      · rw [List.append_assoc, List.cons_append, hwidth]
        simp only
        omega
    · obtain ⟨front, behind, hrest, hfront, hstop⟩ := ih hbetween
      refine ⟨lead ++ '<' :: (used ++ '>' :: front), behind, ?_, ?_, ?_⟩
      · rw [hsplit, hrest]
        simp
      · have hread' := hlocal (front ++ ['>'])
        have hmarkup := eventsFrom_markup hlead hread' offset
        simp only [hfront] at hmarkup
        simpa using hmarkup
      · rw [hstop]
        simp only [Text.width_append, Text.width_cons, hsize, Text.width_nil]
        change _ + (Text.width front + 1) = offset + (Text.width lead + (1 + (Text.width used + (1 + Text.width front))) + 1)
        omega

end

end Xml

end SuiteSplit
