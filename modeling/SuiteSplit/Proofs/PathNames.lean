import Mathlib
import SuiteSplit.Disk.Directories

/-!
The names in a path. A walk takes the segments between the slashes, dots included, and the directory
around a path is what is left without the last name. Both come down to the names: the directory around
a path has all of them but the last, and a path that is joined from a directory and a plain name has
one more.
-/

namespace SuiteSplit

namespace Text

/-- What is joined from the first parts is the front of what is joined from all. -/
theorem intercalate_prefix {α : Type} (sep : List α) {front parts : List (List α)} (h : front <+: parts) :
    sep.intercalate front <+: sep.intercalate parts := by
  induction front generalizing parts with
  | nil => exact List.nil_prefix
  | cons part front ih =>
    obtain ⟨more, rfl⟩ := h
    cases front with
    | nil =>
      cases more with
      | nil => exact List.prefix_rfl
      | cons next more =>
        rw [List.singleton_append, List.intercalate_cons_cons, List.append_assoc]
        simp [List.intercalate, List.intersperse]
    | cons next front =>
      rw [List.cons_append, List.cons_append, List.intercalate_cons_cons,
        List.intercalate_cons_cons]
      exact (List.prefix_append_right_inj _).mpr (ih (List.prefix_append _ _))

variable {α : Type} [DecidableEq α]

theorem splitOn_eq_splitOn (mark : α) (xs : List α) : splitOn mark xs = xs.splitOn mark := by
  induction xs with
  | nil => rfl
  | cons x xs ih =>
    rw [List.splitOn_cons_eq_if_modifyHead, ← ih]
    rw [splitOn, List.foldr_cons, ← splitOn]
    by_cases hx : x = mark
    · simp [hx]
    · simp only [hx, if_false, beq_iff_eq]
      cases hparts : splitOn mark xs with
      | nil => exact absurd (ih.symm.trans hparts) (List.splitOn_ne_nil _ _)
      | cons part parts => rfl

theorem not_mem_of_mem_splitOn {mark : α} {xs part : List α} (h : part ∈ xs.splitOn mark) :
    mark ∉ part := by
  induction xs generalizing part with
  | nil =>
    rw [List.splitOn_nil, List.mem_singleton] at h
    simp [h]
  | cons x xs ih =>
    rw [List.splitOn_cons_eq_if_modifyHead] at h
    split at h
    · rcases List.mem_cons.mp h with rfl | h
      · simp
      · exact ih h
    · next hx =>
      cases hparts : xs.splitOn mark with
      | nil => simp at hparts
      | cons first others =>
        rw [hparts, List.modifyHead_cons, List.mem_cons] at h
        rw [hparts] at ih
        rcases h with rfl | h
        · have hne : mark ≠ x := fun h => hx (by simp [h])
          exact List.not_mem_cons_of_ne_of_not_mem hne (ih List.mem_cons_self)
        · exact ih (List.mem_cons_of_mem _ h)

end Text

namespace Path

/-- A segment of a path that is the name of something in its directory. -/
structure IsPlain (name : FileName) : Prop where
  ne_nil : name ≠ []
  no_slash : slash ∉ name
  ne_dot : name ≠ dot
  ne_dots : name ≠ dots

theorem IsPlain.not_idle {name : FileName} (h : IsPlain name) : isIdle name = false := by
  simp [isIdle, h.ne_nil, h.ne_dot]

theorem isIdle_iff {name : FileName} : isIdle name ↔ name = inward ∨ name = dot := by
  simp [isIdle, inward]

theorem hops_eq (p : Path) : p.hops = (p.bytes.splitOn slash).filter (· ≠ []) := by
  rw [hops, Text.splitOn_eq_splitOn]

/-! ## A name below a directory -/

section Join

variable {p : Path} {name : FileName}

theorem bytes_join (hp : p.bytes ≠ []) (hname : IsPlain name) :
    (p.join ⟨name⟩).bytes = p.bytes ++ name ∧ p.bytes.getLast? = some slash ∨
      (p.join ⟨name⟩).bytes = p.bytes ++ slash :: name := by
  have hrelative : (⟨name⟩ : Path).isAbsolute = false := by
    simp only [isAbsolute, decide_eq_false_iff_not]
    intro h
    exact hname.no_slash (List.mem_of_mem_head? h)
  simp only [join, hrelative, hp, Bool.false_eq_true, false_or, if_false]
  split
  · next h => exact .inl ⟨rfl, h⟩
  · exact .inr rfl

theorem bytes_prefix_join (hp : p.bytes ≠ []) (hname : IsPlain name) :
    p.bytes <+: (p.join ⟨name⟩).bytes := by
  rcases bytes_join hp hname with ⟨h, _⟩ | h <;> rw [h] <;> exact List.prefix_append _ _

theorem bytes_join_ne_nil (hp : p.bytes ≠ []) (hname : IsPlain name) :
    (p.join ⟨name⟩).bytes ≠ [] := fun h =>
  hp (List.prefix_nil.mp (h ▸ bytes_prefix_join hp hname))

theorem hops_join (hp : p.bytes ≠ []) (hname : IsPlain name) :
    (p.join ⟨name⟩).hops = p.hops ++ [name] := by
  have hsplit : name.splitOn slash = [name] := List.splitOn_eq_singleton hname.no_slash
  rcases bytes_join hp hname with ⟨hbytes, hslash⟩ | hbytes
  · obtain ⟨front, hfront⟩ := List.getLast?_eq_some_iff.mp hslash
    rw [hops_eq, hops_eq, hbytes, hfront, List.append_assoc, List.singleton_append,
      List.splitOn_append_cons_self, List.splitOn_append_cons_self, hsplit]
    simp [hname.ne_nil]
  · rw [hops_eq, hops_eq, hbytes, List.splitOn_append_cons_self, hsplit]
    simp [hname.ne_nil]

theorem isAbsolute_of_prefix {p q : Path} (h : p.bytes <+: q.bytes) (hp : p.bytes ≠ []) :
    q.isAbsolute = p.isAbsolute := by
  obtain ⟨more, hmore⟩ := h
  rw [isAbsolute, isAbsolute, ← hmore, List.head?_append_of_ne_nil _ hp]

theorem isAbsolute_join (hp : p.bytes ≠ []) (hname : IsPlain name) :
    (p.join ⟨name⟩).isAbsolute = p.isAbsolute :=
  isAbsolute_of_prefix (bytes_prefix_join hp hname) hp

theorem asksDirectory_join (hp : p.bytes ≠ []) (hname : IsPlain name) :
    (p.join ⟨name⟩).asksDirectory = false := by
  have hlast (front : List UInt8) : (front ++ name).getLast? ≠ some slash := by
    rw [List.getLast?_append_of_ne_nil _ hname.ne_nil]
    exact fun h => hname.no_slash (List.mem_of_getLast? h)
  rcases bytes_join hp hname with ⟨hbytes, _⟩ | hbytes
  · simpa [asksDirectory, hbytes] using hlast p.bytes
  · have h := hlast (p.bytes ++ [slash])
    rw [List.append_assoc, List.singleton_append] at h
    simpa [asksDirectory, hbytes] using h

theorem allHops_join (hp : p.bytes ≠ []) (hname : IsPlain name) :
    (p.join ⟨name⟩).allHops = p.hops ++ [name] := by
  rw [allHops, asksDirectory_join hp hname, hops_join hp hname]
  simp

theorem fault?_eq_none_iff {p : Path} :
    p.fault? = none ↔ 0 ∉ p.bytes ∧ p.bytes ≠ [] ∧ p.bytes.length < pathLimit := by
  simp only [fault?, List.contains_eq_mem]
  split_ifs <;> simp_all

theorem fault?_of_prefix {p q : Path} (h : p.bytes <+: q.bytes) (hp : p.bytes ≠ [])
    (hq : q.fault? = none) : p.fault? = none := by
  obtain ⟨hzero, -, hlength⟩ := fault?_eq_none_iff.mp hq
  exact fault?_eq_none_iff.mpr
    ⟨fun h0 => hzero (h.subset h0), hp, Nat.lt_of_le_of_lt h.length_le hlength⟩

theorem fault?_of_join (hp : p.bytes ≠ []) (hname : IsPlain name)
    (h : (p.join ⟨name⟩).fault? = none) : p.fault? = none :=
  fault?_of_prefix (bytes_prefix_join hp hname) hp h

end Join

/-! ## The directory around a path -/

theorem dropIdle_eq (segments : List FileName) : dropIdle segments = segments.rdropWhile isIdle :=
  rfl

theorem filter_dropIdle (segments : List FileName) :
    (dropIdle segments).filter (fun s => !isIdle s) = segments.filter fun s => !isIdle s := by
  rw [dropIdle_eq]
  induction segments using List.reverseRecOn with
  | nil => rfl
  | append_singleton segments s ih =>
    cases hs : isIdle s with
    | false => rw [List.rdropWhile_concat_neg _ _ _ (by simp [hs])]
    | true => rw [List.rdropWhile_concat_pos _ _ _ hs, ih, List.filter_append]; simp [hs]

/-- What stands behind the front: anything, but behind a dot nothing or a slash. -/
theorem exists_behind_front (p : Path) :
    ∃ rest, p.bytes = p.front ++ rest ∧
      (p.front = [slash] ∧ p.isAbsolute ∨
        p.isAbsolute = false ∧
          (p.front = dot ∧ (rest = [] ∨ rest.head? = some slash) ∨ p.front = [])) := by
  unfold front
  split
  · next h =>
    obtain ⟨rest, hrest⟩ := List.head?_eq_some_iff.mp (of_decide_eq_true h)
    exact ⟨rest, hrest, .inl ⟨rfl, h⟩⟩
  · next habsolute =>
    simp only [Bool.not_eq_true] at habsolute
    split
    · next h =>
      rcases h with h | h
      · exact ⟨[], by simp [h], .inr ⟨habsolute, .inl ⟨rfl, .inl rfl⟩⟩⟩
      · refine ⟨slash :: p.bytes.drop 2, ?_, .inr ⟨habsolute, .inl ⟨rfl, .inr rfl⟩⟩⟩
        rw [← List.singleton_append, ← List.append_assoc, ← h, List.take_append_drop]
    · exact ⟨p.bytes, rfl, .inr ⟨habsolute, .inr rfl⟩⟩

/-- A front says nothing. -/
theorem filter_splitOn_front {front rest : List UInt8}
    (h : front = [slash] ∨ front = dot ∧ (rest = [] ∨ rest.head? = some slash) ∨ front = []) :
    ((front ++ rest).splitOn slash).filter (fun s => !isIdle s) =
      (rest.splitOn slash).filter fun s => !isIdle s := by
  rcases h with rfl | ⟨rfl, rfl | h⟩ | rfl
  · rw [List.singleton_append, List.splitOn_cons_eq_if_modifyHead]
    simp [isIdle]
  · decide
  · obtain ⟨more, rfl⟩ := List.head?_eq_some_iff.mp h
    have hdot : dot.splitOn slash = [dot] := by decide
    rw [List.splitOn_append_cons_self, hdot, List.splitOn_cons_eq_if_modifyHead]
    simp [isIdle]
  · rfl

theorem behind_dot_of_prefix {rest inner : List UInt8} (h : rest = [] ∨ rest.head? = some slash)
    (hinner : inner <+: rest) : inner = [] ∨ inner.head? = some slash := by
  cases inner with
  | nil => exact .inl rfl
  | cons b inner =>
    obtain ⟨more, rfl⟩ := hinner
    simpa using h

/-- The names are what the segments between all slashes say. -/
theorem names_eq (p : Path) : p.names = (p.bytes.splitOn slash).filter fun s => !isIdle s := by
  obtain ⟨rest, hrest, hfront⟩ := p.exists_behind_front
  rw [names, segments, filter_dropIdle, Text.splitOn_eq_splitOn]
  conv_lhs => rw [hrest, List.drop_left]
  rw [hrest, filter_splitOn_front]
  tauto

theorem filter_hops (p : Path) : p.hops.filter (fun s => !isIdle s) = p.names := by
  rw [hops_eq, names_eq, List.filter_filter]
  congr 1
  funext s
  by_cases hs : s = [] <;> simp [isIdle, hs]

theorem filter_names (p : Path) : p.names.filter (fun s => !isIdle s) = p.names := by
  rw [names, List.filter_filter]
  simp

/-- The last segment is no idle one. -/
theorem exists_segments {p : Path} (h : p.segments ≠ []) :
    ∃ outer last, p.segments = outer ++ [last] ∧ isIdle last = false ∧
      p.names = (outer.filter fun s => !isIdle s) ++ [last] := by
  have hidle : isIdle (p.segments.getLast h) = false :=
    Bool.not_eq_true _ ▸ List.rdropWhile_last_not isIdle _ h
  refine ⟨p.segments.dropLast, p.segments.getLast h, (List.dropLast_append_getLast h).symm, hidle, ?_⟩
  conv_lhs => rw [names, ← List.dropLast_append_getLast h]
  rw [List.filter_append, List.filter_cons_of_pos (by simp [hidle]), List.filter_nil]

/-- A path has a file name if its last name is one: two dots are none. -/
theorem fileName?_eq (p : Path) : p.fileName? = p.names.getLast?.filter (· ≠ dots) := by
  rw [fileName?]
  by_cases h : p.segments = []
  · rw [names, h]
    rfl
  · obtain ⟨outer, last, hsegments, -, hnames⟩ := exists_segments h
    rw [hsegments, hnames, List.getLast?_concat, List.getLast?_concat]

theorem fileName?_of_names {p : Path} {outer : List FileName} {name : FileName}
    (h : p.names = outer ++ [name]) (hname : name ≠ dots) : p.fileName? = some name := by
  rw [fileName?_eq, h, List.getLast?_concat]
  simp [Option.filter, hname]

/-- What is left of a path without its last segment: its front and some of its first segments. -/
theorem exists_parent_of_segments {p : Path} {outer : List FileName} {last : FileName}
    (h : p.segments = outer ++ [last]) :
    ∃ rest inner, p.bytes = p.front ++ rest ∧ inner <+: rest ∧
      p.parent? = some ⟨p.front ++ inner⟩ ∧
      (inner.splitOn slash).filter (fun s => !isIdle s) = outer.filter fun s => !isIdle s := by
  obtain ⟨rest, hrest, -⟩ := p.exists_behind_front
  have hsegments : p.segments <+: rest.splitOn slash := by
    rw [segments, Text.splitOn_eq_splitOn, hrest, List.drop_left, dropIdle_eq]
    exact List.rdropWhile_prefix _ _
  have hparts : dropIdle outer <+: rest.splitOn slash :=
    calc dropIdle outer <+: outer := List.rdropWhile_prefix _ _
      _ <+: p.segments := h ▸ List.prefix_append _ _
      _ <+: _ := hsegments
  refine ⟨rest, [slash].intercalate (dropIdle outer), hrest, ?_, ?_, ?_⟩
  · have hall : [slash].intercalate (rest.splitOn slash) = rest := List.intercalate_splitOn slash
    conv_rhs => rw [← hall]
    exact Text.intercalate_prefix _ hparts
  · have hne : p.segments ≠ [] := by simp [h]
    rw [parent?, if_neg hne, h, List.dropLast_concat]
  · rw [← filter_dropIdle outer]
    by_cases hnil : dropIdle outer = []
    · rw [hnil]
      decide
    · rw [List.splitOn_intercalate _ _ hnil]
      exact fun part hpart => Text.not_mem_of_mem_splitOn (hparts.subset hpart)

/-- The path without its last segment is the front of the path, with all of its names but the last. -/
theorem of_parent? {p outer : Path} (h : p.parent? = some outer) :
    outer.bytes <+: p.bytes ∧ outer.names = p.names.dropLast := by
  by_cases hsegments : p.segments = []
  · rw [parent?, if_pos hsegments] at h
    split_ifs at h
    cases h
    refine ⟨List.nil_prefix, ?_⟩
    rw [p.names.eq_nil_iff_forall_not_mem.mpr (by simp [names, hsegments])]
    decide
  · obtain ⟨init, last, hlast, -, hnames⟩ := exists_segments hsegments
    obtain ⟨rest, inner, hrest, hinner, hparent, hfilter⟩ := exists_parent_of_segments hlast
    rw [hparent, Option.some.injEq] at h
    subst h
    refine ⟨hrest ▸ (List.prefix_append_right_inj _).mpr hinner, ?_⟩
    rw [hnames, List.dropLast_concat, names_eq, filter_splitOn_front, hfilter]
    obtain ⟨rest', hrest', hfront⟩ := p.exists_behind_front
    obtain rfl : rest' = rest := List.append_cancel_left (hrest'.symm.trans hrest)
    rcases hfront with ⟨hfront, -⟩ | ⟨-, ⟨hfront, hslash⟩ | hfront⟩
    · exact .inl hfront
    · exact .inr (.inl ⟨hfront, behind_dot_of_prefix hslash hinner⟩)
    · exact .inr (.inr hfront)

theorem bytes_directory_ne_nil (p : Path) : p.directory.bytes ≠ [] := by
  unfold directory
  split
  · split
    · exact nofun
    · assumption
  · exact nofun

section Directory

variable {p : Path} {name : FileName}

/-- The directory around a path is the path without its last segment, or a dot. -/
theorem directory_cases (h : p.fileName? = some name) :
    (p.directory.bytes <+: p.bytes ∨ p.directory = ⟨dot⟩ ∧ p.isAbsolute = false) ∧
      p.names = p.directory.names ++ [name] := by
  obtain ⟨hlast, -⟩ := Option.filter_eq_some_iff.mp h
  have hsegments : p.segments ≠ [] := fun hnil => by simp [hnil] at hlast
  obtain ⟨init, last, hinit, -, hnames⟩ := exists_segments hsegments
  obtain rfl : last = name := by simpa [hinit] using hlast
  obtain ⟨rest, inner, hrest, -, hparent, -⟩ := exists_parent_of_segments hinit
  obtain ⟨hbegins, houter⟩ := of_parent? hparent
  rw [hnames, List.dropLast_concat] at houter
  rw [hnames, ← houter, directory, hparent]
  dsimp only
  split
  · next hnil =>
    refine ⟨.inr ⟨rfl, ?_⟩, ?_⟩
    · obtain ⟨-, -, ⟨hfront, -⟩ | ⟨habsolute, -⟩⟩ := p.exists_behind_front
      · simp [hfront] at hnil
      · exact habsolute
    · rw [hnil]
      rfl
  · exact ⟨.inl hbegins, rfl⟩

theorem names_eq_append (h : p.fileName? = some name) : p.names = p.directory.names ++ [name] :=
  (directory_cases h).2

theorem isAbsolute_directory (h : p.fileName? = some name) :
    p.directory.isAbsolute = p.isAbsolute := by
  rcases (directory_cases h).1 with hbegins | ⟨hdot, habsolute⟩
  · rw [← isAbsolute_of_prefix hbegins p.bytes_directory_ne_nil]
  · rw [hdot, habsolute]
    rfl

theorem fault?_directory (h : p.fileName? = some name) (hp : p.fault? = none) :
    p.directory.fault? = none := by
  rcases (directory_cases h).1 with hbegins | ⟨hdot, -⟩
  · exact fault?_of_prefix hbegins p.bytes_directory_ne_nil hp
  · rw [hdot]
    decide

end Directory

/-- The directories around a path have the first of its names. -/
theorem of_mem_around {p q : Path} {count : Nat} (h : q ∈ p.around count) :
    q.bytes <+: p.bytes ∧ q.names <+: p.names := by
  induction count generalizing p with
  | zero => simp [around] at h
  | succ count ih =>
    rcases List.mem_cons.mp h with rfl | h
    · exact ⟨List.prefix_rfl, List.prefix_rfl⟩
    · cases hparent : p.parent? with
      | none => simp [hparent] at h
      | some outer =>
        simp only [hparent] at h
        obtain ⟨hbytes, hnames⟩ := of_parent? hparent
        obtain ⟨hq, hqnames⟩ := ih h
        exact ⟨hq.trans hbytes, hqnames.trans (hnames ▸ List.dropLast_prefix _)⟩

/-! ## Names that are texts -/

/-- A byte below 128 is a character of its own. -/
theorem val_of_mem_utf8EncodeChar {c : Char} {b : UInt8} (hb : b.toNat < 128)
    (h : b ∈ String.utf8EncodeChar c) : c.val.toNat = b.toNat := by
  -- a byte of a longer character is 128 at least
  have hlong (n : Nat) (hn : 128 ≤ n % 256) : b ≠ UInt8.ofNat n := by
    rintro rfl
    rw [UInt8.toNat_ofNat'] at hb
    omega
  rw [String.utf8EncodeChar] at h
  split_ifs at h
  · obtain rfl := List.mem_singleton.mp h
    rw [UInt8.toNat_ofNat']
    omega
  all_goals
    simp (disch := omega) only [List.mem_cons, List.not_mem_nil, hlong, or_self] at h

theorem not_mem_utf8 {s : String} {b : UInt8} (hb : b.toNat < 128)
    (h : ∀ c ∈ s.toList, c.val.toNat ≠ b.toNat) : b ∉ Text.utf8 s := by
  rw [Text.utf8, List.mem_flatMap]
  rintro ⟨c, hc, hmem⟩
  exact h c hc (val_of_mem_utf8EncodeChar hb hmem)

theorem slash_not_mem_utf8 {s : String} (h : '/' ∉ s.toList) : slash ∉ Text.utf8 s := by
  refine not_mem_utf8 (by decide) fun c hc hval => h ?_
  obtain rfl : c = '/' := Char.ext (UInt32.toNat_inj.mp hval)
  exact hc

theorem length_le_length_utf8 (s : String) : s.length ≤ (Text.utf8 s).length := by
  rw [Text.utf8, ← String.length_toList]
  induction s.toList with
  | nil => simp
  | cons c cs ih =>
    have hc : 0 < (String.utf8EncodeChar c).length :=
      List.length_pos_iff.mpr String.utf8EncodeChar_ne_nil
    rw [List.flatMap_cons, List.length_append, List.length_cons]
    omega

/-- A text of more than two characters and without a slash is a name. -/
theorem isPlain_utf8 {s : String} (hslash : '/' ∉ s.toList) (hlength : 3 ≤ s.length) :
    IsPlain (Text.utf8 s) := by
  have hlong : 3 ≤ (Text.utf8 s).length := hlength.trans (length_le_length_utf8 s)
  refine ⟨?_, slash_not_mem_utf8 hslash, ?_, ?_⟩ <;>
    · intro h
      rw [h] at hlong
      exact absurd hlong (by decide)

theorem slash_not_mem_toDigits (n : Nat) : '/' ∉ Nat.toDigits 10 n := fun h =>
  absurd (Nat.isDigit_of_mem_toDigits (by decide) (by decide) h) (by decide)

end Path

end SuiteSplit
