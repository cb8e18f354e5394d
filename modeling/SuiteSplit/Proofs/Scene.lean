import SuiteSplit.Proofs.Leading

/-!
Changes at some entries of one directory. A scene says what stands at these entries and that every
other place looks as it did before. Paths lead to the same places as before as long as what stands at
the entries is new, gone or as it was.
-/

namespace SuiteSplit

open Node

namespace Node

theorem waypoint?_put_append (v : Option Node) (n : Node) (a b : Location) (hb : b ≠ []) :
    (n.put v (a ++ b)).waypoint? a = n.waypoint? a := by
  obtain ⟨name, rest, rfl⟩ := List.exists_cons_of_ne_nil hb
  rw [waypoint?, waypoint?, at?_put_append v n a _ hb, Option.map_map]
  congr 1
  funext m
  cases hm : m.isDirectory with
  | false => simp [put_of_not_directory hm]
  | true =>
    have hput : (m.put v (name :: rest)).isDirectory := by rw [isDirectory_put, hm]
    simp [isDirectory_iff_waypoint.mp hm, isDirectory_iff_waypoint.mp hput]

/-- Entries of one directory are apart from each other. -/
theorem apart_entries {directory : Location} {name k : FileName} (hne : k ≠ name)
    (rest : Location) : Apart (directory ++ name :: rest) (directory ++ [k]) := by
  induction directory with
  | nil => exact Apart.cons_iff.mpr (.inl (Ne.symm hne))
  | cons x directory ih => exact Apart.cons_iff.mpr (.inr ih)

end Node

/-- What stands at some entries of a directory of a tree that looks like another one elsewhere. -/
structure Scene (base : Node) (directory : Location) (contents : List (FileName × Option Node))
    (root : Node) : Prop where
  directory_eq : root.waypoint? directory = some .directory
  inside : ∀ name v, (name, v) ∈ contents → root.at? (directory ++ [name]) = v
  outside : ∀ l, (∀ name v, (name, v) ∈ contents → ¬ directory ++ [name] <+: l) →
    root.waypoint? l = base.waypoint? l

namespace Scene

variable {base root : Node} {directory : Location} {contents before after : List (FileName × Option Node)}
  {name : FileName} {v : Option Node}

theorem start (h : root.waypoint? directory = some .directory) (name : FileName) :
    Scene root directory [(name, root.at? (directory ++ [name]))] root := by
  refine ⟨h, ?_, fun _ _ => rfl⟩
  intro k v hmem
  obtain ⟨rfl, rfl⟩ := Prod.mk.inj (List.mem_singleton.mp hmem)
  rfl

/-- A name that the scene does not know is the name of what was there before. -/
theorem waypoint?_of_new (h : Scene base directory contents root)
    (hnew : ∀ e ∈ contents, e.1 ≠ name) :
    root.waypoint? (directory ++ [name]) = base.waypoint? (directory ++ [name]) := by
  refine h.outside _ fun k v hmem hbegins => hnew _ hmem ?_
  have hsame := hbegins.eq_of_length (by simp)
  exact (List.cons.inj (List.append_cancel_left hsame)).1

theorem at?_eq_none_of_new (h : Scene base directory contents root)
    (hnew : ∀ e ∈ contents, e.1 ≠ name) (hnone : root.at? (directory ++ [name]) = none) :
    base.at? (directory ++ [name]) = none := by
  have hsee := h.waypoint?_of_new hnew
  rw [waypoint?, hnone, Option.map_none, eq_comm, waypoint?, Option.map_eq_none_iff] at hsee
  exact hsee

/-- A change at or below an entry leaves the places outside of the entry as they were. -/
theorem waypoint?_put_of_outside (v : Option Node) (root : Node) {l : Location} (rest : Location)
    (hl : ¬ directory ++ [name] <+: l) :
    (root.put v (directory ++ name :: rest)).waypoint? l = root.waypoint? l := by
  have hentry : directory ++ [name] <+: directory ++ name :: rest :=
    ⟨rest, by rw [List.append_assoc, List.singleton_append]⟩
  have hbelow : ¬ directory ++ name :: rest <+: l := fun h => hl (hentry.trans h)
  by_cases habove : l <+: directory ++ name :: rest
  · obtain ⟨more, hmore⟩ := habove
    have hne : more ≠ [] := by
      rintro rfl
      rw [List.append_nil] at hmore
      exact hbelow (hmore ▸ List.prefix_rfl)
    rw [← hmore, waypoint?_put_append v root l more hne]
  · rw [waypoint?, waypoint?, at?_put_of_apart v root ⟨hbelow, habove⟩]

/-- A change at or below an entry changes what stands at that entry only. -/
private theorem put_of_entry {old old' : Option Node} {rest : Location}
    (h : Scene base directory (before ++ (name, old) :: after) root)
    (hother : ∀ e ∈ before ++ after, e.1 ≠ name)
    (hentry : (root.put v (directory ++ name :: rest)).at? (directory ++ [name]) = old') :
    Scene base directory (before ++ (name, old') :: after)
      (root.put v (directory ++ name :: rest)) := by
  refine ⟨?_, fun k w hmem => ?_, fun l hl => ?_⟩
  · rw [waypoint?_put_append v root directory _ (List.cons_ne_nil _ _)]
    exact h.directory_eq
  · by_cases hk : (k, w) = (name, old')
    · obtain ⟨rfl, rfl⟩ := Prod.mk.inj hk
      exact hentry
    · have hrest : (k, w) ∈ before ++ after := by
        simp only [List.mem_append, List.mem_cons, hk, false_or] at hmem ⊢
        exact hmem
      rw [at?_put_of_apart v root (apart_entries (hother _ hrest) rest)]
      refine h.inside k w ?_
      simp only [List.mem_append, List.mem_cons] at hrest ⊢
      tauto
  · have hname : ¬ directory ++ [name] <+: l := hl name old' (by simp)
    rw [waypoint?_put_of_outside v root rest hname]
    refine h.outside l fun k w hmem => ?_
    simp only [List.mem_append, List.mem_cons, Prod.mk.injEq] at hmem
    rcases hmem with hmem | ⟨rfl, rfl⟩ | hmem
    · exact hl k w (List.mem_append_left _ hmem)
    · exact hname
    · exact hl k w (List.mem_append_right _ (List.mem_cons_of_mem _ hmem))

theorem put {old : Option Node} (h : Scene base directory (before ++ (name, old) :: after) root)
    (hother : ∀ e ∈ before ++ after, e.1 ≠ name) (v : Option Node) :
    Scene base directory (before ++ (name, v) :: after) (root.put v (directory ++ [name])) :=
  h.put_of_entry hother (at?_put_concat (any_isDirectory_iff.mpr h.directory_eq) v name)

theorem put_below {old : Option Node}
    (h : Scene base directory (before ++ (name, old) :: after) root)
    (hother : ∀ e ∈ before ++ after, e.1 ≠ name) (v : Option Node) (k : FileName) :
    Scene base directory (before ++ (name, old.map (Node.put v [k])) :: after)
      (root.put v (directory ++ [name] ++ [k])) := by
  have hold : root.at? (directory ++ [name]) = old := h.inside name old (by simp)
  have hentry := at?_put_append v root (directory ++ [name]) [k] (List.cons_ne_nil _ _)
  rw [hold] at hentry
  rw [List.append_assoc, List.singleton_append] at hentry ⊢
  exact h.put_of_entry hother hentry

/-- A scene with one entry more. -/
theorem add (h : Scene base directory contents root) (hnew : ∀ e ∈ contents, e.1 ≠ name)
    (v : Option Node) :
    Scene base directory (contents ++ [(name, v)]) (root.put v (directory ++ [name])) := by
  have hsame : Scene base directory (contents ++ (name, root.at? (directory ++ [name])) :: [])
      root := by
    refine ⟨h.directory_eq, fun k w hmem => ?_, fun l hl => ?_⟩
    · simp only [List.mem_append, List.mem_singleton, Prod.mk.injEq] at hmem
      rcases hmem with hmem | ⟨rfl, rfl⟩
      · exact h.inside k w hmem
      · rfl
    · exact h.outside l fun k w hmem => hl k w (List.mem_append_left _ hmem)
  exact hsame.put (by simpa using hnew) v

/-! ## Where paths lead in a scene -/

variable {here there place : Location} {p : Path}

/-- What stands at the entries of a scene is new, gone or as it was. -/
def Agrees (base : Node) (directory : Location) (contents : List (FileName × Option Node)) : Prop :=
  ∀ name v, (name, v) ∈ contents →
    v = none ∨ base.at? (directory ++ [name]) = none ∨ v = base.at? (directory ++ [name])

theorem Agrees.cons {name : FileName} {v : Option Node}
    (hv : v = none ∨ base.at? (directory ++ [name]) = none ∨ v = base.at? (directory ++ [name]))
    (h : Agrees base directory contents) : Agrees base directory ((name, v) :: contents) := by
  intro k w hmem
  rcases List.mem_cons.mp hmem with hmem | hmem
  · obtain ⟨rfl, rfl⟩ := Prod.mk.inj hmem
    exact hv
  · exact h k w hmem

/-- An entry at or below which both trees have something is as it was. -/
theorem eq_of_agrees (h : Scene base directory contents root)
    (hagrees : Agrees base directory contents) {l : Location} {w w' : Waypoint}
    (hw : base.waypoint? l = some w) (hw' : root.waypoint? l = some w')
    (hmem : (name, v) ∈ contents) (hl : directory ++ [name] <+: l) :
    v = base.at? (directory ++ [name]) := by
  obtain ⟨rest, rfl⟩ := hl
  rcases hagrees name v hmem with rfl | hnone | hsame
  · rw [waypoint?, at?_append_of_none (h.inside name none hmem)] at hw'
    cases hw'
  · rw [waypoint?, at?_append_of_none hnone] at hw
    cases hw
  · exact hsame

theorem waypoint_eq_of_agrees (h : Scene base directory contents root)
    (hagrees : Agrees base directory contents) {l : Location} {w w' : Waypoint}
    (hw : base.waypoint? l = some w) (hw' : root.waypoint? l = some w') : w = w' := by
  by_cases hl : ∃ name v, (name, v) ∈ contents ∧ directory ++ [name] <+: l
  · obtain ⟨name, v, hmem, hbegins⟩ := hl
    have hv := h.eq_of_agrees hagrees hw hw' hmem hbegins
    obtain ⟨rest, rfl⟩ := hbegins
    rw [waypoint?, at?_append] at hw hw'
    rw [h.inside name v hmem, hv, hw] at hw'
    exact Option.some.inj hw'
  · rw [h.outside l fun name v hmem hbegins => hl ⟨name, v, hmem, hbegins⟩, hw] at hw'
    exact Option.some.inj hw'

/-- A path leads to where it led before, or nowhere. -/
theorem leads_unique (h : Scene base directory contents root)
    (hagrees : Agrees base directory contents) (hbase : Leads base here p there)
    (hroot : Leads root here p place) : place = there := by
  have hsee l w w' (hw : base.waypoint? l = some w) (hw' : root.waypoint? l = some w') :
      w = w' ∧ base.waypoint? l = some w := ⟨h.waypoint_eq_of_agrees hagrees hw hw', hw⟩
  exact (Leads.agree hsee hbase hroot).1.symm

/-- A path that led to a place before and in a scene leads there in a later scene too, if that one
shows what stayed as it was. -/
theorem leads_later {later : List (FileName × Option Node)} {root' : Node}
    (h : Scene base directory contents root) (hagrees : Agrees base directory contents)
    (hbase : Leads base here p there) (hroot : Leads root here p place)
    (h' : Scene base directory later root')
    (hlater : ∀ name v', (name, v') ∈ later → ∃ v, (name, v) ∈ contents)
    (hshows : ∀ name v, (name, v) ∈ contents → v = base.at? (directory ++ [name]) →
      ∀ rest w, base.waypoint? (directory ++ [name] ++ rest) = some w →
        root'.waypoint? (directory ++ [name] ++ rest) = some w) :
    Leads root' here p there := by
  refine (Leads.agree (fun l w w' hw hw' => ?_) hbase hroot).2
  refine ⟨h.waypoint_eq_of_agrees hagrees hw hw', ?_⟩
  by_cases hl : ∃ name v, (name, v) ∈ contents ∧ directory ++ [name] <+: l
  · obtain ⟨name, v, hmem, hbegins⟩ := hl
    have hv := h.eq_of_agrees hagrees hw hw' hmem hbegins
    obtain ⟨rest, rfl⟩ := hbegins
    exact hshows name v hmem hv rest w hw
  · rw [h'.outside l, hw]
    intro name v' hmem hbegins
    obtain ⟨v, hv⟩ := hlater name v' hmem
    exact hl ⟨name, v, hv, hbegins⟩

end Scene

end SuiteSplit
