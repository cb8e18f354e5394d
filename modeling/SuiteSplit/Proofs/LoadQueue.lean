import SuiteSplit.Assignment
import SuiteSplit.Proofs.Duration

/-!
The queue of loads is a heap. A heap is known by its contents, by a front that is a greatest
element of them, and by what it holds once another element has taken the place of the front. The
queue keeps its loads in order and meets these laws, greatest meaning the load to take next.
-/

namespace SuiteSplit

/-- A heap, of which no more is known than its laws say. -/
structure Heap (α : Type) (le : α → α → Prop) where
  State : Type
  contents : State → Multiset α
  ofList : List α → State
  /-- The front, and the heap with another element in its place. -/
  front? : State → Option (α × (α → State))
  contents_ofList : ∀ xs, contents (ofList xs) = xs
  contents_of_front_none : ∀ s, front? s = none → contents s = 0
  front_mem : ∀ s x put, front? s = some (x, put) → x ∈ contents s
  le_front : ∀ s x put, front? s = some (x, put) → ∀ y ∈ contents s, le y x
  contents_put : ∀ s x put, front? s = some (x, put) →
    ∀ y, x ::ₘ contents (put y) = y ::ₘ contents s

namespace BatchLoad

/-- The order of the heap: a load that precedes another is greater than it. -/
def After (a b : BatchLoad) : Prop := b.precedes a

theorem precedes_iff (a b : BatchLoad) :
    a.precedes b ↔ a.load < b.load ∨ (a.load = b.load ∧ a.position ≤ b.position) := by
  simp [precedes]

theorem precedes_trans (a b c : BatchLoad) (hab : a.precedes b) (hbc : b.precedes c) :
    a.precedes c := by
  rw [precedes_iff] at hab hbc ⊢
  simp only [Duration.lt_iff_nanos, Duration.ext_iff] at hab hbc ⊢
  omega

theorem precedes_refl (a : BatchLoad) : a.precedes a := by
  rw [precedes_iff]
  exact Or.inr ⟨rfl, Nat.le_refl _⟩

theorem precedes_of_not_precedes {a b : BatchLoad} (h : ¬ a.precedes b) : b.precedes a := by
  rw [precedes_iff] at h ⊢
  simp only [Duration.lt_iff_nanos, Duration.ext_iff] at h ⊢
  omega

end BatchLoad

namespace LoadQueue

open BatchLoad

/-- Every load precedes those behind it. -/
def Ordered (q : LoadQueue) : Prop := q.loads.Pairwise fun a b => a.precedes b

theorem insert_perm (x : BatchLoad) (xs : List BatchLoad) : (insert x xs).Perm (x :: xs) := by
  induction xs with
  | nil => exact List.Perm.refl _
  | cons y ys ih =>
    rw [insert]
    split
    · exact List.Perm.refl _
    · exact (ih.cons y).trans (List.Perm.swap x y ys)

theorem ordered_insert (x : BatchLoad) {xs : List BatchLoad} (h : Ordered ⟨xs⟩) :
    Ordered ⟨insert x xs⟩ := by
  induction xs with
  | nil => exact List.pairwise_singleton _ x
  | cons y ys ih =>
    obtain ⟨hy, hys⟩ := List.pairwise_cons.mp h
    simp only [Ordered, insert]
    split
    next hxy =>
      refine List.pairwise_cons.mpr ⟨?_, h⟩
      intro z hz
      rcases List.mem_cons.mp hz with rfl | hz
      · exact hxy
      · exact precedes_trans x y z hxy (hy z hz)
    next hxy =>
      refine List.pairwise_cons.mpr ⟨?_, ih hys⟩
      intro z hz
      rcases List.mem_cons.mp ((insert_perm x ys).mem_iff.mp hz) with rfl | hz
      · exact precedes_of_not_precedes hxy
      · exact hy z hz

theorem ordered_idle (n : Nat) : Ordered (idle n) := by
  refine List.pairwise_map.mpr ((List.pairwise_lt_range (n := n)).imp ?_)
  intro i j hij
  rw [precedes_iff]
  exact Or.inr ⟨rfl, Nat.le_of_lt hij⟩

private theorem ordered_foldr_insert (xs : List BatchLoad) : Ordered ⟨xs.foldr insert []⟩ := by
  induction xs with
  | nil => exact List.Pairwise.nil
  | cons x xs ih => exact ordered_insert x ih

private theorem foldr_insert_perm (xs : List BatchLoad) : (xs.foldr insert []).Perm xs := by
  induction xs with
  | nil => exact List.Perm.refl _
  | cons x xs ih => exact (insert_perm x _).trans (ih.cons x)

def front? (q : {q : LoadQueue // q.Ordered}) :
    Option (BatchLoad × (BatchLoad → {q : LoadQueue // q.Ordered})) :=
  match q with
  | ⟨⟨[]⟩, _⟩ => none
  | ⟨⟨x :: xs⟩, h⟩ => some (x, fun y => ⟨⟨insert y xs⟩, ordered_insert y (List.Pairwise.of_cons h)⟩)

/-- The ordered queue meets the laws of a heap. -/
def heap : Heap BatchLoad BatchLoad.After where
  State := {q : LoadQueue // q.Ordered}
  contents q := q.1.loads
  ofList xs := ⟨⟨xs.foldr insert []⟩, ordered_foldr_insert xs⟩
  front? := front?
  contents_ofList xs := Multiset.coe_eq_coe.mpr (foldr_insert_perm xs)
  contents_of_front_none := by
    rintro ⟨⟨_ | ⟨x, xs⟩⟩, h⟩ hfront
    · rfl
    · cases hfront
  front_mem := by
    rintro ⟨⟨_ | ⟨x, xs⟩⟩, h⟩ y put hfront
    · cases hfront
    · cases hfront
      exact List.mem_cons_self
  le_front := by
    rintro ⟨⟨_ | ⟨x, xs⟩⟩, h⟩ y put hfront z hz
    · cases hfront
    · cases hfront
      rcases List.mem_cons.mp hz with rfl | hz
      · exact precedes_refl z
      · exact (List.pairwise_cons.mp h).1 z hz
  contents_put := by
    rintro ⟨⟨_ | ⟨x, xs⟩⟩, h⟩ y put hfront z
    · cases hfront
    · cases hfront
      exact Multiset.coe_eq_coe.mpr (((insert_perm z xs).cons x).trans (List.Perm.swap z x xs))

end LoadQueue

end SuiteSplit
