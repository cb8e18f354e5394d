import SuiteSplit.Proofs.Interleaving

/-!
Parts of a run, and runs in which calls fail only as the disk makes them fail.

A run of a program that is put together is a run of its first part and, on the disk that this one
leaves, a run of the second one. A run is faithful if no call fails without a reason: the error is the
one that the disk gives for that call. What a program does then is proved over its tree like what it
always does, and what it always does is known at the end of a faithful run as well.
-/

namespace SuiteSplit

namespace Program

variable {α β : Type}

namespace Reaches

variable {p : Program α} {f : α → Program β} {a a' : α} {b : β} {d d₁ d' : Disk}
  {events more : List Event}

theorem of_pure (h : (pure a' : Program α).Reaches d events (.done a) d') :
    a = a' ∧ d' = d ∧ events = [] := by
  cases h
  exact ⟨rfl, rfl, rfl⟩

/-- A run to the end of two programs is a run of each to its end. -/
theorem of_bind (h : (p >>= f).Reaches d events (.done b) d') :
    ∃ front behind a d₁, events = front ++ behind ∧ p.Reaches d front (.done a) d₁ ∧
      (f a).Reaches d₁ behind (.done b) d' := by
  change (p.bind f).Reaches d events (.done b) d' at h
  induction p generalizing d events with
  | done a => exact ⟨[], events, a, d, rfl, .start _ _, h⟩
  | call r next ih =>
    cases h with
    | step hanswer hrest =>
      obtain ⟨front, behind, a, d₁, rfl, hp, hf⟩ := ih _ hrest
      exact ⟨_ :: front, behind, a, d₁, rfl, .step hanswer hp, hf⟩

/-- Runs of two programs, the second one on the disk that the first leaves, are a run of both. -/
theorem bind {q : Program β} (h : p.Reaches d events (.done a) d₁) (hf : (f a).Reaches d₁ more q d') :
    (p >>= f).Reaches d (events ++ more) q d' := by
  change (p.bind f).Reaches d (events ++ more) q d'
  induction p generalizing d events with
  | done a =>
    cases h
    exact hf
  | call r next ih =>
    cases h with
    | step hanswer hrest => exact .step hanswer (ih _ hrest)

end Reaches

/-- A program that only looks leaves the disk as it was, whatever calls fail. -/
theorem Observes.of_reaches {goal : β → Prop} {p : Program β} {d d' : Disk} {events : List Event} {b : β}
    (h : Observes (fun _ => True) goal p) (hrun : p.Reaches d events (.done b) d') : d' = d ∧ goal b := by
  induction p generalizing d events with
  | done a =>
    cases hrun
    exact ⟨rfl, h⟩
  | call r next ih =>
    cases hrun with
    | step hanswer hrest =>
      obtain ⟨rfl, hnext⟩ := h _ _ _ trivial hanswer
      exact ih _ hnext hrest

/-! ## Faithful runs -/

/-- The answer is no error but that of the disk. -/
def Reasoned (d : Disk) (r : Request) (answer : r.Answer) : Prop :=
  ∀ e, answer = .error e → (d.answer r).1 = .error e

/-- What a program can come to when no call fails without a reason. A directory for one user still gets
any drawn name. -/
inductive Faithful : Program α → Disk → List Event → Program α → Disk → Prop
  | start (p : Program α) (d : Disk) : Faithful p d [] p d
  | step {r : Request} {next : r.Answer → Program α} {d d₁ d' : Disk} {answer : r.Answer}
      {events : List Event} {p' : Program α} (hanswer : d.Answers r answer d₁)
      (hreason : Reasoned d r answer) (hrest : Faithful (next answer) d₁ events p' d') :
      Faithful (call r next) d (⟨r, answer⟩ :: events) p' d'

/-- A property holds of the value and the disk at the end of every faithful run whose events are
allowed. -/
def Honestly (allowed : Event → Prop) (goal : α → Disk → Prop) : Program α → Disk → Prop
  | done a, d => goal a d
  | call r next, d => ∀ answer d', d.Answers r answer d' → Reasoned d r answer →
      allowed ⟨r, answer⟩ → Honestly allowed goal (next answer) d'

namespace Honestly

variable {allowed : Event → Prop} {goal : α → Disk → Prop} {p : Program α} {d : Disk}

theorem of_faithful {events : List Event} {a : α} {d' : Disk} (h : Honestly allowed goal p d)
    (hrun : p.Faithful d events (.done a) d') (hevents : ∀ event ∈ events, allowed event) :
    goal a d' := by
  induction p generalizing d events with
  | done a =>
    cases hrun
    exact h
  | call r next ih =>
    cases hrun with
    | step hanswer hreason hrest =>
      rw [List.forall_mem_cons] at hevents
      exact ih _ (h _ _ hanswer hreason hevents.1) hrest hevents.2

/-- What always holds at the end of a program holds at the end of a faithful run. -/
theorem of_always {inv : Disk → Prop} {goal : List Event → α → Disk → Prop} {past : List Event}
    (h : Always allowed inv goal p past d) :
    Honestly allowed (fun a d => inv d ∧ ∃ past', goal past' a d) p d := by
  induction p generalizing past d with
  | done a => exact ⟨h.1, past, h.2⟩
  | call r next ih => exact fun answer d' hanswer _ hallowed => ih _ (h.2 _ _ hanswer hallowed)

theorem mono {goal' : α → Disk → Prop} (h : Honestly allowed goal p d)
    (hgoal : ∀ a d, goal a d → goal' a d) : Honestly allowed goal' p d := by
  induction p generalizing d with
  | done a => exact hgoal a d h
  | call r next ih =>
    exact fun answer d' hanswer hreason hallowed => ih _ (h answer d' hanswer hreason hallowed)

theorem and {goal' : α → Disk → Prop} (h : Honestly allowed goal p d)
    (h' : Honestly allowed goal' p d) : Honestly allowed (fun a d => goal a d ∧ goal' a d) p d := by
  induction p generalizing d with
  | done a => exact ⟨h, h'⟩
  | call r next ih =>
    exact fun answer d' hanswer hreason hallowed =>
      ih _ (h answer d' hanswer hreason hallowed) (h' answer d' hanswer hreason hallowed)

theorem bind {goal' : β → Disk → Prop} {f : α → Program β} (h : Honestly allowed goal p d)
    (hf : ∀ a d, goal a d → Honestly allowed goal' (f a) d) : Honestly allowed goal' (p >>= f) d := by
  change Honestly allowed goal' (p.bind f) d
  induction p generalizing d with
  | done a => exact hf a d h
  | call r next ih =>
    exact fun answer d' hanswer hreason hallowed => ih _ (h answer d' hanswer hreason hallowed)

theorem pure {a : α} (h : goal a d) : Honestly allowed goal (Pure.pure a) d := h

theorem ask_bind {r : Request} {f : r.Answer → Program β} {goal : β → Disk → Prop}
    (hf : ∀ answer d', d.Answers r answer d' → Reasoned d r answer → allowed ⟨r, answer⟩ →
      Honestly allowed goal (f answer) d') : Honestly allowed goal (ask r >>= f) d := hf

/-- Whatever a program does, it comes to something. -/
theorem trivial : Honestly allowed (fun _ _ => True) p d := by
  induction p generalizing d with
  | done a => exact True.intro
  | call r next ih => exact fun answer d' _ _ _ => ih answer

end Honestly

end Program

end SuiteSplit
