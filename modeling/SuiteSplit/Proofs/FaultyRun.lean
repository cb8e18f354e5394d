import SuiteSplit.Disk.Program

/-!
Runs of a program in which calls may fail.

A call is answered as the disk answers it, or with any error and no change. A directory for one user
gets any drawn name. What holds all along a run is proved over the tree of the program: `Always` asks
for it before every call and of every answer, and `Always.of_reaches` carries it to every point that a
run can come to.

A run to the end is also taken apart into the runs of its parts. There no answer says without reason
that something is not found.
-/

namespace SuiteSplit

/-- A call and its answer. -/
structure Event where
  request : Request
  answer : request.Answer

/-- The directory that a call has made under a drawn name. -/
def Event.drawn? : Event → Option Path
  | ⟨.makePrivateDirectory _ _, .ok p⟩ => some p
  | _ => none

namespace Disk

/-- The answers that a call can get, and the disk after it. -/
inductive Answers (d : Disk) : (r : Request) → r.Answer → Disk → Prop
  | exact (r : Request) : Answers d r (d.answer r).1 (d.answer r).2
  | failed (r : Request) (e : DiskError) : Answers d r (.error e) d
  | drawn (parent : Path) (start : String) (characters : List Char)
      (hlength : characters.length = drawnLength) (hcharacters : ∀ c ∈ characters, c.isAlphanum) :
      Answers d (.makePrivateDirectory parent start)
        (d.settle (d.makePrivateUnder parent (drawnName start characters))).1
        (d.settle (d.makePrivateUnder parent (drawnName start characters))).2

end Disk

namespace Program

variable {α β : Type}

/-- What a run of a program can come to: the calls so far, what is left of the program, and the disk. -/
inductive Reaches : Program α → Disk → List Event → Program α → Disk → Prop
  | start (p : Program α) (d : Disk) : Reaches p d [] p d
  | step {r : Request} {next : r.Answer → Program α} {d d₁ d' : Disk} {answer : r.Answer}
      {events : List Event} {p' : Program α} (hanswer : d.Answers r answer d₁)
      (hrest : Reaches (next answer) d₁ events p' d') :
      Reaches (call r next) d (⟨r, answer⟩ :: events) p' d'

/-- A run without failures is a run. -/
theorem reaches_run (p : Program α) (d : Disk) :
    ∃ events, p.Reaches d events (.done (p.run d).1) (p.run d).2 := by
  induction p generalizing d with
  | done a => exact ⟨[], .start _ _⟩
  | call r next ih =>
    obtain ⟨events, h⟩ := ih (d.answer r).1 (d.answer r).2
    exact ⟨_, .step (.exact r) h⟩

/-- The run in which some calls fail, with an error or none for each of the first calls. -/
def trial : List (Option DiskError) → Program α → Disk → List Event × Program α × Disk
  | none :: faults, call r next, d =>
    let result := trial faults (next (d.answer r).1) (d.answer r).2
    (⟨r, (d.answer r).1⟩ :: result.1, result.2)
  | some e :: faults, call r next, d =>
    let result := trial faults (next (.error e)) d
    (⟨r, .error e⟩ :: result.1, result.2)
  | _, p, d => ([], p, d)

theorem reaches_trial (faults : List (Option DiskError)) (p : Program α) (d : Disk) :
    p.Reaches d (trial faults p d).1 (trial faults p d).2.1 (trial faults p d).2.2 := by
  induction faults generalizing p d with
  | nil => exact .start p d
  | cons fault faults ih =>
    cases p with
    | done a => cases fault <;> exact .start _ d
    | call r next =>
      cases fault with
      | none => exact .step (.exact r) (ih _ _)
      | some e => exact .step (.failed r e) (ih _ _)

/-- A property of the disk holds at every point of every run whose events are allowed, and another one
of the events, the value and the disk at the end. The events before the program are given. -/
def Always (allowed : Event → Prop) (inv : Disk → Prop) (goal : List Event → α → Disk → Prop) :
    Program α → List Event → Disk → Prop
  | done a, past, d => inv d ∧ goal past a d
  | call r next, past, d => inv d ∧ ∀ answer d', d.Answers r answer d' → allowed ⟨r, answer⟩ →
      Always allowed inv goal (next answer) (past ++ [⟨r, answer⟩]) d'

namespace Always

variable {allowed : Event → Prop} {inv : Disk → Prop} {goal : List Event → α → Disk → Prop}
  {p : Program α} {past : List Event} {d : Disk}

theorem holds (h : Always allowed inv goal p past d) : inv d := by
  cases p with
  | done a => exact h.1
  | call r next => exact h.1

theorem of_reaches {events : List Event} {p' : Program α} {d' : Disk}
    (h : Always allowed inv goal p past d) (hrun : p.Reaches d events p' d')
    (hevents : ∀ event ∈ events, allowed event) :
    Always allowed inv goal p' (past ++ events) d' := by
  induction hrun generalizing past with
  | start p d => simpa using h
  | step hanswer _ ih =>
    have hnext := ih (h.2 _ _ hanswer (hevents _ List.mem_cons_self))
      fun event hevent => hevents event (List.mem_cons_of_mem _ hevent)
    simpa using hnext

theorem mono {inv' : Disk → Prop} {goal' : List Event → α → Disk → Prop}
    (h : Always allowed inv goal p past d) (hinv : ∀ d, inv d → inv' d)
    (hgoal : ∀ past a d, inv d → goal past a d → goal' past a d) :
    Always allowed inv' goal' p past d := by
  induction p generalizing past d with
  | done a => exact ⟨hinv d h.1, hgoal past a d h.1 h.2⟩
  | call r next ih =>
    exact ⟨hinv d h.1, fun answer d' hanswer hallowed =>
      ih answer (h.2 answer d' hanswer hallowed)⟩

theorem bind {goal' : List Event → β → Disk → Prop} {f : α → Program β}
    (h : Always allowed inv goal p past d)
    (hf : ∀ past a d, inv d → goal past a d → Always allowed inv goal' (f a) past d) :
    Always allowed inv goal' (p >>= f) past d := by
  change Always allowed inv goal' (p.bind f) past d
  induction p generalizing past d with
  | done a => exact hf past a d h.1 h.2
  | call r next ih =>
    exact ⟨h.1, fun answer d' hanswer hallowed => ih answer (h.2 answer d' hanswer hallowed)⟩

theorem pure {a : α} (hinv : inv d) (hgoal : goal past a d) :
    Always allowed inv goal (Pure.pure a) past d := ⟨hinv, hgoal⟩

theorem ask_bind {r : Request} {f : r.Answer → Program β} {goal : List Event → β → Disk → Prop}
    (hinv : inv d)
    (hf : ∀ answer d', d.Answers r answer d' → allowed ⟨r, answer⟩ →
      Always allowed inv goal (f answer) (past ++ [⟨r, answer⟩]) d') :
    Always allowed inv goal (ask r >>= f) past d := ⟨hinv, hf⟩

end Always

/-! ## Runs to the end -/

/-- A program comes to its end with a value. Calls may fail, but that something is not found is said
only where it is so. -/
inductive Completes : Program α → Disk → α → Disk → Prop
  | done (a : α) (d : Disk) : Completes (done a) d a d
  | call {r : Request} {next : r.Answer → Program α} {d d₁ d' : Disk} {answer : r.Answer} {a : α}
      (hanswer : d.Answers r answer d₁)
      (hfound : answer = .error .notFound → (d.answer r).1 = .error .notFound)
      (hrest : Completes (next answer) d₁ a d') : Completes (call r next) d a d'

/-- A run without failures comes to its end. -/
theorem completes_run (p : Program α) (d : Disk) : p.Completes d (p.run d).1 (p.run d).2 := by
  induction p generalizing d with
  | done a => exact .done a d
  | call r next ih => exact .call (.exact r) id (ih _ _)

namespace Completes

variable {p : Program α} {f : α → Program β} {a a' : α} {b : β} {d d' : Disk}

theorem of_pure (h : (pure a' : Program α).Completes d a d') : a = a' ∧ d' = d := by
  cases h
  exact ⟨rfl, rfl⟩

theorem of_bind (h : (p >>= f).Completes d b d') :
    ∃ a d₁, p.Completes d a d₁ ∧ (f a).Completes d₁ b d' := by
  change (p.bind f).Completes d b d' at h
  induction p generalizing d with
  | done a => exact ⟨a, d, .done a d, h⟩
  | call r next ih =>
    cases h with
    | call hanswer hfound hrest =>
      obtain ⟨a, d₁, hp, hf⟩ := ih _ hrest
      exact ⟨a, d₁, .call hanswer hfound hp, hf⟩

theorem of_ask_bind {r : Request} {f : r.Answer → Program β} (h : (ask r >>= f).Completes d b d') :
    ∃ answer d₁, d.Answers r answer d₁ ∧
      (answer = .error .notFound → (d.answer r).1 = .error .notFound) ∧
      (f answer).Completes d₁ b d' := by
  obtain ⟨answer, d₁, hask, hrest⟩ := h.of_bind
  cases hask with
  | call hanswer hfound hdone =>
    cases hdone
    exact ⟨answer, d₁, hanswer, hfound, hrest⟩

/-- What always holds at the end of a program holds when it comes to its end. -/
theorem of_always {inv : Disk → Prop} {goal : List Event → α → Disk → Prop} {past : List Event}
    (h : p.Completes d a d') (halways : Always (fun _ => True) inv goal p past d) :
    inv d' ∧ ∃ past', goal past' a d' := by
  induction h generalizing past with
  | done a d => exact ⟨halways.1, past, halways.2⟩
  | call hanswer _ _ ih => exact ih (halways.2 _ _ hanswer trivial)

end Completes

end Program

end SuiteSplit
