import SuiteSplit.Proofs.FaultyRun

/-!
Two programs on one disk.

Each step is a call of one of the programs, and it is answered on the disk that the calls before it
have left, whoever made them. A program that only looks sees, at each of its calls, a disk that the
other one has come by. So what holds at every point of the one is all that is known where the other one
looks, and what the one that looks comes to is proved over its tree, with any such disk at each call.
-/

namespace SuiteSplit

theorem Text.toUTF8_of_fromUTF8? {bytes : ByteArray} {text : String}
    (h : String.fromUTF8? bytes = some text) : text.toUTF8 = bytes := by
  unfold String.fromUTF8? at h
  split at h
  · cases h
    rfl
  · cases h

namespace Program

variable {α β γ : Type}

/-- What a run of two programs on one disk can come to: what is left of them, and the disk. -/
inductive Races : Program α → Program β → Disk → Program α → Program β → Disk → Prop
  | start (p : Program α) (q : Program β) (d : Disk) : Races p q d p q d
  | left {r : Request} {next : r.Answer → Program α} {q : Program β} {d d₁ d' : Disk}
      {answer : r.Answer} {p' : Program α} {q' : Program β} (hanswer : d.Answers r answer d₁)
      (hrest : Races (next answer) q d₁ p' q' d') : Races (call r next) q d p' q' d'
  | right {p : Program α} {r : Request} {next : r.Answer → Program β} {d d₁ d' : Disk}
      {answer : r.Answer} {p' : Program α} {q' : Program β} (hanswer : d.Answers r answer d₁)
      (hrest : Races p (next answer) d₁ p' q' d') : Races p (call r next) d p' q' d'

/-- On whatever disks with a property its calls are answered, the program changes nothing, and another
property holds of its value. -/
def Observes (inv : Disk → Prop) (goal : β → Prop) : Program β → Prop
  | done b => goal b
  | call r next => ∀ d answer d', inv d → d.Answers r answer d' →
      d' = d ∧ Observes inv goal (next answer)

namespace Observes

variable {inv : Disk → Prop} {goal : β → Prop} {p : Program β}

theorem mono {goal' : β → Prop} (h : Observes inv goal p) (hgoal : ∀ b, goal b → goal' b) :
    Observes inv goal' p := by
  induction p with
  | done b => exact hgoal b h
  | call r next ih =>
    intro d answer d' hd hanswer
    obtain ⟨hsame, hnext⟩ := h d answer d' hd hanswer
    exact ⟨hsame, ih answer hnext⟩

theorem bind {goal' : γ → Prop} {f : β → Program γ} (h : Observes inv goal p)
    (hf : ∀ b, goal b → Observes inv goal' (f b)) : Observes inv goal' (p >>= f) := by
  change Observes inv goal' (p.bind f)
  induction p with
  | done b => exact hf b h
  | call r next ih =>
    intro d answer d' hd hanswer
    obtain ⟨hsame, hnext⟩ := h d answer d' hd hanswer
    exact ⟨hsame, ih answer hnext⟩

theorem pure {b : β} (h : goal b) : Observes inv goal (Pure.pure b) := h

/-- A run leaves the disk as it was. -/
theorem run_snd (h : Observes inv goal p) {d : Disk} (hd : inv d) : (p.run d).2 = d := by
  induction p generalizing d with
  | done b => rfl
  | call r next ih =>
    obtain ⟨hsame, hnext⟩ := h d _ _ hd (.exact r)
    rw [Program.run, hsame]
    exact ih _ hnext hd

theorem stat (q : Path) : Observes inv (fun _ => True) (ask (.stat q)) := by
  rintro d answer d' _ ⟨⟩ <;> exact ⟨rfl, trivial⟩

theorem list (q : Path) : Observes inv (fun _ => True) (ask (.list q)) := by
  rintro d answer d' _ ⟨⟩ <;> exact ⟨rfl, trivial⟩

/-- Reading gives the bytes that stand at the path on one of the disks, or it fails. -/
theorem read (q : Path) : Observes inv
    (fun answer => ∀ bytes, answer = .ok bytes → ∃ d, inv d ∧ d.read q = .ok bytes)
    (ask (.read q)) := by
  intro d answer d' hd hanswer
  cases hanswer with
  | exact =>
    refine ⟨rfl, ?_⟩
    intro bytes hbytes
    exact ⟨d, hd, hbytes⟩
  | failed r e =>
    refine ⟨rfl, ?_⟩
    intro bytes hbytes
    cases hbytes

theorem readText (q : Path) : Observes inv
    (fun result => ∀ text, result = .ok text → ∃ d, inv d ∧ d.read q = .ok text.toUTF8)
    (readText q) := by
  refine (read q).bind fun answer hread => ?_
  cases answer with
  | error e => exact .pure nofun
  | ok bytes =>
    dsimp only
    split
    · next text htext =>
      apply pure
      rintro _ ⟨rfl⟩
      rw [Text.toUTF8_of_fromUTF8? htext]
      exact hread bytes rfl
    · exact .pure nofun

end Observes

/-- One program keeps a property all along its run, and the other one only looks: that is so at every
point of a run of both. -/
theorem Races.observes {inv : Disk → Prop} {goal : List Event → α → Disk → Prop} {seen : β → Prop}
    {p p' : Program α} {q q' : Program β} {d d' : Disk} {past : List Event}
    (h : Races p q d p' q' d') (hp : Always (fun _ => True) inv goal p past d)
    (hq : Observes inv seen q) : inv d' ∧ Observes inv seen q' := by
  induction h generalizing past with
  | start p q d => exact ⟨hp.holds, hq⟩
  | left hanswer _ ih => exact ih (hp.2 _ _ hanswer trivial) hq
  | right hanswer _ ih =>
    obtain ⟨rfl, hnext⟩ := hq _ _ _ hp.holds hanswer
    exact ih hp hnext

/-- What the first program comes to on its own is a start of a run of both. -/
theorem Reaches.races {p p' p'' : Program α} {q q' : Program β} {d d₁ d' : Disk} {events : List Event}
    (h : p.Reaches d events p' d₁) (hrest : Races p' q d₁ p'' q' d') : Races p q d p'' q' d' := by
  induction h with
  | start p d => exact hrest
  | step hanswer _ ih => exact .left hanswer (ih hrest)

theorem races_run (p : Program α) (q : Program β) (d : Disk) :
    Races p q d p (.done (q.run d).1) (q.run d).2 := by
  induction q generalizing d with
  | done b => exact .start _ _ _
  | call r next ih => exact .right (.exact r) (ih _ _)

end Program

end SuiteSplit
