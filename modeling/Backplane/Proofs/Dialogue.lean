import Backplane.Dialogue

/-!
# What a dialogue can come to

A dialogue is a tree, so what it may ask and answer is a set of paths from the root: the questions
asked along a path, each with one of its answers, and the value at the end. A partner picks one
path. A statement about every path is a statement about every partner.

* `path_bind`: a path of a sequence is a path of each part, one behind the other.
* `path_transcript`: what is said with a partner is a path.
* `transcript_bind`: what is said in a sequence is what is said in each part.
-/
namespace Backplane.Dialogue

variable {Q : Type} {A : Q → Type} {α β σ : Type}

/-- A question and its answer. -/
abbrev Turn (A : Q → Type) : Type := (q : Q) × A q

/-- The dialogue can take these turns, and comes to this value behind them. -/
def Path : Dialogue A α → List (Turn A) → α → Prop
  | .done value, turns, v => turns = [] ∧ v = value
  | .ask question next, turns, v =>
    ∃ answer rest, turns = ⟨question, answer⟩ :: rest ∧ Path (next answer) rest v

theorem path_bind (d : Dialogue A α) (f : α → Dialogue A β) (turns : List (Turn A)) (w : β) :
    Path (d >>= f) turns w ↔
      ∃ first v rest, turns = first ++ rest ∧ Path d first v ∧ Path (f v) rest w := by
  induction d generalizing turns with
  | done value =>
    constructor
    · intro h
      exact ⟨[], value, turns, rfl, ⟨rfl, rfl⟩, h⟩
    · intro h
      obtain ⟨_, _, rest, rfl, ⟨rfl, rfl⟩, h⟩ := h
      exact h
  | ask question next ih =>
    constructor
    · intro h
      obtain ⟨answer, tail, rfl, h⟩ := h
      obtain ⟨first, v, rest, rfl, h₁, h₂⟩ := (ih answer tail).1 h
      exact ⟨⟨question, answer⟩ :: first, v, rest, rfl, ⟨answer, first, rfl, h₁⟩, h₂⟩
    · intro h
      obtain ⟨_, v, rest, rfl, ⟨answer, first, rfl, h₁⟩, h₂⟩ := h
      exact ⟨answer, first ++ rest, rfl, (ih answer _).2 ⟨first, v, rest, rfl, h₁, h₂⟩⟩

/-- The turns of a dialogue that is held with a partner. -/
def transcript (partner : (q : Q) → σ → A q × σ) : Dialogue A α → σ → List (Turn A)
  | .done _, _ => []
  | .ask question next, s =>
    ⟨question, (partner question s).1⟩ ::
      transcript partner (next (partner question s).1) (partner question s).2

theorem path_transcript (partner : (q : Q) → σ → A q × σ) (d : Dialogue A α) (s : σ) :
    Path d (transcript partner d s) (run partner d s).1 := by
  induction d generalizing s with
  | done value => exact ⟨rfl, rfl⟩
  | ask question next ih => exact ⟨_, _, rfl, ih _ _⟩

theorem transcript_bind (partner : (q : Q) → σ → A q × σ) (d : Dialogue A α) (f : α → Dialogue A β)
    (s : σ) :
    transcript partner (d >>= f) s =
      transcript partner d s ++ transcript partner (f (run partner d s).1) (run partner d s).2 := by
  induction d generalizing s with
  | done value => rfl
  | ask question next ih =>
    exact congrArg (List.cons _) (ih (partner question s).1 (partner question s).2)

end Backplane.Dialogue
