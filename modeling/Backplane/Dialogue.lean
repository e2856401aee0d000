/-!
# Dialogues

A dialogue is a computation that asks questions and goes on according to the answers: a tree with
one branch for every possible answer. It is a value, so what a computation can ask is read off the
tree, whoever answers. `run` holds a dialogue with a partner who answers out of a state.

The main statements are the monad laws and `run_bind`: running a sequence is running its parts.
-/
namespace Backplane

/-- A computation that asks questions of type `Q`, where `A q` holds the answers to `q`. -/
inductive Dialogue {Q : Type} (A : Q → Type) (α : Type) where
  | done (value : α)
  | ask (question : Q) (next : A question → Dialogue A α)

namespace Dialogue

variable {Q : Type} {A : Q → Type} {α β γ σ : Type}

def bind : Dialogue A α → (α → Dialogue A β) → Dialogue A β
  | .done value, f => f value
  | .ask question next, f => .ask question fun answer => bind (next answer) f

instance : Monad (Dialogue A) where
  pure := .done
  bind := bind

/-- Asks one question. -/
def question (q : Q) : Dialogue A (A q) := .ask q .done

/-- Holds the dialogue with a partner who answers out of a state. -/
def run (partner : (q : Q) → σ → A q × σ) : Dialogue A α → σ → α × σ
  | .done value, s => (value, s)
  | .ask question next, s =>
    match partner question s with
    | (answer, s) => run partner (next answer) s

theorem bind_done (d : Dialogue A α) : bind d .done = d := by
  induction d with
  | done value => rfl
  | ask question next ih => simp only [bind, ih]

theorem bind_assoc (d : Dialogue A α) (f : α → Dialogue A β) (g : β → Dialogue A γ) :
    bind (bind d f) g = bind d fun a => bind (f a) g := by
  induction d with
  | done value => rfl
  | ask question next ih => simp only [bind, ih]

instance : LawfulMonad (Dialogue A) :=
  LawfulMonad.mk' _ (fun d => bind_done d) (fun _ _ => rfl) (fun d f g => bind_assoc d f g)

theorem run_bind (partner : (q : Q) → σ → A q × σ) (d : Dialogue A α) (f : α → Dialogue A β)
    (s : σ) : run partner (bind d f) s = run partner (f (run partner d s).1) (run partner d s).2 := by
  induction d generalizing s with
  | done value => rfl
  | ask question next ih => simp only [bind, run, ih]

end Dialogue
end Backplane
