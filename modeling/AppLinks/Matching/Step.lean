import AppLinks.Matching.Event

/-!
# Steps

A step has an answer, may change a state (what is remembered between steps) and reports events.

    (x >>= f) reports what `x` reports and then what `f` reports      (events_bind)
-/

namespace AppLinks

structure Outcome (σ α : Type) where
  value : α
  state : σ
  events : List Event

def Step (σ α : Type) : Type := σ → Outcome σ α

namespace Step

variable {σ α β : Type}

protected def pure (a : α) : Step σ α := fun s => ⟨a, s, []⟩

protected def bind (x : Step σ α) (f : α → Step σ β) : Step σ β := fun s =>
  let o := x s
  let p := f o.value o.state
  ⟨p.value, p.state, o.events ++ p.events⟩

instance : Monad (Step σ) where
  pure := Step.pure
  bind := Step.bind

/-- Reports one event. -/
def report (e : Event) : Step σ Unit := fun s => ⟨(), s, [e]⟩

def get : Step σ σ := fun s => ⟨s, s, []⟩

def set (s : σ) : Step σ Unit := fun _ => ⟨(), s, []⟩

/-! ## Lemmas -/

theorem pure_apply (a : α) (s : σ) : (pure a : Step σ α) s = ⟨a, s, []⟩ := rfl

theorem value_bind (x : Step σ α) (f : α → Step σ β) (s : σ) :
    ((x >>= f) s).value = (f (x s).value (x s).state).value := rfl

theorem state_bind (x : Step σ α) (f : α → Step σ β) (s : σ) :
    ((x >>= f) s).state = (f (x s).value (x s).state).state := rfl

theorem events_bind (x : Step σ α) (f : α → Step σ β) (s : σ) :
    ((x >>= f) s).events = (x s).events ++ (f (x s).value (x s).state).events := rfl

theorem id_map_apply (x : Step σ α) : id <$> x = x := by
  funext s
  show (⟨(x s).value, (x s).state, (x s).events ++ []⟩ : Outcome σ α) = x s
  rw [List.append_nil]

theorem bind_assoc_apply {γ : Type} (x : Step σ α) (f : α → Step σ β) (g : β → Step σ γ) :
    x >>= f >>= g = x >>= fun a => f a >>= g := by
  funext s
  show (⟨_, _, ((x s).events ++ _) ++ _⟩ : Outcome σ γ) = ⟨_, _, (x s).events ++ (_ ++ _)⟩
  rw [List.append_assoc]
  rfl

instance : LawfulMonad (Step σ) :=
  LawfulMonad.mk' _ id_map_apply (fun _ _ => rfl) bind_assoc_apply

end Step

end AppLinks
