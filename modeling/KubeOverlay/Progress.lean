/-!
# Progress

What an operation leaves that an error may stop half-way: the state it reached and, if it was
stopped, the error. Later steps are left out once an error has come up.
-/
namespace KubeOverlay

/-- The state an operation reached, and what stopped it there. -/
structure Progress (ε σ : Type) where
  reached : σ
  error? : Option ε
deriving Repr

namespace Progress

variable {ε σ τ : Type}

/-- All steps were taken. -/
def done (s : σ) : Progress ε σ := ⟨s, none⟩

def stopped (s : σ) (e : ε) : Progress ε σ := ⟨s, some e⟩

/-- A result in place of the state, or the state as it was with the error. -/
def ofExcept (s : σ) : Except ε σ → Progress ε σ
  | .ok s' => done s'
  | .error e => stopped s e

/-- The state reached without an error, or the error. -/
def toExcept (p : Progress ε σ) : Except ε σ :=
  match p.error? with
  | none => .ok p.reached
  | some e => .error e

/-- A further step, taken if there was no error. -/
def andThen (p : Progress ε σ) (step : σ → Progress ε σ) : Progress ε σ :=
  match p.error? with
  | none => step p.reached
  | some _ => p

/-- The same with the state seen as part of another. -/
def map (f : σ → τ) (p : Progress ε σ) : Progress ε τ := ⟨f p.reached, p.error?⟩

/-- Steps in order, up to the first error. -/
def sequence {α : Type} (step : α → σ → Progress ε σ) : List α → σ → Progress ε σ
  | [], s => done s
  | a :: rest, s => (step a s).andThen (sequence step rest)

end Progress

end KubeOverlay
