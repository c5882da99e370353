import KubeOverlay.Pass
import KubeOverlay.Proofs.Entries
import Mathlib.Data.List.Forall2
import Mathlib.Logic.Relation
/-!
# Collections edited resource by resource

An edit of a collection that nothing stops keeps the keys and relates the resource under each key
to the one that was there (`Collection.Pointwise`). Such relations are read off key by key and
compose along the steps of a build. Before them come the laws of results that may be errors: of lists
whose elements each become something or nothing, and of steps one after the other, which relate states
(`Progress.Yields`) where nothing stops them.
-/
namespace KubeOverlay

open Relation (Comp)

/-! ## Results without an error -/

theorem bind_eq_ok {ε α β : Type} {x : Except ε α} {f : α → Except ε β} {b : β} :
    (x >>= f) = .ok b ↔ ∃ a, x = .ok a ∧ f a = .ok b := by
  cases x <;> simp [bind, Except.bind]

theorem map_eq_ok {ε α β : Type} {x : Except ε α} {f : α → β} {b : β} :
    f <$> x = .ok b ↔ ∃ a, x = .ok a ∧ f a = b := by
  cases x <;> simp [Functor.map, Except.map]

theorem toOption_eq_some {ε α : Type} {x : Except ε α} {a : α} : x.toOption = some a ↔ x = .ok a := by
  cases x <;> simp [Except.toOption]

theorem isOk_iff_exists {ε α : Type} {x : Except ε α} : x.isOk = true ↔ ∃ a, x = .ok a := by
  cases x <;> simp [Except.isOk, Except.toBool]

theorem foldlM_cons_eq_ok {ε α β : Type} {f : β → α → Except ε β} {a : α} {rest : List α} {b b' : β} :
    (a :: rest).foldlM f b = .ok b' ↔ ∃ between, f b a = .ok between ∧ rest.foldlM f between = .ok b' := by
  rw [List.foldlM_cons, bind_eq_ok]

/-- What each step keeps true, a fold keeps true. -/
theorem foldlM_preserves {ε α β : Type} {f : β → α → Except ε β} {P : β → Prop} {l : List α}
    (kept : ∀ a ∈ l, ∀ b b', P b → f b a = .ok b' → P b') {b b' : β} (start : P b)
    (ran : l.foldlM f b = .ok b') : P b' := by
  induction l generalizing b with
  | nil =>
    cases ran
    exact start
  | cons a rest ih =>
    obtain ⟨between, first, later⟩ := foldlM_cons_eq_ok.mp ran
    exact ih (fun other member => kept other (List.mem_cons_of_mem a member))
      (kept a List.mem_cons_self b between start first) later

/-- A fold does not depend on the order of a list of which any two steps can be swapped. -/
theorem foldlM_perm {ε α β : Type} {f : β → α → Except ε β} {R : α → α → Prop} {l l' : List α}
    (symmetric : ∀ a b, R a b → R b a)
    (swap : ∀ s a b s₁ s₂, R a b → f s a = .ok s₁ → f s₁ b = .ok s₂ →
      ∃ s₁', f s b = .ok s₁' ∧ f s₁' a = .ok s₂)
    (perm : l.Perm l') (related : l.Pairwise R) {s s' : β} (ran : l.foldlM f s = .ok s') :
    l'.foldlM f s = .ok s' := by
  induction perm generalizing s with
  | nil => exact ran
  | cons a _ ih =>
    obtain ⟨between, first, later⟩ := foldlM_cons_eq_ok.mp ran
    exact foldlM_cons_eq_ok.mpr ⟨between, first, ih (List.pairwise_cons.mp related).2 later⟩
  | swap a b rest =>
    obtain ⟨s₁, first, ran⟩ := foldlM_cons_eq_ok.mp ran
    obtain ⟨s₂, second, later⟩ := foldlM_cons_eq_ok.mp ran
    have exchange := (List.pairwise_cons.mp related).1 a List.mem_cons_self
    obtain ⟨s₁', first', second'⟩ := swap s b a s₁ s₂ exchange first second
    exact foldlM_cons_eq_ok.mpr ⟨s₁', first', foldlM_cons_eq_ok.mpr ⟨s₂, second', later⟩⟩
  | trans perm _ ih ih' => exact ih' (perm.pairwise related fun {a b} => symmetric a b) (ih related ran)

/-! ## What the elements of a list become -/

section FilterMapM

variable {ε α β γ : Type} {f : α → Except ε (Option β)} {l : List α}

theorem filterMapM_cons_eq_ok {a : α} {l' : List β} : (a :: l).filterMapM f = .ok l' ↔
    ∃ b? rest, f a = .ok b? ∧ l.filterMapM f = .ok rest ∧ l' = b?.toList ++ rest := by
  rw [List.filterMapM_cons, bind_eq_ok]
  constructor
  · rintro ⟨b?, here, later⟩
    cases b? with
    | none => exact ⟨none, l', here, later, rfl⟩
    | some b =>
      obtain ⟨rest, ran, same⟩ := bind_eq_ok.mp later
      cases same
      exact ⟨some b, rest, here, ran, rfl⟩
  · rintro ⟨b?, rest, here, later, rfl⟩
    refine ⟨b?, here, ?_⟩
    cases b? with
    | none => exact later
    | some b => exact bind_eq_ok.mpr ⟨rest, later, rfl⟩

theorem filterMapM_append_eq_ok {l₁ l₂ : List α} {l' : List β} : (l₁ ++ l₂).filterMapM f = .ok l' ↔
    ∃ a b, l₁.filterMapM f = .ok a ∧ l₂.filterMapM f = .ok b ∧ l' = a ++ b := by
  induction l₁ generalizing l' with
  | nil =>
    constructor
    · intro ran
      exact ⟨[], l', rfl, ran, rfl⟩
    · rintro ⟨_, b, ⟨⟩, ran, rfl⟩
      exact ran
  | cons a rest ih =>
    simp only [List.cons_append, filterMapM_cons_eq_ok]
    constructor
    · rintro ⟨b?, later, here, ran, rfl⟩
      obtain ⟨first, second, ran₁, ran₂, rfl⟩ := ih.mp ran
      exact ⟨b?.toList ++ first, second, ⟨b?, first, here, ran₁, rfl⟩, ran₂, (List.append_assoc ..).symm⟩
    · rintro ⟨_, second, ⟨b?, first, here, ran₁, rfl⟩, ran₂, rfl⟩
      exact ⟨b?, first ++ second, here, ih.mpr ⟨first, second, ran₁, ran₂, rfl⟩, List.append_assoc ..⟩

/-- Elements that become something for certain. -/
theorem filterMapM_of_ok {g : α → Option β} (each : ∀ a ∈ l, f a = .ok (g a)) :
    l.filterMapM f = .ok (l.filterMap g) := by
  induction l with
  | nil => rfl
  | cons a rest ih =>
    have later := ih fun b member => each b (List.mem_cons_of_mem a member)
    refine filterMapM_cons_eq_ok.mpr ⟨g a, _, each a List.mem_cons_self, later, ?_⟩
    cases found : g a <;> simp [found]

theorem filterMapM_some {f : α → Except ε (Option α)} (each : ∀ a ∈ l, f a = .ok (some a)) :
    l.filterMapM f = .ok l := by
  rw [filterMapM_of_ok each, List.filterMap_some]

/-- A list in which one element at most does not stay. -/
theorem filterMapM_around {f : α → Except ε (Option α)} {a : α} {before after l' : List α}
    (others : ∀ b ∈ before ++ after, f b = .ok (some b)) : (before ++ a :: after).filterMapM f = .ok l' ↔
      ∃ a?, f a = .ok a? ∧ l' = before ++ (a?.toList ++ after) := by
  have front := filterMapM_some fun b member => others b (List.mem_append_left after member)
  have back := filterMapM_some fun b member => others b (List.mem_append_right before member)
  simp only [filterMapM_append_eq_ok, filterMapM_cons_eq_ok, front, back]
  constructor
  · rintro ⟨_, _, ⟨⟩, ⟨a?, _, here, ⟨⟩, rfl⟩, rfl⟩
    exact ⟨a?, here, rfl⟩
  · rintro ⟨a?, here, rfl⟩
    exact ⟨before, a?.toList ++ after, rfl, ⟨a?, after, here, rfl, rfl⟩, rfl⟩

/-- Elements that become something in two steps. -/
theorem filterMapM_comp {g : β → Except ε (Option γ)} {h : α → Except ε (Option γ)} {l' : List γ}
    (each : ∀ a ∈ l, h a = f a >>= fun b? => b?.elim (.ok none) g) :
    l.filterMapM h = .ok l' ↔ ∃ between, l.filterMapM f = .ok between ∧ between.filterMapM g = .ok l' := by
  induction l generalizing l' with
  | nil =>
    constructor
    · intro ran
      exact ⟨[], rfl, ran⟩
    · rintro ⟨_, ⟨⟩, ran⟩
      exact ran
  | cons a rest ih =>
    have onwards {l' : List γ} : rest.filterMapM h = .ok l' ↔
        ∃ between, rest.filterMapM f = .ok between ∧ between.filterMapM g = .ok l' :=
      ih fun b member => each b (List.mem_cons_of_mem a member)
    simp only [filterMapM_cons_eq_ok, each a List.mem_cons_self]
    constructor
    · rintro ⟨c?, later, here, ran, rfl⟩
      obtain ⟨b?, first, second⟩ := bind_eq_ok.mp here
      obtain ⟨between, ran₁, ran₂⟩ := onwards.mp ran
      refine ⟨b?.toList ++ between, ⟨b?, between, first, ran₁, rfl⟩, ?_⟩
      cases b? with
      | none =>
        cases second
        exact ran₂
      | some b => exact filterMapM_cons_eq_ok.mpr ⟨c?, later, second, ran₂, rfl⟩
    · rintro ⟨_, ⟨b?, between, first, ran₁, rfl⟩, ran₂⟩
      cases b? with
      | none => exact ⟨none, l', bind_eq_ok.mpr ⟨none, first, rfl⟩, onwards.mpr ⟨between, ran₁, ran₂⟩, rfl⟩
      | some b =>
        obtain ⟨c?, later, second, below, rfl⟩ := filterMapM_cons_eq_ok.mp ran₂
        exact ⟨c?, later, bind_eq_ok.mpr ⟨some b, first, second⟩, onwards.mpr ⟨between, ran₁, below⟩, rfl⟩

theorem mem_filterMapM {l' : List β} (ran : l.filterMapM f = .ok l') {b : β} :
    b ∈ l' ↔ ∃ a ∈ l, f a = .ok (some b) := by
  induction l generalizing l' with
  | nil =>
    cases ran
    simp
  | cons a rest ih =>
    obtain ⟨b?, later, here, below, rfl⟩ := filterMapM_cons_eq_ok.mp ran
    simp [ih below, here]

/-- What holds of two elements, one before the other, holds of what they have become if it is kept. -/
theorem pairwise_of_filterMapM {R : α → α → Prop} {S : β → β → Prop} {l' : List β} (apart : l.Pairwise R)
    (kept : ∀ a ∈ l, ∀ a' ∈ l, ∀ b b', R a a' → f a = .ok (some b) → f a' = .ok (some b') → S b b')
    (ran : l.filterMapM f = .ok l') : l'.Pairwise S := by
  induction l generalizing l' with
  | nil =>
    cases ran
    exact .nil
  | cons a rest ih =>
    obtain ⟨before, apart⟩ := List.pairwise_cons.mp apart
    obtain ⟨b?, later, here, below, rfl⟩ := filterMapM_cons_eq_ok.mp ran
    have tail := ih apart (fun x inX y inY => kept x (List.mem_cons_of_mem a inX) y
      (List.mem_cons_of_mem a inY)) below
    cases b? with
    | none => exact tail
    | some b =>
      refine List.pairwise_cons.mpr ⟨fun b' inside => ?_, tail⟩
      obtain ⟨a', among, becomes⟩ := (mem_filterMapM below).mp inside
      exact kept a List.mem_cons_self a' (List.mem_cons_of_mem a among) b b' (before a' among) here becomes

/-- Elements that stay as they are, where the others become nothing that counts, stay in order. -/
theorem filter_filterMapM {f : α → Except ε (Option α)} {p : α → Bool} {l' : List α}
    (each : ∀ a ∈ l, ∀ b?, f a = .ok b? → b?.toList.filter p = [a].filter p) (ran : l.filterMapM f = .ok l') :
    l'.filter p = l.filter p := by
  induction l generalizing l' with
  | nil =>
    cases ran
    rfl
  | cons a rest ih =>
    obtain ⟨b?, later, here, below, rfl⟩ := filterMapM_cons_eq_ok.mp ran
    have tail := ih (fun b member => each b (List.mem_cons_of_mem a member)) below
    rw [List.filter_append, each a List.mem_cons_self b? here, tail, ← List.filter_append,
      List.singleton_append]

end FilterMapM

theorem forall₂_comp_iff {α β γ : Type} {R : α → β → Prop} {S : β → γ → Prop} {l : List α} {l' : List γ} :
    Comp (List.Forall₂ R) (List.Forall₂ S) l l' ↔ List.Forall₂ (Comp R S) l l' := by
  constructor
  · rintro ⟨between, first, second⟩
    induction first generalizing l' with
    | nil =>
      cases second
      exact .nil
    | cons here _ ih =>
      cases second with
      | cons there later => exact .cons ⟨_, here, there⟩ (ih later)
  · intro related
    induction related with
    | nil => exact ⟨[], .nil, .nil⟩
    | cons here _ ih =>
      obtain ⟨b, first, second⟩ := here
      obtain ⟨between, firsts, seconds⟩ := ih
      exact ⟨b :: between, .cons first firsts, .cons second seconds⟩

/-! ## Steps that an error may stop -/

namespace Progress

variable {ε σ τ α : Type}

theorem toExcept_eq_ok {p : Progress ε σ} {s : σ} : p.toExcept = .ok s ↔ p = .done s := by
  obtain ⟨reached, e?⟩ := p
  cases e? <;> simp [toExcept, done]

theorem toExcept_ofExcept (s : σ) (x : Except ε σ) : (ofExcept s x).toExcept = x := by
  cases x <;> rfl

theorem ofExcept_eq_done {s s' : σ} {x : Except ε σ} : ofExcept s x = .done s' ↔ x = .ok s' := by
  cases x <;> simp [ofExcept, done, stopped]

theorem eq_done {p : Progress ε σ} (unstopped : p.error? = none) : p = .done p.reached :=
  congrArg (Progress.mk p.reached) unstopped

theorem map_eq_done {f : σ → τ} {p : Progress ε σ} {t : τ} :
    p.map f = .done t ↔ ∃ s, p = .done s ∧ f s = t := by
  obtain ⟨reached, e?⟩ := p
  cases e? <;> simp [map, done]

theorem map_eq_stopped {f : σ → τ} {p : Progress ε σ} {t : τ} {e : ε} :
    p.map f = .stopped t e ↔ ∃ s, p = .stopped s e ∧ f s = t := by
  obtain ⟨reached, e?⟩ := p
  cases e? <;> simp [map, stopped, and_comm]

theorem done_or_stopped (p : Progress ε σ) : (∃ s, p = .done s) ∨ ∃ s e, p = .stopped s e := by
  obtain ⟨reached, e?⟩ := p
  cases e? with
  | none => exact .inl ⟨reached, rfl⟩
  | some e => exact .inr ⟨reached, e, rfl⟩

theorem andThen_eq_done {p : Progress ε σ} {step : σ → Progress ε σ} {s' : σ} :
    p.andThen step = .done s' ↔ ∃ s, p = .done s ∧ step s = .done s' := by
  obtain ⟨reached, e?⟩ := p
  cases e? <;> simp [andThen, done]

theorem andThen_eq_stopped {p : Progress ε σ} {step : σ → Progress ε σ} {s' : σ} {e : ε} :
    p.andThen step = .stopped s' e ↔ p = .stopped s' e ∨ ∃ s, p = .done s ∧ step s = .stopped s' e := by
  obtain ⟨reached, e?⟩ := p
  cases e? <;> simp [andThen, done, stopped]

theorem sequence_cons_eq_done {step : α → σ → Progress ε σ} {a : α} {rest : List α} {s s' : σ} :
    sequence step (a :: rest) s = .done s' ↔
      ∃ between, step a s = .done between ∧ sequence step rest between = .done s' :=
  andThen_eq_done

/-- Where a step leads that nothing stops. -/
def Yields (step : σ → Progress ε σ) (s s' : σ) : Prop := step s = .done s'

theorem toExcept_sequence (step : α → σ → Progress ε σ) (l : List α) (s : σ) :
    (sequence step l s).toExcept = l.foldlM (fun s a => (step a s).toExcept) s := by
  induction l generalizing s with
  | nil => rfl
  | cons a rest ih =>
    rw [sequence, List.foldlM_cons]
    rcases done_or_stopped (step a s) with ⟨s', here⟩ | ⟨s', e, here⟩
    · rw [here]
      exact ih s'
    · rw [here]
      rfl

/-- Steps of which any two can be swapped may come in any order. -/
theorem sequence_perm {step : α → σ → Progress ε σ} {R : α → α → Prop} {l l' : List α}
    (symmetric : ∀ a b, R a b → R b a)
    (swap : ∀ a b s s', R a b → Comp (Yields (step a)) (Yields (step b)) s s' →
      Comp (Yields (step b)) (Yields (step a)) s s')
    (perm : l.Perm l') (related : l.Pairwise R) {s s' : σ} (ran : sequence step l s = .done s') :
    sequence step l' s = .done s' := by
  rw [← toExcept_eq_ok, toExcept_sequence] at ran ⊢
  refine foldlM_perm symmetric (fun s a b s₁ s₂ exchange first second => ?_) perm related ran
  rw [toExcept_eq_ok] at first second
  simp only [toExcept_eq_ok]
  exact swap a b s s₂ exchange ⟨s₁, first, second⟩

theorem yields_sequence_cons (step : α → σ → Progress ε σ) (a : α) (rest : List α) :
    Yields (sequence step (a :: rest)) = Comp (Yields (step a)) (Yields (sequence step rest)) := by
  funext s s'
  exact propext sequence_cons_eq_done

/-- Steps are stopped at the first that is stopped after those before it. -/
theorem sequence_eq_stopped {step : α → σ → Progress ε σ} {l : List α} {s s' : σ} {e : ε} :
    sequence step l s = .stopped s' e ↔ ∃ before a after between, l = before ++ a :: after ∧
      sequence step before s = .done between ∧ step a between = .stopped s' e := by
  induction l generalizing s with
  | nil => simp [sequence, done, stopped]
  | cons first rest ih =>
    rw [sequence, andThen_eq_stopped]
    constructor
    · rintro (here | ⟨next, here, later⟩)
      · exact ⟨[], first, rest, s, rfl, rfl, here⟩
      · obtain ⟨before, a, after, between, rfl, ran, there⟩ := ih.mp later
        exact ⟨first :: before, a, after, between, rfl, sequence_cons_eq_done.mpr ⟨next, here, ran⟩, there⟩
    · rintro ⟨before, a, after, between, split, ran, there⟩
      cases before with
      | nil =>
        cases split
        cases ran
        exact .inl there
      | cons first' before =>
        obtain ⟨rfl, rfl⟩ := List.cons_eq_cons.mp split
        obtain ⟨next, here, ran⟩ := sequence_cons_eq_done.mp ran
        exact .inr ⟨next, here, ih.mpr ⟨before, a, after, between, rfl, ran, there⟩⟩

/-- What no step breaks, whether or not an error stops it, holds of what all steps reach. -/
theorem sequence_invariant {step : α → σ → Progress ε σ} {R : σ → σ → Prop} (refl : ∀ s, R s s)
    (trans : ∀ s s' s'', R s s' → R s' s'' → R s s'') {l : List α}
    (kept : ∀ a ∈ l, ∀ s, R s (step a s).reached) (s : σ) : R s (sequence step l s).reached := by
  induction l generalizing s with
  | nil => exact refl s
  | cons a rest ih =>
    have first := kept a List.mem_cons_self s
    rw [sequence, andThen]
    split
    · exact trans _ _ _ first (ih (fun b later => kept b (List.mem_cons_of_mem a later)) _)
    · exact first

/-- What each step keeps true, whether or not an error stops it, all steps keep true. -/
theorem sequence_preserves {step : α → σ → Progress ε σ} {P : σ → Prop} {l : List α}
    (kept : ∀ a ∈ l, ∀ s, P s → P (step a s).reached) {s : σ} (start : P s) :
    P (sequence step l s).reached :=
  sequence_invariant (R := fun s s' => P s → P s') (fun _ => id)
    (fun _ _ _ first second start => second (first start)) kept s start

theorem andThen_andThen (p : Progress ε σ) (step next : σ → Progress ε σ) :
    (p.andThen step).andThen next = p.andThen fun s => (step s).andThen next := by
  obtain ⟨reached, e?⟩ := p
  cases e? <;> rfl

theorem sequence_append (step : α → σ → Progress ε σ) (xs ys : List α) (s : σ) :
    sequence step (xs ++ ys) s = (sequence step xs s).andThen (sequence step ys) := by
  induction xs generalizing s with
  | nil => rfl
  | cons x xs ih => rw [List.cons_append, sequence, sequence, andThen_andThen, funext ih]

theorem sequence_map {β : Type} (step : β → σ → Progress ε σ) (f : α → β) (l : List α) (s : σ) :
    sequence step (l.map f) s = sequence (fun a => step (f a)) l s := by
  induction l generalizing s with
  | nil => rfl
  | cons a rest ih => rw [List.map_cons, sequence, sequence, funext ih]

/-- Steps that are made of steps are those one after the other. -/
theorem sequence_flatMap {β γ : Type} (step : γ → β → σ → Progress ε σ) (view : α → γ)
    (inner : α → List β) (l : List α) (s : σ) :
    sequence (fun a => sequence (step (view a)) (inner a)) l s =
      sequence (fun p => step p.1 p.2) (l.flatMap fun a => (inner a).map (view a, ·)) s := by
  induction l generalizing s with
  | nil => rfl
  | cons a rest ih => rw [List.flatMap_cons, sequence_append, sequence_map, sequence, funext ih]

end Progress

/-! ## Related collections -/

namespace Collection

variable {P Q R : Identity → Resource → Resource → Prop} {a b c : Collection}

/-- The same keys, and under each key two resources that are related. -/
def Pointwise (P : Identity → Resource → Resource → Prop) (a b : Collection) : Prop :=
  List.Forall₂ (fun x y => y.1 = x.1 ∧ P x.1 x.2 y.2) a.entries b.entries

theorem mem_entries {id : Identity} {r : Resource} : (id, r) ∈ c.entries ↔ c.find? id = some r :=
  Ordered.mem_iff_find? c.ascending id r

/-- The keys, each with whether what is under it is generated. -/
def origins (c : Collection) : List (Identity × Bool) := c.entries.map fun e => (e.1, e.2.generated)

/-- A collection is given by what is under its keys. -/
theorem eq_of_find? (same : ∀ id, a.find? id = b.find? id) : a = b := by
  obtain ⟨xs, left⟩ := a
  obtain ⟨ys, right⟩ := b
  exact (mk.injEq ..).mpr (Ordered.eq_of_find? left right same)

theorem Pointwise.refl (same : ∀ id r, P id r r) (c : Collection) : Pointwise P c c :=
  List.forall₂_same.mpr fun e _ => ⟨rfl, same e.1 e.2⟩

theorem Pointwise.mono (weaken : ∀ id r r', P id r r' → Q id r r') (related : Pointwise P a b) :
    Pointwise Q a b :=
  List.Forall₂.imp (fun _ _ h => ⟨h.1, weaken _ _ _ h.2⟩) related

/-- Related resources are related as those that are held under their keys. -/
theorem Pointwise.held (related : Pointwise P a b) :
    Pointwise (fun id r r' => a.find? id = some r ∧ P id r r') a b := by
  have stored : ∀ e ∈ a.entries, a.find? e.1 = some e.2 := fun e member => mem_entries.mp member
  have both := (List.forall₂_and_left a.entries b.entries).mpr ⟨stored, related⟩
  exact List.Forall₂.imp (fun _ _ h => ⟨h.2.1, h.1, h.2.2⟩) both

theorem Pointwise.trans (compose : ∀ id r r' r'', P id r r' → Q id r' r'' → R id r r'')
    (first : Pointwise P a b) (second : Pointwise Q b c) : Pointwise R a c := by
  have both := forall₂_comp_iff.mp ⟨_, first, second⟩
  refine both.imp fun x z ⟨y, ⟨key, here⟩, key', there⟩ => ⟨key'.trans key, ?_⟩
  rw [key] at there
  exact compose _ _ _ _ here there

/-- What is related entry by entry to a collection is one. -/
theorem exists_pointwise {entries : List (Identity × Resource)}
    (related : List.Forall₂ (fun x y => y.1 = x.1 ∧ P x.1 x.2 y.2) a.entries entries) :
    ∃ a', Pointwise P a a' ∧ a'.entries = entries := by
  have keys : entries.map (·.1) = a.entries.map (·.1) := by
    rw [← List.forall₂_eq_eq_eq, List.forall₂_map_left_iff, List.forall₂_map_right_iff]
    exact related.flip.imp fun _ _ both => both.1
  exact ⟨⟨entries, ascending_of_keys keys a.ascending⟩, related, rfl⟩

/-- Two relations one after the other hold of collections if they do of the resources. -/
theorem pointwise_comp_iff :
    Comp (Pointwise P) (Pointwise Q) a c ↔ Pointwise (fun id => Comp (P id) (Q id)) a c := by
  constructor
  · rintro ⟨b, first, second⟩
    exact first.trans (fun id r r' r'' here there => ⟨r', here, there⟩) second
  · intro both
    have each : List.Forall₂ (Comp (fun x y : Identity × Resource => y.1 = x.1 ∧ P x.1 x.2 y.2)
        (fun x y : Identity × Resource => y.1 = x.1 ∧ Q x.1 x.2 y.2)) a.entries c.entries :=
      both.imp fun x y ⟨key, r', here, there⟩ => ⟨(x.1, r'), ⟨rfl, here⟩, key, there⟩
    obtain ⟨entries, firsts, seconds⟩ := forall₂_comp_iff.mpr each
    obtain ⟨b, first, rfl⟩ := exists_pointwise firsts
    exact ⟨b, first, seconds⟩

theorem find?_of_forall₂ {xs ys : List (Identity × Resource)}
    (related : List.Forall₂ (fun x y => y.1 = x.1 ∧ P x.1 x.2 y.2) xs ys) {id : Identity} {r : Resource}
    (held : Ordered.find? id xs = some r) : ∃ r', Ordered.find? id ys = some r' ∧ P id r r' := by
  induction related with
  | nil => simp [Ordered.find?] at held
  | @cons x y xs ys head tail ih =>
    obtain ⟨key, holds⟩ := head
    rw [Ordered.find?] at held ⊢
    rw [key]
    split at held
    · next same =>
      rw [if_pos same]
      have equal : x.2 = r := by simpa using held
      have here : id = x.1 := Identity.eq_of_compare same
      exact ⟨y.2, rfl, by rw [here, ← equal]; exact holds⟩
    · next differ =>
      rw [if_neg differ]
      exact ih held

/-- Under each key that one collection has, the other has a related resource. -/
theorem Pointwise.find? (related : Pointwise P a b) {id : Identity} {r : Resource}
    (held : a.find? id = some r) : ∃ r', b.find? id = some r' ∧ P id r r' :=
  find?_of_forall₂ related held

theorem Pointwise.symm (related : Pointwise P a b) : Pointwise (fun id r r' => P id r' r) b a :=
  List.Forall₂.imp (fun _ _ h => ⟨h.1.symm, h.1 ▸ h.2⟩) (List.Forall₂.flip related)

/-- What related resources have in common, the collections have in common in key order. -/
theorem Pointwise.map_eq {β : Type} (view : Identity → Resource → β) (related : Pointwise P a b)
    (same : ∀ id r r', P id r r' → view id r' = view id r) :
    b.entries.map (fun e => view e.1 e.2) = a.entries.map (fun e => view e.1 e.2) := by
  obtain ⟨xs, orderX⟩ := a
  obtain ⟨ys, orderY⟩ := b
  simp only [Pointwise] at related ⊢
  clear orderX orderY
  induction related with
  | nil => rfl
  | cons head tail ih =>
    rw [List.map_cons, List.map_cons, ih, head.1, same _ _ _ head.2]

/-! ## Editing without an error -/

theorem editEntries_eq_done {ε : Type} {f : Identity → Resource → Progress ε Resource}
    {entries entries' : List (Identity × Resource)} :
    editEntries f entries = .done entries' ↔
      List.Forall₂ (fun x y => y.1 = x.1 ∧ f x.1 x.2 = .done y.2) entries entries' := by
  induction entries generalizing entries' with
  | nil => simp [editEntries, Progress.done, eq_comm]
  | cons e rest ih =>
    obtain ⟨id, r⟩ := e
    rw [editEntries]
    split
    · next e stopped =>
      constructor
      · intro impossible
        simp [Progress.stopped, Progress.done] at impossible
      · rintro (_ | ⟨⟨-, ran⟩, -⟩)
        simp [ran, Progress.done] at stopped
    · next ran =>
      rw [Progress.map_eq_done]
      constructor
      · rintro ⟨below, tail, rfl⟩
        refine .cons ⟨rfl, ?_⟩ (ih.mp tail)
        exact Progress.toExcept_eq_ok.mp (by rw [Progress.toExcept, ran])
      · rintro (_ | @⟨_, ⟨_, r'⟩, _, _, ⟨rfl, here⟩, tail⟩)
        exact ⟨_, ih.mpr tail, by rw [here]; rfl⟩

theorem edit_eq_done {ε : Type} {f : Identity → Resource → Progress ε Resource} :
    a.edit f = .done b ↔ Pointwise (fun id r r' => f id r = .done r') a b := by
  rw [Pointwise, ← editEntries_eq_done]
  obtain ⟨entries, ascending⟩ := b
  simp only [edit, Progress.done]
  constructor
  · intro ran
    obtain ⟨reached, error⟩ := Progress.mk.inj ran
    obtain reached := Collection.mk.inj reached
    cases run : editEntries f a.entries with
    | mk reached' error' => simp_all
  · intro ran
    simp [ran]

end Collection

theorem Pass.eachResource_eq_done {f : Identity → Resource → Progress BuildError Resource}
    {a b : Collection} :
    Pass.eachResource f a = .done b ↔ Collection.Pointwise (fun id r r' => f id r = .done r') a b := by
  have step : ∀ id r r', (⟨(f id r).reached, (f id r).error?.map (BuildError.inResource id)⟩ :
      Progress BuildError Resource) = .done r' ↔ f id r = .done r' := by
    intro id r r'
    obtain ⟨reached, e?⟩ := f id r
    cases e? <;> simp [Progress.done]
  rw [eachResource, Collection.edit_eq_done]
  exact ⟨.mono fun id r r' => (step id r r').mp, .mono fun id r r' => (step id r r').mpr⟩

end KubeOverlay
