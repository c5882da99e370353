import KubeOverlay.Proofs.SelectedRoots
/-!
# Typed selectors

A typed selector carries a query over values and shows the results through a projection. Its filters are
lifted to tests of values, each of which fails for a value of another kind, also where the test itself is
a negation. So the query keeps the values of the kind that pass all tests
(`TypedSelector.values_chain`), and its results, the values that meet it and the queries that go on from
it are those of the plain query with everything else taken out (`TypedSelector.chain_agrees`).
-/
namespace KubeOverlay

/-! ## Projections -/

namespace Projection

variable {α : Type} {P : Projection α}

/-- The projections of typed selectors. -/
inductive Offered : {α : Type} → Projection α → Prop where
  | map : Offered Projection.map
  | slice : Offered Projection.slice
  | number : Offered Projection.number
  | string : Offered Projection.string

/-- A projection shows the values of its kind and no others. -/
theorem Offered.isSome_view (offered : P.Offered) (v : Value) : (P.view v).isSome = (v.kind == P.kind) := by
  cases offered with
  | map =>
    by_cases isMap : v.kind = .map
    · simp [Projection.map, isMap]
    · simp [Projection.map, isMap]
  | slice =>
    by_cases isSlice : v.kind = .slice
    · simp [Projection.slice, isSlice]
    · simp [Projection.slice, isSlice]
  | number =>
    simp only [Projection.number, Forest.number?, Value.kind, Forest.kind]
    cases v.forest.content v.node <;> rfl
  | string =>
    simp only [Projection.string, Forest.string?, Value.kind, Forest.kind]
    cases v.forest.content v.node <;> rfl

end Projection

/-! ## Chains of filters -/

/-- Whether something passes every test of a chain of filters. -/
def Predicate.PassesAll {α : Type} (chain : List (List (Predicate α))) (a : α) : Prop :=
  ∀ ps ∈ chain, ∀ p ∈ ps, p a

instance {α : Type} (chain : List (List (Predicate α))) (a : α) : Decidable (Predicate.PassesAll chain a) :=
  inferInstanceAs (Decidable (∀ ps ∈ chain, ∀ p ∈ ps, p a))

namespace Projection

variable {α : Type} {P : Projection α}

/-- Whether a value is of the kind of a projection and passes a chain of filters. -/
def keeps (P : Projection α) (chain : List (List (Predicate α))) : Predicate Value := fun v =>
  (P.view v).any fun a => Predicate.PassesAll chain a

/-- Lifted tests decide what the tests themselves decide, once the kind is right. -/
theorem Offered.keeps_eq (offered : P.Offered) (chain : List (List (Predicate α))) (v : Value) :
    P.keeps chain v = ((v.kind == P.kind) && chain.all fun ps => Predicate.all (ps.map P.lift) v) := by
  rw [← offered.isSome_view v, Bool.eq_iff_iff]
  cases shown : P.view v with
  | none => simp [keeps, shown]
  | some a =>
    have passes : P.keeps chain v ↔ Predicate.PassesAll chain a := by simp [keeps, shown]
    rw [passes]
    simp [Predicate.PassesAll, Predicate.all, lift, shown]

end Projection

namespace TypedSelector

variable {α : Type} {P : Projection α} (f : Forest) (roots : List NodeId)

/-- A filter takes out the values that fail a lifted test. -/
theorem values_filter (t : TypedSelector P) (ps : List (Predicate α)) :
    (t.filter ps).values.select f roots =
      (t.values.select f roots).filter fun id => Predicate.all (ps.map P.lift) ⟨f, id⟩ :=
  Selector.select_concat f t.values _ roots

theorem values_foldl_filter (t : TypedSelector P) (chain : List (List (Predicate α))) :
    (chain.foldl filter t).values.select f roots =
      (t.values.select f roots).filter fun id => chain.all fun ps => Predicate.all (ps.map P.lift) ⟨f, id⟩ := by
  induction chain generalizing t with
  | nil => simp
  | cons ps chain ih =>
    rw [List.foldl_cons, ih, values_filter, List.filter_filter]
    apply List.filter_congr
    intro id _
    rw [List.all_cons, Bool.and_comm]

/-- The query below a typed selector keeps the values of the kind that pass all filters. -/
theorem values_chain (offered : P.Offered) (s : Selector) (chain : List (List (Predicate α))) :
    (chain.foldl filter (ofSelector P s)).values.select f roots =
      (s.select f roots).filter fun id => P.keeps chain ⟨f, id⟩ := by
  have ofKind : (ofSelector P s).values.select f roots = (s.select f roots).filter fun id => f.kind id == P.kind := by
    rw [ofSelector, Selector.select_concat, Step.apply]
    apply List.filter_congr
    intro id _
    simp [Predicate.all, Predicate.isKind, Value.kind]
  rw [values_foldl_filter, ofKind, List.filter_filter]
  apply List.filter_congr
  intro id _
  rw [offered.keeps_eq, Bool.and_comm]
  rfl

/-- Whatever is kept is shown. -/
theorem view_isSome {s : Selector} {chain : List (List (Predicate α))} (offered : P.Offered) :
    ∀ id ∈ (chain.foldl filter (ofSelector P s)).values.select f roots, (P.view ⟨f, id⟩).isSome := by
  intro id member
  rw [values_chain f roots offered, List.mem_filter, offered.keeps_eq, Bool.and_eq_true] at member
  rw [offered.isSome_view]
  exact member.2.1

/-- To filter what a projection shows is to show what the filters keep. -/
theorem filterMap_keeps (offered : P.Offered) (chain : List (List (Predicate α))) (ids : List NodeId) :
    (ids.filter fun id => P.keeps chain ⟨f, id⟩).filterMap (fun id => P.view ⟨f, id⟩) =
      ((ids.filter fun id => f.kind id == P.kind).filterMap fun id => P.view ⟨f, id⟩).filter
        fun a => Predicate.PassesAll chain a := by
  rw [List.filterMap_filter, List.filterMap_filter, List.filter_filterMap]
  apply List.filterMap_congr
  intro id _
  have isKind : (P.view ⟨f, id⟩).isSome = (f.kind id == P.kind) := offered.isSome_view ⟨f, id⟩
  rw [← isKind]
  cases shown : P.view ⟨f, id⟩ with
  | none => simp
  | some a => simp [Projection.keeps, shown, Option.filter]

theorem select_chain (offered : P.Offered) (s : Selector) (chain : List (List (Predicate α))) :
    (chain.foldl filter (ofSelector P s)).select f roots =
      (((s.select f roots).filter fun id => f.kind id == P.kind).filterMap fun id => P.view ⟨f, id⟩).filter
        fun a => Predicate.PassesAll chain a := by
  rw [select, values_chain f roots offered, filterMap_keeps f offered]

/-- Since whatever is kept is shown, a typed selector is met by the values from which it selects anything. -/
theorem isMet_chain (offered : P.Offered) (s : Selector) (chain : List (List (Predicate α))) (v : Value) :
    (chain.foldl filter (ofSelector P s)).isMet v ↔
      (chain.foldl filter (ofSelector P s)).select v.forest [v.node] ≠ [] := by
  rw [isMet, Selector.isMet_iff, select, ne_eq, ne_eq, not_iff_not, List.filterMap_eq_nil_iff]
  constructor
  · intro empty
    rw [empty]
    simp
  · intro nothing
    apply List.eq_nil_iff_forall_not_mem.mpr
    intro id member
    have shown := view_isSome v.forest [v.node] offered id member
    rw [nothing id member] at shown
    contradiction

/-- A typed selector with a chain of filters is the query below it with the results of other kinds and
those that fail a test taken out: so it selects, so it is met, and so queries go on from it. -/
theorem chain_agrees (offered : P.Offered) (s : Selector) (chain : List (List (Predicate α))) :
    let typed := chain.foldl filter (ofSelector P s)
    let kept := (s.select f roots).filter fun id => P.keeps chain ⟨f, id⟩
    typed.select f roots =
      (((s.select f roots).filter fun id => f.kind id == P.kind).filterMap fun id => P.view ⟨f, id⟩).filter
        (fun a => Predicate.PassesAll chain a) ∧
    (∀ id ∈ typed.values.select f roots, (P.view ⟨f, id⟩).isSome) ∧
    (∀ v, typed.isMet v ↔ typed.select v.forest [v.node] ≠ []) ∧
    typed.values.select f roots = kept ∧
    ∀ step, Selector.select (typed.values ++ [step]) f roots = step.apply f kept := by
  intro typed kept
  have values : typed.values.select f roots = kept := values_chain f roots offered s chain
  refine ⟨select_chain f roots offered s chain, view_isSome f roots offered, isMet_chain offered s chain, values, ?_⟩
  intro step
  rw [Selector.select_concat, values]

/-- A map with fields of two kinds. -/
def names : Forest := (Forest.empty.plant (.map [("a", .string "x"), ("b", .string "y"), ("c", .bool true)])).2

/-- The strings other than `x`. What is no string is not kept either, though it fails the test for `x`
too. -/
def otherNames : TypedSelector Projection.string :=
  (ofSelector Projection.string [.children]).filter [.negate (· == "x")]

theorem otherNames_agree : Projection.Offered Projection.string ∧ otherNames.select names [0] = ["y"] ∧
    otherNames.isMet ⟨names, 0⟩ ∧ otherNames.values.select names [0] = [2] ∧
    Selector.select (otherNames.values ++ [.parent]) names [0] = [0] := by
  obtain ⟨selected, -, met, values, further⟩ :=
    chain_agrees names [0] Projection.Offered.string [.children] [[.negate (· == "x")]]
  have found : otherNames.select names [0] = ["y"] := by
    apply selected.trans
    decide
  refine ⟨.string, found, (met ⟨names, 0⟩).mpr ?_, values.trans (by decide), (further .parent).trans (by decide)⟩
  intro empty
  have nothing : otherNames.select names [0] = [] := empty
  rw [found] at nothing
  contradiction

end TypedSelector

end KubeOverlay
