import KubeOverlay.Proofs.Leaves
import Mathlib.Data.List.Sort
/-!
# What an edit visits

An edit at a path visits its leaves in document order, calls its functions at each, and leaves their
results there and everything else alone; an error of its own comes from the first obstacle, if all
leaves before it were edited (`FieldPath.edit_visits`).
-/
namespace KubeOverlay

open Position (Before Aside)

variable {σ : Type} {fs : List (Edit σ)} {s s' s'' : σ} {d d' : Document} {e : BuildError}

/-! ## Calls -/

namespace Edit

/-- Edits called in order, each on what the one before it gave. -/
inductive Calls : List (Edit σ) → Document → σ → Document → σ → Prop where
  | none (d : Document) (s : σ) : Calls [] d s d s
  | next {f : Edit σ} {rest : List (Edit σ)} {d d' d'' : Document} {s s' s'' : σ}
    (called : f d s = (.ok d', s')) (later : Calls rest d' s' d'' s'') : Calls (f :: rest) d s d'' s''

/-- One of the edits fails on what those before it gave. -/
def Fails (fs : List (Edit σ)) (d : Document) (s : σ) (e : BuildError) (s' : σ) : Prop :=
  ∃ before f after between s'', fs = before ++ f :: after ∧ Calls before d s between s'' ∧
    f between s'' = (.error e, s')

theorem chain_eq_ok : chain fs d s = (.ok d', s') ↔ Calls fs d s d' s' := by
  induction fs generalizing d s with
  | nil =>
    rw [chain]
    constructor
    · intro same
      cases same
      exact .none _ _
    · intro calls
      cases calls
      rfl
  | cons f rest ih =>
    rw [chain]
    constructor
    · intro ran
      split at ran
      · next called => exact .next called (ih.mp ran)
      · simp at ran
    · intro calls
      cases calls with
      | next called later =>
        rw [called]
        exact ih.mpr later

theorem chain_eq_error : chain fs d s = (.error e, s') ↔ Fails fs d s e s' := by
  induction fs generalizing d s with
  | nil =>
    constructor
    · intro ran
      simp [chain] at ran
    · rintro ⟨before, f, after, _, _, split, -⟩
      simp at split
  | cons f rest ih =>
    rw [chain]
    constructor
    · intro ran
      split at ran
      · next between s'' called =>
        obtain ⟨before, g, after, last, s3, rfl, calls, failed⟩ := ih.mp ran
        exact ⟨f :: before, g, after, last, s3, rfl, .next called calls, failed⟩
      · next failed =>
        cases ran
        exact ⟨[], f, rest, d, s, rfl, .none d s, failed⟩
    · rintro ⟨before, g, after, last, s3, split, calls, failed⟩
      cases calls with
      | none =>
        obtain ⟨rfl, rfl⟩ := List.cons_eq_cons.mp split
        rw [failed]
      | next called later =>
        obtain ⟨rfl, rfl⟩ := List.cons_eq_cons.mp split
        rw [called]
        exact ih.mpr ⟨_, g, after, last, s3, rfl, later, failed⟩

end Edit

/-! ## Visits -/

/-- A place with the value that the first edit is given there, and the result of the last. -/
structure Visit where
  place : Position
  before : Document
  after : Document

/-- The stop at which a visit is made. -/
def Visit.stop (v : Visit) : Stop := ⟨v.place, v.before, false⟩

/-- Visits one after the other, at each of which all edits are called in order. -/
inductive Visited (fs : List (Edit σ)) : List Visit → σ → σ → Prop where
  | nil (s : σ) : Visited fs [] s s
  | cons {v : Visit} {rest : List Visit} {s s' s'' : σ} (calls : Edit.Calls fs v.before s v.after s')
    (later : Visited fs rest s' s'') : Visited fs (v :: rest) s s''

/-- The document with the results of visits at their places. -/
def write (visits : List Visit) (d : Document) : Document :=
  visits.foldl (fun d v => Document.put v.after v.place d) d

namespace FieldPath

variable {create : Bool} {path walked : FieldPath} {object object' : Fields} {visits : List Visit} {rest : List Stop}

theorem follow_visits (visited : Visited fs visits s s') (d : Document) :
    follow (.chain fs) walked path (visits.map Visit.stop ++ rest) d s =
      follow (.chain fs) walked path rest (write visits d) s' := by
  induction visited generalizing d with
  | nil => rfl
  | cons calls _ ih =>
    rw [List.map_cons, List.cons_append, follow]
    dsimp only [Visit.stop]
    rw [Edit.chain_eq_ok.mpr calls]
    exact ih _

/-- Visits are made up to the first stop that blocks or at which an edit fails. -/
theorem exists_visits (fs : List (Edit σ)) (stops : List Stop) (s : σ) : ∃ visits s' rest,
    stops = visits.map Visit.stop ++ rest ∧ Visited fs visits s s' ∧
    ∀ stop after, rest = stop :: after →
      stop.blocks = true ∨ stop.blocks = false ∧ ∃ e s'', Edit.Fails fs stop.value s' e s'' := by
  induction stops generalizing s with
  | nil => exact ⟨[], s, [], rfl, .nil s, by simp⟩
  | cons stop stops ih =>
    obtain ⟨place, value, blocks⟩ := stop
    cases blocks with
    | true =>
      refine ⟨[], s, _, rfl, .nil s, ?_⟩
      rintro stop after ⟨⟩
      exact .inl rfl
    | false =>
      cases ran : Edit.chain fs value s with
      | mk outcome s' =>
        cases outcome with
        | error e =>
          refine ⟨[], s, _, rfl, .nil s, ?_⟩
          rintro stop after ⟨⟩
          exact .inr ⟨rfl, e, s', Edit.chain_eq_error.mp ran⟩
        | ok new =>
          obtain ⟨visits, s'', rest, rfl, visited, ends⟩ := ih s'
          exact ⟨⟨place, value, new⟩ :: visits, s'', rest, rfl, .cons (Edit.chain_eq_ok.mp ran) visited, ends⟩

end FieldPath

/-! ## What visits leave -/

variable {create : Bool} {path : FieldPath} {object object' : Fields} {visits : List Visit} {place q : Position}
  {value : Document}

theorem at?_write_of_aside (aside : ∀ v ∈ visits, q.Aside v.place) (d : Document) :
    (write visits d).at? q = d.at? q := by
  induction visits generalizing d with
  | nil => rfl
  | cons v rest ih =>
    rw [write, List.foldl_cons, ← write, ih fun w member => aside w (List.mem_cons_of_mem v member)]
    exact Document.at?_put_of_aside (aside v List.mem_cons_self)

theorem at?_write_self (apart : visits.Pairwise fun v w => v.place.Aside w.place)
    (fits : ∀ v ∈ visits, d.Fits v.place) {v : Visit} (member : v ∈ visits) :
    (write visits d).at? v.place = some v.after := by
  induction visits generalizing d with
  | nil => contradiction
  | cons first rest ih =>
    obtain ⟨fromFirst, apart⟩ := List.pairwise_cons.mp apart
    rw [write, List.foldl_cons, ← write]
    rcases List.mem_cons.mp member with rfl | member
    · rw [at?_write_of_aside fromFirst]
      exact Document.at?_put_self (fits v List.mem_cons_self)
    · refine ih apart (fun w later => ?_) member
      exact (fits w (List.mem_cons_of_mem first later)).put (fromFirst w later).symm

/-- What visits at leaves make of an object: the results stand at their places, everything aside from
them is as it was, and what is new is inside them, or on the way to one whose keys were missing. -/
structure Rewritten (create : Bool) (visits : List Visit) (object object' : Fields) : Prop where
  stored : ∀ v ∈ visits, (Document.map object').at? v.place = some v.after
  kept : ∀ q : Position, (∀ v ∈ visits, q.Aside v.place) →
    (Document.map object').at? q = (Document.map object).at? q
  new : ∀ q : Position, (Document.map object).at? q = none → (Document.map object').at? q ≠ none →
    ∃ v ∈ visits, v.place <+: q ∨ q <+: v.place ∧ create = true ∧ Missing (.map object) v.place

theorem rewritten_of_write (leaves : ∀ v ∈ visits, Leaf create path (.map object) v.place)
    (distinct : (visits.map (·.place)).Nodup) (same : Document.map object' = write visits (.map object)) :
    Rewritten create visits object object' := by
  have apart : visits.Pairwise fun v w => v.place.Aside w.place := by
    refine (List.pairwise_map.mp distinct).imp_of_mem fun {v w} left right differs => ?_
    exact (leaves v left).aside (leaves w right) differs
  refine ⟨fun v member => ?_, fun q aside => ?_, fun q absent present => ?_⟩
  · rw [same]
    exact at?_write_self apart (fun w member => (leaves w member).fits) member
  · rw [same]
    exact at?_write_of_aside aside _
  · by_contra none
    push Not at none
    refine present ?_
    rw [same, at?_write_of_aside (fun v member => ⟨fun above => ?_, (none v member).1⟩), absent]
    -- What is missing above a leaf leaves nothing there.
    obtain ⟨inner, split⟩ := above
    rcases (leaves v member).reached with ⟨value, there⟩ | ⟨created, missing⟩
    · rw [← split, Document.at?_append, absent] at there
      contradiction
    · exact (none v member).2 ⟨inner, split⟩ created missing

/-! ## The leaves that are visited -/

/-- An edit visits the leaves ahead of somewhere, in document order, calls its functions at each on what
stands there, or on an empty map, and meets no obstacle. -/
structure Walked (fs : List (Edit σ)) (create : Bool) (path : FieldPath) (object : Fields)
    (ahead : Position → Prop) (visits : List Visit) (s s' : σ) : Prop where
  leaves : ∀ q, q ∈ visits.map (·.place) ↔ Leaf create path (.map object) q ∧ ahead q
  ordered : (visits.map (·.place)).Pairwise Before
  before : ∀ v ∈ visits, v.before = ((Document.map object).at? v.place).getD (.map [])
  visited : Visited fs visits s s'
  clear : ∀ q value, Obstacle path (.map object) q value → ¬ ahead q

namespace FieldPath

variable {rest : List Stop} {ahead : Position → Prop} {stop : Stop}

theorem not_before_self (q : Position) : ¬ Before q q := fun before => Std.Asymm.asymm q q before before

/-- The stop at a leaf: the value there, or an empty map. -/
def leafStop (object : Fields) (q : Position) : Stop := ⟨q, ((Document.map object).at? q).getD (.map []), false⟩

theorem IsStop.eq_leafStop (isStop : IsStop create path object stop) (passes : stop.blocks = false) :
    stop = leafStop object stop.place := by
  have value := (isStop.leaf_of_passes passes).2
  obtain ⟨place, there, blocks⟩ := stop
  cases passes
  rw [leafStop, ← value]

theorem before_all_iff (ordered : (stop :: rest).Pairwise fun a b => Before a.place b.place) (q : Position) :
    (∀ other ∈ stop :: rest, Before q other.place) ↔ Before q stop.place := by
  constructor
  · intro all
    exact all stop List.mem_cons_self
  · intro before other member
    rcases List.mem_cons.mp member with rfl | member
    · exact before
    · exact before.trans ((List.pairwise_cons.mp ordered).1 other member)

/-! Stops in two parts, the first of which all pass. -/

section Split

variable {first : List Stop} (split : stops create path object = first ++ rest)
include split

theorem isStop_iff (stop : Stop) : IsStop create path object stop ↔ stop ∈ first ∨ stop ∈ rest := by
  rw [← mem_stops_iff, split, List.mem_append]

variable (passes : ∀ stop ∈ first, stop.blocks = false)
include passes

/-- What is ahead of the second part is behind no stop that blocks. -/
theorem not_bars (ahead : ∀ stop ∈ rest, Before q stop.place) (isStop : IsStop create path object stop) :
    ¬ stop.Bars q := by
  rintro ⟨blocks, above, differs⟩
  rcases (isStop_iff split stop).mp isStop with early | late
  · simp [passes stop early] at blocks
  · exact Std.Asymm.asymm _ _ (ahead stop late) (Position.before_of_prefix above differs)

/-- The places of the first part are the leaves ahead of the second. -/
theorem mem_places_iff (q : Position) : q ∈ first.map (·.place) ↔
    Leaf create path (.map object) q ∧ ∀ stop ∈ rest, Before q stop.place := by
  have ordered := stops_pairwise create path object
  rw [split, List.pairwise_append] at ordered
  constructor
  · intro member
    obtain ⟨stop, early, rfl⟩ := List.mem_map.mp member
    have isStop := (isStop_iff split stop).mpr (.inl early)
    exact ⟨(isStop.leaf_of_passes (passes stop early)).1, ordered.2.2 stop early⟩
  · rintro ⟨leaf, ahead⟩
    obtain ⟨stop, isStop, ⟨-, rfl⟩ | bars⟩ := leaf.isStop
    · rcases (isStop_iff split stop).mp isStop with early | late
      · exact List.mem_map_of_mem early
      · exact absurd (ahead stop late) (not_before_self _)
    · exact absurd bars (not_bars split passes ahead isStop)

theorem not_ahead (obstacle : Obstacle path (.map object) q value) : ¬ ∀ stop ∈ rest, Before q stop.place := by
  intro ahead
  obtain ⟨stop, isStop, rfl | bars⟩ := obstacle.isStop create
  · rcases (isStop_iff split _).mp isStop with early | late
    · simpa using passes _ early
    · exact not_before_self q (ahead _ late)
  · exact not_bars split passes ahead isStop bars

end Split

/-- Where stops are split, the visits made are those to the leaves ahead of all that follow. -/
theorem walked_of_split (split : stops create path object = visits.map Visit.stop ++ rest)
    (visited : Visited fs visits s s') :
    Walked fs create path object (fun q => ∀ stop ∈ rest, Before q stop.place) visits s s' := by
  have passes : ∀ stop ∈ visits.map Visit.stop, stop.blocks = false := by
    intro stop member
    obtain ⟨v, -, rfl⟩ := List.mem_map.mp member
    rfl
  have places : (visits.map Visit.stop).map (·.place) = visits.map (·.place) := List.map_map ..
  refine ⟨fun q => ?_, ?_, fun v member => ?_, visited, fun q value => not_ahead split passes⟩
  · rw [← places]
    exact mem_places_iff split passes q
  · have ordered := stops_pairwise create path object
    rw [split, List.pairwise_append] at ordered
    rw [← places]
    exact List.pairwise_map.mpr ordered.1
  · have isStop := (isStop_iff split v.stop).mpr (.inl (List.mem_map_of_mem member))
    exact (isStop.leaf_of_passes rfl).2

theorem walked_of_stop (split : stops create path object = visits.map Visit.stop ++ stop :: rest)
    (visited : Visited fs visits s s') : Walked fs create path object (Before · stop.place) visits s s' := by
  have ordered := stops_pairwise create path object
  rw [split, List.pairwise_append] at ordered
  have walked := walked_of_split split visited
  simpa only [before_all_iff ordered.2.1] using walked

/-- The visits that are made ahead of an obstacle are those at the stops before it. -/
theorem split_of_walked (walked : Walked fs create path object (Before · place) visits s s')
    (obstacle : Obstacle path (.map object) place value) :
    ∃ rest, stops create path object = visits.map Visit.stop ++ ⟨place, value, true⟩ :: rest := by
  have member : ⟨place, value, true⟩ ∈ stops create path object := by
    obtain ⟨stop, isStop, rfl | ⟨blocks, above, differs⟩⟩ := obstacle.isStop create
    · exact mem_stops_iff.mpr isStop
    · exact absurd (Position.before_of_prefix above differs) (walked.clear _ _ (isStop.obstacle_of_blocks blocks))
  obtain ⟨first, rest, split⟩ := List.append_of_mem member
  have ordered := stops_pairwise create path object
  rw [split, List.pairwise_append] at ordered
  obtain ⟨among, later, ahead⟩ := ordered
  have isStop : ∀ stop ∈ first, IsStop create path object stop := fun stop early =>
    (isStop_iff split stop).mpr (.inl early)
  have passes : ∀ stop ∈ first, stop.blocks = false := by
    intro stop early
    by_contra blocks
    have blocked := (isStop stop early).obstacle_of_blocks (by simpa using blocks)
    exact walked.clear _ _ blocked (ahead stop early _ List.mem_cons_self)
  -- Both lists have the leaves ahead of the place in document order, and a leaf makes one stop.
  have places : first.map (·.place) = visits.map (·.place) := by
    refine List.Pairwise.eq_of_mem_iff (List.pairwise_map.mpr among) walked.ordered fun q => ?_
    rw [walked.leaves, mem_places_iff split passes, before_all_iff later]
  have atLeaves : first = (first.map (·.place)).map (leafStop object) := by
    rw [List.map_map]
    refine (List.map_id first).symm.trans (List.map_congr_left fun stop early => ?_)
    exact (isStop stop early).eq_leafStop (passes stop early)
  have visitsAt : visits.map Visit.stop = (visits.map (·.place)).map (leafStop object) := by
    rw [List.map_map]
    refine List.map_congr_left fun v visit => ?_
    rw [Visit.stop, walked.before v visit]
    rfl
  refine ⟨rest, ?_⟩
  rw [split, atLeaves, places, visitsAt]

/-! ## The end of an edit -/

theorem edit_eq_follow (create : Bool) (path : FieldPath) (sorted : (Document.map object).Sorted)
    (fs : List (Edit σ)) (s : σ) :
    ((path.edit create fs object s).1.map Document.map, (path.edit create fs object s).2) =
      follow (.chain fs) [] path (stops create path object) (.map object) s :=
  (editFrom_eq_follow sorted s).symm

/-- An edit is done when it has visited all stops. Otherwise the first that is left is in the way, or one of
the functions fails there, and then the value is put back. -/
theorem edit_cases (create : Bool) (path : FieldPath) (sorted : (Document.map object).Sorted) (fs : List (Edit σ))
    (s : σ) : ∃ visits between rest, stops create path object = visits.map Visit.stop ++ rest ∧
    Visited fs visits s between ∧
    ((rest = [] ∧ ∃ object', path.edit create fs object s = (.done object', between) ∧
        Document.map object' = write visits (.map object)) ∨
      (∃ stop after, rest = stop :: after ∧ stop.blocks = true ∧
        (path.edit create fs object s).1.error? = some (mismatch [] stop.place stop.value)) ∨
      ∃ stop after e s' reached, rest = stop :: after ∧ stop.blocks = false ∧ Edit.Fails fs stop.value between e s' ∧
        path.edit create fs object s = (.stopped reached (.atField path.dotted e), s') ∧
        Document.map reached = Document.put stop.value stop.place (write visits (.map object))) := by
  obtain ⟨visits, between, rest, split, visited, ends⟩ := exists_visits fs (stops create path object) s
  refine ⟨visits, between, rest, split, visited, ?_⟩
  have ran := edit_eq_follow create path sorted fs s
  rw [split, follow_visits visited] at ran
  generalize path.edit create fs object s = outcome at ran ⊢
  obtain ⟨⟨reached, e?⟩, s'⟩ := outcome
  cases rest with
  | nil =>
    obtain ⟨reaches, rfl⟩ := Prod.mk.inj ran
    obtain ⟨same, rfl⟩ := Progress.mk.inj reaches
    exact .inl ⟨rfl, reached, rfl, same⟩
  | cons stop after =>
    rw [follow] at ran
    rcases ends stop after rfl with blocks | ⟨passes, e, s'', fails⟩
    · rw [blocks] at ran
      obtain ⟨reaches, -⟩ := Prod.mk.inj ran
      exact .inr (.inl ⟨stop, after, rfl, blocks, (Progress.mk.inj reaches).2⟩)
    · rw [passes, Edit.chain_eq_error.mpr fails] at ran
      obtain ⟨reaches, rfl⟩ := Prod.mk.inj ran
      obtain ⟨same, rfl⟩ := Progress.mk.inj reaches
      exact .inr (.inr ⟨stop, after, e, _, reached, rfl, passes, fails, rfl, same⟩)

theorem nodup_of_ordered {places : List Position} (ordered : places.Pairwise Before) : places.Nodup := by
  refine List.Pairwise.imp ?_ ordered
  rintro p q before rfl
  exact not_before_self p before

/-- An edit that succeeds has visited its leaves, each once and in document order, and changed nothing else.
It stops with an error of its own exactly at the first obstacle that it comes to, when it has visited the
leaves before it. -/
theorem edit_visits (sorted : (Document.map object).Sorted) (create : Bool) (path : FieldPath)
    (fs : List (Edit σ)) (s : σ) :
    (∀ object' s', path.edit create fs object s = (.done object', s') → ∃ visits,
      Walked fs create path object (fun _ => True) visits s s' ∧ Rewritten create visits object object') ∧
    ∀ text expected found, (path.edit create fs object s).1.error? = some (.typeMismatch text expected found) ↔
      ∃ place value, Obstacle path (.map object) place value ∧
        mismatch [] place value = .typeMismatch text expected found ∧
        ∃ visits s', Walked fs create path object (Before · place) visits s s' := by
  obtain ⟨visits, between, rest, split, visited, ended⟩ := edit_cases create path sorted fs s
  constructor
  · intro object' s' ran
    rw [ran] at ended
    rcases ended with ⟨rfl, reached, same, result⟩ | ⟨_, _, _, _, failed⟩ | ⟨_, _, _, _, _, _, _, _, failed, _⟩
    · obtain ⟨reaches, rfl⟩ := Prod.mk.inj same
      obtain rfl := (Progress.mk.inj reaches).1
      have walked := walked_of_split split visited
      simp only [List.not_mem_nil, false_imp_iff, implies_true] at walked
      have leaves : ∀ v ∈ visits, Leaf create path (.map object) v.place := fun v member =>
        ((walked.leaves v.place).mp (List.mem_map_of_mem member)).1
      exact ⟨visits, walked, rewritten_of_write leaves (nodup_of_ordered walked.ordered) result⟩
    · contradiction
    · cases failed
  · intro text expected found
    constructor
    · intro failed
      rcases ended with ⟨-, reached, same, -⟩ | ⟨stop, after, rfl, blocks, error⟩ | ⟨_, _, _, _, _, _, _, _, same, _⟩
      · rw [same] at failed
        contradiction
      · have isStop := (isStop_iff split stop).mpr (.inr List.mem_cons_self)
        exact ⟨stop.place, stop.value, isStop.obstacle_of_blocks blocks, Option.some.inj (error.symm.trans failed),
          visits, between, walked_of_stop split visited⟩
      · rw [same] at failed
        cases failed
    · rintro ⟨place, value, obstacle, error, visits, s', walked⟩
      obtain ⟨rest, split⟩ := split_of_walked walked obstacle
      have ran := edit_eq_follow create path sorted fs s
      rw [split, follow_visits walked.visited] at ran
      have stopped := congrArg (·.1.error?) ran
      rw [← error]
      exact stopped

/-! ### A list with a key that is missing -/

def ab : FieldPath := ["a", "b"]

/-- A list of three maps, of which one has no `b`. -/
def listObject : Fields := [("a", .list [.map [("b", .string "x")], .map [], .map [("b", .null)]]), ("c", .null)]

theorem listObject_sorted : (Document.map listObject).Sorted := by
  have order : compare "a" "c" = .lt := by decide
  simp [listObject, Ordered.Ascending, order, Document.Sorted, Document.SortedFields, Document.SortedItems]

/-- Puts a number beside a value, a larger one each time. -/
def number : Edit Nat := fun d n => (.ok (.list [d, .number (.int n)]), n + 1)

/-- All three elements are visited, the second with an empty map. -/
theorem listObject_visits : ∃ object' visits, ab.edit true [number, number] listObject 0 = (.done object', 6) ∧
    Walked [number, number] true ab listObject (fun _ => True) visits 0 6 ∧ Rewritten true visits listObject object' := by
  obtain ⟨object', ran⟩ : ∃ object', ab.edit true [number, number] listObject 0 = (.done object', 6) := ⟨_, rfl⟩
  obtain ⟨visits, walked, rewritten⟩ := (edit_visits listObject_sorted true ab [number, number] 0).1 object' 6 ran
  exact ⟨object', visits, ran, walked, rewritten⟩

/-! ## A function that fails -/

variable {reached : Fields} {place : Position} {value : Document} {text : String}

theorem mismatch_ne_atField (walked : FieldPath) (place : Position) (d : Document) :
    mismatch walked place d ≠ .atField text e := by
  rw [mismatch]
  split <;> simp

theorem write_append (visits : List Visit) (v : Visit) (d : Document) :
    write (visits ++ [v]) d = Document.put v.after v.place (write visits d) := by
  rw [write, List.foldl_append]
  rfl

/-- A value that is put back at a leaf counts as the result of one more visit. -/
theorem rewritten_put_back (walked : Walked fs create path object (Before · place) visits s s')
    (leaf : Leaf create path (.map object) place)
    (same : Document.map reached = Document.put value place (write visits (.map object))) :
    Rewritten create (visits ++ [⟨place, value, value⟩]) object reached := by
  have earlier : ∀ v ∈ visits, Leaf create path (.map object) v.place ∧ Before v.place place := fun v member =>
    (walked.leaves v.place).mp (List.mem_map_of_mem member)
  have leaves : ∀ v ∈ visits ++ [⟨place, value, value⟩], Leaf create path (.map object) v.place := by
    intro v member
    rcases List.mem_append.mp member with early | last
    · exact (earlier v early).1
    · rw [List.mem_singleton.mp last]
      exact leaf
  refine rewritten_of_write leaves (nodup_of_ordered ?_) ?_
  · rw [List.map_append, List.pairwise_append]
    refine ⟨walked.ordered, List.pairwise_singleton .., fun p early q last => ?_⟩
    obtain ⟨v, member, rfl⟩ := List.mem_map.mp early
    rw [List.mem_singleton.mp last]
    exact (earlier v member).2
  · rw [write_append]
    exact same

/-- What an edit leaves that one of its functions stops. The leaves before the one where it fails have been
edited, those after it are as they were, and the value where it fails has been put back. Where there was
none, the empty map that was created for it stays. -/
theorem edit_refused (sorted : (Document.map object).Sorted)
    (ran : path.edit create fs object s = (.stopped reached (.atField text e), s')) :
    text = path.dotted ∧ ∃ place visits between, Leaf create path (.map object) place ∧
      Walked fs create path object (Before · place) visits s between ∧
      Edit.Fails fs (((Document.map object).at? place).getD (.map [])) between e s' ∧
      (∀ v ∈ visits, (Document.map reached).at? v.place = some v.after) ∧
      (∀ q, Leaf create path (.map object) q → Before place q →
        (Document.map reached).at? q = (Document.map object).at? q) ∧
      (∀ q : Position, q.Aside place → (∀ v ∈ visits, q.Aside v.place) →
        (Document.map reached).at? q = (Document.map object).at? q) ∧
      ((Document.map reached).at? place = (Document.map object).at? place ↔
        ∃ value, (Document.map object).at? place = some value) ∧
      ((Document.map object).at? place = none → create = true ∧ (Document.map reached).at? place = some (.map [])) := by
  obtain ⟨visits, between, rest, split, visited, ended⟩ := edit_cases create path sorted fs s
  rw [ran] at ended
  rcases ended with ⟨_, _, done, _⟩ | ⟨_, _, _, _, own⟩ | ⟨stop, after, e', _, reached', rfl, passes, fails, same, result⟩
  · cases done
  · exact absurd (Option.some.inj own).symm (mismatch_ne_atField _ _ _)
  · cases same
    have isStop := (isStop_iff split stop).mpr (.inr List.mem_cons_self)
    obtain ⟨leaf, value⟩ := isStop.leaf_of_passes passes
    have walked := walked_of_stop split visited
    have leaves : ∀ v ∈ visits, Leaf create path (.map object) v.place ∧ Before v.place stop.place := fun v member =>
      (walked.leaves v.place).mp (List.mem_map_of_mem member)
    have rewritten := rewritten_put_back walked leaf result
    have stored := rewritten.stored ⟨stop.place, stop.value, stop.value⟩ (List.mem_append_right _ List.mem_cons_self)
    have kept : ∀ q : Position, q.Aside stop.place → (∀ v ∈ visits, q.Aside v.place) →
        (Document.map reached).at? q = (Document.map object).at? q := by
      intro q here early
      refine rewritten.kept q fun v member => ?_
      rcases List.mem_append.mp member with member | last
      · exact early v member
      · rw [List.mem_singleton.mp last]
        exact here
    refine ⟨rfl, stop.place, visits, between, leaf, walked, value ▸ fails, ?_, ?_, kept, ?_, ?_⟩
    · intro v member
      exact rewritten.stored v (List.mem_append_left _ member)
    · intro q later after
      have differs {p : Position} (before : Before p q) : q ≠ p := by
        rintro rfl
        exact not_before_self q before
      exact kept q (later.aside leaf (differs after)) fun v member =>
        later.aside (leaves v member).1 (differs ((leaves v member).2.trans after))
    · rw [stored, value]
      constructor
      · intro same
        exact ⟨_, same.symm⟩
      · rintro ⟨there, present⟩
        rw [present]
        rfl
    · intro absent
      rw [stored, value, absent]
      refine ⟨?_, rfl⟩
      rcases leaf.reached with ⟨there, present⟩ | ⟨created, -⟩
      · rw [absent] at present
        contradiction
      · exact created

/-- Fails on what is not a string, and puts a text after what is. -/
def suffix : Edit Nat := fun d n =>
  match d with
  | .string text => (.ok (.string (text ++ "-x")), n + 1)
  | _ => (.error (.invalidPath "not a string"), n)

/-- The first element gets its suffix. The second has no string to put one after. -/
theorem listObject_refused : ∃ reached, ab.edit true [suffix] listObject 0 =
      (.stopped reached (.atField "a.b" (.invalidPath "not a string")), 1) ∧
    ∃ place visits between, Leaf true ab (.map listObject) place ∧
      Walked [suffix] true ab listObject (Before · place) visits 0 between ∧
      ∀ v ∈ visits, (Document.map reached).at? v.place = some v.after := by
  obtain ⟨reached, ran⟩ : ∃ reached, ab.edit true [suffix] listObject 0 =
      (.stopped reached (.atField "a.b" (.invalidPath "not a string")), 1) := ⟨_, rfl⟩
  obtain ⟨-, place, visits, between, leaf, walked, -, stored, -⟩ := edit_refused listObject_sorted ran
  exact ⟨reached, ran, place, visits, between, leaf, walked, stored⟩

/-- In an empty map the field that is created for a function that fails stays. -/
theorem refused_field_created : ∃ reached, FieldPath.edit ["a"] true [suffix] [] 0 =
      (.stopped reached (.atField "a" (.invalidPath "not a string")), 0) ∧
    (Document.map []).at? [.key "a"] = none ∧ (Document.map reached).at? [.key "a"] = some (.map []) :=
  ⟨[("a", .map [])], rfl, rfl, rfl⟩

end FieldPath

end KubeOverlay
