import KubeOverlay.Proofs.Assembly
/-!
# What an overlay leaves

Patches are merged in key order. An overlay succeeds exactly if every patch has a target and is merged onto
it; otherwise it is stopped at the first patch in key order that is refused. The patches ahead of that one
are merged then, and everything else is as it was (`Pass.overlay_outcomes`).
-/
namespace KubeOverlay.Pass

variable {patches c c' c'' : Collection} {merger : Merger} {id : Identity} {patch r r' : Resource}
  {e e' : BuildError} {ahead : Identity → Prop}

/-! ## One patch -/

/-- A patch is merged onto the object under its key. Whether that one is generated stays as it is. -/
def Merges (merger : Merger) (c : Collection) (id : Identity) (patch r' : Resource) : Prop :=
  ∃ base object, c.find? id = some base ∧ merger id.type base.object patch.object = .ok object ∧
    r' = { base with object }

/-- Why a patch is refused: there is nothing under its key, or it cannot be merged onto what there is. -/
inductive Refuses (merger : Merger) (c : Collection) (id : Identity) (patch : Resource) : BuildError → Prop where
  | noTarget (absent : c.find? id = none) : Refuses merger c id patch (.patchTargetNotFound id)
  | failed {base : Resource} {e : BuildError} (held : c.find? id = some base)
    (failed : merger id.type base.object patch.object = .error e) : Refuses merger c id patch (.inResource id e)

theorem Merges.unique (left : Merges merger c id patch r) (right : Merges merger c id patch r') : r = r' := by
  obtain ⟨base, object, held, outcome, rfl⟩ := left
  obtain ⟨_, _, held', outcome', rfl⟩ := right
  cases held.symm.trans held'
  cases outcome.symm.trans outcome'
  rfl

theorem Merges.not_refuses (merges : Merges merger c id patch r') : ¬ Refuses merger c id patch e := by
  obtain ⟨base, object, held, outcome, -⟩ := merges
  rintro (absent | ⟨held', failed⟩)
  · cases held.symm.trans absent
  · cases held.symm.trans held'
    cases outcome.symm.trans failed

theorem Refuses.unique (left : Refuses merger c id patch e) (right : Refuses merger c id patch e') : e = e' := by
  rcases left with absent | ⟨held, failed⟩ <;> rcases right with absent' | ⟨held', failed'⟩
  · rfl
  · cases absent.symm.trans held'
  · cases held.symm.trans absent'
  · cases held.symm.trans held'
    cases failed.symm.trans failed'
    rfl

/-- A patch that is refused has changed nothing. -/
theorem applyPatch_eq_stopped {entry : Entry} :
    applyPatch merger entry c = .stopped c' e ↔ c' = c ∧ Refuses merger c entry.1 entry.2 e := by
  rw [applyPatch]
  constructor
  · intro stopped
    split at stopped
    · next absent =>
      cases stopped
      exact ⟨rfl, .noTarget absent⟩
    · next base held =>
      split at stopped
      · simp [Progress.stopped, Progress.done] at stopped
      · next failed =>
        cases stopped
        exact ⟨rfl, .failed held failed⟩
  · rintro ⟨rfl, absent | ⟨held, failed⟩⟩
    · rw [absent]
    · simp only [held, failed]

/-- A patch is put under a key that is there, for a resource of the same origin. -/
theorem applyPatch_origins (entry : Entry) (c : Collection) :
    (applyPatch merger entry c).reached.origins = c.origins := by
  rw [applyPatch]
  split
  · rfl
  · next base held =>
    split
    · next object _ =>
      have ascending : Ordered.Ascending c.origins := List.pairwise_map.mpr c.ascending
      have stored : Ordered.find? entry.1 c.origins = some base.generated := by
        rw [Collection.origins, Ordered.find?_map entry.1 Resource.generated]
        exact congrArg (Option.map Resource.generated) held
      exact (Ordered.map_insert entry.1 Resource.generated c.entries { base with object }).trans
        (Ordered.insert_of_find? ascending stored)
    · rfl

/-! ## All patches -/

/-- The patches ahead of somewhere are merged, and everything else is as it was. -/
structure Overlaid (patches : Collection) (merger : Merger) (ahead : Identity → Prop) (c c' : Collection) :
    Prop where
  origins : c'.origins = c.origins
  merged : ∀ id patch, patches.find? id = some patch → ahead id →
    ∃ r', Merges merger c id patch r' ∧ c'.find? id = some r'
  kept : ∀ id, patches.find? id = none ∨ ¬ ahead id → c'.find? id = c.find? id

theorem Overlaid.unique (left : Overlaid patches merger ahead c c') (right : Overlaid patches merger ahead c c'') :
    c' = c'' := by
  refine Collection.eq_of_find? fun id => ?_
  by_cases isAhead : ahead id
  · cases found : patches.find? id with
    | none => rw [left.kept id (.inl found), right.kept id (.inl found)]
    | some patch =>
      obtain ⟨r', merges, held⟩ := left.merged id patch found isAhead
      obtain ⟨r'', merges', held'⟩ := right.merged id patch found isAhead
      rw [held, held', merges.unique merges']
  · rw [left.kept id (.inr isAhead), right.kept id (.inr isAhead)]

/-- The patches of a part of the overlay, merged one after the other without an error. -/
theorem overlaid_of_sequence {part : List Entry} (ascending : Ordered.Ascending part)
    (isPart : ∀ id patch, Ordered.find? id part = some patch ↔ patches.find? id = some patch ∧ ahead id)
    (ran : Progress.sequence (applyPatch merger) part c = .done c') : Overlaid patches merger ahead c c' where
  origins := by
    have same : (Progress.sequence (applyPatch merger) part c).reached.origins = c.origins :=
      Progress.sequence_preserves (P := fun c' => c'.origins = c.origins)
        (fun entry _ between kept => (applyPatch_origins entry between).trans kept) rfl
    rwa [ran] at same
  merged id patch found isAhead := by
    obtain ⟨base, object, held, outcome, put⟩ :=
      (Collection.sequence_applyPatch ascending ran id).2 patch ((isPart id patch).mpr ⟨found, isAhead⟩)
    exact ⟨_, ⟨base, object, held, outcome, rfl⟩, put⟩
  kept id outside := by
    refine (Collection.sequence_applyPatch ascending ran id).1 ?_
    by_contra inside
    obtain ⟨patch, found⟩ := Option.ne_none_iff_exists'.mp inside
    obtain ⟨stored, isAhead⟩ := (isPart id patch).mp found
    rcases outside with absent | behind
    · cases absent.symm.trans stored
    · exact behind isAhead

theorem overlaid_of_done (ran : (overlay patches merger).run c = .done c') :
    Overlaid patches merger (fun _ => True) c c' :=
  overlaid_of_sequence patches.ascending (fun _ _ => (and_iff_left trivial).symm) ran

/-- An overlay that is stopped has merged the patches ahead of the one that is refused. -/
theorem overlaid_of_stopped (ran : (overlay patches merger).run c = .stopped c' e) :
    ∃ id patch, patches.find? id = some patch ∧ Refuses merger c id patch e ∧
      Overlaid patches merger (compare · id = .lt) c c' := by
  obtain ⟨before, entry, after, between, split, merging, stopped⟩ := Progress.sequence_eq_stopped.mp ran
  obtain ⟨rfl, refuses⟩ := applyPatch_eq_stopped.mp stopped
  have ascending : Ordered.Ascending (before ++ entry :: after) := split ▸ patches.ascending
  have overlaid : Overlaid patches merger (compare · entry.1 = .lt) c c' := by
    refine overlaid_of_sequence (List.pairwise_append.mp ascending).1 (fun id patch => ?_) merging
    rw [Collection.find?, split]
    exact Ordered.find?_before ascending
  -- What is under the key of the refused patch is there from the start.
  have target : c'.find? entry.1 = c.find? entry.1 :=
    overlaid.kept entry.1 (.inr (by simp [Std.ReflCmp.compare_self]))
  refine ⟨entry.1, entry.2, Collection.mem_entries.mp (by rw [split]; simp), ?_, overlaid⟩
  rcases refuses with absent | ⟨held, failed⟩
  · exact .noTarget (target.symm.trans absent)
  · exact .failed (target.symm.trans held) failed

/-- An overlay succeeds exactly if every patch has a target and is merged, and then each is merged onto what
is under its key and nothing else changes. Otherwise it is stopped for the first patch in key order that is
refused. The patches under smaller keys are merged then, and all else is as it was, also the target of the one
that is refused. -/
theorem overlay_outcomes (patches c : Collection) (merger : Merger) :
    (((overlay patches merger).run c).error? = none ↔
      ∀ id patch, patches.find? id = some patch → ∃ r', Merges merger c id patch r') ∧
    (∀ c', (overlay patches merger).run c = .done c' ↔ Overlaid patches merger (fun _ => True) c c') ∧
    ∀ c' e, (overlay patches merger).run c = .stopped c' e ↔ ∃ id patch, patches.find? id = some patch ∧
      Refuses merger c id patch e ∧ Overlaid patches merger (compare · id = .lt) c c' := by
  have merges_all {c' : Collection} (overlaid : Overlaid patches merger (fun _ => True) c c') (id : Identity)
      (patch : Resource) (found : patches.find? id = some patch) : ∃ r', Merges merger c id patch r' :=
    (overlaid.merged id patch found trivial).imp fun _ both => both.1
  rcases outcome : (overlay patches merger).run c with ⟨reached, error?⟩
  cases error? with
  | none =>
    have overlaid := overlaid_of_done outcome
    refine ⟨⟨fun _ => merges_all overlaid, fun _ => rfl⟩, fun c' => ⟨fun done => ?_, fun other => ?_⟩,
      fun c' e => ⟨fun stopped => ?_, ?_⟩⟩
    · exact (Progress.mk.inj done).1 ▸ overlaid
    · exact congrArg Progress.done (overlaid.unique other)
    · cases stopped
    · rintro ⟨id, patch, found, refuses, -⟩
      obtain ⟨r', merges⟩ := merges_all overlaid id patch found
      exact absurd refuses merges.not_refuses
  | some e =>
    obtain ⟨id, patch, found, refuses, overlaid⟩ := overlaid_of_stopped outcome
    have impossible (all : ∀ id patch, patches.find? id = some patch → ∃ r', Merges merger c id patch r') : False := by
      obtain ⟨r', merges⟩ := all id patch found
      exact merges.not_refuses refuses
    refine ⟨⟨fun done => ?_, fun all => (impossible all).elim⟩, fun c' => ⟨fun done => ?_, fun other => ?_⟩,
      fun c' e' => ⟨fun stopped => ?_, ?_⟩⟩
    · cases done
    · cases done
    · exact (impossible (merges_all other)).elim
    · cases stopped
      exact ⟨id, patch, found, refuses, overlaid⟩
    · rintro ⟨id', patch', found', refuses', overlaid'⟩
      -- The smaller one of two refused keys would be among the merged ones of the other.
      have same : id = id' := by
        cases order : compare id id' with
        | lt =>
          obtain ⟨_, merges, -⟩ := overlaid'.merged id patch found order
          exact absurd refuses merges.not_refuses
        | eq => exact Identity.eq_of_compare order
        | gt =>
          obtain ⟨_, merges, -⟩ := overlaid.merged id' patch' found' (Std.OrientedCmp.lt_of_gt order)
          exact absurd refuses' merges.not_refuses
      subst same
      cases found.symm.trans found'
      rw [refuses.unique refuses', overlaid.unique overlaid']
      rfl

/-! ## A patch without a target -/

def configId (name : String) : Identity := ⟨⟨"", "v1", "ConfigMap"⟩, name⟩

def configObject (value : String) : Document := .map [("data", .map [("key", .string value)])]

/-- One ConfigMap, of a generator. -/
def oneConfig : Collection where
  entries := [(configId "a", ⟨configObject "old", true⟩)]
  ascending := List.pairwise_singleton ..

/-- Patches of two ConfigMaps. -/
def twoPatches : Collection where
  entries := [(configId "a", ⟨configObject "new", false⟩), (configId "b", ⟨configObject "new", false⟩)]
  ascending := by
    rw [Ordered.Ascending, List.pairwise_pair]
    decide

/-- The first patch is merged, the second has no target. -/
theorem twoPatches_outcome : ∃ c' r', (overlay twoPatches Patch.merge).run oneConfig =
      .stopped c' (.patchTargetNotFound (configId "b")) ∧
    Merges Patch.merge oneConfig (configId "a") ⟨configObject "new", false⟩ r' ∧
    c'.find? (configId "a") = some r' := by
  have failed : ((overlay twoPatches Patch.merge).run oneConfig).error? = some (.patchTargetNotFound (configId "b")) := by
    rfl
  have ran : (overlay twoPatches Patch.merge).run oneConfig = .stopped _ (.patchTargetNotFound (configId "b")) :=
    congrArg (Progress.mk _) failed
  obtain ⟨id, patch, -, refuses, overlaid⟩ := ((overlay_outcomes twoPatches oneConfig Patch.merge).2.2 _ _).mp ran
  have ahead : compare (configId "a") id = .lt := by
    cases refuses
    decide
  obtain ⟨r', merges, held⟩ := overlaid.merged (configId "a") ⟨configObject "new", false⟩ rfl ahead
  exact ⟨_, r', ran, merges, held⟩

end KubeOverlay.Pass
