import KubeOverlay.Manifest.Read
import KubeOverlay.Proofs.KeyOrder
/-!
# Unknown fields of manifests

Reading follows aliases on a budget, and with a larger one it gives the same (`Yaml.Reading.Matches`). At
the top of a manifest unknown fields are refused. In `metadata` and in the entries of generators they are
passed over: a text with more of them there reads as the same manifest
(`Manifest.unknown_fields_outcomes`).
-/
namespace KubeOverlay

namespace Yaml.Reading

variable {α β γ δ : Type} {R : α → β → Prop} {Q : γ → δ → Prop}

/-! ## Readings that match -/

/-- What the first reading gives is related to what the second gives, which follows as many aliases and
leaves the rest of its budget, whatever that is. -/
def Matches (R : α → β → Prop) (x : Reading α) (y : Reading β) : Prop :=
  ∀ s a s', x s = some (a, s') → ∃ b used, R a b ∧ s'.anchors = s.anchors ∧ s.budget = s'.budget + used ∧
    ∀ left, y ⟨s.anchors, left + used⟩ = some (b, ⟨s.anchors, left⟩)

/-- A reading gives the same with a larger budget. -/
abbrev Steady (x : Reading α) : Prop := Matches Eq x x

theorem matches_pure {a : α} {b : β} (related : R a b) : Matches R (pure a) (pure b) := by
  rintro s _ s' ran
  cases ran
  exact ⟨b, 0, related, rfl, rfl, fun left => rfl⟩

theorem matches_failure {y : Reading β} : Matches R failure y :=
  fun _ _ _ ran => absurd ran failure_ne_some

theorem Matches.bind {x : Reading α} {y : Reading β} {f : α → Reading γ} {g : β → Reading δ}
    (first : Matches R x y) (later : ∀ a b, R a b → Matches Q (f a) (g b)) :
    Matches Q (x >>= f) (y >>= g) := by
  rintro s c s'' ran
  obtain ⟨a, s', ranFirst, ranLater⟩ := bind_eq_some.mp ran
  obtain ⟨b, used, related, anchors, budget, again⟩ := first s a s' ranFirst
  obtain ⟨d, used', related', anchors', budget', again'⟩ := later a b related s' c s'' ranLater
  refine ⟨d, used + used', related', anchors'.trans anchors, by omega, fun left => ?_⟩
  have split : left + (used + used') = (left + used') + used := by omega
  rw [split]
  refine bind_eq_some.mpr ⟨b, _, again (left + used'), ?_⟩
  rw [← anchors]
  exact again' left

/-- Both readings go on with the same. -/
theorem Matches.next {x y : Reading α} {f g : α → Reading γ} {Q : γ → γ → Prop} (first : Matches Eq x y)
    (later : ∀ a, Matches Q (f a) (g a)) : Matches Q (x >>= f) (y >>= g) :=
  first.bind fun a _ same => same ▸ later a

theorem matches_mapM {f : α → Reading γ} {g : β → Reading δ} {l : List α} {l' : List β}
    (each : List.Forall₂ (fun a b => Matches Q (f a) (g b)) l l') :
    Matches (List.Forall₂ Q) (l.mapM f) (l'.mapM g) := by
  induction each with
  | nil => exact matches_pure .nil
  | cons first _ ih =>
    rw [List.mapM_cons, List.mapM_cons]
    exact first.bind fun c d related => ih.bind fun cs ds others => matches_pure (.cons related others)

theorem steady_mapM {f : α → Reading γ} (each : ∀ a, Steady (f a)) (l : List α) : Steady (l.mapM f) := by
  have all := matches_mapM (List.forall₂_same.mpr fun a _ => each a : List.Forall₂ _ l l)
  rwa [List.forall₂_eq_eq_eq] at all

theorem follow_alias {number : Nat} {s : Aliases} {r : Node × Aliases} :
    follow (.alias number) s = some r ↔
      s.budget ≠ 0 ∧ ∃ n, s.find? number = some n ∧ r = (n, ⟨s.anchors, s.budget - 1⟩) := by
  obtain ⟨target, s'⟩ := r
  constructor
  · intro followed
    obtain ⟨aliases, t, got, rest⟩ := bind_eq_some.mp followed
    cases got
    split at rest
    · exact absurd rest failure_ne_some
    · next left =>
      obtain ⟨_, u, stored, last⟩ := bind_eq_some.mp rest
      cases stored
      cases found : s.find? number with
      | none =>
        simp only [found] at last
        exact absurd last failure_ne_some
      | some n =>
        simp only [found] at last
        cases last
        exact ⟨by simpa using left, target, rfl, rfl⟩
  · rintro ⟨left, n, found, same⟩
    cases same
    refine bind_eq_some.mpr ⟨s, s, rfl, ?_⟩
    rw [if_neg (by simpa using left)]
    refine bind_eq_some.mpr ⟨(), _, rfl, ?_⟩
    rw [found]
    rfl

theorem steady_follow (n : Node) : Steady (follow n) := by
  cases n with
  | «alias» number =>
    rintro s target s' ran
    obtain ⟨some, n, found, same⟩ := follow_alias.mp ran
    obtain ⟨rfl, rfl⟩ := Prod.mk.inj same
    refine ⟨target, 1, rfl, rfl, by dsimp only; omega, fun left => follow_alias.mpr ?_⟩
    exact ⟨Nat.succ_ne_zero left, target, found, rfl⟩
  | scalar => exact matches_pure rfl
  | sequence => exact matches_pure rfl
  | mapping => exact matches_pure rfl

theorem steady_scalarText (n : Node) : Steady (scalarText n) := by
  refine (steady_follow n).next fun target => ?_
  split
  · exact matches_pure rfl
  · exact matches_failure

end Yaml.Reading

namespace Manifest

open Yaml Yaml.Reading

/-! ## Readings of fields are steady -/

theorem steady_mappingEntries (n : Yaml.Node) : Steady (mappingEntries n) := by
  refine (steady_follow n).next fun target => ?_
  split
  · exact matches_pure rfl
  · split
    · exact matches_pure rfl
    · exact matches_failure
  · exact matches_failure

/-- The key of a field, next to its value. -/
def keyed (e : Yaml.Node × Yaml.Node) : Reading (String × Yaml.Node) := do return (← scalarText e.1, e.2)

theorem steady_keyed (e : Yaml.Node × Yaml.Node) : Steady (keyed e) :=
  (steady_scalarText e.1).next fun _ => matches_pure rfl

/-- Fields of which the known ones do not come up twice. -/
def distinctFields (known : List String) (fields : List (String × Yaml.Node)) :
    Reading (List (String × Yaml.Node)) :=
  let used := (fields.map (·.1)).filter known.contains
  if used.eraseDups.length == used.length then return fields else failure

theorem knownFields_eq (known : List String) (n : Yaml.Node) :
    knownFields known n = mappingEntries n >>= fun entries => entries.mapM keyed >>= distinctFields known := rfl

theorem knownFields_mapping (known : List String) (p : Properties) (entries : List (Yaml.Node × Yaml.Node)) :
    knownFields known (.mapping p entries) = entries.mapM keyed >>= distinctFields known := rfl

theorem steady_distinctFields (known : List String) (fields : List (String × Yaml.Node)) :
    Steady (distinctFields known fields) := by
  rw [distinctFields]
  split
  · exact matches_pure rfl
  · exact matches_failure

theorem steady_knownFields (known : List String) (n : Yaml.Node) : Steady (knownFields known n) := by
  rw [knownFields_eq]
  exact (steady_mappingEntries n).next fun entries => (steady_mapM steady_keyed entries).next
    fun fields => steady_distinctFields known fields

theorem steady_field {α : Type} {read : Yaml.Node → Reading α} {absent : Reading α}
    (fields : List (String × Yaml.Node))
    (key : String) (each : ∀ n, Steady (read n)) (missing : Steady absent) :
    Steady (field fields key read absent) := by
  rw [field]
  split
  · exact each _
  · exact missing

theorem steady_optionalText (n : Yaml.Node) : Steady (optionalText n) := by
  refine (steady_follow n).next fun target => ?_
  split
  · split
    · exact matches_pure rfl
    · split
      · split
        · exact matches_pure rfl
        · split
          · exact matches_pure rfl
          · exact Matches.next matches_failure fun _ => matches_pure rfl
      · exact matches_pure rfl
  · exact matches_failure

theorem steady_listOf {α : Type} {read : Yaml.Node → Reading α} (each : ∀ n, Steady (read n)) (n : Yaml.Node) :
    Steady (listOf read n) := by
  refine (steady_follow n).next fun target => ?_
  split
  · exact steady_mapM each _
  · split
    · exact matches_pure rfl
    · exact matches_failure
  · exact matches_failure

theorem steady_textMap (n : Yaml.Node) : Steady (textMap n) := by
  refine (steady_mappingEntries n).next fun entries => Matches.next ?_ fun _ => matches_pure rfl
  exact steady_mapM (fun e => (steady_scalarText e.1).next fun _ => (steady_scalarText e.2).next
    fun _ => matches_pure rfl) entries

theorem steady_someText (n : Yaml.Node) : Steady (some <$> scalarText n) := by
  rw [← bind_pure_comp]
  exact (steady_scalarText n).next fun _ => matches_pure rfl

theorem metadataName_mapping (p : Properties) (entries : List (Yaml.Node × Yaml.Node)) :
    metadataName (.mapping p entries) = knownFields ["name"] (.mapping p entries) >>= fun fields =>
      field fields "name" (some <$> scalarText ·) failure := rfl

theorem steady_metadataName (n : Yaml.Node) : Steady (metadataName n) := by
  refine (steady_follow n).next fun target => ?_
  split
  · exact (steady_knownFields _ _).next fun fields => steady_field fields "name" steady_someText matches_failure
  · refine (steady_optionalText _).next fun text => ?_
    split
    · exact matches_pure rfl
    · exact matches_failure

theorem steady_sourceValue (depth : Nat) (n : Yaml.Node) : Steady (sourceValue depth n) := by
  induction depth generalizing n with
  | zero =>
    rw [sourceValue]
    refine (steady_follow n).next fun target => ?_
    cases target with
    | scalar p text plain => dsimp only; split <;> first | exact matches_pure rfl | exact matches_failure
    | _ => exact matches_failure
  | succ depth ih =>
    rw [sourceValue]
    refine (steady_follow n).next fun target => ?_
    cases target with
    | scalar p text plain => dsimp only; split <;> first | exact matches_pure rfl | exact matches_failure
    | sequence p items =>
      dsimp only
      split
      · exact matches_failure
      · exact (steady_mapM ih items).next fun _ => matches_pure rfl
    | mapping p entries =>
      dsimp only
      split
      · exact matches_failure
      · refine (steady_mapM (fun e => ?_) entries).next fun _ => matches_pure rfl
        exact (ih e.1).next fun _ => ih e.2
    | «alias» number => exact matches_failure

theorem steady_sources (values : List (String × SourceValue)) : Steady (sources values) := by
  rw [sources]
  split
  · exact matches_pure rfl
  · exact matches_failure

theorem steady_generatorFields (typed : List String) (n : Yaml.Node) : Steady (generatorFields typed n) := by
  refine (steady_knownFields _ n).next fun fields => Matches.next ?_ fun _ => matches_pure rfl
  exact steady_mapM (fun f => (steady_sourceValue _ f.2).next fun _ => matches_pure rfl) _

theorem steady_configMapGenerator (n : Yaml.Node) : Steady (configMapGenerator n) := by
  refine (steady_generatorFields _ n).next fun found => ?_
  refine (steady_field found.1 "name" steady_scalarText matches_failure).next fun _ => ?_
  exact (steady_sources found.2).next fun _ => matches_pure rfl

theorem steady_secretGenerator (n : Yaml.Node) : Steady (secretGenerator n) := by
  refine (steady_generatorFields _ n).next fun found => ?_
  refine (steady_field found.1 "name" steady_scalarText matches_failure).next fun _ => ?_
  refine (steady_field found.1 "type" steady_optionalText (matches_pure rfl)).next fun _ => ?_
  exact (steady_sources found.2).next fun _ => matches_pure rfl

/-! ## One more field -/

/-- A list with one more element. -/
def Extra {α : Type} (more : α) (l l' : List α) : Prop :=
  ∃ before after, l = before ++ after ∧ l' = before ++ more :: after

theorem matches_mapM_extra {α γ : Type} {f : α → Reading γ} (each : ∀ a, Steady (f a)) {e : α} {c : γ}
    (reads : f e = pure c) (before after : List α) :
    Matches (Extra c) ((before ++ after).mapM f) ((before ++ e :: after).mapM f) := by
  rw [List.mapM_append, List.mapM_append, List.mapM_cons, reads]
  simp only [pure_bind, bind_assoc]
  exact (steady_mapM each before).next fun b => (steady_mapM each after).next
    fun a => matches_pure ⟨b, a, rfl, rfl⟩

theorem extra_filter {α : Type} {more : α} {l l' : List α} (extra : Extra more l l') (p : α → Bool) :
    if p more then Extra more (l.filter p) (l'.filter p) else l'.filter p = l.filter p := by
  obtain ⟨before, after, rfl, rfl⟩ := extra
  split
  · next holds => exact ⟨before.filter p, after.filter p, by simp, by simp [holds]⟩
  · next fails => simp [fails]

theorem find?_extra {α : Type} {more : String × α} {l l' : List (String × α)} (extra : Extra more l l')
    {key : String} (apart : more.1 ≠ key) : l'.find? (·.1 == key) = l.find? (·.1 == key) := by
  obtain ⟨before, after, rfl, rfl⟩ := extra
  rw [List.find?_append, List.find?_append, List.find?_cons_of_neg (by simpa using apart)]

theorem field_extra {α : Type} {more : String × Yaml.Node} {fields fields' : List (String × Yaml.Node)}
    (extra : Extra more fields fields') {key : String} (apart : more.1 ≠ key) (read : Yaml.Node → Reading α)
    (absent : Reading α) : field fields' key read absent = field fields key read absent := by
  rw [field, field, find?_extra extra apart]

theorem distinctFields_extra {known : List String} {more : String × Yaml.Node}
    {fields fields' : List (String × Yaml.Node)} (extra : Extra more fields fields') (unknown : more.1 ∉ known) :
    Matches (Extra more) (distinctFields known fields) (distinctFields known fields') := by
  have same : (fields'.map (·.1)).filter known.contains = (fields.map (·.1)).filter known.contains := by
    obtain ⟨before, after, rfl, rfl⟩ := extra
    simp [unknown]
  rw [distinctFields, distinctFields, same]
  split
  · exact matches_pure extra
  · exact matches_failure

/-- A mapping without an anchor that has one more field, under an unknown key. -/
structure AddsField (known : List String) (key : String) (value n n' : Yaml.Node) : Prop where
  unknown : key ∉ known
  nodes : ∃ p q plain before after, p.anchor = none ∧ q.anchor = none ∧ n = .mapping p (before ++ after) ∧
    n' = .mapping p (before ++ (.scalar q key plain, value) :: after)

theorem knownFields_extra {known : List String} {key : String} {value n n' : Yaml.Node}
    (adds : AddsField known key value n n') :
    Matches (Extra (key, value)) (knownFields known n) (knownFields known n') := by
  obtain ⟨p, q, plain, before, after, -, -, rfl, rfl⟩ := adds.nodes
  rw [knownFields_mapping, knownFields_mapping]
  exact (matches_mapM_extra steady_keyed rfl before after).bind fun fields fields' extra =>
    distinctFields_extra extra adds.unknown

theorem metadataName_extra {key : String} {value n n' : Yaml.Node} (adds : AddsField ["name"] key value n n') :
    Matches Eq (metadataName n) (metadataName n') := by
  have fields := knownFields_extra adds
  have apart : key ≠ "name" := fun same => adds.unknown (same ▸ List.mem_singleton_self _)
  obtain ⟨p, q, plain, before, after, -, -, rfl, rfl⟩ := adds.nodes
  rw [metadataName_mapping, metadataName_mapping]
  refine Matches.bind fields fun found found' extra => ?_
  rw [field_extra extra apart]
  exact steady_field found "name" steady_someText matches_failure

/-- The value of a field of a generator that has no type of its own. -/
def valued (f : String × Yaml.Node) : Reading (String × SourceValue) := do
  return (f.1, ← sourceValue (maxDepth - 3) f.2)

theorem generatorFields_eq (typed : List String) (n : Yaml.Node) : generatorFields typed n =
    knownFields (typed ++ ["literals", "files", "env"]) n >>= fun fields =>
      (fields.filter fun f => !typed.contains f.1).mapM valued >>= fun values =>
        pure (fields.filter fun f => typed.contains f.1, values) := by
  rw [generatorFields]
  refine congrArg _ (funext fun fields => ?_)
  rw [List.partition_eq_filter_filter]
  rfl

/-- The value of a field can be read without an alias. -/
def Unaliased (value : Yaml.Node) : Prop := ∃ v, sourceValue (maxDepth - 3) value = pure v

theorem generatorFields_extra (typed : List String) {key : String} {value n n' : Yaml.Node}
    (adds : AddsField (typed ++ ["literals", "files", "env"]) key value n n') {v : SourceValue}
    (reads : sourceValue (maxDepth - 3) value = pure v) :
    Matches (fun found found' => found'.1 = found.1 ∧ Extra (key, v) found.2 found'.2)
      (generatorFields typed n) (generatorFields typed n') := by
  have untyped : typed.contains key = false := by
    have unknown := adds.unknown
    simp_all
  have valuedKey : valued (key, value) = pure (key, v) := by
    rw [valued, reads]
    rfl
  rw [generatorFields_eq, generatorFields_eq]
  refine (knownFields_extra adds).bind fun fields fields' extra => ?_
  have own := extra_filter extra fun f => typed.contains f.1
  have others := extra_filter extra fun f => !typed.contains f.1
  rw [untyped] at own others
  obtain ⟨before, after, here, there⟩ := others
  rw [here, there, own]
  refine (matches_mapM_extra (fun f => ?_) valuedKey before after).bind fun values values' more =>
    matches_pure ⟨rfl, more⟩
  exact (steady_sourceValue _ f.2).next fun _ => matches_pure rfl

theorem sources_extra {key : String} {v : SourceValue} {values values' : List (String × SourceValue)}
    (extra : Extra (key, v) values values') (unknown : key ∉ ["literals", "files", "env"]) :
    sources values' = sources values := by
  simp only [List.mem_cons, List.not_mem_nil, or_false, not_or] at unknown
  obtain ⟨literals, files, env⟩ := unknown
  rw [sources, sources, sourcesOf, sourcesOf]
  dsimp only
  rw [find?_extra extra literals, find?_extra extra files, find?_extra extra env]

theorem configMapGenerator_extra {key : String} {value n n' : Yaml.Node}
    (adds : AddsField ["name", "literals", "files", "env"] key value n n') (unaliased : Unaliased value) :
    Matches Eq (configMapGenerator n) (configMapGenerator n') := by
  obtain ⟨v, reads⟩ := unaliased
  have unknown : key ∉ ["literals", "files", "env"] := fun known => adds.unknown (List.mem_cons_of_mem _ known)
  refine (generatorFields_extra ["name"] adds reads).bind fun found found' more => ?_
  obtain ⟨own, extra⟩ := more
  dsimp only
  rw [own, sources_extra extra unknown]
  refine (steady_field found.1 "name" steady_scalarText matches_failure).next fun _ => ?_
  exact (steady_sources found.2).next fun _ => matches_pure rfl

theorem secretGenerator_extra {key : String} {value n n' : Yaml.Node}
    (adds : AddsField ["name", "type", "literals", "files", "env"] key value n n')
    (unaliased : Unaliased value) :
    Matches Eq (secretGenerator n) (secretGenerator n') := by
  obtain ⟨v, reads⟩ := unaliased
  have unknown : key ∉ ["literals", "files", "env"] := fun known =>
    adds.unknown (List.mem_cons_of_mem _ (List.mem_cons_of_mem _ known))
  have apart : key ≠ "type" := fun same => adds.unknown (same ▸ List.mem_cons_of_mem _ List.mem_cons_self)
  refine (generatorFields_extra ["name", "type"] adds reads).bind fun found found' more => ?_
  obtain ⟨own, extra⟩ := more
  dsimp only
  rw [own, sources_extra extra unknown]
  refine (steady_field found.1 "name" steady_scalarText matches_failure).next fun _ => ?_
  refine (steady_field found.1 "type" steady_optionalText (matches_pure rfl)).next fun _ => ?_
  exact (steady_sources found.2).next fun _ => matches_pure rfl

/-! ## Other elements and values -/

/-- A mapping without an anchor in which a field has another value. -/
structure ChangesField (key : String) (v v' n n' : Yaml.Node) : Prop where
  nodes : ∃ p q plain before after, p.anchor = none ∧
    n = .mapping p (before ++ (.scalar q key plain, v) :: after) ∧
    n' = .mapping p (before ++ (.scalar q key plain, v') :: after)

/-- A list without an anchor that has another element. -/
structure ChangesItem (i i' v v' : Yaml.Node) : Prop where
  nodes : ∃ p before after, p.anchor = none ∧ v = .sequence p (before ++ i :: after) ∧
    v' = .sequence p (before ++ i' :: after)

/-- One element of a list is read like another one. -/
theorem listOf_changed {α : Type} {read : Yaml.Node → Reading α} {i i' v v' : Yaml.Node}
    (each : ∀ n, Steady (read n))
    (alike : Matches Eq (read i) (read i')) (item : ChangesItem i i' v v') :
    Matches Eq (listOf read v) (listOf read v') := by
  obtain ⟨p, before, after, -, rfl, rfl⟩ := item.nodes
  have same (l : List Yaml.Node) : List.Forall₂ (fun m m' => Matches Eq (read m) (read m')) l l :=
    List.forall₂_same.mpr fun m _ => each m
  have all := matches_mapM (List.rel_append (same before) (.cons alike (same after)))
  rwa [List.forall₂_eq_eq_eq] at all

/-- The same field, but for one whose value has changed. -/
def Changed (key : String) (v v' : Yaml.Node) (f f' : String × Yaml.Node) : Prop :=
  f'.1 = f.1 ∧ (f'.2 = f.2 ∨ f = (key, v) ∧ f'.2 = v')

theorem changed_keys {key : String} {v v' : Yaml.Node} {fields fields' : List (String × Yaml.Node)}
    (changed : List.Forall₂ (Changed key v v') fields fields') : fields'.map (·.1) = fields.map (·.1) := by
  rw [← List.forall₂_eq_eq_eq, List.forall₂_map_left_iff, List.forall₂_map_right_iff]
  exact changed.flip.imp fun _ _ same => same.1

theorem field_changed {α : Type} {read : Yaml.Node → Reading α} {absent : Reading α} {key name : String}
    {v v' : Yaml.Node} {fields fields' : List (String × Yaml.Node)}
    (changed : List.Forall₂ (Changed key v v') fields fields') (each : ∀ n, Steady (read n))
    (missing : Steady absent) (here : key = name → Matches Eq (read v) (read v')) :
    Matches Eq (field fields name read absent) (field fields' name read absent) := by
  rw [field, field]
  induction changed with
  | nil => exact missing
  | @cons f f' rest rest' first _ ih =>
    obtain ⟨sameKey, value⟩ := first
    by_cases found : f.1 = name
    · rw [List.find?_cons_of_pos (by simpa using found),
        List.find?_cons_of_pos (by simpa [sameKey] using found)]
      rcases value with same | ⟨rfl, same⟩
      · dsimp only
        rw [same]
        exact each f.2
      · dsimp only
        rw [same]
        exact here found
    · rwa [List.find?_cons_of_neg (by simpa using found),
        List.find?_cons_of_neg (by simpa [sameKey] using found)]

theorem knownFields_changed {known : List String} {key : String} {v v' n n' : Yaml.Node}
    (here : ChangesField key v v' n n') :
    Matches (List.Forall₂ (Changed key v v')) (knownFields known n) (knownFields known n') := by
  obtain ⟨p, q, plain, before, after, -, rfl, rfl⟩ := here.nodes
  have refl (f : String × Yaml.Node) : Changed key v v' f f := ⟨rfl, .inl rfl⟩
  have steady (e : Yaml.Node × Yaml.Node) : Matches (Changed key v v') (keyed e) (keyed e) :=
    (steady_scalarText e.1).next fun _ => matches_pure (refl _)
  have each (l : List (Yaml.Node × Yaml.Node)) :
      List.Forall₂ (fun e e' => Matches (Changed key v v') (keyed e) (keyed e')) l l :=
    List.forall₂_same.mpr fun e _ => steady e
  have here : Matches (Changed key v v') (keyed (.scalar q key plain, v)) (keyed (.scalar q key plain, v')) :=
    matches_pure ⟨rfl, .inr ⟨rfl, rfl⟩⟩
  rw [knownFields_mapping, knownFields_mapping]
  have all := matches_mapM (List.rel_append (each before) (.cons here (each after)))
  refine all.bind fun fields fields' changed => ?_
  rw [distinctFields, distinctFields, changed_keys changed]
  split
  · exact matches_pure changed
  · exact matches_failure

/-- The value of a field is read like another one, as far as it is a field in which there are others. -/
structure ReadAlike (key : String) (v v' : Yaml.Node) : Prop where
  nested : key ∈ ["metadata", "configMapGenerator", "secretGenerator"]
  metadata : key = "metadata" → Matches Eq (metadataName v) (metadataName v')
  configMaps : key = "configMapGenerator" →
    Matches Eq (listOf configMapGenerator v) (listOf configMapGenerator v')
  secrets : key = "secretGenerator" → Matches Eq (listOf secretGenerator v) (listOf secretGenerator v')

theorem ofNode_changed {key : String} {v v' n n' : Yaml.Node} (alike : ReadAlike key v v')
    (here : ChangesField key v v' n n') : Matches Eq (ofNode n) (ofNode n') := by
  rw [ofNode, ofNode]
  refine (knownFields_changed here).bind fun fields fields' changed => ?_
  have sameKeys : fields'.all (fieldNames.contains ·.1) = fields.all (fieldNames.contains ·.1) := by
    have keys := congrArg (·.all (fieldNames.contains ·)) (changed_keys changed)
    simp only [List.all_map] at keys
    exact keys
  have other {α : Type} {read : Yaml.Node → Reading α} {absent : Reading α} (name : String)
      (each : ∀ n, Steady (read n)) (missing : Steady absent)
      (flat : name ∉ ["metadata", "configMapGenerator", "secretGenerator"]) :
      Matches Eq (field fields name read absent) (field fields' name read absent) :=
    field_changed changed each missing fun same => absurd (same ▸ alike.nested) flat
  have texts := steady_listOf steady_scalarText
  rw [sameKeys]
  split
  · exact matches_failure
  refine (other "apiVersion" steady_optionalText (matches_pure rfl) (by decide)).next fun _ => ?_
  refine (other "kind" steady_optionalText (matches_pure rfl) (by decide)).next fun _ => ?_
  refine (field_changed changed steady_metadataName (matches_pure rfl) alike.metadata).next fun _ => ?_
  refine (other "namePrefix" steady_scalarText (matches_pure rfl) (by decide)).next fun _ => ?_
  refine (other "objectLabels" steady_textMap (matches_pure rfl) (by decide)).next fun _ => ?_
  refine (other "objectAnnotations" steady_textMap (matches_pure rfl) (by decide)).next fun _ => ?_
  refine (other "resources" texts (matches_pure rfl) (by decide)).next fun _ => ?_
  refine (other "patches" texts (matches_pure rfl) (by decide)).next fun _ => ?_
  refine (other "bases" texts (matches_pure rfl) (by decide)).next fun _ => ?_
  refine (field_changed changed (steady_listOf steady_configMapGenerator) (matches_pure rfl)
    alike.configMaps).next fun _ => ?_
  exact (field_changed changed (steady_listOf steady_secretGenerator) (matches_pure rfl)
    alike.secrets).next fun _ => matches_pure rfl

/-! ## Anchors and events -/

theorem anchoredEntries_append (before after : List (Yaml.Node × Yaml.Node)) :
    Yaml.Node.anchoredEntries (before ++ after) =
      Yaml.Node.anchoredEntries before ++ Yaml.Node.anchoredEntries after := by
  induction before with
  | nil => simp [Yaml.Node.anchoredEntries]
  | cons e rest ih => simp [Yaml.Node.anchoredEntries, ih]

theorem anchoredItems_append (before after : List Yaml.Node) :
    Yaml.Node.anchoredItems (before ++ after) =
      Yaml.Node.anchoredItems before ++ Yaml.Node.anchoredItems after := by
  induction before with
  | nil => simp [Yaml.Node.anchoredItems]
  | cons n rest ih => simp [Yaml.Node.anchoredItems, ih]

theorem eventsOfEntries_append (before after : List (Yaml.Node × Yaml.Node)) :
    Yaml.Node.eventsOfEntries (before ++ after) =
      Yaml.Node.eventsOfEntries before + Yaml.Node.eventsOfEntries after := by
  induction before with
  | nil => simp [Yaml.Node.eventsOfEntries]
  | cons e rest ih => simp [Yaml.Node.eventsOfEntries, ih, Nat.add_assoc]

theorem eventsOfItems_append (before after : List Yaml.Node) :
    Yaml.Node.eventsOfItems (before ++ after) =
      Yaml.Node.eventsOfItems before + Yaml.Node.eventsOfItems after := by
  induction before with
  | nil => simp [Yaml.Node.eventsOfItems]
  | cons n rest ih => simp [Yaml.Node.eventsOfItems, ih, Nat.add_assoc]

/-- A node has the same anchors as another one and at least as many events. -/
def Outgrows (n n' : Yaml.Node) : Prop :=
  n'.anchored = n.anchored ∧ n.events ≤ n'.events

theorem AddsField.outgrows {known : List String} {key : String} {value n n' : Yaml.Node}
    (adds : AddsField known key value n n') (anchorless : value.anchored = []) : Outgrows n n' := by
  obtain ⟨p, q, plain, before, after, noAnchor, noAnchor', rfl, rfl⟩ := adds.nodes
  constructor
  · simp [Yaml.Node.anchored, Yaml.Node.anchoredEntries, anchoredEntries_append, anchorless, noAnchor, noAnchor']
  · simp only [Yaml.Node.events, Yaml.Node.eventsOfEntries, eventsOfEntries_append]
    omega

theorem ChangesField.outgrows {key : String} {v v' n n' : Yaml.Node} (here : ChangesField key v v' n n')
    (outgrows : Outgrows v v') : Outgrows n n' := by
  obtain ⟨p, q, plain, before, after, noAnchor, rfl, rfl⟩ := here.nodes
  obtain ⟨anchored, events⟩ := outgrows
  constructor
  · simp [Yaml.Node.anchored, Yaml.Node.anchoredEntries, anchoredEntries_append, anchored, noAnchor]
  · simp only [Yaml.Node.events, Yaml.Node.eventsOfEntries, eventsOfEntries_append]
    omega

theorem ChangesItem.outgrows {i i' v v' : Yaml.Node} (item : ChangesItem i i' v v') (outgrows : Outgrows i i') :
    Outgrows v v' := by
  obtain ⟨p, before, after, noAnchor, rfl, rfl⟩ := item.nodes
  obtain ⟨anchored, events⟩ := outgrows
  constructor
  · simp [Yaml.Node.anchored, Yaml.Node.anchoredItems, anchoredItems_append, anchored, noAnchor]
  · simp only [Yaml.Node.events, Yaml.Node.eventsOfItems, eventsOfItems_append]
    omega

/-- What matches on a smaller budget reads the same. -/
theorem reads_of_matches {n n' : Yaml.Node} (alike : Matches Eq (ofNode n) (ofNode n'))
    (outgrows : Outgrows n n')
    {m : Manifest} (read : (ofNode n (.ofNode n)).map (·.1) = some m) :
    (ofNode n' (.ofNode n')).map (·.1) = some m := by
  obtain ⟨⟨m, s'⟩, ran, rfl⟩ := Option.map_eq_some_iff.mp read
  obtain ⟨_, used, rfl, -, budget, again⟩ := alike _ _ _ ran
  obtain ⟨anchored, events⟩ := outgrows
  have enough : used ≤ 100 * n'.events := by
    have spent : 100 * n.events = s'.budget + used := budget
    omega
  have state : Aliases.ofNode n' = ⟨(Aliases.ofNode n).anchors, (100 * n'.events - used) + used⟩ := by
    rw [Nat.sub_add_cancel enough, Aliases.ofNode, anchored]
    rfl
  rw [state, again]
  rfl

/-! ## Texts of manifests -/

/-- A text of one document. -/
def IsDocument (text : String) (n : Yaml.Node) : Prop :=
  (Stream.ofTokens (tokens text)).documents = [n] ∧ (Stream.ofTokens (tokens text)).complete = true

/-- A key is written as a scalar, or as an alias of one. -/
def WritesKey (aliases : Aliases) (n : Yaml.Node) (key : String) : Prop :=
  (∃ p plain, n = .scalar p key plain) ∨
    ∃ number p plain, n = .alias number ∧ aliases.find? number = some (.scalar p key plain)

/-- One more field in the `metadata` of a manifest or in an entry of its generators, under a key that is
not declared there. Nothing that is changed has an anchor, and what stands in an entry of a generator
can be read without an alias. -/
inductive AddsUnknown (n n' : Yaml.Node) : Prop
  | metadata {key value v v'} (anchorless : value.anchored = []) (adds : AddsField ["name"] key value v v')
      (here : ChangesField "metadata" v v' n n')
  | configMap {key value i i' v v'} (anchorless : value.anchored = []) (unaliased : Unaliased value)
      (adds : AddsField ["name", "literals", "files", "env"] key value i i') (item : ChangesItem i i' v v')
      (here : ChangesField "configMapGenerator" v v' n n')
  | secret {key value i i' v v'} (anchorless : value.anchored = []) (unaliased : Unaliased value)
      (adds : AddsField ["name", "type", "literals", "files", "env"] key value i i')
      (item : ChangesItem i i' v v') (here : ChangesField "secretGenerator" v v' n n')

theorem AddsUnknown.outgrows {n n' : Yaml.Node} (adds : AddsUnknown n n') : Outgrows n n' := by
  cases adds with
  | metadata anchorless adds here => exact here.outgrows (adds.outgrows anchorless)
  | configMap anchorless _ adds item here => exact here.outgrows (item.outgrows (adds.outgrows anchorless))
  | secret anchorless _ adds item here => exact here.outgrows (item.outgrows (adds.outgrows anchorless))

theorem AddsUnknown.alike {n n' : Yaml.Node} (adds : AddsUnknown n n') : Matches Eq (ofNode n) (ofNode n') := by
  cases adds with
  | metadata _ adds here =>
    exact ofNode_changed ⟨by simp, fun _ => metadataName_extra adds, by simp, by simp⟩ here
  | configMap _ unaliased adds item here =>
    have changed := listOf_changed steady_configMapGenerator (configMapGenerator_extra adds unaliased) item
    exact ofNode_changed ⟨by simp, by simp, fun _ => changed, by simp⟩ here
  | secret _ unaliased adds item here =>
    have changed := listOf_changed steady_secretGenerator (secretGenerator_extra adds unaliased) item
    exact ofNode_changed ⟨by simp, by simp, by simp, fun _ => changed⟩ here

theorem parse?_document {text : String} {n : Yaml.Node} (isDocument : IsDocument text n) :
    parse? text = (ofNode n (.ofNode n)).map (·.1) := by
  rw [parse?, isDocument.1, isDocument.2]

/-- Every element of a list is read, in a state with the same anchors. -/
theorem mapM_reads {α γ : Type} {f : α → Reading γ} (each : ∀ a, Steady (f a)) {l : List α} {s s' : Aliases}
    {cs : List γ} (ran : l.mapM f s = some (cs, s')) :
    ∀ a ∈ l, ∃ c ∈ cs, ∃ t t', t.anchors = s.anchors ∧ f a t = some (c, t') := by
  induction l generalizing s cs with
  | nil => simp
  | cons a rest ih =>
    simp only [List.mapM_cons, bind_eq_some] at ran
    obtain ⟨c, t, first, cs', t', later, last⟩ := ran
    cases last
    obtain ⟨-, -, -, anchors, -⟩ := each a s c t first
    rw [List.forall_mem_cons]
    refine ⟨⟨c, List.mem_cons_self, s, t, rfl, first⟩, fun other member => ?_⟩
    obtain ⟨d, inside, u, u', same, read⟩ := ih later other member
    exact ⟨d, List.mem_cons_of_mem c inside, u, u', same.trans anchors, read⟩

theorem writesKey_of_scalarText {n : Yaml.Node} {key : String} {s t t' : Aliases}
    (anchors : t.anchors = s.anchors)
    (read : scalarText n t = some (key, t')) : WritesKey s n key := by
  obtain ⟨target, u, followed, last⟩ := bind_eq_some.mp read
  split at last
  · next p text plain =>
    cases last
    cases n with
    | «alias» number =>
      obtain ⟨-, _, found, same⟩ := follow_alias.mp followed
      cases same
      rw [Aliases.find?, anchors] at found
      exact .inr ⟨number, p, plain, rfl, found⟩
    | scalar =>
      cases followed
      exact .inl ⟨p, plain, rfl⟩
    | sequence => cases followed
    | mapping => cases followed
  · exact absurd last failure_ne_some

/-- Every key at the top of a manifest is that of a field. -/
theorem declared_of_ofNode {p : Properties} {entries : List (Yaml.Node × Yaml.Node)} {s s' : Aliases}
    {m : Manifest}
    (read : ofNode (.mapping p entries) s = some (m, s')) :
    ∀ e ∈ entries, ∃ key ∈ fieldNames, WritesKey s e.1 key := by
  obtain ⟨fields, t, known, rest⟩ := bind_eq_some.mp read
  rw [knownFields_mapping] at known
  obtain ⟨found, t', ran, distinct⟩ := bind_eq_some.mp known
  have same : fields = found := by
    rw [distinctFields] at distinct
    split at distinct
    · cases distinct
      rfl
    · exact absurd distinct failure_ne_some
  subst same
  split at rest
  · exact absurd rest failure_ne_some
  · next all =>
    intro e member
    obtain ⟨f, inside, u, u', anchors, readKey⟩ := mapM_reads steady_keyed ran e member
    obtain ⟨key, u'', text, last⟩ := bind_eq_some.mp readKey
    cases last
    simp only [Bool.not_eq_true, Bool.not_eq_false', List.all_eq_true] at all
    exact ⟨key, List.contains_iff_mem.mp (all _ inside), writesKey_of_scalarText anchors text⟩

/-- Misspelled fields: at the top every key of an accepted text is that of a field, and in `metadata` and
in the entries of generators a text with one more unknown field is accepted as the same manifest. -/
theorem unknown_fields_outcomes {text : String} {n : Yaml.Node} {m : Manifest} (isDocument : IsDocument text n)
    (accepted : ofYaml text = .ok m) :
    (∀ p entries, n = .mapping p entries →
      ∀ e ∈ entries, ∃ key ∈ fieldNames, WritesKey (.ofNode n) e.1 key) ∧
    ∀ text' n', IsDocument text' n' → AddsUnknown n n' → ofYaml text' = .ok m := by
  obtain ⟨parsed, valid⟩ := ofYaml_eq_ok.mp accepted
  rw [parse?_document isDocument] at parsed
  constructor
  · rintro p entries rfl
    obtain ⟨⟨_, s'⟩, read, -⟩ := Option.map_eq_some_iff.mp parsed
    exact declared_of_ofNode read
  · intro text' n' isDocument' adds
    refine ofYaml_eq_ok.mpr ⟨?_, valid⟩
    rw [parse?_document isDocument']
    exact reads_of_matches adds.alike adds.outgrows parsed

/-! ## A misspelled field of a generator -/

/-- A scalar without an anchor, a tag and quotes. -/
def word (text : String) : Yaml.Node := .scalar ⟨none, none⟩ text true

/-- A manifest that generates one ConfigMap, whose entry has further fields. -/
def oneConfigMap (more : List (Yaml.Node × Yaml.Node)) : Yaml.Node :=
  .mapping ⟨none, none⟩ [(word "configMapGenerator",
    .sequence ⟨none, none⟩ [.mapping ⟨none, none⟩ ([(word "name", word "a")] ++ more)])]

/-- A ConfigMap whose literals are listed under a key that is no field. -/
def misspelledText : String := "configMapGenerator:\n- name: a\n  literal:\n  - A=1\n"

/-- The field with the misspelled key. -/
def misspelledField : Yaml.Node × Yaml.Node := (word "literal", .sequence ⟨none, none⟩ [word "A=1"])

theorem misspelled_isDocument : IsDocument misspelledText (oneConfigMap [misspelledField]) :=
  ⟨rfl, rfl⟩

theorem unaliased_texts {text : String} (meaning : scalarMeaning? none text true = some .text) :
    Unaliased (.sequence ⟨none, none⟩ [word text]) := by
  have item (depth : Nat) : sourceValue depth (word text) = pure (.text text) := by
    cases depth <;> rw [sourceValue] <;> simp [word, follow, meaning]
  have list (depth : Nat) :
      sourceValue (depth + 1) (.sequence ⟨none, none⟩ [word text]) = pure (.list [.text text]) := by
    rw [sourceValue]
    simp [follow, isLocal, item]
  exact ⟨.list [.text text], list 124⟩

/-- The text is accepted, as a ConfigMap without literals, though one of its keys is not declared. -/
theorem misspelled_literals_accepted : IsDocument misspelledText (oneConfigMap [misspelledField]) ∧
    "literal" ∉ ["name", "literals", "files", "env"] ∧
    ofYaml misspelledText = .ok { configMaps := [⟨"a", {}⟩] } := by
  refine ⟨misspelled_isDocument, by decide, ?_⟩
  decide +kernel

/-- It is the manifest of the text without that field. -/
theorem misspelled_literals_passed_over :
    AddsUnknown (oneConfigMap []) (oneConfigMap [misspelledField]) ∧
    ofYaml "configMapGenerator:\n- name: a\n" = .ok { configMaps := [⟨"a", {}⟩] } ∧
    ofYaml misspelledText = .ok { configMaps := [⟨"a", {}⟩] } := by
  have accepted : ofYaml "configMapGenerator:\n- name: a\n" = .ok { configMaps := [⟨"a", {}⟩] } := by
    decide +kernel
  have before : IsDocument "configMapGenerator:\n- name: a\n" (oneConfigMap []) := ⟨rfl, rfl⟩
  have field : AddsField ["name", "literals", "files", "env"] "literal" misspelledField.2
      (.mapping ⟨none, none⟩ [(word "name", word "a")])
      (.mapping ⟨none, none⟩ [(word "name", word "a"), misspelledField]) :=
    ⟨by decide, ⟨none, none⟩, ⟨none, none⟩, true, [(word "name", word "a")], [], rfl, rfl, rfl, rfl⟩
  have adds : AddsUnknown (oneConfigMap []) (oneConfigMap [misspelledField]) :=
    .configMap rfl (unaliased_texts rfl) field ⟨⟨none, none⟩, [], [], rfl, rfl, rfl⟩
      ⟨⟨none, none⟩, ⟨none, none⟩, true, [], [], rfl, rfl, rfl⟩
  exact ⟨adds, accepted, (unknown_fields_outcomes before accepted).2 _ _ misspelled_isDocument adds⟩

end Manifest
end KubeOverlay
