import KubeOverlay.Proofs.ReferenceTable
/-!
# Final names

The passes of a build leave every name in a fixed form: the prefix, the name, and the hash of the
content if the resource is generated (`finish_finallyNamed`). A resource without a name gets none. All names
are final when references are resolved, since the passes from then on write elsewhere.
-/
namespace KubeOverlay

open PathRule (pathsFor ownPaths referencePaths mem_pathsFor)

namespace Resource

variable {r r' : Resource}

theorem name?_eq_at? (r : Resource) :
    r.name? = (r.object.at? [.key "metadata", .key "name"]).bind Document.string? := by
  have split := Document.at?_append [.key "metadata"] [.key "name"] r.object
  rw [name?, Document.field?_eq_at?]
  simp only [List.singleton_append] at split
  rw [split, Option.bind_assoc]
  refine Option.bind_congr fun d _ => ?_
  rw [Document.stringField?, Document.field?_eq_at?]

/-- Writing elsewhere keeps the name. -/
theorem KeptOutside.name? {paths : List FieldPath} (kept : KeptOutside paths r r')
    (apart : ∀ path ∈ paths, FieldPath.Apart path ["metadata", "name"]) : r'.name? = r.name? := by
  rw [name?_eq_at?, name?_eq_at?, kept.at? [.key "metadata", .key "name"] apart]

theorem setName_name? {name : String} (renamed : r.setName name = .ok r') : r'.name? = some name := by
  rw [setName] at renamed
  split at renamed
  · split at renamed
    · cases renamed
      rw [name?_eq_at?]
      simp only [Document.at?_insert_self, Document.at?_nil]
      rfl
    · contradiction
  · contradiction

end Resource

theorem Collection.KeptOutside.name? {paths : GroupVersionKind → List FieldPath} {c c' : Collection}
    (kept : KeptOutside paths c c')
    (apart : ∀ type, ∀ path ∈ paths type, FieldPath.Apart path ["metadata", "name"]) :
    Pointwise (fun _ r r' => r'.name? = r.name?) c c' :=
  Pointwise.mono (fun id _ _ same => Resource.KeptOutside.name? same (apart id.type)) kept

namespace Pass

/-- What the hash pass puts after the name of a resource: the hash of a generated one. -/
def NameSuffix (kind : String) (r : Resource) (suffix : String) : Prop :=
  if r.generated then ∃ hash, hash? kind r = some (.ok hash) ∧ suffix = "-" ++ hash else suffix = ""

section Suffix

variable {kind suffix suffix' : String} {r : Resource}

theorem nameSuffix_plain (plain : r.generated = false) : NameSuffix kind r suffix ↔ suffix = "" := by
  rw [NameSuffix, plain, if_neg Bool.false_ne_true]

theorem nameSuffix_generated (made : r.generated = true) :
    NameSuffix kind r suffix ↔ ∃ hash, hash? kind r = some (.ok hash) ∧ suffix = "-" ++ hash := by
  rw [NameSuffix, if_pos made]

theorem NameSuffix.unique (isSuffix : NameSuffix kind r suffix) (isSuffix' : NameSuffix kind r suffix') :
    suffix = suffix' := by
  cases made : r.generated with
  | false => rw [(nameSuffix_plain made).mp isSuffix, (nameSuffix_plain made).mp isSuffix']
  | true =>
    obtain ⟨hash, hashed, rfl⟩ := (nameSuffix_generated made).mp isSuffix
    obtain ⟨hash', hashed', rfl⟩ := (nameSuffix_generated made).mp isSuffix'
    cases hashed.symm.trans hashed'
    rfl

end Suffix

/-- Only what has a name has a hash. -/
theorem name?_of_hash? {kind hash : String} {r : Resource} (hashed : hash? kind r = some (.ok hash)) :
    ∃ name, r.name? = some name := by
  cases stored : r.name? with
  | some name => exact ⟨name, rfl⟩
  | none =>
    have nameless (fields : List String) :
        ContentHash.content fields r = .error (.resource (.missingField "metadata.name")) := by
      rw [ContentHash.content, ContentHash.identity, stored]
      rfl
    rw [hash?, ContentHash.ofConfigMap, ContentHash.ofSecret, nameless, nameless] at hashed
    split at hashed
    · contradiction
    · split at hashed
      · simp [Functor.map, Except.map] at hashed
      · split at hashed
        · simp [Functor.map, Except.map] at hashed
        · contradiction

theorem hashed_name? {id : Identity} {r r' : Resource} (ran : hashed id r = .ok r')
    (fits : r.generated = true → id.type.kind = "ConfigMap" ∨ id.type.kind = "Secret") :
    ∃ suffix, NameSuffix id.type.kind r suffix ∧ r'.name? = r.name?.map (· ++ suffix) := by
  rw [hashed] at ran
  split at ran
  · next plain =>
    cases ran
    refine ⟨"", ?_, by simp⟩
    have notGenerated : r.generated = false := by
      by_contra generated
      rw [Bool.not_eq_false] at generated
      rcases fits generated with kind | kind <;> simp [hash?, generated, kind] at plain
    simp [NameSuffix, notGenerated]
  · contradiction
  · next hash found =>
    split at ran
    · next renamed =>
      cases ran
      obtain ⟨name, stored⟩ := name?_of_hash? found
      have generated : r.generated = true := by
        by_contra plain
        simp [hash?, plain] at found
      refine ⟨"-" ++ hash, ?_, ?_⟩
      · rw [NameSuffix, if_pos generated]
        exact ⟨hash, found, rfl⟩
      · rw [Resource.setName_name? renamed, stored]
        simp [String.append_assoc]
    · contradiction

/-- The prefix stands before every name that there is. -/
theorem prefixed_name? {text : String} {rule : PathRule} {r r' : Resource}
    (ran : updateAt (.everywhere ["metadata", "name"] false) (onString (fun s => .ok (text ++ s)) rule) r =
      .done r') : r'.name? = r.name?.map (text ++ ·) := by
  rw [updateAt] at ran
  split at ran
  · next fields object =>
    obtain ⟨reached, done, rfl⟩ := Progress.map_eq_done.mp ran
    rw [Resource.name?, Resource.name?, object, Document.field?, Document.field?]
    simp only [PathRule.everywhere, FieldPath.update, FieldPath.edit, FieldPath.editFrom,
      FieldPath.slot?] at done
    cases stored : Ordered.find? "metadata" fields with
    | none =>
      simp only [stored] at done
      cases done
      rw [stored]
      rfl
    | some slot =>
      cases slot with
      | map metadata =>
        simp only [stored, Option.some_or] at done
        obtain ⟨inner, edited, rfl⟩ := Progress.map_eq_done.mp done
        rw [Ordered.find?_insert_self, Option.bind_some, Option.bind_some, Document.stringField?,
          Document.stringField?, Document.field?, Document.field?]
        cases named : Ordered.find? "name" metadata with
        | none =>
          simp only [named] at edited
          cases edited
          rw [named]
          rfl
        | some d =>
          cases d with
          | string name =>
            simp only [named] at edited
            cases edited
            rw [Ordered.find?_insert_self]
            rfl
          | _ => simp [named, Edit.chain, Edit.pure, onString, Progress.stopped, Progress.done] at edited
      | list items =>
        simp only [stored, Option.some_or] at done
        obtain ⟨inner, edited, rfl⟩ := Progress.map_eq_done.mp done
        rw [Ordered.find?_insert_self]
        rfl
      | _ => simp [stored, Progress.stopped, Progress.done] at done
  · simp [Progress.stopped, Progress.done] at ran

variable {c c' : Collection}

theorem namePrefix_name? {text : String} (ran : (namePrefix text PathRule.names).run c = .done c') :
    Collection.Pointwise (fun _ r r' => r'.name? = r.name?.map (text ++ ·)) c c' := by
  simp only [namePrefix] at ran
  split at ran
  · next empty =>
    cases ran
    rw [beq_iff_eq.mp empty]
    exact .refl (fun _ r => by simp) c
  · refine (eachResource_eq_done.mp ran).mono fun id r r' done => ?_
    -- There is one rule for names, and it is for all types.
    obtain ⟨between, prefixed, last⟩ := Progress.sequence_cons_eq_done.mp done
    cases last
    exact prefixed_name? prefixed

theorem mapEntries_name? {name : String} {entries : List (String × String)} {rules : List PathRule}
    (apart : ∀ rule ∈ rules, FieldPath.Apart rule.path ["metadata", "name"])
    (ran : (mapEntries name entries rules).run c = .done c') :
    Collection.Pointwise (fun _ r r' => r'.name? = r.name?) c c' := by
  refine (mapEntries_kept ran).name? fun type path member => ?_
  obtain ⟨rule, inside, -, rfl⟩ := mem_pathsFor.mp member
  exact apart rule inside

theorem nameReference_name? (ran : (nameReference ReferenceRule.references).run c = .done c') :
    Collection.Pointwise (fun _ r r' => r'.name? = r.name?) c c' :=
  (nameReference_kept ran).name? fun _ _ member =>
    ReferenceRule.referencePaths_apart_own member List.mem_cons_self

end Pass

theorem PathRule.labels_apart_name : ∀ rule ∈ labels, FieldPath.Apart rule.path ["metadata", "name"] := by
  decide

theorem PathRule.annotations_apart_name :
    ∀ rule ∈ annotations, FieldPath.Apart rule.path ["metadata", "name"] := by
  decide

namespace Application

variable {app : Application} {c c' annotated : Collection}

/-- A resource has the name of another as a build leaves it, or neither has a name. -/
def FinallyNamed (app : Application) (id : Identity) (r r' : Resource) : Prop :=
  ∃ suffix, Pass.NameSuffix id.type.kind r suffix ∧
    r'.name? = r.name?.map fun name => app.manifest.namePrefix ++ (name ++ suffix)

/-- Names are final before the last pass. -/
theorem BeforeReferences.finallyNamed (kinds : c.GeneratedKinds)
    (before : app.BeforeReferences c annotated) : Collection.Pointwise app.FinallyNamed c annotated := by
  obtain ⟨hashed, prefixed, labelled, hash, prefixing, labelling, annotating⟩ := before
  have hashes : Collection.Pointwise (fun id r r' => ∃ suffix, Pass.NameSuffix id.type.kind r suffix ∧
      r'.name? = r.name?.map (· ++ suffix)) c hashed :=
    (Pass.eachResource_eq_done.mp hash).held.mono fun id r r' step =>
      Pass.hashed_name? (Progress.ofExcept_eq_done.mp step.2) (kinds id r step.1)
  have prefixes := Pass.namePrefix_name? prefixing
  have labels := Pass.mapEntries_name? PathRule.labels_apart_name labelling
  have annotations := Pass.mapEntries_name? PathRule.annotations_apart_name annotating
  have later : Collection.Pointwise (fun _ r r' => r'.name? = r.name?.map (app.manifest.namePrefix ++ ·))
      hashed annotated := by
    refine .trans (fun _ _ _ _ first second => ?_) prefixes
      (.trans (fun _ _ _ _ first second => second.trans first) labels annotations)
    exact Eq.trans second first
  refine .trans (fun id r r' r'' first second => ?_) hashes later
  obtain ⟨suffix, isSuffix, name⟩ := first
  refine ⟨suffix, isSuffix, ?_⟩
  rw [second, name, Option.map_map]
  rfl

/-- A build leaves every name in its final form. -/
theorem finish_finallyNamed (kinds : c.GeneratedKinds) (finished : app.finish c = .ok c') :
    Collection.Pointwise app.FinallyNamed c c' := by
  obtain ⟨annotated, before, referring⟩ := finish_eq_ok.mp finished
  have final := before.finallyNamed kinds
  refine .trans (fun id r r' r'' first second => ?_) final (Pass.nameReference_name? referring)
  obtain ⟨suffix, isSuffix, name⟩ := first
  exact ⟨suffix, isSuffix, Eq.trans second name⟩

end Application

end KubeOverlay
