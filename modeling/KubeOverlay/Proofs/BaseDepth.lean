import KubeOverlay.Proofs.NestedNames
import KubeOverlay.Proofs.PassThrough
import KubeOverlay.Proofs.Places
import Mathlib.Logic.Function.Iterate
import Mathlib.Logic.Relation
/-!
# How deep bases lie

Bases may list bases in turn, and the files may lead in a circle. Every base on the way down has one
level less to go, so a build ends whatever the manifests list. Where it succeeds, no chain of bases has
more entries than there are levels (`chain_length_le`), and no manifest is below itself
(`not_below_itself`); it fails for the depth only where the levels are used up (`exists_chain`).
`resources_baseDepth` puts these together.
-/
namespace KubeOverlay.Application

variable {files : FileSystem} {app below a b c : Application} {raw built : Collection} {levels : Nat}
  {base directory : String}

/-! ## The recursion -/

/-- The resources of an application at a depth below the one that is built, given what recursion makes
of the applications one step deeper. -/
def resourcesAt (files : FileSystem) (deeper : Nat → Application → Except BuildError Collection)
    (depth : Nat) (app : Application) : Except BuildError Collection := do
  let c ← decodeFiles files app app.manifest.resources
  let c ← app.manifest.bases.foldlM (fun c base => do
    if Manifest.maxBaseDepth ≤ depth then throw (.manifest (.basesTooDeep base))
    let below ← liftManifest (load files (Path.join app.directory base))
    addBuilt c (← deeper (depth + 1) below)) c
  app.finish (← generated files app (← patched files app c))

theorem resourcesAt_last {deeper : Nat → Application → Except BuildError Collection} {depth : Nat}
    (last : Manifest.maxBaseDepth ≤ depth) :
    resourcesAt files deeper depth app = (do app.finish (← rawWithin files 0 app)) := by
  rw [resourcesAt, rawWithin_eq]
  simp only [bind_assoc]
  refine congrArg _ (funext fun c => ?_)
  rw [addBases]
  cases app.manifest.bases with
  | nil => rfl
  | cons base rest =>
    rw [List.foldlM_cons, if_pos last]
    rfl

theorem resourcesAt_further {deeper : Nat → Application → Except BuildError Collection} {depth : Nat}
    (further : depth < Manifest.maxBaseDepth)
    (same : ∀ app, deeper (depth + 1) app = (do app.finish (← rawWithin files levels app))) :
    resourcesAt files deeper depth app = (do app.finish (← rawWithin files (levels + 1) app)) := by
  rw [resourcesAt, rawWithin_eq]
  simp only [bind_assoc]
  refine congrArg _ (funext fun c => ?_)
  rw [addBases]
  simp only [if_neg (Nat.not_le.mpr further), same, bind_assoc]

/-- Unfolded once for each level and once more, the recursion has no call left: what would be called
further does not matter. -/
theorem iterate_resourcesAt (deeper : Nat → Application → Except BuildError Collection) {depth : Nat}
    (within : levels + depth = Manifest.maxBaseDepth) (app : Application) :
    (resourcesAt files)^[levels + 1] deeper depth app = (do app.finish (← rawWithin files levels app)) := by
  induction levels generalizing depth app with
  | zero => exact resourcesAt_last (by omega)
  | succ levels ih =>
    rw [Function.iterate_succ_apply']
    exact resourcesAt_further (by omega) fun app => ih (by omega) app

/-! ## Chains of bases -/

/-- Entries of bases one below the other: each but the last leads to a manifest that lists the next. -/
def BaseChain (files : FileSystem) : Application → List String → Prop
  | _, [] => True
  | app, base :: rest => base ∈ app.manifest.bases ∧
      (rest = [] ∨ ∃ below, load files (Path.join app.directory base) = .ok below ∧ BaseChain files below rest)

/-- The bases of what has been put together are loaded and put together, with one level less. -/
theorem rawWithin_base (ran : rawWithin files levels app = .ok raw) (listed : base ∈ app.manifest.bases) :
    ∃ fewer below raw', levels = fewer + 1 ∧ load files (Path.join app.directory base) = .ok below ∧
      rawWithin files fewer below = .ok raw' := by
  simp only [rawWithin_eq, bind_eq_ok] at ran
  obtain ⟨declared, -, based, bases, -⟩ := ran
  obtain ⟨parts, bring, -⟩ := addBases_eq_ok_iff.mp bases
  obtain ⟨part, -, brings⟩ := exists_of_mem_left bring listed
  cases levels with
  | zero => exact brings.elim
  | succ fewer =>
    obtain ⟨below, raw', -, loaded, ran, -⟩ := brings
    exact ⟨fewer, below, raw', rfl, loaded, ran⟩

theorem chain_length_le (ran : rawWithin files levels app = .ok raw) {chain : List String}
    (isChain : BaseChain files app chain) : chain.length ≤ levels := by
  induction chain generalizing app raw levels with
  | nil => exact Nat.zero_le levels
  | cons base rest ih =>
    obtain ⟨listed, onwards⟩ := isChain
    obtain ⟨fewer, below, raw', less, loaded, ran'⟩ := rawWithin_base ran listed
    rw [List.length_cons, less, Nat.add_le_add_iff_right]
    rcases onwards with rfl | ⟨below', loaded', further⟩
    · exact Nat.zero_le fewer
    · cases loaded.symm.trans loaded'
      exact ih ran' further

/-! ## Errors -/

theorem bind_eq_error {ε α β : Type} {x : Except ε α} {f : α → Except ε β} {e : ε} :
    (x >>= f) = .error e ↔ x = .error e ∨ ∃ a, x = .ok a ∧ f a = .error e := by
  cases x <;> simp [bind, Except.bind]

theorem foldlM_eq_error {ε α β : Type} {f : β → α → Except ε β} {l : List α} {b : β} {e : ε}
    (failed : l.foldlM f b = .error e) : ∃ a ∈ l, ∃ b', f b' a = .error e := by
  induction l generalizing b with
  | nil => contradiction
  | cons a rest ih =>
    rw [List.foldlM_cons] at failed
    rcases bind_eq_error.mp failed with here | ⟨between, -, later⟩
    · exact ⟨a, List.mem_cons_self, b, here⟩
    · obtain ⟨a', member, b', there⟩ := ih later
      exact ⟨a', List.mem_cons_of_mem a member, b', there⟩

theorem sequence_error {ε σ α : Type} {step : α → σ → Progress ε σ} {l : List α} {s : σ} {e : ε}
    (failed : (Progress.sequence step l s).error? = some e) : ∃ a ∈ l, ∃ s', (step a s').error? = some e := by
  induction l generalizing s with
  | nil => contradiction
  | cons a rest ih =>
    rw [Progress.sequence, Progress.andThen] at failed
    split at failed
    · obtain ⟨a', member, s', there⟩ := ih failed
      exact ⟨a', List.mem_cons_of_mem a member, s', there⟩
    · exact ⟨a, List.mem_cons_self, s, failed⟩

theorem toExcept_eq_error {ε σ : Type} {p : Progress ε σ} {e : ε} :
    p.toExcept = .error e ↔ p.error? = some e := by
  obtain ⟨reached, e?⟩ := p
  cases e? <;> simp [Progress.toExcept]

/-- Something fails, if at all, for another reason than the depth of bases. -/
def NeverTooDeep {α : Type} (x : Except BuildError α) : Prop :=
  ∀ base, x ≠ .error (.manifest (.basesTooDeep base))

section NeverTooDeep

variable {α β : Type} {x : Except BuildError α}

theorem NeverTooDeep.bind {f : α → Except BuildError β} (first : NeverTooDeep x) (later : ∀ a, NeverTooDeep (f a)) :
    NeverTooDeep (x >>= f) := by
  intro base failed
  rcases bind_eq_error.mp failed with here | ⟨a, -, there⟩
  · exact first base here
  · exact later a base there

theorem NeverTooDeep.foldlM {f : β → α → Except BuildError β} (each : ∀ b a, NeverTooDeep (f b a)) (l : List α)
    (b : β) : NeverTooDeep (l.foldlM f b) := by
  intro base failed
  obtain ⟨a, -, b', there⟩ := foldlM_eq_error failed
  exact each b' a base there

theorem neverTooDeep_liftResource (x : Except ResourceError α) : NeverTooDeep (liftResource x) := by
  intro base
  cases x <;> simp [liftResource]

end NeverTooDeep

theorem neverTooDeep_addFile (app : Application) (c : Collection) (file : String) :
    NeverTooDeep (app.addFile files c file) := by
  unfold addFile
  dsimp only
  cases files.readText (Path.join app.directory file) with
  | error fault =>
    intro base
    simp
  | ok text =>
    exact NeverTooDeep.bind (neverTooDeep_liftResource _) fun decoded => neverTooDeep_liftResource _

theorem neverTooDeep_decodeFiles (app : Application) (listed : List String) :
    NeverTooDeep (app.decodeFiles files listed) :=
  NeverTooDeep.foldlM (neverTooDeep_addFile app) listed Collection.empty

/-- What a manifest is refused for has nothing to do with other manifests. -/
theorem validate_ne_tooDeep (m : Manifest) (base : String) : m.validate ≠ .error (.basesTooDeep base) := by
  have names : Manifest.validate.names m ≠ .error (.basesTooDeep base) := by
    rw [Manifest.validate.names]
    split
    · simp
    · split <;> simp
  rw [Manifest.validate]
  split
  · split
    · exact names
    · simp
  · exact names

theorem neverTooDeep_load (directory : String) : NeverTooDeep (liftManifest (load files directory)) := by
  intro base failed
  have failed : load files directory = .error (.basesTooDeep base) := by
    cases outcome : load files directory <;> simp_all [liftManifest]
  rw [load_eq] at failed
  split at failed
  · simp at failed
  · split at failed
    · simp at failed
    · split at failed
      · next text _ =>
        rw [Manifest.ofYaml] at failed
        cases parsed : Manifest.parse? text with
        | none => simp [parsed, Except.map] at failed
        | some m =>
          have valid := validate_ne_tooDeep m base
          cases outcome : m.validate <;> simp_all [Except.map, bind, Except.bind, pure, Except.pure]
      · simp at failed

/-- Whatever stops an edit of resources is an error in one of them. -/
theorem eachResource_error {f : Identity → Resource → Progress BuildError Resource} {c : Collection}
    {e : BuildError} (failed : (Pass.eachResource f c).error? = some e) : ∃ id cause, e = .inResource id cause := by
  have entries (l : List Entry) (failed : (Collection.editEntries (fun id r =>
      let p := f id r
      ⟨p.reached, p.error?.map (BuildError.inResource id)⟩) l).error? = some e) :
      ∃ id cause, e = .inResource id cause := by
    induction l with
    | nil => contradiction
    | cons entry rest ih =>
      rw [Collection.editEntries] at failed
      dsimp only at failed
      split at failed
      · next e' stopped =>
        obtain ⟨cause, -, rfl⟩ := Option.map_eq_some_iff.mp stopped
        cases failed
        exact ⟨entry.1, cause, rfl⟩
      · exact ih failed
  exact entries c.entries failed

theorem neverTooDeep_finish (app : Application) (c : Collection) : NeverTooDeep (app.finish c) := by
  intro base failed
  rw [finish, toExcept_eq_error] at failed
  obtain ⟨pass, member, c', there⟩ := sequence_error failed
  have inOne : ∃ id cause, BuildError.manifest (.basesTooDeep base) = .inResource id cause := by
    simp only [passes, List.mem_cons, List.not_mem_nil, or_false] at member
    rcases member with rfl | rfl | rfl | rfl | rfl
    · exact eachResource_error there
    · simp only [Pass.namePrefix] at there
      split at there
      · contradiction
      · exact eachResource_error there
    · simp only [Pass.labels, Pass.mapEntries] at there
      split at there
      · contradiction
      · exact eachResource_error there
    · simp only [Pass.annotations, Pass.mapEntries] at there
      split at there
      · contradiction
      · exact eachResource_error there
    · exact eachResource_error there
  obtain ⟨id, cause, impossible⟩ := inOne
  contradiction

theorem neverTooDeep_patched (app : Application) (c : Collection) : NeverTooDeep (app.patched files c) := by
  rw [patched]
  split
  · intro base
    simp
  · refine .bind (neverTooDeep_decodeFiles app _) fun patches => ?_
    intro base failed
    rw [toExcept_eq_error] at failed
    obtain ⟨patch, -, c', there⟩ := sequence_error failed
    rw [Pass.applyPatch] at there
    split at there
    · simp [Progress.stopped] at there
    · split at there
      · contradiction
      · simp [Progress.stopped] at there

theorem neverTooDeep_generated (app : Application) (c : Collection) : NeverTooDeep (app.generated files c) := by
  have entries (name : String) (sources : Sources) :
      NeverTooDeep (Generator.entriesOf files app.directory name sources) := by
    intro base
    rw [Generator.entriesOf]
    split <;> simp
  have pure {α : Type} (a : α) : NeverTooDeep (.ok a) := by
    intro base
    simp
  refine .bind (.foldlM (fun c g => ?_) _ c) fun c => .foldlM (fun c g => ?_) _ c
  · exact .bind (.bind (entries _ _) fun _ => pure _) fun r => neverTooDeep_liftResource _
  · exact .bind (.bind (entries _ _) fun _ => pure _) fun r => neverTooDeep_liftResource _

/-- Only among the bases an application fails for their depth. -/
theorem addBases_tooDeep (failed : rawWithin files levels app = .error (.manifest (.basesTooDeep base))) :
    ∃ c, addBases files levels app c = .error (.manifest (.basesTooDeep base)) := by
  rw [rawWithin_eq] at failed
  rcases bind_eq_error.mp failed with decode | ⟨declared, -, failed⟩
  · exact absurd decode (neverTooDeep_decodeFiles app _ base)
  · rcases bind_eq_error.mp failed with bases | ⟨based, -, failed⟩
    · exact ⟨declared, bases⟩
    · exact absurd failed (NeverTooDeep.bind (neverTooDeep_patched app _) (neverTooDeep_generated app) base)

/-- Where the first base fails, the application does. -/
theorem rawWithin_first_error {rest : List String} {e : BuildError} (none : app.manifest.resources = [])
    (bases : app.manifest.bases = base :: rest) (loaded : load files (Path.join app.directory base) = .ok below)
    (failed : rawWithin files levels below = .error e) : rawWithin files (levels + 1) app = .error e := by
  have first : addBases files (levels + 1) app .empty = .error e := by
    rw [addBases, bases, List.foldlM_cons]
    simp only [loaded, failed, liftManifest, bind, Except.bind]
  rw [rawWithin_eq, none, decodeFiles, List.foldlM_nil]
  exact bind_eq_error.mpr (.inr ⟨.empty, rfl, bind_eq_error.mpr (.inl first)⟩)

theorem rawWithin_last_error {rest : List String} (none : app.manifest.resources = [])
    (bases : app.manifest.bases = base :: rest) :
    rawWithin files 0 app = .error (.manifest (.basesTooDeep base)) := by
  have first : addBases files 0 app .empty = .error (.manifest (.basesTooDeep base)) := by
    rw [addBases, bases]
    rfl
  rw [rawWithin_eq, none, decodeFiles, List.foldlM_nil]
  exact bind_eq_error.mpr (.inr ⟨.empty, rfl, bind_eq_error.mpr (.inl first)⟩)

/-- Where a build fails for the depth of bases, a chain of them has used up the levels. -/
theorem exists_chain (failed : rawWithin files levels app = .error (.manifest (.basesTooDeep base))) :
    ∃ chain, BaseChain files app (chain ++ [base]) ∧ chain.length = levels := by
  induction levels generalizing app with
  | zero =>
    obtain ⟨c, bases⟩ := addBases_tooDeep failed
    rw [addBases] at bases
    split at bases
    · contradiction
    · next first rest listed =>
      obtain rfl : first = base := by simpa [throw, throwThe, MonadExceptOf.throw] using bases
      refine ⟨[], ⟨?_, .inl rfl⟩, rfl⟩
      rw [listed]
      exact List.mem_cons_self
  | succ levels ih =>
    obtain ⟨c, bases⟩ := addBases_tooDeep failed
    rw [addBases] at bases
    obtain ⟨next, listed, c', here⟩ := foldlM_eq_error bases
    rcases bind_eq_error.mp here with load | ⟨below, loaded, here⟩
    · exact absurd load (neverTooDeep_load _ base)
    · rcases bind_eq_error.mp here with deeper | ⟨raw, -, here⟩
      · obtain ⟨chain, isChain, length⟩ := ih deeper
        have onwards : BaseChain files app (next :: (chain ++ [base])) :=
          ⟨listed, .inr ⟨below, liftManifest_eq_ok.mp loaded, isChain⟩⟩
        exact ⟨next :: chain, onwards, by rw [List.length_cons, length]⟩
      · rcases bind_eq_error.mp here with passes | ⟨built, -, rebase⟩
        · exact absurd passes (neverTooDeep_finish below raw base)
        · exact absurd rebase (neverTooDeep_liftResource _ base)

/-! ## Circles -/

theorem load_named (loaded : load files directory = .ok app) : directory ≠ "" := by
  rintro rfl
  have absent : files.pathExists "" = false := rfl
  have present := (load_eq_ok_iff.mp loaded).1
  simp [absent] at present

/-- Two applications are loaded from one place, by whatever paths. -/
structure Twins (files : FileSystem) (a b : Application) : Prop where
  left : load files a.directory = .ok a
  right : load files b.directory = .ok b
  place : files.place a.directory = files.place b.directory

theorem Twins.join (twins : Twins files a b) (path : String) :
    files.place (Path.join a.directory path) = files.place (Path.join b.directory path) :=
  FileSystem.place_join_congr (load_named twins.left) (load_named twins.right) twins.place path

theorem Twins.manifest (twins : Twins files a b) : a.manifest = b.manifest := by
  obtain ⟨-, text, m, read, parsed, same⟩ := load_eq_ok_iff.mp twins.left
  obtain ⟨-, text', m', read', parsed', same'⟩ := load_eq_ok_iff.mp twins.right
  cases FileSystem.text_eq_of_place read read' (twins.join Manifest.fileName)
  cases parsed.symm.trans parsed'
  rw [same, same']

/-- What is listed is loaded from its own directory. -/
theorem ListsBase.loaded (lists : ListsBase files app below) : load files below.directory = .ok below := by
  obtain ⟨base, -, loaded⟩ := lists
  rw [load_directory loaded, loaded]

theorem rawWithin_listed (ran : rawWithin files levels app = .ok raw) (lists : ListsBase files app below) :
    ∃ fewer raw', levels = fewer + 1 ∧ rawWithin files fewer below = .ok raw' := by
  obtain ⟨base, listed, loaded⟩ := lists
  obtain ⟨fewer, below', raw', less, loaded', ran'⟩ := rawWithin_base ran listed
  cases loaded.symm.trans loaded'
  exact ⟨fewer, raw', less, ran'⟩

theorem rawWithin_below (ran : rawWithin files levels a = .ok raw) (down : Relation.TransGen (ListsBase files) a b) :
    ∃ fewer raw', fewer < levels ∧ rawWithin files fewer b = .ok raw' := by
  induction down with
  | single lists =>
    obtain ⟨fewer, raw', less, ran'⟩ := rawWithin_listed ran lists
    exact ⟨fewer, raw', by omega, ran'⟩
  | tail _ lists ih =>
    obtain ⟨between, raw', less, ran'⟩ := ih
    obtain ⟨fewer, raw'', less', ran''⟩ := rawWithin_listed ran' lists
    exact ⟨fewer, raw'', by omega, ran''⟩

/-- What a manifest lists, its twin lists as well, if the twin has been built. -/
theorem Twins.listsBase (twins : Twins files a b) (ran : rawWithin files levels b = .ok raw)
    (lists : ListsBase files a app) : ∃ below, ListsBase files b below ∧ Twins files app below := by
  obtain ⟨base, listed, loaded⟩ := id lists
  rw [twins.manifest] at listed
  obtain ⟨-, below, -, -, loaded', -⟩ := rawWithin_base ran listed
  have again : ListsBase files b below := ⟨base, listed, loaded'⟩
  refine ⟨below, again, lists.loaded, again.loaded, ?_⟩
  rw [load_directory loaded, load_directory loaded', twins.join base]

theorem Twins.descend (twins : Twins files a b) (ran : rawWithin files levels b = .ok raw)
    (down : Relation.TransGen (ListsBase files) a app) :
    ∃ below, Relation.TransGen (ListsBase files) b below ∧ Twins files app below := by
  induction down with
  | single lists =>
    obtain ⟨below, again, twins'⟩ := twins.listsBase ran lists
    exact ⟨below, .single again, twins'⟩
  | tail _ lists ih =>
    obtain ⟨between, down', twins'⟩ := ih
    obtain ⟨_, raw', -, ran'⟩ := rawWithin_below ran down'
    obtain ⟨below, again, twins''⟩ := twins'.listsBase ran' lists
    exact ⟨below, down'.tail again, twins''⟩

/-- A manifest of what has been built is not below itself. -/
theorem not_below_itself (ran : rawWithin files levels a = .ok raw)
    (down : Relation.TransGen (ListsBase files) a b) : ¬ Twins files a b := by
  -- One round in a circle takes levels away, and the circle goes on from where it ends.
  induction levels using Nat.strongRecOn generalizing a b raw with
  | ind levels ih =>
    intro twins
    obtain ⟨fewer, raw', less, ran'⟩ := rawWithin_below ran down
    obtain ⟨again, down', twins'⟩ := twins.descend ran' down
    exact ih fewer less ran' down' twins'

theorem rawWithin_reached (ran : rawWithin files levels app = .ok raw)
    (reached : Relation.ReflTransGen (ListsBase files) app a) :
    ∃ fewer raw', rawWithin files fewer a = .ok raw' := by
  rcases Relation.reflTransGen_iff_eq_or_transGen.mp reached with rfl | down
  · exact ⟨levels, raw, ran⟩
  · obtain ⟨fewer, raw', -, ran'⟩ := rawWithin_below ran down
    exact ⟨fewer, raw', ran'⟩

theorem loaded_of_below (down : Relation.TransGen (ListsBase files) a b) : load files b.directory = .ok b := by
  cases down with
  | single lists => exact lists.loaded
  | tail _ lists => exact lists.loaded

/-! ## The depth of a build -/

/-- The recursion over bases ends, and its bound is exact. Whatever would be called below the last level,
the recursion comes to the resources of the application. Where these are built, no chain of bases has more
entries than there are levels, and no manifest comes again below itself, by whatever paths. Where the
depth is the reason that they are not, a chain with one entry more leads to the base that is reported. -/
theorem resources_baseDepth (loaded : load files directory = .ok app) :
    (∀ deeper, (resourcesAt files)^[Manifest.maxBaseDepth + 1] deeper 0 app = app.resources files) ∧
    (∀ built, app.resources files = .ok built →
      (∀ chain, BaseChain files app chain → chain.length ≤ Manifest.maxBaseDepth) ∧
      ∀ a b, Relation.ReflTransGen (ListsBase files) app a → Relation.TransGen (ListsBase files) a b →
        files.place b.directory ≠ files.place a.directory) ∧
    ∀ base, app.resources files = .error (.manifest (.basesTooDeep base)) →
      ∃ chain, BaseChain files app (chain ++ [base]) ∧ chain.length = Manifest.maxBaseDepth := by
  refine ⟨fun deeper => ?_, fun built finished => ?_, fun base failed => ?_⟩
  · exact iterate_resourcesAt deeper rfl app
  · rw [resources, rawResources, bind_eq_ok] at finished
    obtain ⟨raw, ran, -⟩ := finished
    refine ⟨fun chain isChain => chain_length_le ran isChain, fun a b reached down same => ?_⟩
    have left : load files a.directory = .ok a := by
      rcases Relation.reflTransGen_iff_eq_or_transGen.mp reached with rfl | down
      · rw [load_directory loaded, loaded]
      · exact loaded_of_below down
    obtain ⟨fewer, raw', ran'⟩ := rawWithin_reached ran reached
    exact not_below_itself ran' down ⟨left, loaded_of_below down, same.symm⟩
  · rw [resources, rawResources] at failed
    rcases bind_eq_error.mp failed with raw | ⟨c, -, finish⟩
    · exact exists_chain raw
    · exact absurd finish (neverTooDeep_finish app c base)

/-! ## A manifest that lists itself -/

/-- A directory whose manifest lists the directory itself. -/
def circleFiles : FileSystem where
  top := .directory [("c", .directory [textFile Manifest.fileName "bases: [/c]"])]
  workingDirectory := []

def circle : Application where
  directory := "/c"
  manifest := { bases := ["/c"] }

theorem load_circle : load circleFiles "/c" = .ok circle := by decide +kernel

/-- The manifest that lists itself fails for the depth, at the end of a chain of as many entries as there
are levels. -/
theorem circle_baseDepth : load circleFiles "/c" = .ok circle ∧
    circle.resources circleFiles = .error (.manifest (.basesTooDeep "/c")) ∧
    ∃ chain, BaseChain circleFiles circle (chain ++ ["/c"]) ∧ chain.length = Manifest.maxBaseDepth := by
  have deep (levels : Nat) : rawWithin circleFiles levels circle = .error (.manifest (.basesTooDeep "/c")) := by
    induction levels with
    | zero => exact rawWithin_last_error rfl rfl
    | succ levels ih => exact rawWithin_first_error rfl rfl load_circle ih
  have failed : circle.resources circleFiles = .error (.manifest (.basesTooDeep "/c")) := by
    rw [resources, rawResources, deep]
    rfl
  exact ⟨load_circle, failed, (resources_baseDepth load_circle).2.2 "/c" failed⟩

end KubeOverlay.Application
