import KubeOverlay.Proofs.NumberOrder
import KubeOverlay.Proofs.PatchPrecedence
/-!
# Lists merged by a key

A list of a patch is merged by a key onto one whose elements have it: each element of the base becomes
what the element of the patch with its key makes of it (`Patch.mergedItem`), and the elements of the
patch that find none of their key come behind, in their order (`Patch.addedItems`). The loop takes the
elements of the patch one by one and searches in what the ones before have left; no element changes its
key, so every element of the patch finds what it would have found in the beginning
(`Patch.mergeValue_keyed`).
-/
namespace KubeOverlay

/-! ## Equality of keys -/

namespace Number

theorem equal_comm (m n : Number) : m.equal n = n.equal m := by
  cases m <;> cases n <;> simp [equal, Bool.beq_comm, Double.equal_comm]

theorem equal_congr {m n : Number} (same : m.equal n) (k : Number) : m.equal k = n.equal k := by
  cases m with
  | int i =>
    cases n with
    | int j =>
      obtain rfl : i = j := by simpa [equal] using same
      rfl
    | float y => contradiction
  | float x =>
    cases n with
    | int j => contradiction
    | float y =>
      cases k with
      | int l => rfl
      | float z => exact Double.equal_congr same z

end Number

namespace Document

/-- A string or a number. -/
def isKey : Document → Bool
  | .string _ | .number _ => true
  | _ => false

variable {a b : Document}

theorem isScalar_of_isKey (isKey : a.isKey) : a.isScalar := by
  cases a with
  | string s => rfl
  | number n => rfl
  | _ => contradiction

theorem equal_comm_of_isKey (isKey : a.isKey) (b : Document) : a.equal b = b.equal a := by
  cases a with
  | string s => cases b <;> simp [equal, Bool.beq_comm]
  | number n => cases b <;> simp [equal, Number.equal_comm]
  | _ => contradiction

theorem equal_congr_of_isKey (isKey : a.isKey) (same : a.equal b) (c : Document) : a.equal c = b.equal c := by
  cases a with
  | string s =>
    cases b with
    | string t =>
      obtain rfl : s = t := by simpa [equal] using same
      rfl
    | _ => contradiction
  | number m =>
    cases b with
    | number n =>
      cases c with
      | number k => exact Number.equal_congr same k
      | _ => rfl
    | _ => contradiction
  | _ => contradiction

end Document

namespace Patch

variable {type : GroupVersionKind} {field : Option String} {path key : String} {a b c d m : Document}
  {patch base merged kept : List Document}

/-- The element has a string or a number under the key. -/
def Carries (key : String) (d : Document) : Prop := ∃ k, d.field? key = some k ∧ k.isKey

instance (key : String) (d : Document) : Decidable (Carries key d) :=
  decidable_of_iff ((d.field? key).any Document.isKey) (Option.any_eq_true ..)

/-- What an element of a patch looks for: an element with its key. -/
def sameKey (key : String) (d b : Document) : Bool := hasKeyValue key (d.field? key) b

theorem sameKey_comm (carriesA : Carries key a) (carriesB : Carries key b) :
    sameKey key a b = sameKey key b a := by
  obtain ⟨k, atA, -⟩ := carriesA
  obtain ⟨l, atB, isKey⟩ := carriesB
  simp [sameKey, hasKeyValue, atA, atB, Document.equal_comm_of_isKey isKey]

/-- An element is found by those that find another element, if that other element is found by one with
its key. -/
theorem sameKey_congr (carries : Carries key b) (same : sameKey key d b) (atM : m.field? key = d.field? key)
    (c : Document) : sameKey key c m = sameKey key c b := by
  obtain ⟨k, atB, isKey⟩ := carries
  cases atD : d.field? key with
  | none => simp [sameKey, hasKeyValue, atB, atD] at same
  | some l =>
    rw [atD] at atM
    have equal : k.equal l := by simpa [sameKey, hasKeyValue, atB, atD] using same
    cases atC : c.field? key with
    | none => simp [sameKey, hasKeyValue, atB, atM, atC]
    | some x => simp [sameKey, hasKeyValue, atB, atM, atC, Document.equal_congr_of_isKey isKey equal x]

theorem sameKey_of_field? (atM : m.field? key = d.field? key) (c : Document) :
    sameKey key c m = sameKey key c d := by
  simp [sameKey, hasKeyValue, atM]

/-- What has the key of an element is not found by another element. -/
theorem sameKey_apart (carries : Carries key d) (carriesC : Carries key c)
    (apart : sameKey key d c = false) (atM : m.field? key = d.field? key) : sameKey key c m = false :=
  calc sameKey key c m = sameKey key c d := sameKey_of_field? atM c
    _ = sameKey key d c := sameKey_comm carriesC carries
    _ = false := apart

/-- All elements have a key, and no two the same. -/
structure Keyed (key : String) (items : List Document) : Prop where
  carries : ∀ d ∈ items, Carries key d
  apart : items.Pairwise fun a b => sameKey key a b = false

theorem keyed_iff : Keyed key base ↔
    (∀ d ∈ base, Carries key d) ∧ base.Pairwise fun a b => sameKey key a b = false :=
  ⟨fun keyed => ⟨keyed.carries, keyed.apart⟩, fun ⟨carries, apart⟩ => ⟨carries, apart⟩⟩

instance (key : String) (items : List Document) : Decidable (Keyed key items) :=
  decidable_of_iff' _ keyed_iff

theorem keyed_cons_iff : Keyed key (d :: patch) ↔
    Carries key d ∧ (∀ e ∈ patch, sameKey key d e = false) ∧ Keyed key patch := by
  rw [keyed_iff, keyed_iff, List.forall_mem_cons, List.pairwise_cons]
  exact and_and_and_comm.trans and_assoc

/-- No two elements have one key, so an element that is found is the only one. -/
theorem Keyed.others {before after : List Document} (keyed : Keyed key (before ++ b :: after))
    (carries : Carries key d) (same : sameKey key d b) : ∀ a ∈ before ++ after, sameKey key d a = false := by
  intro a member
  have carriesB : Carries key b := keyed.carries b (by simp)
  have carriesA : Carries key a := keyed.carries a (by simpa using (List.mem_append.mp member).imp_right .inr)
  have apart : sameKey key a b = false := by
    obtain ⟨-, behind, across⟩ := List.pairwise_append.mp keyed.apart
    rcases List.mem_append.mp member with front | back
    · exact across a front b List.mem_cons_self
    · exact (sameKey_comm carriesA carriesB).trans ((List.pairwise_cons.mp behind).1 a back)
  calc sameKey key d a = sameKey key a d := sameKey_comm carries carriesA
    _ = sameKey key a b := sameKey_congr carriesB same rfl a
    _ = false := apart

/-! ## What a patch makes of elements -/

/-- What an element of the base becomes: itself if no element of the patch has its key, nothing if that
one removes it, and else what merging that one onto it gives. -/
def mergedItem (type : GroupVersionKind) (field : Option String) (path key : String)
    (patch : List Document) (b : Document) : Except BuildError (Option Document) :=
  match patch.find? (sameKey key · b) with
  | none => .ok (some b)
  | some d =>
    if isDelete d then .ok none
    else some <$> mergeValue type field (itemPath path key (d.field? key)) d b

/-- The elements of the patch that are added: those that remove nothing and find no element with their
key, without directives. -/
def addedItems (key : String) (patch base : List Document) : List Document :=
  stripItems (patch.filter fun d => !isDelete d && !base.any (sameKey key d))

theorem mergedItem_unnamed (unnamed : ∀ d ∈ patch, sameKey key d b = false) :
    mergedItem type field path key patch b = .ok (some b) := by
  have none : patch.find? (sameKey key · b) = none := by simpa using unnamed
  rw [mergedItem, none]

/-- A patch and its element with a key. -/
theorem mergedItem_cons (d : Document) (patch : List Document) (b : Document) :
    mergedItem type field path key (d :: patch) b =
      if sameKey key d b then mergedItem type field path key [d] b
      else mergedItem type field path key patch b := by
  by_cases same : sameKey key d b
  · simp [mergedItem, same]
  · simp [mergedItem, same]

/-- Merging an element leaves its key as the patch has it, which is the key that it has. -/
theorem mergeValue_carries (sorted : d.Sorted) (named : key ≠ directiveKey) (carries : Carries key d)
    (ran : mergeValue type field path d b = .ok m) : m.field? key = d.field? key := by
  obtain ⟨k, stored, isKey⟩ := carries
  cases d with
  | map fields =>
    rw [stored, Document.field?_eq_at?]
    exact mergeValue_sets sorted (by simpa using Ne.symm named)
      (.here stored (Document.isScalar_of_isKey isKey)) ran
  | _ => contradiction

theorem strip_carries (named : key ≠ directiveKey) (carries : Carries key d) :
    (strip d).field? key = d.field? key := by
  obtain ⟨k, stored, isKey⟩ := carries
  cases d with
  | map fields =>
    rw [stored, Document.field?_eq_at?]
    exact (Sets.here stored (Document.isScalar_of_isKey isKey)).at?_strip (by simpa using Ne.symm named)
  | _ => contradiction

/-- What an element has become is itself, or comes from the element of the patch with its key. -/
theorem mergedItem_cases (ran : mergedItem type field path key patch b = .ok (some m)) :
    ((∀ d ∈ patch, sameKey key d b = false) ∧ m = b) ∨
      ∃ d ∈ patch, sameKey key d b ∧
        mergeValue type field (itemPath path key (d.field? key)) d b = .ok m := by
  rw [mergedItem] at ran
  split at ran
  · next none =>
    cases ran
    exact .inl ⟨by simpa using none, rfl⟩
  · next d found =>
    split at ran
    · cases Except.ok.inj ran
    · obtain ⟨value, here, same⟩ := map_eq_ok.mp ran
      cases same
      exact .inr ⟨d, List.mem_of_find?_eq_some found, by simpa using List.find?_some found, here⟩

/-- What an element has become is found by those that find the element. -/
theorem mergedItem_sameKey (sorted : ∀ d ∈ patch, d.Sorted) (named : key ≠ directiveKey)
    (carries : ∀ d ∈ patch, Carries key d) (carriesB : Carries key b)
    (ran : mergedItem type field path key patch b = .ok (some m)) :
    Carries key m ∧ ∀ c, sameKey key c m = sameKey key c b := by
  rcases mergedItem_cases ran with ⟨-, rfl⟩ | ⟨d, member, same, here⟩
  · exact ⟨carriesB, fun c => rfl⟩
  · have atM := mergeValue_carries (sorted d member) named (carries d member) here
    obtain ⟨k, stored, isKey⟩ := carries d member
    exact ⟨⟨k, atM.trans stored, isKey⟩, sameKey_congr carriesB same atM⟩

theorem addedItems_cons (d : Document) (patch base : List Document) :
    addedItems key (d :: patch) base = addedItems key [d] base ++ addedItems key patch base := by
  simp only [addedItems, stripItems_eq_map]
  rw [← List.map_append, ← List.filter_append, List.singleton_append]

theorem addedItems_singleton (d : Document) (base : List Document) : addedItems key [d] base =
    if isDelete d || base.any (sameKey key d) then [] else [strip d] := by
  rw [addedItems, List.filter_singleton]
  cases isDelete d <;> cases base.any (sameKey key d) <;> simp [stripItems]

theorem mem_addedItems {x : Document} : x ∈ addedItems key patch base ↔
    ∃ d ∈ patch, isDelete d = false ∧ (∀ b ∈ base, sameKey key d b = false) ∧ strip d = x := by
  rw [addedItems, stripItems_eq_map, List.mem_map]
  simp [and_assoc]

/-- The result has the keys of its elements, all different. -/
theorem keyed_merged (sorted : ∀ d ∈ patch, d.Sorted) (named : key ≠ directiveKey)
    (keyed : Keyed key patch) (keyedB : Keyed key base)
    (ran : base.filterMapM (mergedItem type field path key patch) = .ok kept) :
    Keyed key (kept ++ addedItems key patch base) := by
  have becomes : ∀ b ∈ base, ∀ m, mergedItem type field path key patch b = .ok (some m) →
      Carries key m ∧ ∀ c, sameKey key c m = sameKey key c b := fun b member m ran =>
    mergedItem_sameKey sorted named keyed.carries (keyedB.carries b member) ran
  have stripped : ∀ d ∈ patch, (strip d).field? key = d.field? key := fun d member =>
    strip_carries named (keyed.carries d member)
  constructor
  · intro x member
    rcases List.mem_append.mp member with inKept | inAdded
    · obtain ⟨b, inBase, here⟩ := (mem_filterMapM ran).mp inKept
      exact (becomes b inBase x here).1
    · obtain ⟨d, inPatch, -, -, rfl⟩ := mem_addedItems.mp inAdded
      obtain ⟨k, stored, isKey⟩ := keyed.carries d inPatch
      exact ⟨k, (stripped d inPatch).trans stored, isKey⟩
  · refine List.pairwise_append.mpr ⟨?_, ?_, ?_⟩
    · refine pairwise_of_filterMapM keyedB.apart (fun a inA b inB m n apart hereM hereN => ?_) ran
      obtain ⟨carriesM, likeA⟩ := becomes a inA m hereM
      obtain ⟨-, likeB⟩ := becomes b inB n hereN
      have carriesA := keyedB.carries a inA
      have carriesB := keyedB.carries b inB
      calc sameKey key m n = sameKey key m b := likeB m
        _ = sameKey key b m := sameKey_comm carriesM carriesB
        _ = sameKey key b a := likeA b
        _ = sameKey key a b := sameKey_comm carriesB carriesA
        _ = false := apart
    · rw [addedItems, stripItems_eq_map, List.pairwise_map]
      refine (keyed.apart.filter _).imp_of_mem fun {d e} inD inE apart => ?_
      have atD := stripped d (List.mem_filter.mp inD).1
      have atE := stripped e (List.mem_filter.mp inE).1
      rw [sameKey_of_field? atE, sameKey, atD]
      exact apart
    · intro m inKept x inAdded
      obtain ⟨b, inBase, here⟩ := (mem_filterMapM ran).mp inKept
      obtain ⟨d, inPatch, -, absent, rfl⟩ := mem_addedItems.mp inAdded
      obtain ⟨carriesM, likeB⟩ := becomes b inBase m here
      calc sameKey key m (strip d) = sameKey key m d := sameKey_of_field? (stripped d inPatch) m
        _ = sameKey key d m := sameKey_comm carriesM (keyed.carries d inPatch)
        _ = sameKey key d b := likeB d
        _ = false := absent b inBase

/-! ## The loop -/

theorem mergedItem_singleton (d b : Document) : mergedItem type field path key [d] b =
    if sameKey key d b then
      if isDelete d then .ok none
      else some <$> mergeValue type field (itemPath path key (d.field? key)) d b
    else .ok (some b) := by
  by_cases same : sameKey key d b
  · simp [mergedItem, same]
  · simp [mergedItem, same]

/-- One element of a patch does to a list what the patch of this element alone does. -/
theorem mergeItem_eq_ok_iff (keyed : Keyed key base) (carries : Carries key d) :
    mergeItem type field path key base d = .ok merged ↔
      ∃ kept, base.filterMapM (mergedItem type field path key [d]) = .ok kept ∧
        merged = kept ++ addedItems key [d] base := by
  rw [addedItems_singleton]
  cases deletes : isDelete d with
  | true =>
    have each : ∀ b ∈ base, mergedItem type field path key [d] b =
        .ok (Option.guard (fun b => !sameKey key d b) b) := by
      intro b _
      rw [mergedItem_singleton, deletes]
      by_cases same : sameKey key d b
      · simp [same, Option.guard]
      · simp [same, Option.guard]
    rw [mergeItem_deletes deletes, filterMapM_of_ok each, List.filterMap_eq_filter]
    simp [eq_comm, sameKey]
  | false =>
    cases found : base.find? (sameKey key d) with
    | none =>
      have absent : ∀ b ∈ base, sameKey key d b = false := by simpa using List.find?_eq_none.mp found
      have each : ∀ b ∈ base, mergedItem type field path key [d] b = .ok (some b) := by
        intro b member
        rw [mergedItem_singleton, absent b member]
        rfl
      have unfound : base.any (sameKey key d) = false := by simpa using absent
      rw [mergeItem_absent deletes absent, filterMapM_some each, unfound]
      simp [eq_comm]
    | some b =>
      obtain ⟨same, before, after, rfl, unlike⟩ := List.find?_eq_some_iff_append.mp found
      have others : ∀ a ∈ before ++ after, mergedItem type field path key [d] a = .ok (some a) := by
        intro a member
        rw [mergedItem_singleton, keyed.others carries same a member]
        rfl
      have unlikeBefore : ∀ a ∈ before, sameKey key d a = false := by simpa using unlike
      have hit : (before ++ b :: after).any (sameKey key d) = true := by simp [same]
      simp only [filterMapM_around others, mergedItem_singleton, same, deletes, hit]
      rw [mergeItem_found deletes unlikeBefore same, map_eq_ok]
      constructor
      · rintro ⟨m, ran, rfl⟩
        exact ⟨before ++ m :: after, ⟨some m, map_eq_ok.mpr ⟨m, ran, rfl⟩, rfl⟩, by simp⟩
      · rintro ⟨_, ⟨m?, ran, rfl⟩, rfl⟩
        obtain ⟨m, merges, rfl⟩ := map_eq_ok.mp ran
        exact ⟨m, merges, by simp⟩

/-- What the first element of a patch makes of an element, the ones after it leave. -/
theorem mergedItem_bind (sorted : d.Sorted) (named : key ≠ directiveKey) (keyed : Keyed key (d :: patch))
    (b : Document) : mergedItem type field path key (d :: patch) b =
      mergedItem type field path key [d] b >>= fun b? =>
        b?.elim (.ok none) (mergedItem type field path key patch) := by
  obtain ⟨carries, apart, keyed⟩ := keyed_cons_iff.mp keyed
  rw [mergedItem_cons]
  by_cases same : sameKey key d b
  · rw [if_pos same]
    cases here : mergedItem type field path key [d] b with
    | error e => rfl
    | ok m? =>
      cases m? with
      | none => rfl
      | some m =>
        have atM : m.field? key = d.field? key := by
          rcases mergedItem_cases here with ⟨unnamed, -⟩ | ⟨_, member, -, merges⟩
          · simp [same] at unnamed
          · cases List.mem_singleton.mp member
            exact mergeValue_carries sorted named carries merges
        have unnamed : ∀ e ∈ patch, sameKey key e m = false := fun e member =>
          sameKey_apart carries (keyed.carries e member) (apart e member) atM
        exact (mergedItem_unnamed unnamed).symm
  · have unnamed : ∀ e ∈ [d], sameKey key e b = false := by simpa using same
    rw [if_neg same, mergedItem_unnamed unnamed]
    rfl

/-- After an element of a patch, another one finds its key where it was in the beginning. -/
theorem any_sameKey_after (sorted : d.Sorted) (named : key ≠ directiveKey) (carries : Carries key d)
    (keyed : Keyed key base) (ran : base.filterMapM (mergedItem type field path key [d]) = .ok kept)
    (apart : sameKey key c d = false) :
    (kept ++ addedItems key [d] base).any (sameKey key c) = base.any (sameKey key c) := by
  rw [Bool.eq_iff_iff, List.any_eq_true, List.any_eq_true]
  constructor
  · rintro ⟨x, inside, found⟩
    rcases List.mem_append.mp inside with inKept | inAdded
    · obtain ⟨b, inBase, here⟩ := (mem_filterMapM ran).mp inKept
      obtain ⟨-, like⟩ := mergedItem_sameKey (by simpa using sorted) named (by simpa using carries)
        (keyed.carries b inBase) here
      exact ⟨b, inBase, (like c).symm.trans found⟩
    · obtain ⟨_, isD, -, -, rfl⟩ := mem_addedItems.mp inAdded
      cases List.mem_singleton.mp isD
      rw [sameKey_of_field? (strip_carries named carries), apart] at found
      contradiction
  · rintro ⟨b, inBase, found⟩
    have unnamed : ∀ e ∈ [d], sameKey key e b = false := by
      intro e isD
      cases List.mem_singleton.mp isD
      by_contra same
      rw [Bool.not_eq_false] at same
      rw [← sameKey_congr (keyed.carries b inBase) same rfl c, apart] at found
      contradiction
    exact ⟨b, List.mem_append_left _ ((mem_filterMapM ran).mpr ⟨b, inBase, mergedItem_unnamed unnamed⟩), found⟩

theorem addedItems_after (sorted : d.Sorted) (named : key ≠ directiveKey) (keyed : Keyed key (d :: patch))
    (keyedB : Keyed key base) (ran : base.filterMapM (mergedItem type field path key [d]) = .ok kept) :
    addedItems key patch (kept ++ addedItems key [d] base) = addedItems key patch base := by
  obtain ⟨carries, apart, keyed⟩ := keyed_cons_iff.mp keyed
  refine congrArg stripItems (List.filter_congr fun e member => ?_)
  have other := sameKey_apart carries (keyed.carries e member) (apart e member) rfl
  rw [any_sameKey_after sorted named carries keyedB ran other]

/-- Merged by a key, a list has the elements of the base as what they become, and behind them the new
ones of the patch; it is merged if each of its elements is. -/
theorem mergeItems_eq_ok_iff (sorted : ∀ d ∈ patch, d.Sorted) (named : key ≠ directiveKey)
    (keyed : Keyed key patch) (keyedB : Keyed key base) :
    mergeItems type field path key patch base = .ok merged ↔
      ∃ kept, base.filterMapM (mergedItem type field path key patch) = .ok kept ∧
        merged = kept ++ addedItems key patch base := by
  rw [mergeItems_eq_foldlM]
  -- The induction is on the patch, over all lists that the elements before may have left.
  induction patch generalizing base with
  | nil =>
    have each : ∀ b ∈ base, mergedItem type field path key [] b = .ok (some b) := fun b _ => rfl
    rw [filterMapM_some each]
    simp [addedItems, stripItems, pure, Except.pure, eq_comm]
  | cons d rest ih =>
    obtain ⟨sortedD, sorted⟩ := List.forall_mem_cons.mp sorted
    obtain ⟨carries, apart, keyedRest⟩ := keyed_cons_iff.mp keyed
    have twoSteps (kept : List Document) :
        base.filterMapM (mergedItem type field path key (d :: rest)) = .ok kept ↔
          ∃ half, base.filterMapM (mergedItem type field path key [d]) = .ok half ∧
            half.filterMapM (mergedItem type field path key rest) = .ok kept :=
      filterMapM_comp fun b _ => mergedItem_bind sortedD named keyed b
    -- What the first element has added, the ones after it leave.
    have left : (addedItems key [d] base).filterMapM (mergedItem type field path key rest) =
        .ok (addedItems key [d] base) := by
      refine filterMapM_some fun x member => mergedItem_unnamed fun e later => ?_
      obtain ⟨_, isD, -, -, rfl⟩ := mem_addedItems.mp member
      cases List.mem_singleton.mp isD
      exact sameKey_apart carries (keyedRest.carries e later) (apart e later) (strip_carries named carries)
    have onwards (half : List Document)
        (ran : base.filterMapM (mergedItem type field path key [d]) = .ok half) :
        rest.foldlM (mergeItem type field path key) (half ++ addedItems key [d] base) = .ok merged ↔
          ∃ kept, half.filterMapM (mergedItem type field path key rest) = .ok kept ∧
            merged = kept ++ addedItems key (d :: rest) base := by
      have single : Keyed key [d] := keyed_cons_iff.mpr ⟨carries, by simp, ⟨by simp, .nil⟩⟩
      have keyedHalf := keyed_merged (by simpa using sortedD) named single keyedB ran
      rw [ih sorted keyedRest keyedHalf, addedItems_after sortedD named keyed keyedB ran,
        addedItems_cons d rest]
      constructor
      · rintro ⟨_, ranBoth, rfl⟩
        obtain ⟨kept, back, ranFront, ranBack, rfl⟩ := filterMapM_append_eq_ok.mp ranBoth
        cases ranBack.symm.trans left
        exact ⟨kept, ranFront, List.append_assoc ..⟩
      · rintro ⟨kept, ranFront, rfl⟩
        exact ⟨kept ++ addedItems key [d] base, filterMapM_append_eq_ok.mpr ⟨kept, _, ranFront, left, rfl⟩,
          (List.append_assoc ..).symm⟩
    rw [foldlM_cons_eq_ok]
    constructor
    · rintro ⟨between, first, later⟩
      obtain ⟨half, ran, rfl⟩ := (mergeItem_eq_ok_iff keyedB carries).mp first
      obtain ⟨kept, ran', result⟩ := (onwards half ran).mp later
      exact ⟨kept, (twoSteps kept).mpr ⟨half, ran, ran'⟩, result⟩
    · rintro ⟨kept, both, result⟩
      obtain ⟨half, ran, ran'⟩ := (twoSteps kept).mp both
      exact ⟨half ++ addedItems key [d] base, (mergeItem_eq_ok_iff keyedB carries).mpr ⟨half, ran, rfl⟩,
        (onwards half ran).mpr ⟨kept, ran', result⟩⟩

/-! ## Lists -/

/-- The key that identifies the elements of a list is no directive. -/
theorem mergeKey?_ne_directiveKey {name : String} (isKey : mergeKey? type name = some key) :
    key ≠ directiveKey := by
  simp only [mergeKey?] at isKey
  split at isKey
  · cases isKey
    decide
  · split at isKey
    · cases isKey
      decide
    · split at isKey
      · cases isKey
        split <;> decide
      · contradiction

theorem Keyed.allKeyed {items : List Document} (keyed : Keyed key items) : allKeyed key items := by
  refine List.all_eq_true.mpr fun d member => ?_
  obtain ⟨k, stored, -⟩ := keyed.carries d member
  rw [stored]
  rfl

theorem mergeValue_byKey {name : String} (isKey : mergeKey? type name = some key)
    (keyed : allKeyed key patch) (keyedB : allKeyed key base) :
    mergeValue type (some name) path (.list patch) (.list base) =
      .list <$> mergeItems type (some name) path key patch base := by
  have chosen : ((some name).bind (mergeKey? type)).filter
      (fun key => allKeyed key base && allKeyed key patch) = some key := by
    simp [isKey, keyed, keyedB]
  simp only [mergeValue, chosen]
  cases mergeItems type (some name) path key patch base <;> rfl

/-- No element of the patch has the key of an element. -/
def unnamed (key : String) (patch : List Document) (b : Document) : Bool := !patch.any (sameKey key · b)

/-- A list with different keys and a patch with different keys merge, if each element does, into what
the elements become, in their order, and the new elements of the patch behind them. The elements whose
keys the patch does not name are there as they were, and the keys stay different. -/
theorem mergeValue_keyed {name : String} (path : String) (isKey : mergeKey? type name = some key)
    (sorted : (Document.list patch).Sorted) (keyed : Keyed key patch) (keyedB : Keyed key base) :
    (∀ result, mergeValue type (some name) path (.list patch) (.list base) = .ok result ↔
      ∃ kept, base.filterMapM (mergedItem type (some name) path key patch) = .ok kept ∧
        result = .list (kept ++ addedItems key patch base)) ∧
    ∀ kept, base.filterMapM (mergedItem type (some name) path key patch) = .ok kept →
      kept.filter (unnamed key patch) = base.filter (unnamed key patch) ∧
      Keyed key (kept ++ addedItems key patch base) ∧
      ∀ b ∈ base, ∀ m, mergedItem type (some name) path key patch b = .ok (some m) →
        ∀ c, sameKey key c m = sameKey key c b := by
  have named := mergeKey?_ne_directiveKey isKey
  rw [Document.sorted_list_iff] at sorted
  have like : ∀ b ∈ base, ∀ m, mergedItem type (some name) path key patch b = .ok (some m) →
      ∀ c, sameKey key c m = sameKey key c b := fun b member m ran =>
    (mergedItem_sameKey sorted named keyed.carries (keyedB.carries b member) ran).2
  refine ⟨fun result => ?_, fun kept ran => ⟨?_, keyed_merged sorted named keyed keyedB ran, like⟩⟩
  · rw [mergeValue_byKey isKey keyed.allKeyed keyedB.allKeyed, map_eq_ok]
    simp only [mergeItems_eq_ok_iff sorted named keyed keyedB]
    constructor
    · rintro ⟨_, ⟨kept, ran, rfl⟩, rfl⟩
      exact ⟨kept, ran, rfl⟩
    · rintro ⟨kept, ran, rfl⟩
      exact ⟨_, ⟨kept, ran, rfl⟩, rfl⟩
  · refine filter_filterMapM (fun b member m? becomes => ?_) ran
    cases isUnnamed : unnamed key patch b with
    | true =>
      have apart : ∀ d ∈ patch, sameKey key d b = false := by simpa [unnamed] using isUnnamed
      cases (mergedItem_unnamed apart).symm.trans becomes
      rfl
    | false =>
      cases m? with
      | none => simp [isUnnamed]
      | some m =>
        have same : unnamed key patch m = unnamed key patch b := by
          rw [unnamed, unnamed, funext fun d => like b member m becomes d]
        simp [same, isUnnamed]

/-- A container with a name and an image. -/
def container (name image : String) : Document := .map [("image", .string image), ("name", .string name)]

/-- A patch that removes one container, gives another one its image and adds a third one. -/
def containerPatch : List Document :=
  [.map [("$patch", .string "delete"), ("name", .string "old")], container "web" "web:2",
    .map [("$patch", .string "merge"), ("image", .string "cache:1"), ("name", .string "cache")]]

/-- The containers that stay are where they were, and the new one is behind them. -/
theorem containers_merged :
    mergeValue ⟨"apps", "v1", "Deployment"⟩ (some "containers") "" (.list containerPatch)
        (.list [container "web" "web:1", container "old" "old:1", container "log" "log:1"]) =
      .ok (.list [container "web" "web:2", container "log" "log:1", container "cache" "cache:1"]) ∧
    Keyed "name" [container "web" "web:2", container "log" "log:1", container "cache" "cache:1"] := by
  have isKey : mergeKey? ⟨"apps", "v1", "Deployment"⟩ "containers" = some "name" := rfl
  have sorted : (Document.list containerPatch).Sorted := by decide
  have keyed : Keyed "name" containerPatch := by decide
  have keyedB : Keyed "name" [container "web" "web:1", container "old" "old:1", container "log" "log:1"] := by
    decide
  obtain ⟨merges, keeps⟩ := mergeValue_keyed "" isKey sorted keyed keyedB
  exact ⟨(merges _).mpr ⟨[container "web" "web:2", container "log" "log:1"], rfl, rfl⟩,
    (keeps [container "web" "web:2", container "log" "log:1"] rfl).2.1⟩

end Patch

end KubeOverlay
