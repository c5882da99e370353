import KubeOverlay.FileTree
/-!
# Places in a file tree

Different paths may lead to one place of a file tree. The names of a place are what is left of a path
when its dots are taken for what they mean (`FileSystem.place`). What a path leads to stands where the
names of its place lead (`FileSystem.walk_place`), and the place of a path in a directory depends on
the place of the directory only (`FileSystem.place_join`).
-/
namespace KubeOverlay

namespace FileTree

/-- The names from the top of a tree to where names lead from a place in it. -/
def namesFrom (place : List String) : List String → List String
  | [] => place
  | name :: rest =>
    if name == "" || name == "." then namesFrom place rest
    else if name == ".." then namesFrom place.dropLast rest
    else namesFrom (place ++ [name]) rest

theorem namesFrom_append (place names more : List String) :
    namesFrom place (names ++ more) = namesFrom (namesFrom place names) more := by
  induction names generalizing place with
  | nil => rfl
  | cons name rest ih =>
    rw [List.cons_append, namesFrom, namesFrom]
    split
    · exact ih place
    · split
      · exact ih place.dropLast
      · exact ih (place ++ [name])

/-- An empty name leads nowhere else. -/
theorem namesFrom_empty (place : List String) : namesFrom place [""] = place := rfl

/-- The names of a place, with the directories above what stands there, the nearest first. -/
inductive Stands (top : FileTree) : (place : List String) → (above : List FileTree) → FileTree → Prop where
  | top : Stands top [] [] top
  | inside {place : List String} {above : List FileTree} {entries : List (String × FileTree)} {name : String}
      {t : FileTree} (directory : Stands top place above (.directory entries))
      (counts : (name == "" || name == ".") = false) (named : (name == "..") = false)
      (fits : ¬ maxNameSize < name.utf8ByteSize) (found : Ordered.find? name entries = some t) :
      Stands top (place ++ [name]) (.directory entries :: above) t

variable {top here t : FileTree} {place : List String} {above : List FileTree}

/-- A walk from the top may as well start at a place on its way. -/
theorem Stands.walk (stands : Stands top place above here) (more : List String) :
    top.walk [] (place ++ more) = here.walk above more := by
  induction stands generalizing more with
  | top => rfl
  | @inside place above entries name t _ counts named fits found ih =>
    rw [List.append_assoc, List.singleton_append, ih, FileTree.walk.eq_def]
    simp only [counts, named, fits, found, Bool.false_eq_true, ↓reduceIte]

/-- What names lead to stands at the place that they name. -/
theorem Stands.walk_namesFrom (stands : Stands top place above here) {names : List String}
    (led : here.walk above names = .ok t) : top.walk [] (namesFrom place names) = .ok t := by
  induction names generalizing place above here with
  | nil =>
    have back := stands.walk []
    rw [List.append_nil] at back
    rw [namesFrom, back, led]
  | cons name rest ih =>
    cases here with
    | file content => simp [FileTree.walk] at led
    | directory entries =>
      rw [FileTree.walk.eq_def] at led
      dsimp only at led
      rw [namesFrom]
      split
      · next skipped =>
        rw [if_pos skipped] at led
        exact ih stands led
      · next counts =>
        rw [if_neg counts] at led
        split
        · next up =>
          rw [if_pos up] at led
          -- The top is its own parent.
          cases stands with
          | top => exact ih .top led
          | inside directory =>
            rw [List.dropLast_concat]
            exact ih directory led
        · next named =>
          rw [if_neg named] at led
          split at led
          · contradiction
          · next fits =>
            split at led
            · contradiction
            · next found =>
              exact ih (stands.inside (Bool.not_eq_true _ ▸ counts) (Bool.not_eq_true _ ▸ named) fits found) led

end FileTree

namespace Path

/-- A slash is put after the directory unless one is there. -/
theorem toList_join {directory path : String} (relative : isAbsolute path = false) (named : directory ≠ "") :
    ∃ before, (join directory path).toList = before ++ '/' :: path.toList ∧
      (directory.toList = before ∨ directory.toList = before ++ ['/']) := by
  have unnamed : (directory == "") = false := by simpa using named
  rw [join, relative, unnamed, Bool.or_false, if_neg Bool.false_ne_true]
  split
  · next slash =>
    obtain ⟨before, ends⟩ := List.getLast?_eq_some_iff.mp (beq_iff_eq.mp slash)
    exact ⟨before, by rw [String.toList_append, ends, List.append_assoc]; rfl, .inr ends⟩
  · exact ⟨directory.toList, by simp [String.toList_append], .inl rfl⟩

theorem isAbsolute_join {directory path : String} (relative : isAbsolute path = false)
    (named : directory ≠ "") : isAbsolute (join directory path) = isAbsolute directory := by
  obtain ⟨before, joined, rfl | ends⟩ := toList_join relative named
  · rw [isAbsolute, isAbsolute, joined]
    cases chars : directory.toList with
    | nil => exact absurd (String.toList_eq_nil_iff.mp chars) named
    | cons c rest => rfl
  · rw [isAbsolute, isAbsolute, joined, ends]
    cases before <;> rfl

/-- The names of a path in a directory are those of both, and perhaps an empty one between them. -/
theorem names_join {directory path : String} (relative : isAbsolute path = false) (named : directory ≠ "") :
    names directory ++ names path = names (join directory path) ∨
      ∃ first, names directory = first ++ [""] ∧ names (join directory path) = first ++ names path := by
  obtain ⟨before, joined, rfl | ends⟩ := toList_join relative named
  · left
    simp only [names, joined, List.splitOn_append_cons_self, List.map_append]
  · right
    refine ⟨(before.splitOn '/').map String.ofList, ?_, ?_⟩
    · simp only [names, ends, List.splitOn_append_cons_self, List.map_append]
      rfl
    · simp only [names, joined, List.splitOn_append_cons_self, List.map_append]

end Path

namespace FileSystem

open FileTree (namesFrom namesFrom_append namesFrom_empty)

variable {files : FileSystem} {t : FileTree}

/-- The names from the top to where a path leads. -/
def place (files : FileSystem) (path : String) : List String := namesFrom [] (files.fullNames path)

theorem walk_place {path : String} (found : files.lookup path = .ok t) :
    files.top.walk [] (files.place path) = .ok t := by
  rw [lookup] at found
  cases checked : checkPath path with
  | error fault => simp [checked, bind, Except.bind] at found
  | ok _ =>
    rw [checked] at found
    exact FileTree.Stands.top.walk_namesFrom found

/-- Paths of one place lead to the same. -/
theorem eq_of_place {path path' : String} {t' : FileTree} (found : files.lookup path = .ok t)
    (found' : files.lookup path' = .ok t') (same : files.place path = files.place path') : t = t' :=
  Except.ok.inj ((walk_place found).symm.trans (same ▸ walk_place found'))

theorem lookup_of_readText {path text : String} (read : files.readText path = .ok text) :
    ∃ content, files.lookup path = .ok (.file content) ∧ String.fromUTF8? content = some text := by
  rw [readText, readBytes] at read
  cases found : files.lookup path with
  | error fault => simp [found, bind, Except.bind] at read
  | ok t =>
    cases t with
    | directory entries => simp [found, bind, Except.bind, throw, throwThe, MonadExceptOf.throw] at read
    | file content =>
      refine ⟨content, rfl, ?_⟩
      cases decoded : String.fromUTF8? content with
      | none => simp [found, decoded, bind, Except.bind, pure, Except.pure, throw, throwThe, MonadExceptOf.throw] at read
      | some other => simpa [found, decoded, bind, Except.bind, pure, Except.pure] using read

/-- Paths of one place lead to the same text. -/
theorem text_eq_of_place {path path' text text' : String} (read : files.readText path = .ok text)
    (read' : files.readText path' = .ok text') (same : files.place path = files.place path') : text = text' := by
  obtain ⟨content, found, decoded⟩ := lookup_of_readText read
  obtain ⟨content', found', decoded'⟩ := lookup_of_readText read'
  cases eq_of_place found found' same
  exact Option.some.inj (decoded.symm.trans decoded')

/-- A relative path goes on from the place of the directory. -/
theorem place_join {directory : String} (named : directory ≠ "") (path : String) :
    files.place (Path.join directory path) =
      if Path.isAbsolute path then files.place path
      else namesFrom (files.place directory) (Path.names path) := by
  split
  · next absolute => rw [Path.join, absolute, Bool.true_or, if_pos rfl]
  · next relative =>
    rw [Bool.not_eq_true] at relative
    have start : ∃ above, files.fullNames directory = above ++ Path.names directory ∧
        files.fullNames (Path.join directory path) = above ++ Path.names (Path.join directory path) := by
      rw [fullNames, fullNames, Path.isAbsolute_join relative named]
      split
      · exact ⟨[], rfl, rfl⟩
      · exact ⟨files.workingDirectory, rfl, rfl⟩
    obtain ⟨above, before, joined⟩ := start
    rw [place, place, before, joined, namesFrom_append, namesFrom_append]
    rcases Path.names_join relative named with both | ⟨first, ends, both⟩
    · rw [← both, namesFrom_append]
    · rw [ends, both, namesFrom_append, namesFrom_append, namesFrom_empty]

theorem place_join_congr {directory directory' : String} (named : directory ≠ "") (named' : directory' ≠ "")
    (same : files.place directory = files.place directory') (path : String) :
    files.place (Path.join directory path) = files.place (Path.join directory' path) := by
  rw [place_join named, place_join named', same]

end FileSystem

end KubeOverlay
