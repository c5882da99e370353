import KubeOverlay.Proofs.ListOrder
import KubeOverlay.Proofs.SourceTexts
/-!
# What generators make of their sources

Literals, files and the lines of a file each supply one item, a key with bytes (`Generator.Supplied`).
A generator succeeds exactly if all sources can be used and the keys fit, and its object then holds one
entry for each item and no other, from which the bytes can be had back
(`Generator.sources_reproduced`).
-/
namespace KubeOverlay.Generator

variable {files : FileSystem} {directory : String}

/-- A key with the bytes that belong to it. -/
abbrev Item := String × List UInt8

/-! ## Items of sources -/

/-- The item of a literal or of a line: its bytes are those of everything after the first equals sign. -/
def PairItem (text : String) (item : Item) : Prop :=
  ∃ value, Text.IsPair text item.1 value ∧ value.toUTF8.toList = item.2

/-- The key of a file source and the path of the file. A source without a key has the name at the end of
the path as its key. -/
def NamesFile (source key path : String) : Prop :=
  Text.IsPair source key path ∨
    '=' ∉ source.toList ∧ source = path ∧ (Path.steps source).getLast? = some key ∧ key ≠ ".."

/-- The item of a file source: its bytes are those of the file. -/
def FileItem (files : FileSystem) (directory source : String) (item : Item) : Prop :=
  ∃ path content, NamesFile source item.1 path ∧
    files.readBytes (Path.join directory path) = .ok content ∧ content.toList = item.2

/-- The items of the lines of a file that is text, if there is one. -/
def LineItems (files : FileSystem) (directory : String) : Option String → List Item → Prop
  | none, items => items = []
  | some path, items => ∃ text lines, files.readBytes (Path.join directory path) = .ok text.toUTF8 ∧
      EntryLines text lines ∧ List.Forall₂ PairItem lines items

/-- The items of all sources, in their order. -/
def Supplied (files : FileSystem) (directory : String) (s : Sources) (items : List Item) : Prop :=
  ∃ ofLiterals ofFiles ofLines, List.Forall₂ PairItem s.literals ofLiterals ∧
    List.Forall₂ (FileItem files directory) s.files ofFiles ∧ LineItems files directory s.env ofLines ∧
    ofLiterals ++ (ofFiles ++ ofLines) = items

/-- All sources can be split into keys and values, and the files can be read. -/
structure Usable (files : FileSystem) (directory : String) (s : Sources) : Prop where
  literals : ∀ literal ∈ s.literals, '=' ∈ literal.toList
  named : ∀ source ∈ s.files, ∃ key path content, NamesFile source key path ∧
    files.readBytes (Path.join directory path) = .ok content
  env : ∀ path ∈ s.env, ∃ text lines, files.readBytes (Path.join directory path) = .ok text.toUTF8 ∧
    EntryLines text lines ∧ ∀ line ∈ lines, '=' ∈ line.toList

/-- A key that an entry may have. -/
def ValidKey (key : String) : Prop :=
  key ≠ "" ∧ ∀ c ∈ key.toList, ('A' ≤ c ∧ c ≤ 'Z') ∨ ('a' ≤ c ∧ c ≤ 'z') ∨ ('0' ≤ c ∧ c ≤ '9') ∨
    c = '-' ∨ c = '_' ∨ c = '.'

/-- All keys are valid, and no two are the same. -/
structure KeysFit (items : List Item) : Prop where
  valid : ∀ item ∈ items, ValidKey item.1
  distinct : (items.map (·.1)).Nodup

/-! ## Every source supplies at most one item -/

theorem exists_forall₂ {α β : Type} {R : α → β → Prop} {l : List α} :
    (∃ l', List.Forall₂ R l l') ↔ ∀ a ∈ l, ∃ b, R a b := by
  constructor
  · rintro ⟨l', related⟩ a member
    obtain ⟨b, -, holds⟩ := exists_of_mem_left related member
    exact ⟨b, holds⟩
  · intro each
    induction l with
    | nil => exact ⟨[], .nil⟩
    | cons a rest ih =>
      rw [List.forall_mem_cons] at each
      obtain ⟨b, holds⟩ := each.1
      obtain ⟨l', related⟩ := ih each.2
      exact ⟨b :: l', .cons holds related⟩

theorem readIn_eq_ok {α : Type} {read : String → Except FileFault α} {path : String} {a : α} :
    readIn read directory path = .ok a ↔ read (Path.join directory path) = .ok a := by
  rw [readIn]
  cases read (Path.join directory path) <;> simp

theorem exists_pairItem_iff {text : String} : (∃ item, PairItem text item) ↔ '=' ∈ text.toList := by
  rw [← Text.exists_isPair_iff]
  constructor
  · rintro ⟨item, value, pair, -⟩
    exact ⟨item.1, value, pair⟩
  · rintro ⟨key, value, pair⟩
    exact ⟨(key, _), value, pair, rfl⟩

theorem pairItem_unique : Relator.RightUnique PairItem := by
  rintro text a b ⟨value, pair, bytes⟩ ⟨value', pair', bytes'⟩
  have same := Option.some.inj (pair.splitPair?_eq.symm.trans pair'.splitPair?_eq)
  obtain ⟨key, rfl⟩ := Prod.mk.inj same
  exact Prod.ext key (bytes.symm.trans bytes')

theorem pairBrings_iff {text : String} (item : Item) : PairBrings text item.1 item.2 ↔ PairItem text item :=
  exists_congr fun _ => and_congr_left fun _ => Text.splitPair?_eq_some

theorem fileName?_eq_some {path name : String} :
    Path.fileName? path = some name ↔ (Path.steps path).getLast? = some name ∧ name ≠ ".." := by
  rw [Path.fileName?, Option.filter_eq_some_iff, bne_iff_ne]

theorem fileSource_eq_ok {source key path : String} :
    fileSource source = .ok (key, path) ↔ NamesFile source key path := by
  rw [fileSource, NamesFile]
  by_cases sign : '=' ∈ source.toList
  · obtain ⟨key', path', pair⟩ := Text.exists_isPair_iff.mpr sign
    rw [← Text.splitPair?_eq_some, pair.splitPair?_eq]
    simp [sign]
  · have noPair : ¬ Text.IsPair source key path :=
      fun pair => sign (Text.exists_isPair_iff.mp ⟨key, path, pair⟩)
    rw [Text.splitPair?_eq_none sign, ← fileName?_eq_some]
    cases Path.fileName? source with
    | none => simp [noPair]
    | some name => simp [noPair, sign, and_comm]

theorem sourceBrings_iff {source : String} (item : Item) :
    SourceBrings files directory source item.1 item.2 ↔ FileItem files directory source item := by
  simp only [SourceBrings, FileItem, fileSource_eq_ok, readIn_eq_ok]

theorem fileItem_unique : Relator.RightUnique (FileItem files directory) := by
  rintro source a b ⟨path, content, named, read, bytes⟩ ⟨path', content', named', read', bytes'⟩
  have same := Except.ok.inj ((fileSource_eq_ok.mpr named).symm.trans (fileSource_eq_ok.mpr named'))
  obtain ⟨key, rfl⟩ := Prod.mk.inj same
  cases read.symm.trans read'
  exact Prod.ext key (bytes.symm.trans bytes')

theorem lineItems_unique : Relator.RightUnique (LineItems files directory) := by
  intro env a b left right
  cases env with
  | none => exact Eq.trans left (Eq.symm right)
  | some path =>
    obtain ⟨text, lines, read, found, items⟩ := left
    obtain ⟨text', lines', read', found', items'⟩ := right
    obtain rfl : text = text' := String.toByteArray_inj.mp (Except.ok.inj (read.symm.trans read'))
    obtain rfl := (entryLines_eq_iff.mpr found).symm.trans (entryLines_eq_iff.mpr found')
    exact List.right_unique_forall₂' pairItem_unique items items'

theorem Supplied.unique {s : Sources} {a b : List Item} (left : Supplied files directory s a)
    (right : Supplied files directory s b) : a = b := by
  obtain ⟨ofLiterals, ofFiles, ofLines, literals, fromFiles, lines, rfl⟩ := left
  obtain ⟨ofLiterals', ofFiles', ofLines', literals', fromFiles', lines', rfl⟩ := right
  rw [List.right_unique_forall₂' pairItem_unique literals literals',
    List.right_unique_forall₂' fileItem_unique fromFiles fromFiles', lineItems_unique lines lines']

theorem exists_supplied_iff {s : Sources} :
    (∃ items, Supplied files directory s items) ↔ Usable files directory s := by
  constructor
  · rintro ⟨_, ofLiterals, ofFiles, ofLines, literals, fromFiles, lines, -⟩
    refine ⟨fun literal member => ?_, fun source member => ?_, fun path member => ?_⟩
    · obtain ⟨item, -, pair⟩ := exists_of_mem_left literals member
      exact exists_pairItem_iff.mp ⟨item, pair⟩
    · obtain ⟨item, -, path, content, named, read, -⟩ := exists_of_mem_left fromFiles member
      exact ⟨item.1, path, content, named, read⟩
    · rw [Option.mem_def.mp member] at lines
      obtain ⟨text, found, read, entries, items⟩ := lines
      refine ⟨text, found, read, entries, fun line member => ?_⟩
      obtain ⟨item, -, pair⟩ := exists_of_mem_left items member
      exact exists_pairItem_iff.mp ⟨item, pair⟩
  · rintro ⟨literals, named, env⟩
    obtain ⟨ofLiterals, supplied⟩ := exists_forall₂.mpr fun literal member =>
      exists_pairItem_iff.mpr (literals literal member)
    have each : ∀ source ∈ s.files, ∃ item, FileItem files directory source item := by
      intro source member
      obtain ⟨key, path, content, names, read⟩ := named source member
      exact ⟨(key, content.toList), path, content, names, read, rfl⟩
    obtain ⟨ofFiles, supplied'⟩ := exists_forall₂.mpr each
    have lines : ∃ ofLines, LineItems files directory s.env ofLines := by
      cases present : s.env with
      | none => exact ⟨[], rfl⟩
      | some path =>
        obtain ⟨text, lines, read, found, signs⟩ := env path present
        obtain ⟨items, pairs⟩ := exists_forall₂.mpr fun line member =>
          exists_pairItem_iff.mpr (signs line member)
        exact ⟨items, text, lines, read, found, pairs⟩
    obtain ⟨ofLines, supplied''⟩ := lines
    exact ⟨_, ofLiterals, ofFiles, ofLines, supplied, supplied', supplied'', rfl⟩

/-! ## Entries of items -/

theorem isKey_iff {key : String} : isKey key = true ↔ ValidKey key := by
  have char (c : Char) : isKeyChar c = true ↔ ('A' ≤ c ∧ c ≤ 'Z') ∨ ('a' ≤ c ∧ c ≤ 'z') ∨
      ('0' ≤ c ∧ c ≤ '9') ∨ c = '-' ∨ c = '_' ∨ c = '.' := by
    have spelled : isKeyChar c = (decide ('A' ≤ c ∧ c ≤ 'Z') || (decide ('a' ≤ c) && decide (c ≤ 'z')) ||
      (decide ('0' ≤ c) && decide (c ≤ '9')) || c == '-' || c == '_' || c == '.') := rfl
    rw [spelled]
    simp only [Bool.or_eq_true, Bool.and_eq_true, decide_eq_true_eq, beq_iff_eq, or_assoc]
  rw [isKey, Bool.and_eq_true, bne_iff_ne, List.all_eq_true]
  exact and_congr_right fun _ => forall₂_congr fun c _ => char c

/-- One more entry, of an item. -/
def addItem (entries : Entries) (item : Item) : Except GeneratorFault Entries :=
  addEntry item.1 item.2 entries

/-- No key is there twice, so that of one entry is none of the others. -/
theorem apart_of_perm {entries : Entries} {item : Item} {others : List Item}
    (ascending : Ordered.Ascending entries) (perm : entries.Perm (item :: others)) :
    ∀ other ∈ others, other.1 ≠ item.1 := by
  have nodup := (perm.map (·.1)).nodup_iff.mp (Ordered.nodup_keys ascending)
  rw [List.map_cons, List.nodup_cons] at nodup
  exact fun other member same => nodup.1 (List.mem_map.mpr ⟨other, member, same⟩)

theorem addItem_eq_ok {entries entries' : Entries} {item : Item} (ascending : Ordered.Ascending entries) :
    addItem entries item = .ok entries' ↔
      ValidKey item.1 ∧ Ordered.Ascending entries' ∧ entries'.Perm (item :: entries) := by
  have inserted := Ordered.ascending_insert item.1 item.2 entries ascending
  rw [addItem, addEntry_eq_ok, isKey_iff]
  refine and_congr_right fun _ => ?_
  constructor
  · rintro ⟨free, rfl⟩
    exact ⟨inserted, Ordered.insert_perm free⟩
  · rintro ⟨ascending', perm⟩
    have free := Ordered.find?_eq_none_iff.mpr (apart_of_perm ascending' perm)
    exact ⟨free, Ordered.eq_of_perm inserted ascending' ((Ordered.insert_perm free).trans perm.symm)⟩

theorem addItems_eq_ok {items : List Item} {entries entries' : Entries}
    (ascending : Ordered.Ascending entries) : items.foldlM addItem entries = .ok entries' ↔
      (∀ item ∈ items, ValidKey item.1) ∧ Ordered.Ascending entries' ∧ entries'.Perm (items ++ entries) := by
  induction items generalizing entries with
  | nil =>
    constructor
    · intro ran
      cases ran
      exact ⟨by simp, ascending, .refl _⟩
    · rintro ⟨-, ascending', perm⟩
      rw [Ordered.eq_of_perm ascending' ascending perm]
      rfl
  | cons item rest ih =>
    rw [foldlM_cons_eq_ok, List.forall_mem_cons]
    constructor
    · rintro ⟨between, first, later⟩
      obtain ⟨valid, half, perm⟩ := (addItem_eq_ok ascending).mp first
      obtain ⟨others, ascending', perm'⟩ := (ih half).mp later
      exact ⟨⟨valid, others⟩, ascending', perm'.trans ((perm.append_left rest).trans List.perm_middle)⟩
    · rintro ⟨⟨valid, others⟩, ascending', perm⟩
      have apart := apart_of_perm ascending' perm
      have free : Ordered.find? item.1 entries = none :=
        Ordered.find?_eq_none_iff.mpr fun other member => apart other (List.mem_append_right rest member)
      have half := Ordered.ascending_insert item.1 item.2 entries ascending
      have onwards := perm.trans (List.perm_middle.symm.trans ((Ordered.insert_perm free).symm.append_left rest))
      exact ⟨_, (addItem_eq_ok ascending).mpr ⟨valid, half, Ordered.insert_perm free⟩,
        (ih half).mpr ⟨others, ascending', onwards⟩⟩

theorem foldlM_addEntry_iff {α : Type} {f : Entries → α → Except GeneratorFault Entries}
    {B : α → Item → Prop} (adds : ∀ entries a entries', f entries a = .ok entries' ↔
      ∃ item, B a item ∧ addItem entries item = .ok entries')
    {l : List α} {entries entries' : Entries} : l.foldlM f entries = .ok entries' ↔
      ∃ items, List.Forall₂ B l items ∧ items.foldlM addItem entries = .ok entries' := by
  induction l generalizing entries with
  | nil => simp [List.forall₂_nil_left_iff]
  | cons a rest ih =>
    simp only [foldlM_cons_eq_ok, adds, ih, List.forall₂_cons_left_iff]
    constructor
    · rintro ⟨between, ⟨item, brings, added⟩, items, bring, ran⟩
      exact ⟨item :: items, ⟨item, items, brings, bring, rfl⟩, foldlM_cons_eq_ok.mpr ⟨between, added, ran⟩⟩
    · rintro ⟨_, ⟨item, items, brings, bring, rfl⟩, ran⟩
      obtain ⟨between, added, ran⟩ := foldlM_cons_eq_ok.mp ran
      exact ⟨between, ⟨item, brings, added⟩, items, bring, ran⟩

theorem addPair_eq_addItem (entries : Entries) (text : String) (entries' : Entries) :
    addPair entries text = .ok entries' ↔ ∃ item, PairItem text item ∧ addItem entries item = .ok entries' := by
  rw [addPair_eq_ok, Prod.exists]
  exact exists_congr fun key => exists_congr fun value => and_congr_left fun _ =>
    pairBrings_iff (key, value)

theorem addFile_eq_addItem (entries : Entries) (source : String) (entries' : Entries) :
    addFile files directory entries source = .ok entries' ↔
      ∃ item, FileItem files directory source item ∧ addItem entries item = .ok entries' := by
  rw [addFile_eq_ok, Prod.exists]
  exact exists_congr fun key => exists_congr fun value => and_congr_left fun _ =>
    sourceBrings_iff (key, value)

theorem readText_eq_ok {path text : String} :
    files.readText path = .ok text ↔ files.readBytes path = .ok text.toUTF8 := by
  rw [FileSystem.readText, bind_eq_ok]
  constructor
  · rintro ⟨content, read, decoded⟩
    split at decoded
    · next found =>
      cases decoded
      rw [read, fromUTF8?_eq_some.mp found]
    · contradiction
  · intro read
    refine ⟨_, read, ?_⟩
    rw [fromUTF8?_eq_some.mpr rfl]
    rfl

/-- The entries of the lines of a file, if there is one, are added one after the other. -/
theorem addLines_eq_addItems {env : Option String} {entries entries' : Entries} :
    (match env with
      | none => pure entries
      | some path => do
        let text ← readIn files.readText directory path
        (entryLines text).foldlM addPair entries) = .ok entries' ↔
      ∃ items, LineItems files directory env items ∧ items.foldlM addItem entries = .ok entries' := by
  cases env with
  | none => simp [LineItems]
  | some path =>
    simp only [bind_eq_ok, readIn_eq_ok, readText_eq_ok, foldlM_addEntry_iff addPair_eq_addItem, LineItems]
    constructor
    · rintro ⟨text, read, items, pairs, ran⟩
      exact ⟨items, ⟨text, _, read, entryLines_eq_iff.mp rfl, pairs⟩, ran⟩
    · rintro ⟨items, ⟨text, lines, read, found, pairs⟩, ran⟩
      rw [← entryLines_eq_iff.mpr found] at pairs
      exact ⟨text, read, items, pairs, ran⟩

theorem collect_eq_addItems {s : Sources} {entries : Entries} : collect files directory s = .ok entries ↔
    ∃ items, Supplied files directory s items ∧ items.foldlM addItem [] = .ok entries := by
  have stages : collect files directory s = .ok entries ↔ ∃ ofLiterals ofFiles ofLines,
      List.Forall₂ PairItem s.literals ofLiterals ∧ List.Forall₂ (FileItem files directory) s.files ofFiles ∧
      LineItems files directory s.env ofLines ∧
      (ofLiterals ++ (ofFiles ++ ofLines)).foldlM addItem [] = .ok entries := by
    simp only [collect, bind_eq_ok, foldlM_addEntry_iff addPair_eq_addItem,
      foldlM_addEntry_iff addFile_eq_addItem, List.foldlM_append]
    constructor
    · rintro ⟨pairs, ⟨ofLiterals, literals, ran⟩, more, ⟨ofFiles, fromFiles, ran'⟩, last⟩
      obtain ⟨ofLines, lines, ran''⟩ := addLines_eq_addItems.mp last
      exact ⟨ofLiterals, ofFiles, ofLines, literals, fromFiles, lines, pairs, ran, more, ran', ran''⟩
    · rintro ⟨ofLiterals, ofFiles, ofLines, literals, fromFiles, lines, pairs, ran, more, ran', ran''⟩
      exact ⟨pairs, ⟨ofLiterals, literals, ran⟩, more, ⟨ofFiles, fromFiles, ran'⟩,
        addLines_eq_addItems.mpr ⟨ofLines, lines, ran''⟩⟩
  rw [stages]
  constructor
  · rintro ⟨ofLiterals, ofFiles, ofLines, literals, fromFiles, lines, ran⟩
    exact ⟨_, ⟨ofLiterals, ofFiles, ofLines, literals, fromFiles, lines, rfl⟩, ran⟩
  · rintro ⟨_, ⟨ofLiterals, ofFiles, ofLines, literals, fromFiles, lines, rfl⟩, ran⟩
    exact ⟨ofLiterals, ofFiles, ofLines, literals, fromFiles, lines, ran⟩

theorem collect_eq_ok {s : Sources} {entries : Entries} :
    collect files directory s = .ok entries ↔ ∃ items, Supplied files directory s items ∧ KeysFit items ∧
      Ordered.Ascending entries ∧ entries.Perm items := by
  rw [collect_eq_addItems]
  refine exists_congr fun items => and_congr_right fun _ => ?_
  rw [addItems_eq_ok Ordered.ascending_nil, List.append_nil]
  constructor
  · rintro ⟨valid, ascending, perm⟩
    exact ⟨⟨valid, (perm.map (·.1)).nodup_iff.mp (Ordered.nodup_keys ascending)⟩, ascending, perm⟩
  · rintro ⟨fit, ascending, perm⟩
    exact ⟨fit.valid, ascending, perm⟩

/-! ## Objects of entries -/

/-- The field in which the text of an item is kept. -/
def TextField (item : Item) (field : String × Document) : Prop :=
  ∃ text, text.toUTF8.toList = item.2 ∧ field = (item.1, .string text)

/-- The field in which an item is kept in Base64. -/
def EncodedField (item : Item) (field : String × Document) : Prop :=
  ∃ text, text.toList = Base64.encode item.2 ∧ Base64.decode? text.toList = some item.2 ∧
    field = (item.1, .string text)

/-- The field in which an item that is no text is kept. -/
def BinaryField (item : Item) (field : String × Document) : Prop :=
  (∀ text : String, text.toUTF8.toList ≠ item.2) ∧ EncodedField item field

/-- A ConfigMap with one field for each item: those that are texts are data, the others binary data. -/
def IsConfigMap (name : String) (items : List Item) (object : Document) : Prop :=
  ∃ texts others data binary, items.Perm (texts ++ others) ∧ List.Forall₂ TextField texts data ∧
    List.Forall₂ BinaryField others binary ∧ Ordered.Ascending data ∧ Ordered.Ascending binary ∧
    object = .map (("apiVersion", .string "v1") ::
      (if binary = [] then [] else [("binaryData", .map binary)]) ++
      [("data", .map data), ("kind", .string "ConfigMap"), ("metadata", .map [("name", .string name)])])

/-- A Secret with one field for each item. -/
def IsSecret (name : String) (type : Option String) (items : List Item) (object : Document) : Prop :=
  ∃ sorted data, items.Perm sorted ∧ List.Forall₂ EncodedField sorted data ∧ Ordered.Ascending data ∧
    object = .map [("apiVersion", .string "v1"), ("data", .map data), ("kind", .string "Secret"),
      ("metadata", .map [("name", .string name)]), ("type", .string (type.getD "Opaque"))]

theorem encodedField_iff {item : Item} {field : String × Document} :
    EncodedField item field ↔ field = (item.1, encoded item.2) := by
  constructor
  · rintro ⟨text, codes, -, rfl⟩
    rw [encoded, ← codes, String.ofList_toList]
  · rintro rfl
    exact ⟨_, String.toList_ofList, by rw [String.toList_ofList, Base64.decode?_encode], rfl⟩

theorem ascending_encoded {entries : Entries} (ascending : Ordered.Ascending entries) :
    Ordered.Ascending (entries.map fun e => (e.1, encoded e.2)) :=
  List.pairwise_map.mpr ascending

theorem secretObject_eq (name : String) (type : Option String) (entries : Entries) :
    secretObject name type entries = .map [("apiVersion", .string "v1"),
      ("data", .map (entries.map fun e => (e.1, encoded e.2))), ("kind", .string "Secret"),
      ("metadata", .map [("name", .string name)]), ("type", .string (type.getD "Opaque"))] := by
  rw [secretObject, objectOf, Document.ofFields, Ordered.ofList]
  generalize Document.map (entries.map fun e => (e.1, encoded e.2)) = data
  dsimp only [List.foldl_cons, List.foldl_nil, List.cons_append, List.nil_append]
  cbv

theorem isSecret_iff {name : String} {type : Option String} {items : List Item} {entries : Entries}
    {object : Document} (ascending : Ordered.Ascending entries) (perm : entries.Perm items) :
    IsSecret name type items object ↔ object = secretObject name type entries := by
  rw [secretObject_eq]
  constructor
  · rintro ⟨sorted, data, perm', fields, ascending', rfl⟩
    have mapped : data = sorted.map fun e => (e.1, encoded e.2) := by
      rw [← List.forall₂_eq_eq_eq, List.forall₂_map_right_iff]
      exact fields.flip.imp fun _ _ field => encodedField_iff.mp field
    rw [mapped] at ascending'
    have same : sorted = entries :=
      Ordered.eq_of_perm (List.pairwise_map.mp ascending') ascending (perm.trans perm').symm
    rw [mapped, same]
  · rintro rfl
    refine ⟨entries, _, perm.symm, ?_, ascending_encoded ascending, rfl⟩
    rw [List.forall₂_map_right_iff, List.forall₂_same]
    exact fun e _ => encodedField_iff.mpr rfl

theorem textField_iff {item : Item} {field : String × Document} :
    TextField item field ↔ (textOf? item.2).map (fun s => (item.1, Document.string s)) = some field := by
  rw [Option.map_eq_some_iff]
  exact exists_congr fun s => and_congr textOf?_eq_some.symm eq_comm

theorem binaryField_iff {item : Item} {field : String × Document} :
    BinaryField item field ↔ textOf? item.2 = none ∧ field = (item.1, encoded item.2) := by
  rw [BinaryField, encodedField_iff, Option.eq_none_iff_forall_ne_some]
  simp only [ne_eq, textOf?_eq_some]

/-- The fields of the items that are texts. -/
def textFields (items : List Item) : Fields :=
  items.filterMap fun e => (textOf? e.2).map fun s => (e.1, .string s)

/-- The fields of the items that are no texts. -/
def binaryFields (items : List Item) : Fields :=
  (items.filter fun e => (textOf? e.2).isNone).map fun e => (e.1, encoded e.2)

theorem configMapObject_eq (name : String) (entries : Entries) :
    configMapObject name entries = .map (("apiVersion", .string "v1") ::
      (if binaryFields entries = [] then [] else [("binaryData", .map (binaryFields entries))]) ++
      [("data", .map (textFields entries)), ("kind", .string "ConfigMap"),
        ("metadata", .map [("name", .string name)])]) := by
  have folded : configMapObject name entries = objectOf "ConfigMap" name (("data", .map (textFields entries)) ::
      if (binaryFields entries).isEmpty then [] else [("binaryData", .map (binaryFields entries))]) := rfl
  rw [folded, objectOf, Document.ofFields, Ordered.ofList]
  generalize textFields entries = data
  generalize binaryFields entries = binary
  cases binary <;>
    simp only [List.isEmpty_nil, List.isEmpty_cons, reduceIte, Bool.false_eq_true, List.foldl_cons,
      List.foldl_nil, List.cons_append, List.nil_append] <;> cbv

theorem fields_text {item : Item} {text : String} (items : List Item)
    (decoded : textOf? item.2 = some text) :
    textFields (item :: items) = (item.1, .string text) :: textFields items ∧
      binaryFields (item :: items) = binaryFields items := by
  simp [textFields, binaryFields, decoded]

theorem fields_binary {item : Item} (items : List Item) (noText : textOf? item.2 = none) :
    textFields (item :: items) = textFields items ∧
      binaryFields (item :: items) = (item.1, encoded item.2) :: binaryFields items := by
  simp [textFields, binaryFields, noText]

/-- Items in two parts, the texts and the others, have the fields of the parts. -/
theorem fields_of_parts {texts others : List Item} {data binary : Fields}
    (fields : List.Forall₂ TextField texts data) (fields' : List.Forall₂ BinaryField others binary) :
    textFields (texts ++ others) = data ∧ binaryFields (texts ++ others) = binary := by
  induction fields with
  | nil =>
    induction fields' with
    | nil => exact ⟨rfl, rfl⟩
    | @cons item _ items _ field _ ih =>
      obtain ⟨noText, rfl⟩ := binaryField_iff.mp field
      obtain ⟨same, more⟩ := fields_binary items noText
      exact ⟨same.trans ih.1, more.trans (congrArg _ ih.2)⟩
  | @cons item _ items _ field _ ih =>
    obtain ⟨text, decoded, rfl⟩ := Option.map_eq_some_iff.mp (textField_iff.mp field)
    obtain ⟨more, same⟩ := fields_text (items ++ others) decoded
    exact ⟨more.trans (congrArg _ ih.1), same.trans ih.2⟩

theorem parts_of_fields (items : List Item) : ∃ texts others, items.Perm (texts ++ others) ∧
    List.Forall₂ TextField texts (textFields items) ∧ List.Forall₂ BinaryField others (binaryFields items) := by
  induction items with
  | nil => exact ⟨[], [], .refl _, .nil, .nil⟩
  | cons item rest ih =>
    obtain ⟨texts, others, perm, fields, fields'⟩ := ih
    cases decoded : textOf? item.2 with
    | some text =>
      obtain ⟨more, same⟩ := fields_text rest decoded
      rw [more, same]
      have field : TextField item (item.1, .string text) := textField_iff.mpr (by rw [decoded, Option.map_some])
      exact ⟨item :: texts, others, perm.cons item, .cons field fields, fields'⟩
    | none =>
      obtain ⟨same, more⟩ := fields_binary rest decoded
      rw [more, same]
      have field : BinaryField item (item.1, encoded item.2) := binaryField_iff.mpr ⟨decoded, rfl⟩
      exact ⟨texts, item :: others, (perm.cons item).trans List.perm_middle.symm, fields, .cons field fields'⟩

theorem isConfigMap_iff {name : String} {items : List Item} {entries : Entries} {object : Document}
    (ascending : Ordered.Ascending entries) (perm : entries.Perm items) :
    IsConfigMap name items object ↔ object = configMapObject name entries := by
  rw [configMapObject_eq]
  have texts : Ordered.Ascending (textFields entries) := ascending_texts ascending
  have binaries : Ordered.Ascending (binaryFields entries) := ascending_encoded (ascending.filter _)
  constructor
  · rintro ⟨_, _, _, _, split, fields, fields', ascending', ascending'', rfl⟩
    obtain ⟨rfl, rfl⟩ := fields_of_parts fields fields'
    have perm' := perm.trans split
    rw [← Ordered.eq_of_perm texts ascending' (perm'.filterMap _),
      ← Ordered.eq_of_perm binaries ascending'' ((perm'.filter _).map _)]
  · rintro rfl
    obtain ⟨_, _, split, fields, fields'⟩ := parts_of_fields entries
    exact ⟨_, _, _, _, perm.symm.trans split, fields, fields', texts, binaries, rfl⟩

/-! ## Generators -/

/-- A generator gives the object of what is supplied, if the keys fit. -/
theorem made_iff {Is : List Item → Document → Prop} {objectOf : Entries → Document} {name : String}
    {s : Sources} {r : Resource} (is_iff : ∀ items entries object, Ordered.Ascending entries →
      entries.Perm items → (Is items object ↔ object = objectOf entries)) :
    (do return ⟨objectOf (← entriesOf files directory name s), true⟩ : Except BuildError Resource) = .ok r ↔
      ∃ items, Supplied files directory s items ∧ KeysFit items ∧ r.generated = true ∧ Is items r.object := by
  simp only [bind_eq_ok, entriesOf_eq_ok, collect_eq_ok]
  constructor
  · rintro ⟨entries, ⟨items, supplied, fit, ascending, perm⟩, last⟩
    cases last
    exact ⟨items, supplied, fit, rfl, (is_iff items entries _ ascending perm).mpr rfl⟩
  · rintro ⟨items, supplied, fit, generated, object⟩
    obtain ⟨entries, ascending, perm⟩ := Ordered.exists_ascending fit.distinct
    refine ⟨entries, ⟨items, supplied, fit, ascending, perm⟩, ?_⟩
    rw [← (is_iff items entries _ ascending perm).mp object, ← generated]
    rfl

theorem configMap_eq_ok {g : ConfigMapGenerator} {r : Resource} : configMap files directory g = .ok r ↔
    ∃ items, Supplied files directory g.sources items ∧ KeysFit items ∧ r.generated = true ∧
      IsConfigMap g.name items r.object :=
  made_iff fun _ _ _ ascending perm => isConfigMap_iff ascending perm

theorem secret_eq_ok {g : SecretGenerator} {r : Resource} : secret files directory g = .ok r ↔
    ∃ items, Supplied files directory g.sources items ∧ KeysFit items ∧ r.generated = true ∧
      IsSecret g.name g.type items r.object :=
  made_iff fun _ _ _ ascending perm => isSecret_iff ascending perm

/-- A generator succeeds if all sources can be used and the keys of what they supply fit. -/
theorem exists_made_iff {objectOf : Entries → Document} {name : String} {s : Sources} :
    (∃ r, (do return ⟨objectOf (← entriesOf files directory name s), true⟩ : Except BuildError Resource) =
      .ok r) ↔ Usable files directory s ∧ ∀ items, Supplied files directory s items → KeysFit items := by
  simp only [bind_eq_ok, entriesOf_eq_ok, collect_eq_ok]
  constructor
  · rintro ⟨_, _, ⟨items, supplied, fit, -⟩, -⟩
    refine ⟨exists_supplied_iff.mp ⟨items, supplied⟩, fun items' supplied' => ?_⟩
    rwa [supplied'.unique supplied]
  · rintro ⟨usable, fits⟩
    obtain ⟨items, supplied⟩ := exists_supplied_iff.mpr usable
    obtain ⟨entries, ascending, perm⟩ := Ordered.exists_ascending (fits items supplied).distinct
    exact ⟨_, entries, ⟨items, supplied, fits items supplied, ascending, perm⟩, rfl⟩

/-- Sources that can be used supply their items, one each. A generator succeeds exactly if its sources can
be used and the keys fit, and gives the object with one field for each item, in which the bytes are kept. -/
theorem sources_reproduced (files : FileSystem) (directory : String) :
    (∀ s, Usable files directory s ↔ ∃! items, Supplied files directory s items) ∧
    (∀ g : ConfigMapGenerator,
      ((∃ r, configMap files directory g = .ok r) ↔ Usable files directory g.sources ∧
        ∀ items, Supplied files directory g.sources items → KeysFit items) ∧
      ∀ r, configMap files directory g = .ok r ↔ ∃ items, Supplied files directory g.sources items ∧
        KeysFit items ∧ r.generated = true ∧ IsConfigMap g.name items r.object) ∧
    ∀ g : SecretGenerator,
      ((∃ r, secret files directory g = .ok r) ↔ Usable files directory g.sources ∧
        ∀ items, Supplied files directory g.sources items → KeysFit items) ∧
      ∀ r, secret files directory g = .ok r ↔ ∃ items, Supplied files directory g.sources items ∧
        KeysFit items ∧ r.generated = true ∧ IsSecret g.name g.type items r.object := by
  refine ⟨fun s => ?_, fun g => ⟨exists_made_iff, fun r => configMap_eq_ok⟩,
    fun g => ⟨exists_made_iff, fun r => secret_eq_ok⟩⟩
  rw [← exists_supplied_iff]
  constructor
  · rintro ⟨items, supplied⟩
    exact ⟨items, supplied, fun _ supplied' => supplied'.unique supplied⟩
  · rintro ⟨items, supplied, -⟩
    exact ⟨items, supplied⟩

end KubeOverlay.Generator
