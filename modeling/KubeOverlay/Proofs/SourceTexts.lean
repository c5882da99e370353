import KubeOverlay.Generator
import Mathlib.Data.List.Forall2
import Mathlib.Data.List.TakeDrop
import Mathlib.Data.List.TakeWhile
/-!
# Texts and bytes of sources

What the texts of sources stand for. A pair is cut at its first equals sign (`Text.splitPair?_eq_some`),
a trimmed text is what stands between the white space at the ends (`Text.trim_eq_iff`), and the lines with
entries are those of the text that are neither blank nor comments (`Generator.entryLines_eq_iff`). Bytes
are a text exactly if they are its UTF-8 (`Generator.textOf?_eq_some`), and Base64 is undone for every
number of bytes (`Base64.decode?_encode`).
-/
namespace KubeOverlay

namespace Base64

/-- Every number below sixty-four has a character, and none of these is the filling. -/
theorem digits_told_apart : ∀ n ∈ List.range 64, value? (digit n) = some n ∧ digit n ≠ '=' := by decide

theorem value?_digit {n : Nat} (small : n < 64) : value? (digit n) = some n :=
  (digits_told_apart n (List.mem_range.mpr small)).1

theorem digit_ne_filling {n : Nat} (small : n < 64) : digit n ≠ '=' :=
  (digits_told_apart n (List.mem_range.mpr small)).2

theorem ofNat_eq {n : Nat} {b : UInt8} (same : n % 256 = b.toNat) : UInt8.ofNat n = b := by
  rw [← UInt8.toNat_inj, UInt8.toNat_ofNat']
  exact same

/-- The last pattern is reached only by groups that are not filled up. -/
theorem decode?_group {a b c d : Char} {rest : List Char} (full : d ≠ '=') :
    decode? (a :: b :: c :: d :: rest) = (do
      let n := (← value? a) * 262144 + (← value? b) * 4096 + (← value? c) * 64 + (← value? d)
      return UInt8.ofNat (n / 65536) :: UInt8.ofNat (n / 256) :: UInt8.ofNat n :: (← decode? rest)) := by
  rw [decode?]
  · rintro rfl rfl
    simp at full
  · rintro rfl
    simp at full

/-- Four digits that are no filling are the three bytes of a number. -/
theorem decode?_digits {i j k l : Nat} {rest : List Char} {bytes : List UInt8} (hi : i < 64) (hj : j < 64)
    (hk : k < 64) (hl : l < 64) (later : decode? rest = some bytes) :
    let n := i * 262144 + j * 4096 + k * 64 + l
    decode? (digit i :: digit j :: digit k :: digit l :: rest) =
      some (UInt8.ofNat (n / 65536) :: UInt8.ofNat (n / 256) :: UInt8.ofNat n :: bytes) := by
  intro n
  rw [decode?_group (digit_ne_filling hl), value?_digit hi, value?_digit hj, value?_digit hk, value?_digit hl,
    later]
  rfl

theorem decode?_encode (bytes : List UInt8) : decode? (encode bytes) = some bytes := by
  induction bytes using encode.induct with
  | case1 a b c rest ih =>
    have ha := a.toNat_lt
    have hb := b.toNat_lt
    have hc := c.toNat_lt
    rw [encode, decode?_digits (by omega) (by omega) (by omega) (by omega) ih]
    simp only [Option.some.injEq, List.cons.injEq, and_true]
    refine ⟨ofNat_eq ?_, ofNat_eq ?_, ofNat_eq ?_⟩ <;> omega
  | case2 a b =>
    have ha := a.toNat_lt
    have hb := b.toNat_lt
    rw [encode, decode?, value?_digit (by omega), value?_digit (by omega), value?_digit (by omega)]
    · simp only [Option.bind_eq_bind, Option.bind_some, Option.pure_def, Option.some.injEq, List.cons.injEq,
        and_true]
      refine ⟨ofNat_eq ?_, ofNat_eq ?_⟩ <;> omega
    · exact digit_ne_filling (by omega)
  | case3 a =>
    have ha := a.toNat_lt
    rw [encode, decode?, value?_digit (by omega), value?_digit (by omega)]
    simp only [Option.bind_eq_bind, Option.bind_some, Option.pure_def, Option.some.injEq, List.cons.injEq,
      and_true]
    exact ofNat_eq (by omega)
  | case4 => rfl

/-- The bytes of a file that is no text. -/
example : encode [0xff, 0xfe, 0x00] = "//4A".toList := by decide

end Base64

namespace Text

variable {s t text key value : String}

/-! ## Pairs -/

/-- A text with an equals sign: the key stands before the first one, the value after it. -/
def IsPair (text key value : String) : Prop :=
  text.toList = key.toList ++ '=' :: value.toList ∧ '=' ∉ key.toList

theorem IsPair.splitPair?_eq (pair : IsPair text key value) : splitPair? text = some (key, value) := by
  obtain ⟨whole, noSign⟩ := pair
  have passed : ∀ c ∈ key.toList, (c != '=') = true := fun c member => bne_iff_ne.mpr fun sign =>
    noSign (sign ▸ member)
  rw [splitPair?, List.span_eq_takeWhile_dropWhile, whole, List.takeWhile_append_of_pos passed,
    List.dropWhile_append_of_pos passed]
  simp

theorem exists_isPair_iff : (∃ key value, IsPair text key value) ↔ '=' ∈ text.toList := by
  constructor
  · rintro ⟨key, value, whole, -⟩
    rw [whole]
    exact List.mem_append_right _ List.mem_cons_self
  · intro member
    obtain ⟨before, after, whole, noSign⟩ := List.eq_append_cons_of_mem member
    exact ⟨String.ofList before, String.ofList after, by simpa using whole, by simpa using noSign⟩

theorem splitPair?_eq_none (noSign : '=' ∉ text.toList) : splitPair? text = none := by
  have passed : ∀ c ∈ text.toList, (c != '=') = true := fun c member => bne_iff_ne.mpr fun sign =>
    noSign (sign ▸ member)
  rw [splitPair?, List.span_eq_takeWhile_dropWhile, List.dropWhile_eq_nil_iff.mpr passed]

theorem splitPair?_eq_some : splitPair? text = some (key, value) ↔ IsPair text key value := by
  refine ⟨fun found => ?_, IsPair.splitPair?_eq⟩
  by_cases sign : '=' ∈ text.toList
  · obtain ⟨key', value', pair⟩ := exists_isPair_iff.mpr sign
    cases found.symm.trans pair.splitPair?_eq
    exact pair
  · rw [splitPair?_eq_none sign] at found
    contradiction

/-! ## White space at the ends -/

/-- Neither end of a text is white space. -/
def Tight (t : String) : Prop :=
  (∀ c ∈ t.toList.head?, isWhiteSpace c = false) ∧ ∀ c ∈ t.toList.getLast?, isWhiteSpace c = false

/-- A text is another one between white space. -/
def Trims (s t : String) : Prop :=
  ∃ before after, s.toList = before ++ t.toList ++ after ∧ (∀ c ∈ before, isWhiteSpace c = true) ∧
    (∀ c ∈ after, isWhiteSpace c = true) ∧ Tight t

section Ends

variable {p : Char → Bool} {l : List Char}

theorem head?_dropWhile : ∀ c ∈ (l.dropWhile p).head?, p c = false := by
  intro c first
  have stops := List.head?_dropWhile_not p l
  rwa [Option.mem_def.mp first] at stops

theorem dropWhile_of_head? (first : ∀ c ∈ l.head?, p c = false) : l.dropWhile p = l := by
  cases l with
  | nil => rfl
  | cons c rest => rw [List.dropWhile_cons_of_neg (by simp [first c rfl])]

end Ends

theorem trims_trim (s : String) : Trims s (trim s) := by
  let rest := s.toList.dropWhile isWhiteSpace
  have inner : (trim s).toList = (rest.reverse.dropWhile isWhiteSpace).reverse := String.toList_ofList
  have split : rest = (trim s).toList ++ (rest.reverse.takeWhile isWhiteSpace).reverse := by
    rw [inner, ← List.reverse_append, List.takeWhile_append_dropWhile, List.reverse_reverse]
  refine ⟨s.toList.takeWhile isWhiteSpace, (rest.reverse.takeWhile isWhiteSpace).reverse, ?_, ?_, ?_, ?_, ?_⟩
  · rw [List.append_assoc, ← split, List.takeWhile_append_dropWhile]
  · exact fun c member => List.mem_takeWhile_imp member
  · exact fun c member => List.mem_takeWhile_imp (List.mem_reverse.mp member)
  · intro c first
    have whole : c ∈ rest.head? := by
      rw [split]
      exact List.mem_head?_append_of_mem_head? first
    exact head?_dropWhile c whole
  · rw [inner, List.getLast?_reverse]
    exact head?_dropWhile

theorem Trims.trim_eq {s t : String} (trims : Trims s t) : trim s = t := by
  obtain ⟨before, after, whole, blank, blank', first, last⟩ := trims
  rw [← String.toList_inj, trim, String.toList_ofList, whole, List.append_assoc,
    List.dropWhile_append_of_pos blank]
  cases text : t.toList with
  | nil => simp [List.dropWhile_eq_nil_iff.mpr blank']
  | cons c rest =>
    have blankBack : ∀ c ∈ after.reverse, isWhiteSpace c = true := fun c member =>
      blank' c (List.mem_reverse.mp member)
    rw [text] at first last
    have first' : ∀ d ∈ (c :: rest ++ after).head?, isWhiteSpace d = false := first
    rw [dropWhile_of_head? first', List.reverse_append, List.dropWhile_append_of_pos blankBack,
      dropWhile_of_head? (by rwa [List.head?_reverse]), List.reverse_reverse]

theorem trim_eq_iff {s t : String} : trim s = t ↔ Trims s t :=
  ⟨fun same => same ▸ trims_trim s, Trims.trim_eq⟩

/-! ## Lines -/

/-- A text is its lines with line breaks between them. -/
def IsLines (text : String) (lines : List String) : Prop :=
  lines ≠ [] ∧ ['\n'].intercalate (lines.map String.toList) = text.toList ∧ ∀ line ∈ lines, '\n' ∉ line.toList

theorem not_mem_of_mem_splitOn {l part : List Char} {sep : Char} (member : part ∈ l.splitOn sep) :
    sep ∉ part := by
  induction l generalizing part with
  | nil => simp_all
  | cons c rest ih =>
    rw [List.splitOn_cons_eq_if_modifyHead] at member
    split at member
    · rcases List.mem_cons.mp member with rfl | later
      · exact List.not_mem_nil
      · exact ih later
    · next other =>
      cases parts : rest.splitOn sep with
      | nil => simp [parts] at member
      | cons first more =>
        rw [parts, List.modifyHead_cons] at member
        rw [parts, List.forall_mem_cons] at ih
        rcases List.mem_cons.mp member with rfl | later
        · rw [List.mem_cons, not_or]
          exact ⟨fun same => other (beq_iff_eq.mpr same.symm), ih.1⟩
        · exact ih.2 part later

theorem isLines_iff {lines : List String} :
    IsLines text lines ↔ (text.toList.splitOn '\n').map String.ofList = lines := by
  constructor
  · rintro ⟨some, whole, apart⟩
    rw [← whole, List.splitOn_intercalate _ (by simpa using apart) (by simpa using some)]
    simp
  · rintro rfl
    refine ⟨by simp, by simp, ?_⟩
    intro line member
    obtain ⟨part, inside, rfl⟩ := List.mem_map.mp member
    rw [String.toList_ofList]
    exact not_mem_of_mem_splitOn inside

end Text

namespace Generator

/-- The lines of a text that hold entries, without white space at their ends. -/
def EntryLines (text : String) (found : List String) : Prop :=
  ∃ lines trimmed, Text.IsLines text lines ∧ List.Forall₂ Text.Trims lines trimmed ∧
    found = trimmed.filter fun line => line ≠ "" ∧ line.toList.head? ≠ some '#'

theorem entryLines_eq_iff {text : String} {found : List String} :
    entryLines text = found ↔ EntryLines text found := by
  have condition : (fun line : String => line.toList.head?.any (· != '#')) =
      fun line => decide (line ≠ "" ∧ line.toList.head? ≠ some '#') := by
    funext line
    cases chars : line.toList with
    | nil => simp [String.toList_eq_nil_iff.mp chars]
    | cons c rest =>
      have some : line ≠ "" := fun empty => by simp [empty] at chars
      by_cases sign : c = '#' <;> simp [some, sign]
  rw [entryLines, condition]
  constructor
  · rintro rfl
    refine ⟨_, _, Text.isLines_iff.mpr rfl, ?_, rfl⟩
    rw [List.forall₂_map_right_iff, List.forall₂_same]
    exact fun line _ => Text.trim_eq_iff.mp rfl
  · rintro ⟨lines, trimmed, whole, trims, rfl⟩
    have same : lines.map Text.trim = trimmed := by
      rw [← List.forall₂_eq_eq_eq, List.forall₂_map_left_iff]
      exact trims.imp fun _ _ => Text.trim_eq_iff.mpr
    rw [Text.isLines_iff.mp whole, same]

/-- White space, blank lines and comments are left out, and values keep their equals signs. -/
example : entryLines " A=1 \r\n# B=2\n\t\nC=x=y" = ["A=1", "C=x=y"] := by decide

/-! ## Bytes -/

/-- The loop that lists bytes has listed those before its index. -/
theorem toList_loop (bytes : ByteArray) (i : Nat) (before : List UInt8) :
    ByteArray.toList.loop bytes i before = before.reverse ++ bytes.data.toList.drop i := by
  induction i, before using ByteArray.toList.loop.induct bytes with
  | case1 i before inside ih =>
    have bound : i < bytes.data.toList.length := inside
    have byte : bytes.get! i = bytes.data.toList[i] := getElem!_pos bytes.data i inside
    rw [ByteArray.toList.loop, if_pos inside, ih, List.drop_eq_getElem_cons bound, byte]
    simp
  | case2 i before outside =>
    have bound : bytes.data.toList.length ≤ i := Nat.le_of_not_lt outside
    rw [ByteArray.toList.loop, if_neg outside, List.drop_eq_nil_of_le bound, List.append_nil]

theorem toList_eq_data (bytes : ByteArray) : bytes.toList = bytes.data.toList :=
  toList_loop bytes 0 []

theorem toList_inj {bytes bytes' : ByteArray} (same : bytes.toList = bytes'.toList) : bytes = bytes' := by
  rw [toList_eq_data, toList_eq_data] at same
  exact ByteArray.ext (Array.toList_inj.mp same)

theorem fromUTF8?_eq_some {bytes : ByteArray} {text : String} :
    String.fromUTF8? bytes = some text ↔ text.toUTF8 = bytes := by
  rw [String.fromUTF8?]
  constructor
  · intro found
    split at found
    · cases found
      rfl
    · contradiction
  · rintro rfl
    exact dif_pos text.isValidUTF8

theorem textOf?_eq_some {bytes : List UInt8} {text : String} :
    textOf? bytes = some text ↔ text.toUTF8.toList = bytes := by
  have listed : (⟨bytes.toArray⟩ : ByteArray).toList = bytes := toList_eq_data _
  rw [textOf?, fromUTF8?_eq_some]
  constructor
  · intro same
    rw [same, listed]
  · intro same
    exact toList_inj (same.trans listed.symm)

end Generator
end KubeOverlay
