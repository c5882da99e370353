import KubeOverlay.Json.Read
import KubeOverlay.Proofs.ShortestDecimals
/-!
# Texts of documents

The compact text of a document can be read in one way only: what begins with the text of a document
begins with the text of no other, unless a number goes on (`unique_text`). So documents with the same
text are the same (`write_eq_iff`). Different numbers have different texts, since a floating-point
number has a point or an exponent in its text and is read back within the range of its double.
-/
namespace KubeOverlay.Json

open Decimal (AllDigits allDigits_toDigits signText)

/-! ## Numbers -/

theorem read_integer (n : Int) : Decimal.read (integer n) = some ⟨decide (n < 0), n.natAbs, 0⟩ := by
  have layout : integer n = signText (decide (n < 0)) ++ (Nat.toDigits 10 n.natAbs ++ []) := by
    by_cases below : n < 0
    · rw [integer, if_pos below, decide_eq_true below, List.append_nil]
      rfl
    · rw [integer, if_neg below, decide_eq_false below, List.append_nil]
      rfl
  rw [layout, Decimal.read_whole Nat.toDigits_ne_nil (allDigits_toDigits _) Decimal.noDigit_nil (by simp) rfl,
    Decimal.digitsValue_toDigits]

theorem integer_injective {m n : Int} (same : integer m = integer n) : m = n := by
  have read := read_integer m
  rw [same, read_integer n] at read
  simp only [Option.some.injEq, Decimal.mk.injEq, decide_eq_decide] at read
  omega

theorem float_injective {x y : Double}
    (same : (Decimal.shortest x).text floatStyle = (Decimal.shortest y).text floatStyle) : x = y := by
  obtain ⟨d, read, sign, value⟩ := Decimal.reads_text (Decimal.shortest x)
  obtain ⟨d', read', sign', value'⟩ := Decimal.reads_text (Decimal.shortest y)
  rw [same, read'] at read
  cases read
  exact Decimal.eq_of_shortest (sign.symm.trans sign') (value.symm.trans value')

theorem integer_chars (n : Int) : ∀ c ∈ integer n, c.isDigit = true ∨ c = '-' := by
  intro c member
  rw [integer] at member
  split at member
  · rcases List.mem_cons.mp member with rfl | member
    · exact .inr rfl
    · exact .inl (allDigits_toDigits _ c member)
  · exact .inl (allDigits_toDigits _ c member)

/-- The text of a floating-point number tells it from an integer. -/
theorem float_marked (d : Decimal) : '.' ∈ d.text floatStyle ∨ 'e' ∈ d.text floatStyle := by
  unfold Decimal.text
  dsimp only
  repeat' split
  all_goals simp

theorem integer_ne_float (n : Int) (d : Decimal) : integer n ≠ d.text floatStyle := by
  intro same
  rcases float_marked d with point | power
  · have other := integer_chars n '.' (same ▸ point)
    simp at other
  · have other := integer_chars n 'e' (same ▸ power)
    simp at other

theorem number_injective {m n : Number} (same : number m = number n) : m = n := by
  cases m <;> cases n
  case int.int => exact congrArg _ (integer_injective same)
  case int.float => exact absurd same (integer_ne_float _ _)
  case float.int => exact absurd same.symm (integer_ne_float _ _)
  case float.float => exact congrArg _ (float_injective same)

/-! ## The characters of numbers -/

/-- A text over the characters of numbers. -/
def NumberText (l : List Char) : Prop := ∀ c ∈ l, isNumberChar c = true

theorem numberText_append {l l' : List Char} : NumberText (l ++ l') ↔ NumberText l ∧ NumberText l' :=
  List.forall_mem_append

theorem numberText_cons {c : Char} {l : List Char} :
    NumberText (c :: l) ↔ isNumberChar c = true ∧ NumberText l :=
  List.forall_mem_cons

theorem numberText_nil : NumberText [] := fun _ member => nomatch member

theorem numberText_of_digits {l : List Char} (digits : AllDigits l) : NumberText l := fun c member => by
  simp [isNumberChar, digits c member]

theorem numberText_integer (n : Int) : NumberText (integer n) := fun c member => by
  rcases integer_chars n c member with digit | rfl
  · simp [isNumberChar, digit]
  · rfl

theorem numberText_float (d : Decimal) : NumberText (d.text floatStyle) := by
  have digits (n : Nat) : NumberText (Nat.toDigits 10 n) := numberText_of_digits (allDigits_toDigits n)
  have zeros (n : Nat) : NumberText (List.replicate n '0') := numberText_of_digits (Decimal.allDigits_zeros n)
  have start (k : Nat) : NumberText ((Nat.toDigits 10 d.digits).take k) := fun c member =>
    digits _ c (List.mem_of_mem_take member)
  have rest (k : Nat) : NumberText ((Nat.toDigits 10 d.digits).drop k) := fun c member =>
    digits _ c (List.mem_of_mem_drop member)
  unfold Decimal.text floatStyle
  dsimp only
  split_ifs <;>
    simp [numberText_append, numberText_cons, numberText_nil, digits, zeros, start, rest, isNumberChar,
      -List.drop_one]

theorem numberText_number (n : Number) : NumberText (number n) := by
  cases n with
  | int n => exact numberText_integer n
  | float x => exact numberText_float _

theorem number_ne_nil (n : Number) : number n ≠ [] := by
  cases n with
  | int n =>
    rw [number, integer]
    split <;> simp
  | float x =>
    intro empty
    rw [number] at empty
    rcases float_marked (Decimal.shortest x) with point | power
    · simp [empty] at point
    · simp [empty] at power

/-- A text with which no number goes on. -/
def NoNumber (l : List Char) : Prop := ∀ c ∈ l.head?, isNumberChar c = false

theorem number_unique {m n : Number} {r r' : List Char} (stops : NoNumber r) (stops' : NoNumber r')
    (same : number m ++ r = number n ++ r') : m = n ∧ r = r' := by
  have taken (n : Number) {r : List Char} (stops : NoNumber r) :
      (number n ++ r).takeWhile isNumberChar = number n := by
    rw [List.takeWhile_append_of_pos (numberText_number n)]
    cases r with
    | nil => simp
    | cons c r =>
      have stop : isNumberChar c = false := stops c rfl
      simp [stop]
  have texts : number m = number n := by rw [← taken m stops, same, taken n stops']
  rw [texts] at same
  exact ⟨number_injective texts, List.append_cancel_left same⟩

/-! ## Strings -/

/-- A character is read, and the string goes on. -/
def andThen (c : Char) (read : Option (List Char × List Char)) : Option (List Char × List Char) :=
  read.map fun p => (c :: p.1, p.2)

theorem stringRest_letter {e c : Char} (letter : escape? e = some c) (rest : List Char) :
    stringRest ('\\' :: e :: rest) = andThen c (stringRest rest) := by
  have other : e ≠ 'u' := by
    rintro rfl
    cases letter
  rw [stringRest]
  · rw [letter]
    cases stringRest rest <;> rfl
  · intro a b c d rest' same
    exact absurd same other

theorem stringRest_unit {a b : Char} {n : Nat} (digits : unit? '0' '0' a b = some n) (small : n < 0xD800)
    (rest : List Char) :
    stringRest ('\\' :: 'u' :: '0' :: '0' :: a :: b :: rest) = andThen (Char.ofNat n) (stringRest rest) := by
  rw [stringRest, digits]
  simp only [Option.bind_eq_bind, Option.bind_some]
  rw [if_pos (.inl small)]
  cases stringRest rest <;> rfl

theorem stringRest_plain {c : Char} (quote : c ≠ '"') (backslash : c ≠ '\\') (printed : ¬c < ' ')
    (rest : List Char) : stringRest (c :: rest) = andThen c (stringRest rest) := by
  rw [stringRest]
  · rw [if_neg (not_or.mpr ⟨printed, backslash⟩)]
    cases stringRest rest <;> rfl
  · exact quote
  · intro a b d e rest' same
    exact absurd same backslash
  · intro e rest' same
    exact absurd same backslash

theorem unit?_control : ∀ n < 32,
    unit? '0' '0' (Hexadecimal.digit (n / 16)) (Hexadecimal.digit (n % 16)) = some n := by
  decide

/-- An escaped character is read back. -/
theorem stringRest_escaped (c : Char) (rest : List Char) :
    stringRest (escaped c ++ rest) = andThen c (stringRest rest) := by
  unfold escaped
  split_ifs with quote backslash newline carriage tab backspace feed control
  any_goals
    subst c
    exact stringRest_letter rfl rest
  · have read := stringRest_unit (unit?_control c.toNat control) (Nat.lt_trans control (by decide)) rest
    rwa [Char.ofNat_toNat] at read
  · exact stringRest_plain quote backslash control rest

/-- The characters inside quotes are read back up to the closing quote. -/
theorem stringRest_quoted (l r : List Char) : stringRest (l.flatMap escaped ++ '"' :: r) = some (l, r) := by
  induction l with
  | nil => rfl
  | cons c l ih => rw [List.flatMap_cons, List.append_assoc, stringRest_escaped, ih]; rfl

theorem quoted_append (s : String) (r : List Char) :
    quoted s ++ r = '"' :: (s.toList.flatMap escaped ++ '"' :: r) := by
  rw [quoted, List.cons_append, List.cons_append, List.append_assoc]
  rfl

theorem quoted_unique {s s' : String} {r r' : List Char} (same : quoted s ++ r = quoted s' ++ r') :
    s = s' ∧ r = r' := by
  rw [quoted_append, quoted_append] at same
  have read := stringRest_quoted s.toList r
  rw [(List.cons.inj same).2, stringRest_quoted] at read
  simp only [Option.some.injEq, Prod.mk.injEq] at read
  exact ⟨String.toList_inj.mp read.1.symm, read.2.symm⟩

/-! ## Texts with commas between them -/

/-- What begins with the text of one value begins with the text of no other. -/
def Unique {α : Type} (f : α → List Char) (x : α) : Prop :=
  ∀ y r r', NoNumber r → NoNumber r' → f x ++ r = f y ++ r' → x = y ∧ r = r'

/-- What follows the first of several texts. -/
def continued (texts : List (List Char)) : List Char := texts.flatMap (',' :: ·)

theorem commaSeparated_cons (t : List Char) (texts : List (List Char)) :
    commaSeparated (t :: texts) = t ++ continued texts := by
  induction texts generalizing t with
  | nil => simp [commaSeparated, continued]
  | cons t' texts ih =>
    have one : commaSeparated (t :: t' :: texts) = t ++ ',' :: commaSeparated (t' :: texts) := rfl
    rw [one, ih]
    rfl

section Separated

variable {α : Type} {f : α → List Char} {close : Char}

theorem noNumber_continued (other : isNumberChar close = false) (texts : List (List Char)) (r : List Char) :
    NoNumber (continued texts ++ close :: r) := by
  cases texts with
  | nil => exact fun c first => by cases first; exact other
  | cons t texts => exact fun c first => by cases first; rfl

theorem continued_unique (noComma : close ≠ ',') (other : isNumberChar close = false) {xs ys : List α}
    {r r' : List Char} (each : ∀ x ∈ xs, Unique f x)
    (same : continued (xs.map f) ++ close :: r = continued (ys.map f) ++ close :: r') : xs = ys ∧ r = r' := by
  induction xs generalizing ys with
  | nil =>
    cases ys with
    | nil => exact ⟨rfl, (List.cons.inj same).2⟩
    | cons y ys => exact absurd (List.cons.inj same).1 noComma
  | cons x xs ih =>
    cases ys with
    | nil => exact absurd (List.cons.inj same).1.symm noComma
    | cons y ys =>
      have later : f x ++ (continued (xs.map f) ++ close :: r) =
          f y ++ (continued (ys.map f) ++ close :: r') := by
        simpa [continued] using same
      obtain ⟨rfl, rest⟩ := each x List.mem_cons_self y _ _ (noNumber_continued other _ r)
        (noNumber_continued other _ r') later
      obtain ⟨rfl, rfl⟩ := ih (fun x member => each x (List.mem_cons_of_mem _ member)) rest
      exact ⟨rfl, rfl⟩

theorem commaSeparated_unique (noComma : close ≠ ',') (other : isNumberChar close = false)
    (opens : ∀ x, ∃ c rest, f x = c :: rest ∧ c ≠ close) {xs ys : List α} {r r' : List Char}
    (each : ∀ x ∈ xs, Unique f x)
    (same : commaSeparated (xs.map f) ++ close :: r = commaSeparated (ys.map f) ++ close :: r') :
    xs = ys ∧ r = r' := by
  have first (x : α) (xs : List α) (r : List Char) :
      commaSeparated ((x :: xs).map f) ++ close :: r = f x ++ (continued (xs.map f) ++ close :: r) := by
    rw [List.map_cons, commaSeparated_cons, List.append_assoc]
  have notEmpty (x : α) (xs : List α) (r r' : List Char) :
      commaSeparated ((x :: xs).map f) ++ close :: r ≠ close :: r' := by
    obtain ⟨c, rest, start, noClose⟩ := opens x
    rw [first, start]
    exact fun same => noClose (List.cons.inj same).1
  cases xs with
  | nil =>
    cases ys with
    | nil => exact ⟨rfl, (List.cons.inj same).2⟩
    | cons y ys => exact absurd same.symm (notEmpty y ys r' r)
  | cons x xs =>
    cases ys with
    | nil => exact absurd same (notEmpty x xs r r')
    | cons y ys =>
      refine continued_unique noComma other each ?_
      rw [first, first] at same
      simpa [continued] using same

end Separated

/-! ## Documents -/

/-- The shape of the documents whose text begins with a character. -/
def kindOf (c : Char) : Option Kind :=
  if isNumberChar c then some .number
  else match c with
    | 'n' => some .null
    | 't' | 'f' => some .bool
    | '"' => some .string
    | '[' => some .slice
    | '\x7b' => some .map
    | _ => none

theorem head_text (d : Document) : ∃ c rest, text d = c :: rest ∧ kindOf c = some d.kind := by
  cases d with
  | null => exact ⟨_, _, rfl, rfl⟩
  | bool b => cases b <;> exact ⟨_, _, rfl, rfl⟩
  | string s => exact ⟨_, _, rfl, rfl⟩
  | list items => exact ⟨_, _, rfl, rfl⟩
  | map fields => exact ⟨_, _, rfl, rfl⟩
  | number n =>
    obtain ⟨c, rest, first⟩ := List.exists_cons_of_ne_nil (number_ne_nil n)
    have char : isNumberChar c = true := numberText_number n c (first ▸ List.mem_cons_self)
    exact ⟨c, rest, first, if_pos char⟩

theorem kind_eq_of_text {a b : Document} {r r' : List Char} (same : text a ++ r = text b ++ r') :
    a.kind = b.kind := by
  obtain ⟨c, rest, first, kind⟩ := head_text a
  obtain ⟨c', rest', first', kind'⟩ := head_text b
  rw [first, first'] at same
  have head : c = c' := (List.cons.inj same).1
  rw [head, kind'] at kind
  exact (Option.some.inj kind).symm

theorem itemTexts_eq_map (items : List Document) : itemTexts items = items.map text := by
  induction items with
  | nil => rfl
  | cons d rest ih => rw [itemTexts, ih, List.map_cons]

/-- The text of a field of a map. -/
def fieldText (e : String × Document) : List Char := quoted e.1 ++ ':' :: text e.2

theorem fieldTexts_eq_map (fields : Fields) : fieldTexts fields = fields.map fieldText := by
  induction fields with
  | nil => rfl
  | cons e rest ih => rw [fieldTexts, ih, List.map_cons]; rfl

theorem unique_fieldText {e : String × Document} (value : Unique text e.2) : Unique fieldText e := by
  intro e' r r' stops stops' same
  rw [fieldText, fieldText, List.append_assoc, List.append_assoc] at same
  obtain ⟨key, rest⟩ := quoted_unique same
  obtain ⟨document, rest⟩ := value e'.2 r r' stops stops' (List.cons.inj rest).2
  exact ⟨Prod.ext key document, rest⟩

theorem list_unique {items items' : List Document} {r r' : List Char} (each : ∀ d ∈ items, Unique text d)
    (same : text (.list items) ++ r = text (.list items') ++ r') : items = items' ∧ r = r' := by
  have opens (d : Document) : ∃ c rest, text d = c :: rest ∧ c ≠ ']' := by
    obtain ⟨c, rest, first, kind⟩ := head_text d
    refine ⟨c, rest, first, ?_⟩
    rintro rfl
    cases kind
  rw [text, text, itemTexts_eq_map, itemTexts_eq_map, List.cons_append, List.cons_append, List.append_assoc,
    List.append_assoc] at same
  exact commaSeparated_unique (by decide) rfl opens each (List.cons.inj same).2

theorem map_unique {fields fields' : Fields} {r r' : List Char} (each : ∀ e ∈ fields, Unique text e.2)
    (same : text (.map fields) ++ r = text (.map fields') ++ r') : fields = fields' ∧ r = r' := by
  have opens (e : String × Document) : ∃ c rest, fieldText e = c :: rest ∧ c ≠ '\x7d' :=
    ⟨'"', _, rfl, by decide⟩
  rw [text, text, fieldTexts_eq_map, fieldTexts_eq_map, List.cons_append, List.cons_append, List.append_assoc,
    List.append_assoc] at same
  exact commaSeparated_unique (by decide) rfl opens (fun e member => unique_fieldText (each e member))
    (List.cons.inj same).2

/-- What begins with the text of a document begins with the text of no other, unless a number goes on. -/
theorem unique_text (d : Document) : Unique text d := by
  induction d using Document.inductionOn with
  | list items each =>
    intro d' r r' _ _ same
    cases d' with
    | list items' =>
      obtain ⟨rfl, rest⟩ := list_unique each same
      exact ⟨rfl, rest⟩
    | _ => cases kind_eq_of_text same
  | map fields each =>
    intro d' r r' _ _ same
    cases d' with
    | map fields' =>
      obtain ⟨rfl, rest⟩ := map_unique each same
      exact ⟨rfl, rest⟩
    | _ => cases kind_eq_of_text same
  | simple d noMap noList =>
    intro d' r r' stops stops' same
    have kind := kind_eq_of_text same
    cases d with
    | list items => cases noList
    | map fields => cases noMap
    | null =>
      cases d' with
      | null => exact ⟨rfl, List.append_cancel_left same⟩
      | _ => cases kind
    | bool b =>
      cases d' with
      | bool b' =>
        have words : b = b' := by
          cases b <;> cases b' <;> first | rfl | exact absurd (List.cons.inj same).1 (by decide)
        subst words
        exact ⟨rfl, List.append_cancel_left same⟩
      | _ => cases kind
    | number n =>
      cases d' with
      | number n' =>
        obtain ⟨rfl, rest⟩ := number_unique stops stops' same
        exact ⟨rfl, rest⟩
      | _ => cases kind
    | string s =>
      cases d' with
      | string s' =>
        obtain ⟨rfl, rest⟩ := quoted_unique same
        exact ⟨rfl, rest⟩
      | _ => cases kind

/-- Documents with the same text are the same. -/
theorem write_eq_iff {a b : Document} : write a = write b ↔ a = b := by
  refine ⟨fun same => ?_, congrArg write⟩
  have texts : text a = text b := String.ofList_injective same
  have stops : NoNumber [] := fun _ first => nomatch first
  exact (unique_text a b [] [] stops stops (by rw [texts])).1

end KubeOverlay.Json
