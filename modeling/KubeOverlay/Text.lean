/-!
# Texts

The white space of Unicode, texts without it at their ends, and texts around an equals sign.
-/
namespace KubeOverlay.Text

/-- The characters with the property White Space. -/
def isWhiteSpace (c : Char) : Bool :=
  ('\t' ≤ c && c ≤ '\x0d') || c == ' ' || c == '\x85' || c == '\xa0' || c == '\u1680' ||
    ('\u2000' ≤ c && c ≤ '\u200a') || c == '\u2028' || c == '\u2029' || c == '\u202f' ||
    c == '\u205f' || c == '\u3000'

/-- A text without white space at its ends. -/
def trim (s : String) : String :=
  String.ofList ((s.toList.dropWhile isWhiteSpace).reverse.dropWhile isWhiteSpace).reverse

/-- What stands before and after the first equals sign. -/
def splitPair? (s : String) : Option (String × String) :=
  match s.toList.span (· != '=') with
  | (key, _ :: value) => some (String.ofList key, String.ofList value)
  | (_, []) => none

end KubeOverlay.Text
