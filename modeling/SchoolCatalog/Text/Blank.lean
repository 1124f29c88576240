/-!
# Blank characters

Two sets of blank characters are in use. `isSpace` is the standard property White_Space;
`isBlank` also holds of the four information separators U+001C to U+001F, and is the set that
trimming goes by.
Main statement: `isBlank_of_isSpace`.
-/

namespace SchoolCatalog.Text

/-- The standard property White_Space. -/
def isSpace (c : Char) : Bool :=
  let n := c.toNat
  (0x9 ≤ n && n ≤ 0xD) || n = 0x20 || n = 0x85 || n = 0xA0 || n = 0x1680 ||
    (0x2000 ≤ n && n ≤ 0x200A) || n = 0x2028 || n = 0x2029 || n = 0x202F || n = 0x205F || n = 0x3000

/-- White space and the information separators. -/
def isBlank (c : Char) : Bool :=
  isSpace c || (0x1C ≤ c.toNat && c.toNat ≤ 0x1F)

/-- White space of ASCII. -/
def isAsciiSpace (c : Char) : Bool :=
  (0x9 ≤ c.toNat && c.toNat ≤ 0xD) || c = ' '

/-- A list without the items at either end that satisfy `p`. -/
def trimList (p : Char → Bool) (cs : List Char) : List Char :=
  ((cs.dropWhile p).reverse.dropWhile p).reverse

/-- A text without the characters at either end that satisfy `p`. -/
def trimBy (p : Char → Bool) (s : String) : String :=
  String.ofList (trimList p s.toList)

/-- A text without the blanks at either end. -/
def trim (s : String) : String := trimBy isBlank s

/-- The pieces of a list between the items that satisfy `p`; there is always at least one. -/
def splitList (p : Char → Bool) : List Char → List (List Char)
  | [] => [[]]
  | c :: cs =>
    if p c then [] :: splitList p cs
    else match splitList p cs with
      | [] => [[c]]
      | piece :: pieces => (c :: piece) :: pieces

/-- The pieces of a text between the given separator. -/
def split (separator : Char) (s : String) : List String :=
  (splitList (· == separator) s.toList).map String.ofList

/-- A text cut at the first separator: what precedes it, and what follows if it occurs. -/
def cut (separator : Char) (s : String) : String × Option String :=
  let cs := s.toList
  let before := cs.takeWhile (· != separator)
  match cs.dropWhile (· != separator) with
  | [] => (s, none)
  | _ :: after => (String.ofList before, some (String.ofList after))

theorem isBlank_of_isSpace {c : Char} (h : isSpace c = true) : isBlank c = true := by
  simp [isBlank, h]

theorem splitList_ne_nil (p : Char → Bool) (cs : List Char) : splitList p cs ≠ [] := by
  cases cs with
  | nil => simp [splitList]
  | cons c cs =>
    unfold splitList
    split
    · simp
    · split <;> simp

end SchoolCatalog.Text
