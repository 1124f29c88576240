import SchoolCatalog.Text.Blank
import SchoolCatalog.Text.Case

/-!
# Header values with options

A header value may be followed by options after semicolons, such as `form-data; name="file"`. A
semicolon between double quotes does not count, nor do the quotes around a value. Of options with
one name the last counts.

Main statement: `join_pieces`, the pieces with semicolons between them are the whole again.
-/

namespace SchoolCatalog.Http

/-- A header value: what it says, and its options. -/
structure HeaderValue where
  essence : String
  options : List (String × String)
  deriving DecidableEq

namespace HeaderValue

/-- The value of an option. -/
def option? (v : HeaderValue) (name : String) : Option String := v.options.reverse.lookup name

/-! ## Splitting -/

/-- The pieces between semicolons that do not stand between double quotes; `read` holds the last
characters of a piece, the latest first, and a quote after a backslash does not count. -/
def pieces (quoted : Bool) (read : List Char) : List Char → List (List Char)
  | [] => [read.reverse]
  | c :: cs =>
    if c = ';' && !quoted then read.reverse :: pieces false [] cs
    else pieces (if c = '"' && read.head? != some '\\' then !quoted else quoted) (c :: read) cs

theorem pieces_ne_nil (quoted : Bool) (read cs : List Char) : pieces quoted read cs ≠ [] := by
  induction cs generalizing quoted read with
  | nil => simp [pieces]
  | cons c cs ih =>
    unfold pieces
    split
    · simp
    · exact ih _ _

/-- Nothing is lost but the semicolons between the pieces. -/
theorem join_pieces (quoted : Bool) (read cs : List Char) :
    [';'].intercalate (pieces quoted read cs) = read.reverse ++ cs := by
  induction cs generalizing quoted read with
  | nil => simp [pieces, List.intercalate]
  | cons c cs ih =>
    unfold pieces
    split
    · next h =>
      have hc : c = ';' := by simp_all
      obtain ⟨p, ps, hp⟩ := List.exists_cons_of_ne_nil (pieces_ne_nil false [] cs)
      have := ih false []
      simp only [hp, List.intercalate] at this ⊢
      simp_all
    · simp [ih]

/-! ## Quotes -/

/-- Takes a character out wherever a second one follows it. -/
def dropBefore (c next : Char) : List Char → List Char
  | [] => []
  | [d] => [d]
  | d :: e :: rest => if d = c && e = next then e :: dropBefore c next rest
    else d :: dropBefore c next (e :: rest)

/-- A value without the quotes around it. -/
def unquote (value : List Char) : List Char :=
  if 2 ≤ value.length && value.head? = some '"' && value.getLast? = some '"' then
    dropBefore '\\' '"' (dropBefore '\\' '\\' (value.drop 1).dropLast)
  else value

/-! ## Reading -/

/-- A file name without the folders that a path with a drive or a server puts in front. -/
def dropFolders (value : List Char) : List Char :=
  if (value.drop 1).take 2 = [':', '\\'] || value.take 2 = ['\\', '\\'] then
    (value.reverse.takeWhile (· != '\\')).reverse
  else value

/-- The name and the value of an option; one that is given no value has an empty one. -/
def readOption (piece : List Char) : String × String :=
  let trim := Text.trimList Text.isBlank
  let name := piece.takeWhile (· != '=')
  let value := unquote (trim (piece.drop (name.length + 1)))
  let name := String.ofList (Text.lowerList [] (trim name))
  (name, String.ofList (if name = "filename" then dropFolders value else value))

/-- Reads a header value. -/
def parse (text : String) : HeaderValue :=
  match Text.cut ';' text with
  | (essence, none) => ⟨Text.trim (Text.lower essence), []⟩
  | (essence, some rest) =>
    ⟨Text.trim (Text.lower essence), (pieces false [] rest.toList).map readOption⟩

end HeaderValue
end SchoolCatalog.Http
