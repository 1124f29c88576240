import SchoolCatalog.Datum.Basic
import SchoolCatalog.Number.Notation
import SchoolCatalog.Text.Quoted

/-!
# How values read in messages

`Datum.display` is the text of a value in a message, where a text stands as it is;
`Datum.quoted` is the same with texts between quotes, as inside a list.
-/

namespace SchoolCatalog.Datum

/-- Bytes between quotes, with those outside printable ASCII escaped. -/
def quotedBytes (bytes : Bytes) : String :=
  let quote := if bytes.contains 0x27 && !bytes.contains 0x22 then '"' else '\''
  let body := bytes.flatMap fun b =>
    let c := Char.ofNat b.toNat
    if c = quote || c = '\\' then ['\\', c]
    else if c = '\n' then ['\\', 'n']
    else if c = '\r' then ['\\', 'r']
    else if c = '\t' then ['\\', 't']
    else if 0x20 ≤ b.toNat && b.toNat < 0x7F then [c]
    else '\\' :: 'x' :: Text.hexPadded 2 b.toNat
  String.ofList ('b' :: quote :: body ++ [quote])

mutual

/-- The text of a value, with texts between quotes. -/
def quoted : Datum → String
  | null => "None"
  | bool b => if b then "True" else "False"
  | int i => toString i
  | real x => x.text
  | text s => Text.quoted s
  | broken points => (Wording.broken points).quoted
  | bytes b => quotedBytes b
  | list items => "[" ++ ", ".intercalate (quotedItems items) ++ "]"
  | dict entries => "\x7b" ++ ", ".intercalate (quotedEntries entries) ++ "\x7d"

def quotedItems : List Datum → List String
  | [] => []
  | d :: ds => quoted d :: quotedItems ds

def quotedEntries : List (String × Datum) → List String
  | [] => []
  | (n, d) :: ds => (Text.quoted n ++ ": " ++ quoted d) :: quotedEntries ds

end

/-- The text of a value in a message. -/
def display : Datum → String
  | text s => s
  | broken points => (Wording.broken points).lossy
  | d => quoted d

end SchoolCatalog.Datum
