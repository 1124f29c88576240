import SchoolCatalog.Charset.Decode
import SchoolCatalog.Http.Header

/-!
# Bodies in parts

A body may be made up of parts between lines that name a boundary. Each part has headers, of which
`content-disposition` names the field that the part is for, and content up to the next boundary. A
part with a file name is a file, any other a text. A part that the body ends in is dropped. The
boundary, the headers of a part and the parts of a body are bounded in size and number.

Main statement: `splitAt_some`, cutting at a boundary loses nothing of the content before it.
-/

namespace SchoolCatalog.Http

/-- An uploaded file. -/
structure FilePart where
  filename : Wording
  contentType : Option String
  content : Bytes
  deriving DecidableEq

/-- What a form gives for a field. -/
inductive FieldValue where
  | text (value : Wording)
  | file (part : FilePart)
  deriving DecidableEq

abbrev FormFields := List (Wording × FieldValue)

/-- Why a form is not read. -/
inductive FormFault where
  | missingBoundary
  | malformed
  | missingName
  | oversized
  | tooManyFiles
  | tooManyFields
  | unreadable
  deriving DecidableEq

namespace FormFault

def message : FormFault → String
  | missingBoundary => "Missing boundary in multipart."
  | malformed => "Invalid multipart data."
  | missingName => "The Content-Disposition header field \"name\" must be provided."
  | oversized => "Part exceeded maximum size of 1024KB."
  | tooManyFiles => "Too many files. Maximum number of files is 1000."
  | tooManyFields => "Too many fields. Maximum number of fields is 1000."
  | unreadable => "There was an error parsing the body"

end FormFault

namespace Multipart

def lineFeed : UInt8 := 10
def carriageReturn : UInt8 := 13
def hyphen : UInt8 := 45

/-- The most bytes of a part that is a text. -/
def maxTextSize : Nat := 1048576

/-- The most files of a body, and the most texts. -/
def maxCount : Nat := 1000

/-- The most bytes of a boundary. -/
def maxBoundarySize : Nat := 256

/-- The most headers of a part. -/
def maxHeaders : Nat := 8

/-- The most bytes of a header, from its name to the end of the line. -/
def maxHeaderSize : Nat := 4224

/-! ## Headers of a part -/

/-- Whether a byte may stand in the name of a header. -/
def isTokenByte (b : UInt8) : Bool :=
  let c := Char.ofNat b.toNat
  c.isAlphanum || "!#$%&'*+-.^_`|~".toList.contains c

/-- A header, with its name in lower case. -/
abbrev PartHeader := String × Bytes

/-- The header in front and what follows its line; none if the body ends before that. -/
def readHeader (bytes : Bytes) : Except FormFault (Option (PartHeader × Bytes)) :=
  let name := bytes.takeWhile isTokenByte
  let value := (bytes.drop (name.length + 1)).takeWhile (· != carriageReturn)
  if maxHeaderSize < (bytes.takeWhile (· != carriageReturn)).length then .error .malformed
  else match bytes.drop name.length with
    | [] => .ok none
    | b :: rest =>
      if b != 58 || name.isEmpty then .error .malformed
      else match rest.drop (value.length + 1) with
        | [] => .ok none
        | b :: rest =>
          if b = lineFeed then
            .ok (some ((Text.lower (Bytes.toLatin1 name), value.dropWhile (· == 32)), rest))
          else .error .malformed

/-- The headers of a part up to the empty line, and what follows it; none if the body ends before.
The number is that of the headers that may still come. -/
def readHeaders : Nat → Bytes → Except FormFault (Option (List PartHeader × Bytes))
  | _, [] => .ok none
  | more, b :: bytes =>
    if b = carriageReturn then
      match bytes with
      | [] => .ok none
      | b :: rest => if b = lineFeed then .ok (some ([], rest)) else .error .malformed
    else match more with
      | 0 => .error .malformed
      | more + 1 => do
        match ← readHeader (b :: bytes) with
        | none => return none
        | some (header, rest) =>
          return (← readHeaders more rest).map fun (headers, rest) => (header :: headers, rest)

/-! ## Content of a part -/

/-- What follows a boundary: a further part, or the end. -/
inductive Following where
  | part (bytes : Bytes)
  | nothing
  deriving DecidableEq

/-- What follows a boundary that stands in front, if it stands there and is closed by a line end or by
two hyphens. -/
def following? (boundary bytes : Bytes) : Option Following :=
  if boundary.isPrefixOf bytes then
    match bytes.drop boundary.length with
    | a :: b :: rest =>
      if a = carriageReturn && b = lineFeed then some (.part rest)
      else if a = hyphen && b = hyphen then some .nothing
      else none
    | _ => none
  else none

/-- The content before the first boundary, and what follows it; none if there is no boundary. `read`
holds the bytes passed over, the latest first. -/
def splitAt (boundary read : Bytes) : Bytes → Option (Bytes × Following)
  | [] => none
  | b :: rest => match following? boundary (b :: rest) with
    | some next => some (read.reverse, next)
    | none => splitAt boundary (b :: read) rest

/-- What stands before a boundary is where it was: the passed bytes and a first stretch of the rest. -/
theorem splitAt_some {boundary read bytes content : Bytes} {next : Following}
    (h : splitAt boundary read bytes = some (content, next)) :
    ∃ before after, bytes = before ++ after ∧ content = read.reverse ++ before ∧
      following? boundary after = some next := by
  induction bytes generalizing read with
  | nil => simp [splitAt] at h
  | cons b rest ih =>
    simp only [splitAt] at h
    split at h
    · next found hf =>
      obtain ⟨rfl, rfl⟩ := Prod.mk.injEq .. ▸ Option.some.injEq .. ▸ h
      exact ⟨[], b :: rest, by simp, by simp, hf⟩
    · obtain ⟨before, after, hb, hc, hf⟩ := ih h
      exact ⟨b :: before, after, by simp [hb], by simp [hc], hf⟩

/-! ## Parts -/

/-- The text of bytes in the character set of a name. -/
def decode (charset : String) (bytes : Bytes) : Except FormFault Wording :=
  (Charset.decode charset bytes).mapError fun .unusable => .unreadable

/-- What the headers of a part say of it: its field, and its file name if it is a file. -/
def describe (charset : String) (headers : List PartHeader) :
    Except FormFault (Wording × Option Wording) :=
  let disposition := (headers.reverse.lookup "content-disposition").map fun v =>
    HeaderValue.parse (Bytes.toLatin1 v)
  match disposition.bind fun v => (v.option? "name").map (v, ·) with
  | none => .error .missingName
  | some (v, name) => do
    let field ← decode charset (Bytes.ofLatin1 name)
    let filename ← (v.option? "filename").mapM fun s => decode charset (Bytes.ofLatin1 s)
    return (field, filename)

/-- The value of a part with its content. -/
def valueOf (charset : String) (headers : List PartHeader) (filename : Option Wording)
    (content : Bytes) : Except FormFault FieldValue :=
  match filename with
  | some filename =>
    .ok (.file ⟨filename, (headers.lookup "content-type").map Bytes.toLatin1, content⟩)
  | none =>
    if maxTextSize < content.length then .error .oversized
    else (decode charset content).map .text

/-- How many parts were begun. -/
structure Tally where
  files : Nat := 0
  texts : Nat := 0

/-- Counts a part that is a file or a text. -/
def Tally.count (t : Tally) (isFile : Bool) : Except FormFault Tally :=
  if isFile then
    if maxCount ≤ t.files then .error .tooManyFiles else .ok { t with files := t.files + 1 }
  else if maxCount ≤ t.texts then .error .tooManyFields
  else .ok { t with texts := t.texts + 1 }

/-- The parts from the headers of one on; the fuel bounds their number. -/
def readParts (charset : String) (boundary : Bytes) :
    Nat → Tally → Bytes → Except FormFault FormFields
  | 0, _, _ => .ok []
  | fuel + 1, tally, bytes => do
    match ← readHeaders maxHeaders bytes with
    | none => return []
    | some (headers, rest) =>
      let (name, filename) ← describe charset headers
      let tally ← tally.count filename.isSome
      match splitAt boundary [] rest with
      | none =>
        let _ ← valueOf charset headers filename rest
        return []
      | some (content, next) =>
        let value ← valueOf charset headers filename content
        match next with
        | .nothing => return [(name, value)]
        | .part bytes => return (name, value) :: (← readParts charset boundary fuel tally bytes)

/-- A body without what stands before its first boundary: if it begins with a line end, all up to the
first hyphen. -/
def dropPreamble (bytes : Bytes) : Bytes :=
  if bytes.head?.any fun b => b == carriageReturn || b == lineFeed then
    bytes.dropWhile (· != hyphen)
  else bytes

/-- What follows the first boundary of a body; none if the body ends in it. -/
def begin (boundary bytes : Bytes) : Except FormFault (Option Following) :=
  let bytes := dropPreamble bytes
  let opening := boundary.drop 2
  if bytes.length ≤ opening.length then
    if bytes.isPrefixOf opening then .ok none else .error .malformed
  else if !opening.isPrefixOf bytes then .error .malformed
  else match bytes.drop opening.length with
    | [b] => if b = carriageReturn || b = hyphen then .ok none else .error .malformed
    | _ => match following? opening bytes with
      | some next => .ok (some next)
      | none => .error .malformed

/-- The fields of a body, given its content type. -/
def fields (contentType : HeaderValue) (body : Bytes) : Except FormFault FormFields :=
  match contentType.option? "boundary" with
  | none => .error .missingBoundary
  | some name => do
    if maxBoundarySize < name.length then throw .malformed
    let boundary := [carriageReturn, lineFeed, hyphen, hyphen] ++ Bytes.ofLatin1 name
    match ← begin boundary body with
    | some (.part bytes) =>
      readParts ((contentType.option? "charset").getD "utf-8") boundary (body.length + 1) {} bytes
    | _ => return []

end Multipart
end SchoolCatalog.Http
