import SchoolCatalog.Http.Address
import SchoolCatalog.Http.Multipart

/-!
# Forms in bodies

A body may be a form: one of parts, or one of pairs joined by ampersands. The content type says which;
a body of any other type holds no fields. Ampersands that follow one another count as one.
-/

namespace SchoolCatalog.Http

namespace FormPairs

/-- The name and the value of a piece; the value is empty if there is none. -/
def readPiece (piece : List Char) : Wording × FieldValue :=
  let name := piece.takeWhile (· != '=')
  (.proper (unescapeForm (String.ofList name)),
    .text (.proper (unescapeForm (String.ofList (piece.drop (name.length + 1))))))

/-- The pairs of a body. -/
def fields (body : Bytes) : Except FormFault FormFields :=
  let found := (Text.splitList (· = '&') (Bytes.toLatin1 body).toList).filter (!·.isEmpty)
  if Multipart.maxCount < found.length then .error .tooManyFields else .ok (found.map readPiece)

end FormPairs

/-- The fields of a body with a content type. -/
def formFields (contentType : Option String) (body : Bytes) : Except FormFault FormFields :=
  let v := HeaderValue.parse (contentType.getD "")
  if v.essence = "multipart/form-data" then Multipart.fields v body
  else if v.essence = "application/x-www-form-urlencoded" then FormPairs.fields body
  else .ok []

end SchoolCatalog.Http
