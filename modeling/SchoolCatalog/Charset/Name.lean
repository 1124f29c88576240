import SchoolCatalog.Text.Blank

/-!
# Names of character sets

A name is compared by its letters and digits: capitals count as small letters, and whatever stands
between letters and digits as one underscore. A full stop is kept, but stands for an underscore where
no character set is known by the name with the full stop.

-/

namespace SchoolCatalog.Charset

/-- Whether a character stands in the plain form of a name as it is, but for its case. -/
def isNameChar (c : Char) : Bool := c.isAlphanum || c = '.'

/-- The words of a name, in small letters. -/
def nameWords (name : String) : List (List Char) :=
  ((Text.splitList (fun c => !isNameChar c) name.toList).filter (!·.isEmpty)).map
    (·.map Char.toLower)

/-- The plain form of a name. -/
def plainName (name : String) : String := String.ofList (['_'].intercalate (nameWords name))

/-- The first of some named things that a plain name stands for: each has one name of its own and
further ones, and a further one may be written with full stops. -/
def byName? {α : Type} (named : List (String × List String × α)) (plain : String) : Option α :=
  let alias? (name : String) := (named.find? fun (_, names, _) => names.contains name).map (·.2.2)
  let underscored := String.ofList (plain.toList.map fun c => if c = '.' then '_' else c)
  ((alias? plain).or (alias? underscored)).or
    ((named.find? fun (own, _) => own = plain).map (·.2.2))

end SchoolCatalog.Charset
