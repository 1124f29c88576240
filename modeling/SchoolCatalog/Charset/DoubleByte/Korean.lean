import SchoolCatalog.Charset.DoubleByte.Basic
import SchoolCatalog.Charset.DoubleByte.KoreanTable

/-!
# Korean in pairs of bytes

KS X 1001 has its characters at pairs of bytes above 160. The code page 949 adds the syllables that
are not among them, in their order.
-/

namespace SchoolCatalog.Charset.DoubleByte

def koreanTable : Array Char :=
  tableOf (94 * 94) <|
    rowsFrom 1 koreanSymbols ++ rowsFrom 16 koreanSyllables ++ rowsFrom 42 koreanHanja

/-- The place of the mark that begins a syllable given by its letters. -/
def fillerPlace : Nat := 3 * 94 + 51

def eucKorean : CharReader := pairReader fun a b =>
  ((highPlace? a b).filter (· != fillerPlace)).bind (charAt? koreanTable)

/-- The syllables that KS X 1001 has not. -/
def remainingSyllables : Array Char :=
  let known := tableOf 11172 <|
    (String.join koreanSyllables).toList.map fun c => ⟨c.toNat - 0xAC00, [c]⟩
  (((List.range known.size).filter fun i => (charAt? known i).isNone).map
    fun i => Char.ofNat (0xAC00 + i)).toArray

/-- The place among the remaining syllables of a pair of bytes. -/
def syllablePlace? (a b : Nat) : Option Nat :=
  let letters := [(0x41, 0x5A), (0x61, 0x7A)]
  (place? [(0x81, 0xA0)] (letters ++ [(0x81, 0xFE)]) 178 a b).or
    ((place? [(0xA1, 0xC6)] (letters ++ [(0x81, 0xA0)]) 84 a b).map (· + 32 * 178))

def page949 : CharReader := pairReader fun a b =>
  match syllablePlace? a b with
  | some place => remainingSyllables[place]?
  | none => (highPlace? a b).bind (charAt? koreanTable)

end SchoolCatalog.Charset.DoubleByte
