import SchoolCatalog.Charset.DoubleByte.Basic
import SchoolCatalog.Charset.DoubleByte.BigFiveTable
import SchoolCatalog.Charset.DoubleByte.GuobiaoTable

/-!
# Chinese in pairs of bytes

GB 2312 has its characters at pairs of bytes above 160. GBK adds further ones at pairs with a lower
second byte, most of them the remaining hanzi in their order, and GB 18030 gives a character to every
pair and four bytes to what is left. Big5 has a table of its own.
-/

namespace SchoolCatalog.Charset.DoubleByte

def guobiaoRuns : List Run := rowsFrom 1 guobiaoSymbols ++ rowsFrom 16 guobiaoHanzi

def guobiaoTable : Array Char := tableOf (94 * 94) guobiaoRuns

def guobiao : CharReader := pairReader fun a b => (highPlace? a b).bind (charAt? guobiaoTable)

/-! ## GBK -/

/-- The second bytes below 161. -/
def lowSeconds : List (Nat × Nat) := [(0x40, 0x7E), (0x80, 0xA0)]

/-- The place of a pair of bytes in the extended table. -/
def widePlace? (a b : Nat) : Option Nat :=
  place? [(0x81, 0xFE)] [(0x40, 0x7E), (0x80, 0xFE)] 190 a b

/-- The places of the pairs of some first and second bytes, in order. -/
def widePlaces (firsts seconds : List (Nat × Nat)) : List Nat :=
  let bytes (ranges : List (Nat × Nat)) : List Nat :=
    ranges.flatMap fun (least, most) => (List.range (most + 1 - least)).map (least + ·)
  (bytes firsts).flatMap fun a => (bytes seconds).filterMap (widePlace? a)

/-- A run from the place of a pair of bytes on. -/
def wideRun (a b : Nat) (chars : String) : Run := ⟨(widePlace? a b).getD 0, chars.toList⟩

/-- A run of rows of 94 cells, in the extended table. -/
def widened (run : Run) : Run := ⟨(run.first / 94 + 0x20) * 190 + 0x60, run.chars⟩

/-- Symbols that GBK adds, by the pair that they begin at. -/
def symbolsGbk : List (Nat × Nat × String) := [
  (0xA2, 0xA1, "ⅰⅱⅲⅳⅴⅵⅶⅷⅸⅹ"),
  (0xA6, 0xE0, "︵︶︹︺︿﹀︽︾﹁﹂﹃﹄"),
  (0xA6, 0xEE, "︻︼︷︸︱"),
  (0xA6, 0xF4, "︳︴"),
  (0xA8, 0x40, "ˊˋ˙–―‥‵℅℉↖↗↘↙∕∟∣≒≦≧⊿═║╒╓╔╕╖╗╘╙╚╛╜╝╞╟╠╡╢╣╤╥╦╧╨╩╪╫╬╭╮╯╰╱╲╳▁▂▃▄▅▆▇█▉▊▋▌▍▎" ++
    "▏▓▔▕▼▽◢◣◤◥☉⊕〒〝〞"),
  (0xA8, 0xBB, "ɑ"),
  (0xA8, 0xBD, "ńň"),
  (0xA8, 0xC0, "ɡ"),
  (0xA9, 0x40, "〡〢〣〤〥〦〧〨〩㊣㎎㎏㎜㎝㎞㎡㏄㏎㏑㏒㏕︰￢￤"),
  (0xA9, 0x59, "℡㈱"),
  (0xA9, 0x5C, "‐"),
  (0xA9, 0x60, "ー゛゜ヽヾ〆ゝゞ﹉﹊﹋﹌﹍﹎﹏﹐﹑﹒﹔﹕﹖﹗﹙﹚﹛﹜﹝﹞﹟﹠﹡﹢﹣﹤﹥﹦﹨﹩﹪﹫"),
  (0xA9, 0x96, "〇")]

/-- The hanzi that remain: those of the block of unified ones that GB 2312 has not, and some from
beside it. -/
def remainingHanzi : List Char :=
  let known := tableOf (0x9FA6 - 0x4E00) <|
    guobiaoTable.toList.filterMap fun c =>
      if within 0x4E00 0x9FA5 c.toNat then some ⟨c.toNat - 0x4E00, [c]⟩ else none
  ((List.range known.size).filter fun i => (charAt? known i).isNone).map
      (fun i => Char.ofNat (0x4E00 + i)) ++
    "\uF92C\uF979\uF995\uF9E7\uF9F1\uFA0C\uFA0D\uFA0E\uFA0F\uFA11\uFA13".toList ++
    "\uFA14\uFA18\uFA1F\uFA20\uFA21\uFA23\uFA24\uFA27\uFA28\uFA29".toList

def tableGbk : Array Char :=
  let table := tableOf (126 * 190) (guobiaoRuns.map widened)
  let table := write table
    ([wideRun 0xA1 0xA4 "·", wideRun 0xA1 0xAA "—"] ++
      symbolsGbk.map fun (a, b, chars) => wideRun a b chars)
  fill table
    (widePlaces [(0x81, 0xA0)] [(0x40, 0x7E), (0x80, 0xFE)] ++ widePlaces [(0xAA, 0xFE)] lowSeconds)
    remainingHanzi

def gbk : CharReader := pairReader fun a b => (widePlace? a b).bind (charAt? tableGbk)

/-! ## GB 18030 -/

/-- Characters that GB 18030 adds among the pairs. -/
def symbols18030 : List (Nat × Nat × String) := [
  (0xA2, 0xE3, "€"),
  (0xA8, 0xBF, "ǹ"),
  (0xA9, 0x89, "〾⿰⿱⿲⿳⿴⿵⿶⿷⿸⿹⿺⿻"),
  (0xFE, 0x50, "⺁"),
  (0xFE, 0x54, "⺄㑳㑇⺈⺋"),
  (0xFE, 0x5A, "㖞㘚㘎⺌⺗㥮㤘"),
  (0xFE, 0x62, "㧏㧟㩳㧐"),
  (0xFE, 0x68, "㭎㱮㳠⺧"),
  (0xFE, 0x6E, "⺪䁖䅟⺮䌷⺳⺶⺷"),
  (0xFE, 0x77, "䎱䎬⺻䏝䓖䙡䙌"),
  (0xFE, 0x80, "䜣䜩䝼䞍⻊䥇䥺䥽䦂䦃䦅䦆䦟䦛䦷䦶"),
  (0xFE, 0x92, "䲣䲟䲠䲡䱷䲢䴓䴔䴕䴖䴗䴘䴙䶮")]

/-- The characters for private use from one on. -/
def privateFrom (first n : Nat) : List Char := (List.range n).map fun i => Char.ofNat (first + i)

/-- The table of GB 18030: what is left of that of GBK is for private use. -/
def table18030 : Array Char :=
  let user := widePlaces [(0xAA, 0xAF), (0xF8, 0xFE)] [(0xA1, 0xFE)]
  let table := fill tableGbk user (privateFrom 0xE000 1222)
  let table := fill table (widePlaces [(0xA1, 0xA7)] lowSeconds) (privateFrom 0xE4C6 672)
  let table := fill table (List.range (126 * 190)) (privateFrom 0xE766 255)
  write table (symbols18030.map fun (a, b, chars) => wideRun a b chars)

/-- The code points below 65536 that have neither one byte nor two, in order. -/
def fourByteTable (table : Array Char) : Array Nat :=
  let known := table.foldl (fun known c => known.setIfInBounds c.toNat true)
    (Array.replicate 0x10000 false)
  ((List.range 0x10000).filter fun n =>
    0x80 ≤ n && !within 0xD800 0xDFFF n && known[n]? == some false).toArray

/-- The code point of the four bytes at a place. -/
def fourBytePoint? (table : Array Char) (place : Nat) : Option Nat :=
  if 189000 ≤ place then
    if place < 189000 + 0x100000 then some (0x10000 + (place - 189000)) else none
  else (fourByteTable table)[place]?

def gb18030 : CharReader := fun a rest =>
  match rest.take 3 with
  | [b, c, d] =>
    if 0x80 ≤ a.toNat && within 0x30 0x39 b.toNat then do
      let high ← place? [(0x81, 0xFE)] [(0x30, 0x39)] 10 a.toNat b.toNat
      let low ← place? [(0x81, 0xFE)] [(0x30, 0x39)] 10 c.toNat d.toNat
      let n ← fourBytePoint? table18030 (high * 1260 + low)
      return (Char.ofNat n, 3)
    else pairReader pair? a rest
  | _ => pairReader pair? a rest
where
  pair? (a b : Nat) : Option Char := (widePlace? a b).bind (charAt? table18030)

/-! ## Big5 -/

/-- The place of a pair of bytes in Big5. -/
def bigFivePlace? (a b : Nat) : Option Nat :=
  place? [(0xA1, 0xF9)] [(0x40, 0x7E), (0xA1, 0xFE)] 157 a b

/-- A run from the place of a pair of bytes on. -/
def bigFiveRun (a b : Nat) (lines : List String) : Run :=
  ⟨(bigFivePlace? a b).getD 0, (String.join lines).toList⟩

def bigFiveTable : Array Char :=
  tableOf (89 * 157) [bigFiveRun 0xA1 0x40 bigFiveSymbols, bigFiveRun 0xA4 0x40 bigFiveCommon,
    bigFiveRun 0xC9 0x40 bigFiveRare]

def bigFive : CharReader := pairReader fun a b => (bigFivePlace? a b).bind (charAt? bigFiveTable)

/-- The table of the code page 950, which takes some symbols for others and adds a few. -/
def table950 : Array Char :=
  write bigFiveTable [bigFiveRun 0xA1 0x45 ["‧"], bigFiveRun 0xA1 0x4E ["﹑"],
    bigFiveRun 0xA1 0xC2 ["¯"], bigFiveRun 0xA1 0xE3 ["～"], bigFiveRun 0xA1 0xF2 ["⊕⊙"],
    bigFiveRun 0xA2 0x41 ["∕﹨"], bigFiveRun 0xA2 0x44 ["￥"], bigFiveRun 0xA2 0x46 ["￠￡"],
    bigFiveRun 0xA3 0xE1 ["€"],
    bigFiveRun 0xF9 0xD6 ["碁銹裏墻恒粧嫺╔╦╗╠╬╣╚╩╝╒╤╕╞╪╡╘╧╛╓╥╖╟╫╢╙╨╜║═╭╮╰╯▓"]]

def page950 : CharReader := pairReader fun a b => (bigFivePlace? a b).bind (charAt? table950)

end SchoolCatalog.Charset.DoubleByte
