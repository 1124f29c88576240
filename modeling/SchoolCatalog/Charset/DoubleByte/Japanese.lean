import SchoolCatalog.Charset.DoubleByte.Basic
import SchoolCatalog.Charset.DoubleByte.JisTable

/-!
# Japanese in pairs of bytes

The characters of JIS X 0208 stand at pairs of bytes above 160, or at shifted pairs that leave room
for half-width katakana in one byte. The code page 932 is the shifted form with further rows.
-/

namespace SchoolCatalog.Charset.DoubleByte

/-- The place of a cell of a row. -/
def cell (row column : Nat) : Nat := (row - 1) * 94 + (column - 1)

def jisRuns : List Run := rowsFrom 1 jisSymbols ++ rowsFrom 16 jisKanji

def jisTable : Array Char := tableOf (94 * 94) jisRuns

/-- The half-width katakana of a byte. -/
def katakana? (n : Nat) : Option Char := (offset? [(0xA1, 0xDF)] n).map fun i => Char.ofNat (0xFF61 + i)

/-- The place of a shifted pair. -/
def shiftedPlace? (a b : Nat) : Option Nat :=
  place? [(0x81, 0x9F), (0xE0, 0xFC)] [(0x40, 0x7E), (0x80, 0xFC)] 188 a b

def shiftJis : CharReader := fun a rest =>
  match katakana? a.toNat with
  | some c => some (c, 0)
  | none => pairReader (fun a b => (shiftedPlace? a b).bind (charAt? jisTable)) a rest

def eucJapanese : CharReader := fun a rest =>
  if a = 0x8E then (rest.head?.bind fun b => katakana? b.toNat).map (·, 1)
  else pairReader (fun a b => (highPlace? a b).bind (charAt? jisTable)) a rest

/-! ## Code page 932 -/

/-- Symbols for which the code page has full-width ones. -/
def fullWidthRuns : List Run := [
  ⟨cell 1 33, ['～', '∥']⟩, ⟨cell 1 61, ['－']⟩, ⟨cell 1 81, ['￠', '￡']⟩, ⟨cell 2 44, ['￢']⟩]

/-- The row 13. -/
def symbols932 : List String := [
  "①②③④⑤⑥⑦⑧⑨⑩⑪⑫⑬⑭⑮⑯⑰⑱⑲⑳ⅠⅡⅢⅣⅤⅥⅦⅧⅨⅩ�㍉㌔㌢㍍㌘㌧㌃㌶㍑㍗㌍㌦㌣㌫㍊㌻㎜㎝㎞㎎㎏㏄㎡��������㍻〝〟№㏍℡㊤㊥㊦㊧㊨㈱㈲㈹㍾㍽㍼≒≡∫∮∑√⊥∠∟⊿∵",
  "∩∪"]

/-- Kanji of the rows 89 to 92. -/
def kanji932 : List String := [
  "纊褜鍈銈蓜俉炻昱棈鋹曻彅丨仡仼伀伃伹佖侒侊侚侔俍偀倢俿倞偆偰偂傔僴僘兊兤冝冾凬刕劜劦勀勛匀匇匤卲厓厲叝﨎咜咊咩哿喆坙坥垬埈埇﨏塚增墲夋奓奛奝奣妤妺孖寀甯寘寬尞岦岺峵崧嵓﨑嵂嵭嶸嶹巐",
  "弡弴彧德忞恝悅悊惞惕愠惲愑愷愰憘戓抦揵摠撝擎敎昀昕昻昉昮昞昤晥晗晙晴晳暙暠暲暿曺朎朗杦枻桒柀栁桄棏﨓楨﨔榘槢樰橫橆橳橾櫢櫤毖氿汜沆汯泚洄涇浯涖涬淏淸淲淼渹湜渧渼溿澈澵濵瀅瀇瀨炅炫焏",
  "焄煜煆煇凞燁燾犱犾猤猪獷玽珉珖珣珒琇珵琦琪琩琮瑢璉璟甁畯皂皜皞皛皦益睆劯砡硎硤硺礰礼神祥禔福禛竑竧靖竫箞精絈絜綷綠緖繒罇羡羽茁荢荿菇菶葈蒴蕓蕙蕫﨟薰蘒﨡蠇裵訒訷詹誧誾諟諸諶譓譿賰賴",
  "贒赶﨣軏﨤逸遧郞都鄕鄧釚釗釞釭釮釤釥鈆鈐鈊鈺鉀鈼鉎鉙鉑鈹鉧銧鉷鉸鋧鋗鋙鋐﨧鋕鋠鋓錥錡鋻﨨錞鋿錝錂鍰鍗鎤鏆鏞鏸鐱鑅鑈閒隆﨩隝隯霳霻靃靍靏靑靕顗顥飯飼餧館馞驎髙髜魵魲鮏鮱鮻鰀鵰鵫鶴鸙黑"]

def table932 : Array Char :=
  let kanji := (String.join kanji932).toList
  let small := "ⅰⅱⅲⅳⅴⅵⅶⅷⅸⅹ".toList
  let marks := "￢￤＇＂".toList
  tableOf (94 * 120) <| jisRuns ++ fullWidthRuns ++ [
    ⟨cell 13 1, (String.join symbols932).toList⟩,
    ⟨cell 89 1, kanji⟩,
    ⟨cell 92 81, small ++ marks⟩,
    ⟨cell 95 1, (List.range (20 * 94)).map fun i => Char.ofNat (0xE000 + i)⟩,
    ⟨cell 115 1, small ++ "ⅠⅡⅢⅣⅤⅥⅦⅧⅨⅩ".toList ++ marks ++ "㈱№℡∵".toList ++ kanji⟩]

/-- The character of a byte that stands for itself beyond ASCII. -/
def single932? (n : Nat) : Option Char :=
  if n = 0x80 then some (Char.ofNat 0x80)
  else if n = 0xA0 then some (Char.ofNat 0xF8F0)
  else (offset? [(0xFD, 0xFF)] n).map fun i => Char.ofNat (0xF8F1 + i)

def page932 : CharReader := fun a rest =>
  match (katakana? a.toNat).or (single932? a.toNat) with
  | some c => some (c, 0)
  | none => pairReader (fun a b => (shiftedPlace? a b).bind (charAt? table932)) a rest

end SchoolCatalog.Charset.DoubleByte
