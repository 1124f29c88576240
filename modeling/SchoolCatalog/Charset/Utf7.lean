import SchoolCatalog.Bytes.Wide

/-!
# UTF-7

ASCII stands for itself, but for the plus sign: it begins a stretch of base64 in which six bits a
character make up UTF-16 units. A hyphen after a stretch belongs to it, and one right after the plus
sign makes it a plus sign.

Main statement: `points?_of_plain`, ASCII without plus signs reads as it is.
-/

namespace SchoolCatalog.Charset.Utf7

def plus : UInt8 := 43
def hyphen : UInt8 := 45

/-- The value of a character of base64. -/
def sixBits? (b : UInt8) : Option Nat :=
  let n := b.toNat
  if 0x41 ≤ n && n ≤ 0x5A then some (n - 0x41)
  else if 0x61 ≤ n && n ≤ 0x7A then some (n - 0x61 + 26)
  else if 0x30 ≤ n && n ≤ 0x39 then some (n - 0x30 + 52)
  else if n = 0x2B then some 62
  else if n = 0x2F then some 63
  else none

/-- The units of sixteen bits that a stretch stands for, after `bits` bits of the value `left`. Fewer
than six bits may be left over, all of them zero. -/
def units? (bits left : Nat) : Bytes → Option (List Nat)
  | [] => if bits < 6 && left = 0 then some [] else none
  | b :: rest =>
    let left := left * 64 + (sixBits? b).getD 0
    if bits + 6 < 16 then units? (bits + 6) left rest
    else
      let unit := Nat.pow 2 (bits + 6 - 16)
      (units? (bits + 6 - 16) (left % unit) rest).map (left / unit :: ·)

/-- The code points of a stretch and what they are followed by: a high half at the end has to be
followed by a character, and is lost before a further plus sign. -/
def closeStretch? (points : List Nat) (after : Bytes) : Option (List Nat) :=
  if points.getLast?.any Bytes.isHighHalf then
    match after with
    | [] => none
    | b :: _ => some (if b = plus then points.dropLast else points)
  else some points

/-- What follows a stretch and the hyphen that belongs to it. -/
def afterStretch (after : Bytes) : Bytes := if after.head? = some hyphen then after.drop 1 else after

theorem length_afterStretch (after : Bytes) : (afterStretch after).length ≤ after.length := by
  unfold afterStretch
  split <;> simp

/-- The code points that bytes stand for. -/
def points? : Bytes → Option (List Nat)
  | [] => some []
  | b :: rest =>
    if b = plus then
      let stretch := rest.takeWhile fun b => (sixBits? b).isSome
      let after := rest.drop stretch.length
      if stretch.isEmpty then
        match rest with
        | [] => some []
        | c :: rest => if c = hyphen then (points? rest).map (b.toNat :: ·) else none
      else do
        let units ← units? 0 0 stretch
        let points ← closeStretch? (Bytes.joinPairs units) after
        (points? (afterStretch after)).map (points ++ ·)
    else if b.toNat < 0x80 then (points? rest).map (b.toNat :: ·)
    else none
termination_by bytes => bytes.length
decreasing_by
  · simp only [List.length_cons]
    omega
  · have := length_afterStretch (rest.drop (rest.takeWhile fun b => (sixBits? b).isSome).length)
    simp only [List.length_drop, List.length_cons] at this ⊢
    omega
  · simp

theorem points?_of_plain {bytes : Bytes} (h : ∀ b ∈ bytes, b ≠ plus ∧ b.toNat < 0x80) :
    points? bytes = some (bytes.map UInt8.toNat) := by
  induction bytes with
  | nil => simp [points?]
  | cons b rest ih =>
    obtain ⟨hp, ha⟩ := h b (by simp)
    have hr := ih fun c hc => h c (List.mem_cons_of_mem b hc)
    unfold points?
    simp [hp, ha, hr]

end SchoolCatalog.Charset.Utf7
