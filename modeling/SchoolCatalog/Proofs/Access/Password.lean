import SchoolCatalog.Access.Password
import SchoolCatalog.Proofs.Lists

/-!
# Kept passwords

A password is kept as a salt and a digest in hexadecimal with a dollar sign between them. No digit is
a dollar sign or a blank, so both are read back as they were written, and the password that was kept is
always accepted.

Results:
* `decode?_encode`: bytes that are written in hexadecimal are read back;
* `parts?_join`: the salt and the digest are read back from a kept form;
* `verify_of_keep`: a password is accepted by its own kept form;
* `digest_of_iterations`, `keep_of_iterations`: a password has a digest and a kept form.
-/

namespace SchoolCatalog

namespace Bytes.Hex

theorem digit_plain : ∀ n < 16, Text.isAsciiSpace (digit n) = false ∧ digit n ≠ '$' := by decide

theorem ofNat_digits (b : UInt8) : UInt8.ofNat (16 * (b.toNat / 16) + b.toNat % 16) = b := by
  rw [Nat.div_add_mod, UInt8.ofNat_toNat]

theorem decodeChars?_encodeChars (bytes : Bytes) : decodeChars? (encodeChars bytes) = some bytes := by
  induction bytes with
  | nil => rfl
  | cons b rest ih =>
    have hhigh : b.toNat / 16 < 16 := by
      have := b.toNat_lt
      omega
    have hlow : b.toNat % 16 < 16 := Nat.mod_lt _ (by decide)
    rw [encodeChars, decodeChars?, (digit_plain _ hhigh).1, digit?_digit _ hhigh, digit?_digit _ hlow,
      ih]
    simp only [Bool.false_eq_true, if_false, Option.map_some, ofNat_digits]

/-- Bytes that are written in hexadecimal are read back. -/
theorem decode?_encode (bytes : Bytes) : decode? (encode bytes) = some bytes := by
  rw [decode?, encode, String.toList_ofList, decodeChars?_encodeChars]

/-- What is written in hexadecimal has no dollar sign. -/
theorem dollar_notMem_encodeChars (bytes : Bytes) : '$' ∉ encodeChars bytes := by
  induction bytes with
  | nil => exact List.not_mem_nil
  | cons b rest ih =>
    have := b.toNat_lt
    have hhigh := (digit_plain (b.toNat / 16) (by omega)).2
    have hlow := (digit_plain (b.toNat % 16) (by omega)).2
    simp only [encodeChars, List.mem_cons, not_or]
    exact ⟨hhigh.symm, hlow.symm, ih⟩

end Bytes.Hex

namespace Text

/-- A text is cut at a separator that does not stand before it. -/
theorem cut_append {separator : Char} {before after : List Char} (h : separator ∉ before) :
    cut separator (String.ofList (before ++ separator :: after)) =
      (String.ofList before, some (String.ofList after)) := by
  have hbefore : ∀ c ∈ before, (c != separator) = true := fun c hc =>
    bne_iff_ne.2 fun heq => h (heq ▸ hc)
  rw [cut, String.toList_ofList]
  simp [List.takeWhile_append_of_pos hbefore, List.dropWhile_append_of_pos hbefore]

end Text

namespace Password

/-- The salt and the digest are read back from a kept form. -/
theorem parts?_join (salt digest : Bytes) :
    parts? (Bytes.Hex.encode salt ++ "$" ++ Bytes.Hex.encode digest) = some (salt, digest) := by
  have hjoin : Bytes.Hex.encode salt ++ "$" ++ Bytes.Hex.encode digest =
      String.ofList (Bytes.Hex.encodeChars salt ++ '$' :: Bytes.Hex.encodeChars digest) := by
    rw [← String.toList_inj]
    simp [Bytes.Hex.encode]
  have hcut := @Text.cut_append '$' _ (Bytes.Hex.encodeChars digest)
    (Bytes.Hex.dollar_notMem_encodeChars salt)
  have hsalt := Bytes.Hex.decode?_encode salt
  have hdigest := Bytes.Hex.decode?_encode digest
  unfold Bytes.Hex.encode at hsalt hdigest
  rw [parts?, hjoin, hcut]
  dsimp only
  rw [hsalt, hdigest]

/-- A password is accepted by its own kept form. -/
theorem verify_of_keep {password : Wording} {salt : Bytes} {iterations : Int} {kept : String}
    (h : keep password salt iterations = .ok kept) : verify password kept iterations = .ok true := by
  unfold keep at h
  cases hdigest : digest password salt iterations with
  | error failure => rw [hdigest] at h; exact nomatch h
  | ok bytes =>
    rw [hdigest] at h
    obtain rfl := Except.ok.inj h
    rw [verify, parts?_join]
    dsimp only
    rw [hdigest]
    simp [Except.map]

/-- The digest of a text, if it is iterated often enough and not too often. -/
theorem digest_of_iterations {iterations : Int} (hleast : 1 ≤ iterations) (hmost : iterations ≤ mostIterations)
    (password : String) (salt : Bytes) :
    digest (.proper password) salt iterations =
      .ok (Digest.pbkdf2 (Bytes.ofText password) salt iterations.toNat) := by
  have hrange : ¬ (mostIterations < iterations ∨ iterations < Number.leastWord) := by
    simp only [Number.leastWord]
    omega
  have hsome : ¬ iterations < 1 := by omega
  exact (if_neg (by simpa using hrange)).trans (if_neg hsome)

/-- A text can be kept with any salt, if its digest is iterated often enough and not too often. -/
theorem keep_of_iterations {iterations : Int} (hleast : 1 ≤ iterations) (hmost : iterations ≤ mostIterations)
    (password : String) (salt : Bytes) : ∃ kept, keep (.proper password) salt iterations = .ok kept := by
  rw [keep, digest_of_iterations hleast hmost]
  exact ⟨_, rfl⟩

end Password
end SchoolCatalog
