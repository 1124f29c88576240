import Mathlib.Data.List.DropRight
import SchoolCatalog.Proofs.Access.Password
import SchoolCatalog.Proofs.Bytes.Utf8

/-!
# The passwords that a kept form accepts

A key that is shorter than a block is filled up with zero bytes, and a zero byte is the UTF-8 form of the
null character. So null characters at the end of a password that fits in a block make no difference to its
block. They are all that makes none: two such passwords have the same block if and only if they are the
same but for null characters at their ends. As far as the digest tells blocks apart, a kept form accepts
these passwords and no others.

Results:
1. `keyBlock_eq_iff`: the passwords that have the same block.
2. `verify_kept`: the passwords that a kept form accepts.
3. `verify_of_lengthened`: so it accepts more than the password that was kept.
-/

namespace SchoolCatalog.Password

open Bytes

variable {p q : String}

/-! ## Null characters -/

/-- A text of null characters. -/
def nulls (n : Nat) : String := String.ofList (List.replicate n '\x00')

/-- A password without the null characters at its end. -/
def stem (password : String) : String := String.ofList (password.toList.rdropWhile (· == '\x00'))

theorem ofText_nulls (n : Nat) : ofText (nulls n) = List.replicate n 0 := by
  rw [ofText_eq_flatMap, nulls, String.toList_ofList]
  induction n with
  | zero => rfl
  | succ n ih =>
    rw [List.replicate_succ, List.flatMap_cons, ih]
    rfl

theorem exists_nulls (password : String) : ∃ n, password = stem password ++ nulls n := by
  have hall : ∀ c ∈ password.toList.rtakeWhile (· == '\x00'), c = '\x00' := by
    intro c hc
    have hnull := List.mem_rtakeWhile_imp hc
    exact eq_of_beq hnull
  refine ⟨(password.toList.rtakeWhile (· == '\x00')).length, ?_⟩
  rw [nulls, ← List.eq_replicate_of_mem hall, stem, ← String.ofList_append,
    List.rdropWhile_append_rtakeWhile, String.ofList_toList]

theorem stem_append_nulls (password : String) (n : Nat) : stem (password ++ nulls n) = stem password := by
  rw [stem, stem, String.toList_append, nulls, String.toList_ofList]
  congr 1
  induction n with
  | zero => rw [List.replicate_zero, List.append_nil]
  | succ n ih =>
    rw [List.replicate_succ', ← List.append_assoc, List.rdropWhile_concat_pos _ _ _ (by decide), ih]

theorem stem_stem (password : String) : stem (stem password) = stem password := by
  rw [stem, stem, String.toList_ofList, List.rdropWhile_idempotent]

/-! ## Blocks -/

/-- The block of a password is its stem, filled up. -/
theorem keyBlock_ofText (h : (ofText p).length ≤ 64) :
    Digest.keyBlock (ofText p) = ofText (stem p ++ nulls (64 - (ofText (stem p)).length)) := by
  obtain ⟨n, hn⟩ := exists_nulls p
  have hbytes : ofText p = ofText (stem p) ++ List.replicate n 0 := by
    conv => lhs; rw [hn, ofText_append, ofText_nulls]
  have hlength : (ofText p).length = (ofText (stem p)).length + n := by
    rw [hbytes, List.length_append, List.length_replicate]
  rw [Digest.keyBlock, if_neg (Nat.not_lt.2 h), hlength, hbytes, List.append_assoc,
    List.replicate_append_replicate, ofText_append, ofText_nulls]
  congr 2
  omega

/-- Two passwords that fit in a block have the same block if and only if they are the same up to null
characters at their ends. -/
theorem keyBlock_eq_iff (hp : (ofText p).length ≤ 64) (hq : (ofText q).length ≤ 64) :
    Digest.keyBlock (ofText p) = Digest.keyBlock (ofText q) ↔ stem p = stem q := by
  rw [keyBlock_ofText hp, keyBlock_ofText hq]
  constructor
  · intro h
    have hstem := congrArg stem (ofText_injective h)
    rwa [stem_append_nulls, stem_append_nulls, stem_stem, stem_stem] at hstem
  · intro h
    rw [h]

/-! ## Kept forms -/

/-- The digest goes by the block alone. -/
theorem pbkdf2_of_keyBlock {key other : Bytes} (h : Digest.keyBlock key = Digest.keyBlock other)
    (salt : Bytes) (n : Nat) : Digest.pbkdf2 key salt n = Digest.pbkdf2 other salt n := by
  rw [Digest.pbkdf2, Digest.pbkdf2, h]

/-- A kept form is checked by comparing digests. -/
theorem verify_of_digest {iterations : Int} (hleast : 1 ≤ iterations) (hmost : iterations ≤ mostIterations)
    (p q : String) (salt : Bytes) : ∃ kept, keep (.proper p) salt iterations = .ok kept ∧
      verify (.proper q) kept iterations = .ok (decide (Digest.pbkdf2 (ofText q) salt iterations.toNat =
        Digest.pbkdf2 (ofText p) salt iterations.toNat)) := by
  refine ⟨Hex.encode salt ++ "$" ++ Hex.encode (Digest.pbkdf2 (ofText p) salt iterations.toNat), ?_, ?_⟩
  · rw [keep, digest_of_iterations hleast hmost]
    rfl
  · rw [verify, parts?_join]
    dsimp only
    rw [digest_of_iterations hleast hmost]
    exact congrArg Except.ok (beq_eq_decide _ _)

/-- Of the passwords that fit in a block, the kept form of one accepts those that are the same up to null
characters at their ends, and no others as far as the digest tells their blocks apart. -/
theorem verify_kept (hp : (ofText p).length ≤ 64) (hq : (ofText q).length ≤ 64) (salt : Bytes)
    {iterations : Int} (hleast : 1 ≤ iterations) (hmost : iterations ≤ mostIterations)
    (hdigest : Digest.keyBlock (ofText q) ≠ Digest.keyBlock (ofText p) →
      Digest.pbkdf2 (ofText q) salt iterations.toNat ≠ Digest.pbkdf2 (ofText p) salt iterations.toNat) :
    ∃ kept, keep (.proper p) salt iterations = .ok kept ∧
      verify (.proper q) kept iterations = .ok (decide (stem q = stem p)) := by
  obtain ⟨kept, hkept, hverify⟩ := verify_of_digest hleast hmost p q salt
  refine ⟨kept, hkept, hverify.trans (congrArg Except.ok (decide_eq_decide.2 ?_))⟩
  rw [← keyBlock_eq_iff hq hp]
  constructor
  · exact fun h => Classical.byContradiction fun hblocks => hdigest hblocks h
  · exact fun h => pbkdf2_of_keyBlock h salt _

theorem verify_of_similar :
    (Digest.pbkdf2 (ofText "secret2") (List.replicate 16 1) 2 ≠
        Digest.pbkdf2 (ofText "secret1") (List.replicate 16 1) 2 ∧
      ∃ kept, keep (.proper "secret1") (List.replicate 16 1) 2 = .ok kept ∧
        verify (.proper "secret2") kept 2 = .ok false) ∧
    ∃ kept, keep (.proper "secret1") (List.replicate 16 1) 2 = .ok kept ∧
      verify (.proper "secret1\x00") kept 2 = .ok true := by
  have hdigest : Digest.pbkdf2 (ofText "secret2") (List.replicate 16 1) 2 ≠
      Digest.pbkdf2 (ofText "secret1") (List.replicate 16 1) 2 := by
    decide +kernel
  have hblock : Digest.keyBlock (ofText "secret1\x00") = Digest.keyBlock (ofText "secret1") := by
    decide +kernel
  have hshort : (ofText "secret1").length ≤ 64 ∧ (ofText "secret2").length ≤ 64 ∧
      (ofText "secret1\x00").length ≤ 64 := by
    decide +kernel
  refine ⟨⟨hdigest, ?_⟩, ?_⟩
  · exact verify_kept hshort.1 hshort.2.1 _ (by decide) (by decide) fun _ => hdigest
  · exact verify_kept hshort.1 hshort.2.2 _ (by decide) (by decide) fun hne => absurd hblock hne

/-- The kept form of a password accepts the same password with a null character at its end, which has the
same block. -/
theorem verify_of_lengthened : "secret1\x00" ≠ "secret1" ∧
    (ofText "secret1\x00").length ≤ 64 ∧ (ofText "secret1").length ≤ 64 ∧
    Digest.keyBlock (ofText "secret1\x00") = Digest.keyBlock (ofText "secret1") ∧
    ∃ kept, keep (.proper "secret1") (List.replicate 16 1) standardIterations = .ok kept ∧
      verify (.proper "secret1\x00") kept standardIterations = .ok true := by
  have hblock : Digest.keyBlock (ofText "secret1\x00") = Digest.keyBlock (ofText "secret1") := by
    decide +kernel
  obtain ⟨kept, hkept, hverify⟩ := @verify_of_digest standardIterations (by decide) (by decide)
    "secret1" "secret1\x00" (List.replicate 16 1)
  refine ⟨by decide, by decide +kernel, by decide +kernel, hblock, kept, hkept, ?_⟩
  rw [hverify, decide_eq_true (pbkdf2_of_keyBlock hblock _ _)]

end SchoolCatalog.Password
