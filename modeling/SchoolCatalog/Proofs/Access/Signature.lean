import SchoolCatalog.Proofs.Access.Lifetime
import SchoolCatalog.Proofs.Bytes.Respelling

/-!
# Signatures that are changed

A token is accepted for the bytes that its signature is read as. Another text in the place of the signature
is accepted as the token is if it is read as the same bytes, which is a matter of its spelling: of characters
that are passed over, of marks at the end, and of bits that are left over. Every other text is refused.

Results:
1. `decode_alike`, `decode_unlike`: the two kinds of texts.
2. `decode_resigned`: whatever stands in the place of the signature.
-/

namespace SchoolCatalog.Token

open Bytes

variable {settings reader : Settings} {now later : Int} {claims : Record} {given : Option Int}
  {token header payload signature other : String}

/-- Three parts with dots between them. -/
def joined (header payload signature : String) : String := header ++ "." ++ payload ++ "." ++ signature

section Joined

variable (hheader : '.' ∉ header.toList) (hpayload : '.' ∉ payload.toList)
  (hsignature : '.' ∉ signature.toList)

include hheader hpayload hsignature

theorem decode_joined : decode reader later (joined header payload signature) =
    match Base64Url.decode signature with
    | .error _ => .ok none
    | .ok bytes =>
      if sign (ofText (header ++ "." ++ payload)) reader.secretKey = bytes then
        match claimsOf payload with
        | .error failure => .error failure
        | .ok none => .ok none
        | .ok (some claims) => current later claims
      else .ok none := by
  have hsplit := Text.split_dots hheader hpayload hsignature
  unfold decode joined
  generalize Text.split '.' (header ++ "." ++ payload ++ "." ++ signature) = parts at hsplit ⊢
  subst hsplit
  rfl

/-- A signature that is read as another one is no other signature. -/
theorem decode_alike (hother : '.' ∉ other.toList)
    (halike : Base64Url.decode other = Base64Url.decode signature) :
    decode reader later (joined header payload other) =
      decode reader later (joined header payload signature) := by
  rw [decode_joined hheader hpayload hother, decode_joined hheader hpayload hsignature, halike]

/-- A signature that is not read as the right one is refused. -/
theorem decode_unlike (hunlike : Base64Url.decode signature ≠
    .ok (sign (ofText (header ++ "." ++ payload)) reader.secretKey)) :
    decode reader later (joined header payload signature) = .ok none := by
  rw [decode_joined hheader hpayload hsignature]
  cases hread : Base64Url.decode signature with
  | error fault => rfl
  | ok bytes =>
    refine if_neg fun hsame => hunlike ?_
    rw [hread, hsame]

end Joined

/-- Whatever stands in the place of the signature, a token is read as it was made if the values of its
characters are those of the signature, but for what is left over of the last one, and is refused otherwise. So
no other signature that is written as signatures are is accepted. -/
theorem decode_resigned (h : create settings now claims given = .ok token) : ∃ header payload digest,
    token = joined header payload (Base64Url.encode digest) ∧ '.' ∉ header.toList ∧ '.' ∉ payload.toList ∧
    (∀ (reader : Settings) (later : Int) (other : String), reader.secretKey = settings.secretKey →
      '.' ∉ other.toList → decode reader later (joined header payload other) =
        if (Base64Url.values? other).map Base64Url.cleared = Base64Url.values? (Base64Url.encode digest) then
          decode reader later token
        else .ok none) ∧
    ∀ (reader : Settings) (later : Int) (bytes : Bytes), reader.secretKey = settings.secretKey →
      bytes ≠ digest → decode reader later (joined header payload (Base64Url.encode bytes)) = .ok none := by
  obtain ⟨issued, headerText, payloadText, _, _, rfl⟩ := create_ok h
  have hheader := part_no_dot headerText
  have hpayload := part_no_dot payloadText
  generalize part headerText = header at hheader ⊢
  generalize part payloadText = payload at hpayload ⊢
  refine ⟨header, payload, _, rfl, hheader, hpayload, fun reader later other hsecret hother => ?_,
    fun reader later bytes hsecret hbytes => ?_⟩
  · rw [Base64Url.values?_encode]
    split
    next hvalues =>
      have hread := Base64Url.decode_eq_ok.2 hvalues
      exact decode_alike hheader hpayload (encode_no_dot _) hother
        (hread.trans (Base64Url.decode_encode _).symm)
    next hvalues =>
      exact decode_unlike hheader hpayload hother
        fun hread => hvalues (Base64Url.decode_eq_ok.1 (hsecret ▸ hread))
  · refine decode_unlike hheader hpayload (encode_no_dot _) fun hread => hbytes ?_
    rw [Base64Url.decode_encode, hsecret] at hread
    exact Except.ok.inj hread

theorem decode_resigned_accented : ∃ header payload digest,
    create {} 0 [("sub", .text "42")] none = .ok (joined header payload (Base64Url.encode digest)) ∧
    decode {} 0 (joined header payload "é") = .ok none := by
  obtain ⟨token, h⟩ := (@exists_create {} 0 [("sub", .text "42")] none 0 (seconds_small 0 (by decide))).2
    (fits_answer 2592000 (by decide +kernel))
  obtain ⟨header, payload, digest, rfl, _, _, hresigned, _⟩ := decode_resigned h
  refine ⟨header, payload, digest, h, ?_⟩
  rw [hresigned {} 0 "é" rfl (by decide), Base64Url.values?_encode]
  exact if_neg nofun

/-- Characters outside the alphabet are passed over. -/
theorem decode_passing (s : String) : Base64Url.decode ("!!!!" ++ s) = Base64Url.decode s := by
  have hchars : ("!!!!" ++ s).toList = '!' :: '!' :: '!' :: '!' :: s.toList := String.toList_append
  have hlength : ('!' :: '!' :: '!' :: '!' :: s.toList).length % 4 = s.toList.length % 4 := by
    simp only [List.length_cons]
    omega
  rw [Base64Url.decode, Base64Url.decode, hchars, Base64Url.decodeChars, Base64Url.decodeChars, hlength]
  rfl

/-- A token whose signature is not spelt as it was written is accepted. -/
theorem accepted_with_marks : ∃ header payload signature found,
    create {} 0 [("sub", .text "42")] none = .ok (joined header payload signature) ∧
    '.' ∉ ("!!!!" ++ signature).toList ∧ "!!!!" ++ signature ≠ signature ∧
    decode {} 0 (joined header payload ("!!!!" ++ signature)) = .ok (some found) := by
  obtain ⟨token, found, h, _, hdecode⟩ :=
    @decode_until {} [("sub", .text "42")] none 0 0 (by decide) (seconds_small 0 (by decide))
      (fits_answer 2592000 (by decide +kernel))
  obtain ⟨_, headerText, payloadText, _, _, rfl⟩ := create_ok h
  have hdot {s : String} (hs : '.' ∉ s.toList) : '.' ∉ ("!!!!" ++ s).toList := by
    rw [String.toList_append, List.mem_append, not_or]
    exact ⟨by decide, hs⟩
  refine ⟨part headerText, part payloadText, _, found, h, hdot (encode_no_dot _), fun hsame => ?_, ?_⟩
  · have hlength := congrArg String.length hsame
    rw [String.length_append] at hlength
    have hmarks : "!!!!".length = 4 := rfl
    omega
  · exact (decode_alike (part_no_dot _) (part_no_dot _) (encode_no_dot _) (hdot (encode_no_dot _))
      (decode_passing _)).trans (hdecode {} 0 0 rfl (seconds_small 0 (by decide)))

end SchoolCatalog.Token
