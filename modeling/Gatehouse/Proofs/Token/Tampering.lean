import Gatehouse.Proofs.Token.Secret

/-!
# Tokens with another signature

Behind the last dot of an issued token only the bytes count that the text there stands for. The bytes of
the keyed hash make it the token it was, whatever their spelling; other bytes make it invalid, and a
text that stands for no bytes makes it malformed.
-/

namespace Gatehouse

/-! ## Length of a signature -/

theorem Sha2.length_digest {v : Sha2.Variant} (h : v.outputWords ≤ 8) (message : List UInt8) :
    (Sha2.digest v message).length = v.outputBytes := by
  have hwords : ∀ s : Sha2.State, s.toList.length = 8 := fun _ => rfl
  simp only [Sha2.digest, List.length_flatMap, BigEndian.length_bytes, List.map_const', List.sum_replicate_nat,
    List.length_take, hwords, Nat.min_eq_left h, Sha2.Variant.outputBytes]

namespace Token

theorem length_sign (codec : Codec) (signed : List UInt8) :
    (codec.sign signed).length = codec.algorithm.variant.outputBytes := by
  have hwords : codec.algorithm.variant.outputWords ≤ 8 := by
    cases codec.algorithm <;> decide
  exact Sha2.length_digest hwords _

/-! ## Another last piece -/

section
variable {codec : Codec} {claims : Claims} {last : String}

theorem verifyWith_unsigned (codec : Codec) (claims : Claims) (now : Instant) (hlast : '.' ∉ last.toList) :
    codec.verifyWith (Utf8.encode codec.secret) now (unsigned codec claims ++ "." ++ last) =
      match Base64.decodeBare (Utf8.encode last) with
      | none => .error .malformed
      | some mac =>
        if mac = codec.sign (Utf8.encode (unsigned codec claims)) then
          examine codec now (Utf8.encode ((Json.object claims).write Json.compactAscii))
        else .error .invalid := by
  rw [Codec.verifyWith, segments?_unsigned codec claims (dot_not_mem_encode hlast)]
  cases Base64.decodeBare (Utf8.encode last) with
  | none => rfl
  | some mac =>
    have hnames : namesAlgorithm codec ⟨Utf8.encode (unsigned codec claims),
        [("alg", .text codec.algorithm.name), ("typ", .text "JWT")],
        Utf8.encode ((Json.object claims).write Json.compactAscii), mac⟩ = true :=
      namesAlgorithm_iff.mpr rfl
    simp only [Option.map_some, hnames, true_and, eq_comm (a := mac)]
    rfl

theorem verify_unsigned (hown : IsOwnKey codec.secret) (husable : isForeignKey codec.secret = false)
    (claims : Claims) (now : Instant) (hlast : '.' ∉ last.toList) :
    codec.verify now (unsigned codec claims ++ "." ++ last) =
      match Base64.decodeBare (Utf8.encode last) with
      | none => .error .malformed
      | some mac =>
        if mac = codec.sign (Utf8.encode (unsigned codec claims)) then codec.verify now (sealed codec claims)
        else .error .invalid := by
  have hsealed := verifyWith_unsigned codec claims now
    (Base64.dot_not_mem_encodeBare (codec.sign (Utf8.encode (unsigned codec claims))))
  simp only [Base64.decodeBare_encodeBare, if_true] at hsealed
  rw [verify_eq_verifyWith hown husable, verifyWith_unsigned codec claims now hlast,
    verify_eq_verifyWith hown husable, sealed, hsealed]

theorem verify_digit_replaced (hown : IsOwnKey codec.secret) (husable : isForeignKey codec.secret = false)
    (claims : Claims) (now : Instant) {i v : Nat} (hv : v < 64)
    (hlast : last = Base64.encodeBare (codec.sign (Utf8.encode (unsigned codec claims))))
    (hi : i + 1 < last.toList.length) (hother : last.toList[i]? ≠ some (Base64.digit v)) :
    codec.verify now (unsigned codec claims ++ "." ++ String.ofList (last.toList.set i (Base64.digit v))) =
      .error .invalid := by
  subst hlast
  have hdot : '.' ∉ (String.ofList ((Base64.encodeBare (codec.sign (Utf8.encode
      (unsigned codec claims)))).toList.set i (Base64.digit v))).toList := by
    rw [String.toList_ofList]
    intro h
    rcases List.mem_or_eq_of_mem_set h with hmem | hdigit
    · exact Base64.dot_not_mem_encodeBare _ hmem
    · exact Base64.digit_ne_dot v hv hdigit.symm
  obtain ⟨mac, hmac, hdecode⟩ := Base64.decodeBare_set hi hv hother
  rw [verify_unsigned hown husable claims now hdot, hdecode]
  exact if_neg hmac

end

/-! ## Issued tokens -/

/-- **Tampered signatures.** An issued token is a front and a signature. With another text behind the front
it is what it was if the text stands for the bytes of the keyed hash, invalid if it stands for others, and
malformed if it stands for none. A single digit put in place of another one, at the end apart,
always stands for other bytes. -/
theorem verify_tampered {codec : Codec} (hraw : IsRaw codec.secret) {issued : Instant} {user token : String}
    {ttl : Option Duration.Span} (hissue : codec.issue issued user ttl = .ok token) :
    ∃ front signature : String, token = front ++ "." ++ signature ∧ '.' ∉ signature.toList ∧
      signature.length = (codec.algorithm.variant.outputBytes * 4 + 2) / 3 ∧
      Base64.decodeBare (Utf8.encode signature) = some (codec.sign (Utf8.encode front)) ∧
      (∀ now last, '.' ∉ last.toList → codec.verify now (front ++ "." ++ last) =
        match Base64.decodeBare (Utf8.encode last) with
        | none => .error .malformed
        | some mac =>
          if mac = codec.sign (Utf8.encode front) then codec.verify now token else .error .invalid) ∧
      ∀ now i v, v < 64 → i + 1 < signature.length → signature.toList[i]? ≠ some (Base64.digit v) →
        codec.verify now (front ++ "." ++ String.ofList (signature.toList.set i (Base64.digit v))) =
          .error .invalid := by
  obtain ⟨-, husable, rfl⟩ := issue_eq_ok hissue
  have hown : IsOwnKey codec.secret := fun v hv => absurd hv (hraw v)
  refine ⟨_, _, rfl, Base64.dot_not_mem_encodeBare _, ?_, Base64.decodeBare_encodeBare _,
    fun now last => verify_unsigned hown husable _ now, ?_⟩
  · rw [Base64.length_encodeBare, length_sign]
  · intro now i v hv hi hother
    exact verify_digit_replaced hown husable _ now hv rfl hi hother

/-- One digit alone stands for no bytes, and one of two digits is another than the first of the signature. -/
theorem verify_tampered_minute :
    let codec : Codec := ⟨"scenario-secret", 60 * Duration.second, "iam_service", .hs256⟩
    ∃ front signature : String, codec.issue 0 "ann" none = .ok (front ++ "." ++ signature) ∧
      codec.verify 0 (front ++ "." ++ "A") = .error .malformed ∧
      ∃ v < 2, codec.verify 0 (front ++ "." ++ String.ofList (signature.toList.set 0 (Base64.digit v))) =
        .error .invalid := by
  intro codec
  have hraw : IsRaw codec.secret := by decide +kernel
  have hissue : codec.issue 0 "ann" none = .ok _ := issue_sealed "ann" (by decide) (by decide +kernel)
  obtain ⟨front, signature, htoken, -, hlength, -, hlast, hdigit⟩ := verify_tampered hraw hissue
  have hlong : 0 + 1 < signature.length := by
    rw [hlength]
    decide
  refine ⟨front, signature, htoken ▸ hissue, hlast 0 "A" (by decide), ?_⟩
  by_cases hfirst : signature.toList[0]? = some (Base64.digit 0)
  · refine ⟨1, by decide, hdigit 0 0 1 (by decide) hlong ?_⟩
    rw [hfirst]
    decide
  · exact ⟨0, by decide, hdigit 0 0 0 (by decide) hlong hfirst⟩

end Token

end Gatehouse
