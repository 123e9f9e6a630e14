import HmacClient.Client.Sign

namespace HmacClient

section
variable (H : Hash) {c c' : HMACClient} (data : Bytes) {key key' : Bytes}

theorem sha256Verify_other_key (key : Bytes) (hk' : encodeUtf8 c'.secretKey = some key')
    (hle' : (data.length : Int) ≤ c'.config.maxInputSize) :
    (sha256Verify H c' data (hmacHex H key data)).result =
      .ok (decide (hmacDigest H key' data = hmacDigest H key data)) := by
  rw [sha256Verify_of_le H c' data _ hle', hk']
  exact congrArg Except.ok (compareDigest_hmacHex H _ _ _ _)

theorem verify256_other_key (hk : encodeUtf8 c.secretKey = some key)
    (hk' : encodeUtf8 c'.secretKey = some key') (clock clock' : UtcInstant) (random : Nat) {b : Bool}
    {hashValue timestamp nonce : PyStr}
    (hs : (sign256 H c clock random data).result = .ok (hashValue, timestamp, nonce))
    (hle' : (data.length : Int) ≤ c'.config.maxInputSize)
    (hts : (verifyTimestamp c' clock' timestamp).result = .ok b) :
    ∃ text messageBytes, decodeUtf8 data = some text ∧
      encodeUtf8 (canonicalMessage timestamp nonce text) = some messageBytes ∧
      hashValue = hmacHex H key messageBytes ∧
      (verify256 H c' clock' data hashValue timestamp nonce).result =
        .ok (b && decide (hmacDigest H key' messageBytes = hmacDigest H key messageBytes)) := by
  obtain ⟨-, -, -, hsm⟩ := sign256_result_ok H c data clock random hs
  obtain ⟨text, key₀, mb, hd, hk₀, hm, rfl⟩ := signMessage_result_ok H c data hsm
  obtain rfl : key₀ = key := Option.some.inj (hk₀.symm.trans hk)
  refine ⟨text, mb, hd, hm, rfl, ?_⟩
  have hsm' := congrArg Run.result (signMessage_of_some H c' data hd hk' hm)
  cases b
  · exact verify256_result_of_stale H c' data clock' _ hle' hts
  · rw [verify256_result_of_fresh H c' data clock' _ hle' hts hsm', compareDigest_hmacHex]
    rfl

theorem key_separation_up_to_collision (hk : encodeUtf8 c.secretKey = some key)
    (hk' : encodeUtf8 c'.secretKey = some key') (hle : (data.length : Int) ≤ c.config.maxInputSize)
    (hle' : (data.length : Int) ≤ c'.config.maxInputSize) :
    (sha256Sign H c data).result = .ok (hmacHex H key data) ∧
    ((sha256Verify H c' data (hmacHex H key data)).result = .ok true ↔
      hmacDigest H key' data = hmacDigest H key data) ∧
    (keyBlock H key = keyBlock H key' →
      (sha256Verify H c' data (hmacHex H key data)).result = .ok true) ∧
    ((sha256Verify H c' data (hmacHex H key data)).result = .ok true →
      keyBlock H key = keyBlock H key' ∨ OuterCollision H key key' data) ∧
    ∀ (clock clock' : UtcInstant) (random : Nat) (hashValue timestamp nonce : PyStr),
      (sign256 H c clock random data).result = .ok (hashValue, timestamp, nonce) →
      ((verify256 H c' clock' data hashValue timestamp nonce).result = .ok true →
        keyBlock H key = keyBlock H key' ∨ ∃ text messageBytes, decodeUtf8 data = some text ∧
          encodeUtf8 (canonicalMessage timestamp nonce text) = some messageBytes ∧
          OuterCollision H key key' messageBytes) ∧
      (keyBlock H key = keyBlock H key' → (verifyTimestamp c' clock' timestamp).result = .ok true →
        (verify256 H c' clock' data hashValue timestamp nonce).result = .ok true) := by
  have hv := sha256Verify_other_key H data key hk' hle'
  have hcoll : ∀ {msg}, hmacDigest H key' msg = hmacDigest H key msg →
      keyBlock H key = keyBlock H key' ∨ OuterCollision H key key' msg := fun h =>
    hmacDigest_eq_keyBlock_or_collision H h.symm
  refine ⟨by rw [sha256Sign_of_le H c data hle, hk]; rfl, by simp [hv], fun hb => ?_,
    fun h => hcoll (by simpa [hv] using h), fun clock clock' random _ timestamp _ hs => ⟨fun h => ?_,
      fun hb hts => ?_⟩⟩
  · simp [hv, hmacDigest_eq_of_keyBlock_eq H hb.symm]
  · obtain ⟨b, hts⟩ := verifyTimestamp_result c' clock' timestamp
    obtain ⟨text, mb, hd, hm, -, hr⟩ := verify256_other_key H data hk hk' clock clock' random hs hle' hts
    rw [hr] at h
    exact (hcoll (of_decide_eq_true (Bool.and_eq_true_iff.mp (Except.ok.inj h)).2)).imp id
      fun hc => ⟨text, mb, hd, hm, hc⟩
  · obtain ⟨-, mb, -, -, -, hr⟩ := verify256_other_key H data hk hk' clock clock' random hs hle' hts
    simp [hr, hmacDigest_eq_of_keyBlock_eq H hb.symm]

end

def keyAClient : HMACClient :=
  ⟨pyStr "http://localhost:8080", pyStr "a", defaultConfig, by decide, by decide, by decide⟩

def keyANulClient : HMACClient :=
  ⟨pyStr "http://localhost:8080", pyStr "a" ++ [CodePoint.ofNat 0], defaultConfig, by decide, by decide,
    by decide⟩

def nulKeyClient : HMACClient :=
  ⟨pyStr "http://localhost:8080", [CodePoint.ofNat 0], defaultConfig, by decide, by decide, by decide⟩

theorem key_separation_up_to_collision_nul :
    encodeUtf8 keyAClient.secretKey = some ((pyStr "a").map fun c => Byte.ofNat c.val) ∧
    encodeUtf8 keyANulClient.secretKey = some ((pyStr "a").map (fun c => Byte.ofNat c.val) ++ [0]) ∧
    (([] : Bytes).length : Int) ≤ keyAClient.config.maxInputSize ∧
    (([] : Bytes).length : Int) ≤ keyANulClient.config.maxInputSize ∧
    (sha256Verify zeroHash keyANulClient []
      (hmacHex zeroHash ((pyStr "a").map fun c => Byte.ofNat c.val) [])).result = .ok true :=
  have hk : encodeUtf8 keyAClient.secretKey = some ((pyStr "a").map fun c => Byte.ofNat c.val) := rfl
  have hk' : encodeUtf8 keyANulClient.secretKey =
      some ((pyStr "a").map (fun c => Byte.ofNat c.val) ++ [0]) := rfl
  ⟨hk, hk', by decide, by decide,
    (key_separation_up_to_collision zeroHash [] hk hk' (by decide) (by decide)).2.2.1
      (keyBlock_append_nul zeroHash (by decide)).symm⟩

theorem key_separation_fails :
    (¬ ∃ H : Hash, ∀ (c c' : HMACClient) (data : Bytes), c.secretKey ≠ c'.secretKey →
      (data.length : Int) ≤ c.config.maxInputSize → (data.length : Int) ≤ c'.config.maxInputSize →
      ∀ signature, (sha256Sign H c data).result = .ok signature →
        (sha256Verify H c' data signature).result = .ok false) ∧
    (¬ ∃ H : Hash, ∀ c : HMACClient, ∃ data : Bytes, (data.length : Int) ≤ c.config.maxInputSize ∧
      (sha256Sign H c data).result ≠ .ok (hmacHex H [] data)) := by
  constructor
  · rintro ⟨H, h⟩
    have hk : encodeUtf8 keyAClient.secretKey = some ((pyStr "a").map fun c => Byte.ofNat c.val) := rfl
    have hk' : encodeUtf8 keyANulClient.secretKey =
        some ((pyStr "a").map (fun c => Byte.ofNat c.val) ++ [0]) := rfl
    have hv := sha256Verify_other_key H [] ((pyStr "a").map fun c => Byte.ofNat c.val) hk' (by decide)
    rw [hmacDigest_eq_of_keyBlock_eq H (keyBlock_append_nul H (by decide)), decide_eq_true rfl] at hv
    have := h keyAClient keyANulClient [] (by decide) (by decide) (by decide)
      (hmacHex H ((pyStr "a").map fun c => Byte.ofNat c.val) [])
      (by rw [sha256Sign_of_le H keyAClient [] (by decide), hk]; rfl)
    rw [hv] at this
    cases this
  · rintro ⟨H, h⟩
    obtain ⟨data, hle, hne⟩ := h nulKeyClient
    have hblock : keyBlock H [0] = keyBlock H [] :=
      keyBlock_append_nul H (show ([] : Bytes).length < 64 by decide)
    apply hne
    rw [sha256Sign_of_le H nulKeyClient data hle]
    show Except.ok (hmacHex H [0] data) = Except.ok (hmacHex H [] data)
    rw [hmacHex, hmacHex, hmacDigest_eq_of_keyBlock_eq H hblock]

end HmacClient
