import HmacClient.Client.Sign

namespace HmacClient

section
variable (H : Hash) (c : HMACClient) (data : Bytes)

theorem sha256_round_trip (hkey : ∀ ch ∈ c.secretKey, isSurrogate ch = false)
    (h : (data.length : Int) ≤ c.config.maxInputSize) :
    ∃ signature, (sha256Sign H c data).result = .ok signature ∧
      (sha256Verify H c data signature).result = .ok true := by
  obtain ⟨key, hk⟩ := Option.isSome_iff_exists.mp (isSome_encodeUtf8.mpr hkey)
  refine ⟨hmacHex H key data, by rw [sha256Sign_of_le H c data h, hk]; rfl, ?_⟩
  rw [sha256Verify_of_le H c data _ h, hk]
  simp only [hmacHex, compareDigest_self, Option.getD_some]

theorem verify256_of_sign256 (clock clock' : UtcInstant) (random : Nat)
    {hashValue timestamp nonce : PyStr} (hK : c.config.keyInterval < 2 ^ 34)
    (hs : (sign256 H c clock random data).result = .ok (hashValue, timestamp, nonce)) :
    (verify256 H c clock' data hashValue timestamp nonce).result =
      .ok (decide (((clock'.dt.micros - clock.dt.micros : Int).natAbs : Int) ≤
        c.config.keyInterval * 1000000)) := by
  obtain ⟨hle, rfl, rfl, hsm⟩ := sign256_result_ok H c data clock random hs
  obtain ⟨_, key, mb, -, -, -, rfl⟩ := signMessage_result_ok H c data hsm
  have hwindow := leInt_absTotalSeconds (le_of_lt c.valid.2.1) hK
    (show (clock'.dt.micros - clock.dt.micros : Int).natAbs < 2 ^ 53 * 1000000 by
      have := clock.dt.micros_lt clock.valid
      have := clock'.dt.micros_lt clock'.valid
      omega)
  have hts := congrArg Run.result (verifyTimestamp_isoformat c clock clock')
  rw [hwindow] at hts
  cases hb : decide (((clock'.dt.micros - clock.dt.micros : Int).natAbs : Int) ≤
      c.config.keyInterval * 1000000)
  · rw [hb] at hts
    exact verify256_result_of_stale H c data clock' _ hle hts
  · rw [hb] at hts
    rw [verify256_result_of_fresh H c data clock' _ hle hts hsm, hmacHex, compareDigest_self]
    rfl

theorem sign_verify_round_trip (hkey : ∀ ch ∈ c.secretKey, isSurrogate ch = false)
    (hK : c.config.keyInterval < 2 ^ 34) :
    ((data.length : Int) ≤ c.config.maxInputSize →
      ∃ signature, (sha256Sign H c data).result = .ok signature ∧
        (sha256Verify H c data signature).result = .ok true) ∧
    (∀ (clock clock' : UtcInstant) (random : Nat) (hashValue timestamp nonce : PyStr),
      (sign256 H c clock random data).result = .ok (hashValue, timestamp, nonce) →
      ((verify256 H c clock' data hashValue timestamp nonce).result = .ok true ↔
        ((clock'.dt.micros - clock.dt.micros : Int).natAbs : Int) ≤ c.config.keyInterval * 1000000)) ∧
    (∀ t : UtcInstant, fromisoformat (replaceZ (isoformat t)) = some t.toAware) := by
  refine ⟨sha256_round_trip H c data hkey, fun clock clock' random _ _ _ hs => ?_, fun t => ?_⟩
  · rw [verify256_of_sign256 H c data clock clock' random hK hs]
    simp
  · rw [replaceZ_isoformat, fromisoformat_isoformat]

end

theorem sign_verify_round_trip_testClient :
    (∀ ch ∈ testClient.secretKey, isSurrogate ch = false) ∧ testClient.config.keyInterval < 2 ^ 34 ∧
    ((([] : Bytes).length : Int) ≤ testClient.config.maxInputSize →
      ∃ signature, (sha256Sign zeroHash testClient []).result = .ok signature ∧
        (sha256Verify zeroHash testClient [] signature).result = .ok true) ∧
    (∀ (clock clock' : UtcInstant) (random : Nat) (hashValue timestamp nonce : PyStr),
      (sign256 zeroHash testClient clock random []).result = .ok (hashValue, timestamp, nonce) →
      ((verify256 zeroHash testClient clock' [] hashValue timestamp nonce).result = .ok true ↔
        ((clock'.dt.micros - clock.dt.micros : Int).natAbs : Int) ≤
          testClient.config.keyInterval * 1000000)) ∧
    (∀ t : UtcInstant, fromisoformat (replaceZ (isoformat t)) = some t.toAware) :=
  ⟨isSome_encodeUtf8.mp rfl, by decide,
    sign_verify_round_trip zeroHash testClient [] (isSome_encodeUtf8.mp rfl) (by decide)⟩

def surrogateKeyClient : HMACClient :=
  ⟨pyStr "http://localhost:8080", [CodePoint.ofNat 0xD800], defaultConfig, by decide, by decide, by decide⟩

def longIntervalClient : HMACClient :=
  ⟨pyStr "http://localhost:8080", pyStr "test-secret-key", ⟨2 ^ 34, 33554432, 30⟩, by decide, by decide,
    by decide⟩

def newYearPlusLongInterval : UtcInstant := ⟨⟨2568, 5, 29, 1, 53, 4, 1⟩, by decide⟩

theorem sign_verify_round_trip_fails :
    (¬ ∀ (H : Hash) (c : HMACClient) (data : Bytes), (data.length : Int) ≤ c.config.maxInputSize →
      ∃ signature, (sha256Sign H c data).result = .ok signature ∧
        (sha256Verify H c data signature).result = .ok true) ∧
    (¬ ∀ (H : Hash) (c : HMACClient) (data : Bytes) (clock clock' : UtcInstant) (random : Nat)
        (hashValue timestamp nonce : PyStr),
      (sign256 H c clock random data).result = .ok (hashValue, timestamp, nonce) →
      ((verify256 H c clock' data hashValue timestamp nonce).result = .ok true ↔
        ((clock'.dt.micros - clock.dt.micros : Int).natAbs : Int) ≤ c.config.keyInterval * 1000000)) := by
  constructor
  · intro h
    obtain ⟨_, hs, -⟩ := h zeroHash surrogateKeyClient [] (by decide)
    rw [sha256Sign_of_le zeroHash surrogateKeyClient [] (by decide)] at hs
    cases hs
  · intro h
    have hk : encodeUtf8 longIntervalClient.secretKey =
        some ((pyStr "test-secret-key").map fun c => Byte.ofNat c.val) := encodeUtf8_of_isAscii rfl
    obtain ⟨mb, -, hs⟩ := sign256_result_of_decode zeroHash longIntervalClient [] newYear 0 (by decide) rfl hk
    have hdelta : newYearPlusLongInterval.dt.micros - newYear.dt.micros = (17179869184000001 : Int) := rfl
    have hfresh : (verifyTimestamp longIntervalClient newYearPlusLongInterval (isoformat newYear)).result =
        .ok true := by
      rw [verifyTimestamp_isoformat, hdelta, absTotalSeconds,
        ofRatio_of_binade (by decide) (show 34 ≤ 52 by decide) (by decide) (by decide),
        leInt_mk_of_le (by decide)]
      rfl
    have haccept := verify256_result_of_fresh zeroHash longIntervalClient [] newYearPlusLongInterval
      (hmacHex zeroHash ((pyStr "test-secret-key").map fun c => Byte.ofNat c.val) mb) (by decide) hfresh (sign256_result_ok zeroHash longIntervalClient [] newYear 0 hs).2.2.2
    rw [hmacHex, compareDigest_self] at haccept
    have := (h zeroHash longIntervalClient [] newYear newYearPlusLongInterval 0 _ _ _ hs).mp haccept
    rw [hdelta] at this
    exact absurd this (by decide)

end HmacClient
