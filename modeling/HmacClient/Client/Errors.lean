import HmacClient.Client.Sign

namespace HmacClient

def RaisesInputTooLarge {α : Type} (r : Run α) : Prop := ∃ msg, r.result = .error (.inputTooLargeError msg)

theorem raisesInputTooLarge_iff {α : Type} {r : Run α} {p : Prop}
    (hgt : p → ∃ msg, r = Run.throw (.inputTooLargeError msg))
    (hle : ¬p → ∀ e, r.result = .error e → e.isInputTooLarge = false) :
    RaisesInputTooLarge r ↔ p := by
  constructor
  · rintro ⟨msg, hr⟩
    by_contra hp
    cases hle hp _ hr
  · intro hp
    obtain ⟨msg, rfl⟩ := hgt hp
    exact ⟨msg, rfl⟩

theorem raisesInputTooLarge_of_ok {α : Type} {r : Run α} (h : ∃ a, r.result = .ok a) :
    ∀ e, r.result = .error e → e.isInputTooLarge = false := by
  rintro e he
  obtain ⟨a, ha⟩ := h
  rw [ha] at he
  cases he

section
variable (H : Hash) (c : HMACClient) (clock : UtcInstant) (random : Nat) (data : Bytes)
  (signature hashValue timestamp nonce : PyStr)

theorem input_size_error_policy :
    (RaisesInputTooLarge (sha256Sign H c data) ↔ c.config.maxInputSize < data.length) ∧
    (RaisesInputTooLarge (sha256Verify H c data signature) ↔ c.config.maxInputSize < data.length) ∧
    (RaisesInputTooLarge (sign256 H c clock random data) ↔ c.config.maxInputSize < data.length) ∧
    (RaisesInputTooLarge (verify256 H c clock data hashValue timestamp nonce) ↔
      c.config.maxInputSize < data.length) ∧
    (c.config.maxInputSize < data.length →
      (sha256Sign H c data).calls = [] ∧ (sha256Verify H c data signature).calls = [] ∧
      (sign256 H c clock random data).calls = [] ∧
      (verify256 H c clock data hashValue timestamp nonce).calls = []) ∧
    ((∃ b, (sha256Verify H c data signature).result = .ok b) ∨
      RaisesInputTooLarge (sha256Verify H c data signature)) ∧
    ((∃ b, (verify256 H c clock data hashValue timestamp nonce).result = .ok b) ∨
      RaisesInputTooLarge (verify256 H c clock data hashValue timestamp nonce)) := by
  refine ⟨raisesInputTooLarge_iff (fun h => ⟨_, sha256Sign_of_gt H c data h⟩)
      (fun h => fun _ => sha256Sign_result_error H c data (not_lt.mp h)),
    raisesInputTooLarge_iff (fun h => ⟨_, sha256Verify_of_gt H c data signature h⟩)
      (fun h => raisesInputTooLarge_of_ok (sha256Verify_result_of_le H c data signature (not_lt.mp h))),
    raisesInputTooLarge_iff (fun h => ⟨_, sign256_of_gt H c data clock random h⟩)
      (fun h => fun _ => sign256_result_error H c data clock random (not_lt.mp h)),
    raisesInputTooLarge_iff (fun h => ⟨_, verify256_of_gt H c data clock hashValue h⟩)
      (fun h => raisesInputTooLarge_of_ok (verify256_result_of_le H c data clock hashValue (not_lt.mp h))),
    fun h => ?_, ?_, ?_⟩
  · rw [sha256Sign_of_gt H c data h, sha256Verify_of_gt H c data signature h,
      sign256_of_gt H c data clock random h, verify256_of_gt H c data clock hashValue h]
    exact ⟨rfl, rfl, rfl, rfl⟩
  · by_cases h : c.config.maxInputSize < data.length
    · exact .inr ⟨_, by rw [sha256Verify_of_gt H c data signature h]; rfl⟩
    · exact .inl (sha256Verify_result_of_le H c data signature (not_lt.mp h))
  · by_cases h : c.config.maxInputSize < data.length
    · exact .inr ⟨_, by rw [verify256_of_gt H c data clock hashValue h]; rfl⟩
    · exact .inl (verify256_result_of_le H c data clock hashValue (not_lt.mp h))

theorem sign256_succeeds_iff :
    (∃ v, (sign256 H c clock random data).result = .ok v) ↔
      (data.length : Int) ≤ c.config.maxInputSize ∧ (decodeUtf8 data).isSome ∧
        ∀ ch ∈ c.secretKey, isSurrogate ch = false := by
  constructor
  · rintro ⟨⟨hashValue, timestamp, nonce⟩, hs⟩
    obtain ⟨hle, -, -, hsm⟩ := sign256_result_ok H c data clock random hs
    obtain ⟨text, key, -, hd, hk, -⟩ := signMessage_result_ok H c data hsm
    exact ⟨hle, by rw [hd]; rfl, isSome_encodeUtf8.mp (by rw [hk]; rfl)⟩
  · rintro ⟨hle, hd, hkey⟩
    obtain ⟨text, hd⟩ := Option.isSome_iff_exists.mp hd
    obtain ⟨key, hk⟩ := Option.isSome_iff_exists.mp (isSome_encodeUtf8.mpr hkey)
    obtain ⟨_, -, hs⟩ := sign256_result_of_decode H c data clock random hle hd hk
    exact ⟨_, hs⟩

end

end HmacClient
