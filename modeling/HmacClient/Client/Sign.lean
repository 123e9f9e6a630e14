import HmacClient.Client.Config

namespace HmacClient

def encode (s : PyStr) : Run Bytes := Run.ofOption .unicodeEncodeError (encodeUtf8 s)

def decode (b : Bytes) : Run PyStr := Run.ofOption .unicodeDecodeError (decodeUtf8 b)

def canonicalMessage (timestamp nonce text : PyStr) : PyStr :=
  timestamp ++ pyStr ":" ++ nonce ++ pyStr ":" ++ text

section
variable (H : Hash)

def hmacNew (key msg : Bytes) : Run PyStr := Run.call (.hmacNew key msg) (hmacHex H key msg)

def compareDigestCall (a b : PyStr) : Run Bool := Run.ofOption .typeError (compareDigest a b)

def sha256Sign (c : HMACClient) (data : Bytes) : Run PyStr := do
  checkInputSize c data
  let key ← encode c.secretKey
  hmacNew H key data

def sha256Verify (c : HMACClient) (data : Bytes) (signature : PyStr) : Run Bool :=
  Run.tryCatch (do
    checkInputSize c data
    let expected ← sha256Sign H c data
    compareDigestCall expected signature) reraiseInputTooLarge

def signMessage (c : HMACClient) (timestamp nonce : PyStr) (data : Bytes) : Run PyStr := do
  let text ← decode data
  let message := canonicalMessage timestamp nonce text
  let key ← encode c.secretKey
  let messageBytes ← encode message
  hmacNew H key messageBytes

def sign256 (c : HMACClient) (clock : UtcInstant) (random : Nat) (data : Bytes) :
    Run (PyStr × PyStr × PyStr) := do
  checkInputSize c data
  let now ← Run.call .now clock
  let timestamp := isoformat now
  let u ← Run.call .uuid4 (uuid4 random)
  let nonce := uuidStr u
  let hashValue ← signMessage H c timestamp nonce data
  pure (hashValue, timestamp, nonce)

end

def fromisoformatCall (s : PyStr) : Run Aware := do
  let parsed ← Run.call (.fromisoformat s) (fromisoformat s)
  Run.ofOption .valueError parsed

def verifyTimestamp (c : HMACClient) (clock : UtcInstant) (timestamp : PyStr) : Run Bool :=
  Run.tryCatch (do
    let ts ← fromisoformatCall (replaceZ timestamp)
    let now ← Run.call .now clock
    let delta ← Run.ofOption .typeError (subtract now ts)
    pure ((absTotalSeconds delta).leInt c.config.keyInterval)) fun _ => pure false

def verify256 (H : Hash) (c : HMACClient) (clock : UtcInstant) (data : Bytes)
    (hashValue timestamp nonce : PyStr) : Run Bool :=
  Run.tryCatch (do
    checkInputSize c data
    if !(← verifyTimestamp c clock timestamp) then return false
    let expected ← signMessage H c timestamp nonce data
    compareDigestCall expected hashValue) reraiseInputTooLarge

section
variable (H : Hash) (c : HMACClient) (data : Bytes)

theorem sha256Sign_of_gt (h : c.config.maxInputSize < data.length) :
    sha256Sign H c data =
      Run.throw (.inputTooLargeError (inputTooLargeMessage data.length c.config.maxInputSize)) := by
  simp [sha256Sign, checkInputSize_of_gt h]

theorem sha256Sign_of_le (h : (data.length : Int) ≤ c.config.maxInputSize) :
    sha256Sign H c data = match encodeUtf8 c.secretKey with
      | some key => Run.call (.hmacNew key data) (hmacHex H key data)
      | none => Run.throw .unicodeEncodeError := by
  simp only [sha256Sign, checkInputSize_of_le h, Run.pure_bind, encode]
  cases encodeUtf8 c.secretKey <;> rfl

theorem sha256Verify_of_gt (signature : PyStr) (h : c.config.maxInputSize < data.length) :
    sha256Verify H c data signature =
      Run.throw (.inputTooLargeError (inputTooLargeMessage data.length c.config.maxInputSize)) := by
  rw [sha256Verify, checkInputSize_of_gt h, Run.throw_bind, Run.tryCatch_error rfl]
  rfl

theorem sha256Verify_of_le (signature : PyStr) (h : (data.length : Int) ≤ c.config.maxInputSize) :
    sha256Verify H c data signature = match encodeUtf8 c.secretKey with
      | some key => ⟨[.hmacNew key data], .ok ((compareDigest (hmacHex H key data) signature).getD false)⟩
      | none => ⟨[], .ok false⟩ := by
  simp only [sha256Verify, checkInputSize_of_le h, Run.pure_bind, sha256Sign_of_le H c data h]
  cases encodeUtf8 c.secretKey with
  | none => rfl
  | some key =>
    simp only [Run.call_bind, compareDigestCall]
    cases compareDigest (hmacHex H key data) signature <;> rfl


variable {timestamp nonce : PyStr}

theorem signMessage_of_some {text : PyStr} {key messageBytes : Bytes}
    (hd : decodeUtf8 data = some text) (hk : encodeUtf8 c.secretKey = some key)
    (hm : encodeUtf8 (canonicalMessage timestamp nonce text) = some messageBytes) :
    signMessage H c timestamp nonce data =
      Run.call (.hmacNew key messageBytes) (hmacHex H key messageBytes) := by
  simp [signMessage, decode, encode, hd, hk, hm, hmacNew]

theorem signMessage_cases (timestamp nonce : PyStr) :
    (∃ text key messageBytes, decodeUtf8 data = some text ∧ encodeUtf8 c.secretKey = some key ∧
      encodeUtf8 (canonicalMessage timestamp nonce text) = some messageBytes ∧
      signMessage H c timestamp nonce data =
        Run.call (.hmacNew key messageBytes) (hmacHex H key messageBytes)) ∨
    signMessage H c timestamp nonce data = Run.throw .unicodeDecodeError ∨
    signMessage H c timestamp nonce data = Run.throw .unicodeEncodeError := by
  cases hd : decodeUtf8 data with
  | none => simp [signMessage, decode, hd]
  | some text =>
    cases hk : encodeUtf8 c.secretKey with
    | none => simp [signMessage, decode, encode, hd, hk]
    | some key =>
      cases hm : encodeUtf8 (canonicalMessage timestamp nonce text) with
      | none => simp [signMessage, decode, encode, hd, hk, hm]
      | some mb => exact .inl ⟨text, key, mb, rfl, rfl, hm, signMessage_of_some H c data hd hk hm⟩

theorem signMessage_result_ok {hashValue : PyStr}
    (hr : (signMessage H c timestamp nonce data).result = .ok hashValue) :
    ∃ text key messageBytes, decodeUtf8 data = some text ∧ encodeUtf8 c.secretKey = some key ∧
      encodeUtf8 (canonicalMessage timestamp nonce text) = some messageBytes ∧
      hashValue = hmacHex H key messageBytes := by
  rcases signMessage_cases H c data timestamp nonce with
    ⟨text, key, mb, hd, hk, hm, hs⟩ | hs | hs <;> rw [hs] at hr <;> cases hr
  exact ⟨text, key, mb, hd, hk, hm, rfl⟩

theorem signMessage_result_error {e : PyExc}
    (hr : (signMessage H c timestamp nonce data).result = .error e) :
    (signMessage H c timestamp nonce data).calls = [] ∧ e.isInputTooLarge = false := by
  rcases signMessage_cases H c data timestamp nonce with
    ⟨_, _, _, _, _, _, hs⟩ | hs | hs <;> rw [hs] at hr ⊢ <;> cases hr <;> exact ⟨rfl, rfl⟩

theorem hmacNew_mem_signMessage {key messageBytes : Bytes}
    (h : Call.hmacNew key messageBytes ∈ (signMessage H c timestamp nonce data).calls) :
    ∃ text, decodeUtf8 data = some text ∧ encodeUtf8 c.secretKey = some key ∧
      encodeUtf8 (canonicalMessage timestamp nonce text) = some messageBytes := by
  rcases signMessage_cases H c data timestamp nonce with
    ⟨text, key', mb, hd, hk, hm, hs⟩ | hs | hs <;> rw [hs] at h <;> simp at h
  obtain ⟨rfl, rfl⟩ := h
  exact ⟨text, hd, hk, hm⟩

theorem sign256_of_gt (clock : UtcInstant) (random : Nat) (h : c.config.maxInputSize < data.length) :
    sign256 H c clock random data =
      Run.throw (.inputTooLargeError (inputTooLargeMessage data.length c.config.maxInputSize)) := by
  simp [sign256, checkInputSize_of_gt h]

theorem sign256_of_le (clock : UtcInstant) (random : Nat)
    (h : (data.length : Int) ≤ c.config.maxInputSize) :
    sign256 H c clock random data =
      ⟨.now :: .uuid4 :: (signMessage H c (isoformat clock) (uuidStr (uuid4 random)) data).calls,
        (signMessage H c (isoformat clock) (uuidStr (uuid4 random)) data).result.map
          fun hashValue => (hashValue, isoformat clock, uuidStr (uuid4 random))⟩ := by
  simp only [sign256, checkInputSize_of_le h, Run.pure_bind, Run.call_bind]
  rcases hr : (signMessage H c (isoformat clock) (uuidStr (uuid4 random)) data).result with e | v
  · rw [Run.bind_error hr]; rfl
  · rw [Run.bind_ok hr]; simp [hr, Except.map]

theorem isSome_encodeUtf8_canonicalMessage (t : UtcInstant) (u : Nat) {text : PyStr}
    (ht : (encodeUtf8 text).isSome) :
    (encodeUtf8 (canonicalMessage (isoformat t) (uuidStr u) text)).isSome := by
  have hascii : ∀ {s}, isAscii s → ∀ x ∈ s, isSurrogate x = false := fun hs x hx => by
    have := isAscii_iff.mp hs x hx
    simp only [isSurrogate, Bool.and_eq_false_iff, decide_eq_false_iff_not]
    omega
  rw [isSome_encodeUtf8] at ht ⊢
  simp only [canonicalMessage, List.mem_append, pyStr_colon, List.mem_singleton]
  rintro x ((((hx | rfl) | hx) | rfl) | hx)
  · exact hascii (isAscii_isoformat t) x hx
  · rfl
  · exact hascii (isAscii_uuidStr u) x hx
  · rfl
  · exact ht x hx

theorem sign256_result_of_decode (clock : UtcInstant) (random : Nat) {text : PyStr} {key : Bytes}
    (h : (data.length : Int) ≤ c.config.maxInputSize) (hd : decodeUtf8 data = some text)
    (hk : encodeUtf8 c.secretKey = some key) :
    ∃ messageBytes,
      encodeUtf8 (canonicalMessage (isoformat clock) (uuidStr (uuid4 random)) text) = some messageBytes ∧
      (sign256 H c clock random data).result =
        .ok (hmacHex H key messageBytes, isoformat clock, uuidStr (uuid4 random)) := by
  obtain ⟨mb, hm⟩ := Option.isSome_iff_exists.mp (isSome_encodeUtf8_canonicalMessage clock
    (uuid4 random) (show (encodeUtf8 text).isSome by rw [encodeUtf8_of_decodeUtf8 hd]; rfl))
  refine ⟨mb, hm, ?_⟩
  rw [sign256_of_le H c data clock random h, signMessage_of_some H c data hd hk hm]
  rfl

theorem sign256_result_ok (clock : UtcInstant) (random : Nat) {hashValue timestamp nonce : PyStr}
    (hr : (sign256 H c clock random data).result = .ok (hashValue, timestamp, nonce)) :
    (data.length : Int) ≤ c.config.maxInputSize ∧ timestamp = isoformat clock ∧
      nonce = uuidStr (uuid4 random) ∧
      (signMessage H c timestamp nonce data).result = .ok hashValue := by
  by_cases h : c.config.maxInputSize < data.length
  · rw [sign256_of_gt H c data clock random h] at hr
    cases hr
  · rw [sign256_of_le H c data clock random (not_lt.mp h)] at hr
    rcases hs : (signMessage H c (isoformat clock) (uuidStr (uuid4 random)) data).result with e | v
    · rw [hs] at hr
      cases hr
    · rw [hs] at hr
      cases hr
      exact ⟨not_lt.mp h, rfl, rfl, hs⟩

theorem mem_calls_signMessage {x : Call} (h : x ∈ (signMessage H c timestamp nonce data).calls) :
    ∃ key messageBytes, x = .hmacNew key messageBytes := by
  rcases signMessage_cases H c data timestamp nonce with
    ⟨_, key, mb, _, _, _, hs⟩ | hs | hs <;> rw [hs] at h <;> simp at h
  exact ⟨key, mb, h⟩

theorem mem_calls_sign256 (clock : UtcInstant) (random : Nat) {x : Call}
    (h : x ∈ (sign256 H c clock random data).calls) :
    x = .now ∨ x = .uuid4 ∨ ∃ key messageBytes, x = .hmacNew key messageBytes := by
  by_cases hs : c.config.maxInputSize < data.length
  · simp [sign256_of_gt H c data clock random hs] at h
  · rw [sign256_of_le H c data clock random (not_lt.mp hs), List.mem_cons, List.mem_cons] at h
    rcases h with h | h | h
    · exact .inl h
    · exact .inr (.inl h)
    · exact .inr (.inr (mem_calls_signMessage H c data h))

theorem hmacNew_mem_sign256 (clock : UtcInstant) (random : Nat) {key messageBytes : Bytes}
    (h : Call.hmacNew key messageBytes ∈ (sign256 H c clock random data).calls) :
    ∃ text, decodeUtf8 data = some text ∧ encodeUtf8 c.secretKey = some key ∧
      encodeUtf8 (canonicalMessage (isoformat clock) (uuidStr (uuid4 random)) text) = some messageBytes := by
  by_cases hs : c.config.maxInputSize < data.length
  · simp [sign256_of_gt H c data clock random hs] at h
  · rw [sign256_of_le H c data clock random (not_lt.mp hs), List.mem_cons, List.mem_cons] at h
    rcases h with h | h | h
    · cases h
    · cases h
    · exact hmacNew_mem_signMessage H c data h

theorem sign256_result_error (clock : UtcInstant) (random : Nat) {e : PyExc}
    (h : (data.length : Int) ≤ c.config.maxInputSize)
    (hr : (sign256 H c clock random data).result = .error e) : e.isInputTooLarge = false := by
  rw [sign256_of_le H c data clock random h] at hr
  rcases hs : (signMessage H c (isoformat clock) (uuidStr (uuid4 random)) data).result with e' | v
  · rw [hs] at hr
    cases hr
    exact (signMessage_result_error H c data hs).2
  · rw [hs] at hr
    cases hr

theorem sha256Sign_result_error {e : PyExc} (h : (data.length : Int) ≤ c.config.maxInputSize)
    (hr : (sha256Sign H c data).result = .error e) : e.isInputTooLarge = false := by
  rw [sha256Sign_of_le H c data h] at hr
  split at hr <;> cases hr
  rfl

theorem verifyTimestamp_eq (clock : UtcInstant) (timestamp : PyStr) :
    verifyTimestamp c clock timestamp = match fromisoformat (replaceZ timestamp) with
      | some ts => ⟨[.fromisoformat (replaceZ timestamp), .now], .ok (match subtract clock ts with
          | some delta => (absTotalSeconds delta).leInt c.config.keyInterval
          | none => false)⟩
      | none => ⟨[.fromisoformat (replaceZ timestamp)], .ok false⟩ := by
  simp only [verifyTimestamp, fromisoformatCall, Run.call_bind]
  cases fromisoformat (replaceZ timestamp) with
  | none => rfl
  | some ts =>
    rcases hs : subtract clock ts with _ | delta <;> simp [hs]

theorem verifyTimestamp_isoformat (t clock : UtcInstant) :
    verifyTimestamp c clock (isoformat t) =
      ⟨[.fromisoformat (isoformat t), .now],
        .ok ((absTotalSeconds (clock.dt.micros - t.dt.micros)).leInt c.config.keyInterval)⟩ := by
  simp [verifyTimestamp_eq, replaceZ_isoformat, fromisoformat_isoformat, subtract, UtcInstant.toAware]


theorem verifyTimestamp_isoformat_self (t : UtcInstant) :
    (verifyTimestamp c t (isoformat t)).result = .ok true := by
  rw [verifyTimestamp_isoformat, sub_self, leInt_absTotalSeconds_zero (le_of_lt c.valid.2.1)]

theorem verifyTimestamp_result (clock : UtcInstant) (timestamp : PyStr) :
    ∃ b, (verifyTimestamp c clock timestamp).result = .ok b := by
  rw [verifyTimestamp_eq]
  split <;> exact ⟨_, rfl⟩

theorem verify256_of_gt (clock : UtcInstant) (hashValue : PyStr)
    (h : c.config.maxInputSize < data.length) :
    verify256 H c clock data hashValue timestamp nonce =
      Run.throw (.inputTooLargeError (inputTooLargeMessage data.length c.config.maxInputSize)) := by
  rw [verify256, checkInputSize_of_gt h, Run.throw_bind, Run.tryCatch_error rfl]
  rfl

theorem verify256_of_le (clock : UtcInstant) (hashValue : PyStr) {b : Bool}
    (h : (data.length : Int) ≤ c.config.maxInputSize)
    (hts : (verifyTimestamp c clock timestamp).result = .ok b) :
    verify256 H c clock data hashValue timestamp nonce =
      if b then
        ⟨(verifyTimestamp c clock timestamp).calls ++ (signMessage H c timestamp nonce data).calls,
          .ok (match (signMessage H c timestamp nonce data).result with
            | .ok expected => (compareDigest expected hashValue).getD false
            | .error _ => false)⟩
      else ⟨(verifyTimestamp c clock timestamp).calls, .ok false⟩ := by
  simp only [verify256, checkInputSize_of_le h, Run.pure_bind]
  rw [Run.bind_ok hts]
  cases b
  · simp
  · rcases hs : (signMessage H c timestamp nonce data).result with e | expected
    · have := (signMessage_result_error H c data hs).2
      simp [Run.bind_error hs, reraiseInputTooLarge, this]
    · simp only [Bool.not_true, Bool.false_eq_true, if_false, Run.bind_ok hs, compareDigestCall, if_true]
      cases compareDigest expected hashValue <;> simp [reraiseInputTooLarge, PyExc.isInputTooLarge]

theorem verify256_result_of_le (clock : UtcInstant) (hashValue : PyStr)
    (h : (data.length : Int) ≤ c.config.maxInputSize) :
    ∃ b, (verify256 H c clock data hashValue timestamp nonce).result = .ok b := by
  obtain ⟨b, hts⟩ := verifyTimestamp_result c clock timestamp
  rw [verify256_of_le H c data clock hashValue h hts]
  split <;> exact ⟨_, rfl⟩

theorem verify256_result_of_fresh (clock : UtcInstant) (hashValue : PyStr) {expected : PyStr}
    (h : (data.length : Int) ≤ c.config.maxInputSize)
    (hts : (verifyTimestamp c clock timestamp).result = .ok true)
    (hs : (signMessage H c timestamp nonce data).result = .ok expected) :
    (verify256 H c clock data hashValue timestamp nonce).result =
      .ok ((compareDigest expected hashValue).getD false) := by
  rw [verify256_of_le H c data clock hashValue h hts, if_pos rfl]
  simp only [hs]

theorem verify256_result_of_stale (clock : UtcInstant) (hashValue : PyStr)
    (h : (data.length : Int) ≤ c.config.maxInputSize)
    (hts : (verifyTimestamp c clock timestamp).result = .ok false) :
    (verify256 H c clock data hashValue timestamp nonce).result = .ok false := by
  rw [verify256_of_le H c data clock hashValue h hts]
  rfl

theorem verify256_isoformat_self (clock : UtcInstant) {text : PyStr} {key messageBytes : Bytes}
    (h : (data.length : Int) ≤ c.config.maxInputSize) (hd : decodeUtf8 data = some text)
    (hk : encodeUtf8 c.secretKey = some key)
    (hm : encodeUtf8 (canonicalMessage (isoformat clock) nonce text) = some messageBytes) :
    (verify256 H c clock data (hmacHex H key messageBytes) (isoformat clock) nonce).result = .ok true := by
  rw [verify256_result_of_fresh H c data clock _ h (verifyTimestamp_isoformat_self c clock)
    (congrArg Run.result (signMessage_of_some H c data hd hk hm)), hmacHex, compareDigest_self]
  rfl

theorem verify256_result_eq_true (clock : UtcInstant) (hashValue : PyStr)
    (h : (verify256 H c clock data hashValue timestamp nonce).result = .ok true) :
    (data.length : Int) ≤ c.config.maxInputSize ∧
      (verifyTimestamp c clock timestamp).result = .ok true ∧
      ∃ text key messageBytes, decodeUtf8 data = some text ∧ encodeUtf8 c.secretKey = some key ∧
        encodeUtf8 (canonicalMessage timestamp nonce text) = some messageBytes ∧
        hashValue = hmacHex H key messageBytes := by
  by_cases hs : c.config.maxInputSize < data.length
  · rw [verify256_of_gt H c data clock hashValue hs] at h
    cases h
  obtain ⟨b, hts⟩ := verifyTimestamp_result c clock timestamp
  rw [verify256_of_le H c data clock hashValue (not_lt.mp hs) hts] at h
  cases b
  · cases h
  · simp only [if_true] at h
    split at h
    · rename_i expected hsm
      obtain ⟨text, key, mb, hd, hk, hm, rfl⟩ := signMessage_result_ok H c data hsm
      exact ⟨not_lt.mp hs, hts, text, key, mb, hd, hk, hm, (eq_of_compareDigest (Except.ok.inj h)).symm⟩
    · cases h

theorem sha256Verify_result_of_le (signature : PyStr) (h : (data.length : Int) ≤ c.config.maxInputSize) :
    ∃ b, (sha256Verify H c data signature).result = .ok b := by
  rw [sha256Verify_of_le H c data signature h]
  split <;> exact ⟨_, rfl⟩

end

end HmacClient
