import HmacClient.Client.Request

namespace HmacClient

def contentType : PyStr := pyStr "Content-Type"

def applicationJson : PyStr := pyStr "application/json"

def SignedHeaderKey (k : PyStr) : Prop :=
  k = headerHmacHash ∨ k = headerHmacTimestamp ∨ k = headerHmacNonce ∨ k = contentType

instance (k : PyStr) : Decidable (SignedHeaderKey k) := inferInstanceAs (Decidable (_ ∨ _))

theorem dictGet_signedHeaders_of_not_signed {k : PyStr} (hk : ¬SignedHeaderKey k) (d : Headers)
    (jsonData : JsonValue) (hashValue timestamp nonce : PyStr) :
    dictGet (signedHeaders d jsonData hashValue timestamp nonce) k = dictGet d k := by
  simp only [SignedHeaderKey, contentType, not_or] at hk
  obtain ⟨h1, h2, h3, h4⟩ := hk
  simp only [signedHeaders, dictUpdate, List.foldl]
  split <;> simp only [dictGet_dictSet, h4, h1, h2, h3, if_false]

theorem dictGet_signedHeaders_contentType (d : Headers) (jsonData : JsonValue)
    (hashValue timestamp nonce : PyStr) :
    dictGet (signedHeaders d jsonData hashValue timestamp nonce) contentType =
      if jsonData.isNull then dictGet d contentType else some applicationJson := by
  have hne : pyStr "Content-Type" ≠ headerHmacHash ∧ pyStr "Content-Type" ≠ headerHmacTimestamp ∧
      pyStr "Content-Type" ≠ headerHmacNonce := by decide
  simp only [contentType, applicationJson, signedHeaders, dictUpdate, List.foldl]
  cases jsonData.isNull <;> simp [dictGet_dictSet, hne.1, hne.2.1, hne.2.2]

section
variable (H : Hash) (c : HMACClient)

def headersAfterRequest (clock : UtcInstant) (random : Nat) (jsonData : JsonValue)
    (data : Option RequestData) (headers : Headers) : Headers :=
  match (prepareRequestBody jsonData data).result with
  | .ok body =>
    match (sign256 H c clock random body).result with
    | .ok (hashValue, timestamp, nonce) => signedHeaders headers jsonData hashValue timestamp nonce
    | .error _ => headers
  | .error _ => headers

structure RequestStep where
  clock : UtcInstant
  random : Nat
  jsonData : JsonValue
  data : Option RequestData

def headersAfterRun : Headers → List RequestStep → Headers
  | headers, [] => headers
  | headers, s :: steps =>
    headersAfterRun (headersAfterRequest H c s.clock s.random s.jsonData s.data headers) steps

theorem headersAfterRequest_cases (clock : UtcInstant) (random : Nat) (jsonData : JsonValue)
    (data : Option RequestData) (d : Headers) :
    headersAfterRequest H c clock random jsonData data d = d ∨
      ∃ hashValue timestamp nonce,
        headersAfterRequest H c clock random jsonData data d =
          signedHeaders d jsonData hashValue timestamp nonce := by
  unfold headersAfterRequest
  split
  · split
    · exact .inr ⟨_, _, _, rfl⟩
    · exact .inl rfl
  · exact .inl rfl

theorem dictGet_headersAfterRequest_of_not_signed {k : PyStr} (hk : ¬SignedHeaderKey k)
    (clock : UtcInstant) (random : Nat) (jsonData : JsonValue) (data : Option RequestData)
    (d : Headers) : dictGet (headersAfterRequest H c clock random jsonData data d) k = dictGet d k := by
  rcases headersAfterRequest_cases H c clock random jsonData data d with h | ⟨_, _, _, h⟩ <;> rw [h]
  exact dictGet_signedHeaders_of_not_signed hk _ _ _ _ _

theorem contentType_headersAfterRequest (clock : UtcInstant) (random : Nat) (jsonData : JsonValue)
    (data : Option RequestData) {d : Headers} (h : dictGet d contentType = some applicationJson) :
    dictGet (headersAfterRequest H c clock random jsonData data d) contentType = some applicationJson := by
  rcases headersAfterRequest_cases H c clock random jsonData data d with hd | ⟨_, _, _, hd⟩ <;> rw [hd]
  · exact h
  · rw [dictGet_signedHeaders_contentType]
    split
    · exact h
    · rfl

theorem dictGet_headersAfterRun_of_not_signed {k : PyStr} (hk : ¬SignedHeaderKey k) :
    ∀ (steps : List RequestStep) (d : Headers), dictGet (headersAfterRun H c d steps) k = dictGet d k
  | [], _ => rfl
  | s :: steps, d => by
    rw [headersAfterRun, dictGet_headersAfterRun_of_not_signed hk steps,
      dictGet_headersAfterRequest_of_not_signed H c hk]

theorem contentType_headersAfterRun :
    ∀ (steps : List RequestStep) {d : Headers}, dictGet d contentType = some applicationJson →
      dictGet (headersAfterRun H c d steps) contentType = some applicationJson
  | [], _, h => h
  | _ :: steps, _, h => contentType_headersAfterRun steps (contentType_headersAfterRequest H c _ _ _ _ h)

theorem headers_mem_makeRequest {Response : Type} (session : Session Response)
    (urljoin : PyStr → PyStr → PyStr) (clock : UtcInstant) (random : Nat) (method path : PyStr)
    (jsonData : JsonValue) (data : Option RequestData) (d : Headers) (json : JsonValue) (files : Files)
    (unexpected : List PyStr) {request : HttpRequest}
    (h : Call.send request ∈ (makeRequest session H urljoin c clock random method path
      jsonData data ⟨.dict d, json, files, unexpected⟩).calls) :
    request.headers = headersAfterRequest H c clock random jsonData data d := by
  obtain ⟨body, hashValue, timestamp, nonce, headers, hb, hs, hg, -, -, -, hreq⟩ :=
    send_mem_makeRequest session H urljoin c clock random _ _ _ _ _ h
  cases hg
  rw [hreq]
  simp only [headersAfterRequest, hb, hs]

theorem headersAfterRun_append (pre post : List RequestStep) (d : Headers) :
    headersAfterRun H c d (pre ++ post) = headersAfterRun H c (headersAfterRun H c d pre) post := by
  induction pre generalizing d with
  | nil => rfl
  | cons s pre ih => exact ih _

theorem contentType_headersAfterRequest_of_json (clock : UtcInstant) (random : Nat)
    {jsonData : JsonValue} (data : Option RequestData) (d : Headers) {body : Bytes}
    {hashValue timestamp nonce : PyStr} (hj : jsonData.isNull = false)
    (hb : (prepareRequestBody jsonData data).result = .ok body)
    (hs : (sign256 H c clock random body).result = .ok (hashValue, timestamp, nonce)) :
    dictGet (headersAfterRequest H c clock random jsonData data d) contentType = some applicationJson := by
  simp only [headersAfterRequest, hb, hs, dictGet_signedHeaders_contentType, hj, Bool.false_eq_true,
    if_false]

end

end HmacClient
