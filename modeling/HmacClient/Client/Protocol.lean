import HmacClient.Client.Request
import HmacClient.Client.RoundTrip

namespace HmacClient

def Run.ErrorsIn {α : Type} (r : Run α) (p : PyExc → Prop) : Prop :=
  ∀ e, r.result = .error e → p e

namespace Run

variable {α β : Type} {p q : PyExc → Prop}

theorem errorsIn_pure (a : α) : (pure a : Run α).ErrorsIn p := fun _ h => nomatch h

theorem errorsIn_throw {e : PyExc} (h : p e) : (throw e : Run α).ErrorsIn p := fun _ he => by
  cases he
  exact h

theorem errorsIn_ofOption {e : PyExc} (h : p e) (o : Option α) : (ofOption e o).ErrorsIn p := by
  cases o
  · exact errorsIn_throw h
  · exact errorsIn_pure _

theorem errorsIn_ite {c : Prop} [Decidable c] {x y : Run α} (hx : x.ErrorsIn p) (hy : y.ErrorsIn p) :
    (if c then x else y).ErrorsIn p := by
  split
  exacts [hx, hy]

theorem errorsIn_mono {x : Run α} (hx : x.ErrorsIn p) (hpq : ∀ e, p e → q e) : x.ErrorsIn q :=
  fun e he => hpq e (hx e he)

theorem errorsIn_bind {x : Run α} {f : α → Run β} (hx : x.ErrorsIn p)
    (hf : ∀ a, x.result = .ok a → (f a).ErrorsIn p) : (x >>= f).ErrorsIn p := by
  intro e he
  rcases hr : x.result with e' | a
  · rw [bind_error hr] at he
    cases he
    exact hx _ hr
  · rw [bind_ok hr] at he
    exact hf a hr e he

theorem result_bind_eq_error {x : Run α} {f : α → Run β} {e : PyExc} :
    (x >>= f).result = .error e ↔ x.result = .error e ∨ ∃ a, x.result = .ok a ∧ (f a).result = .error e := by
  rcases h : x.result with e' | a
  · simp [bind_error h]
  · simp [bind_ok h]

theorem result_tryCatch_eq_error {x : Run α} {handler : PyExc → Run α} {e : PyExc} :
    (tryCatch x handler).result = .error e ↔ ∃ e', x.result = .error e' ∧ (handler e').result = .error e := by
  rcases h : x.result with e' | a
  · simp [tryCatch_error h]
  · simp [tryCatch_ok h, h]

end Run

theorem encode_errorsIn (s : PyStr) : (encode s).ErrorsIn (· = .unicodeEncodeError) :=
  Run.errorsIn_ofOption (by rfl) _

theorem prepareRequestBody_errorsIn (jsonData : JsonValue) (data : Option RequestData) :
    (prepareRequestBody jsonData data).ErrorsIn fun e => e = .valueError ∨ e = .unicodeEncodeError := by
  have hencode : ∀ s, (encode s).ErrorsIn fun e => e = .valueError ∨ e = .unicodeEncodeError :=
    fun s => Run.errorsIn_mono (encode_errorsIn s) fun _ h => .inr h
  unfold prepareRequestBody
  split
  · exact Run.errorsIn_bind (Run.errorsIn_ofOption (.inl rfl) _) fun text _ => hencode text
  · split
    · exact hencode _
    · exact Run.errorsIn_pure _
    · exact hencode _
    · exact Run.errorsIn_pure _

theorem natAbs_sub_micros_lt (t t' : UtcInstant) :
    ((t'.dt.micros : Int) - t.dt.micros).natAbs < 2 ^ 53 * 1000000 := by
  have := t.dt.micros_lt t.valid
  have := t'.dt.micros_lt t'.valid
  omega

section
variable (H : Hash) (c : HMACClient)

theorem sign256_errorsIn (clock : UtcInstant) (random : Nat) (data : Bytes) :
    (sign256 H c clock random data).ErrorsIn fun e =>
      (∃ msg, e = .inputTooLargeError msg) ∨ e = .unicodeDecodeError ∨ e = .unicodeEncodeError := by
  by_cases hs : c.config.maxInputSize < data.length
  · rw [sign256_of_gt H c data clock random hs]
    exact Run.errorsIn_throw (.inl ⟨_, rfl⟩)
  · rw [sign256_of_le H c data clock random (not_lt.mp hs)]
    rcases signMessage_cases H c data (isoformat clock) (uuidStr (uuid4 random)) with
      ⟨_, _, _, _, _, _, hm⟩ | hm | hm <;> rw [hm] <;> rintro e ⟨⟩
    · exact .inr (.inl rfl)
    · exact .inr (.inr rfl)

theorem signMessage_of_secretKey {c' : HMACClient} (hkey : c'.secretKey = c.secretKey)
    (timestamp nonce : PyStr) (data : Bytes) :
    signMessage H c' timestamp nonce data = signMessage H c timestamp nonce data := by
  simp only [signMessage, hkey]

theorem verify256_of_sign256_shared (server : HMACClient) (hkey : server.secretKey = c.secretKey)
    (hK : server.config.keyInterval < 2 ^ 34) (clock clock' : UtcInstant) (random : Nat) (data : Bytes)
    {hashValue timestamp nonce : PyStr}
    (hs : (sign256 H c clock random data).result = .ok (hashValue, timestamp, nonce)) :
    (verify256 H server clock' data hashValue timestamp nonce).result = .ok true ↔
      (data.length : Int) ≤ server.config.maxInputSize ∧
      (((clock'.dt.micros : Int) - clock.dt.micros).natAbs : Int) ≤ server.config.keyInterval * 1000000 := by
  obtain ⟨-, rfl, rfl, hsm⟩ := sign256_result_ok H c data clock random hs
  rw [← signMessage_of_secretKey H c hkey] at hsm
  have hwindow := congrArg Run.result (verifyTimestamp_isoformat server clock clock')
  rw [leInt_absTotalSeconds (le_of_lt server.valid.2.1) hK (natAbs_sub_micros_lt clock clock')] at hwindow
  constructor
  · intro hacc
    obtain ⟨hle, hts, -⟩ := verify256_result_eq_true H server data clock' _ hacc
    rw [hts, Except.ok.injEq, eq_comm, decide_eq_true_iff] at hwindow
    exact ⟨hle, hwindow⟩
  · rintro ⟨hle, hwin⟩
    rw [decide_eq_true hwin] at hwindow
    obtain ⟨_, key, mb, -, -, -, rfl⟩ := signMessage_result_ok H server data hsm
    rw [verify256_result_of_fresh H server data clock' _ hle hwindow hsm, hmacHex, compareDigest_self]
    rfl

end

theorem prepareBody_errorsIn (encodeFiles : Files → Bytes) (data : Option Bytes) (json : JsonValue)
    (files : Files) :
    (prepareBody encodeFiles data json files).ErrorsIn fun e =>
      e = .valueError ∨ e = .unicodeEncodeError ∨ e = .requestException intStrDigitsError := by
  unfold prepareBody
  dsimp only
  split
  on_goal 1 => refine Run.errorsIn_bind (Run.errorsIn_ofOption (.inr (.inr rfl)) _) fun text _ =>
    Run.errorsIn_bind (Run.errorsIn_mono (encode_errorsIn text) fun _ h => .inr (.inl h)) fun body _ => ?_
  on_goal 2 => refine Run.errorsIn_bind (Run.errorsIn_pure _) fun body _ => ?_
  all_goals repeat' first
    | exact Run.errorsIn_throw (.inl rfl)
    | exact Run.errorsIn_pure _
    | apply Run.errorsIn_ite

section
variable {Response : Type} (session : Session Response)

theorem sessionRequest_result_error (method url : PyStr) (kwargs : SessionKwargs) (data : Option Bytes)
    {e : PyExc} (h : (sessionRequest session method url kwargs data).result = .error e) :
    e = .typeError ∨ e = .valueError ∨ e = .unicodeEncodeError ∨
      ∃ failure, e = .requestException failure ∧
        (session.prepareError url (sessionHeaders kwargs.headers) = some failure ∨
          failure = intStrDigitsError ∨
          ∃ request, Call.send request ∈ (sessionRequest session method url kwargs data).calls ∧
            session.send request = .error failure) := by
  by_cases hu : kwargs.unexpected = []
  · rcases he : session.prepareError url (sessionHeaders kwargs.headers) with _ | failure
    · rw [sessionRequest_of_prepared session _ _ _ _ hu he] at h ⊢
      rw [sessionSend, Run.result_bind_eq_error] at h
      rcases h with h | ⟨body, hb, h⟩
      · rcases prepareBody_errorsIn _ _ _ _ _ h with rfl | rfl | rfl
        exacts [.inr (.inl rfl), .inr (.inr (.inl rfl)), .inr (.inr (.inr ⟨_, rfl, .inr (.inl rfl)⟩))]
      · simp only [Run.call_bind] at h
        rcases ht : session.send ⟨method, url, sessionHeaders kwargs.headers, body⟩ with failure | response <;>
          rw [ht] at h <;> cases h
        exact .inr (.inr (.inr ⟨failure, rfl, .inr (.inr ⟨_, send_mem_sessionSend session _ _ _ _ hb, ht⟩)⟩))
    · rw [sessionRequest_of_prepareError session _ _ _ _ hu he] at h
      cases h
      exact .inr (.inr (.inr ⟨failure, rfl, .inl rfl⟩))
  · rw [sessionRequest_of_unexpected session _ _ _ _ hu] at h
    cases h
    exact .inl rfl

theorem calls_sessionRequest (method url : PyStr) (kwargs : SessionKwargs) (data : Option Bytes) :
    (sessionRequest session method url kwargs data).calls = [] ∨
      ∃ request, (sessionRequest session method url kwargs data).calls = [.send request] := by
  by_cases hu : kwargs.unexpected = []
  · rcases he : session.prepareError url (sessionHeaders kwargs.headers) with _ | text
    · rw [sessionRequest_of_prepared session _ _ _ _ hu he, sessionSend]
      rcases hp : (prepareBody session.encodeFiles data kwargs.json kwargs.files).result with e | body
      · rw [Run.bind_error hp, calls_prepareBody]
        exact .inl rfl
      · rw [Run.bind_ok hp, calls_prepareBody, Run.call_bind]
        refine .inr ⟨⟨method, url, sessionHeaders kwargs.headers, body⟩, ?_⟩
        cases session.send ⟨method, url, sessionHeaders kwargs.headers, body⟩ <;> rfl
    · rw [sessionRequest_of_prepareError session _ _ _ _ hu he]
      exact .inl rfl
  · rw [sessionRequest_of_unexpected session _ _ _ _ hu]
    exact .inl rfl

theorem calls_tryCatch_raiseHttpError (x : Run Response) :
    (Run.tryCatch x raiseHttpError).calls = x.calls := by
  rcases hx : x.result with e | a
  · rw [Run.tryCatch_error hx, calls_raiseHttpError, List.append_nil]
  · rw [Run.tryCatch_ok hx]

variable (H : Hash) (urljoin : PyStr → PyStr → PyStr) (c : HMACClient) (clock : UtcInstant)
  (random : Nat)

theorem makeRequest_result_of_send_failure (method path : PyStr) (jsonData : JsonValue)
    (data : Option RequestData) (kwargs : SessionKwargs) {request : HttpRequest} {failure : PyStr}
    (h : Call.send request ∈
      (makeRequest session H urljoin c clock random method path jsonData data kwargs).calls)
    (ht : session.send request = .error failure) :
    (makeRequest session H urljoin c clock random method path jsonData data kwargs).result =
      .error (.httpError (pyStr "HTTP request failed: " ++ failure)) := by
  obtain ⟨body, hashValue, timestamp, nonce, headers, hb, hs, hg, hu, he, hp, hreq⟩ :=
    send_mem_makeRequest session H urljoin c clock random _ _ _ _ _ h
  have hsr : (sessionRequest session method (urljoin (c.baseUrl ++ [slash]) (lstripSlash path))
      { kwargs with headers := .dict (signedHeaders headers jsonData hashValue timestamp nonce) }
      (requestData body)).result = .error (.requestException failure) := by
    rw [sessionRequest_of_prepared session _ _
      { kwargs with headers := .dict (signedHeaders headers jsonData hashValue timestamp nonce) } _ hu he,
      sessionSend, Run.bind_ok hp, Run.call_bind]
    simp only [sessionHeaders, ← hreq, ht]
    rfl
  rw [makeRequest_of_signed session H urljoin c clock random _ _ _ _ _ hb hs hg]
  simp only [Run.tryCatch_error hsr]
  rfl

theorem makeRequest_calls_prefix (method path : PyStr) (jsonData : JsonValue) (data : Option RequestData)
    (kwargs : SessionKwargs) :
    ∃ key messageBytes request,
      (makeRequest session H urljoin c clock random method path jsonData data kwargs).calls <+:
        [.now, .uuid4, .hmacNew key messageBytes, .send request] := by
  have hnil : ∀ {l : List Call}, l = [] → ∃ key messageBytes request,
      l <+: [.now, .uuid4, .hmacNew key messageBytes, .send request] :=
    fun h => ⟨[], [], ⟨[], [], [], []⟩, h ▸ List.nil_prefix⟩
  rw [makeRequest]
  rcases hb : (prepareRequestBody jsonData data).result with e | body
  · exact hnil (by rw [Run.bind_error hb, calls_prepareRequestBody])
  rw [Run.bind_ok hb, calls_prepareRequestBody, List.nil_append]
  by_cases hs : c.config.maxInputSize < body.length
  · exact hnil (by rw [sign256_of_gt H c body clock random hs, Run.throw_bind]; rfl)
  rw [sign256_of_le H c body clock random (not_lt.mp hs)]
  rcases signMessage_cases H c body (isoformat clock) (uuidStr (uuid4 random)) with
    ⟨_, key, mb, -, -, -, hm⟩ | hm | hm <;> rw [hm]
  · simp only [Run.calls_call, Run.result_call, Except.map, Run.mk_ok_bind]
    rcases hg : (getHeaders kwargs.headers).result with e | headers
    · rw [Run.bind_error hg, calls_getHeaders]
      exact ⟨key, mb, ⟨[], [], [], []⟩, ⟨[.send _], rfl⟩⟩
    rw [Run.bind_ok hg, calls_getHeaders, List.nil_append, calls_tryCatch_raiseHttpError]
    rcases calls_sessionRequest session _ _ _ _ with hsr | ⟨request, hsr⟩ <;> rw [hsr]
    · exact ⟨key, mb, ⟨[], [], [], []⟩, ⟨[.send _], rfl⟩⟩
    · exact ⟨key, mb, request, List.prefix_refl _⟩
  all_goals exact ⟨[], [], ⟨[], [], [], []⟩, ⟨[.hmacNew [] [], .send ⟨[], [], [], []⟩], rfl⟩⟩

theorem hmacNew_mem_makeRequest (method path : PyStr) (jsonData : JsonValue) (data : Option RequestData)
    (kwargs : SessionKwargs) {key messageBytes : Bytes}
    (h : Call.hmacNew key messageBytes ∈
      (makeRequest session H urljoin c clock random method path jsonData data kwargs).calls) :
    ∃ body text, (prepareRequestBody jsonData data).result = .ok body ∧ decodeUtf8 body = some text ∧
      encodeUtf8 c.secretKey = some key ∧
      encodeUtf8 (canonicalMessage (isoformat clock) (uuidStr (uuid4 random)) text) = some messageBytes := by
  rw [makeRequest, Run.mem_calls_bind, calls_prepareRequestBody] at h
  obtain ⟨body, hb, h⟩ := h.resolve_left (List.not_mem_nil _)
  rw [Run.mem_calls_bind] at h
  rcases h with h | ⟨_, -, h⟩
  · obtain ⟨text, hd, hk, hm⟩ := hmacNew_mem_sign256 H c body clock random h
    exact ⟨body, text, hb, hd, hk, hm⟩
  rw [Run.mem_calls_bind, calls_getHeaders] at h
  obtain ⟨_, -, h⟩ := h.resolve_left (List.not_mem_nil _)
  rw [calls_tryCatch_raiseHttpError] at h
  obtain ⟨_, -, -, -, h⟩ := mem_calls_sessionRequest session _ _ _ _ h
  cases h

end

end HmacClient
