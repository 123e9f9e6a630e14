import HmacClient.Client.Sign
import HmacClient.Text.JsonInjective

namespace HmacClient

abbrev Headers := List (PyStr × PyStr)

abbrev Files := List (PyStr × Bytes)

def dictGet : Headers → PyStr → Option PyStr
  | [], _ => none
  | p :: d, k => if p.1 = k then some p.2 else dictGet d k

def dictSet : Headers → PyStr → PyStr → Headers
  | [], k, v => [(k, v)]
  | p :: d, k, v => if p.1 = k then (k, v) :: d else p :: dictSet d k v

def dictUpdate (d items : Headers) : Headers := items.foldl (fun d p => dictSet d p.1 p.2) d

def headerHmacHash : PyStr := pyStr "X-HMAC-Hash"

def headerHmacTimestamp : PyStr := pyStr "X-HMAC-Timestamp"

def headerHmacNonce : PyStr := pyStr "X-HMAC-Nonce"

def JsonValue.isNull : JsonValue → Bool
  | .null => true
  | _ => false

inductive RequestData where
  | str (s : PyStr)
  | bytes (b : Bytes)
  | other (text : PyStr)
  deriving DecidableEq, Repr

def prepareRequestBody (jsonData : JsonValue) (data : Option RequestData) : Run Bytes :=
  if !jsonData.isNull then do
    let text ← Run.ofOption .valueError (jsonDumps (pyStr ",") (pyStr ":") jsonData)
    encode text
  else match data with
    | some (.str s) => encode s
    | some (.bytes b) => pure b
    | some (.other text) => encode text
    | none => pure []

inductive HeadersArg where
  | absent
  | pyNone
  | dict (d : Headers)
  deriving DecidableEq, Repr

def getHeaders : HeadersArg → Run Headers
  | .absent => pure []
  | .pyNone => Run.throw .attributeError
  | .dict d => pure d

def sessionHeaders : HeadersArg → Headers
  | .dict d => d
  | _ => []

structure SessionKwargs where
  headers : HeadersArg := .absent
  json : JsonValue := .null
  files : Files := []
  unexpected : List PyStr := []

structure BodyKwargs where
  headers : HeadersArg := .absent
  files : Files := []
  unexpected : List PyStr := []

def BodyKwargs.toSession (kwargs : BodyKwargs) : SessionKwargs :=
  ⟨kwargs.headers, .null, kwargs.files, kwargs.unexpected⟩

def signedHeaders (headers : Headers) (jsonData : JsonValue) (hashValue timestamp nonce : PyStr) :
    Headers :=
  let headers := dictUpdate headers
    [(headerHmacHash, hashValue), (headerHmacTimestamp, timestamp), (headerHmacNonce, nonce)]
  if !jsonData.isNull then dictSet headers (pyStr "Content-Type") (pyStr "application/json")
  else headers

def requestData (body : Bytes) : Option Bytes := if !body.isEmpty then some body else none

theorem dictGet_dictSet (d : Headers) (k v k' : PyStr) :
    dictGet (dictSet d k v) k' = if k' = k then some v else dictGet d k' := by
  induction d with
  | nil =>
    by_cases h : k' = k
    · simp [dictSet, dictGet, h]
    · simp [dictSet, dictGet, h, Ne.symm h]
  | cons p d ih =>
    by_cases hp : p.1 = k
    · by_cases h : k' = k
      · simp [dictSet, dictGet, hp, h]
      · simp [dictSet, dictGet, hp, h, Ne.symm h]
    · simp only [dictSet, dictGet, hp, if_false, ih]
      by_cases h : k' = k
      · simp [h, hp]
      · simp [h]

theorem dictGet_signedHeaders (headers : Headers) (jsonData : JsonValue)
    (hashValue timestamp nonce : PyStr) :
    dictGet (signedHeaders headers jsonData hashValue timestamp nonce) headerHmacHash = some hashValue ∧
    dictGet (signedHeaders headers jsonData hashValue timestamp nonce) headerHmacTimestamp =
      some timestamp ∧
    dictGet (signedHeaders headers jsonData hashValue timestamp nonce) headerHmacNonce = some nonce := by
  have hne : headerHmacHash ≠ headerHmacTimestamp ∧ headerHmacHash ≠ headerHmacNonce ∧
      headerHmacTimestamp ≠ headerHmacNonce ∧ headerHmacHash ≠ pyStr "Content-Type" ∧
      headerHmacTimestamp ≠ pyStr "Content-Type" ∧ headerHmacNonce ≠ pyStr "Content-Type" := by
    decide
  obtain ⟨h1, h2, h3, h4, h5, h6⟩ := hne
  simp only [signedHeaders, dictUpdate, List.foldl]
  split <;> simp [dictGet_dictSet, h1, h2, h3, h4, h5, h6, Ne.symm h1, Ne.symm h2, Ne.symm h3]

theorem calls_getHeaders (headers : HeadersArg) : (getHeaders headers).calls = [] := by
  cases headers <;> rfl

theorem getHeaders_result_error {headers : HeadersArg} {e : PyExc}
    (h : (getHeaders headers).result = .error e) : headers = .pyNone ∧ e = .attributeError := by
  cases headers <;> cases h
  exact ⟨rfl, rfl⟩

theorem calls_encode (s : PyStr) : (encode s).calls = [] := Run.calls_ofOption _ _

theorem calls_prepareRequestBody (jsonData : JsonValue) (data : Option RequestData) :
    (prepareRequestBody jsonData data).calls = [] := by
  unfold prepareRequestBody
  split
  · exact Run.calls_bind_nil (Run.calls_ofOption _ _) fun _ => calls_encode _
  · split <;> first | rfl | exact calls_encode _

theorem asciiBytes_dumps (itemSep keySep : PyStr) (hi : isAscii itemSep) (hk : isAscii keySep)
    (j : JsonValue) :
    encode (dumps itemSep keySep j) = pure ((dumps itemSep keySep j).map fun c => Byte.ofNat c.val) := by
  rw [encode, encodeUtf8_of_isAscii (isAscii_dumps hi hk j)]
  rfl

theorem prepareRequestBody_of_json {jsonData : JsonValue} (data : Option RequestData)
    (h : jsonData.isNull = false) :
    prepareRequestBody jsonData data =
      if jsonData.intsFit then pure ((dumps (pyStr ",") (pyStr ":") jsonData).map fun c => Byte.ofNat c.val)
      else Run.throw .valueError := by
  unfold prepareRequestBody jsonDumps
  rw [if_pos (by simp [h])]
  split
  · rw [Run.ofOption_some, Run.pure_bind, asciiBytes_dumps _ _ (by decide) (by decide)]
  · rfl

theorem requestData_getD (body : Bytes) : (requestData body).getD [] = body := by
  cases body <;> rfl

def testJson : JsonValue := .object [(pyStr "key", .str (pyStr "value")), (pyStr "number", .int 42)]

theorem json_body_injective {v v' : JsonValue} (data data' : Option RequestData)
    (hv : v.surrogateFree = true) (hv' : v'.surrogateFree = true)
    (hn : v.isNull = false) (hn' : v'.isNull = false) (hne : v ≠ v') {body : Bytes}
    (h : (prepareRequestBody v data).result = .ok body) :
    (prepareRequestBody v' data').result ≠ .ok body := by
  intro h'
  rw [prepareRequestBody_of_json data hn] at h
  rw [prepareRequestBody_of_json data' hn'] at h'
  split at h
  · split at h'
    · exact hne (dumps_compact_inj hv hv' (asciiBytes_inj (isAscii_dumps (by decide) (by decide) v)
        (isAscii_dumps (by decide) (by decide) v') (Except.ok.inj (h.trans h'.symm))))
    · cases h'
  · cases h

def testJsonText : JsonValue := .str (pyStr "\x7b\"key\":\"value\",\"number\":42\x7d")

theorem json_body_injective_test :
    testJson.surrogateFree = true ∧ testJsonText.surrogateFree = true ∧
    testJson.isNull = false ∧ testJsonText.isNull = false ∧ testJson ≠ testJsonText ∧
    (prepareRequestBody testJson none).result =
      .ok ((pyStr "\x7b\"key\":\"value\",\"number\":42\x7d").map fun c => Byte.ofNat c.val) ∧
    (prepareRequestBody testJsonText none).result ≠
      .ok ((pyStr "\x7b\"key\":\"value\",\"number\":42\x7d").map fun c => Byte.ofNat c.val) :=
  have hne : testJson ≠ testJsonText := fun h => by cases h
  have hb : (prepareRequestBody testJson none).result =
      .ok ((pyStr "\x7b\"key\":\"value\",\"number\":42\x7d").map fun c => Byte.ofNat c.val) := rfl
  ⟨by decide, by decide, rfl, rfl, hne, hb,
    @json_body_injective testJson testJsonText none none (by decide) (by decide) rfl rfl hne _ hb⟩

theorem json_body_not_injective_with_surrogates :
    ∃ v v' : JsonValue, v ≠ v' ∧ v.isNull = false ∧ v'.isNull = false ∧
      (prepareRequestBody v none).result = (prepareRequestBody v' none).result :=
  ⟨.str [CodePoint.ofNat 0xD83D, CodePoint.ofNat 0xDE00], .str [CodePoint.ofNat 0x1F600],
    fun h => absurd (congrArg List.length (JsonValue.str.inj h)) (by decide), rfl, rfl, rfl⟩

structure Session (Response : Type) where
  encodeFiles : Files → Bytes
  prepareError : PyStr → Headers → Option PyStr
  send : HttpRequest → Except PyStr Response

def intStrDigitsError : PyStr :=
  pyStr ("Exceeds the limit (4300 digits) for integer string conversion; " ++
    "use sys.set_int_max_str_digits() to increase the limit")

section
variable (encodeFiles : Files → Bytes)

def prepareBody (data : Option Bytes) (json : JsonValue) (files : Files) : Run Bytes := do
  let data := data.getD []
  let body ← if data.isEmpty && !json.isNull then do
      let text ← Run.ofOption (.requestException intStrDigitsError)
        (jsonDumps (pyStr ", ") (pyStr ": ") json)
      encode text
    else pure []
  if !files.isEmpty then
    if !data.isEmpty then Run.throw .valueError else pure (encodeFiles files)
  else if !data.isEmpty then pure data
  else pure body

theorem calls_prepareBody (data : Option Bytes) (json : JsonValue) (files : Files) :
    (prepareBody encodeFiles data json files).calls = [] := by
  dsimp only [prepareBody]
  split
  · exact Run.calls_bind_nil (Run.calls_ofOption _ _) fun _ =>
      Run.calls_bind_nil (calls_encode _) fun _ => by split_ifs <;> rfl
  · exact Run.calls_bind_nil rfl fun _ => by split_ifs <;> rfl

theorem prepareBody_of_no_files (data : Option Bytes) (json : JsonValue) :
    prepareBody encodeFiles data json [] =
      if (data.getD []).isEmpty && !json.isNull then
        if json.intsFit then pure ((dumps (pyStr ", ") (pyStr ": ") json).map fun c => Byte.ofNat c.val)
        else Run.throw (.requestException intStrDigitsError)
      else pure (data.getD []) := by
  simp only [prepareBody, List.isEmpty_nil, Bool.not_true, Bool.false_eq_true, if_false]
  split
  · rename_i h
    simp only [Bool.and_eq_true, Bool.not_eq_true'] at h
    unfold jsonDumps
    split
    · rw [Run.ofOption_some, Run.pure_bind, asciiBytes_dumps _ _ (by decide) (by decide), Run.pure_bind]
      simp [h.1]
    · rfl
  · rename_i h
    rw [Run.pure_bind]
    split
    · rfl
    · rename_i hd
      have hnil : (data.getD []).isEmpty = true := by simpa using hd
      rw [List.isEmpty_iff.mp hnil]

end

def raiseHttpError {Response : Type} : PyExc → Run Response
  | .requestException text => Run.throw (.httpError (pyStr "HTTP request failed: " ++ text))
  | e => Run.throw e

theorem calls_raiseHttpError {Response : Type} (e : PyExc) : (raiseHttpError e : Run Response).calls = [] := by
  cases e <;> rfl

section
variable {Response : Type} (session : Session Response)

def sessionSend (method url : PyStr) (kwargs : SessionKwargs) (data : Option Bytes) : Run Response := do
  let body ← prepareBody session.encodeFiles data kwargs.json kwargs.files
  let request : HttpRequest := ⟨method, url, sessionHeaders kwargs.headers, body⟩
  let outcome ← Run.call (.send request) (session.send request)
  match outcome with
  | .ok response => pure response
  | .error text => Run.throw (.requestException text)

def sessionRequest (method url : PyStr) (kwargs : SessionKwargs) (data : Option Bytes) :
    Run Response :=
  if !kwargs.unexpected.isEmpty then Run.throw .typeError
  else match session.prepareError url (sessionHeaders kwargs.headers) with
    | some text => Run.throw (.requestException text)
    | none => sessionSend session method url kwargs data

theorem sessionRequest_of_prepared (method url : PyStr) (kwargs : SessionKwargs) (data : Option Bytes)
    (hu : kwargs.unexpected = []) (he : session.prepareError url (sessionHeaders kwargs.headers) = none) :
    sessionRequest session method url kwargs data = sessionSend session method url kwargs data := by
  simp only [sessionRequest, hu, List.isEmpty_nil, Bool.not_true, Bool.false_eq_true, if_false, he]

theorem sessionRequest_of_unexpected (method url : PyStr) (kwargs : SessionKwargs) (data : Option Bytes)
    (hu : kwargs.unexpected ≠ []) : sessionRequest session method url kwargs data = Run.throw .typeError := by
  rw [sessionRequest, if_pos (by simpa [List.isEmpty_iff] using hu)]

theorem sessionRequest_of_prepareError (method url : PyStr) (kwargs : SessionKwargs) (data : Option Bytes)
    {text : PyStr} (hu : kwargs.unexpected = [])
    (he : session.prepareError url (sessionHeaders kwargs.headers) = some text) :
    sessionRequest session method url kwargs data = Run.throw (.requestException text) := by
  rw [sessionRequest, if_neg (by simp [hu]), he]

theorem mem_calls_sessionSend (method url : PyStr) (kwargs : SessionKwargs) (data : Option Bytes)
    {x : Call} (h : x ∈ (sessionSend session method url kwargs data).calls) :
    ∃ body, (prepareBody session.encodeFiles data kwargs.json kwargs.files).result = .ok body ∧
      x = .send ⟨method, url, sessionHeaders kwargs.headers, body⟩ := by
  rw [sessionSend, Run.mem_calls_bind, calls_prepareBody] at h
  obtain ⟨body, hb, h⟩ := h.resolve_left (List.not_mem_nil _)
  simp only [Run.call_bind, List.mem_cons] at h
  refine ⟨body, hb, h.resolve_right fun h' => ?_⟩
  split at h' <;> simp at h'

theorem mem_calls_sessionRequest (method url : PyStr) (kwargs : SessionKwargs) (data : Option Bytes)
    {x : Call} (h : x ∈ (sessionRequest session method url kwargs data).calls) :
    ∃ body, kwargs.unexpected = [] ∧ session.prepareError url (sessionHeaders kwargs.headers) = none ∧
      (prepareBody session.encodeFiles data kwargs.json kwargs.files).result = .ok body ∧
      x = .send ⟨method, url, sessionHeaders kwargs.headers, body⟩ := by
  by_cases hu : kwargs.unexpected = []
  · rcases he : session.prepareError url (sessionHeaders kwargs.headers) with _ | text
    · rw [sessionRequest_of_prepared session _ _ _ _ hu he] at h
      obtain ⟨body, hb, rfl⟩ := mem_calls_sessionSend session _ _ _ _ h
      exact ⟨body, hu, rfl, hb, rfl⟩
    · rw [sessionRequest_of_prepareError session _ _ _ _ hu he] at h
      cases h
  · rw [sessionRequest_of_unexpected session _ _ _ _ hu] at h
    cases h

theorem send_mem_sessionSend (method url : PyStr) (kwargs : SessionKwargs) (data : Option Bytes)
    {body : Bytes} (hb : (prepareBody session.encodeFiles data kwargs.json kwargs.files).result = .ok body) :
    Call.send ⟨method, url, sessionHeaders kwargs.headers, body⟩ ∈
      (sessionSend session method url kwargs data).calls := by
  rw [sessionSend, Run.bind_ok hb]
  simp

theorem send_mem_sessionRequest (method url : PyStr) (kwargs : SessionKwargs) (data : Option Bytes)
    {body : Bytes} (hu : kwargs.unexpected = [])
    (he : session.prepareError url (sessionHeaders kwargs.headers) = none)
    (hb : (prepareBody session.encodeFiles data kwargs.json kwargs.files).result = .ok body) :
    Call.send ⟨method, url, sessionHeaders kwargs.headers, body⟩ ∈
      (sessionRequest session method url kwargs data).calls := by
  rw [sessionRequest_of_prepared session _ _ _ _ hu he]
  exact send_mem_sessionSend session _ _ _ _ hb

variable (H : Hash) (urljoin : PyStr → PyStr → PyStr) (c : HMACClient) (clock : UtcInstant)
  (random : Nat)

def makeRequest (method path : PyStr) (jsonData : JsonValue) (data : Option RequestData)
    (kwargs : SessionKwargs) : Run Response := do
  let url := urljoin (c.baseUrl ++ [slash]) (lstripSlash path)
  let body ← prepareRequestBody jsonData data
  let (hashValue, timestamp, nonce) ← sign256 H c clock random body
  let headers ← getHeaders kwargs.headers
  let headers := signedHeaders headers jsonData hashValue timestamp nonce
  Run.tryCatch (sessionRequest session method url { kwargs with headers := .dict headers }
    (requestData body)) raiseHttpError

theorem makeRequest_of_signed (method path : PyStr) (jsonData : JsonValue) (data : Option RequestData)
    (kwargs : SessionKwargs) {b : Bytes} {hashValue timestamp nonce : PyStr}
    {d : Headers} (hb : (prepareRequestBody jsonData data).result = .ok b)
    (hs : (sign256 H c clock random b).result = .ok (hashValue, timestamp, nonce))
    (hg : (getHeaders kwargs.headers).result = .ok d) :
    makeRequest session H urljoin c clock random method path jsonData data kwargs =
      ⟨(sign256 H c clock random b).calls ++ (Run.tryCatch (sessionRequest session method
        (urljoin (c.baseUrl ++ [slash]) (lstripSlash path))
        { kwargs with headers := .dict (signedHeaders d jsonData hashValue timestamp nonce) }
        (requestData b)) raiseHttpError).calls,
      (Run.tryCatch (sessionRequest session method (urljoin (c.baseUrl ++ [slash]) (lstripSlash path))
        { kwargs with headers := .dict (signedHeaders d jsonData hashValue timestamp nonce) }
        (requestData b)) raiseHttpError).result⟩ := by
  rw [makeRequest, Run.bind_ok hb, Run.bind_ok hs, calls_prepareRequestBody, List.nil_append]
  simp only [Run.bind_ok hg, calls_getHeaders, List.nil_append]

theorem send_mem_makeRequest (method path : PyStr) (jsonData : JsonValue) (data : Option RequestData)
    (kwargs : SessionKwargs) {request : HttpRequest}
    (h : Call.send request ∈
      (makeRequest session H urljoin c clock random method path jsonData data kwargs).calls) :
    ∃ body hashValue timestamp nonce headers,
      (prepareRequestBody jsonData data).result = .ok body ∧
      (sign256 H c clock random body).result = .ok (hashValue, timestamp, nonce) ∧
      (getHeaders kwargs.headers).result = .ok headers ∧ kwargs.unexpected = [] ∧
      session.prepareError (urljoin (c.baseUrl ++ [slash]) (lstripSlash path))
        (signedHeaders headers jsonData hashValue timestamp nonce) = none ∧
      (prepareBody session.encodeFiles (requestData body) kwargs.json kwargs.files).result = .ok request.body ∧
      request = ⟨method, urljoin (c.baseUrl ++ [slash]) (lstripSlash path),
        signedHeaders headers jsonData hashValue timestamp nonce, request.body⟩ := by
  rw [makeRequest, Run.mem_calls_bind, calls_prepareRequestBody] at h
  obtain ⟨body, hb, h⟩ := h.resolve_left (List.not_mem_nil _)
  rw [Run.mem_calls_bind] at h
  rcases h with h | ⟨⟨hashValue, timestamp, nonce⟩, hs, h⟩
  · rcases mem_calls_sign256 H c body clock random h with h | h | ⟨_, _, h⟩ <;> cases h
  rw [Run.mem_calls_bind, calls_getHeaders] at h
  obtain ⟨headers, hg, h⟩ := h.resolve_left (List.not_mem_nil _)
  rcases Run.mem_calls_tryCatch.mp h with h | ⟨e, -, h⟩
  · obtain ⟨sent, hu, he, hp, hreq⟩ := mem_calls_sessionRequest session _ _ _ _ h
    cases hreq
    exact ⟨body, hashValue, timestamp, nonce, headers, hb, hs, hg, hu, he, hp, rfl⟩
  · rw [calls_raiseHttpError] at h
    cases h

theorem send_mem_makeRequest_of_ok (method path : PyStr) (jsonData : JsonValue)
    (data : Option RequestData) (kwargs : SessionKwargs) {body sent : Bytes} {headers : Headers}
    {hashValue timestamp nonce : PyStr}
    (hb : (prepareRequestBody jsonData data).result = .ok body)
    (hs : (sign256 H c clock random body).result = .ok (hashValue, timestamp, nonce))
    (hg : (getHeaders kwargs.headers).result = .ok headers) (hu : kwargs.unexpected = [])
    (he : session.prepareError (urljoin (c.baseUrl ++ [slash]) (lstripSlash path))
      (signedHeaders headers jsonData hashValue timestamp nonce) = none)
    (hp : (prepareBody session.encodeFiles (requestData body) kwargs.json kwargs.files).result = .ok sent) :
    Call.send ⟨method, urljoin (c.baseUrl ++ [slash]) (lstripSlash path),
      signedHeaders headers jsonData hashValue timestamp nonce, sent⟩ ∈
      (makeRequest session H urljoin c clock random method path jsonData data kwargs).calls := by
  rw [makeRequest_of_signed session H urljoin c clock random _ _ _ _ _ hb hs hg]
  exact List.mem_append_right _ (Run.mem_calls_tryCatch.mpr (.inl
    (send_mem_sessionRequest session _ _ { kwargs with headers := .dict _ } _ hu he hp)))

def get (path : PyStr) (jsonData : JsonValue) (data : Option RequestData) (kwargs : SessionKwargs) :
    Run Response :=
  makeRequest session H urljoin c clock random (pyStr "GET") path jsonData data kwargs

def post (path : PyStr) (json : JsonValue) (data : Option RequestData) (kwargs : BodyKwargs) :
    Run Response :=
  makeRequest session H urljoin c clock random (pyStr "POST") path json data kwargs.toSession

def put (path : PyStr) (json : JsonValue) (data : Option RequestData) (kwargs : BodyKwargs) :
    Run Response :=
  makeRequest session H urljoin c clock random (pyStr "PUT") path json data kwargs.toSession

def delete (path : PyStr) (jsonData : JsonValue) (data : Option RequestData)
    (kwargs : SessionKwargs) : Run Response :=
  makeRequest session H urljoin c clock random (pyStr "DELETE") path jsonData data kwargs

def SendsSignedBody (jsonData : JsonValue) (data : Option RequestData) (r : Run Response) : Prop :=
  ∀ request, Call.send request ∈ r.calls → ∃ hashValue timestamp nonce,
    (prepareRequestBody jsonData data).result = .ok request.body ∧
    (sign256 H c clock random request.body).result = .ok (hashValue, timestamp, nonce) ∧
    dictGet request.headers headerHmacHash = some hashValue ∧
    dictGet request.headers headerHmacTimestamp = some timestamp ∧
    dictGet request.headers headerHmacNonce = some nonce

theorem makeRequest_sendsSignedBody (method path : PyStr) (jsonData : JsonValue)
    (data : Option RequestData) (kwargs : SessionKwargs) (hjson : kwargs.json = .null)
    (hfiles : kwargs.files = []) :
    SendsSignedBody H c clock random jsonData data
      (makeRequest session H urljoin c clock random method path jsonData data kwargs) := by
  intro request h
  obtain ⟨body, hashValue, timestamp, nonce, headers, hb, hs, -, -, -, hp, hreq⟩ :=
    send_mem_makeRequest session H urljoin c clock random _ _ _ _ _ h
  rw [hjson, hfiles, prepareBody_of_no_files, requestData_getD] at hp
  have hbody : request.body = body := by
    simp only [JsonValue.isNull, Bool.not_true, Bool.and_false, Bool.false_eq_true, if_false,
      Run.result_pure, Except.ok.injEq] at hp
    exact hp.symm
  rw [hbody, hreq]
  exact ⟨hashValue, timestamp, nonce, hb, hs, dictGet_signedHeaders _ _ _ _ _⟩

end

def testSession : Session Unit := ⟨fun _ => [], fun _ _ => none, fun _ => .ok ()⟩

end HmacClient
