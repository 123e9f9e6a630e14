import HmacClient.Time.TotalSeconds
import HmacClient.Crypto.Hmac

namespace HmacClient

inductive PyExc where
  | configurationError (msg : String)
  | inputTooLargeError (msg : String)
  | unicodeDecodeError
  | unicodeEncodeError
  | valueError
  | typeError
  | attributeError
  | requestException (msg : PyStr)
  | httpError (msg : PyStr)
  deriving DecidableEq, Repr

def PyExc.isInputTooLarge : PyExc → Bool
  | .inputTooLargeError _ => true
  | _ => false

structure HttpRequest where
  method : PyStr
  url : PyStr
  headers : List (PyStr × PyStr)
  body : Bytes
  deriving DecidableEq, Repr

inductive Call where
  | now
  | uuid4
  | fromisoformat (s : PyStr)
  | hmacNew (key msg : Bytes)
  | send (request : HttpRequest)
  deriving DecidableEq, Repr

structure Run (α : Type) where
  calls : List Call
  result : Except PyExc α

namespace Run

variable {α β : Type}

def bind (x : Run α) (f : α → Run β) : Run β :=
  match x.result with
  | .ok a => ⟨x.calls ++ (f a).calls, (f a).result⟩
  | .error e => ⟨x.calls, .error e⟩

instance : Monad Run where
  pure a := ⟨[], .ok a⟩
  bind := bind

def throw (e : PyExc) : Run α := ⟨[], .error e⟩

def call (c : Call) (a : α) : Run α := ⟨[c], .ok a⟩

def ofOption (e : PyExc) : Option α → Run α
  | some a => pure a
  | none => throw e

def tryCatch (x : Run α) (handler : PyExc → Run α) : Run α :=
  match x.result with
  | .ok _ => x
  | .error e => ⟨x.calls ++ (handler e).calls, (handler e).result⟩

@[simp] theorem calls_pure (a : α) : (pure a : Run α).calls = [] := rfl

@[simp] theorem result_pure (a : α) : (pure a : Run α).result = .ok a := rfl

@[simp] theorem calls_throw (e : PyExc) : (throw e : Run α).calls = [] := rfl

@[simp] theorem result_throw (e : PyExc) : (throw e : Run α).result = .error e := rfl

@[simp] theorem calls_call (c : Call) (a : α) : (call c a).calls = [c] := rfl

@[simp] theorem result_call (c : Call) (a : α) : (call c a).result = .ok a := rfl

@[simp] theorem pure_bind (a : α) (f : α → Run β) : (pure a >>= f) = f a := rfl

@[simp] theorem throw_bind (e : PyExc) (f : α → Run β) : (throw e >>= f) = throw e := rfl

@[simp] theorem call_bind (c : Call) (a : α) (f : α → Run β) :
    (call c a >>= f) = ⟨c :: (f a).calls, (f a).result⟩ := rfl

@[simp] theorem mk_ok_bind (cs : List Call) (a : α) (f : α → Run β) :
    ((⟨cs, .ok a⟩ : Run α) >>= f) = ⟨cs ++ (f a).calls, (f a).result⟩ := rfl

@[simp] theorem mk_error_bind (cs : List Call) (e : PyExc) (f : α → Run β) :
    ((⟨cs, .error e⟩ : Run α) >>= f) = ⟨cs, .error e⟩ := rfl

theorem bind_ok {x : Run α} {a : α} (h : x.result = .ok a) (f : α → Run β) :
    (x >>= f) = ⟨x.calls ++ (f a).calls, (f a).result⟩ := by
  show bind x f = _
  simp [bind, h]

theorem bind_error {x : Run α} {e : PyExc} (h : x.result = .error e) (f : α → Run β) :
    (x >>= f) = ⟨x.calls, .error e⟩ := by
  show bind x f = _
  simp [bind, h]

@[simp] theorem ofOption_some (e : PyExc) (a : α) : ofOption e (some a) = pure a := rfl

@[simp] theorem ofOption_none (e : PyExc) : ofOption e (none : Option α) = throw e := rfl

@[simp] theorem tryCatch_mk_ok (cs : List Call) (a : α) (handler : PyExc → Run α) :
    tryCatch ⟨cs, .ok a⟩ handler = ⟨cs, .ok a⟩ := rfl

@[simp] theorem tryCatch_mk_error (cs : List Call) (e : PyExc) (handler : PyExc → Run α) :
    tryCatch ⟨cs, .error e⟩ handler = ⟨cs ++ (handler e).calls, (handler e).result⟩ := rfl

theorem tryCatch_ok {x : Run α} {a : α} (h : x.result = .ok a) (handler : PyExc → Run α) :
    tryCatch x handler = x := by
  simp [tryCatch, h]

theorem tryCatch_error {x : Run α} {e : PyExc} (h : x.result = .error e)
    (handler : PyExc → Run α) :
    tryCatch x handler = ⟨x.calls ++ (handler e).calls, (handler e).result⟩ := by
  simp [tryCatch, h]

@[simp] theorem calls_ofOption (e : PyExc) (o : Option α) : (ofOption e o).calls = [] := by
  cases o <;> rfl

theorem calls_bind_nil {x : Run α} {f : α → Run β} (hx : x.calls = []) (hf : ∀ a, (f a).calls = []) :
    (x >>= f).calls = [] := by
  rcases h : x.result with e | a
  · rw [bind_error h, hx]
  · rw [bind_ok h, hx, hf, List.nil_append]

theorem mem_calls_bind {x : Run α} {f : α → Run β} {c : Call} :
    c ∈ (x >>= f).calls ↔ c ∈ x.calls ∨ ∃ a, x.result = .ok a ∧ c ∈ (f a).calls := by
  rcases h : x.result with e | a
  · simp [bind_error h]
  · simp [bind_ok h]

theorem mem_calls_tryCatch {x : Run α} {handler : PyExc → Run α} {c : Call} :
    c ∈ (tryCatch x handler).calls ↔
      c ∈ x.calls ∨ ∃ e, x.result = .error e ∧ c ∈ (handler e).calls := by
  rcases h : x.result with e | a
  · simp [tryCatch_error h]
  · simp [tryCatch_ok h]

end Run

def reraiseInputTooLarge (e : PyExc) : Run Bool :=
  if e.isInputTooLarge then Run.throw e else pure false

end HmacClient
