import HmacClient.Client.Run

namespace HmacClient

structure Config where
  keyInterval : Int
  maxInputSize : Int
  timeout : Int
  deriving DecidableEq, Repr

def defaultConfig : Config := ⟨300, 33554432, 30⟩

def maxInputSize : Nat := 32 * 1024 * 1024

def defaultKeyInterval : Nat := 5 * 60

structure ConfigOverrides where
  keyInterval : Option Int := none
  maxInputSize : Option Int := none
  timeout : Option Int := none
  deriving DecidableEq, Repr

def mergeConfig (o : ConfigOverrides) : Config :=
  ⟨o.keyInterval.getD defaultConfig.keyInterval, o.maxInputSize.getD defaultConfig.maxInputSize,
    o.timeout.getD defaultConfig.timeout⟩

def validateConfig (secretKey : PyStr) (config : Config) : Except PyExc Unit :=
  if secretKey.isEmpty then .error (.configurationError "secret_key cannot be empty")
  else if config.keyInterval ≤ 0 then .error (.configurationError "key_interval must be positive")
  else if config.maxInputSize ≤ 0 then .error (.configurationError "max_input_size must be positive")
  else .ok ()

def ConfigValid (secretKey : PyStr) (config : Config) : Prop :=
  secretKey ≠ [] ∧ 0 < config.keyInterval ∧ 0 < config.maxInputSize

theorem validateConfig_eq_ok {secretKey : PyStr} {config : Config} :
    validateConfig secretKey config = .ok () ↔ ConfigValid secretKey config := by
  unfold validateConfig ConfigValid
  cases secretKey
  · simp
  · simp only [List.isEmpty_cons, Bool.false_eq_true, if_false, ne_eq, reduceCtorEq, not_false_eq_true,
      true_and]
    split_ifs <;> simp_all

theorem validateConfig_error {secretKey : PyStr} {config : Config} {e : PyExc}
    (h : validateConfig secretKey config = .error e) :
    secretKey = [] ∧ e = .configurationError "secret_key cannot be empty" ∨
    secretKey ≠ [] ∧ config.keyInterval ≤ 0 ∧ e = .configurationError "key_interval must be positive" ∨
    secretKey ≠ [] ∧ 0 < config.keyInterval ∧ config.maxInputSize ≤ 0 ∧
      e = .configurationError "max_input_size must be positive" := by
  unfold validateConfig at h
  cases secretKey
  · cases h; simp
  · simp only [List.isEmpty_cons, Bool.false_eq_true, if_false] at h
    split_ifs at h <;> cases h <;> simp_all

structure HMACClient where
  baseUrl : PyStr
  secretKey : PyStr
  config : Config
  valid : ConfigValid secretKey config

def slash : CodePoint := CodePoint.ofNat 0x2F

def rstripSlash (s : PyStr) : PyStr := (s.reverse.dropWhile (· = slash)).reverse

def lstripSlash (s : PyStr) : PyStr := s.dropWhile (· = slash)

def HMACClient.new (baseUrl secretKey : PyStr) (overrides : ConfigOverrides) :
    Except PyExc HMACClient :=
  match h : validateConfig secretKey (mergeConfig overrides) with
  | .ok () => .ok ⟨rstripSlash baseUrl, secretKey, mergeConfig overrides, validateConfig_eq_ok.mp h⟩
  | .error e => .error e

theorem HMACClient.new_ok {baseUrl secretKey : PyStr} {overrides : ConfigOverrides}
    {c : HMACClient} (h : HMACClient.new baseUrl secretKey overrides = .ok c) :
    c.baseUrl = rstripSlash baseUrl ∧ c.secretKey = secretKey ∧ c.config = mergeConfig overrides := by
  unfold HMACClient.new at h
  split at h <;> cases h
  exact ⟨rfl, rfl, rfl⟩

theorem HMACClient.new_isOk {baseUrl secretKey : PyStr} {overrides : ConfigOverrides} :
    (∃ c, HMACClient.new baseUrl secretKey overrides = .ok c) ↔
      ConfigValid secretKey (mergeConfig overrides) := by
  unfold HMACClient.new
  constructor
  · rintro ⟨c, h⟩
    split at h
    · rename_i hv; exact validateConfig_eq_ok.mp hv
    · cases h
  · intro hv
    split
    · exact ⟨_, rfl⟩
    · rename_i h; rw [validateConfig_eq_ok.mpr hv] at h; cases h

theorem HMACClient.new_error {baseUrl secretKey : PyStr} {overrides : ConfigOverrides} {e : PyExc}
    (h : HMACClient.new baseUrl secretKey overrides = .error e) :
    validateConfig secretKey (mergeConfig overrides) = .error e := by
  unfold HMACClient.new at h
  split at h
  · cases h
  · cases h; assumption

theorem configValid_default {secretKey : PyStr} (h : secretKey ≠ []) :
    ConfigValid secretKey (mergeConfig {}) := ⟨h, by decide, by decide⟩

def testClient : HMACClient :=
  ⟨pyStr "http://localhost:8080", pyStr "test-secret-key", defaultConfig, by decide, by decide, by decide⟩

example : HMACClient.new (pyStr "http://localhost:8080") (pyStr "test-secret-key") {} = .ok testClient :=
  rfl

def zeroHash : Hash := fun _ => ⟨List.replicate 32 0, rfl⟩

def newYear : UtcInstant := ⟨⟨2024, 1, 1, 0, 0, 0, 0⟩, by decide⟩

theorem defaultConfig_eq : defaultConfig = ⟨defaultKeyInterval, maxInputSize, 30⟩ := rfl

def inputTooLargeMessage (size : Nat) (limit : Int) : String :=
  "Input size " ++ toString size ++ " exceeds limit " ++ toString limit

def checkInputSize (c : HMACClient) (data : Bytes) : Run Unit :=
  if (data.length : Int) > c.config.maxInputSize then
    Run.throw (.inputTooLargeError (inputTooLargeMessage data.length c.config.maxInputSize))
  else pure ()

theorem checkInputSize_of_le {c : HMACClient} {data : Bytes}
    (h : (data.length : Int) ≤ c.config.maxInputSize) : checkInputSize c data = pure () := by
  simp [checkInputSize, not_lt.mpr h]

theorem checkInputSize_of_gt {c : HMACClient} {data : Bytes}
    (h : c.config.maxInputSize < data.length) :
    checkInputSize c data =
      Run.throw (.inputTooLargeError (inputTooLargeMessage data.length c.config.maxInputSize)) := by
  simp [checkInputSize, h]

end HmacClient
