import HmacClient.Client.Sign

namespace HmacClient

theorem canonicalMessage_eq (timestamp nonce text : PyStr) :
    canonicalMessage timestamp nonce text = timestamp ++ colon :: (nonce ++ colon :: text) := by
  simp [canonicalMessage, pyStr_colon]

theorem canonicalMessage_inj {timestamp timestamp' nonce nonce' text text' : PyStr}
    (hn : colon ∉ nonce) (hn' : colon ∉ nonce')
    (hts : timestamp.count colon = timestamp'.count colon)
    (h : canonicalMessage timestamp nonce text = canonicalMessage timestamp' nonce' text') :
    timestamp = timestamp' ∧ nonce = nonce' ∧ text = text' := by
  rw [canonicalMessage_eq, canonicalMessage_eq] at h
  obtain ⟨rfl, hrest⟩ := append_cons_inj h hts
  obtain ⟨rfl, rfl⟩ := append_cons_inj hrest
    (by rw [List.count_eq_zero.mpr hn, List.count_eq_zero.mpr hn'])
  exact ⟨rfl, rfl, rfl⟩

section
variable (H : Hash) (c : HMACClient) (clock : UtcInstant)

theorem verify256_binds_triple {data data' : Bytes} {hashValue timestamp timestamp' nonce nonce' : PyStr}
    (hn : colon ∉ nonce) (hn' : colon ∉ nonce')
    (hts : timestamp.count colon = timestamp'.count colon)
    (h : (verify256 H c clock data hashValue timestamp nonce).result = .ok true)
    (h' : (verify256 H c clock data' hashValue timestamp' nonce').result = .ok true) :
    (timestamp = timestamp' ∧ nonce = nonce' ∧ data = data') ∨
      ∃ key text text' messageBytes messageBytes', encodeUtf8 c.secretKey = some key ∧
        decodeUtf8 data = some text ∧ decodeUtf8 data' = some text' ∧
        encodeUtf8 (canonicalMessage timestamp nonce text) = some messageBytes ∧
        encodeUtf8 (canonicalMessage timestamp' nonce' text') = some messageBytes' ∧
        messageBytes ≠ messageBytes' ∧ hmacDigest H key messageBytes = hmacDigest H key messageBytes' := by
  obtain ⟨-, -, text, key, mb, hd, hk, hm, rfl⟩ := verify256_result_eq_true H c data clock _ h
  obtain ⟨-, -, text', key', mb', hd', hk', hm', heq⟩ := verify256_result_eq_true H c data' clock _ h'
  obtain rfl : key' = key := Option.some.inj (hk'.symm.trans hk)
  by_cases hmb : mb = mb'
  · subst hmb
    obtain ⟨rfl, rfl, rfl⟩ := canonicalMessage_inj hn hn' hts (encodeUtf8_inj hm hm')
    exact .inl ⟨rfl, rfl, decodeUtf8_inj hd hd'⟩
  · exact .inr ⟨_, text, text', mb, mb', hk, hd, hd', hm, hm', hmb, (hmacHex_inj H).mp heq⟩

theorem signMessage_colon_shift (timestamp a b text : PyStr) {data data' : Bytes}
    (hd : encodeUtf8 text = some data) (hd' : encodeUtf8 (b ++ colon :: text) = some data') :
    signMessage H c timestamp (a ++ colon :: b) data = signMessage H c timestamp a data' := by
  have hm : canonicalMessage timestamp (a ++ colon :: b) text =
      canonicalMessage timestamp a (b ++ colon :: text) := by
    simp [canonicalMessage_eq]
  simp only [signMessage, decode, decodeUtf8_of_encodeUtf8 hd, decodeUtf8_of_encodeUtf8 hd',
    Run.ofOption_some, Run.pure_bind, hm]

theorem verify256_colon_shift (hashValue timestamp a b text : PyStr) {data data' : Bytes}
    (hd : encodeUtf8 text = some data) (hd' : encodeUtf8 (b ++ colon :: text) = some data')
    (hle : (data.length : Int) ≤ c.config.maxInputSize)
    (hle' : (data'.length : Int) ≤ c.config.maxInputSize) :
    (verify256 H c clock data hashValue timestamp (a ++ colon :: b)).result =
      (verify256 H c clock data' hashValue timestamp a).result := by
  obtain ⟨v, hts⟩ := verifyTimestamp_result c clock timestamp
  rw [verify256_of_le H c data clock hashValue hle hts, verify256_of_le H c data' clock hashValue hle' hts,
    signMessage_colon_shift H c timestamp a b text hd hd']

end

theorem verify256_binds_triple_newYear :
    colon ∉ uuidStr (uuid4 0) ∧ colon ∉ uuidStr (uuid4 1) ∧
    (isoformat newYear).count colon = (isoformat newYear).count colon ∧
    (verify256 zeroHash testClient newYear []
      (hmacHex zeroHash ((pyStr "test-secret-key").map fun c => Byte.ofNat c.val)
        ((canonicalMessage (isoformat newYear) (uuidStr (uuid4 0)) []).map fun c => Byte.ofNat c.val))
      (isoformat newYear) (uuidStr (uuid4 0))).result = .ok true ∧
    (verify256 zeroHash testClient newYear []
      (hmacHex zeroHash ((pyStr "test-secret-key").map fun c => Byte.ofNat c.val)
        ((canonicalMessage (isoformat newYear) (uuidStr (uuid4 0)) []).map fun c => Byte.ofNat c.val))
      (isoformat newYear) (uuidStr (uuid4 1))).result = .ok true ∧
    ((isoformat newYear = isoformat newYear ∧ uuidStr (uuid4 0) = uuidStr (uuid4 1) ∧ ([] : Bytes) = []) ∨
      ∃ key text text' messageBytes messageBytes', encodeUtf8 testClient.secretKey = some key ∧
        decodeUtf8 [] = some text ∧ decodeUtf8 [] = some text' ∧
        encodeUtf8 (canonicalMessage (isoformat newYear) (uuidStr (uuid4 0)) text) = some messageBytes ∧
        encodeUtf8 (canonicalMessage (isoformat newYear) (uuidStr (uuid4 1)) text') = some messageBytes' ∧
        messageBytes ≠ messageBytes' ∧
        hmacDigest zeroHash key messageBytes = hmacDigest zeroHash key messageBytes') := by
  have hascii (u : Nat) : isAscii (canonicalMessage (isoformat newYear) (uuidStr (uuid4 u)) []) := by
    rw [canonicalMessage_eq, isAscii_append, isAscii_cons, isAscii_append, isAscii_cons]
    exact ⟨isAscii_isoformat newYear, by decide, isAscii_uuidStr _, by decide, rfl⟩
  have haccept (u : Nat) := verify256_isoformat_self zeroHash testClient [] newYear (by decide) rfl rfl
    (encodeUtf8_of_isAscii (hascii u))
  have haccept₁ := haccept 1
  rw [show hmacHex zeroHash _ ((canonicalMessage (isoformat newYear) (uuidStr (uuid4 1)) []).map
      fun c => Byte.ofNat c.val) = hmacHex zeroHash _ ((canonicalMessage (isoformat newYear)
        (uuidStr (uuid4 0)) []).map fun c => Byte.ofNat c.val) from rfl] at haccept₁
  exact ⟨colon_not_mem_uuidStr _, colon_not_mem_uuidStr _, rfl, haccept 0, haccept₁,
    verify256_binds_triple zeroHash testClient newYear (colon_not_mem_uuidStr _) (colon_not_mem_uuidStr _)
      rfl (haccept 0) haccept₁⟩

theorem verify256_binding_fails :
    ¬ ∃ H : Hash, ∀ (c : HMACClient) (clock : UtcInstant) (data data' : Bytes)
        (hashValue timestamp timestamp' nonce nonce' : PyStr),
      (verify256 H c clock data hashValue timestamp nonce).result = .ok true →
      (verify256 H c clock data' hashValue timestamp' nonce').result = .ok true →
      timestamp = timestamp' ∧ nonce = nonce' ∧ data = data' := by
  rintro ⟨H, h⟩
  obtain ⟨key, hk⟩ : ∃ key, encodeUtf8 testClient.secretKey = some key := ⟨_, rfl⟩
  have hd : encodeUtf8 (pyStr "c") = some [Byte.ofNat 0x63] := rfl
  have hd' : encodeUtf8 (pyStr "b" ++ colon :: pyStr "c") =
      some [Byte.ofNat 0x62, Byte.ofNat 0x3A, Byte.ofNat 0x63] := rfl
  have hascii : isAscii (canonicalMessage (isoformat newYear) (pyStr "a" ++ colon :: pyStr "b")
      (pyStr "c")) := by
    rw [canonicalMessage_eq, isAscii_append, isAscii_cons]
    exact ⟨isAscii_isoformat newYear, by decide, by decide⟩
  have haccept := verify256_isoformat_self H testClient _ newYear (by decide)
    (decodeUtf8_of_encodeUtf8 hd) hk (encodeUtf8_of_isAscii hascii)
  have hshift := (verify256_colon_shift H testClient newYear _ (isoformat newYear) (pyStr "a")
    (pyStr "b") (pyStr "c") hd hd' (by decide) (by decide)).symm.trans haccept
  have := h testClient newYear _ _ _ _ _ _ _ haccept hshift
  exact absurd this.2.1 (by decide)

end HmacClient
