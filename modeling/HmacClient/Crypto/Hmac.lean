import HmacClient.Text.Format

namespace HmacClient

abbrev Digest := { d : Bytes // d.length = 32 }

abbrev Hash := Bytes → Digest

def keyBlock (H : Hash) (key : Bytes) : Bytes :=
  let key := if key.length > 64 then (H key).val else key
  key ++ List.replicate (64 - key.length) 0

def hmacOuterInput (H : Hash) (key msg : Bytes) : Bytes :=
  (keyBlock H key).map (· ^^^ 0x5C) ++ (H ((keyBlock H key).map (· ^^^ 0x36) ++ msg)).val

def hmacDigest (H : Hash) (key msg : Bytes) : Digest := H (hmacOuterInput H key msg)

def OuterCollision (H : Hash) (key key' msg : Bytes) : Prop :=
  hmacOuterInput H key msg ≠ hmacOuterInput H key' msg ∧
    H (hmacOuterInput H key msg) = H (hmacOuterInput H key' msg)

instance (H : Hash) (key key' msg : Bytes) : Decidable (OuterCollision H key key' msg) :=
  inferInstanceAs (Decidable (_ ∧ _))

def hmacHex (H : Hash) (key msg : Bytes) : PyStr := hexdigest (hmacDigest H key msg).val

def compareDigest (a b : PyStr) : Option Bool := if isAscii a && isAscii b then some (a == b) else none

variable (H : Hash)

theorem length_keyBlock (key : Bytes) : (keyBlock H key).length = 64 := by
  unfold keyBlock
  split_ifs with h
  · simp [(H key).property]
  · simp only [List.length_append, List.length_replicate]; omega

theorem keyBlock_append_zeros {key : Bytes} {n : Nat} (h : key.length + n ≤ 64) :
    keyBlock H (key ++ List.replicate n 0) = keyBlock H key := by
  simp only [keyBlock, List.length_append, List.length_replicate, if_neg (by omega : ¬ key.length + n > 64),
    if_neg (by omega : ¬ key.length > 64), List.append_assoc, List.append_replicate_replicate]
  congr 2
  omega

theorem keyBlock_append_nul {key : Bytes} (h : key.length < 64) :
    keyBlock H (key ++ [0]) = keyBlock H key := by
  simpa using keyBlock_append_zeros H (show key.length + 1 ≤ 64 by omega)

theorem hmacDigest_eq_of_keyBlock_eq {key key' : Bytes} (h : keyBlock H key = keyBlock H key')
    (msg : Bytes) : hmacDigest H key msg = hmacDigest H key' msg := by
  simp only [hmacDigest, hmacOuterInput, h]

theorem Byte.val_xor (a b : Byte) : (a ^^^ b).val = a.val ^^^ b.val := by
  rcases a with ⟨a, ha⟩
  rcases b with ⟨b, hb⟩
  exact Nat.mod_eq_of_lt (Nat.xor_lt_two_pow (show a < 2 ^ 8 from ha) (show b < 2 ^ 8 from hb))

@[simp] theorem xor_xor_cancel (a c : Byte) : a ^^^ c ^^^ c = a :=
  Fin.ext (by simp only [Byte.val_xor, Nat.xor_assoc, Nat.xor_self, Nat.xor_zero])

theorem map_xor_inj {l l' : Bytes} {c : Byte} (h : l.map (· ^^^ c) = l'.map (· ^^^ c)) : l = l' := by
  simpa [Function.comp_def] using congrArg (List.map (· ^^^ c)) h

theorem hmacDigest_eq_keyBlock_or_collision {key key' msg : Bytes}
    (h : hmacDigest H key msg = hmacDigest H key' msg) :
    keyBlock H key = keyBlock H key' ∨ OuterCollision H key key' msg := by
  by_cases hb : keyBlock H key = keyBlock H key'
  · exact .inl hb
  · refine .inr ⟨fun hxy => hb ?_, h⟩
    have hprefix := congrArg (List.take 64) hxy
    rw [hmacOuterInput, hmacOuterInput, List.take_left' (by simp [length_keyBlock]),
      List.take_left' (by simp [length_keyBlock])] at hprefix
    exact map_xor_inj hprefix

theorem hmacHex_inj {key key' msg msg' : Bytes} :
    hmacHex H key msg = hmacHex H key' msg' ↔ hmacDigest H key msg = hmacDigest H key' msg' :=
  ⟨fun h => Subtype.ext (hexdigest_inj h), fun h => by rw [hmacHex, h]; rfl⟩

theorem compareDigest_hexdigest (d : Bytes) (b : PyStr) (hb : isAscii b) :
    compareDigest (hexdigest d) b = some (hexdigest d == b) := by
  simp [compareDigest, isAscii_hexdigest, hb]

theorem compareDigest_self (d : Bytes) : compareDigest (hexdigest d) (hexdigest d) = some true := by
  simp [compareDigest_hexdigest _ _ (isAscii_hexdigest d)]

theorem eq_of_compareDigest {a b : PyStr} (h : (compareDigest a b).getD false = true) : a = b := by
  unfold compareDigest at h
  split_ifs at h
  · simpa using h
  · cases h

theorem compareDigest_hmacHex (key key' msg msg' : Bytes) :
    (compareDigest (hmacHex H key msg) (hmacHex H key' msg')).getD false =
      decide (hmacDigest H key msg = hmacDigest H key' msg') := by
  rw [hmacHex, hmacHex, compareDigest_hexdigest _ _ (isAscii_hexdigest _), Option.getD_some]
  by_cases h : hmacDigest H key msg = hmacDigest H key' msg'
  · simp [h]
  · have hne : hexdigest (hmacDigest H key msg).val ≠ hexdigest (hmacDigest H key' msg').val :=
      fun he => h ((hmacHex_inj H).mp he)
    simp [h, hne]

end HmacClient
