import Mathlib.Data.List.Count

namespace HmacClient

abbrev Byte := Fin 256

abbrev Bytes := List Byte

abbrev CodePoint := Fin 0x110000

abbrev PyStr := List CodePoint

def Byte.ofNat (n : Nat) : Byte := ⟨n % 256, Nat.mod_lt _ (by decide)⟩

def CodePoint.ofNat (n : Nat) : CodePoint := ⟨n % 0x110000, Nat.mod_lt _ (by decide)⟩

@[simp] theorem Byte.val_ofNat (n : Nat) : (Byte.ofNat n).val = n % 256 := rfl

@[simp] theorem CodePoint.val_ofNat (n : Nat) : (CodePoint.ofNat n).val = n % 0x110000 := rfl

theorem Byte.val_ofNat_of_lt {n : Nat} (h : n < 256) : (Byte.ofNat n).val = n :=
  Nat.mod_eq_of_lt h

theorem char_toNat_lt (c : Char) : c.toNat < 0x110000 := by
  have := c.valid
  simp only [Char.toNat, UInt32.isValidChar, Nat.isValidChar] at *
  omega

def pyStr (s : String) : PyStr := s.toList.map fun c => ⟨c.toNat, char_toNat_lt c⟩

def isSurrogate (c : CodePoint) : Bool := 0xD800 ≤ c.val && c.val ≤ 0xDFFF

def encodeChar (c : CodePoint) : Option Bytes :=
  let n := c.val
  if n < 0x80 then some [Byte.ofNat n]
  else if n < 0x800 then some [Byte.ofNat (0xC0 + n / 0x40), Byte.ofNat (0x80 + n % 0x40)]
  else if isSurrogate c then none
  else if n < 0x10000 then
    some [Byte.ofNat (0xE0 + n / 0x1000), Byte.ofNat (0x80 + n / 0x40 % 0x40),
      Byte.ofNat (0x80 + n % 0x40)]
  else
    some [Byte.ofNat (0xF0 + n / 0x40000), Byte.ofNat (0x80 + n / 0x1000 % 0x40),
      Byte.ofNat (0x80 + n / 0x40 % 0x40), Byte.ofNat (0x80 + n % 0x40)]

def encodeUtf8 : PyStr → Option Bytes
  | [] => some []
  | c :: s => do
    let b ← encodeChar c
    let bs ← encodeUtf8 s
    pure (b ++ bs)

def isTail (b : Byte) : Bool := 0x80 ≤ b.val && b.val ≤ 0xBF

def secondLow (b0 : Byte) : Nat :=
  if b0.val = 0xE0 then 0xA0 else if b0.val = 0xF0 then 0x90 else 0x80

def secondHigh (b0 : Byte) : Nat :=
  if b0.val = 0xED then 0x9F else if b0.val = 0xF4 then 0x8F else 0xBF

def isSecond (b0 b1 : Byte) : Bool := secondLow b0 ≤ b1.val && b1.val ≤ secondHigh b0

def leadLength (b0 : Byte) : Nat :=
  if b0.val < 0x80 then 1
  else if 0xC2 ≤ b0.val ∧ b0.val ≤ 0xDF then 2
  else if 0xE0 ≤ b0.val ∧ b0.val ≤ 0xEF then 3
  else if 0xF0 ≤ b0.val ∧ b0.val ≤ 0xF4 then 4
  else 0

def decodeUtf8 : Bytes → Option PyStr
  | [] => some []
  | b0 :: bs =>
    match leadLength b0, bs with
    | 1, bs => (CodePoint.ofNat b0.val :: ·) <$> decodeUtf8 bs
    | 2, b1 :: bs =>
      if isTail b1 then
        (CodePoint.ofNat ((b0.val - 0xC0) * 0x40 + (b1.val - 0x80)) :: ·) <$> decodeUtf8 bs
      else none
    | 3, b1 :: b2 :: bs =>
      if isSecond b0 b1 && isTail b2 then
        (CodePoint.ofNat ((b0.val - 0xE0) * 0x1000 + (b1.val - 0x80) * 0x40 + (b2.val - 0x80)) :: ·)
          <$> decodeUtf8 bs
      else none
    | 4, b1 :: b2 :: b3 :: bs =>
      if isSecond b0 b1 && isTail b2 && isTail b3 then
        (CodePoint.ofNat ((b0.val - 0xF0) * 0x40000 + (b1.val - 0x80) * 0x1000
          + (b2.val - 0x80) * 0x40 + (b3.val - 0x80)) :: ·) <$> decodeUtf8 bs
      else none
    | _, _ => none

section
variable {b0 b1 b2 b3 : Byte}

theorem leadLength_eq_one : leadLength b0 = 1 ↔ b0.val < 0x80 := by
  unfold leadLength; split_ifs <;> simp <;> omega

theorem leadLength_eq_two : leadLength b0 = 2 ↔ 0xC2 ≤ b0.val ∧ b0.val ≤ 0xDF := by
  unfold leadLength; split_ifs <;> simp <;> omega

theorem leadLength_eq_three : leadLength b0 = 3 ↔ 0xE0 ≤ b0.val ∧ b0.val ≤ 0xEF := by
  unfold leadLength; split_ifs <;> simp <;> omega

theorem leadLength_eq_four : leadLength b0 = 4 ↔ 0xF0 ≤ b0.val ∧ b0.val ≤ 0xF4 := by
  unfold leadLength; split_ifs <;> simp <;> omega

theorem isTail_iff : isTail b1 ↔ 0x80 ≤ b1.val ∧ b1.val ≤ 0xBF := by
  simp [isTail]

theorem isSecond_iff : isSecond b0 b1 ↔ secondLow b0 ≤ b1.val ∧ b1.val ≤ secondHigh b0 := by
  simp [isSecond]

end

theorem isSecond_encodeThree (n : Nat) (h : 0x800 ≤ n) (h' : n < 0x10000)
    (hs : ¬(0xD800 ≤ n ∧ n ≤ 0xDFFF)) :
    (isSecond (Byte.ofNat (0xE0 + n / 0x1000)) (Byte.ofNat (0x80 + n / 0x40 % 0x40)) &&
      isTail (Byte.ofNat (0x80 + n % 0x40))) = true := by
  simp only [Bool.and_eq_true, isSecond_iff, isTail_iff, secondLow, secondHigh,
    Byte.val_ofNat_of_lt (show 0xE0 + n / 0x1000 < 256 by omega),
    Byte.val_ofNat_of_lt (show 0x80 + n / 0x40 % 0x40 < 256 by omega),
    Byte.val_ofNat_of_lt (show 0x80 + n % 0x40 < 256 by omega)]
  split_ifs <;> omega

theorem isSecond_encodeFour (n : Nat) (h : 0x10000 ≤ n) (h' : n < 0x110000) :
    (isSecond (Byte.ofNat (0xF0 + n / 0x40000)) (Byte.ofNat (0x80 + n / 0x1000 % 0x40)) &&
      isTail (Byte.ofNat (0x80 + n / 0x40 % 0x40)) && isTail (Byte.ofNat (0x80 + n % 0x40))) = true := by
  simp only [Bool.and_eq_true, isSecond_iff, isTail_iff, secondLow, secondHigh,
    Byte.val_ofNat_of_lt (show 0xF0 + n / 0x40000 < 256 by omega),
    Byte.val_ofNat_of_lt (show 0x80 + n / 0x1000 % 0x40 < 256 by omega),
    Byte.val_ofNat_of_lt (show 0x80 + n / 0x40 % 0x40 < 256 by omega),
    Byte.val_ofNat_of_lt (show 0x80 + n % 0x40 < 256 by omega)]
  split_ifs <;> omega

theorem decodeUtf8_encodeChar_append {c : CodePoint} {b : Bytes} (h : encodeChar c = some b)
    (rest : Bytes) : decodeUtf8 (b ++ rest) = (c :: ·) <$> decodeUtf8 rest := by
  have hc := c.isLt
  simp only [encodeChar, isSurrogate, Bool.and_eq_true, decide_eq_true_eq] at h
  split at h
  · cases h
    have hv : CodePoint.ofNat (Byte.ofNat c.val).val = c := by ext; simp; omega
    rw [List.singleton_append, decodeUtf8.eq_2 _ _ (leadLength_eq_one.mpr (by simp; omega)), hv]
  split at h
  · cases h
    rw [List.cons_append, List.singleton_append,
      decodeUtf8.eq_3 _ _ _ (leadLength_eq_two.mpr (by simp; omega)),
      if_pos (isTail_iff.mpr (by simp; omega))]
    exact congrArg (fun a => (a :: ·) <$> decodeUtf8 rest) (by
      ext; simp (disch := omega) only [CodePoint.val_ofNat, Byte.val_ofNat_of_lt]; omega)
  split at h
  · cases h
  split at h
  · cases h
    rw [List.cons_append, List.cons_append, List.singleton_append,
      decodeUtf8.eq_4 _ _ _ _ (leadLength_eq_three.mpr (by simp; omega)),
      if_pos (isSecond_encodeThree c.val (by omega) (by omega) ‹_›)]
    exact congrArg (fun a => (a :: ·) <$> decodeUtf8 rest) (by
      ext; simp (disch := omega) only [CodePoint.val_ofNat, Byte.val_ofNat_of_lt]; omega)
  · cases h
    rw [List.cons_append, List.cons_append, List.cons_append, List.singleton_append,
      decodeUtf8.eq_5 _ _ _ _ _ (leadLength_eq_four.mpr (by simp; omega)),
      if_pos (isSecond_encodeFour c.val (by omega) hc)]
    exact congrArg (fun a => (a :: ·) <$> decodeUtf8 rest) (by
      ext; simp (disch := omega) only [CodePoint.val_ofNat, Byte.val_ofNat_of_lt]; omega)

theorem encodeUtf8_cons (c : CodePoint) (s : PyStr) :
    encodeUtf8 (c :: s) = (encodeChar c).bind fun b => (encodeUtf8 s).map (b ++ ·) := by
  simp only [encodeUtf8, Option.bind_eq_bind]
  cases encodeUtf8 s <;> rfl

theorem decodeUtf8_of_encodeUtf8 {s : PyStr} {b : Bytes} (h : encodeUtf8 s = some b) :
    decodeUtf8 b = some s := by
  induction s generalizing b with
  | nil => cases h; rfl
  | cons c s ih =>
    simp only [encodeUtf8_cons, Option.bind_eq_some, Option.map_eq_some'] at h
    obtain ⟨bc, hc, bs, hs, rfl⟩ := h
    rw [decodeUtf8_encodeChar_append hc, ih hs]
    rfl

section
variable {b0 b1 b2 b3 : Byte}

theorem encodeChar_decode_one (h : leadLength b0 = 1) :
    encodeChar (CodePoint.ofNat b0.val) = some [b0] := by
  have := leadLength_eq_one.mp h
  simp only [encodeChar, CodePoint.val_ofNat]
  rw [if_pos (by omega)]
  simp only [Option.some.injEq, List.cons.injEq, Fin.ext_iff, Byte.val_ofNat, and_true]
  omega

theorem encodeChar_decode_two (h : leadLength b0 = 2) (h1 : isTail b1) :
    encodeChar (CodePoint.ofNat ((b0.val - 0xC0) * 0x40 + (b1.val - 0x80))) = some [b0, b1] := by
  have := leadLength_eq_two.mp h
  have := isTail_iff.mp h1
  simp only [encodeChar, CodePoint.val_ofNat]
  rw [if_neg (by omega), if_pos (by omega)]
  simp only [Option.some.injEq, List.cons.injEq, Fin.ext_iff, Byte.val_ofNat, and_true]
  omega

theorem encodeChar_decode_three (h : leadLength b0 = 3) (h12 : (isSecond b0 b1 && isTail b2)) :
    encodeChar (CodePoint.ofNat ((b0.val - 0xE0) * 0x1000 + (b1.val - 0x80) * 0x40
      + (b2.val - 0x80))) = some [b0, b1, b2] := by
  have := leadLength_eq_three.mp h
  simp only [Bool.and_eq_true, isTail_iff] at h12
  obtain ⟨h1, h2⟩ := h12
  have hrange : 0x800 ≤ (b0.val - 0xE0) * 0x1000 + (b1.val - 0x80) * 0x40 + (b2.val - 0x80) ∧
      ¬(0xD800 ≤ (b0.val - 0xE0) * 0x1000 + (b1.val - 0x80) * 0x40 + (b2.val - 0x80) ∧
        (b0.val - 0xE0) * 0x1000 + (b1.val - 0x80) * 0x40 + (b2.val - 0x80) ≤ 0xDFFF) ∧
      0x80 ≤ b1.val ∧ b1.val ≤ 0xBF := by
    unfold isSecond secondLow secondHigh at h1
    split_ifs at h1 <;> simp at h1 <;> omega
  simp only [encodeChar, isSurrogate, CodePoint.val_ofNat, Bool.and_eq_true, decide_eq_true_eq]
  rw [if_neg (by omega), if_neg (by omega), if_neg (by omega), if_pos (by omega)]
  simp only [Option.some.injEq, List.cons.injEq, Fin.ext_iff, Byte.val_ofNat, and_true]
  omega

theorem encodeChar_decode_four (h : leadLength b0 = 4)
    (h123 : (isSecond b0 b1 && isTail b2 && isTail b3)) :
    encodeChar (CodePoint.ofNat ((b0.val - 0xF0) * 0x40000 + (b1.val - 0x80) * 0x1000
      + (b2.val - 0x80) * 0x40 + (b3.val - 0x80))) = some [b0, b1, b2, b3] := by
  have := leadLength_eq_four.mp h
  simp only [Bool.and_eq_true, isTail_iff] at h123
  obtain ⟨⟨h1, h2⟩, h3⟩ := h123
  have hrange : 0x10000 ≤ (b0.val - 0xF0) * 0x40000 + (b1.val - 0x80) * 0x1000
        + (b2.val - 0x80) * 0x40 + (b3.val - 0x80) ∧
      (b0.val - 0xF0) * 0x40000 + (b1.val - 0x80) * 0x1000 + (b2.val - 0x80) * 0x40
        + (b3.val - 0x80) < 0x110000 ∧
      0x80 ≤ b1.val ∧ b1.val ≤ 0xBF := by
    unfold isSecond secondLow secondHigh at h1
    split_ifs at h1 <;> simp at h1 <;> omega
  simp only [encodeChar, isSurrogate, CodePoint.val_ofNat, Nat.mod_eq_of_lt hrange.2.1]
  rw [if_neg (by omega), if_neg (by omega), if_neg (by simp; omega), if_neg (by omega)]
  simp only [Option.some.injEq, List.cons.injEq, Fin.ext_iff, Byte.val_ofNat, and_true]
  omega

end

theorem encodeUtf8_of_decodeUtf8 {b : Bytes} {s : PyStr} (h : decodeUtf8 b = some s) :
    encodeUtf8 s = some b := by
  induction b using decodeUtf8.induct generalizing s with
  | case1 => cases h; rfl
  | case2 b0 bs hl ih =>
    rw [decodeUtf8.eq_2 _ _ hl] at h
    obtain ⟨t, ht, rfl⟩ := Option.map_eq_some'.mp h
    simp [encodeUtf8_cons, encodeChar_decode_one hl, ih ht]
  | case3 b0 b1 bs hl h1 ih =>
    rw [decodeUtf8.eq_3 _ _ _ hl, if_pos h1] at h
    obtain ⟨t, ht, rfl⟩ := Option.map_eq_some'.mp h
    simp [encodeUtf8_cons, encodeChar_decode_two hl h1, ih ht]
  | case4 b0 b1 bs hl h1 => rw [decodeUtf8.eq_3 _ _ _ hl, if_neg h1] at h; cases h
  | case5 b0 b1 b2 bs hl h12 ih =>
    rw [decodeUtf8.eq_4 _ _ _ _ hl, if_pos h12] at h
    obtain ⟨t, ht, rfl⟩ := Option.map_eq_some'.mp h
    simp [encodeUtf8_cons, encodeChar_decode_three hl h12, ih ht]
  | case6 b0 b1 b2 bs hl h12 => rw [decodeUtf8.eq_4 _ _ _ _ hl, if_neg h12] at h; cases h
  | case7 b0 b1 b2 b3 bs hl h123 ih =>
    rw [decodeUtf8.eq_5 _ _ _ _ _ hl, if_pos h123] at h
    obtain ⟨t, ht, rfl⟩ := Option.map_eq_some'.mp h
    simp [encodeUtf8_cons, encodeChar_decode_four hl h123, ih ht]
  | case8 b0 b1 b2 b3 bs hl h123 => rw [decodeUtf8.eq_5 _ _ _ _ _ hl, if_neg h123] at h; cases h
  | case9 b0 bs h1 h2 h3 h4 => rw [decodeUtf8.eq_6 _ _ h1 h2 h3 h4] at h; cases h

theorem isSome_encodeChar (c : CodePoint) : (encodeChar c).isSome = !isSurrogate c := by
  simp only [encodeChar, isSurrogate]
  split_ifs <;> simp_all <;> omega

theorem isSome_encodeUtf8 {s : PyStr} : (encodeUtf8 s).isSome ↔ ∀ c ∈ s, isSurrogate c = false := by
  induction s with
  | nil => simp [encodeUtf8]
  | cons c s ih =>
    rw [encodeUtf8_cons, List.forall_mem_cons, ← ih]
    have hc := isSome_encodeChar c
    revert hc
    cases encodeChar c <;> cases encodeUtf8 s <;> cases isSurrogate c <;> simp

theorem encodeUtf8_inj {s s' : PyStr} {b : Bytes} (h : encodeUtf8 s = some b)
    (h' : encodeUtf8 s' = some b) : s = s' := by
  simpa [decodeUtf8_of_encodeUtf8 h] using decodeUtf8_of_encodeUtf8 h'

theorem decodeUtf8_inj {b b' : Bytes} {s : PyStr} (h : decodeUtf8 b = some s)
    (h' : decodeUtf8 b' = some s) : b = b' := by
  simpa [encodeUtf8_of_decodeUtf8 h] using encodeUtf8_of_decodeUtf8 h'

theorem append_cons_inj {x : CodePoint} {a a' b b' : PyStr} (h : a ++ x :: b = a' ++ x :: b')
    (hc : a.count x = a'.count x) : a = a' ∧ b = b' := by
  induction a generalizing a' with
  | nil =>
    cases a' with
    | nil => simpa using h
    | cons y t =>
      obtain ⟨rfl, -⟩ := List.cons.inj h
      simp at hc
  | cons y t ih =>
    cases a' with
    | nil =>
      obtain ⟨rfl, -⟩ := List.cons.inj h
      simp at hc
    | cons y' t' =>
      obtain ⟨rfl, ht⟩ := List.cons.inj h
      obtain ⟨rfl, rfl⟩ := ih ht (by simpa [List.count_cons] using hc)
      exact ⟨rfl, rfl⟩

end HmacClient
