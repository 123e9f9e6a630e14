import HmacClient.Text.Utf8
import Mathlib.Tactic.Ring

namespace HmacClient

def digitChar (d : Nat) : CodePoint :=
  CodePoint.ofNat (if d < 10 then 0x30 + d else 0x57 + d)

def padDigits (base : Nat) : Nat → Nat → List Nat
  | 0, _ => []
  | w + 1, n => n / base ^ w % base :: padDigits base w n

def formatPadded (base width n : Nat) : PyStr := (padDigits base width n).map digitChar

def digitValue (c : CodePoint) : Option Nat :=
  if 0x30 ≤ c.val ∧ c.val ≤ 0x39 then some (c.val - 0x30) else none

def parseDigitsFrom (acc : Nat) : Nat → PyStr → Option (Nat × PyStr)
  | 0, s => some (acc, s)
  | _ + 1, [] => none
  | w + 1, c :: s => (digitValue c).bind fun d => parseDigitsFrom (acc * 10 + d) w s

def parseDigits (width : Nat) (s : PyStr) : Option (Nat × PyStr) := parseDigitsFrom 0 width s

def colon : CodePoint := CodePoint.ofNat 0x3A

def hexdigest (d : Bytes) : PyStr := d.flatMap fun b => formatPadded 16 2 b.val

def isAscii (s : PyStr) : Bool := s.all fun c => c.val < 0x80

theorem digitValue_digitChar {d : Nat} (h : d < 10) : digitValue (digitChar d) = some d := by
  simp [digitValue, digitChar, h]
  omega

theorem parseDigitsFrom_formatPadded (acc w n : Nat) (rest : PyStr) :
    parseDigitsFrom acc w (formatPadded 10 w n ++ rest) = some (acc * 10 ^ w + n % 10 ^ w, rest) := by
  induction w generalizing acc with
  | zero => simp [parseDigitsFrom, formatPadded, padDigits, Nat.mod_one]
  | succ w ih =>
    simp only [formatPadded, padDigits, List.map_cons, List.cons_append] at ih ⊢
    rw [parseDigitsFrom, digitValue_digitChar (Nat.mod_lt _ (by decide)), Option.some_bind, ih]
    congr 2
    rw [Nat.pow_succ, Nat.mod_mul]
    ring

theorem parseDigits_formatPadded {w n : Nat} (h : n < 10 ^ w) (rest : PyStr) :
    parseDigits w (formatPadded 10 w n ++ rest) = some (n, rest) := by
  simp [parseDigits, parseDigitsFrom_formatPadded, Nat.mod_eq_of_lt h]

example : formatPadded 10 4 7 = pyStr "0007" := by decide
example : parseDigits 2 (pyStr "12:") = some (12, pyStr ":") := by decide

theorem pyStr_colon : pyStr ":" = [colon] := rfl

section
variable {d e : Nat}

theorem digitChar_val (h : d < 16) : (digitChar d).val = if d < 10 then 0x30 + d else 0x57 + d := by
  simp only [digitChar, CodePoint.val_ofNat]
  split_ifs <;> omega

theorem digitChar_lt (h : d < 16) : (digitChar d).val < 0x80 := by
  rw [digitChar_val h]; split_ifs <;> omega

theorem digitChar_ne_colon (h : d < 16) : digitChar d ≠ colon := by
  intro hc
  have := congrArg Fin.val hc
  rw [digitChar_val h] at this
  simp only [colon, CodePoint.val_ofNat] at this
  split_ifs at this <;> omega

theorem digitChar_inj (hd : d < 16) (he : e < 16) (h : digitChar d = digitChar e) : d = e := by
  have := congrArg Fin.val h
  rw [digitChar_val hd, digitChar_val he] at this
  split_ifs at this <;> omega

end

theorem mem_formatPadded {base w n : Nat} {c : CodePoint} (hb : 0 < base)
    (h : c ∈ formatPadded base w n) : ∃ d < base, c = digitChar d := by
  induction w with
  | zero => simp [formatPadded, padDigits] at h
  | succ w ih =>
    simp only [formatPadded, padDigits, List.map_cons, List.mem_cons] at h ih
    rcases h with rfl | h
    · exact ⟨_, Nat.mod_lt _ hb, rfl⟩
    · exact ih h

theorem formatPadded_hex_byte (b : Byte) :
    formatPadded 16 2 b.val = [digitChar (b.val / 16), digitChar (b.val % 16)] := by
  have : b.val / 16 < 16 := by omega
  simp [formatPadded, padDigits, Nat.mod_eq_of_lt this]

@[simp] theorem hexdigest_nil : hexdigest [] = [] := rfl

theorem hexdigest_cons (b : Byte) (d : Bytes) :
    hexdigest (b :: d) = digitChar (b.val / 16) :: digitChar (b.val % 16) :: hexdigest d := by
  simp [hexdigest, formatPadded_hex_byte]

theorem hexdigest_inj {d d' : Bytes} (h : hexdigest d = hexdigest d') : d = d' := by
  induction d generalizing d' with
  | nil => cases d' <;> simp_all [hexdigest_cons]
  | cons b d ih =>
    cases d' with
    | nil => simp [hexdigest_cons] at h
    | cons b' d' =>
      simp only [hexdigest_cons, List.cons.injEq] at h
      obtain ⟨h1, h2, h3⟩ := h
      have hb : b = b' := by
        have := digitChar_inj (by omega) (by omega) h1
        have := digitChar_inj (by omega) (by omega) h2
        ext; omega
      rw [hb, ih h3]

theorem isAscii_iff {s : PyStr} : isAscii s ↔ ∀ c ∈ s, c.val < 0x80 := by
  simp [isAscii]

@[simp] theorem isAscii_nil : isAscii [] := rfl

@[simp] theorem isAscii_append {s t : PyStr} : isAscii (s ++ t) ↔ isAscii s ∧ isAscii t := by
  simp [isAscii]

@[simp] theorem isAscii_cons {c : CodePoint} {s : PyStr} :
    isAscii (c :: s) ↔ c.val < 0x80 ∧ isAscii s := by
  simp [isAscii]

theorem encodeChar_of_lt {c : CodePoint} (h : c.val < 0x80) :
    encodeChar c = some [Byte.ofNat c.val] := by
  simp [encodeChar, h]

theorem encodeUtf8_of_isAscii {s : PyStr} (h : isAscii s) :
    encodeUtf8 s = some (s.map fun c => Byte.ofNat c.val) := by
  induction s with
  | nil => rfl
  | cons c s ih =>
    rw [isAscii_cons] at h
    simp [encodeUtf8, encodeChar_of_lt h.1, ih h.2]

theorem isAscii_hexdigest (d : Bytes) : isAscii (hexdigest d) := by
  rw [isAscii_iff]
  intro c hc
  obtain ⟨b, -, hc⟩ := List.mem_flatMap.mp hc
  obtain ⟨d, hd, rfl⟩ := mem_formatPadded (by decide) hc
  exact digitChar_lt hd

def uuid4 (random : Nat) : Nat :=
  let n := random % 2 ^ 128
  let n := (n ^^^ (n &&& (0xc000 <<< 48))) ||| (0x8000 <<< 48)
  (n ^^^ (n &&& (0xf000 <<< 64))) ||| (4 <<< 76)

def uuidStr (u : Nat) : PyStr :=
  let h := formatPadded 16 32 u
  h.take 8 ++ pyStr "-" ++ (h.drop 8).take 4 ++ pyStr "-" ++ (h.drop 12).take 4 ++ pyStr "-"
    ++ (h.drop 16).take 4 ++ pyStr "-" ++ h.drop 20

theorem mem_uuidStr {u : Nat} {c : CodePoint} (h : c ∈ uuidStr u) :
    c = CodePoint.ofNat 0x2D ∨ ∃ d < 16, c = digitChar d := by
  have hex : c ∈ formatPadded 16 32 u → ∃ d < 16, c = digitChar d := mem_formatPadded (by decide)
  simp only [uuidStr, List.mem_append, or_assoc] at h
  rcases h with h | h | h | h | h | h | h | h | h
  all_goals first
    | exact .inl (List.mem_singleton.mp h)
    | exact .inr (hex (List.mem_of_mem_take h))
    | exact .inr (hex (List.mem_of_mem_drop (List.mem_of_mem_take h)))
    | exact .inr (hex (List.mem_of_mem_drop h))

theorem colon_not_mem_uuidStr (u : Nat) : colon ∉ uuidStr u := by
  intro h
  rcases mem_uuidStr h with h | ⟨d, hd, h⟩
  · exact absurd (congrArg Fin.val h) (by decide)
  · exact digitChar_ne_colon hd h.symm

theorem isAscii_uuidStr (u : Nat) : isAscii (uuidStr u) := by
  rw [isAscii_iff]
  intro c hc
  rcases mem_uuidStr hc with rfl | ⟨d, hd, rfl⟩
  · decide
  · exact digitChar_lt hd

example : uuidStr (uuid4 0) = pyStr "00000000-0000-4000-8000-000000000000" := by decide

end HmacClient
