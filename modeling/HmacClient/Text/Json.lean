import HmacClient.Text.Format

namespace HmacClient

inductive JsonValue where
  | null
  | bool (b : Bool)
  | int (n : Int)
  | str (s : PyStr)
  | array (items : List JsonValue)
  | object (members : List (PyStr × JsonValue))
  deriving Repr

def backslash : CodePoint := CodePoint.ofNat 0x5C

def quote : CodePoint := CodePoint.ofNat 0x22

def uEscape (n : Nat) : PyStr := backslash :: CodePoint.ofNat 0x75 :: formatPadded 16 4 n

def escapeDct (c : CodePoint) : Option PyStr :=
  if c.val = 0x5C then some (pyStr "\\\\")
  else if c.val = 0x22 then some (pyStr "\\\"")
  else if c.val = 0x08 then some (pyStr "\\b")
  else if c.val = 0x0C then some (pyStr "\\f")
  else if c.val = 0x0A then some (pyStr "\\n")
  else if c.val = 0x0D then some (pyStr "\\r")
  else if c.val = 0x09 then some (pyStr "\\t")
  else if c.val < 0x20 then some (uEscape c.val)
  else none

def replace (c : CodePoint) : PyStr :=
  match escapeDct c with
  | some s => s
  | none =>
    if c.val < 0x10000 then uEscape c.val
    else
      let n := c.val - 0x10000
      uEscape (0xd800 ||| ((n >>> 10) &&& 0x3ff)) ++ uEscape (0xdc00 ||| (n &&& 0x3ff))

def escapeAscii (c : CodePoint) : Bool :=
  c.val = 0x5C || c.val = 0x22 || !(0x20 ≤ c.val && c.val ≤ 0x7E)

def encodeBasestringAscii (s : PyStr) : PyStr :=
  quote :: s.flatMap (fun c => if escapeAscii c then replace c else [c]) ++ [quote]

def lbracket : CodePoint := CodePoint.ofNat 0x5B

def rbracket : CodePoint := CodePoint.ofNat 0x5D

def lbrace : CodePoint := CodePoint.ofNat 0x7B

def rbrace : CodePoint := CodePoint.ofNat 0x7D

section
variable (itemSep keySep : PyStr)

mutual
def dumps : JsonValue → PyStr
  | .null => pyStr "null"
  | .bool true => pyStr "true"
  | .bool false => pyStr "false"
  | .int n => pyStr (toString n)
  | .str s => encodeBasestringAscii s
  | .array [] => [lbracket, rbracket]
  | .array (j :: js) => lbracket :: dumps j ++ dumpsItems js ++ [rbracket]
  | .object [] => [lbrace, rbrace]
  | .object ((k, v) :: ms) =>
    lbrace :: encodeBasestringAscii k ++ keySep ++ dumps v ++ dumpsMembers ms ++ [rbrace]

def dumpsItems : List JsonValue → PyStr
  | [] => []
  | j :: js => itemSep ++ dumps j ++ dumpsItems js

def dumpsMembers : List (PyStr × JsonValue) → PyStr
  | [] => []
  | (k, v) :: ms => itemSep ++ encodeBasestringAscii k ++ keySep ++ dumps v ++ dumpsMembers ms
end

end

def maxStrDigits : Nat := 4300

mutual
def JsonValue.intsFit : JsonValue → Bool
  | .int n => (Nat.toDigits 10 n.natAbs).length ≤ maxStrDigits
  | .array items => intsFitItems items
  | .object members => intsFitMembers members
  | _ => true

def intsFitItems : List JsonValue → Bool
  | [] => true
  | j :: js => j.intsFit && intsFitItems js

def intsFitMembers : List (PyStr × JsonValue) → Bool
  | [] => true
  | (_, v) :: ms => v.intsFit && intsFitMembers ms
end

def jsonDumps (itemSep keySep : PyStr) (v : JsonValue) : Option PyStr :=
  if v.intsFit then some (dumps itemSep keySep v) else none

example : dumps (pyStr ",") (pyStr ":") (.object [(pyStr "key", .str (pyStr "value")),
    (pyStr "number", .int 42)]) = pyStr "\x7b\"key\":\"value\",\"number\":42\x7d" := by decide

example : dumps (pyStr ", ") (pyStr ": ") (.array [.int (-7), .null, .str (pyStr "é\n")]) =
    pyStr "[-7, null, \"\\u00e9\\n\"]" := by decide

theorem toList_toString_ofNat (m : Nat) : (toString (Int.ofNat m)).toList = Nat.toDigits 10 m := rfl

theorem toList_toString_negSucc (m : Nat) :
    (toString (Int.negSucc m)).toList = '-' :: Nat.toDigits 10 (m + 1) := rfl

theorem digitChar_toNat_lt (m : Nat) : (Nat.digitChar m).toNat < 0x80 := by
  by_cases h : m < 16
  · have hsmall : ∀ k < 16, (Nat.digitChar k).toNat < 0x80 := by decide
    exact hsmall m h
  · simp (disch := omega) only [Nat.digitChar, if_neg]
    decide

theorem toDigitsCore_succ (fuel n : Nat) (ds : List Char) :
    Nat.toDigitsCore 10 (fuel + 1) n ds =
      if n / 10 = 0 then Nat.digitChar (n % 10) :: ds
      else Nat.toDigitsCore 10 fuel (n / 10) (Nat.digitChar (n % 10) :: ds) := rfl

theorem toNat_lt_of_mem_toDigitsCore {fuel n : Nat} {ds : List Char} (h : ∀ c ∈ ds, c.toNat < 0x80) :
    ∀ c ∈ Nat.toDigitsCore 10 fuel n ds, c.toNat < 0x80 := by
  induction fuel generalizing n ds with
  | zero => exact h
  | succ fuel ih =>
    have hcons : ∀ c ∈ Nat.digitChar (n % 10) :: ds, c.toNat < 0x80 :=
      List.forall_mem_cons.mpr ⟨digitChar_toNat_lt _, h⟩
    rw [toDigitsCore_succ]
    split
    · exact hcons
    · exact ih hcons

theorem toDigitsCore_ne_nil {fuel n : Nat} {ds : List Char} (h : ds ≠ []) :
    Nat.toDigitsCore 10 fuel n ds ≠ [] := by
  induction fuel generalizing n ds with
  | zero => exact h
  | succ fuel ih =>
    rw [toDigitsCore_succ]
    split
    · exact List.cons_ne_nil _ _
    · exact ih (List.cons_ne_nil _ _)

theorem toDigits_ne_nil (m : Nat) : Nat.toDigits 10 m ≠ [] := by
  rw [show Nat.toDigits 10 m = Nat.toDigitsCore 10 (m + 1) m [] from rfl, toDigitsCore_succ]
  split
  · exact List.cons_ne_nil _ _
  · exact toDigitsCore_ne_nil (List.cons_ne_nil _ _)

theorem isAscii_toString_int (n : Int) : isAscii (pyStr (toString n)) := by
  have hdigits : ∀ m, ∀ c ∈ Nat.toDigits 10 m, c.toNat < 0x80 := fun m =>
    toNat_lt_of_mem_toDigitsCore (by simp)
  simp only [isAscii_iff, pyStr, List.mem_map]
  rintro _ ⟨c, hc, rfl⟩
  cases n with
  | ofNat m => exact hdigits m c (toList_toString_ofNat m ▸ hc)
  | negSucc m =>
    rw [toList_toString_negSucc, List.mem_cons] at hc
    rcases hc with rfl | hc
    · decide
    · exact hdigits _ c hc

theorem toString_int_ne_nil (n : Int) : pyStr (toString n) ≠ [] := by
  cases n with
  | ofNat m =>
    rw [pyStr, toList_toString_ofNat, Ne, List.map_eq_nil_iff]
    exact toDigits_ne_nil m
  | negSucc m =>
    rw [pyStr, toList_toString_negSucc, List.map_cons]
    exact List.cons_ne_nil _ _

theorem isAscii_uEscape (n : Nat) : isAscii (uEscape n) := by
  simp only [uEscape, isAscii_cons]
  refine ⟨by decide, by decide, isAscii_iff.mpr fun c hc => ?_⟩
  obtain ⟨d, hd, rfl⟩ := mem_formatPadded (by decide) hc
  exact digitChar_lt hd

theorem forall_ite_some {p : Prop} [Decidable p] {a : PyStr} {e : Option PyStr} {P : PyStr → Prop}
    (ha : P a) (he : ∀ s, e = some s → P s) : ∀ s, (if p then some a else e) = some s → P s := by
  split
  · rintro s ⟨⟩; exact ha
  · exact he

theorem isAscii_of_escapeDct (c : CodePoint) : ∀ s, escapeDct c = some s → isAscii s := by
  unfold escapeDct
  refine forall_ite_some (by decide) (forall_ite_some (by decide) (forall_ite_some (by decide)
    (forall_ite_some (by decide) (forall_ite_some (by decide) (forall_ite_some (by decide)
    (forall_ite_some (by decide) (forall_ite_some (isAscii_uEscape _) ?_)))))))
  rintro s ⟨⟩

theorem isAscii_replace (c : CodePoint) : isAscii (replace c) := by
  unfold replace
  split
  · exact isAscii_of_escapeDct c _ ‹_›
  · split_ifs
    · exact isAscii_uEscape _
    · rw [isAscii_append]; exact ⟨isAscii_uEscape _, isAscii_uEscape _⟩

theorem isAscii_encodeBasestringAscii (s : PyStr) : isAscii (encodeBasestringAscii s) := by
  have hbody : isAscii (s.flatMap fun c => if escapeAscii c then replace c else [c]) := by
    simp only [isAscii_iff, List.mem_flatMap]
    rintro x ⟨c, -, hx⟩
    split at hx
    · exact isAscii_iff.mp (isAscii_replace c) x hx
    · rename_i h
      rw [List.mem_singleton.mp hx]
      simp [escapeAscii] at h
      omega
  simp only [encodeBasestringAscii, isAscii_cons, isAscii_append, hbody, isAscii_nil, and_true]
  decide

mutual
theorem isAscii_dumps {itemSep keySep : PyStr} (hi : isAscii itemSep) (hk : isAscii keySep) :
    ∀ j, isAscii (dumps itemSep keySep j)
  | .null | .bool true | .bool false | .array [] | .object [] => rfl
  | .int n => isAscii_toString_int n
  | .str s => isAscii_encodeBasestringAscii s
  | .array (j :: js) => by
    simp only [dumps, isAscii_cons, isAscii_append, isAscii_dumps hi hk j,
      isAscii_dumpsItems hi hk js, and_true]
    decide
  | .object ((k, v) :: ms) => by
    simp only [dumps, isAscii_cons, isAscii_append, isAscii_encodeBasestringAscii k, hk,
      isAscii_dumps hi hk v, isAscii_dumpsMembers hi hk ms, and_true]
    decide

theorem isAscii_dumpsItems {itemSep keySep : PyStr} (hi : isAscii itemSep) (hk : isAscii keySep) :
    ∀ js, isAscii (dumpsItems itemSep keySep js)
  | [] => rfl
  | j :: js => by
    simp only [dumpsItems, isAscii_append, hi, isAscii_dumps hi hk j, isAscii_dumpsItems hi hk js,
      and_self]

theorem isAscii_dumpsMembers {itemSep keySep : PyStr} (hi : isAscii itemSep) (hk : isAscii keySep) :
    ∀ ms, isAscii (dumpsMembers itemSep keySep ms)
  | [] => rfl
  | (k, v) :: ms => by
    simp only [dumpsMembers, isAscii_append, hi, isAscii_encodeBasestringAscii k, hk,
      isAscii_dumps hi hk v, isAscii_dumpsMembers hi hk ms, and_self]
end

theorem dumps_ne_nil (itemSep keySep : PyStr) : ∀ j, dumps itemSep keySep j ≠ []
  | .null | .bool true | .bool false | .array [] | .object [] => by simp [dumps, pyStr]
  | .int n => toString_int_ne_nil n
  | .str s => by simp [dumps, encodeBasestringAscii]
  | .array (_ :: _) | .object ((_, _) :: _) => by simp [dumps]

end HmacClient
