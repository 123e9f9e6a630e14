import HmacClient.Text.Json
import Mathlib.Data.List.Basic

namespace HmacClient

theorem toDigitsCore_append (fuel n : Nat) (ds : List Char) :
    Nat.toDigitsCore 10 fuel n ds = Nat.toDigitsCore 10 fuel n [] ++ ds := by
  induction fuel generalizing n ds with
  | zero => rfl
  | succ fuel ih =>
    rw [toDigitsCore_succ, toDigitsCore_succ]
    split
    · rfl
    · rw [ih _ (_ :: ds), ih _ [_], List.append_assoc]
      rfl

theorem toDigitsCore_fuel {f g n : Nat} (ds : List Char) (hf : n < f) (hg : n < g) :
    Nat.toDigitsCore 10 f n ds = Nat.toDigitsCore 10 g n ds := by
  induction f generalizing g n ds with
  | zero => omega
  | succ f ih =>
    obtain ⟨g, rfl⟩ : ∃ g', g = g' + 1 := ⟨g - 1, by omega⟩
    rw [toDigitsCore_succ, toDigitsCore_succ]
    split
    · rfl
    · exact ih _ (by omega) (by omega)

theorem toDigits_of_lt {n : Nat} (h : n < 10) : Nat.toDigits 10 n = [Nat.digitChar n] := by
  rw [show Nat.toDigits 10 n = Nat.toDigitsCore 10 (n + 1) n [] from rfl, toDigitsCore_succ,
    if_pos (by omega), Nat.mod_eq_of_lt h]

theorem toDigits_of_ge {n : Nat} (h : 10 ≤ n) :
    Nat.toDigits 10 n = Nat.toDigits 10 (n / 10) ++ [Nat.digitChar (n % 10)] := by
  rw [show Nat.toDigits 10 n = Nat.toDigitsCore 10 (n + 1) n [] from rfl, toDigitsCore_succ,
    if_neg (by omega), toDigitsCore_append,
    toDigitsCore_fuel [] (show n / 10 < n by omega) (show n / 10 < n / 10 + 1 by omega)]
  rfl

theorem digitChar_inj_of_lt {a b : Nat} (ha : a < 10) (hb : b < 10)
    (h : Nat.digitChar a = Nat.digitChar b) : a = b := by
  have key : ∀ a < 10, ∀ b < 10, Nat.digitChar a = Nat.digitChar b → a = b := by decide
  exact key a ha b hb h

theorem toDigits_ne_singleton {m : Nat} (hm : 10 ≤ m) (c : Char) : Nat.toDigits 10 m ≠ [c] := fun h => by
  rw [toDigits_of_ge hm] at h
  have := congrArg List.length h
  simp only [List.length_singleton, List.length_append] at this
  exact toDigits_ne_nil (m / 10) (List.length_eq_zero.mp (by omega))

theorem toDigits_inj {n m : Nat} (h : Nat.toDigits 10 n = Nat.toDigits 10 m) : n = m := by
  induction n using Nat.strong_induction_on generalizing m with
  | _ n ih =>
    rcases Nat.lt_or_ge n 10 with hn | hn <;> rcases Nat.lt_or_ge m 10 with hm | hm
    · rw [toDigits_of_lt hn, toDigits_of_lt hm] at h
      exact digitChar_inj_of_lt hn hm (List.cons.inj h).1
    · rw [toDigits_of_lt hn] at h
      exact absurd h.symm (toDigits_ne_singleton hm _)
    · rw [toDigits_of_lt hm] at h
      exact absurd h (toDigits_ne_singleton hn _)
    · rw [toDigits_of_ge hn, toDigits_of_ge hm] at h
      obtain ⟨hq, hr⟩ := List.append_inj' h rfl
      have hq := ih (n / 10) (by omega) hq
      have hr := digitChar_inj_of_lt (Nat.mod_lt n (by decide)) (Nat.mod_lt m (by decide))
        (List.cons.inj hr).1
      omega

theorem mem_toDigits {n : Nat} {c : Char} (h : c ∈ Nat.toDigits 10 n) : ∃ d < 10, c = Nat.digitChar d := by
  induction n using Nat.strong_induction_on with
  | _ n ih =>
    rcases Nat.lt_or_ge n 10 with hn | hn
    · rw [toDigits_of_lt hn, List.mem_singleton] at h
      exact ⟨n, hn, h⟩
    · rw [toDigits_of_ge hn, List.mem_append, List.mem_singleton] at h
      rcases h with h | h
      · exact ih (n / 10) (by omega) h
      · exact ⟨n % 10, Nat.mod_lt n (by decide), h⟩

theorem minus_not_mem_toDigits (n : Nat) : '-' ∉ Nat.toDigits 10 n := fun h => by
  obtain ⟨d, hd, he⟩ := mem_toDigits h
  have key : ∀ d < 10, Nat.digitChar d ≠ '-' := by decide
  exact key d hd he.symm

theorem toString_int_inj {a b : Int} (h : (toString a).toList = (toString b).toList) : a = b := by
  cases a with
  | ofNat n =>
    cases b with
    | ofNat m => rw [toList_toString_ofNat, toList_toString_ofNat] at h; rw [toDigits_inj h]
    | negSucc m =>
      rw [toList_toString_ofNat, toList_toString_negSucc] at h
      exact absurd (h ▸ List.mem_cons_self _ _) (minus_not_mem_toDigits n)
  | negSucc n =>
    cases b with
    | ofNat m =>
      rw [toList_toString_negSucc, toList_toString_ofNat] at h
      exact absurd (h ▸ List.mem_cons_self _ _) (minus_not_mem_toDigits m)
    | negSucc m =>
      rw [toList_toString_negSucc, toList_toString_negSucc] at h
      rw [Nat.succ_injective (toDigits_inj (List.cons.inj h).2)]

theorem pyStr_inj {s s' : String} (h : pyStr s = pyStr s') : s.toList = s'.toList := by
  have hf : Function.Injective (fun c : Char => (⟨c.toNat, char_toNat_lt c⟩ : CodePoint)) :=
    fun a b hab => by
      have hv := congrArg Fin.val hab
      exact Char.ext (UInt32.toNat.inj hv)
  exact List.map_injective_iff.mpr hf h

def leadTag (c : CodePoint) : Nat :=
  if c.val = 0x6E then 0 else if c.val = 0x74 then 1 else if c.val = 0x66 then 2
  else if c.val = 0x2D ∨ 0x30 ≤ c.val ∧ c.val ≤ 0x39 then 3
  else if c.val = 0x22 then 4 else if c.val = 0x5B then 5 else if c.val = 0x7B then 6 else 7

def JsonValue.tag : JsonValue → Nat
  | .null => 0
  | .bool true => 1
  | .bool false => 2
  | .int _ => 3
  | .str _ => 4
  | .array _ => 5
  | .object _ => 6

theorem leadTag_of_numeric {c : CodePoint} (h : c.val = 0x2D ∨ 0x30 ≤ c.val ∧ c.val ≤ 0x39) :
    leadTag c = 3 := by
  rw [leadTag, if_neg (by omega), if_neg (by omega), if_neg (by omega), if_pos h]

theorem leadTag_toString_int {n : Int} {c : CodePoint} (h : c ∈ pyStr (toString n)) : leadTag c = 3 := by
  have hdigit : ∀ m, ∀ c ∈ Nat.toDigits 10 m, c.toNat = 0x2D ∨ 0x30 ≤ c.toNat ∧ c.toNat ≤ 0x39 :=
    fun m c hc => by
      obtain ⟨d, hd, rfl⟩ := mem_toDigits hc
      have key : ∀ d < 10, 0x30 ≤ (Nat.digitChar d).toNat ∧ (Nat.digitChar d).toNat ≤ 0x39 := by decide
      exact .inr (key d hd)
  obtain ⟨ch, hch, rfl⟩ := List.mem_map.mp h
  apply leadTag_of_numeric
  cases n with
  | ofNat m => exact hdigit m ch (toList_toString_ofNat m ▸ hch)
  | negSucc m =>
    rw [toList_toString_negSucc, List.mem_cons] at hch
    rcases hch with rfl | hch
    · exact .inl rfl
    · exact hdigit _ ch hch

theorem append_inj_of_leadTag {k : Nat} {a b r r' : PyStr} (ha : ∀ x ∈ a, leadTag x = k)
    (hb : ∀ x ∈ b, leadTag x = k) (hr : ∀ x ∈ r.head?, leadTag x ≠ k)
    (hr' : ∀ x ∈ r'.head?, leadTag x ≠ k) (h : a ++ r = b ++ r') : a = b ∧ r = r' := by
  induction a generalizing b with
  | nil =>
    cases b with
    | nil => exact ⟨rfl, h⟩
    | cons y b =>
      subst h
      exact absurd (hb y (List.mem_cons_self _ _)) (hr y rfl)
  | cons x a ih =>
    cases b with
    | nil =>
      subst h
      exact absurd (ha x (List.mem_cons_self _ _)) (hr' x rfl)
    | cons y b =>
      simp only [List.cons_append, List.cons.injEq] at h
      obtain ⟨rfl, h⟩ := h
      obtain ⟨rfl, rfl⟩ := ih (fun z hz => ha z (List.mem_cons_of_mem _ hz))
        (fun z hz => hb z (List.mem_cons_of_mem _ hz)) h
      exact ⟨rfl, rfl⟩

theorem toString_append_inj {n m : Int} {r r' : PyStr} (hr : ∀ x ∈ r.head?, leadTag x = 7)
    (hr' : ∀ x ∈ r'.head?, leadTag x = 7)
    (h : pyStr (toString n) ++ r = pyStr (toString m) ++ r') : n = m ∧ r = r' := by
  obtain ⟨hs, rfl⟩ := append_inj_of_leadTag (fun _ => leadTag_toString_int)
    (fun _ => leadTag_toString_int) (fun x hx => by rw [hr x hx]; decide)
    (fun x hx => by rw [hr' x hx]; decide) h
  exact ⟨toString_int_inj (pyStr_inj hs), rfl⟩

def hexValue (c : CodePoint) : Option Nat :=
  if 0x30 ≤ c.val ∧ c.val ≤ 0x39 then some (c.val - 0x30)
  else if 0x61 ≤ c.val ∧ c.val ≤ 0x66 then some (c.val - 0x57) else none

def readHexFrom (acc : Nat) : Nat → PyStr → Option (Nat × PyStr)
  | 0, s => some (acc, s)
  | _ + 1, [] => none
  | w + 1, c :: s => (hexValue c).bind fun d => readHexFrom (acc * 16 + d) w s

def unescapeShort (k : CodePoint) : Option CodePoint :=
  if k.val = 0x22 then some quote
  else if k.val = 0x5C then some backslash
  else if k.val = 0x62 then some (CodePoint.ofNat 0x08)
  else if k.val = 0x66 then some (CodePoint.ofNat 0x0C)
  else if k.val = 0x6E then some (CodePoint.ofNat 0x0A)
  else if k.val = 0x72 then some (CodePoint.ofNat 0x0D)
  else if k.val = 0x74 then some (CodePoint.ofNat 0x09)
  else none

def readEscaped : PyStr → Option (CodePoint × PyStr)
  | [] => none
  | c :: s =>
    if c ≠ backslash then some (c, s) else
    match s with
    | [] => none
    | k :: s =>
      if k.val = 0x75 then
        match readHexFrom 0 4 s with
        | none => none
        | some (n, s) =>
          if 0xD800 ≤ n ∧ n ≤ 0xDBFF then
            match s with
            | b :: u :: s =>
              if b = backslash ∧ u.val = 0x75 then
                (readHexFrom 0 4 s).map fun (m, s) =>
                  (CodePoint.ofNat (0x10000 + (n - 0xD800) * 0x400 + (m - 0xDC00)), s)
              else none
            | _ => none
          else some (CodePoint.ofNat n, s)
      else (unescapeShort k).map (·, s)

def escapeUnit (c : CodePoint) : PyStr := if escapeAscii c then replace c else [c]

theorem encodeBasestringAscii_eq (s : PyStr) :
    encodeBasestringAscii s = quote :: (s.flatMap escapeUnit ++ [quote]) := rfl

theorem hexValue_digitChar {d : Nat} (h : d < 16) : hexValue (digitChar d) = some d := by
  unfold hexValue
  rw [digitChar_val h]
  split_ifs <;> (try simp only [Option.some.injEq]) <;> omega

theorem readHexFrom_formatPadded (acc w n : Nat) (rest : PyStr) :
    readHexFrom acc w (formatPadded 16 w n ++ rest) = some (acc * 16 ^ w + n % 16 ^ w, rest) := by
  induction w generalizing acc with
  | zero => simp [readHexFrom, formatPadded, padDigits, Nat.mod_one]
  | succ w ih =>
    simp only [formatPadded, padDigits, List.map_cons, List.cons_append] at ih ⊢
    rw [readHexFrom, hexValue_digitChar (Nat.mod_lt _ (by decide)), Option.some_bind, ih]
    congr 2
    rw [Nat.pow_succ, Nat.mod_mul]
    ring

theorem readHexFrom_uEscape {n : Nat} (hn : n < 0x10000) (rest : PyStr) :
    readHexFrom 0 4 (formatPadded 16 4 n ++ rest) = some (n, rest) := by
  rw [readHexFrom_formatPadded, Nat.zero_mul, Nat.zero_add, Nat.mod_eq_of_lt (show n < 16 ^ 4 from hn)]

theorem readEscaped_uEscape {n : Nat} (hn : n < 0x10000) (hs : ¬(0xD800 ≤ n ∧ n ≤ 0xDBFF)) (x : PyStr) :
    readEscaped (uEscape n ++ x) = some (CodePoint.ofNat n, x) := by
  simp [readEscaped, uEscape, backslash, readHexFrom_uEscape hn, hs]

theorem readEscaped_pair {hi lo : Nat} (hhi : 0xD800 ≤ hi ∧ hi ≤ 0xDBFF) (hlo : lo < 0x10000) (x : PyStr) :
    readEscaped (uEscape hi ++ (uEscape lo ++ x)) =
      some (CodePoint.ofNat (0x10000 + (hi - 0xD800) * 0x400 + (lo - 0xDC00)), x) := by
  simp [readEscaped, uEscape, backslash, readHexFrom_uEscape (show hi < 0x10000 by omega),
    readHexFrom_uEscape hlo, hhi]

theorem forall_ite_some_of {p : Prop} [Decidable p] {a : PyStr} {e : Option PyStr} {P : PyStr → Prop}
    (ha : p → P a) (he : ¬p → ∀ s, e = some s → P s) : ∀ s, (if p then some a else e) = some s → P s := by
  split
  · rintro s ⟨⟩; exact ha ‹_›
  · exact he ‹_›

theorem readEscaped_escapeDct (c : CodePoint) (x : PyStr) :
    ∀ s, escapeDct c = some s → readEscaped (s ++ x) = some (c, x) := by
  have ofNat_val : ∀ {v : Nat}, c.val = v → c = CodePoint.ofNat v := fun h => by
    subst h; exact Fin.ext (Nat.mod_eq_of_lt c.isLt).symm
  unfold escapeDct
  refine forall_ite_some_of (fun h => ?_) fun _ => forall_ite_some_of (fun h => ?_) fun _ =>
    forall_ite_some_of (fun h => ?_) fun _ => forall_ite_some_of (fun h => ?_) fun _ =>
    forall_ite_some_of (fun h => ?_) fun _ => forall_ite_some_of (fun h => ?_) fun _ =>
    forall_ite_some_of (fun h => ?_) fun _ => forall_ite_some_of (fun h => ?_) fun _ => ?_
  rotate_right
  · rintro s ⟨⟩
  rotate_right
  · rw [readEscaped_uEscape (by omega) (by omega)]
    exact congrArg (fun a => some (a, x)) (Fin.ext (Nat.mod_eq_of_lt c.isLt))
  all_goals rw [ofNat_val h]; rfl

theorem surrogateHigh_eq {n : Nat} (hn : n < 0x100000) :
    0xd800 ||| ((n >>> 10) &&& 0x3ff) = 0xD800 + n / 0x400 := by
  have hq : n / 2 ^ 10 < 2 ^ 10 := by rw [Nat.div_lt_iff_lt_mul (by decide)]; exact hn
  rw [Nat.shiftRight_eq_div_pow, show (0x3ff : Nat) = 2 ^ 10 - 1 from rfl, Nat.and_pow_two_sub_one_eq_mod,
    Nat.mod_eq_of_lt hq, show (0xd800 : Nat) = 2 ^ 10 * 54 from rfl, ← Nat.mul_add_lt_is_or hq]
  rfl

theorem surrogateLow_eq (n : Nat) : 0xdc00 ||| (n &&& 0x3ff) = 0xDC00 + n % 0x400 := by
  have hr : n % 2 ^ 10 < 2 ^ 10 := Nat.mod_lt _ (by decide)
  rw [show (0x3ff : Nat) = 2 ^ 10 - 1 from rfl, Nat.and_pow_two_sub_one_eq_mod,
    show (0xdc00 : Nat) = 2 ^ 10 * 55 from rfl, ← Nat.mul_add_lt_is_or hr]
  rfl

theorem readEscaped_escapeUnit {c : CodePoint} (hc : isSurrogate c = false) (x : PyStr) :
    readEscaped (escapeUnit c ++ x) = some (c, x) := by
  have hlt := c.isLt
  simp only [isSurrogate, Bool.and_eq_false_iff, decide_eq_false_iff_not, not_le] at hc
  unfold escapeUnit
  split
  · unfold replace
    split
    · exact readEscaped_escapeDct c x _ ‹_›
    · split
      · rw [readEscaped_uEscape ‹_› (by omega)]
        exact congrArg (fun a => some (a, x)) (Fin.ext (Nat.mod_eq_of_lt c.isLt))
      · rename_i hbig
        dsimp only
        rw [surrogateHigh_eq (by omega), surrogateLow_eq, List.append_assoc,
          readEscaped_pair (by omega) (by omega)]
        exact congrArg (fun a => some (a, x)) (Fin.ext (by simp; omega))
  · rename_i he
    have hb : c ≠ backslash := fun h => by simp [h, escapeAscii, backslash] at he
    simp [readEscaped, hb]

theorem escapeUnit_append_inj {c c' : CodePoint} {x y : PyStr} (hc : isSurrogate c = false)
    (hc' : isSurrogate c' = false) (h : escapeUnit c ++ x = escapeUnit c' ++ y) : c = c' ∧ x = y := by
  have hread := readEscaped_escapeUnit hc x
  rw [h, readEscaped_escapeUnit hc'] at hread
  obtain ⟨rfl, rfl⟩ := Prod.mk.inj (Option.some.inj hread)
  exact ⟨rfl, rfl⟩

theorem escapeUnit_head (c : CodePoint) : ∃ y t, escapeUnit c = y :: t ∧ y ≠ quote := by
  unfold escapeUnit
  split
  · have hreplace : ∃ t, replace c = backslash :: t := by
      unfold replace
      split
      · rename_i s hs
        revert s
        unfold escapeDct
        refine forall_ite_some ⟨_, rfl⟩ (forall_ite_some ⟨_, rfl⟩ (forall_ite_some ⟨_, rfl⟩
          (forall_ite_some ⟨_, rfl⟩ (forall_ite_some ⟨_, rfl⟩ (forall_ite_some ⟨_, rfl⟩
          (forall_ite_some ⟨_, rfl⟩ (forall_ite_some ⟨_, rfl⟩ ?_)))))))
        rintro s ⟨⟩
      · split <;> exact ⟨_, rfl⟩
    obtain ⟨t, ht⟩ := hreplace
    exact ⟨backslash, t, ht, by decide⟩
  · rename_i he
    exact ⟨c, [], rfl, fun h => by simp [h, escapeAscii, quote] at he⟩

theorem escapedBody_append_inj {s s' r r' : PyStr} (hs : ∀ c ∈ s, isSurrogate c = false)
    (hs' : ∀ c ∈ s', isSurrogate c = false)
    (h : s.flatMap escapeUnit ++ quote :: r = s'.flatMap escapeUnit ++ quote :: r') : s = s' ∧ r = r' := by
  induction s generalizing s' with
  | nil =>
    cases s' with
    | nil => exact ⟨rfl, (List.cons.inj h).2⟩
    | cons c' t' =>
      obtain ⟨y, t, he, hy⟩ := escapeUnit_head c'
      simp only [List.flatMap_nil, List.nil_append, List.flatMap_cons, he, List.cons_append,
        List.cons.injEq] at h
      exact absurd h.1.symm hy
  | cons c t ih =>
    cases s' with
    | nil =>
      obtain ⟨y, t, he, hy⟩ := escapeUnit_head c
      simp only [List.flatMap_nil, List.nil_append, List.flatMap_cons, he, List.cons_append,
        List.cons.injEq] at h
      exact absurd h.1 hy
    | cons c' t' =>
      simp only [List.flatMap_cons, List.append_assoc] at h
      obtain ⟨rfl, hrest⟩ := escapeUnit_append_inj (hs c (List.mem_cons_self _ _))
        (hs' c' (List.mem_cons_self _ _)) h
      obtain ⟨rfl, rfl⟩ := ih (fun x hx => hs x (List.mem_cons_of_mem _ hx))
        (fun x hx => hs' x (List.mem_cons_of_mem _ hx)) hrest
      exact ⟨rfl, rfl⟩

theorem encodeBasestringAscii_append_inj {s s' r r' : PyStr} (hs : ∀ c ∈ s, isSurrogate c = false)
    (hs' : ∀ c ∈ s', isSurrogate c = false)
    (h : encodeBasestringAscii s ++ r = encodeBasestringAscii s' ++ r') : s = s' ∧ r = r' := by
  simp only [encodeBasestringAscii_eq, List.cons_append, List.append_assoc, List.singleton_append,
    List.cons.injEq, true_and] at h
  exact escapedBody_append_inj hs hs' h

mutual
def JsonValue.surrogateFree : JsonValue → Bool
  | .str s => s.all fun c => !isSurrogate c
  | .array items => surrogateFreeItems items
  | .object members => surrogateFreeMembers members
  | _ => true

def surrogateFreeItems : List JsonValue → Bool
  | [] => true
  | j :: js => j.surrogateFree && surrogateFreeItems js

def surrogateFreeMembers : List (PyStr × JsonValue) → Bool
  | [] => true
  | (k, v) :: ms => (k.all fun c => !isSurrogate c) && v.surrogateFree && surrogateFreeMembers ms
end

theorem not_surrogate_of_all {s : PyStr} (h : (s.all fun c => !isSurrogate c) = true) :
    ∀ c ∈ s, isSurrogate c = false := by
  simpa using h

theorem head_dumps (v : JsonValue) :
    ∃ x t, dumps (pyStr ",") (pyStr ":") v = x :: t ∧ leadTag x = v.tag := by
  cases v with
  | null => exact ⟨_, _, rfl, rfl⟩
  | bool b => cases b <;> exact ⟨_, _, rfl, rfl⟩
  | int n =>
    obtain ⟨x, t, h⟩ := List.exists_cons_of_ne_nil (toString_int_ne_nil n)
    exact ⟨x, t, h, leadTag_toString_int (h ▸ List.mem_cons_self x t)⟩
  | str s => exact ⟨_, _, rfl, rfl⟩
  | array items => cases items <;> exact ⟨_, _, rfl, rfl⟩
  | object members => rcases members with _ | ⟨⟨k, v⟩, ms⟩ <;> exact ⟨_, _, rfl, rfl⟩

theorem tag_eq_of_dumps_append {v v' : JsonValue} {r r' : PyStr}
    (h : dumps (pyStr ",") (pyStr ":") v ++ r = dumps (pyStr ",") (pyStr ":") v' ++ r') : v.tag = v'.tag := by
  obtain ⟨x, t, hx, htx⟩ := head_dumps v
  obtain ⟨x', t', hx', htx'⟩ := head_dumps v'
  rw [hx, hx'] at h
  simp only [List.cons_append, List.cons.injEq] at h
  rw [← htx, ← htx', h.1]

theorem dumps_ne_delimiter (v : JsonValue) (t r : PyStr) (x : CodePoint) (hx : leadTag x = 7) :
    dumps (pyStr ",") (pyStr ":") v ++ r ≠ x :: t := fun h => by
  obtain ⟨y, u, hy, hty⟩ := head_dumps v
  rw [hy, List.cons_append, List.cons.injEq] at h
  rw [h.1, hx] at hty
  rcases v with _ | ⟨_ | _⟩ | _ | _ | _ | _ <;> simp [JsonValue.tag] at hty

theorem pyStr_comma : pyStr "," = [CodePoint.ofNat 0x2C] := rfl

theorem delim_dumpsItems (js : List JsonValue) (r : PyStr) :
    ∀ x ∈ (dumpsItems (pyStr ",") (pyStr ":") js ++ rbracket :: r).head?, leadTag x = 7 := by
  rcases js with _ | ⟨j, js⟩ <;> rintro x ⟨⟩ <;> rfl

theorem delim_dumpsMembers (ms : List (PyStr × JsonValue)) (r : PyStr) :
    ∀ x ∈ (dumpsMembers (pyStr ",") (pyStr ":") ms ++ rbrace :: r).head?, leadTag x = 7 := by
  rcases ms with _ | ⟨⟨k, w⟩, ms⟩ <;> rintro x ⟨⟩ <;> rfl

mutual
theorem dumps_append_inj : ∀ (v v' : JsonValue) {r r' : PyStr}, v.surrogateFree = true →
    v'.surrogateFree = true → (∀ x ∈ r.head?, leadTag x = 7) → (∀ x ∈ r'.head?, leadTag x = 7) →
    dumps (pyStr ",") (pyStr ":") v ++ r = dumps (pyStr ",") (pyStr ":") v' ++ r' → v = v' ∧ r = r'
  | .null, v', _, _, _, _, _, _, h | .bool true, v', _, _, _, _, _, _, h
  | .bool false, v', _, _, _, _, _, _, h => by
    have ht := tag_eq_of_dumps_append h
    rcases v' with _ | ⟨_ | _⟩ | _ | _ | _ | _ <;> simp [JsonValue.tag] at ht
    exact ⟨rfl, List.append_cancel_left h⟩
  | .int n, v', _, _, _, _, hr, hr', h => by
    have ht := tag_eq_of_dumps_append h
    rcases v' with _ | ⟨_ | _⟩ | m | _ | _ | _ <;> simp [JsonValue.tag] at ht
    obtain ⟨rfl, rfl⟩ := toString_append_inj hr hr' h
    exact ⟨rfl, rfl⟩
  | .str s, v', _, _, hv, hv', _, _, h => by
    have ht := tag_eq_of_dumps_append h
    rcases v' with _ | ⟨_ | _⟩ | _ | s' | _ | _ <;> simp [JsonValue.tag] at ht
    obtain ⟨rfl, rfl⟩ := encodeBasestringAscii_append_inj (not_surrogate_of_all hv)
      (not_surrogate_of_all hv') h
    exact ⟨rfl, rfl⟩
  | .array [], v', _, _, _, _, _, _, h => by
    have ht := tag_eq_of_dumps_append h
    rcases v' with _ | ⟨_ | _⟩ | _ | _ | ⟨_ | ⟨j', js'⟩⟩ | _ <;> simp [JsonValue.tag] at ht
    · exact ⟨rfl, List.append_cancel_left h⟩
    · simp only [dumps, List.cons_append, List.append_assoc, List.singleton_append, List.nil_append,
        List.cons.injEq, true_and] at h
      exact absurd h.symm (dumps_ne_delimiter j' _ _ rbracket rfl)
  | .array (j :: js), v', _, _, hv, hv', _, _, h => by
    have ht := tag_eq_of_dumps_append h
    rcases v' with _ | ⟨_ | _⟩ | _ | _ | ⟨_ | ⟨j', js'⟩⟩ | _ <;> simp [JsonValue.tag] at ht
    · simp only [dumps, List.cons_append, List.append_assoc, List.singleton_append, List.nil_append,
        List.cons.injEq, true_and] at h
      exact absurd h (dumps_ne_delimiter j _ _ rbracket rfl)
    · simp only [dumps, List.cons_append, List.append_assoc, List.singleton_append, List.nil_append,
        List.cons.injEq, true_and] at h
      simp only [JsonValue.surrogateFree, surrogateFreeItems, Bool.and_eq_true] at hv hv'
      obtain ⟨rfl, hrest⟩ := dumps_append_inj j j' hv.1 hv'.1 (delim_dumpsItems js _)
        (delim_dumpsItems js' _) h
      obtain ⟨rfl, rfl⟩ := dumpsItems_append_inj js js' hv.2 hv'.2 hrest
      exact ⟨rfl, rfl⟩
  | .object [], v', _, _, _, _, _, _, h => by
    have ht := tag_eq_of_dumps_append h
    rcases v' with _ | ⟨_ | _⟩ | _ | _ | _ | ⟨_ | ⟨⟨k', w'⟩, ms'⟩⟩ <;> simp [JsonValue.tag] at ht
    · exact ⟨rfl, List.append_cancel_left h⟩
    · simp only [dumps, encodeBasestringAscii_eq, List.cons_append, List.append_assoc,
        List.singleton_append, List.cons.injEq, true_and] at h
      exact absurd h.1 (by decide)
  | .object ((k, w) :: ms), v', _, _, hv, hv', _, _, h => by
    have ht := tag_eq_of_dumps_append h
    rcases v' with _ | ⟨_ | _⟩ | _ | _ | _ | ⟨_ | ⟨⟨k', w'⟩, ms'⟩⟩ <;> simp [JsonValue.tag] at ht
    · simp only [dumps, encodeBasestringAscii_eq, List.cons_append, List.append_assoc,
        List.singleton_append, List.cons.injEq, true_and] at h
      exact absurd h.1 (by decide)
    · simp only [dumps, List.cons_append, List.append_assoc, List.singleton_append, List.nil_append,
        List.cons.injEq, true_and] at h
      simp only [JsonValue.surrogateFree, surrogateFreeMembers, Bool.and_eq_true] at hv hv'
      obtain ⟨rfl, hkey⟩ := encodeBasestringAscii_append_inj (not_surrogate_of_all hv.1.1)
        (not_surrogate_of_all hv'.1.1) h
      obtain ⟨rfl, hrest⟩ := dumps_append_inj w w' hv.1.2 hv'.1.2 (delim_dumpsMembers ms _)
        (delim_dumpsMembers ms' _) (List.append_cancel_left hkey)
      obtain ⟨rfl, rfl⟩ := dumpsMembers_append_inj ms ms' hv.2 hv'.2 hrest
      exact ⟨rfl, rfl⟩

theorem dumpsItems_append_inj : ∀ (js js' : List JsonValue) {r r' : PyStr},
    surrogateFreeItems js = true → surrogateFreeItems js' = true →
    dumpsItems (pyStr ",") (pyStr ":") js ++ rbracket :: r =
      dumpsItems (pyStr ",") (pyStr ":") js' ++ rbracket :: r' → js = js' ∧ r = r'
  | [], [], _, _, _, _, h => ⟨rfl, (List.cons.inj h).2⟩
  | [], j' :: js', _, _, _, _, h => by
    simp only [dumpsItems, pyStr_comma, List.nil_append, List.cons_append, List.append_assoc,
      List.cons.injEq] at h
    exact absurd h.1 (by decide)
  | j :: js, [], _, _, _, _, h => by
    simp only [dumpsItems, pyStr_comma, List.nil_append, List.cons_append, List.append_assoc,
      List.cons.injEq] at h
    exact absurd h.1 (by decide)
  | j :: js, j' :: js', _, _, hv, hv', h => by
    simp only [dumpsItems, pyStr_comma, List.cons_append, List.nil_append, List.append_assoc,
      List.cons.injEq, true_and] at h
    simp only [surrogateFreeItems, Bool.and_eq_true] at hv hv'
    obtain ⟨rfl, hrest⟩ := dumps_append_inj j j' hv.1 hv'.1 (delim_dumpsItems js _)
      (delim_dumpsItems js' _) h
    obtain ⟨rfl, rfl⟩ := dumpsItems_append_inj js js' hv.2 hv'.2 hrest
    exact ⟨rfl, rfl⟩

theorem dumpsMembers_append_inj : ∀ (ms ms' : List (PyStr × JsonValue)) {r r' : PyStr},
    surrogateFreeMembers ms = true → surrogateFreeMembers ms' = true →
    dumpsMembers (pyStr ",") (pyStr ":") ms ++ rbrace :: r =
      dumpsMembers (pyStr ",") (pyStr ":") ms' ++ rbrace :: r' → ms = ms' ∧ r = r'
  | [], [], _, _, _, _, h => ⟨rfl, (List.cons.inj h).2⟩
  | [], (k', w') :: ms', _, _, _, _, h => by
    simp only [dumpsMembers, pyStr_comma, List.nil_append, List.cons_append, List.append_assoc,
      List.cons.injEq] at h
    exact absurd h.1 (by decide)
  | (k, w) :: ms, [], _, _, _, _, h => by
    simp only [dumpsMembers, pyStr_comma, List.nil_append, List.cons_append, List.append_assoc,
      List.cons.injEq] at h
    exact absurd h.1 (by decide)
  | (k, w) :: ms, (k', w') :: ms', _, _, hv, hv', h => by
    simp only [dumpsMembers, pyStr_comma, List.cons_append, List.nil_append, List.append_assoc,
      List.cons.injEq, true_and] at h
    simp only [surrogateFreeMembers, Bool.and_eq_true] at hv hv'
    obtain ⟨rfl, hkey⟩ := encodeBasestringAscii_append_inj (not_surrogate_of_all hv.1.1)
      (not_surrogate_of_all hv'.1.1) h
    obtain ⟨rfl, hrest⟩ := dumps_append_inj w w' hv.1.2 hv'.1.2 (delim_dumpsMembers ms _)
      (delim_dumpsMembers ms' _) (List.append_cancel_left hkey)
    obtain ⟨rfl, rfl⟩ := dumpsMembers_append_inj ms ms' hv.2 hv'.2 hrest
    exact ⟨rfl, rfl⟩
end

theorem dumps_compact_inj {v v' : JsonValue} (hv : v.surrogateFree = true)
    (hv' : v'.surrogateFree = true)
    (h : dumps (pyStr ",") (pyStr ":") v = dumps (pyStr ",") (pyStr ":") v') : v = v' :=
  (@dumps_append_inj v v' [] [] hv hv' (by simp) (by simp)
    (by rwa [List.append_nil, List.append_nil])).1

theorem asciiBytes_inj {s s' : PyStr} (hs : isAscii s) (hs' : isAscii s')
    (h : s.map (fun c => Byte.ofNat c.val) = s'.map fun c => Byte.ofNat c.val) : s = s' := by
  have decode : ∀ t : PyStr, isAscii t →
      (t.map fun c => Byte.ofNat c.val).map (fun b => CodePoint.ofNat b.val) = t := fun t ht => by
    rw [List.map_map]
    conv_rhs => rw [← List.map_id t]
    refine List.map_congr_left fun c hc => Fin.ext ?_
    have := isAscii_iff.mp ht c hc
    simp only [Function.comp_apply, CodePoint.val_ofNat, Byte.val_ofNat, id_eq]
    omega
  rw [← decode s hs, h, decode s' hs']

end HmacClient
