import HmacClient.Time.Calendar

namespace HmacClient

def plus : CodePoint := CodePoint.ofNat 0x2B

def minus : CodePoint := CodePoint.ofNat 0x2D

def dot : CodePoint := CodePoint.ofNat 0x2E

def letterZ : CodePoint := CodePoint.ofNat 0x5A

def formatDate (t : DateTime) : PyStr :=
  formatPadded 10 4 t.year ++ minus :: formatPadded 10 2 t.month ++ minus :: formatPadded 10 2 t.day

def formatTime (t : DateTime) : PyStr :=
  formatPadded 10 2 t.hour ++ colon :: formatPadded 10 2 t.minute ++ colon :: formatPadded 10 2 t.second
    ++ if t.microsecond = 0 then [] else dot :: formatPadded 10 6 t.microsecond

def isoformat (t : UtcInstant) : PyStr :=
  formatDate t.dt ++ CodePoint.ofNat 0x54 :: (formatTime t.dt ++ pyStr "+00:00")

theorem pyStr_utcSuffix :
    pyStr "+00:00" = [plus, digitChar 0, digitChar 0, colon, digitChar 0, digitChar 0] := rfl

def replaceZ (s : PyStr) : PyStr := s.flatMap fun c => if c = letterZ then pyStr "+00:00" else [c]

def expect (c : CodePoint) : PyStr → Option PyStr
  | c' :: s => if c' = c then some s else none
  | [] => none

def parseIsoformatDate (s : PyStr) : Option (Nat × Nat × Nat) := do
  let (year, s) ← parseDigits 4 s
  let s ← expect minus s
  let (month, s) ← parseDigits 2 s
  let s ← expect minus s
  let (day, s) ← parseDigits 2 s
  if s.isEmpty then pure (year, month, day) else none

def parseFraction (s : PyStr) : Option Nat :=
  if s.length = 6 then (parseDigits 6 s).map (·.1)
  else if s.length = 3 then (parseDigits 3 s).map (·.1 * 1000)
  else none

def parseHhMmSsFf (s : PyStr) : Option (Nat × Nat × Nat × Nat) := do
  let (hour, s) ← parseDigits 2 s
  if s.isEmpty then return (hour, 0, 0, 0)
  let s ← expect colon s
  let (minute, s) ← parseDigits 2 s
  if s.isEmpty then return (hour, minute, 0, 0)
  let s ← expect colon s
  let (second, s) ← parseDigits 2 s
  if s.isEmpty then return (hour, minute, second, 0)
  let s ← expect dot s
  let microsecond ← parseFraction s
  return (hour, minute, second, microsecond)

def tzPosition (s : PyStr) : Option Nat := s.findIdx? (· = minus) <|> s.findIdx? (· = plus)

def parseIsoformatTime (s : PyStr) : Option (Nat × Nat × Nat × Nat × Option Int) :=
  match tzPosition s with
  | none => (parseHhMmSsFf s).map fun (h, m, sec, us) => (h, m, sec, us, none)
  | some i => do
    let (h, m, sec, us) ← parseHhMmSsFf (s.take i)
    let tzstr := s.drop (i + 1)
    if tzstr.length ∉ [5, 8, 15] then none
    let (th, tm, ts, tus) ← parseHhMmSsFf tzstr
    let magnitude : Int := ((th * 60 + tm) * 60 + ts) * 1000000 + tus
    if 86400000000 ≤ magnitude then none
    let sign : Int := if s.get? i = some minus then -1 else 1
    pure (h, m, sec, us, some (sign * magnitude))

def fromisoformat (s : PyStr) : Option Aware := do
  let (year, month, day) ← parseIsoformatDate (s.take 10)
  let tstr := s.drop 11
  let (hour, minute, second, microsecond, utcoffset) ←
    if tstr.isEmpty then some (0, 0, 0, 0, none) else parseIsoformatTime tstr
  let dt : DateTime := ⟨year, month, day, hour, minute, second, microsecond⟩
  if dt.Valid then some ⟨dt, utcoffset⟩ else none

example : fromisoformat (pyStr "2000-01-01T00:00:00+00:00") =
    some ⟨⟨2000, 1, 1, 0, 0, 0, 0⟩, some 0⟩ := by decide
example : fromisoformat (pyStr "2000-01-01T00:00:00.5+00:00") = none := by decide
example : fromisoformat (pyStr "2000-01-01T10:20:30.123-01:30") =
    some ⟨⟨2000, 1, 1, 10, 20, 30, 123000⟩, some (-5400000000)⟩ := by decide

theorem length_formatPadded (base w n : Nat) : (formatPadded base w n).length = w := by
  induction w <;> simp_all [formatPadded, padDigits]

theorem val_of_mem_formatPadded {w n : Nat} {c : CodePoint} (h : c ∈ formatPadded 10 w n) :
    0x30 ≤ c.val ∧ c.val ≤ 0x39 := by
  obtain ⟨d, hd, rfl⟩ := mem_formatPadded (by decide) h
  rw [digitChar_val (by omega), if_pos hd]
  omega

theorem val_of_mem_formatTime {t : DateTime} {c : CodePoint} (h : c ∈ formatTime t) :
    c.val = 0x2E ∨ 0x30 ≤ c.val ∧ c.val ≤ 0x3A := by
  have digit : ∀ {w n}, c ∈ formatPadded 10 w n → c.val = 0x2E ∨ 0x30 ≤ c.val ∧ c.val ≤ 0x3A :=
    fun h => .inr (by have := val_of_mem_formatPadded h; omega)
  simp only [formatTime, List.mem_append, List.mem_cons, or_assoc] at h
  rcases h with h | rfl | h | rfl | h | h
  · exact digit h
  · exact .inr (by decide)
  · exact digit h
  · exact .inr (by decide)
  · exact digit h
  · split_ifs at h
    · simp at h
    · rcases List.mem_cons.mp h with rfl | h
      · exact .inl (by decide)
      · exact digit h

theorem val_of_mem_formatDate {t : DateTime} {c : CodePoint} (h : c ∈ formatDate t) :
    c.val = 0x2D ∨ 0x30 ≤ c.val ∧ c.val ≤ 0x39 := by
  simp only [formatDate, List.mem_append, List.mem_cons, or_assoc] at h
  rcases h with h | rfl | h | rfl | h
  all_goals first | exact .inl (by decide) | exact .inr (val_of_mem_formatPadded h)

theorem val_of_mem_isoformat {t : UtcInstant} {c : CodePoint} (h : c ∈ isoformat t) :
    c.val = 0x54 ∨ 0x2B ≤ c.val ∧ c.val ≤ 0x3A := by
  simp only [isoformat, List.mem_append, List.mem_cons, or_assoc] at h
  rcases h with h | rfl | h | h
  · have := val_of_mem_formatDate h; omega
  · exact .inl (by decide)
  · have := val_of_mem_formatTime h; omega
  · simp only [pyStr_utcSuffix, List.mem_cons, List.not_mem_nil, or_false] at h
    rcases h with rfl | rfl | rfl | rfl | rfl | rfl <;> decide

theorem isAscii_isoformat (t : UtcInstant) : isAscii (isoformat t) :=
  isAscii_iff.mpr fun _ h => by have := val_of_mem_isoformat h; omega

theorem replaceZ_of_not_mem {s : PyStr} (h : letterZ ∉ s) : replaceZ s = s := by
  induction s with
  | nil => rfl
  | cons c s ih =>
    simp only [List.mem_cons, not_or] at h
    simp [replaceZ, List.flatMap_cons, Ne.symm h.1] at ih ⊢
    exact ih h.2

theorem replaceZ_isoformat (t : UtcInstant) : replaceZ (isoformat t) = isoformat t :=
  replaceZ_of_not_mem fun h => by
    have := val_of_mem_isoformat h
    simp only [letterZ, CodePoint.val_ofNat] at this
    omega

theorem parseDigits_formatPadded_nil {w n : Nat} (h : n < 10 ^ w) :
    parseDigits w (formatPadded 10 w n) = some (n, []) := by
  simpa using parseDigits_formatPadded h []

theorem expect_cons (c : CodePoint) (s : PyStr) : expect c (c :: s) = some s := by
  simp [expect]

theorem parseIsoformatDate_formatDate {t : DateTime} (h : t.Valid) :
    parseIsoformatDate (formatDate t) = some (t.year, t.month, t.day) := by
  obtain ⟨-, hy, -, hm, -, hd, -⟩ := h
  have := daysInMonth_le t.year t.month
  simp [parseIsoformatDate, formatDate, parseDigits_formatPadded (show t.year < 10 ^ 4 by omega),
    parseDigits_formatPadded (show t.month < 10 ^ 2 by omega),
    parseDigits_formatPadded_nil (show t.day < 10 ^ 2 by omega), expect_cons]

theorem parseHhMmSsFf_formatTime {t : DateTime} (h : t.Valid) :
    parseHhMmSsFf (formatTime t) = some (t.hour, t.minute, t.second, t.microsecond) := by
  obtain ⟨-, -, -, -, -, -, hh, hm, hs, hu⟩ := h
  have h2 : ∀ {n}, n < 60 → n < 10 ^ 2 := fun h => by omega
  by_cases hz : t.microsecond = 0
  · simp [parseHhMmSsFf, formatTime, hz, parseDigits_formatPadded (h2 (by omega : t.hour < 60)),
      parseDigits_formatPadded (h2 hm), parseDigits_formatPadded_nil (h2 hs), expect_cons]
  · simp [parseHhMmSsFf, formatTime, hz, parseDigits_formatPadded (h2 (by omega : t.hour < 60)),
      parseDigits_formatPadded (h2 hm), parseDigits_formatPadded (h2 hs), expect_cons,
      parseFraction, length_formatPadded, parseDigits_formatPadded_nil (show t.microsecond < 10 ^ 6 by omega)]

theorem tzPosition_formatTime (t : DateTime) :
    tzPosition (formatTime t ++ pyStr "+00:00") = some (formatTime t).length := by
  have absent : ∀ v, v ≠ 0x2E → v < 0x30 → (formatTime t).findIdx? (·.val = v) = none :=
    fun v h1 h2 => List.findIdx?_eq_none_iff.mpr fun c hc => by
      have := val_of_mem_formatTime hc
      simp only [decide_eq_false_iff_not]; omega
  have hminus : (formatTime t).findIdx? (· = minus) = none := by
    simpa [Fin.ext_iff, minus] using absent 0x2D (by decide) (by decide)
  have hplus : (formatTime t).findIdx? (· = plus) = none := by
    simpa [Fin.ext_iff, plus] using absent 0x2B (by decide) (by decide)
  have sminus : (pyStr "+00:00").findIdx? (· = minus) = none := by decide
  have splus : (pyStr "+00:00").findIdx? (· = plus) = some 0 := by decide
  simp [tzPosition, List.findIdx?_append, hminus, hplus, sminus, splus]

theorem parseIsoformatTime_formatTime {t : DateTime} (h : t.Valid) :
    parseIsoformatTime (formatTime t ++ pyStr "+00:00") =
      some (t.hour, t.minute, t.second, t.microsecond, some 0) := by
  have hdrop : (formatTime t ++ pyStr "+00:00").drop ((formatTime t).length + 1) = pyStr "00:00" := by
    rw [← List.drop_drop, List.drop_left' rfl]; rfl
  have hget : (formatTime t ++ pyStr "+00:00").get? (formatTime t).length = some plus := by
    rw [List.get?_eq_getElem?, List.getElem?_append_right (le_refl _), Nat.sub_self]; rfl
  have hzero : parseHhMmSsFf (pyStr "00:00") = some (0, 0, 0, 0) := by decide
  rw [parseIsoformatTime, tzPosition_formatTime]
  simp only [List.take_left' rfl, hdrop, hget, parseHhMmSsFf_formatTime h, hzero]
  simp [show (pyStr "00:00").length = 5 from rfl, show plus ≠ minus by decide]

theorem fromisoformat_isoformat (t : UtcInstant) : fromisoformat (isoformat t) = some t.toAware := by
  have hlen : (formatDate t.dt).length = 10 := by simp [formatDate, length_formatPadded]
  have htake : (isoformat t).take 10 = formatDate t.dt := List.take_left' hlen
  have hdrop : (isoformat t).drop 11 = formatTime t.dt ++ pyStr "+00:00" := by
    rw [isoformat, show 11 = 10 + 1 from rfl, ← List.drop_drop, List.drop_left' hlen]; rfl
  have hne : (formatTime t.dt ++ pyStr "+00:00").isEmpty = false := by simp [pyStr_utcSuffix]
  have heta : (⟨t.dt.year, t.dt.month, t.dt.day, t.dt.hour, t.dt.minute, t.dt.second,
    t.dt.microsecond⟩ : DateTime) = t.dt := rfl
  simp only [fromisoformat, htake, hdrop, hne, parseIsoformatDate_formatDate t.valid,
    parseIsoformatTime_formatTime t.valid, Option.bind_eq_bind, Option.some_bind,
    Bool.false_eq_true, if_false, heta, if_pos t.valid, UtcInstant.toAware]

end HmacClient
