import HmacClient.Client.Sign

namespace HmacClient

theorem parseIsoformatTime_offset {s : PyStr} {r : Nat × Nat × Nat × Nat × Option Int}
    (h : parseIsoformatTime s = some r) : ∀ off ∈ r.2.2.2.2, off.natAbs < 86400000000 := by
  unfold parseIsoformatTime at h
  split at h
  · obtain ⟨_, -, rfl⟩ := Option.map_eq_some'.mp h
    simp
  · obtain ⟨⟨hh, mm, ss, us⟩, -, h⟩ := Option.bind_eq_some.mp h
    dsimp only at h
    split at h
    · simp at h
    simp only [Option.pure_def, Option.bind_eq_bind, Option.some_bind] at h
    obtain ⟨⟨th, tm, ts, tus⟩, -, h⟩ := Option.bind_eq_some.mp h
    dsimp only at h
    split at h
    · simp at h
    simp only [Option.pure_def, Option.bind_eq_bind, Option.some_bind, Option.some.injEq] at h
    subst h
    rintro off ⟨⟩
    split <;> omega

theorem fromisoformat_wellFormed {s : PyStr} {a : Aware} (h : fromisoformat s = some a) :
    a.dt.Valid ∧ ∀ off ∈ a.utcoffset, off.natAbs < 86400000000 := by
  unfold fromisoformat at h
  obtain ⟨⟨year, month, day⟩, -, h⟩ := Option.bind_eq_some.mp h
  dsimp only at h
  split at h
  · simp only [Option.bind_eq_bind, Option.some_bind] at h
    split at h
    · cases h
      exact ⟨‹_›, by simp⟩
    · cases h
  · obtain ⟨⟨hour, minute, second, us, off⟩, ht, h⟩ := Option.bind_eq_some.mp h
    dsimp only at h
    split at h
    · cases h
      exact ⟨‹_›, parseIsoformatTime_offset ht⟩
    · cases h

theorem DateTime.micros_lt_half {t : DateTime} (h : t.Valid) : t.micros < 2 ^ 52 * 1000000 := by
  obtain ⟨-, hy, -, -, -, hd, hh, hm, hs, hu⟩ := h
  have hdm := daysInMonth_le t.year t.month
  have hbm := daysBeforeMonth_le t.year t.month
  simp only [DateTime.micros, DateTime.toordinal, ymd2ord, daysBeforeYear]
  omega

section
variable (H : Hash) (c : HMACClient)

theorem verifyTimestamp_result_eq_true_iff (hK : c.config.keyInterval < 2 ^ 34) (clock : UtcInstant)
    (timestamp : PyStr) :
    (verifyTimestamp c clock timestamp).result = .ok true ↔
      ∃ dt off, fromisoformat (replaceZ timestamp) = some ⟨dt, some off⟩ ∧
        (((clock.dt.micros : Int) - dt.micros + off).natAbs : Int) ≤ c.config.keyInterval * 1000000 := by
  rw [verifyTimestamp_eq]
  rcases hp : fromisoformat (replaceZ timestamp) with _ | ⟨dt, _ | off⟩
  · simp
  · simp [subtract]
  · obtain ⟨hv, hoff⟩ := fromisoformat_wellFormed hp
    have hbound : ((clock.dt.micros : Int) - dt.micros + off).natAbs < 2 ^ 53 * 1000000 := by
      have := hoff off rfl
      have := clock.dt.micros_lt_half clock.valid
      have := dt.micros_lt_half hv
      omega
    simp [subtract, and_assoc, leInt_absTotalSeconds (le_of_lt c.valid.2.1) hK hbound]

end

end HmacClient
