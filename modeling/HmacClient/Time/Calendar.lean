import HmacClient.Text.Format

namespace HmacClient

def isLeap (year : Nat) : Bool := year % 4 = 0 && (year % 100 ≠ 0 || year % 400 = 0)

def daysInMonth (year month : Nat) : Nat :=
  match month with
  | 2 => if isLeap year then 29 else 28
  | 4 | 6 | 9 | 11 => 30
  | _ => 31

def daysBeforeYear (year : Nat) : Nat :=
  let y := year - 1
  y * 365 + y / 4 - y / 100 + y / 400

def daysBeforeMonth (year month : Nat) : Nat :=
  let before := match month with
    | 2 => 31 | 3 => 59 | 4 => 90 | 5 => 120 | 6 => 151 | 7 => 181
    | 8 => 212 | 9 => 243 | 10 => 273 | 11 => 304 | 12 => 334 | _ => 0
  before + if month > 2 ∧ isLeap year then 1 else 0

def ymd2ord (year month day : Nat) : Nat := daysBeforeYear year + daysBeforeMonth year month + day

structure DateTime where
  year : Nat
  month : Nat
  day : Nat
  hour : Nat
  minute : Nat
  second : Nat
  microsecond : Nat
  deriving DecidableEq, Repr

def DateTime.Valid (t : DateTime) : Prop :=
  1 ≤ t.year ∧ t.year ≤ 9999 ∧ 1 ≤ t.month ∧ t.month ≤ 12 ∧ 1 ≤ t.day ∧
    t.day ≤ daysInMonth t.year t.month ∧ t.hour < 24 ∧ t.minute < 60 ∧ t.second < 60 ∧
    t.microsecond < 1000000

instance (t : DateTime) : Decidable t.Valid := inferInstanceAs (Decidable (_ ∧ _))

def DateTime.toordinal (t : DateTime) : Nat := ymd2ord t.year t.month t.day

def DateTime.micros (t : DateTime) : Nat :=
  ((t.toordinal * 86400 + t.hour * 3600 + t.minute * 60 + t.second) * 1000000) + t.microsecond

structure UtcInstant where
  dt : DateTime
  valid : dt.Valid

structure Aware where
  dt : DateTime
  utcoffset : Option Int
  deriving DecidableEq, Repr

def UtcInstant.toAware (t : UtcInstant) : Aware := ⟨t.dt, some 0⟩

def subtract (now : UtcInstant) (other : Aware) : Option Int :=
  other.utcoffset.map fun off => (now.dt.micros : Int) - other.dt.micros + off

theorem daysInMonth_le (year month : Nat) : daysInMonth year month ≤ 31 := by
  unfold daysInMonth; split <;> (try split_ifs) <;> omega

theorem daysBeforeMonth_le (year month : Nat) : daysBeforeMonth year month ≤ 335 := by
  simp only [daysBeforeMonth]; split <;> split_ifs <;> omega

theorem DateTime.micros_lt {t : DateTime} (h : t.Valid) : t.micros < 2 ^ 53 * 1000000 := by
  obtain ⟨-, hy, -, -, -, hd, hh, hm, hs, hu⟩ := h
  have hdm := daysInMonth_le t.year t.month
  have hbm := daysBeforeMonth_le t.year t.month
  simp only [DateTime.micros, DateTime.toordinal, ymd2ord, daysBeforeYear]
  omega

end HmacClient
