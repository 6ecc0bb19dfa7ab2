/-!
# Calendar dates

Dates of the proleptic Gregorian calendar, with a year zero before the year one.

* `Date` holds only days that exist, in the years from -262143 to 262142.
* `Date.rank` numbers dates in order of time; `≤` and `<` on dates compare ranks
  (`Date.lt_iff`, `Date.le_iff`), and `Date.rank_inj` makes the order total.
-/

namespace MoveRating

namespace Calendar

/-- The first year of the calendar. -/
def firstYear : Int := -262143

/-- The last year of the calendar. -/
def lastYear : Int := 262142

/-- Every fourth year is a leap year, but of the full centuries only every fourth. -/
def IsLeap (year : Int) : Prop := year % 4 = 0 ∧ (year % 100 ≠ 0 ∨ year % 400 = 0)

instance (year : Int) : Decidable (IsLeap year) := by unfold IsLeap; infer_instance

/-- The number of days in a month. -/
def daysIn (year : Int) (month : Nat) : Nat :=
  match month with
  | 2 => if IsLeap year then 29 else 28
  | 4 | 6 | 9 | 11 => 30
  | _ => 31

theorem daysIn_le (year : Int) (month : Nat) : daysIn year month ≤ 31 := by
  unfold daysIn
  split <;> (try split) <;> omega

/-- The year, month and day of a day that exists. -/
structure IsDay (year : Int) (month day : Nat) : Prop where
  first_le : firstYear ≤ year
  le_last : year ≤ lastYear
  month_pos : 1 ≤ month
  month_le : month ≤ 12
  day_pos : 1 ≤ day
  day_le : day ≤ daysIn year month

instance (year : Int) (month day : Nat) : Decidable (IsDay year month day) :=
  decidable_of_iff (firstYear ≤ year ∧ year ≤ lastYear ∧ 1 ≤ month ∧ month ≤ 12 ∧ 1 ≤ day ∧
      day ≤ daysIn year month)
    ⟨fun ⟨a, b, c, d, e, f⟩ => ⟨a, b, c, d, e, f⟩, fun ⟨a, b, c, d, e, f⟩ => ⟨a, b, c, d, e, f⟩⟩

end Calendar

/-- A day of the calendar. -/
structure Date where
  /-- The year; the year before the year 1 is 0. -/
  year : Int
  /-- The month, from 1 to 12. -/
  month : Nat
  /-- The day of the month, from 1. -/
  day : Nat
  /-- The day exists. -/
  isDay : Calendar.IsDay year month day
deriving DecidableEq, Repr

namespace Date

/-- The date with the given year, month and day, if there is such a day. -/
def ofFields? (year : Int) (month day : Nat) : Option Date :=
  if h : Calendar.IsDay year month day then some ⟨year, month, day, h⟩ else none

theorem ofFields?_eq_some_iff {year : Int} {month day : Nat} {d : Date} :
    ofFields? year month day = some d ↔ d.year = year ∧ d.month = month ∧ d.day = day := by
  unfold ofFields?
  split
  · obtain ⟨y, m, k, hd⟩ := d
    simp only [Option.some.injEq, Date.mk.injEq]
    exact ⟨fun ⟨a, b, c⟩ => ⟨a.symm, b.symm, c.symm⟩, fun ⟨a, b, c⟩ => ⟨a.symm, b.symm, c.symm⟩⟩
  · next h =>
    refine ⟨nofun, ?_⟩
    rintro ⟨rfl, rfl, rfl⟩
    exact absurd d.isDay h

theorem month_lt (d : Date) : d.month < 16 := by have := d.isDay.month_le; omega

theorem day_lt (d : Date) : d.day < 32 := by
  have := d.isDay.day_le
  have := Calendar.daysIn_le d.year d.month
  omega

/-- A number that grows with time, so that later dates have larger ranks. -/
def rank (d : Date) : Int := (d.year * 16 + d.month) * 32 + d.day

/-- Different dates have different ranks. -/
theorem rank_inj {a b : Date} : a.rank = b.rank ↔ a = b := by
  refine ⟨fun h => ?_, fun h => h ▸ rfl⟩
  have ha := a.month_lt
  have hb := b.month_lt
  have ha' := a.day_lt
  have hb' := b.day_lt
  unfold rank at h
  obtain ⟨ya, ma, da, _⟩ := a
  obtain ⟨yb, mb, db, _⟩ := b
  simp only at *
  have hy : ya = yb := by omega
  have hm : ma = mb := by omega
  have hd : da = db := by omega
  subst hy hm hd
  rfl

instance : LT Date := ⟨fun a b => a.rank < b.rank⟩

instance : LE Date := ⟨fun a b => a.rank ≤ b.rank⟩

theorem lt_iff {a b : Date} : a < b ↔ a.rank < b.rank := Iff.rfl

theorem le_iff {a b : Date} : a ≤ b ↔ a.rank ≤ b.rank := Iff.rfl

instance (a b : Date) : Decidable (a < b) := inferInstanceAs (Decidable (a.rank < b.rank))

instance (a b : Date) : Decidable (a ≤ b) := inferInstanceAs (Decidable (a.rank ≤ b.rank))

end Date

end MoveRating
