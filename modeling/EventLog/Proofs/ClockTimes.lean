import EventLog.Clock
import EventLog.Proofs.DecimalTime

/-!
# Clock times read back

What the time of a line says about its moment. A moment with a date is shown as a time of day in
hours, minutes, seconds and milliseconds (`Clock.Shows`), the one that the clocks of the zone have
whichever day it is, before 1970 as well as after. A moment without a date is shown as its plain
number. So the printed time gives back the moment, of a moment with a date up to whole days
(`Clock.render_read_back`).
-/

namespace EventLog.Clock

/-! ## Moments with a date -/

/-- The leap days from the beginning of year 1 to the end of a year. -/
def leapDays (year : Int) : Int := year / 4 - year / 100 + year / 400

def yearBegin (year : Int) : Int :=
  (365 * (year - 1970) + leapDays (year - 1) - leapDays 1969) * dayLength

/-- What it takes for a moment to have a date: it lies in one of the years from -262143 to
    262142. -/
structure HasDate (moment : Int) : Prop where
  begun : yearBegin (-262143) ≤ moment
  unfinished : moment < yearBegin (262142 + 1)

theorem inCalendar_iff {moment : Int} : inCalendar moment = true ↔ HasDate moment := by
  have first : yearBegin (-262143) = firstSecond * 1000 := by decide
  have last : yearBegin (262142 + 1) = (lastSecond + 1) * 1000 := by decide
  have seconds : moment.fdiv 1000 = moment / 1000 := Int.fdiv_eq_ediv_of_nonneg _ (by decide)
  rw [inCalendar, Bool.and_eq_true, decide_eq_true_iff, decide_eq_true_iff, seconds]
  constructor
  · rintro ⟨low, high⟩
    exact ⟨by omega, by omega⟩
  · rintro ⟨low, high⟩
    omega

instance (moment : Int) : Decidable (HasDate moment) := decidable_of_iff _ inCalendar_iff

/-! ## Numbers of a fixed width -/

/-- What it takes for a text to write a number with exactly `width` decimal digits. -/
structure Writes (width : Nat) (text : List Char) (n : Nat) : Prop where
  length : text.length = width
  digits : ∀ c ∈ text, c.isDigit = true
  value : Number.readDigits 0 text = n

theorem readDigits_zeros (count : Nat) : Number.readDigits 0 (List.replicate count '0') = 0 := by
  induction count with
  | zero => rfl
  | succ count ih => exact ih

theorem writes_pad {width n : Nat} (wide : 0 < width) (fits : n < Nat.pow 10 width) :
    Writes width (pad width n) n where
  length := by
    have short := (Nat.length_toDigits_le_iff (by decide) wide).mpr fits
    rw [pad, List.length_append, List.length_replicate]
    omega
  digits := by
    intro c present
    obtain zero | digit := List.mem_append.mp present
    · rw [List.eq_of_mem_replicate zero]
      rfl
    · exact Nat.isDigit_of_mem_toDigits (by decide) (by decide) digit
  value := by
    rw [pad, Number.readDigits_append, readDigits_zeros, Number.readDigits_toDigits]

theorem Writes.eq {width : Nat} {text : List Char} {n m : Nat} (one : Writes width text n)
    (other : Writes width text m) : n = m :=
  one.value.symm.trans other.value

/-! ## Times of day -/

/-- A time of day. -/
@[ext]
structure TimeOfDay where
  hours : Nat
  minutes : Nat
  seconds : Nat
  millis : Nat
  hours_lt : hours < 24 := by omega
  minutes_lt : minutes < 60 := by omega
  seconds_lt : seconds < 60 := by omega
  millis_lt : millis < 1000 := by omega

namespace TimeOfDay

def sinceMidnight (time : TimeOfDay) : Nat :=
  ((time.hours * 60 + time.minutes) * 60 + time.seconds) * 1000 + time.millis

/-- The time of day so many milliseconds after midnight. -/
def ofMillis (millis : Nat) (within : millis < 86400000) : TimeOfDay where
  hours := millis / 3600000
  minutes := millis / 60000 % 60
  seconds := millis / 1000 % 60
  millis := millis % 1000

theorem sinceMidnight_ofMillis {millis : Nat} (within : millis < 86400000) :
    (ofMillis millis within).sinceMidnight = millis := by
  simp only [sinceMidnight, ofMillis]
  omega

end TimeOfDay

/-- What it takes for a text to show a time of day, as HH:MM:SS.mmm. -/
def Shows (text : String) (time : TimeOfDay) : Prop :=
  ∃ hours minutes seconds millis,
    text.toList = hours ++ ':' :: minutes ++ ':' :: seconds ++ '.' :: millis ∧
    Writes 2 hours time.hours ∧ Writes 2 minutes time.minutes ∧ Writes 2 seconds time.seconds ∧
    Writes 3 millis time.millis

theorem Shows.length {text : String} {time : TimeOfDay} (shows : Shows text time) :
    text.length = 12 := by
  obtain ⟨hours, minutes, seconds, millis, parted, one, two, three, four⟩ := shows
  rw [← String.length_toList, parted]
  simp [one.length, two.length, three.length, four.length]

/-- A text shows one time of day. -/
theorem Shows.eq {text : String} {time other : TimeOfDay} (shows : Shows text time)
    (alsoShows : Shows text other) : time = other := by
  obtain ⟨_, _, _, _, parted, hours, minutes, seconds, millis⟩ := shows
  obtain ⟨_, _, _, _, alsoParted, hours', minutes', seconds', millis'⟩ := alsoShows
  rw [parted] at alsoParted
  obtain ⟨front, sameMillis⟩ := List.append_inj' alsoParted
    (by simp [millis.length, millis'.length])
  obtain ⟨front, sameSeconds⟩ := List.append_inj' front
    (by simp [seconds.length, seconds'.length])
  obtain ⟨rfl, sameMinutes⟩ := List.append_inj' front
    (by simp [minutes.length, minutes'.length])
  cases sameMillis
  cases sameSeconds
  cases sameMinutes
  exact TimeOfDay.ext (hours.eq hours') (minutes.eq minutes') (seconds.eq seconds')
    (millis.eq millis')

theorem shows_timeOfDay {millis : Nat} (within : millis < 86400000) :
    Shows (String.ofList (timeOfDay millis)) (.ofMillis millis within) := by
  have pair : Nat.pow 10 2 = 100 := rfl
  have triple : Nat.pow 10 3 = 1000 := rfl
  refine ⟨_, _, _, _, ?_, writes_pad (by decide) ?_, writes_pad (by decide) ?_,
    writes_pad (by decide) ?_, writes_pad (by decide) ?_⟩
  · simp [timeOfDay, TimeOfDay.ofMillis]
  all_goals
    simp only [TimeOfDay.ofMillis, pair, triple]
    omega

/-! ## Moments -/

theorem render_of_hasDate {moment : Int} (dated : HasDate moment) (offset : Int) :
    render offset moment =
      String.ofList (timeOfDay ((moment + offset) % dayLength).toNat) := by
  have remainder : (moment + offset).fmod dayLength = (moment + offset) % dayLength :=
    Int.fmod_eq_emod_of_nonneg _ (by decide)
  rw [render, if_pos (inCalendar_iff.mpr dated), remainder]

theorem render_of_not_hasDate {moment : Int} (undated : ¬HasDate moment) (offset : Int) :
    render offset moment = toString moment :=
  if_neg (mt inCalendar_iff.mp undated)

/-- A moment with a date is shown as the time of its day in the zone. -/
theorem exists_shows_render {moment : Int} (dated : HasDate moment) (offset : Int) :
    ∃ time, Shows (render offset moment) time ∧
      (time.sinceMidnight : Int) = (moment + offset) % dayLength := by
  have positive : 0 ≤ (moment + offset) % dayLength := Int.emod_nonneg _ (by decide)
  have below : (moment + offset) % dayLength < dayLength := Int.emod_lt_of_pos _ (by decide)
  have day : dayLength = 86400000 := rfl
  have within : ((moment + offset) % dayLength).toNat < 86400000 := by omega
  refine ⟨.ofMillis _ within, ?_, ?_⟩
  · rw [render_of_hasDate dated]
    exact shows_timeOfDay within
  · rw [TimeOfDay.sinceMidnight_ofMillis within]
    exact Int.toNat_of_nonneg positive

/-- Moments with a date are shown alike exactly if they are whole days apart. -/
theorem render_eq_iff {moment other : Int} (dated : HasDate moment) (alsoDated : HasDate other)
    (offset : Int) :
    render offset moment = render offset other ↔ ∃ days, other = moment + days * dayLength := by
  have day : dayLength = 86400000 := rfl
  constructor
  · intro same
    obtain ⟨time, shows, value⟩ := exists_shows_render dated offset
    obtain ⟨otherTime, alsoShows, otherValue⟩ := exists_shows_render alsoDated offset
    obtain rfl := shows.eq (same ▸ alsoShows)
    have remainder : (moment + offset) % dayLength = (other + offset) % dayLength :=
      value.symm.trans otherValue
    refine ⟨(other + offset) / dayLength - (moment + offset) / dayLength, ?_⟩
    simp only [day] at remainder ⊢
    omega
  · rintro ⟨days, rfl⟩
    rw [render_of_hasDate dated, render_of_hasDate alsoDated, Int.add_right_comm,
      Int.add_mul_emod_self_right]

/-- A printed time is right for every moment that 64 bits hold, before 1970 as well as after, in
    every zone. A moment with a date is printed as the twelve characters of a time of day that
    gives back its remainder by whole days, so that two such moments are printed alike exactly if
    they are whole days apart. Any other moment is printed as a plain number that reads back. -/
theorem render_read_back (offset : Int) :
    (∀ moment : Int64, HasDate moment.toInt →
      (render offset moment.toInt).length = 12 ∧
      ∃ time, Shows (render offset moment.toInt) time ∧
        (time.sinceMidnight : Int) = (moment.toInt + offset) % dayLength) ∧
    (∀ moment : Int64, ¬HasDate moment.toInt →
      render offset moment.toInt = toString moment.toInt ∧
      Number.readInt64 (render offset moment.toInt).toList = .ok moment) ∧
    ∀ moment other : Int64, HasDate moment.toInt → HasDate other.toInt →
      (render offset moment.toInt = render offset other.toInt ↔
        ∃ days, other.toInt = moment.toInt + days * dayLength) := by
  refine ⟨fun moment dated => ?_, fun moment undated => ?_, fun moment other dated alsoDated => ?_⟩
  · obtain ⟨time, shows, value⟩ := exists_shows_render dated offset
    exact ⟨shows.length, time, shows, value⟩
  · rw [render_of_not_hasDate undated]
    exact ⟨rfl, Number.readInt64_toString moment⟩
  · exact render_eq_iff dated alsoDated offset

/-- In a zone five and a half hours ahead, the last moment with a date is shown as a time of the
    next day, the moment after it as its number, and moments before and after the beginning of 1970
    alike. -/
theorem render_read_back_of_ends :
    let last : Int64 := 8210266876799999
    let early : Int64 := -19800001
    HasDate last.toInt ∧ ¬HasDate (last + 1).toInt ∧ HasDate early.toInt ∧
      HasDate (early + 86400000).toInt ∧
      (∃ time, Shows (render 19800000 last.toInt) time ∧ (time.sinceMidnight : Int) = 19799999) ∧
      Number.readInt64 (render 19800000 (last + 1).toInt).toList = .ok (last + 1) ∧
      render 19800000 early.toInt = render 19800000 (early + 86400000).toInt := by
  intro last early
  obtain ⟨dated, undated, alike⟩ := render_read_back 19800000
  have lastDated : HasDate last.toInt := by decide
  have beyond : ¬HasDate (last + 1).toInt := by decide
  have earlyDated : HasDate early.toInt := by decide
  have lateDated : HasDate (early + 86400000).toInt := by decide
  obtain ⟨_, time, shows, value⟩ := dated last lastDated
  have remainder : (last.toInt + 19800000) % dayLength = 19799999 := by decide
  exact ⟨lastDated, beyond, earlyDated, lateDated, ⟨time, shows, value.trans remainder⟩,
    (undated (last + 1) beyond).2, (alike early _ earlyDated lateDated).mpr ⟨1, by decide⟩⟩

example :
    render 19800000 8210266876799999 = "05:29:59.999" ∧ render 0 (-1) = "23:59:59.999" ∧
      render 0 8210266876800000 = "8210266876800000" := by
  decide +kernel

end EventLog.Clock
