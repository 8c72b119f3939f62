import TypeDraft.Proofs.Except
import TypeDraft.Proofs.Json.Lexemes
import TypeDraft.Schema.Pattern

/-!
# Dates as they are written

The parts of a written date or date-time, what they say, and the texts that are made of such parts.
A text is a date just if its parts name a day of the calendar, a time of day and a distance from
universal time.
-/

namespace TypeDraft

/-- A run of `n` decimal digits. -/
structure Digits (n : Nat) where
  chars : List Char
  length_eq : chars.length = n
  isDigit : ∀ c ∈ chars, c.isDigit = true

def Digits.value {n : Nat} (ds : Digits n) : Nat := Numeral.digitsValue ds.chars

/-- What stands behind a time of day: nothing, the letter for universal time, or a distance from
it. -/
inductive IsoZone where
  | unstated
  | universal
  | distance (isNegative : Bool) (hours minutes : Digits 2)

namespace IsoZone

def chars : IsoZone → List Char
  | unstated => []
  | universal => ['Z']
  | distance isNegative hours minutes =>
    (if isNegative then '-' else '+') :: (hours.chars ++ ':' :: minutes.chars)

def offset : IsoZone → Except CalendarError (Option Offset)
  | unstated => .ok none
  | universal => (Offset.ofMinutes 0).map some
  | distance isNegative hours minutes =>
    let length : Int := (hours.value * 60 + minutes.value : Nat)
    (Offset.ofMinutes (if isNegative then -length else length)).map some

end IsoZone

/-- What stands behind whole seconds. -/
inductive IsoFraction where
  | absent
  | thousandths (ds : Digits 3)
  | millionths (ds : Digits 6)

namespace IsoFraction

def chars : IsoFraction → List Char
  | absent => []
  | thousandths ds => '.' :: ds.chars
  | millionths ds => '.' :: ds.chars

def microseconds : IsoFraction → Nat
  | absent => 0
  | thousandths ds => ds.value * 1000
  | millionths ds => ds.value

end IsoFraction

structure IsoTime where
  hour : Digits 2
  minute : Digits 2
  seconds : Option (Digits 2 × IsoFraction)
  zone : IsoZone

namespace IsoTime

def chars (t : IsoTime) : List Char :=
  let seconds :=
    match t.seconds with
    | none => []
    | some (whole, fraction) => ':' :: (whole.chars ++ fraction.chars)
  t.hour.chars ++ ':' :: (t.minute.chars ++ (seconds ++ t.zone.chars))

def clock (t : IsoTime) : Except CalendarError Clock :=
  match t.seconds with
  | none => Clock.ofParts t.hour.value t.minute.value 0 0
  | some (whole, fraction) =>
    Clock.ofParts t.hour.value t.minute.value whole.value fraction.microseconds

end IsoTime

/-- A date, alone or with a time of day behind a letter or a blank. -/
structure IsoText where
  year : Digits 4
  month : Digits 2
  day : Digits 2
  time : Option ({ c : Char // c = 'T' ∨ c = ' ' } × IsoTime)

namespace IsoText

def chars (t : IsoText) : List Char :=
  let time :=
    match t.time with
    | none => []
    | some (separator, time) => separator.1 :: time.chars
  t.year.chars ++ '-' :: (t.month.chars ++ '-' :: (t.day.chars ++ time))

/-- The moment that is meant; a day begins at midnight. -/
def moment (t : IsoText) : Except CalendarError Moment :=
  Date.ofParts t.year.value t.month.value t.day.value >>= fun d =>
    match t.time with
    | none => .ok (.dateTime d ⟨0, 0, 0, 0⟩ none)
    | some (_, time) => time.clock >>= fun c => time.zone.offset.map fun o => .dateTime d c o

end IsoText

/-! ## What is in range -/

theorem exists_ofParts_eq_ok_iff {hour minute second microsecond : Nat} :
    (∃ c, Clock.ofParts hour minute second microsecond = .ok c) ↔
      hour < 24 ∧ minute < 60 ∧ second < 60 := by
  rw [Clock.ofParts]
  constructor
  · rintro ⟨c, hc⟩
    split at hc
    · cases hc
    split at hc
    · cases hc
    split at hc
    · cases hc
    omega
  · rintro ⟨hhour, hminute, hsecond⟩
    rw [if_neg (by omega), if_neg (by omega), if_neg (by omega)]
    exact ⟨_, rfl⟩

theorem IsoZone.exists_offset_distance_iff {isNegative : Bool} {hours minutes : Digits 2} :
    (∃ o, (IsoZone.distance isNegative hours minutes).offset = .ok o) ↔
      hours.value * 60 + minutes.value < 24 * 60 := by
  have hrange : ∀ length : Int, (∃ o, (Offset.ofMinutes length).map some = .ok o) ↔
      length.natAbs < 24 * 60 := by
    intro length
    rw [Offset.ofMinutes]
    split
    · exact iff_of_true ⟨_, rfl⟩ ‹_›
    · exact iff_of_false nofun ‹_›
  rw [IsoZone.offset, hrange]
  cases isNegative <;> simp <;> omega

/-- A zone cannot be taken for more digits of what stands before it. -/
theorem IsoZone.not_isDigit_head {zone : IsoZone} {c : Char} (hc : c ∈ zone.chars.head?) :
    c.isDigit = false ∧ c ≠ '.' := by
  rcases zone with _ | _ | ⟨_ | _, hours, minutes⟩
  · cases hc
  all_goals
    obtain rfl := Option.some.inj hc
    decide

theorem IsoText.exists_moment_iff {t : IsoText} :
    (∃ m, t.moment = .ok m) ↔
      (∃ d, Date.ofParts t.year.value t.month.value t.day.value = .ok d) ∧
        ∀ time ∈ t.time, (∃ c, time.2.clock = .ok c) ∧ ∃ o, time.2.zone.offset = .ok o := by
  rw [IsoText.moment]
  cases t.time with
  | none => simp [bind_eq_ok]
  | some time =>
      simp only [bind_eq_ok, map_eq_ok, Option.mem_some_iff, forall_eq']
      constructor
      · rintro ⟨m, d, hd, c, hc, o, ho, -⟩
        exact ⟨⟨d, hd⟩, ⟨c, hc⟩, ⟨o, ho⟩⟩
      · rintro ⟨⟨d, hd⟩, ⟨c, hc⟩, ⟨o, ho⟩⟩
        exact ⟨_, d, hd, c, hc, o, ho, rfl⟩

namespace StringPattern

/-! ## Digits -/

theorem twoDigits?_eq_some_iff {a b : Char} {n : Nat} :
    twoDigits? a b = some n ↔ ∃ ds : Digits 2, ds.chars = [a, b] ∧ ds.value = n := by
  rw [twoDigits?]
  constructor
  · intro h
    split at h
    · rename_i hdigits
      rw [Bool.and_eq_true] at hdigits
      exact ⟨⟨[a, b], rfl, by simpa using hdigits⟩, rfl, Option.some.inj h⟩
    · cases h
  · rintro ⟨ds, hchars, rfl⟩
    have hdigits := ds.isDigit
    rw [hchars] at hdigits
    rw [if_pos (by simpa using hdigits), Digits.value, hchars]

theorem exists_twoDigits? (ds : Digits 2) :
    ∃ a b, ds.chars = [a, b] ∧ twoDigits? a b = some ds.value := by
  obtain ⟨a, b, hchars⟩ := List.length_eq_two.mp ds.length_eq
  exact ⟨a, b, hchars, twoDigits?_eq_some_iff.mpr ⟨ds, hchars, rfl⟩⟩

/-- A year is read as two numbers of two digits. -/
theorem exists_year_of_twoDigits? {a b c d : Char} {high low : Nat}
    (hhigh : twoDigits? a b = some high) (hlow : twoDigits? c d = some low) :
    ∃ year : Digits 4, year.chars = [a, b, c, d] ∧ year.value = high * 100 + low := by
  obtain ⟨ds, hab, rfl⟩ := twoDigits?_eq_some_iff.mp hhigh
  obtain ⟨es, hcd, rfl⟩ := twoDigits?_eq_some_iff.mp hlow
  have hlength : (ds.chars ++ es.chars).length = 4 := by
    rw [List.length_append, ds.length_eq, es.length_eq]
  have hdigits : ∀ c ∈ ds.chars ++ es.chars, c.isDigit = true := fun c hc =>
    (List.mem_append.mp hc).elim (ds.isDigit c) (es.isDigit c)
  refine ⟨⟨_, hlength, hdigits⟩, by simp [hab, hcd], ?_⟩
  simp only [Digits.value, hab, hcd, Numeral.digitsValue, List.cons_append, List.nil_append,
    List.foldl_cons, List.foldl_nil]
  omega

theorem exists_twoDigits?_of_year (year : Digits 4) :
    ∃ a b c d high low, year.chars = [a, b, c, d] ∧ twoDigits? a b = some high ∧
      twoDigits? c d = some low ∧ year.value = high * 100 + low := by
  obtain ⟨a, b, c, d, hchars⟩ : ∃ a b c d, year.chars = [a, b, c, d] := by
    have hlength := year.length_eq
    match year.chars, hlength with
    | [a, b, c, d], _ => exact ⟨a, b, c, d, rfl⟩
  have hdigits := year.isDigit
  rw [hchars] at hdigits
  have hhigh : twoDigits? a b = some (Numeral.digitsValue [a, b]) := by
    rw [twoDigits?, if_pos (by simp [hdigits])]
  have hlow : twoDigits? c d = some (Numeral.digitsValue [c, d]) := by
    rw [twoDigits?, if_pos (by simp [hdigits])]
  obtain ⟨year', hchars', hvalue⟩ := exists_year_of_twoDigits? hhigh hlow
  refine ⟨a, b, c, d, _, _, hchars, hhigh, hlow, ?_⟩
  rw [← hvalue, Digits.value, Digits.value, hchars, hchars']

/-! ## Reading the parts -/

theorem isZone_iff {cs : List Char} :
    isZone cs = true ↔ ∃ zone : IsoZone, cs = zone.chars ∧ ∃ o, zone.offset = .ok o := by
  constructor
  · intro h
    unfold isZone at h
    split at h
    · exact ⟨.unstated, rfl, none, rfl⟩
    · exact ⟨.universal, rfl, some 0, rfl⟩
    · rename_i s a b c d
      rw [Bool.and_eq_true, Bool.or_eq_true, beq_iff_eq, beq_iff_eq] at h
      obtain ⟨hsign, h⟩ := h
      split at h
      · rename_i hours minutes hhours hminutes
        obtain ⟨hs, hab, rfl⟩ := twoDigits?_eq_some_iff.mp hhours
        obtain ⟨ms, hcd, rfl⟩ := twoDigits?_eq_some_iff.mp hminutes
        refine ⟨.distance (s == '-') hs ms, ?_,
          IsoZone.exists_offset_distance_iff.mpr (of_decide_eq_true h)⟩
        rcases hsign with rfl | rfl <;> simp [IsoZone.chars, hab, hcd]
      · cases h
    · cases h
  · rintro ⟨_ | _ | ⟨isNegative, hours, minutes⟩, rfl, hoffset⟩
    · rfl
    · rfl
    · obtain ⟨a, b, hab, hhours⟩ := exists_twoDigits? hours
      obtain ⟨c, d, hcd, hminutes⟩ := exists_twoDigits? minutes
      have hrange := IsoZone.exists_offset_distance_iff.mp hoffset
      cases isNegative <;> simp [IsoZone.chars, isZone, hab, hcd, hhours, hminutes, hrange]

theorem isFractionAndZone_iff {cs : List Char} :
    isFractionAndZone cs = true ↔ ∃ (fraction : IsoFraction) (zone : IsoZone),
      cs = fraction.chars ++ zone.chars ∧ ∃ o, zone.offset = .ok o := by
  constructor
  · intro h
    unfold isFractionAndZone at h
    split at h
    · rename_i r
      simp only [Bool.and_eq_true, Bool.or_eq_true, beq_iff_eq] at h
      obtain ⟨hlength, hzone⟩ := h
      obtain ⟨zone, hrest, hoffset⟩ := isZone_iff.mp hzone
      have hdigits : ∀ c ∈ r.takeWhile Char.isDigit, c.isDigit = true :=
        List.all_eq_true.mp List.all_takeWhile
      have hr : '.' :: r = '.' :: (r.takeWhile Char.isDigit ++ zone.chars) := by
        rw [← hrest, List.takeWhile_append_dropWhile]
      rcases hlength with hlength | hlength
      · exact ⟨.thousandths ⟨_, hlength, hdigits⟩, zone, hr, hoffset⟩
      · exact ⟨.millionths ⟨_, hlength, hdigits⟩, zone, hr, hoffset⟩
    · obtain ⟨zone, hcs, hoffset⟩ := isZone_iff.mp h
      exact ⟨.absent, zone, hcs, hoffset⟩
  · rintro ⟨fraction, zone, rfl, hoffset⟩
    have hzone := isZone_iff.mpr ⟨zone, rfl, hoffset⟩
    have hhead : ∀ c ∈ zone.chars.head?, c.isDigit = false := fun c hc =>
      (IsoZone.not_isDigit_head hc).1
    rcases fraction with _ | ds | ds
    · rw [IsoFraction.chars, List.nil_append]
      unfold isFractionAndZone
      split
      · rename_i heq
        exact absurd rfl (IsoZone.not_isDigit_head (heq ▸ rfl : '.' ∈ zone.chars.head?)).2
      · exact hzone
    all_goals
      have hdigits := Json.takeWhile_append_of_head ds.isDigit hhead
      have hrest := Json.dropWhile_append_of_head ds.isDigit hhead
      simp [IsoFraction.chars, isFractionAndZone, hdigits, hrest, ds.length_eq, hzone]

theorem isTimeOfDay_iff {cs : List Char} :
    isTimeOfDay cs = true ↔
      ∃ t : IsoTime, cs = t.chars ∧ (∃ c, t.clock = .ok c) ∧ ∃ o, t.zone.offset = .ok o := by
  constructor
  · intro h
    unfold isTimeOfDay at h
    split at h
    · rename_i a b c d rest
      split at h
      · rename_i hour minute hhour hminute
        obtain ⟨hs, hab, rfl⟩ := twoDigits?_eq_some_iff.mp hhour
        obtain ⟨ms, hcd, rfl⟩ := twoDigits?_eq_some_iff.mp hminute
        simp only [Bool.and_eq_true, decide_eq_true_eq] at h
        obtain ⟨⟨hhour, hminute⟩, h⟩ := h
        split at h
        · rename_i e f rest
          split at h
          · rename_i second hsecond
            obtain ⟨ss, hef, rfl⟩ := twoDigits?_eq_some_iff.mp hsecond
            rw [Bool.and_eq_true, decide_eq_true_eq] at h
            obtain ⟨fraction, zone, rfl, hoffset⟩ := isFractionAndZone_iff.mp h.2
            refine ⟨⟨hs, ms, some (ss, fraction), zone⟩, ?_, ?_, hoffset⟩
            · simp [IsoTime.chars, hab, hcd, hef]
            · exact exists_ofParts_eq_ok_iff.mpr ⟨hhour, hminute, h.1⟩
          · cases h
        · obtain ⟨zone, rfl, hoffset⟩ := isZone_iff.mp h
          refine ⟨⟨hs, ms, none, zone⟩, ?_, ?_, hoffset⟩
          · simp [IsoTime.chars, hab, hcd]
          · exact exists_ofParts_eq_ok_iff.mpr ⟨hhour, hminute, Nat.zero_lt_succ 59⟩
      · cases h
    · cases h
  · rintro ⟨⟨hour, minute, seconds, zone⟩, rfl, hclock, hoffset⟩
    obtain ⟨a, b, hab, hhour⟩ := exists_twoDigits? hour
    obtain ⟨c, d, hcd, hminute⟩ := exists_twoDigits? minute
    rcases seconds with _ | ⟨whole, fraction⟩
    · obtain ⟨hhours, hminutes, -⟩ := exists_ofParts_eq_ok_iff.mp hclock
      have hzone := isZone_iff.mpr ⟨zone, rfl, hoffset⟩
      -- no zone begins with a colon
      rcases zone with _ | _ | ⟨_ | _, _, _⟩ <;>
        simpa [IsoTime.chars, IsoZone.chars, isTimeOfDay, hab, hcd, hhour, hminute, hhours,
          hminutes] using hzone
    · obtain ⟨hhours, hminutes, hseconds⟩ := exists_ofParts_eq_ok_iff.mp hclock
      obtain ⟨e, f, hef, hsecond⟩ := exists_twoDigits? whole
      have hrest := isFractionAndZone_iff.mpr ⟨fraction, zone, rfl, hoffset⟩
      simp [IsoTime.chars, isTimeOfDay, hab, hcd, hef, hhour, hminute, hsecond, hhours, hminutes,
        hseconds, hrest]

/-- A text is a date just if it is written from parts that say when something is. -/
theorem isIsoDate_iff {s : String} :
    isIsoDate s = true ↔ ∃ t : IsoText, s.toList = t.chars ∧ ∃ m, t.moment = .ok m := by
  simp only [IsoText.exists_moment_iff]
  constructor
  · intro h
    unfold isIsoDate at h
    split at h
    · rename_i y₁ y₂ y₃ y₄ m₁ m₂ d₁ d₂ rest hchars
      split at h
      · rename_i high low m d hhigh hlow hm hd
        obtain ⟨year, hyear, hvalue⟩ := exists_year_of_twoDigits? hhigh hlow
        obtain ⟨month, hmonth, rfl⟩ := twoDigits?_eq_some_iff.mp hm
        obtain ⟨day, hday, rfl⟩ := twoDigits?_eq_some_iff.mp hd
        rw [Bool.and_eq_true] at h
        obtain ⟨hok, h⟩ := h
        have hdate : ∃ d, Date.ofParts year.value month.value day.value = .ok d := by
          rw [hvalue]
          split at hok
          · exact ⟨_, ‹_›⟩
          · cases hok
        split at h
        · refine ⟨⟨year, month, day, none⟩, ?_, hdate, nofun⟩
          simp [hchars, IsoText.chars, hyear, hmonth, hday]
        · rename_i c rest
          simp only [Bool.and_eq_true, Bool.or_eq_true, beq_iff_eq] at h
          obtain ⟨time, rfl, htime⟩ := isTimeOfDay_iff.mp h.2
          refine ⟨⟨year, month, day, some (⟨c, h.1⟩, time)⟩, ?_, hdate, ?_⟩
          · simp [hchars, IsoText.chars, hyear, hmonth, hday]
          · rintro _ ⟨⟩
            exact htime
      · cases h
    · cases h
  · rintro ⟨⟨year, month, day, time⟩, hchars, ⟨d, hdate⟩, htime⟩
    obtain ⟨y₁, y₂, y₃, y₄, high, low, hyear, hhigh, hlow, hvalue⟩ := exists_twoDigits?_of_year year
    obtain ⟨m₁, m₂, hmonth, hm⟩ := exists_twoDigits? month
    obtain ⟨d₁, d₂, hday, hd⟩ := exists_twoDigits? day
    have hread : Date.ofParts (high * 100 + low) month.value day.value = .ok d := hvalue ▸ hdate
    rcases time with _ | ⟨⟨c, hc⟩, time⟩
    · simp [isIsoDate, hchars, IsoText.chars, hyear, hmonth, hday, hhigh, hlow, hm, hd, hread]
    · have htime := isTimeOfDay_iff.mpr ⟨time, rfl, htime _ rfl⟩
      simp [isIsoDate, hchars, IsoText.chars, hyear, hmonth, hday, hhigh, hlow, hm, hd, hread,
        hc, htime]

end StringPattern

end TypeDraft
