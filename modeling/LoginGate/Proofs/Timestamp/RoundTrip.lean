import LoginGate.Proofs.Text.Padded
import LoginGate.Proofs.Timestamp.Calendar
import LoginGate.Timestamp.Text

/-! # Timestamps written and read

The text of a timestamp denotes it, to the nanosecond, unless it is a leap second or its year takes
more than four digits. Each part is read up to the character that follows it, which is no digit.
-/

namespace LoginGate.Timestamp

open Text

/-- A timestamp whose text has no sign and no leap second. -/
structure IsPlain (time : Timestamp) : Prop where
  nanos_lt : time.nanos < 1_000_000_000
  year_nonneg : 0 ≤ time.date.year
  year_le : time.date.year ≤ 9999

instance (time : Timestamp) : Decidable time.IsPlain :=
  decidable_of_iff
    (time.nanos < 1_000_000_000 ∧ 0 ≤ time.date.year ∧ time.date.year ≤ 9999)
    ⟨fun ⟨nanos, first, last⟩ => ⟨nanos, first, last⟩,
      fun ⟨nanos, first, last⟩ => ⟨nanos, first, last⟩⟩

/-! ## Numbers -/

/-- No digit stands at the front. -/
def EndsDigits (rest : List Char) : Prop :=
  ∀ c ∈ rest.head?, isDecimal c = false

theorem endsDigits_cons {c : Char} (other : isDecimal c = false) (text : List Char) :
    EndsDigits (c :: text) := by
  rintro d ⟨⟩
  exact other

theorem EndsDigits.takeWhile {rest : List Char} (ends : EndsDigits rest) (most : Nat) :
    (rest.take most).takeWhile isDecimal = [] := by
  cases rest with
  | nil => simp
  | cons c rest =>
    cases most with
    | zero => rfl
    | succ most => simp [ends c rfl]

/-- A padded number is read up to what follows it. -/
theorem number_padded {width most n : Nat} (some : 0 < width) (short : width ≤ most)
    (small : most ≤ 18) (fits : n < 10 ^ width) {rest : List Char} (ends : EndsDigits rest) :
    number most (padded width (decimal n) ++ rest) = .ok (n, rest) := by
  have length : (padded width (decimal n)).length = width := length_padded (by decide) some fits
  have digits : ((padded width (decimal n) ++ rest).take most).takeWhile isDecimal =
      padded width (decimal n) := by
    rw [List.take_append, length, List.take_of_length_le (by rwa [length]),
      List.takeWhile_append_of_pos fun c => isDecimal_of_mem_padded, ends.takeWhile,
      List.append_nil]
  have value : numeral? 10 (padded width (decimal n)) = Option.some n :=
    numeral?_padded (by decide) (by decide) some fits
  have bound : (n : Int) ≤ Int64.maxValue.toInt := by
    have most : n < 10 ^ 18 := Nat.lt_of_lt_of_le fits (Nat.pow_le_pow_right (by decide) (by omega))
    have largest : Int64.maxValue.toInt = 9223372036854775807 := by decide
    omega
  rw [number, digits, value]
  dsimp only
  rw [if_pos bound, List.drop_left]

theorem trimLeft_padded {width n : Nat} (rest : List Char) :
    trimLeft (padded width (decimal n) ++ rest) = padded width (decimal n) ++ rest := by
  obtain ⟨c, more, front, -, visible⟩ := exists_padded_eq_cons width n
  rw [front, trimLeft, List.cons_append, List.dropWhile_cons_of_neg (by simp [visible])]

theorem bounded_pair {low high n : Nat} (above : low ≤ n) (below : n ≤ high) (two : high < 100)
    {rest : List Char} (ends : EndsDigits rest) :
    bounded low high 2 (pair n ++ rest) = .ok (n, rest) := by
  have fits : n < 10 ^ 2 := Nat.lt_of_le_of_lt below two
  rw [bounded, pair, trimLeft_padded,
    number_padded (by decide) (by decide) (by decide) fits ends]
  exact if_pos ⟨above, below⟩

theorem literal_cons {c : Char} (visible : isBlank c = false) (rest : List Char) :
    literal c (trimLeft (c :: rest)) = .ok ((), rest) := by
  rw [trimLeft, List.dropWhile_cons_of_neg (by simp [visible]), literal, if_pos rfl]

/-! ## Dates -/

theorem readYear_yearText {year : Int} (first : 0 ≤ year) (last : year ≤ 9999) {rest : List Char}
    (ends : EndsDigits rest) : readYear (yearText year ++ rest) = .ok (year, rest) := by
  obtain ⟨n, rfl⟩ := Int.eq_ofNat_of_zero_le first
  have fits : n < 10 ^ 4 := by omega
  have inRange : Int32.minValue.toInt ≤ (n : Int) ∧ (n : Int) ≤ Int32.maxValue.toInt := by
    have smallest : Int32.minValue.toInt = -2147483648 := by decide
    have largest : Int32.maxValue.toInt = 2147483647 := by decide
    omega
  have read : number 4 (padded 4 (decimal n) ++ rest) = .ok (n, rest) :=
    number_padded (by decide) (by decide) (by decide) fits ends
  -- The first character is a digit, so neither sign is found.
  have unsigned {sign : Char} {more : List Char} (plain : isDecimal sign = false) :
      padded 4 (decimal n) ++ rest ≠ sign :: more := by
    obtain ⟨c, others, front, digit, -⟩ := exists_padded_eq_cons 4 n
    rw [front]
    rintro ⟨⟩
    rw [plain] at digit
    cases digit
  rw [yearText, if_pos ⟨first, last⟩, Int.toNat_natCast, readYear, trimLeft_padded]
  split
  · next same => exact absurd same (unsigned (by decide))
  · next same => exact absurd same (unsigned (by decide))
  · rw [read]
    exact if_pos inRange

theorem readDate_written {date : Date} (valid : date.isValid = true) (first : 0 ≤ date.year)
    (last : date.year ≤ 9999) {rest : List Char} (ends : EndsDigits rest) :
    readDate (yearText date.year ++ '-' :: (pair date.month ++ '-' :: (pair date.day ++ rest))) =
      .ok (date, rest) := by
  obtain ⟨monthFirst, monthLast, dayFirst, dayLast⟩ := Date.bounds_of_isValid valid
  have hyphen := endsDigits_cons (show isDecimal '-' = false by decide)
  have visible : isBlank '-' = false := by decide
  simp only [readDate, readYear_yearText first last (hyphen _), literal_cons visible,
    bounded_pair monthFirst monthLast (by decide) (hyphen _),
    bounded_pair dayFirst dayLast (by decide) ends, bind, Except.bind]

/-! ## Times of day -/

/-- Decimals after a point are read as nanoseconds. -/
theorem readFraction_point {width n : Nat} (some : 0 < width) (short : width ≤ 9)
    (fits : n < 10 ^ width) {rest : List Char} (ends : EndsDigits rest) :
    readFraction ('.' :: (padded width (decimal n) ++ rest)) =
      .ok (n * 10 ^ (9 - width), rest) := by
  have length : (padded width (decimal n)).length = width := length_padded (by decide) some fits
  have used : (padded width (decimal n) ++ rest).length - rest.length = width := by
    rw [List.length_append, length, Nat.add_sub_cancel]
  have stops : rest.dropWhile isDecimal = rest := by
    cases rest with
    | nil => rfl
    | cons c rest => exact List.dropWhile_cons_of_neg (by simp [ends c rfl])
  rw [readFraction, number_padded some short (by decide) fits ends]
  simp only [bind, Except.bind, used, stops]
  rfl

/-- A fraction is read back, in as many decimals as it is written. -/
theorem readFraction_fractionText {nanos : Nat} (fits : nanos < 1_000_000_000) {rest : List Char}
    (ends : EndsDigits rest) (plain : rest.head? ≠ some '.') :
    readFraction (fractionText nanos ++ rest) = .ok (nanos, rest) := by
  fun_cases fractionText nanos with
  | case1 none =>
    obtain rfl := beq_iff_eq.mp none
    rw [List.nil_append, readFraction]
    rintro text rfl
    exact plain rfl
  | case2 _ millis =>
    have restored : nanos / 1_000_000 * 10 ^ (9 - 3) = nanos := by
      have := beq_iff_eq.mp millis
      omega
    rw [List.cons_append, readFraction_point (by decide) (by decide) (by omega) ends, restored]
  | case3 _ _ micros =>
    have restored : nanos / 1_000 * 10 ^ (9 - 6) = nanos := by
      have := beq_iff_eq.mp micros
      omega
    rw [List.cons_append, readFraction_point (by decide) (by decide) (by omega) ends, restored]
  | case4 =>
    rw [List.cons_append, readFraction_point (by decide) (by decide) fits ends, Nat.sub_self,
      Nat.pow_zero, Nat.mul_one]

private theorem endsDigits_fractionText {nanos : Nat} {rest : List Char} (ends : EndsDigits rest) :
    EndsDigits (fractionText nanos ++ rest) := by
  fun_cases fractionText nanos with
  | case1 => exact ends
  | _ => exact endsDigits_cons (by decide) _

def clockText (clock nanos : Nat) : List Char :=
  pair (clock / 3600) ++ ':' :: (pair (clock / 60 % 60) ++ ':' :: (pair (clock % 60) ++
    fractionText nanos))

theorem readClock_clockText {clock nanos : Nat} (inDay : clock < 86400)
    (inSecond : nanos < 1_000_000_000) {rest : List Char} (ends : EndsDigits rest)
    (plain : rest.head? ≠ some '.') :
    readClock (clockText clock nanos ++ rest) = .ok ((clock, nanos), rest) := by
  have colon := endsDigits_cons (show isDecimal ':' = false by decide)
  have visible : isBlank ':' = false := by decide
  have hour : clock / 3600 ≤ 23 := by omega
  have minute : clock / 60 % 60 ≤ 59 := by omega
  have second : clock % 60 ≤ 60 := by omega
  have ordinary : clock % 60 ≠ 60 := by omega
  have restored : clock / 3600 * 3600 + clock / 60 % 60 * 60 + min (clock % 60) 59 = clock := by
    omega
  simp only [readClock, clockText, List.append_assoc, List.cons_append,
    bounded_pair (Nat.zero_le _) hour (by decide) (colon _), literal_cons visible,
    bounded_pair (Nat.zero_le _) minute (by decide) (colon _),
    bounded_pair (Nat.zero_le _) second (by decide) (endsDigits_fractionText ends),
    readFraction_fractionText inSecond ends plain, bind, Except.bind, if_neg ordinary, restored]

/-! ## Whole timestamps -/

/-- The text of a plain timestamp is its date and its time of day in UTC. -/
private theorem toText_of_isPlain {time : Timestamp} (plain : time.IsPlain) :
    time.toText = yearText time.date.year ++ '-' :: (pair time.date.month ++
      '-' :: (pair time.date.day ++ 'T' :: (clockText time.secondOfDay time.nanos ++ ['Z']))) := by
  have ordinary : time.nanos / 1_000_000_000 = 0 := Nat.div_eq_of_lt plain.nanos_lt
  simp only [toText, clockText, List.append_assoc, List.cons_append, ordinary, Nat.add_zero,
    Nat.mod_eq_of_lt plain.nanos_lt]

/-- A plain timestamp is what its text denotes. -/
theorem ofText_toText {time : Timestamp} (plain : time.IsPlain) :
    ofText time.toText = .ok time := by
  obtain ⟨valid, days⟩ : time.date.isValid = true ∧ time.date.toDays = time.seconds / 86400 :=
    Date.ofDays_spec _
  have inDay : time.secondOfDay < 86400 := by
    rw [secondOfDay]
    omega
  have letter := endsDigits_cons (show isDecimal 'T' = false by decide)
  have zone : EndsDigits ['Z'] := endsDigits_cons (by decide) []
  have calendar : inCalendar time.date.year = true := by
    have first : minYear ≤ time.date.year := Int.le_trans (by decide) plain.year_nonneg
    have last : time.date.year ≤ maxYear := Int.le_trans plain.year_le (by decide)
    rw [inCalendar, decide_eq_true first, decide_eq_true last]
    rfl
  have restored : (⟨time.date.toDays * 86400 + time.secondOfDay - 0, time.nanos⟩ : Timestamp) =
      time := by
    have seconds : time.date.toDays * 86400 + time.secondOfDay - 0 = time.seconds := by
      rw [days, secondOfDay]
      omega
    rw [seconds]
  have utc : readOffset (trimLeft ['Z']) = .ok (0, []) := by decide
  rw [ofText, toText_of_isPlain plain,
    readDate_written valid plain.year_nonneg plain.year_le (letter _)]
  simp only [bind, Except.bind]
  rw [readClock_clockText inDay plain.nanos_lt zone (by decide)]
  simp only [utc, restored, calendar, valid]
  rfl

end LoginGate.Timestamp
