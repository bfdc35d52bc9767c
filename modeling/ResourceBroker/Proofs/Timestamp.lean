import Mathlib.Data.List.TakeWhile
import ResourceBroker.Proofs.Calendar
import ResourceBroker.Proofs.Text.Numeral

/-!
Instants are read back from their texts: the date, the time of day with its fraction, and the zone, one
after the other.
-/

namespace ResourceBroker.Timestamp

/-- The instant has a date in range and a time of day. Only the last second of a minute may be a leap
second. -/
structure IsValid (t : Timestamp) : Prop where
  inRange : CalendarDate.inRange (CalendarDate.ofDays t.day).year
  second : t.second < 86400
  nanosecond : t.nanosecond < 1000000000 ∨ t.second % 60 = 59 ∧ t.nanosecond < 2000000000

instance (t : Timestamp) : Decidable t.IsValid :=
  decidable_of_iff
    (CalendarDate.inRange (CalendarDate.ofDays t.day).year ∧ t.second < 86400 ∧
      (t.nanosecond < 1000000000 ∨ t.second % 60 = 59 ∧ t.nanosecond < 2000000000))
    ⟨fun h => ⟨h.1, h.2.1, h.2.2⟩, fun h => ⟨h.inRange, h.second, h.nanosecond⟩⟩

/-! Numbers of a fixed width. -/

theorem isBlank_of_isDigit {c : Char} (h : c.isDigit) : Text.isBlank c = false := by
  have hrange : 48 ≤ c.toNat ∧ c.toNat ≤ 57 := by
    simpa [Char.isDigit, UInt32.le_iff_toNat_le] using h
  unfold Text.isBlank
  generalize c.toNat = n at hrange
  simp
  omega

theorem isDigit_of_mem_padZero {width n : Nat} :
    ∀ c ∈ Text.padZero width (Text.decimal n), Text.isDigit c :=
  fun c hc => (Text.isDigit_eq c).trans (Text.isDigit_of_mem_padZero hc)

theorem exists_padZero {width n : Nat} (hwidth : 0 < width) (h : n < 10 ^ width) :
    ∃ c s, Text.padZero width (Text.decimal n) = c :: s ∧ c.isDigit ∧ s.length + 1 = width := by
  have hlength := Text.length_padZero_toDigits (by decide) hwidth h
  cases hdigits : Text.padZero width (Text.decimal n) with
  | nil =>
    rw [Text.decimal] at hdigits
    rw [hdigits, List.length_nil] at hlength
    omega
  | cons c s =>
    rw [Text.decimal] at hdigits
    rw [hdigits, List.length_cons] at hlength
    exact ⟨c, s, rfl, Text.isDigit_of_mem_padZero (hdigits ▸ List.mem_cons_self), hlength⟩

theorem readNumber_padZero {width n : Nat} (hwidth : 0 < width) (h : n < 10 ^ width)
    (rest : List Char) :
    readNumber width (Text.padZero width (Text.decimal n) ++ rest) = some (n, rest) := by
  have hread := Text.natural?_padZero width n
  have hdigits := @isDigit_of_mem_padZero width n
  obtain ⟨c, s, heq, hc, hlength⟩ := exists_padZero hwidth h
  rw [heq] at hread hdigits ⊢
  rw [readNumber, List.cons_append, Text.trimStart_of_not_isBlank _ (isBlank_of_isDigit hc),
    ← List.cons_append, ← hlength, ← List.length_cons, List.take_left,
    List.takeWhile_eq_self_iff.mpr hdigits, hread, List.drop_left, Option.map_some]

theorem readMark_cons {mark : Char} (h : Text.isBlank mark = false) (rest : List Char) :
    readMark mark (mark :: rest) = some rest := by
  rw [readMark, Text.trimStart_of_not_isBlank rest h]
  exact if_pos rfl

theorem readSigned_append {digits : List Char} {n : Nat}
    (hdigits : ∀ c ∈ digits, Text.isDigit c) (hread : Text.natural? digits = some n)
    (rest : List Char) : readYear.readSigned (digits ++ '-' :: rest) = some (n, '-' :: rest) := by
  have hminus : Text.isDigit '-' = false := by decide
  rw [readYear.readSigned, List.takeWhile_append_of_pos hdigits,
    List.dropWhile_append_of_pos hdigits, List.takeWhile_cons, List.dropWhile_cons]
  simp [hminus, hread]

theorem readYear_renderYear (year : Int) (rest : List Char) :
    readYear (renderYear year ++ '-' :: rest) = some (year, '-' :: rest) := by
  have hsigned := readSigned_append isDigit_of_mem_padZero (Text.natural?_padZero 4 year.natAbs) rest
  rw [renderYear]
  by_cases hfour : 0 ≤ year ∧ year ≤ 9999
  · have hread := readNumber_padZero (by decide : 0 < 4) (show year.natAbs < 10 ^ 4 by omega)
      ('-' :: rest)
    obtain ⟨c, s, heq, hc, -⟩ := exists_padZero (by decide : 0 < 4)
      (show year.natAbs < 10 ^ 4 by omega)
    rw [if_pos hfour, readYear]
    rw [heq, List.cons_append] at hread ⊢
    rw [Text.trimStart_of_not_isBlank _ (isBlank_of_isDigit hc)]
    split
    · next h => exact absurd hc ((List.cons.inj h).1 ▸ by decide)
    · next h => exact absurd hc ((List.cons.inj h).1 ▸ by decide)
    · rw [hread, Option.map_some]
      dsimp only
      rw [Int.natAbs_of_nonneg hfour.1]
  · rw [if_neg hfour, readYear]
    by_cases hnegative : year < 0
    · rw [if_pos hnegative, List.cons_append, Text.trimStart_of_not_isBlank _ (by decide)]
      show (readYear.readSigned _).map (fun found => (-(found.1 : Int), found.2)) = _
      rw [hsigned, Option.map_some, Int.ofNat_natAbs_of_nonpos (by omega), Int.neg_neg]
    · rw [if_neg hnegative, List.cons_append, Text.trimStart_of_not_isBlank _ (by decide)]
      show (readYear.readSigned _).map (fun found => ((found.1 : Int), found.2)) = _
      rw [hsigned, Option.map_some, Int.natAbs_of_nonneg (by omega)]

theorem readDate_render {date : CalendarDate} (h : date.isValid) (rest : List Char) :
    readDate (renderYear date.year ++ '-' :: (Text.padZero 2 (Text.decimal date.month) ++
      '-' :: (Text.padZero 2 (Text.decimal date.day) ++ rest))) = some (date, rest) := by
  have hdays : CalendarDate.daysInMonth date.year date.month ≤ 31 := by
    unfold CalendarDate.daysInMonth
    split
    · split <;> omega
    all_goals omega
  have hbounds : date.month ≤ 12 ∧ date.day ≤ 31 := by
    simp only [CalendarDate.isValid, Bool.and_eq_true, decide_eq_true_eq] at h
    omega
  have hmonth := readNumber_padZero (by decide : 0 < 2) (show date.month < 10 ^ 2 by omega)
  have hday := readNumber_padZero (by decide : 0 < 2) (show date.day < 10 ^ 2 by omega)
  have hminus : Text.isBlank '-' = false := by decide
  simp only [readDate, readYear_renderYear, readMark_cons hminus, hmonth, hday,
    Option.bind_eq_bind, Option.bind_some, h, if_true]
  rfl

theorem readFraction_padZero {width n : Nat} (hwidth : 0 < width) (hnine : width ≤ 9)
    (h : n < 10 ^ width) (rest : List Char) :
    readFraction ('.' :: Text.padZero width (Text.decimal n) ++ 'Z' :: rest) =
      some (n * Nat.pow 10 (9 - width), 'Z' :: rest) := by
  have hlength := Text.length_padZero_toDigits (by decide) hwidth h
  have hz : Text.isDigit 'Z' = false := by decide
  rw [List.cons_append, readFraction, List.takeWhile_append_of_pos isDigit_of_mem_padZero,
    List.dropWhile_append_of_pos isDigit_of_mem_padZero]
  simp only [List.takeWhile_cons, List.dropWhile_cons, hz, Bool.false_eq_true, if_false,
    List.append_nil]
  rw [← Text.decimal] at hlength
  rw [List.take_of_length_le (by omega), Text.natural?_padZero, hlength]
  rfl

theorem readFraction_render {nanosecond : Nat} (h : nanosecond < 1000000000) (rest : List Char) :
    readFraction (renderFraction nanosecond ++ 'Z' :: rest) = some (nanosecond, 'Z' :: rest) := by
  unfold renderFraction
  split_ifs with hzero hmilli hmicro
  · rw [hzero]
    rfl
  · have hscale : nanosecond / 1000000 * Nat.pow 10 (9 - 3) = nanosecond := by
      rw [show Nat.pow 10 (9 - 3) = 1000000 from rfl]
      omega
    rw [readFraction_padZero (by decide) (by decide) (by omega), hscale]
  · have hscale : nanosecond / 1000 * Nat.pow 10 (9 - 6) = nanosecond := by
      rw [show Nat.pow 10 (9 - 6) = 1000 from rfl]
      omega
    rw [readFraction_padZero (by decide) (by decide) (by omega), hscale]
  · have hscale : nanosecond * Nat.pow 10 (9 - 9) = nanosecond := Nat.mul_one nanosecond
    rw [readFraction_padZero (by decide) (by decide) (by omega), hscale]

/-- The time of day, where a leap second counts as the sixtieth. -/
theorem readTime_render {second nanosecond : Nat} (hsecond : second < 86400)
    (hnano : nanosecond < 1000000000 ∨ second % 60 = 59 ∧ nanosecond < 2000000000)
    (rest : List Char) :
    readTime (Text.padZero 2 (Text.decimal (second / 3600)) ++
      ':' :: (Text.padZero 2 (Text.decimal (second / 60 % 60)) ++
      ':' :: (Text.padZero 2 (Text.decimal (second % 60 + nanosecond / 1000000000)) ++
      (renderFraction (nanosecond % 1000000000) ++ 'Z' :: rest)))) =
      some ((second, nanosecond), 'Z' :: rest) := by
  have hhour := readNumber_padZero (by decide : 0 < 2) (show second / 3600 < 10 ^ 2 by omega)
  have hminute := readNumber_padZero (by decide : 0 < 2) (show second / 60 % 60 < 10 ^ 2 by omega)
  have hleap := readNumber_padZero (by decide : 0 < 2)
    (show second % 60 + nanosecond / 1000000000 < 10 ^ 2 by omega)
  have hfraction := readFraction_render (show nanosecond % 1000000000 < 1000000000 by omega) rest
  have hcolon : Text.isBlank ':' = false := by decide
  simp only [readTime, hhour, hminute, hleap, hfraction, readMark_cons hcolon,
    Option.bind_eq_bind, Option.bind_some]
  rw [if_pos (by omega)]
  refine congrArg some (Prod.ext (Prod.ext ?_ ?_) rfl) <;> dsimp only <;> omega

theorem ofText?_render {t : Timestamp} (h : t.IsValid) : ofText? t.render = some t := by
  have hdate := readDate_render (CalendarDate.isValid_ofDays h.inRange)
  have htime := readTime_render h.second h.nanosecond []
  have hzone : readZone ['Z'] = some (0, []) := rfl
  have hday : (t.day * 86400 + t.second - 0) / 86400 = t.day := by
    have hsecond := h.second
    omega
  have hrest : ((t.day * 86400 + t.second - 0) % 86400).toNat = t.second := by
    have hsecond := h.second
    omega
  rw [ofText?, render]
  simp only [String.toList_ofList, List.append_assoc, List.cons_append, List.nil_append, hdate,
    htime, hzone, Option.bind_eq_bind, Option.bind_some, CalendarDate.toDays_ofDays]
  rw [hday, hrest, if_pos (by decide), if_pos ⟨rfl, by decide⟩, if_pos h.inRange]
  rfl

/-! What is read is an instant. -/

theorem ofDigitChars_lt {s : List Char} (h : ∀ c ∈ s, c.isDigit) (n : Nat) :
    Nat.ofDigitChars 10 s n < (n + 1) * 10 ^ s.length := by
  induction s generalizing n with
  | nil => simp [Nat.ofDigitChars_eq_foldl]
  | cons c s ih =>
    rw [List.forall_mem_cons] at h
    have hdigit : c.toNat - '0'.toNat ≤ 9 := by
      have hrange : 48 ≤ c.toNat ∧ c.toNat ≤ 57 := by
        simpa [Char.isDigit, UInt32.le_iff_toNat_le] using h.1
      have hzero : '0'.toNat = 48 := rfl
      omega
    have hrest := ih h.2 (10 * n + (c.toNat - '0'.toNat))
    rw [Nat.ofDigitChars_eq_foldl] at hrest ⊢
    rw [List.foldl_cons, List.length_cons, Nat.pow_succ']
    refine Nat.lt_of_lt_of_le hrest ?_
    rw [← Nat.mul_assoc]
    exact Nat.mul_le_mul_right _ (by omega)

theorem readFraction_lt {s rest : List Char} {n : Nat} (h : readFraction s = some (n, rest)) :
    n < 1000000000 := by
  unfold readFraction at h
  split at h
  · next after =>
    obtain ⟨k, hk, heq⟩ := Option.bind_eq_some_iff.mp h
    obtain ⟨rfl, -⟩ := Prod.mk.inj (Option.some.inj heq)
    generalize after.takeWhile Text.isDigit = digits at hk
    obtain ⟨-, hdigits, rfl⟩ := Text.natural?_eq_some_iff.mp hk
    have hvalue := ofDigitChars_lt hdigits 0
    rw [Nat.zero_add, Nat.one_mul, List.length_take] at hvalue
    calc Nat.ofDigitChars 10 (digits.take 9) 0 * 10 ^ (9 - digits.length)
        < 10 ^ min 9 digits.length * 10 ^ (9 - digits.length) :=
          Nat.mul_lt_mul_of_pos_right hvalue (Nat.pow_pos (by decide))
      _ = 1000000000 := by
        rw [← Nat.pow_add, show min 9 digits.length + (9 - digits.length) = 9 by omega]
  · obtain ⟨rfl, -⟩ := Prod.mk.inj (Option.some.inj h)
    decide

theorem readTime_bounds {s rest : List Char} {second nanosecond : Nat}
    (h : readTime s = some ((second, nanosecond), rest)) :
    second < 86400 ∧
      (nanosecond < 1000000000 ∨ second % 60 = 59 ∧ nanosecond < 2000000000) := by
  simp only [readTime, Option.bind_eq_bind, Option.bind_eq_some_iff, Prod.exists] at h
  obtain ⟨hour, _, -, _, -, minute, _, -, _, -, sec, _, -, nano, _, hnano, h⟩ := h
  have hfraction := readFraction_lt hnano
  split at h
  · have heq := Prod.mk.inj (Option.some.inj h)
    obtain ⟨rfl, rfl⟩ := Prod.mk.inj heq.1
    obtain hleap | hleap : sec / 60 = 0 ∨ sec = 60 := by omega
    · omega
    · omega
  · cases h

theorem readOffset_minutes {s rest : List Char} {n : Nat} (h : readOffset s = some (n, rest)) :
    n % 60 = 0 := by
  simp only [readOffset, Option.bind_eq_bind, Option.bind_eq_some_iff, Prod.exists] at h
  obtain ⟨hours, _, -, minutes, _, -, h⟩ := h
  split at h
  · obtain ⟨rfl, -⟩ := Prod.mk.inj (Option.some.inj h)
    omega
  · cases h

theorem readZone_minutes {s rest : List Char} {offset : Int} (h : readZone s = some (offset, rest)) :
    offset % 60 = 0 := by
  unfold readZone at h
  split at h
  · cases h
  · dsimp only at h
    split_ifs at h
    · obtain ⟨rfl, -⟩ := Prod.mk.inj (Option.some.inj h)
      rfl
    · obtain ⟨rfl, -⟩ := Prod.mk.inj (Option.some.inj h)
      rfl
    · obtain ⟨⟨n, after⟩, hread, heq⟩ := Option.map_eq_some_iff.mp h
      obtain ⟨rfl, -⟩ := Prod.mk.inj heq
      have hminutes := readOffset_minutes hread
      omega
    · obtain ⟨⟨n, after⟩, hread, heq⟩ := Option.map_eq_some_iff.mp h
      obtain ⟨rfl, -⟩ := Prod.mk.inj heq
      have hminutes := readOffset_minutes hread
      omega

theorem isValid_of_ofText? {s : String} {t : Timestamp} (h : ofText? s = some t) : t.IsValid := by
  rw [ofText?, Option.bind_eq_bind, Option.bind_eq_some_iff] at h
  obtain ⟨⟨date, after⟩, -, h⟩ := h
  cases after with
  | nil => cases h
  | cons c after =>
    simp only [Option.bind_eq_bind] at h
    split_ifs at h
    · rw [Option.bind_some, Option.bind_eq_some_iff] at h
      obtain ⟨⟨⟨second, nanosecond⟩, after⟩, htime, h⟩ := h
      obtain ⟨⟨offset, after⟩, hzone, h⟩ := Option.bind_eq_some_iff.mp h
      obtain ⟨hsecond, hnano⟩ := readTime_bounds htime
      have hminutes := readZone_minutes hzone
      -- an offset of whole minutes leaves a leap second at the end of its minute
      split_ifs at h with hend hrange
      obtain rfl := Option.some.inj h
      refine ⟨hrange, ?_, ?_⟩ <;> dsimp only at hsecond hnano ⊢ <;> omega
    · cases h

end ResourceBroker.Timestamp
