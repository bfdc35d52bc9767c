import Mathlib.Data.List.TakeWhile
import ResourceBroker.Json.Printer
import ResourceBroker.Proofs.Json.Whole
import ResourceBroker.Proofs.Text.Numeral

/-!
Literals that are read back as they were written: strings, whatever they hold, and whole numbers of 64
bits. A real number is written with digits that may miss it by some last places when they are read, so
whether it is read back is a property of each.
-/

namespace ResourceBroker.Json

/-- The text goes on with nothing that a numeral in front of it could take in. -/
def EndsNumeral (rest : List Char) : Prop :=
  ∀ c ∈ rest.head?, c.isDigit = false ∧ c ≠ '.' ∧ c ≠ 'e' ∧ c ≠ 'E'

/-- What is scanned off a text that ends there is also scanned off a longer one. -/
def Extends {α : Type} (scan : List Char → Option (α × List Char)) : Prop :=
  ∀ s a t rest, EndsNumeral rest → scan s = some (a, t) → scan (s ++ rest) = some (a, t ++ rest)

theorem spanDigits_append (s : List Char) {rest : List Char} (h : EndsNumeral rest) :
    Text.spanDigits (s ++ rest) = ((Text.spanDigits s).1, (Text.spanDigits s).2 ++ rest) := by
  have hend : rest.takeWhile Text.isDigit = [] ∧ rest.dropWhile Text.isDigit = rest := by
    cases rest with
    | nil => exact ⟨rfl, rfl⟩
    | cons c rest => simp [Text.isDigit_eq, (h c rfl).1]
  induction s with
  | nil => simp [Text.spanDigits, hend.1, hend.2]
  | cons c s ih =>
    simp only [Text.spanDigits, Prod.mk.injEq] at ih
    by_cases hc : Text.isDigit c <;> simp [Text.spanDigits, List.filterMap_cons, hc, ih]

def digits? (s : List Char) : Option (List Nat × List Char) :=
  if (Text.spanDigits s).1 = [] then none else some (Text.spanDigits s)

theorem extends_digits? : Extends digits? := by
  intro s a t rest hrest h
  unfold digits? at h ⊢
  rw [spanDigits_append s hrest]
  split at h
  · cases h
  · next hdigits =>
    rw [if_neg hdigits, Option.some.inj h]

theorem scanWhole_eq {s : List Char} (h : ∀ t, s ≠ '0' :: t) : scanWhole s = digits? s := by
  unfold scanWhole digits?
  split
  · next t => exact absurd rfl (h t)
  · rcases Text.spanDigits s with ⟨_ | ⟨d, digits⟩, t⟩ <;> rfl

theorem scanFraction_point (s : List Char) : scanFraction ('.' :: s) = digits? s := by
  rw [scanFraction, digits?]
  rcases Text.spanDigits s with ⟨_ | ⟨d, digits⟩, t⟩ <;> rfl

theorem scanFraction_of_head {s : List Char} (h : ∀ c ∈ s.head?, c ≠ '.') :
    scanFraction s = some ([], s) := by
  cases s with
  | nil => rfl
  | cons c s => simp [scanFraction, h c rfl]

theorem scanExponentDigits_eq (negative : Bool) (s : List Char) : scanExponentDigits negative s =
    (digits? s).map fun found => (some (negative, found.1), found.2) := by
  rw [scanExponentDigits, digits?]
  rcases Text.spanDigits s with ⟨_ | ⟨d, digits⟩, t⟩ <;> rfl

theorem extends_scanWhole : Extends scanWhole := by
  intro s a t rest hrest h
  cases s with
  | nil => cases h
  | cons c s =>
    by_cases hzero : c = '0'
    · subst hzero
      obtain ⟨rfl, rfl⟩ := Prod.mk.inj (Option.some.inj h)
      rfl
    · have hscan (s : List Char) : scanWhole (c :: s) = digits? (c :: s) :=
        scanWhole_eq fun t heq => hzero (List.cons.inj heq).1
      rw [hscan] at h
      exact (hscan _).trans (extends_digits? _ _ _ _ hrest h)

theorem extends_scanFraction : Extends scanFraction := by
  intro s a t rest hrest h
  by_cases hpoint : ∀ c ∈ s.head?, c ≠ '.'
  · rw [scanFraction_of_head hpoint] at h
    cases h
    refine scanFraction_of_head fun c hc => ?_
    cases s with
    | nil => exact (hrest c hc).2.1
    | cons d s => exact hpoint c hc
  · simp only [ne_eq, not_forall, not_not] at hpoint
    obtain ⟨c, hc, rfl⟩ := hpoint
    obtain ⟨after, rfl⟩ := List.head?_eq_some_iff.mp hc
    rw [scanFraction_point] at h
    exact (scanFraction_point _).trans (extends_digits? _ _ _ _ hrest h)

theorem extends_scanExponentDigits (negative : Bool) : Extends (scanExponentDigits negative) := by
  intro s a t rest hrest h
  rw [scanExponentDigits_eq] at h ⊢
  obtain ⟨⟨digits, after⟩, hdigits, heq⟩ := Option.map_eq_some_iff.mp h
  cases heq
  rw [extends_digits? _ _ _ _ hrest hdigits, Option.map_some]

theorem extends_scanSignedExponent : Extends scanSignedExponent := by
  intro s a t rest hrest h
  cases s with
  | nil => cases h
  | cons c s =>
    by_cases hplus : c = '+'
    · subst hplus
      exact extends_scanExponentDigits false s a t rest hrest h
    · by_cases hminus : c = '-'
      · subst hminus
        exact extends_scanExponentDigits true s a t rest hrest h
      · have hbare (u : List Char) :
            scanSignedExponent (c :: u) = scanExponentDigits false (c :: u) := by
          simp [scanSignedExponent, hplus, hminus]
        rw [hbare] at h
        exact (hbare _).trans (extends_scanExponentDigits false _ _ _ _ hrest h)

theorem scanExponent_of_ne {c : Char} (hlower : c ≠ 'e') (hupper : c ≠ 'E') (s : List Char) :
    scanExponent (c :: s) = some (none, c :: s) := by
  simp [scanExponent, hlower, hupper]

theorem extends_scanExponent : Extends scanExponent := by
  intro s a t rest hrest h
  cases s with
  | nil =>
    obtain ⟨rfl, rfl⟩ := Prod.mk.inj (Option.some.inj h)
    cases rest with
    | nil => rfl
    | cons c rest => exact scanExponent_of_ne (hrest c rfl).2.2.1 (hrest c rfl).2.2.2 rest
  | cons c s =>
    by_cases hlower : c = 'e'
    · subst hlower
      exact extends_scanSignedExponent s a t rest hrest h
    · by_cases hupper : c = 'E'
      · subst hupper
        exact extends_scanSignedExponent s a t rest hrest h
      · rw [scanExponent_of_ne hlower hupper] at h
        cases h
        exact scanExponent_of_ne hlower hupper _

theorem extends_scanUnsigned (negative : Bool) : Extends (scanUnsigned negative) := by
  intro s a t rest hrest h
  simp only [scanUnsigned, Option.bind_eq_bind, Option.bind_eq_some_iff] at h ⊢
  obtain ⟨⟨whole, s₁⟩, hwhole, ⟨fraction, s₂⟩, hfraction, ⟨exponent, s₃⟩, hexponent, h⟩ := h
  cases h
  exact ⟨_, extends_scanWhole _ _ _ _ hrest hwhole, _, extends_scanFraction _ _ _ _ hrest hfraction,
    _, extends_scanExponent _ _ _ _ hrest hexponent, rfl⟩

theorem scanNumeral_of_ne {c : Char} (h : c ≠ '-') (s : List Char) :
    scanNumeral (c :: s) = scanUnsigned false (c :: s) := by
  simp [scanNumeral, h]

theorem extends_scanNumeral : Extends scanNumeral := by
  intro s a t rest hrest h
  cases s with
  | nil => cases h
  | cons c s =>
    by_cases hminus : c = '-'
    · subst hminus
      exact extends_scanUnsigned true s a t rest hrest h
    · rw [scanNumeral_of_ne hminus] at h
      exact (scanNumeral_of_ne hminus _).trans (extends_scanUnsigned false _ _ _ _ hrest h)

/-! Whole numbers. -/

theorem toDigits_ne_zero_cons {n : Nat} (h : 0 < n) (rest : List Char) :
    Nat.toDigits 10 n ≠ '0' :: rest := by
  induction n using Nat.strongRecOn generalizing rest with
  | ind n ih =>
    rw [Nat.toDigits_eq_if (by decide)]
    split
    · simp only [ne_eq, List.cons.injEq, Nat.digitChar_eq_zero]
      omega
    · cases hfront : Nat.toDigits 10 (n / 10) with
      | nil => exact absurd hfront Nat.toDigits_ne_nil
      | cons c front =>
        rw [List.cons_append, ne_eq, List.cons.injEq]
        rintro ⟨rfl, -⟩
        exact ih (n / 10) (by omega) (by omega) front hfront

theorem filterMap_digit? {s : List Char} (h : ∀ c ∈ s, c.isDigit) :
    s.filterMap Text.digit? = s.map fun c => c.toNat - '0'.toNat := by
  induction s with
  | nil => rfl
  | cons c s ih =>
    rw [List.forall_mem_cons] at h
    rw [List.filterMap_cons, Text.digit?_eq_some_iff.mpr ⟨h.1, rfl⟩, ih h.2, List.map_cons]

theorem spanDigits_of_isDigit {s : List Char} (h : ∀ c ∈ s, c.isDigit) :
    Text.spanDigits s = (s.map fun c => c.toNat - '0'.toNat, []) := by
  have hdigit : ∀ c ∈ s, Text.isDigit c := fun c hc => (Text.isDigit_eq c).trans (h c hc)
  rw [Text.spanDigits, List.takeWhile_eq_self_iff.mpr hdigit, List.dropWhile_eq_nil_iff.mpr hdigit,
    filterMap_digit? h]

def digitsOf (n : Nat) : List Nat := (Text.decimal n).map fun c => c.toNat - '0'.toNat

theorem ofDigits_digitsOf (n : Nat) : Text.ofDigits 10 (digitsOf n) = n := by
  rw [digitsOf, Text.ofDigits_map]
  exact Nat.ofDigitChars_ten_toDigits

theorem scanWhole_decimal (n : Nat) : scanWhole (Text.decimal n) = some (digitsOf n, []) := by
  rcases Nat.eq_zero_or_pos n with rfl | hn
  · rfl
  · have hspan := spanDigits_of_isDigit fun c (hc : c ∈ Text.decimal n) => Text.isDigit_of_mem_decimal hc
    unfold scanWhole
    split
    · next after heq => exact absurd heq (toDigits_ne_zero_cons hn after)
    · rw [hspan]
      cases hdecimal : Text.decimal n with
      | nil => exact absurd hdecimal Nat.toDigits_ne_nil
      | cons c s => rw [digitsOf, hdecimal, List.map_cons]

theorem scanUnsigned_decimal (negative : Bool) (n : Nat) :
    scanUnsigned negative (Text.decimal n) = some (⟨negative, digitsOf n, [], none⟩, []) := by
  rw [scanUnsigned, scanWhole_decimal]
  rfl

theorem scanNumeral_renderInt (n : Int) :
    scanNumeral (renderInt n) = some (⟨n < 0, digitsOf n.natAbs, [], none⟩, []) := by
  unfold renderInt
  split
  · next hn =>
    rw [decide_eq_true hn]
    exact scanUnsigned_decimal true n.natAbs
  · next hn =>
    rw [decide_eq_false hn, ← scanUnsigned_decimal, List.nil_append]
    cases hdecimal : Text.decimal n.natAbs with
    | nil => rfl
    | cons c s =>
      refine scanNumeral_of_ne ?_ s
      rintro rfl
      have hdigit := Text.isDigit_of_mem_decimal (hdecimal ▸ List.mem_cons_self)
      exact absurd hdigit (by decide)

theorem le_foldl_digits (digits : List Nat) (n : Nat) :
    n ≤ digits.foldl (fun n d => n * 10 + d) n := by
  induction digits generalizing n with
  | nil => exact Nat.le_refl n
  | cons d digits ih => exact Nat.le_trans (by omega) (ih (n * 10 + d))

theorem gather_of_lt (n : Nat) (digits : List Nat)
    (h : digits.foldl (fun n d => n * 10 + d) n < UInt64.size) :
    gather n digits = (digits.foldl (fun n d => n * 10 + d) n, []) := by
  induction digits generalizing n with
  | nil => rfl
  | cons d digits ih =>
    rw [List.foldl_cons] at h
    rw [gather, if_pos (Nat.lt_of_le_of_lt (le_foldl_digits digits _) h)]
    exact ih _ h

/-- The number is read back as it is written. -/
def Number.ReadsBack (n : Number) : Prop := readNumber (renderNumber n) = some (.number n, [])

theorem Number.readsBack_iff (n : Number) : n.ReadsBack ↔
    (scanNumeral (renderNumber n)).map (fun found => (Number.ofNumeral found.1, found.2)) =
      some (n, []) := by
  simp only [ReadsBack, readNumber, Option.map_eq_some_iff, Prod.ext_iff, Json.number.injEq]

instance (n : Number) : Decidable n.ReadsBack := decidable_of_iff _ n.readsBack_iff.symm

theorem Number.readsBack_integer {n : Int} (h : (Number.integer n).IsWord) :
    (Number.integer n).ReadsBack := by
  obtain ⟨hlow, hhigh⟩ := h
  have hmin : Int64.minValue.toInt = -9223372036854775808 := rfl
  have hsize : UInt64.size = 18446744073709551616 := rfl
  have hgather : gather 0 (digitsOf n.natAbs) = (n.natAbs, []) := by
    have hvalue : (digitsOf n.natAbs).foldl (fun n d => n * 10 + d) 0 = n.natAbs :=
      ofDigits_digitsOf n.natAbs
    rw [gather_of_lt _ _ (by omega), hvalue]
  have hwhole : Number.ofWhole (n < 0) n.natAbs = .integer n := by
    unfold Number.ofWhole
    split
    · next hn =>
      rw [decide_eq_true_eq] at hn
      rw [if_pos (by omega), Int.ofNat_natAbs_of_nonpos (by omega), Int.neg_neg]
    · next hn =>
      rw [decide_eq_true_eq, Int.not_lt] at hn
      rw [Int.natAbs_of_nonneg hn]
  rw [ReadsBack, renderNumber, readNumber, scanNumeral_renderInt, Option.map_some]
  simp [Number.ofNumeral, hgather, hwhole]

theorem Number.ReadsBack.append {n : Number} (h : n.ReadsBack) {rest : List Char}
    (hrest : EndsNumeral rest) : readNumber (renderNumber n ++ rest) = some (.number n, rest) := by
  obtain ⟨⟨numeral, after⟩, hscan, heq⟩ := Option.map_eq_some_iff.mp h
  obtain ⟨hnumber, rfl⟩ := Prod.mk.inj heq
  rw [readNumber, extends_scanNumeral _ _ _ _ hrest hscan, Option.map_some, ← hnumber]
  rfl

/-! Strings. -/

theorem not_isSurrogate (c : Char) :
    isHighSurrogate c.toNat = false ∧ isLowSurrogate c.toNat = false := by
  have h : c.toNat < 0xD800 ∨ 0xDFFF < c.toNat := by
    rcases c.valid with h | h
    · exact .inl h
    · exact .inr h.1
  simp only [isHighSurrogate, isLowSurrogate, Bool.and_eq_false_iff, decide_eq_false_iff_not]
  change (¬ (0xD800 : Nat) ≤ c.toNat ∨ ¬ c.toNat ≤ (0xDBFF : Nat)) ∧
    (¬ (0xDC00 : Nat) ≤ c.toNat ∨ ¬ c.toNat ≤ (0xDFFF : Nat))
  omega

theorem joinSurrogates_map (s : List Char) : joinSurrogates (s.map Char.toNat) = some s := by
  induction s with
  | nil => rfl
  | cons c s ih =>
    have hc := not_isSurrogate c
    cases s with
    | nil => simp [joinSurrogates, hc]
    | cons d s =>
      rw [List.map_cons] at ih
      simp [joinSurrogates, hc, ih]

theorem scanString_plain {c : Char} (hquote : c ≠ '"') (hescape : c ≠ '\\')
    (hcontrol : ¬ c.toNat < 0x20) (rest : List Char) :
    scanString (c :: rest) = (scanString rest).map fun p => (c.toNat :: p.1, p.2) := by
  rw [scanString]
  · rw [if_neg (not_or.mpr ⟨hescape, hcontrol⟩)]
    cases scanString rest <;> rfl
  · exact hquote
  · exact fun _ _ _ _ _ h => absurd h hescape
  · exact fun _ _ h => absurd h hescape

theorem scanString_escaped {c escaped : Char} (hsimple : simpleEscape? c = some escaped)
    (hunicode : c ≠ 'u') (rest : List Char) :
    scanString ('\\' :: c :: rest) =
      (scanString rest).map fun p => (escaped.toNat :: p.1, p.2) := by
  rw [scanString]
  · rw [hsimple]
    cases scanString rest <;> rfl
  · exact fun _ _ _ _ _ h => absurd h hunicode

theorem padZero_hexadecimal (n : Fin 32) :
    Text.padZero 4 (Text.hexadecimal n.val) =
      ['0', '0', (n.val / 16).digitChar, (n.val % 16).digitChar] ∧
    (['0', '0', (n.val / 16).digitChar, (n.val % 16).digitChar].mapM Text.hexDigit?).map
      (Text.ofDigits 16) = some n.val := by
  revert n
  decide

theorem scanString_control {c : Char} (h : c.toNat < 0x20) (rest : List Char) :
    scanString (['\\', 'u'] ++ Text.padZero 4 (Text.hexadecimal c.toNat) ++ rest) =
      (scanString rest).map fun p => (c.toNat :: p.1, p.2) := by
  obtain ⟨hpad, hvalue⟩ := padZero_hexadecimal ⟨c.toNat, h⟩
  obtain ⟨digits, hread, hvalue⟩ := Option.map_eq_some_iff.mp hvalue
  dsimp only at hpad hread hvalue
  rw [hpad]
  simp only [List.cons_append, List.nil_append]
  rw [scanString, hread, Option.bind_eq_bind, Option.bind_some, hvalue]
  cases scanString rest <;> rfl

theorem scanString_escapeChar (c : Char) (rest : List Char) :
    scanString (escapeChar c ++ rest) = (scanString rest).map fun p => (c.toNat :: p.1, p.2) := by
  unfold escapeChar
  split
  · next h => subst h; exact scanString_escaped rfl (by decide) rest
  split
  · next h => subst h; exact scanString_escaped rfl (by decide) rest
  split
  · next h => subst h; exact scanString_escaped rfl (by decide) rest
  split
  · next h => subst h; exact scanString_escaped rfl (by decide) rest
  split
  · next h => subst h; exact scanString_escaped rfl (by decide) rest
  split
  · next h => subst h; exact scanString_escaped rfl (by decide) rest
  split
  · next h => subst h; exact scanString_escaped rfl (by decide) rest
  split
  · next h => exact scanString_control h rest
  · next hquote hescape _ _ _ _ _ hcontrol => exact scanString_plain hquote hescape hcontrol rest

theorem readString_renderString (s : String) (rest : List Char) :
    readString (s.toList.flatMap escapeChar ++ '"' :: rest) = some (some s, rest) := by
  have hscan (t : List Char) :
      scanString (t.flatMap escapeChar ++ '"' :: rest) = some (t.map Char.toNat, rest) := by
    induction t with
    | nil => rfl
    | cons c t ih => rw [List.flatMap_cons, List.append_assoc, scanString_escapeChar, ih]; rfl
  rw [readString, hscan, Option.bind_eq_bind, Option.bind_some]
  dsimp only
  rw [joinSurrogates_map, Option.map_some, String.ofList_toList]
  rfl

end ResourceBroker.Json
