import Mathlib.Data.Option.Basic
import ResourceBroker.Text.Numeral

/-!
What numerals denote. The value of a row of digits is that of `Nat.ofDigitChars`, and an identifier is
exactly such a row, with or without a plus sign in front, of a value that 16 bits can hold.
-/

namespace ResourceBroker

theorem isSome_mapM_iff {α β : Type} (f : α → Option β) (l : List α) :
    (l.mapM f).isSome ↔ ∀ a ∈ l, (f a).isSome := by
  induction l with
  | nil => simp
  | cons a l ih =>
    rw [List.mapM_cons, List.forall_mem_cons, ← ih]
    cases f a <;> cases l.mapM f <;> simp

theorem exists_of_mem_mapM {α β : Type} {f : α → Option β} {l : List α} {out : List β}
    (h : l.mapM f = some out) {b : β} (hb : b ∈ out) : ∃ a ∈ l, f a = some b := by
  induction l generalizing out with
  | nil => simp_all
  | cons a l ih =>
    simp only [List.mapM_cons, Option.bind_eq_bind, Option.bind_eq_some_iff, Option.pure_def,
      Option.some.injEq] at h
    obtain ⟨first, hfirst, rest, hrest, rfl⟩ := h
    obtain rfl | hb := List.mem_cons.mp hb
    · exact ⟨a, List.mem_cons_self, hfirst⟩
    · obtain ⟨a', ha', h⟩ := ih hrest hb
      exact ⟨a', List.mem_cons_of_mem _ ha', h⟩

theorem mapM_map_eq_some {α β : Type} {f : β → Option α} {g : α → β} {l : List α}
    (h : ∀ a ∈ l, f (g a) = some a) : (l.map g).mapM f = some l := by
  induction l with
  | nil => rfl
  | cons a l ih =>
    simp [h a List.mem_cons_self, ih fun b hb => h b (List.mem_cons_of_mem _ hb)]

namespace Text

theorem digit?_eq_some_iff {c : Char} {d : Nat} :
    digit? c = some d ↔ c.isDigit ∧ c.toNat - '0'.toNat = d := by
  have h : c.isDigit = true ↔ '0' ≤ c ∧ c ≤ '9' := by
    rw [Char.isDigit, Bool.and_eq_true, decide_eq_true_eq, decide_eq_true_eq]
    rfl
  rw [h, digit?]
  split <;> simp_all

theorem isDigit_eq (c : Char) : isDigit c = c.isDigit := by
  rw [isDigit, Bool.eq_iff_iff, Option.isSome_iff_exists]
  simp [digit?_eq_some_iff]

theorem mapM_digit?_eq_some_iff {s : List Char} {digits : List Nat} :
    s.mapM digit? = some digits ↔
      (∀ c ∈ s, c.isDigit) ∧ digits = s.map fun c => c.toNat - '0'.toNat := by
  induction s generalizing digits with
  | nil => exact ⟨fun h => ⟨by simp, (Option.some.inj h).symm⟩, fun h => h.2 ▸ rfl⟩
  | cons c s ih =>
    rw [List.mapM_cons, Option.bind_eq_bind, Option.bind_eq_some_iff]
    simp only [digit?_eq_some_iff, Option.bind_eq_bind, Option.bind_eq_some_iff, ih,
      List.forall_mem_cons, List.map_cons, Option.pure_def, Option.some.injEq]
    constructor
    · rintro ⟨_, ⟨hc, rfl⟩, _, ⟨hs, rfl⟩, rfl⟩
      exact ⟨⟨hc, hs⟩, rfl⟩
    · rintro ⟨⟨hc, hs⟩, rfl⟩
      exact ⟨_, ⟨hc, rfl⟩, _, ⟨hs, rfl⟩, rfl⟩

theorem ofDigits_map (s : List Char) :
    ofDigits 10 (s.map fun c => c.toNat - '0'.toNat) = Nat.ofDigitChars 10 s 0 := by
  simp [ofDigits, Nat.ofDigitChars_eq_foldl, List.foldl_map, Nat.mul_comm]

theorem natural?_eq_some_iff {s : List Char} {n : Nat} :
    natural? s = some n ↔ s ≠ [] ∧ (∀ c ∈ s, c.isDigit) ∧ Nat.ofDigitChars 10 s 0 = n := by
  rw [natural?]
  split
  · simp_all
  · rw [Option.map_eq_some_iff]
    simp only [mapM_digit?_eq_some_iff]
    constructor
    · rintro ⟨_, ⟨hdigits, rfl⟩, rfl⟩
      exact ⟨by simp_all, hdigits, (ofDigits_map s).symm⟩
    · rintro ⟨-, hdigits, rfl⟩
      exact ⟨_, ⟨hdigits, rfl⟩, ofDigits_map s⟩

theorem isDigit_of_mem_decimal {n : Nat} {c : Char} (h : c ∈ decimal n) : c.isDigit :=
  Nat.isDigit_of_mem_toDigits (by decide) (by decide) h

theorem length_padZero_toDigits {base width n : Nat} (hbase : 1 < base) (hwidth : 0 < width)
    (h : n < Nat.pow base width) : (padZero width (Nat.toDigits base n)).length = width := by
  have hlength := (Nat.length_toDigits_le_iff hbase hwidth).mpr h
  simp only [padZero, List.length_append, List.length_replicate]
  omega

theorem isDigit_of_mem_padZero {width n : Nat} {c : Char} (h : c ∈ padZero width (decimal n)) :
    c.isDigit := by
  rw [padZero, List.mem_append, List.mem_replicate] at h
  obtain ⟨-, rfl⟩ | h := h
  · decide
  · exact isDigit_of_mem_decimal h

theorem natural?_padZero (width n : Nat) : natural? (padZero width (decimal n)) = some n := by
  rw [natural?_eq_some_iff]
  refine ⟨by simp [padZero, decimal, Nat.toDigits_ne_nil], fun c => isDigit_of_mem_padZero, ?_⟩
  have hzeros : Nat.ofDigitChars 10 (List.replicate (width - (decimal n).length) '0') 0 = 0 := by
    induction width - (decimal n).length with
    | zero => rfl
    | succ k ih => simpa [List.replicate_succ, Nat.ofDigitChars_eq_foldl] using ih
  rw [padZero, Nat.ofDigitChars_append, hzeros]
  exact Nat.ofDigitChars_ten_toDigits

/-- The text is a row of digits for that number, perhaps behind a plus sign. -/
def Denotes (s : List Char) (n : Nat) : Prop :=
  ∃ digits : List Char, (s = digits ∨ s = '+' :: digits) ∧ digits ≠ [] ∧ (∀ c ∈ digits, c.isDigit) ∧
    Nat.ofDigitChars 10 digits 0 = n

theorem denotes_plus (rest : List Char) (n : Nat) :
    Denotes ('+' :: rest) n ↔ natural? rest = some n := by
  rw [natural?_eq_some_iff]
  constructor
  · rintro ⟨digits, hs | hs, hne, hdigits, hvalue⟩
    · subst hs
      exact absurd (hdigits '+' (by simp)) (by decide)
    · obtain rfl := List.tail_eq_of_cons_eq hs
      exact ⟨hne, hdigits, hvalue⟩
  · exact fun h => ⟨rest, .inr rfl, h⟩

theorem denotes_unsigned {s : List Char} (h : ∀ rest, s ≠ '+' :: rest) (n : Nat) :
    Denotes s n ↔ natural? s = some n := by
  rw [natural?_eq_some_iff]
  constructor
  · rintro ⟨digits, rfl | hs, hdigits⟩
    · exact hdigits
    · exact absurd hs (h digits)
  · exact fun hs => ⟨s, .inl rfl, hs⟩

theorem Denotes.unique {s : List Char} {n m : Nat} (hn : Denotes s n) (hm : Denotes s m) :
    n = m := by
  by_cases h : ∃ rest, s = '+' :: rest
  · obtain ⟨rest, rfl⟩ := h
    rw [denotes_plus] at hn hm
    exact Option.some.inj (hn.symm.trans hm)
  · rw [denotes_unsigned fun rest hs => h ⟨rest, hs⟩] at hn hm
    exact Option.some.inj (hn.symm.trans hm)

theorem idNumeral?_eq_some_iff {s : List Char} {id : UInt16} :
    idNumeral? s = some id ↔ Denotes s id.toNat := by
  have hbelow (n : Nat) : (if n < UInt16.size then some (UInt16.ofNat n) else none) = some id ↔
      n = id.toNat := by
    constructor
    · intro h
      split at h
      · next hn => rw [← Option.some.inj h, UInt16.toNat_ofNat_of_lt' hn]
      · cases h
    · rintro rfl
      rw [if_pos id.toNat_lt_size, UInt16.ofNat_toNat]
  have hread (digits : List Char) :
      ((natural? digits).bind fun n => if n < UInt16.size then some (UInt16.ofNat n) else none) =
        some id ↔ natural? digits = some id.toNat := by
    cases natural? digits with
    | none => simp
    | some n => simpa using hbelow n
  unfold idNumeral?
  split
  · next digits =>
    rw [denotes_plus, ← hread]
    dsimp only
    cases natural? digits <;> rfl
  · next h =>
    rw [denotes_unsigned h, ← hread]
    dsimp only
    cases natural? s <;> rfl

theorem isSome_idNumeral?_iff (s : List Char) :
    (idNumeral? s).isSome ↔ ∃ n ≤ 65535, Denotes s n := by
  rw [Option.isSome_iff_exists]
  simp only [idNumeral?_eq_some_iff]
  constructor
  · rintro ⟨id, h⟩
    exact ⟨id.toNat, Nat.le_of_lt_succ id.toNat_lt, h⟩
  · rintro ⟨n, hn, h⟩
    refine ⟨UInt16.ofNat n, ?_⟩
    rwa [UInt16.toNat_ofNat_of_lt' (Nat.lt_succ_of_le hn)]

end Text
end ResourceBroker
