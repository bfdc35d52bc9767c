import Mathlib.Tactic.Ring
import ResourceBroker.Json.Parser

/-!
Whole numbers of documents. What is read as a whole number has 64 bits, so it is a real number as well,
rounded if need be, and no numeral that has a value is too large for a real one.
-/

namespace ResourceBroker

namespace Binary64

theorem roundHalfEven_le (n d : Nat) : roundHalfEven n d ≤ n / d + 1 := by
  unfold roundHalfEven
  split
  · omega
  · split <;> omega

theorem rank_lt {N : Nat} (h : N.log2 < 1138) :
    (N.log2 - 52) <<< 52 + roundHalfEven N (1 <<< (N.log2 - 52)) < 2047 <<< 52 := by
  have hround := roundHalfEven_le N (2 ^ (N.log2 - 52))
  have hquotient : N / 2 ^ (N.log2 - 52) < 2 ^ 53 := by
    rw [Nat.div_lt_iff_lt_mul (Nat.two_pow_pos _), ← Nat.pow_add]
    exact N.lt_log2_self.trans_le (Nat.pow_le_pow_right (by decide) (by omega))
  simp only [Nat.shiftLeft_eq, Nat.one_mul]
  omega

theorem log2_shiftLeft_lt {n k : Nat} (h : n < UInt64.size) : (n <<< k).log2 < 64 + k := by
  by_cases hzero : n <<< k = 0
  · simp [hzero]
  · rw [Nat.log2_lt hzero, Nat.shiftLeft_eq, Nat.pow_add]
    exact Nat.mul_lt_mul_of_pos_right h (Nat.two_pow_pos k)

theorem isSome_ofRatio?_one (negative : Bool) {n : Nat} (h : n < UInt64.size) :
    (ofRatio? negative n 1).isSome := by
  rw [ofRatio?, Nat.div_one, dif_pos (rank_lt (log2_shiftLeft_lt h)), Option.isSome_some]

end Binary64

namespace Json

/-- The number is real, or a whole number that 64 bits can hold, with or without a sign. -/
def Number.IsWord : Number → Prop
  | .integer n => Int64.minValue.toInt ≤ n ∧ n < UInt64.size
  | .real _ | .tooLarge => True

theorem Number.isSome_toReal? {n : Number} (h : n.IsWord) (hvalue : n ≠ .tooLarge) :
    n.toReal?.isSome := by
  cases n with
  | integer n =>
    apply Binary64.isSome_ofRatio?_one
    have hmin : Int64.minValue.toInt = -9223372036854775808 := rfl
    have hsize : UInt64.size = 18446744073709551616 := rfl
    obtain ⟨hlow, hhigh⟩ := h
    omega
  | real x => rfl
  | tooLarge => exact absurd rfl hvalue

theorem Number.isWord_ofReal? (x : Option Binary64) : (Number.ofReal? x).IsWord := by
  cases x <;> trivial

theorem gather_lt {n : Nat} (h : n < UInt64.size) (digits : List Nat) :
    (gather n digits).1 < UInt64.size := by
  induction digits generalizing n with
  | nil => exact h
  | cons d digits ih =>
    rw [gather]
    split
    · next hd => exact ih hd
    · exact h

theorem Number.isWord_ofWhole (negative : Bool) {n : Nat} (h : n < UInt64.size) :
    (Number.ofWhole negative n).IsWord := by
  unfold ofWhole
  split
  · split
    · next hn => exact ⟨hn.2, by omega⟩
    · exact isWord_ofReal? _
  · exact ⟨by have : Int64.minValue.toInt ≤ 0 := by decide
              omega, by omega⟩

theorem Number.isWord_ofNumeral (numeral : Numeral) : (Number.ofNumeral numeral).IsWord := by
  have hgather := gather_lt (n := 0) (by decide) numeral.whole
  unfold ofNumeral
  dsimp only
  split
  · exact isWord_ofWhole _ hgather
  · split
    · exact isWord_ofReal? _
    · split
      · exact isWord_ofReal? _
      · split <;> trivial

/-- Every whole number in the tree is of 64 bits. -/
inductive Wordy : Json → Prop where
  | null : Wordy .null
  | bool (b : Bool) : Wordy (.bool b)
  | number {n : Number} (word : n.IsWord) : Wordy (.number n)
  | string (text : Text) : Wordy (.string text)
  | array {elements : List Json} (each : ∀ v ∈ elements, Wordy v) : Wordy (.array elements)
  | object {members : List (Text × Json)} (each : ∀ m ∈ members, Wordy m.2) :
    Wordy (.object members)

theorem wordy_of_readNumber {s rest : List Char} {v : Json} (h : readNumber s = some (v, rest)) :
    v.Wordy := by
  obtain ⟨numeral, -, heq⟩ := Option.map_eq_some_iff.mp h
  obtain ⟨rfl, -⟩ := Prod.mk.inj heq
  exact .number (Number.isWord_ofNumeral _)

structure ReadsWordy (fuel : Nat) : Prop where
  value {s rest : List Char} {v : Json} : readValue fuel s = some (v, rest) → v.Wordy
  elements {s rest : List Char} {vs : List Json} :
    readElements fuel s = some (vs, rest) → ∀ v ∈ vs, v.Wordy
  members {s rest : List Char} {ms : List (Text × Json)} :
    readMembers fuel s = some (ms, rest) → ∀ m ∈ ms, m.2.Wordy

section

variable {fuel : Nat} {s rest : List Char}

theorem ReadsWordy.value_succ (hless : ReadsWordy fuel) {v : Json}
    (h : readValue (fuel + 1) s = some (v, rest)) : v.Wordy := by
  rw [readValue] at h
  split at h
  · cases h; exact .null
  · cases h; exact .bool _
  · cases h; exact .bool _
  · obtain ⟨_, -, heq⟩ := Option.map_eq_some_iff.mp h
    cases heq; exact .string _
  · split at h
    · cases h; exact .array nofun
    · obtain ⟨⟨vs, after⟩, hread, heq⟩ := Option.map_eq_some_iff.mp h
      cases heq
      exact .array (hless.elements hread)
  · split at h
    · cases h; exact .object nofun
    · obtain ⟨⟨ms, after⟩, hread, heq⟩ := Option.map_eq_some_iff.mp h
      cases heq
      exact .object (hless.members hread)
  · exact wordy_of_readNumber h

theorem ReadsWordy.elements_succ (hless : ReadsWordy fuel) {vs : List Json}
    (h : readElements (fuel + 1) s = some (vs, rest)) : ∀ v ∈ vs, v.Wordy := by
  simp only [readElements, Option.bind_eq_bind, Option.bind_eq_some_iff] at h
  obtain ⟨⟨v, after⟩, hread, h⟩ := h
  dsimp only at h
  split at h
  · obtain ⟨⟨vs, last⟩, hrest, h⟩ := Option.bind_eq_some_iff.mp h
    cases h
    exact List.forall_mem_cons.mpr ⟨hless.value hread, hless.elements hrest⟩
  · cases h
    exact List.forall_mem_cons.mpr ⟨hless.value hread, nofun⟩
  · cases h

theorem ReadsWordy.members_succ (hless : ReadsWordy fuel) {ms : List (Text × Json)}
    (h : readMembers (fuel + 1) s = some (ms, rest)) : ∀ m ∈ ms, m.2.Wordy := by
  simp only [readMembers, Option.bind_eq_bind, Option.bind_eq_some_iff] at h
  obtain ⟨⟨key, middle⟩, -, ⟨v, after⟩, hread, h⟩ := h
  dsimp only at h
  split at h
  · obtain ⟨⟨ms, last⟩, hrest, h⟩ := Option.bind_eq_some_iff.mp h
    cases h
    exact List.forall_mem_cons.mpr ⟨hless.value hread, hless.members hrest⟩
  · cases h
    exact List.forall_mem_cons.mpr ⟨hless.value hread, nofun⟩
  · cases h

end

theorem readsWordy (fuel : Nat) : ReadsWordy fuel := by
  induction fuel with
  | zero => constructor <;> simp [readValue, readElements, readMembers]
  | succ fuel ih => exact ⟨ih.value_succ, ih.elements_succ, ih.members_succ⟩

theorem wordy_of_parse? {s : List Char} {v : Json} (h : parse? s = some v) : v.Wordy := by
  obtain ⟨⟨v', rest⟩, hread, h⟩ := Option.bind_eq_some_iff.mp h
  dsimp only at h
  split at h
  · cases h
    exact (readsWordy _).value hread
  · cases h

end Json
end ResourceBroker
