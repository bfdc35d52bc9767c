import ResourceBroker.Json.Reader
import ResourceBroker.Proofs.Json.Literal

/-!
Trees that are read back as they were written. Such a tree has characters for all its texts and 64 bits
for its whole numbers, and its real numbers are read back, each for itself.
-/

namespace ResourceBroker.Json

/-- A tree that can be written, and nests arrays and objects at most `depth` deep. -/
inductive Plain : Nat → Json → Prop where
  | null {depth : Nat} : Plain depth .null
  | bool {depth : Nat} (b : Bool) : Plain depth (.bool b)
  | number {depth : Nat} {n : Number} (word : n.IsWord) (value : n ≠ .tooLarge) :
    Plain depth (.number n)
  | string {depth : Nat} (s : String) : Plain depth (.string (some s))
  | array {depth : Nat} {elements : List Json} (each : ∀ v ∈ elements, Plain depth v) :
    Plain (depth + 1) (.array elements)
  | record {depth : Nat} {members : List (String × Json)} (each : ∀ m ∈ members, Plain depth m.2) :
    Plain (depth + 1) (record members)

namespace Plain

variable {depth : Nat}

@[simp] theorem ofString (s : String) : Plain depth (.ofString s) := .string s

@[simp] theorem ofBool (b : Bool) : Plain depth (.bool b) := .bool b

@[simp] theorem ofNull : Plain depth .null := .null

@[simp] theorem ofReal (x : Binary64) : Plain depth (.number (.real x)) := .number trivial nofun

theorem ofNat {n : Nat} (h : n < UInt64.size) : Plain depth (.ofNat n) :=
  .number ⟨Int.le_trans (by decide) (Int.natCast_nonneg n), Int.ofNat_lt.mpr h⟩ nofun

@[simp] theorem ofUInt8 (n : UInt8) : Plain depth (.ofNat n.toNat) :=
  ofNat (Nat.lt_trans n.toNat_lt_size (by decide))

@[simp] theorem ofUInt16 (n : UInt16) : Plain depth (.ofNat n.toNat) :=
  ofNat (Nat.lt_trans n.toNat_lt_size (by decide))

@[simp] theorem ofUInt32 (n : UInt32) : Plain depth (.ofNat n.toNat) :=
  ofNat (Nat.lt_trans n.toNat_lt_size (by decide))

@[simp] theorem ofUInt64 (n : UInt64) : Plain depth (.ofNat n.toNat) := ofNat n.toNat_lt_size

@[simp] theorem ofInt64 (n : Int64) : Plain depth (.ofInt n.toInt) :=
  .number ⟨n.minValue_le_toInt, Int.lt_of_le_of_lt n.toInt_le (by decide)⟩ nofun

@[simp] theorem array_iff {elements : List Json} :
    Plain (depth + 1) (.array elements) ↔ ∀ v ∈ elements, Plain depth v :=
  ⟨fun | .array each => each, .array⟩

@[simp] theorem record_iff {members : List (String × Json)} :
    Plain (depth + 1) (Json.record members) ↔ ∀ m ∈ members, Plain depth m.2 := by
  refine ⟨fun h => ?_, .record⟩
  generalize heq : Json.record members = v at h
  cases h with
  | @record _ others each =>
    have hmembers : members = others :=
      (List.map_inj_right fun m other hm => by simpa [Prod.ext_iff] using hm).mp
        (Json.object.inj heq)
    exact hmembers ▸ each
  | _ => cases heq

end Plain

mutual

def reals : Json → List Binary64
  | .number (.real x) => [x]
  | .array elements => elementReals elements
  | .object members => memberReals members
  | _ => []
termination_by structural value => value

def elementReals : List Json → List Binary64
  | [] => []
  | value :: rest => reals value ++ elementReals rest
termination_by structural values => values

def memberReals : List (Text × Json) → List Binary64
  | [] => []
  | (_, value) :: rest => reals value ++ memberReals rest
termination_by structural members => members

end

theorem elementReals_eq (elements : List Json) : elementReals elements = elements.flatMap reals := by
  induction elements with
  | nil => rfl
  | cons v elements ih => rw [elementReals, ih, List.flatMap_cons]

theorem memberReals_eq (members : List (Text × Json)) :
    memberReals members = members.flatMap fun m => reals m.2 := by
  induction members with
  | nil => rfl
  | cons m members ih => rw [memberReals, ih, List.flatMap_cons]

/-- All real numbers in the tree are read back as they are written. -/
def RealsReadBack (v : Json) : Prop := ∀ x ∈ v.reals, (Number.real x).ReadsBack

instance (v : Json) : Decidable v.RealsReadBack :=
  inferInstanceAs (Decidable (∀ x ∈ v.reals, (Number.real x).ReadsBack))

theorem realsReadBack_array (elements : List Json) :
    RealsReadBack (.array elements) ↔ ∀ v ∈ elements, v.RealsReadBack := by
  simp only [RealsReadBack, reals, elementReals_eq, List.mem_flatMap]
  exact ⟨fun h v hv x hx => h x ⟨v, hv, hx⟩, fun h x ⟨v, hv, hx⟩ => h v hv x hx⟩

theorem realsReadBack_record (members : List (String × Json)) :
    RealsReadBack (record members) ↔ ∀ m ∈ members, m.2.RealsReadBack := by
  simp only [RealsReadBack, record, reals, memberReals_eq, List.flatMap_map, List.mem_flatMap]
  exact ⟨fun h m hm x hx => h x ⟨m, hm, hx⟩, fun h x ⟨m, hm, hx⟩ => h m hm x hx⟩

/-! Where a value begins and ends in a text. -/

theorem skipSpace_cons {c : Char} (h : isSpace c = false) (s : List Char) :
    skipSpace (c :: s) = c :: s := by
  simp [skipSpace, h]

theorem head_of_scanWhole {s : List Char} {found : List Nat × List Char}
    (h : scanWhole s = some found) : ∃ c rest, s = c :: rest ∧ c.isDigit := by
  unfold scanWhole at h
  split at h
  · next rest => exact ⟨'0', rest, rfl, by decide⟩
  · cases s with
    | nil => simp [Text.spanDigits] at h
    | cons c rest =>
      refine ⟨c, rest, rfl, ?_⟩
      by_contra hc
      simp [Text.spanDigits, Text.isDigit_eq, hc] at h

theorem head_of_scanNumeral {s : List Char} {found : Numeral × List Char}
    (h : scanNumeral s = some found) : ∃ c rest, s = c :: rest ∧ (c = '-' ∨ c.isDigit) := by
  unfold scanNumeral at h
  split at h
  · next rest => exact ⟨'-', rest, rfl, .inl rfl⟩
  · obtain ⟨whole, hwhole, -⟩ := Option.bind_eq_some_iff.mp h
    obtain ⟨c, rest, hs, hc⟩ := head_of_scanWhole hwhole
    exact ⟨c, rest, hs, .inr hc⟩

theorem Number.ReadsBack.head {n : Number} (h : n.ReadsBack) :
    ∃ c rest, renderNumber n = c :: rest ∧ (c = '-' ∨ c.isDigit) := by
  obtain ⟨_, hscan, -⟩ := Option.map_eq_some_iff.mp h
  exact head_of_scanNumeral hscan

theorem isSpace_of_numeral {c : Char} (h : c = '-' ∨ c.isDigit) : isSpace c = false := by
  by_contra hspace
  simp only [Bool.not_eq_false, isSpace, Bool.or_eq_true, decide_eq_true_eq] at hspace
  rcases hspace with ((rfl | rfl) | rfl) | rfl <;> revert h <;> decide

theorem readValue_of_numeral {c : Char} (h : c = '-' ∨ c.isDigit) (fuel : Nat) (s : List Char) :
    readValue (fuel + 1) (c :: s) = readNumber (c :: s) := by
  rw [readValue, skipSpace_cons (isSpace_of_numeral h)]
  split
  case h_7 => rfl
  all_goals
    next heq =>
      obtain ⟨rfl, -⟩ := List.cons.inj heq
      exact absurd h (by decide)

theorem Number.readsBack_of_isWord {n : Number} (word : n.IsWord) (value : n ≠ .tooLarge)
    (hreals : (Json.number n).RealsReadBack) : n.ReadsBack := by
  cases n with
  | integer n => exact readsBack_integer word
  | real x => exact hreals x (by simp [reals])
  | tooLarge => exact absurd rfl value

theorem head_of_plain {depth : Nat} {v : Json} (h : Plain depth v) (hreals : v.RealsReadBack) :
    ∃ c rest, render v = c :: rest ∧ isSpace c = false ∧ c ≠ ']' := by
  cases h with
  | null => exact ⟨_, _, rfl, by decide, by decide⟩
  | bool b => cases b <;> exact ⟨_, _, rfl, by decide, by decide⟩
  | number word value =>
    obtain ⟨c, rest, hrender, hc⟩ := (Number.readsBack_of_isWord word value hreals).head
    refine ⟨c, rest, hrender, isSpace_of_numeral hc, ?_⟩
    rintro rfl
    exact absurd hc (by decide)
  | string s => exact ⟨_, _, rfl, by decide, by decide⟩
  | @array _ elements each => cases elements <;> exact ⟨_, _, rfl, by decide, by decide⟩
  | @record _ members each => cases members <;> exact ⟨_, _, rfl, by decide, by decide⟩

theorem endsNumeral_renderElements (elements : List Json) (rest : List Char) :
    EndsNumeral (renderElements elements ++ rest) := by
  cases elements <;> simp [renderElements, EndsNumeral]

theorem endsNumeral_renderMembers (members : List (Text × Json)) (rest : List Char) :
    EndsNumeral (renderMembers members ++ rest) := by
  cases members <;> simp [renderMembers, EndsNumeral]

/-- The value is read off the front of a text, given calls for twice its length. -/
def IsRead (v : Json) : Prop :=
  ∀ fuel rest, 2 * (render v).length ≤ fuel → EndsNumeral rest →
    readValue fuel (render v ++ rest) = some (v, rest)

theorem IsRead.of_pos {v : Json} (hpos : 0 < (render v).length)
    (h : ∀ fuel rest, 2 * (render v).length ≤ fuel + 1 → EndsNumeral rest →
      readValue (fuel + 1) (render v ++ rest) = some (v, rest)) : v.IsRead := by
  intro fuel rest hfuel hrest
  obtain ⟨fuel, rfl⟩ := Nat.exists_eq_add_one.mpr (show 0 < fuel by omega)
  exact h fuel rest hfuel hrest

theorem readElements_render {v : Json} {elements : List Json} (hv : v.IsRead)
    (h : ∀ w ∈ elements, w.IsRead) (fuel : Nat) (rest : List Char)
    (hfuel : 2 * (render v ++ renderElements elements).length ≤ fuel) :
    readElements fuel (render v ++ renderElements elements ++ rest) =
      some (v :: elements, rest) := by
  induction elements generalizing v fuel with
  | nil =>
    simp only [renderElements, List.length_append, List.length_singleton] at hfuel
    obtain ⟨fuel, rfl⟩ := Nat.exists_eq_add_one.mpr (show 0 < fuel by omega)
    rw [readElements, List.append_assoc,
      hv fuel _ (by omega) (endsNumeral_renderElements [] rest), Option.bind_eq_bind, Option.bind_some]
    rfl
  | cons w elements ih =>
    rw [List.forall_mem_cons] at h
    simp only [renderElements, List.length_append, List.length_cons] at hfuel ih
    obtain ⟨fuel, rfl⟩ := Nat.exists_eq_add_one.mpr (show 0 < fuel by omega)
    have hrest := ih h.1 h.2 fuel (by omega)
    rw [readElements, List.append_assoc,
      hv fuel _ (by omega) (endsNumeral_renderElements (w :: elements) rest), Option.bind_eq_bind,
      Option.bind_some]
    simp only [renderElements, List.cons_append, skipSpace_cons (show isSpace ',' = false by decide)]
    rw [hrest]
    rfl

theorem readKey_renderString (key : String) (rest : List Char) :
    readKey (renderString key ++ ':' :: rest) = some (some key, rest) := by
  rw [readKey, renderString, List.cons_append, List.cons_append, skipSpace_cons (by decide)]
  have hread := readString_renderString key (':' :: rest)
  simp only [List.append_assoc, List.cons_append, List.nil_append, Option.bind_eq_bind] at hread ⊢
  rw [hread, Option.bind_some]
  simp only [skipSpace_cons (show isSpace ':' = false by decide)]

theorem readMembers_render {key : String} {v : Json} {members : List (String × Json)}
    (hv : v.IsRead) (h : ∀ m ∈ members, m.2.IsRead) (fuel : Nat) (rest : List Char)
    (hfuel : 2 * (renderString key ++ ':' :: render v ++
      renderMembers (members.map fun m => (some m.1, m.2))).length ≤ fuel) :
    readMembers fuel (renderString key ++ ':' :: render v ++
      renderMembers (members.map fun m => (some m.1, m.2)) ++ rest) =
      some ((some key, v) :: members.map fun m => (some m.1, m.2), rest) := by
  induction members generalizing key v fuel with
  | nil =>
    simp only [List.map_nil, renderMembers, List.length_append, List.length_cons] at hfuel
    obtain ⟨fuel, rfl⟩ := Nat.exists_eq_add_one.mpr (show 0 < fuel by omega)
    have hvalue := hv fuel ('}' :: rest) (by omega) (endsNumeral_renderMembers [] rest)
    simp only [List.map_nil, renderMembers, List.append_assoc, List.cons_append, List.nil_append]
    rw [readMembers, readKey_renderString, Option.bind_eq_bind, Option.bind_some]
    dsimp only
    rw [hvalue]
    rfl
  | cons m members ih =>
    rw [List.forall_mem_cons] at h
    simp only [List.map_cons, renderMembers, List.length_append, List.length_cons,
      Option.getD_some] at hfuel ih
    obtain ⟨fuel, rfl⟩ := Nat.exists_eq_add_one.mpr (show 0 < fuel by omega)
    have hrest := @ih m.1 m.2 h.1 h.2 fuel (by omega)
    have hvalue := hv fuel _ (by omega)
      (endsNumeral_renderMembers ((m :: members).map fun m => (some m.1, m.2)) rest)
    simp only [List.map_cons, renderMembers, List.append_assoc, List.cons_append,
      Option.getD_some] at hrest hvalue ⊢
    rw [readMembers, readKey_renderString, Option.bind_eq_bind, Option.bind_some]
    dsimp only
    rw [hvalue, Option.bind_eq_bind, Option.bind_some]
    simp only [skipSpace_cons (show isSpace ',' = false by decide)]
    rw [hrest]
    rfl

theorem readValue_string (s : String) (fuel : Nat) (rest : List Char) :
    readValue (fuel + 1) (renderString s ++ rest) = some (.string (some s), rest) := by
  have hread := readString_renderString s rest
  rw [readValue, renderString, List.cons_append, List.cons_append, skipSpace_cons (by decide)]
  simp only [List.append_assoc, List.cons_append, List.nil_append] at hread ⊢
  rw [hread]
  rfl

theorem isRead_array {elements : List Json}
    (hhead : ∀ v ∈ elements.head?, ∃ c s, render v = c :: s ∧ isSpace c = false ∧ c ≠ ']')
    (h : ∀ v ∈ elements, v.IsRead) : IsRead (.array elements) := by
  cases elements with
  | nil =>
    refine .of_pos (by decide) fun fuel rest _ _ => ?_
    rw [readValue]
    rfl
  | cons v elements =>
    rw [List.forall_mem_cons] at h
    refine .of_pos (by simp [render]) fun fuel rest hfuel _ => ?_
    simp only [render, List.cons_append, List.length_cons] at hfuel ⊢
    have hread := readElements_render h.1 h.2 fuel rest (by omega)
    obtain ⟨c, s, hrender, hspace, hbracket⟩ := hhead v rfl
    rw [readValue, skipSpace_cons (by decide)]
    simp only [hrender, List.cons_append, skipSpace_cons hspace] at hread ⊢
    split
    · next heq => exact absurd (List.cons.inj heq).1 hbracket
    · rw [hread]
      rfl

theorem isRead_record {members : List (String × Json)} (h : ∀ m ∈ members, m.2.IsRead) :
    IsRead (record members) := by
  cases members with
  | nil =>
    refine .of_pos (by decide) fun fuel rest _ _ => ?_
    rw [readValue]
    rfl
  | cons m members =>
    rw [List.forall_mem_cons] at h
    refine .of_pos (by simp [record, render]) fun fuel rest hfuel _ => ?_
    simp only [record, List.map_cons, render, Option.getD_some, List.cons_append,
      List.length_cons] at hfuel ⊢
    have hread := @readMembers_render m.1 m.2 members h.1 h.2 fuel rest (by omega)
    rw [readValue, skipSpace_cons (by decide)]
    simp only [renderString, List.cons_append] at hread ⊢
    simp only [skipSpace_cons (show isSpace '"' = false by decide)]
    split
    · next heq => exact absurd (List.cons.inj heq).1 (by decide)
    · rw [hread]
      rfl

theorem isRead_number {n : Number} (h : n.ReadsBack) : IsRead (.number n) := by
  obtain ⟨c, digits, hrender, hc⟩ := h.head
  refine .of_pos (by simp [render, hrender]) fun fuel rest _ hrest => ?_
  have hread := h.append hrest
  simp only [render, hrender, List.cons_append] at hread ⊢
  rw [readValue_of_numeral hc, hread]

theorem isRead_of_plain {depth : Nat} {v : Json} (h : Plain depth v) (hreals : v.RealsReadBack) :
    v.IsRead := by
  induction h with
  | null =>
    refine .of_pos (by decide) fun fuel rest _ _ => ?_
    rw [readValue]
    rfl
  | bool b =>
    refine .of_pos (by cases b <;> decide) fun fuel rest _ _ => ?_
    rw [readValue]
    cases b <;> rfl
  | number word value => exact isRead_number (Number.readsBack_of_isWord word value hreals)
  | string s =>
    exact .of_pos (by simp [render, renderString]) fun fuel rest _ _ => readValue_string s fuel rest
  | array each ih =>
    rw [realsReadBack_array] at hreals
    refine isRead_array (fun v hv => ?_) fun v hv => ih v hv (hreals v hv)
    have hmem := List.mem_of_mem_head? hv
    exact head_of_plain (each v hmem) (hreals v hmem)
  | record each ih =>
    rw [realsReadBack_record] at hreals
    exact isRead_record fun m hm => ih m hm (hreals m hm)

theorem parse?_render {depth : Nat} {v : Json} (h : Plain depth v) (hreals : v.RealsReadBack) :
    parse? (render v) = some v := by
  have hread := isRead_of_plain h hreals (2 * (render v).length + 2) [] (by omega) nofun
  rw [List.append_nil] at hread
  rw [parse?, hread]
  rfl

theorem allHoldable_iff (room : Nat) (values : List Json) :
    allHoldable room values ↔ ∀ v ∈ values, v.isHoldable room := by
  induction values with
  | nil => simp [allHoldable]
  | cons v values ih => simp [allHoldable, ih]

theorem membersHoldable_iff (room : Nat) (members : List (String × Json)) :
    membersHoldable room (members.map fun m => (some m.1, m.2)) ↔
      ∀ m ∈ members, m.2.isHoldable room := by
  induction members with
  | nil => simp [membersHoldable]
  | cons m members ih => simp [membersHoldable, ih]

theorem isHoldable_of_plain {depth room : Nat} {v : Json} (h : Plain depth v) (hroom : depth < room) :
    v.isHoldable room := by
  induction h generalizing room with
  | null | bool => rfl
  | number word value => simpa [isHoldable] using value
  | string s => rfl
  | array each ih =>
    rw [isHoldable, Bool.and_eq_true, allHoldable_iff, decide_eq_true_eq]
    exact ⟨by omega, fun v hv => ih v hv (by omega)⟩
  | record each ih =>
    rw [record, isHoldable, Bool.and_eq_true, decide_eq_true_eq]
    exact ⟨by omega, (membersHoldable_iff _ _).mpr fun m hm => ih m hm (by omega)⟩

end ResourceBroker.Json
