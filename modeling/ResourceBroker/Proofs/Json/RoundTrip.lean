import Mathlib.Data.List.Nodup
import ResourceBroker.Proofs.Json.Parser
import ResourceBroker.Proofs.Json.Reader

/-!
Readers that get back the value a tree was written from, one lemma for each way to read. A tree that
can be held is read alike in a text and from a copy.
-/

namespace ResourceBroker.Json

theorem canHold_array {origin : Origin} {elements : List Json}
    (h : origin.canHold (.array elements)) :
    ∃ inside, origin.enter? = some inside ∧ ∀ v ∈ elements, inside.canHold v := by
  cases origin with
  | held => exact ⟨.held, rfl, fun _ _ => rfl⟩
  | text room =>
    rw [Origin.canHold, isHoldable, Bool.and_eq_true, decide_eq_true_eq, allHoldable_iff] at h
    exact ⟨.text (room - 1), if_neg (by omega), h.2⟩

theorem canHold_record {origin : Origin} {members : List (String × Json)}
    (h : origin.canHold (record members)) :
    ∃ inside, origin.enter? = some inside ∧ ∀ m ∈ members, inside.canHold m.2 := by
  cases origin with
  | held => exact ⟨.held, rfl, fun _ _ => rfl⟩
  | text room =>
    rw [Origin.canHold, record, isHoldable, Bool.and_eq_true, decide_eq_true_eq,
      membersHoldable_iff] at h
    exact ⟨.text (room - 1), if_neg (by omega), h.2⟩

namespace Reader

variable {α β : Type}

/-- The reader gets the value from the tree, wherever that can be held. -/
def Reads (read : Reader α) (v : Json) (a : α) : Prop :=
  ∀ origin : Origin, origin.canHold v → read origin v = some a

theorem Reads.map {read : Reader α} {v : Json} {a : α} {f : α → β} {b : β} (h : read.Reads v a)
    (hf : f a = b) : Reads (fun origin json => (read origin json).map f) v b := by
  intro origin hhold
  exact Option.map_eq_some_iff.mpr ⟨a, h origin hhold, hf⟩

theorem Reads.bind {read : Reader α} {v : Json} {a : α} {f : α → Option β} {b : β}
    (h : read.Reads v a) (hf : f a = some b) :
    Reads (fun origin json => (read origin json).bind f) v b := by
  intro origin hhold
  exact Option.bind_eq_some_iff.mpr ⟨a, h origin hhold, hf⟩

theorem reads_string (s : String) : string.Reads (.ofString s) s := fun _ _ => rfl

theorem reads_bool (b : Bool) : bool.Reads (.bool b) b := fun _ _ => rfl

theorem reads_integer {low high n : Int} (hlow : low ≤ n) (hhigh : n ≤ high) :
    (integer low high).Reads (.ofInt n) n := fun _ _ => if_pos ⟨hlow, hhigh⟩

theorem reads_natural {size n : Nat} (h : n < size) : (integer 0 (size - 1)).Reads (.ofNat n) n :=
  reads_integer (by omega) (by omega)

theorem reads_uint8 (n : UInt8) : uint8.Reads (.ofNat n.toNat) n :=
  (reads_natural n.toNat_lt_size).map (by simp)

theorem reads_uint16 (n : UInt16) : uint16.Reads (.ofNat n.toNat) n :=
  (reads_natural n.toNat_lt_size).map (by simp)

theorem reads_uint32 (n : UInt32) : uint32.Reads (.ofNat n.toNat) n :=
  (reads_natural n.toNat_lt_size).map (by simp)

theorem reads_uint64 (n : UInt64) : uint64.Reads (.ofNat n.toNat) n :=
  (reads_natural n.toNat_lt_size).map (by simp)

theorem reads_int64 (n : Int64) : int64.Reads (.ofInt n.toInt) n :=
  (reads_integer n.minValue_le_toInt n.toInt_le).map (by simp)

theorem reads_optional_null (read : Reader α) : (optional read).Reads .null none := fun _ _ => rfl

theorem Reads.optional {read : Reader α} {v : Json} {a : α} (h : read.Reads v a)
    (hv : v ≠ .null) : (optional read).Reads v (some a) := by
  intro origin hhold
  cases v with
  | null => exact absurd rfl hv
  | _ => exact h.map rfl origin hhold

theorem reads_list {read : Reader α} {write : α → Json} {elements : List α}
    (h : ∀ a ∈ elements, read.Reads (write a) a) :
    (list read).Reads (.array (elements.map write)) elements := by
  intro origin hhold
  obtain ⟨inside, hinside, heach⟩ := canHold_array hhold
  rw [list, hinside, Option.bind_eq_bind, Option.bind_some]
  exact mapM_map_eq_some fun a ha => h a ha inside (heach _ (List.mem_map_of_mem ha))

theorem reads_named {names : List (String × α)} {name : String} {a : α}
    (h : names.lookup name = some a) : (named names).Reads (.ofString name) a := fun _ _ => h

theorem reads_keyedChoice {choose : String → Option (Reader α)} {read : Reader α} {key : String}
    {v : Json} {a : α} (hchoose : choose key = some read) (h : read.Reads v a) :
    (keyedChoice choose).Reads (Json.record [(key, v)]) a := by
  intro origin hhold
  obtain ⟨inside, hinside, heach⟩ := canHold_record hhold
  rw [List.forall_mem_singleton] at heach
  simp [keyedChoice, Json.record, hinside, hchoose, h inside heach]

theorem reads_besideTag {types : List (String × α)} {contentOf : α → Reader β}
    {tag content name : String} {t : α} {v : Json} {b : β}
    (htype : types.lookup name = some t) (h : (contentOf t).Reads v b) :
    (besideTag tag content types contentOf).Reads
      (Json.record [(tag, .ofString name), (content, v)]) b := by
  intro origin hhold
  obtain ⟨inside, hinside, heach⟩ := canHold_record hhold
  have hread := h inside (heach (content, v) (by simp))
  have htag := reads_named htype inside (heach (tag, .ofString name) (by simp))
  have hkeyed := keyed?_eq_some_iff.mpr
    (rfl : _ = [(tag, Json.ofString name), (content, v)].map fun m => (some m.1, m.2))
  simp only [besideTag, Json.record, hinside, hkeyed, Option.bind_eq_bind, Option.bind_some]
  simp [htag, hread]

end Reader

/-! Records, whose members are read one by one. -/

theorem unrepeated_of_nodup {members : List (String × Json)} (h : (members.map Prod.fst).Nodup)
    (names : List String) : Reader.unrepeated names members := by
  rw [Reader.unrepeated, List.all_eq_true]
  intro name _
  have hcount := List.nodup_iff_count_le_one.mp h name
  rw [List.count, List.countP_map, List.countP_eq_length_filter] at hcount
  exact decide_eq_true hcount

/-- The record has these members, and each of them can be held. -/
structure Record.Shows (r : Record) (members : List (String × Json)) : Prop where
  members_eq : r.members = members
  held : ∀ m ∈ members, r.origin.canHold m.2

theorem Reader.record_of_canHold {origin : Origin} {members : List (String × Json)}
    (names : List String) (hkeys : (members.map Prod.fst).Nodup)
    (h : origin.canHold (Json.record members)) :
    ∃ r, record names origin (Json.record members) = some r ∧ r.Shows members := by
  obtain ⟨inside, hinside, heach⟩ := canHold_record h
  refine ⟨⟨inside, members⟩, ?_, rfl, heach⟩
  have hkeyed : keyed? (members.map fun m => (some m.1, m.2)) = some members :=
    keyed?_eq_some_iff.mpr rfl
  simp [record, Json.record, hinside, hkeyed, unrepeated_of_nodup hkeys]

section

variable {r : Record} {members : List (String × Json)} {v : Json} {α : Type} {read : Reader α}

theorem Record.Shows.required {a : α} (hr : r.Shows members) (key : String)
    (hmember : members.lookup key = some v) (h : read.Reads v a) :
    r.required key read = some a := by
  rw [Record.required, hr.members_eq, hmember, Option.bind_eq_bind, Option.bind_some]
  exact h r.origin (hr.held _ (mem_of_lookup hmember))

theorem Record.Shows.optional {a : Option α} (hr : r.Shows members) (key : String)
    (hmember : members.lookup key = some v) (h : (Reader.optional read).Reads v a) :
    r.optional key read = some a := by
  rw [Record.optional, hr.members_eq, hmember]
  exact h r.origin (hr.held _ (mem_of_lookup hmember))

end

theorem Reader.tagged_of_canHold {origin : Origin} {tag name : String} {names : List String}
    {members : List (String × Json)}
    (h : origin.canHold (Json.record ((tag, .ofString name) :: members)))
    (hkeys : (tag :: members.map Prod.fst).Nodup) (hname : name ∈ names) :
    tagged tag names origin (Json.record ((tag, .ofString name) :: members)) =
      some (name, Json.record members) := by
  obtain ⟨inside, hinside, heach⟩ := canHold_record h
  rw [List.nodup_cons] at hkeys
  have hother : ∀ m ∈ members, m.1 ≠ tag := by
    rintro m hm rfl
    exact hkeys.1 (List.mem_map_of_mem hm)
  have hrest : members.filter (fun m => m.1 != tag) = members :=
    List.filter_eq_self.mpr fun m hm => by simpa using hother m hm
  have htag : members.filter (fun m => m.1 == tag) = [] :=
    List.filter_eq_nil_iff.mpr fun m hm => by simpa using hother m hm
  have hheld : members.all (fun m => inside.canHold m.2) :=
    List.all_eq_true.mpr fun m hm => heach m (List.mem_cons_of_mem _ hm)
  have hkeyed := keyed?_eq_some_iff.mpr
    (rfl : _ = ((tag, Json.ofString name) :: members).map fun m => (some m.1, m.2))
  simp only [tagged, Json.record, hinside, hkeyed, Option.bind_eq_bind, Option.bind_some]
  simp [hrest, htag, hheld, tagName, Json.ofString, hname]

/-- A plain tree that nests less than 128 deep can be held anywhere in a text. -/
theorem Reader.Reads.decode? {α : Type} {read : Reader α} {v : Json} {a : α} (h : read.Reads v a)
    {depth : Nat} (hplain : Plain depth v) (hdepth : depth < 128) (hreals : v.RealsReadBack) :
    decode? read (render v) = some a := by
  rw [Json.decode?, parse?_render hplain hreals, Option.bind_eq_bind, Option.bind_some]
  exact h .top (isHoldable_of_plain hplain hdepth)

end ResourceBroker.Json
