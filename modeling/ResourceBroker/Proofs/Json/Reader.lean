import ResourceBroker.Json.Reader
import ResourceBroker.Proofs.Json.Whole
import ResourceBroker.Proofs.SortedMap
import ResourceBroker.Proofs.Text.Numeral

/-!
What readers find in a tree: members of objects by their keys, and in a text no number that is too
large for its type.
-/

namespace ResourceBroker

namespace Json

theorem keyed?_eq_some_iff {members : List (Text × Json)} {pairs : List (String × Json)} :
    keyed? members = some pairs ↔ members = pairs.map fun m => (some m.1, m.2) := by
  induction members generalizing pairs with
  | nil => cases pairs <;> simp [keyed?]
  | cons m members ih =>
    obtain ⟨key, value⟩ := m
    rw [keyed?, List.mapM_cons, ← keyed?]
    cases pairs with
    | nil => cases key <;> cases keyed? members <;> simp
    | cons pair pairs =>
      obtain ⟨name, other⟩ := pair
      cases key with
      | none => simp
      | some key =>
        rw [List.map_cons, List.cons.injEq, ← ih]
        cases keyed? members <;> simp [Prod.ext_iff]

theorem mem_of_lookup {α : Type} {key : String} {value : α} {members : List (String × α)}
    (h : members.lookup key = some value) : (key, value) ∈ members := by
  obtain ⟨before, after, rfl, -⟩ := List.lookup_eq_some_iff.mp h
  simp

namespace Reader

variable {α : Type} {read : Reader α} {P : α → Prop}

/-- What is read in a text from a tree with whole numbers of 64 bits has the property. -/
def Yields (read : Reader α) (P : α → Prop) : Prop :=
  ∀ room v a, v.Wordy → read (.text room) v = some a → P a

theorem enter?_eq_some {room : Nat} {inside : Origin}
    (h : Origin.enter? (.text room) = some inside) : ∃ room, inside = .text room := by
  simp only [Origin.enter?, Option.ite_none_left_eq_some, Option.some.injEq] at h
  exact ⟨_, h.2.symm⟩

theorem Yields.map (h : read.Yields P) : (map read).Yields fun map => ∀ e ∈ map, P e.2 := by
  intro room v found hwordy hread e he
  cases v with
  | object members =>
    simp only [Reader.map, Option.bind_eq_bind, Option.bind_eq_some_iff] at hread
    obtain ⟨inside, hinside, pairs, hpairs, contents, hcontents, hfound⟩ := hread
    obtain rfl := Option.some.inj hfound
    obtain ⟨room, rfl⟩ := enter?_eq_some hinside
    obtain ⟨m, hm, hcontent⟩ := exists_of_mem_mapM hcontents (SortedMap.mem_of_mem_ofList he)
    obtain ⟨content, hread, rfl⟩ := Option.map_eq_some_iff.mp hcontent
    rw [keyed?_eq_some_iff] at hpairs
    cases hwordy with
    | object each =>
      exact h room m.2 content (each (some m.1, m.2) (hpairs ▸ List.mem_map_of_mem hm)) hread
  | _ => cases hread

theorem Yields.closedRecord (names : List String) : (closedRecord names).Yields fun r =>
    (∃ room, r.origin = .text room) ∧ ∀ m ∈ r.members, m.2.Wordy := by
  intro room v r hwordy hread
  cases v with
  | object members =>
    simp only [Reader.closedRecord, Option.bind_eq_bind, Option.bind_eq_some_iff] at hread
    obtain ⟨inside, hinside, pairs, hpairs, hread⟩ := hread
    split at hread
    · obtain rfl := Option.some.inj hread
      rw [keyed?_eq_some_iff] at hpairs
      cases hwordy with
      | object each =>
        refine ⟨enter?_eq_some hinside, fun m hm => each (some m.1, m.2) ?_⟩
        exact hpairs ▸ List.mem_map_of_mem hm
    · cases hread
  | array elements =>
    simp only [Reader.closedRecord, Option.bind_eq_bind, Option.bind_eq_some_iff] at hread
    obtain ⟨inside, hinside, hread⟩ := hread
    split at hread
    · obtain rfl := Option.some.inj hread
      cases hwordy with
      | array each =>
        exact ⟨enter?_eq_some hinside, fun m hm => each m.2 (List.of_mem_zip hm).2⟩
    · cases hread
  | _ => cases hread

end Reader
end Json
end ResourceBroker
