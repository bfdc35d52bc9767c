import ResourceBroker.Proofs.Definition.Contents
import ResourceBroker.Proofs.Definition.Violations
import ResourceBroker.Proofs.Json.Spacing

/-!
Definitions that are written in different orders. The members of the maps of a document, and those of
the description of a resource, may be permuted: what is read is the same.
-/

namespace ResourceBroker

namespace OneToOne

variable {α β γ δ : Type} {R : α → β → Prop} {S : γ → δ → Prop} {xs : List α} {ys : List β}

theorem rel_mapM_of_forall₂ {f : α → Option γ} {g : β → Option δ} (h : List.Forall₂ R xs ys)
    (himage : ∀ x y, R x y → Option.Rel S (f x) (g y)) :
    Option.Rel (List.Forall₂ S) (xs.mapM f) (ys.mapM g) := by
  induction h with
  | nil => exact .some .nil
  | @cons x y xs ys hfirst _ ih =>
    have hxy := himage x y hfirst
    rw [List.mapM_cons, List.mapM_cons]
    generalize f x = a, g y = b, xs.mapM f = as, ys.mapM g = bs at hxy ih
    cases hxy with
    | none => exact .none
    | some hfirst =>
      cases ih with
      | none => exact .none
      | some hrest => exact .some (.cons hfirst hrest)

theorem rel_mapM_of_perm {g : β → Option δ} {zs : List β} (h : zs.Perm ys) :
    Option.Rel List.Perm (zs.mapM g) (ys.mapM g) := by
  induction h with
  | nil => exact .some .nil
  | @cons y zs ys _ ih =>
    rw [List.mapM_cons, List.mapM_cons]
    generalize zs.mapM g = as, ys.mapM g = bs at ih
    cases ih with
    | none => cases g y <;> exact .none
    | some hrest =>
      cases g y with
      | none => exact .none
      | some b => exact .some (hrest.cons b)
  | swap y z ys =>
    simp only [List.mapM_cons]
    cases g y <;> cases g z <;> cases ys.mapM g
    case some.some.some => exact .some (.swap _ _ _)
    all_goals exact .none
  | @trans xs ys zs _ _ ih ih' =>
    generalize xs.mapM g = as, ys.mapM g = bs, zs.mapM g = cs at ih ih'
    cases ih with
    | none => exact ih'
    | some hfirst =>
      cases ih' with
      | some hsecond => exact .some (hfirst.trans hsecond)

theorem rel_mapM {f : α → Option γ} {g : β → Option δ} (h : OneToOne R xs ys)
    (himage : ∀ x y, R x y → Option.Rel S (f x) (g y)) :
    Option.Rel (OneToOne S) (xs.mapM f) (ys.mapM g) := by
  obtain ⟨zs, hzs, hperm⟩ := h
  have hpaired := rel_mapM_of_forall₂ hzs himage
  have hpermuted := rel_mapM_of_perm (g := g) hperm
  generalize xs.mapM f = as, zs.mapM g = bs, ys.mapM g = cs at hpaired hpermuted
  cases hpaired with
  | none => cases hpermuted with | none => exact .none
  | some hpaired => cases hpermuted with | some hpermuted => exact .some ⟨_, hpaired, hpermuted⟩

theorem perm {xs' : List α} (h : OneToOne (· = ·) xs xs') : xs.Perm xs' := by
  obtain ⟨zs, hzs, hperm⟩ := h
  rw [List.forall₂_eq_eq_eq] at hzs
  exact hzs ▸ hperm

end OneToOne

namespace Json

/-- The same value, but that the members of an object, with different keys, may come in another order
and have values that `R` relates. -/
inductive Shuffled (R : Json → Json → Prop) : Json → Json → Prop where
  | same (v : Json) : Shuffled R v v
  | members {ms ns : List (Text × Json)} (distinct : (ms.filterMap Prod.fst).Nodup)
    (each : OneToOne (fun m n => m.1 = n.1 ∧ R m.2 n.2) ms ns) : Shuffled R (.object ms) (.object ns)

structure SameKeys (R : Json → Json → Prop) (members others : List (String × Json)) : Prop where
  distinct : (members.map Prod.fst).Nodup
  each : OneToOne (fun m n => m.1 = n.1 ∧ R m.2 n.2) members others

theorem SameKeys.perm {members others : List (String × Json)}
    (h : SameKeys (· = ·) members others) : members.Perm others := by
  have heq : OneToOne (· = ·) members others := by
    refine List.map_id members ▸ List.map_id others ▸ h.each.map ?_
    rintro ⟨_, _⟩ ⟨_, _⟩ ⟨rfl, rfl⟩
    rfl
  exact heq.perm

theorem rel_keyed? {R : Json → Json → Prop} {ms ns : List (Text × Json)}
    (distinct : (ms.filterMap Prod.fst).Nodup)
    (each : OneToOne (fun m n => m.1 = n.1 ∧ R m.2 n.2) ms ns) :
    Option.Rel (SameKeys R) (keyed? ms) (keyed? ns) := by
  have hrel : Option.Rel (OneToOne fun m n => m.1 = n.1 ∧ R m.2 n.2) (keyed? ms) (keyed? ns) := by
    refine each.rel_mapM ?_
    rintro ⟨key, v⟩ ⟨_, w⟩ ⟨rfl, hvw⟩
    cases key with
    | none => exact .none
    | some key => exact .some ⟨rfl, hvw⟩
  generalize hmembers : keyed? ms = members, keyed? ns = others at hrel
  cases hrel with
  | none => exact .none
  | @some members others hrel =>
    rw [keyed?_eq_some_iff.mp hmembers, List.filterMap_map] at distinct
    exact .some ⟨congrFun List.filterMap_eq_map' members ▸ distinct, hrel⟩

namespace Reader

variable {α : Type} {read : Reader α} {R : Json → Json → Prop}

/-- Values that are related are read alike. -/
def Ignores (read : Reader α) (R : Json → Json → Prop) : Prop :=
  ∀ o v w, R v w → read o v = read o w

theorem map_fst_of_mapM {read : Json → Option α} {members : List (String × Json)}
    {pairs : List (String × α)}
    (h : (members.mapM fun m => (read m.2).map (m.1, ·)) = some pairs) :
    pairs.map Prod.fst = members.map Prod.fst := by
  induction members generalizing pairs with
  | nil =>
    cases h
    rfl
  | cons m members ih =>
    simp only [List.mapM_cons, Option.bind_eq_bind, Option.bind_eq_some_iff] at h
    obtain ⟨pair, hpair, rest, hrest, h⟩ := h
    obtain ⟨a, -, rfl⟩ := Option.map_eq_some_iff.mp hpair
    cases h
    rw [List.map_cons, List.map_cons, ih hrest]

theorem ofList_mapM {read : Json → Option α} (h : ∀ v w, R v w → read v = read w)
    {members others : List (String × Json)} (hsame : SameKeys R members others) :
    (members.mapM fun m => (read m.2).map (m.1, ·)).map SortedMap.ofList =
      (others.mapM fun m => (read m.2).map (m.1, ·)).map SortedMap.ofList := by
  have hrel : Option.Rel (OneToOne (· = ·)) (members.mapM fun m => (read m.2).map (m.1, ·))
      (others.mapM fun m => (read m.2).map (m.1, ·)) := by
    refine hsame.each.rel_mapM ?_
    rintro ⟨key, v⟩ ⟨_, w⟩ ⟨rfl, hvw⟩
    dsimp only
    rw [h v w hvw]
    cases read w with
    | none => exact .none
    | some a => exact .some rfl
  generalize hpairs : members.mapM (fun m => (read m.2).map (m.1, ·)) = pairs,
    others.mapM (fun m => (read m.2).map (m.1, ·)) = pairs' at hrel
  cases hrel with
  | none => rfl
  | some hperm =>
    have hdistinct := hsame.distinct
    rw [← map_fst_of_mapM hpairs] at hdistinct
    rw [Option.map_some, Option.map_some, SortedMap.ofList_perm hperm.perm hdistinct]

theorem Ignores.map (h : read.Ignores R) : (map read).Ignores (Shuffled R) := by
  rintro o v w (_ | @⟨ms, ns, distinct, each⟩)
  · rfl
  · rw [Reader.map, Reader.map]
    cases o.enter? with
    | none => rfl
    | some inside =>
      have hrel := rel_keyed? distinct each
      generalize keyed? ms = members, keyed? ns = others at hrel
      cases hrel with
      | none => rfl
      | some hsame =>
        have hmaps := ofList_mapM (h inside) hsame
        rw [Option.map_eq_bind, Option.map_eq_bind] at hmaps
        exact hmaps

end Reader

structure Record.Alike (r r' : Record) : Prop where
  origin : r.origin = r'.origin
  lookup (name : String) : r.members.lookup name = r'.members.lookup name

namespace Record.Alike

variable {α : Type} {r r' : Record}

theorem required (h : r.Alike r') (name : String) (read : Reader α) :
    r.required name read = r'.required name read := by
  rw [Record.required, Record.required, h.origin, h.lookup]

theorem withDefault (h : r.Alike r') (name : String) (default : α) (read : Reader α) :
    r.withDefault name default read = r'.withDefault name default read := by
  rw [Record.withDefault, Record.withDefault, h.origin, h.lookup]

end Record.Alike

theorem lookup_eq_some_iff_mem {members : List (String × Json)}
    (h : (members.map Prod.fst).Nodup) {name : String} {v : Json} :
    members.lookup name = some v ↔ (name, v) ∈ members := by
  refine ⟨mem_of_lookup, fun hmem => ?_⟩
  induction members with
  | nil => cases hmem
  | cons m members ih =>
    obtain ⟨hfirst, hrest⟩ := List.nodup_cons.mp h
    obtain rfl | hmem := List.mem_cons.mp hmem
    · exact List.lookup_cons_self
    · have hne : name ≠ m.1 := fun heq => hfirst (heq ▸ List.mem_map_of_mem hmem)
      rw [List.lookup_cons, beq_false_of_ne hne, ih hrest hmem]

theorem lookup_of_perm {members others : List (String × Json)} (hperm : members.Perm others)
    (h : (members.map Prod.fst).Nodup) (name : String) :
    members.lookup name = others.lookup name := by
  refine Option.ext fun v => ?_
  rw [lookup_eq_some_iff_mem h, lookup_eq_some_iff_mem ((hperm.map _).nodup_iff.mp h),
    hperm.mem_iff]

namespace Reader

theorem rel_closedRecord (names : List String) (o : Origin) {v w : Json} (h : Shuffled (· = ·) v w) :
    Option.Rel Record.Alike (closedRecord names o v) (closedRecord names o w) := by
  obtain _ | @⟨ms, ns, distinct, each⟩ := h
  · cases closedRecord names o v with
    | none => exact .none
    | some r => exact .some ⟨rfl, fun _ => rfl⟩
  · rw [closedRecord, closedRecord]
    cases o.enter? with
    | none => exact .none
    | some inside =>
      have hrel := rel_keyed? distinct each
      generalize keyed? ms = members, keyed? ns = others at hrel
      cases hrel with
      | none => exact .none
      | @some members others hsame =>
        have hperm := hsame.perm
        have hunrepeated : unrepeated names members = unrepeated names others := by
          simp only [unrepeated, (hperm.filter _).length_eq]
        simp only [Option.bind_eq_bind, Option.bind_some, hunrepeated, hperm.all_eq]
        split
        · exact .some ⟨rfl, lookup_of_perm hperm hsame.distinct⟩
        · exact .none

end Reader
end Json

theorem ResourceSpec.ignores_read : Json.Reader.Ignores ResourceSpec.read (Json.Shuffled (· = ·)) := by
  intro o v w h
  have hrel := Json.Reader.rel_closedRecord ["mode", "type", "value", "operations", "observable"] o h
  rw [ResourceSpec.read, ResourceSpec.read]
  generalize Json.Reader.closedRecord _ o v = r, Json.Reader.closedRecord _ o w = r' at hrel
  cases hrel with
  | none => rfl
  | some halike =>
    simp only [Option.bind_eq_bind, Option.bind_some, halike.required, halike.withDefault]

namespace DefinitionDocument

/-- The same document in another order: of its objects, their instances, the resources in these, and
what is said about each resource. -/
def Rearranged : Json → Json → Prop :=
  Json.Shuffled (Json.Shuffled (Json.Shuffled (Json.Shuffled (· = ·))))

theorem read_of_rearranged {v w : Json} (h : Rearranged v w) : read .top v = read .top w :=
  ResourceSpec.ignores_read.map.map.map .top v w h

end DefinitionDocument

namespace Definition

/-- Well-formed texts that differ by space between tokens and by the order of the members of the maps. -/
inductive Reordered : String → String → Prop where
  | respaced {s t : String} {v w : Json} (first : Json.parse? s.toList = some v)
    (second : Json.parse? t.toList = some w)
    (same : Json.unspaced s.toList = Json.unspaced t.toList) : Reordered s t
  | rearranged {s t : String} {v w : Json} (first : Json.parse? s.toList = some v)
    (second : Json.parse? t.toList = some w)
    (same : DefinitionDocument.Rearranged v w) : Reordered s t
  | trans {s t u : String} (first : Reordered s t) (second : Reordered t u) : Reordered s u

theorem Reordered.ofText?_eq {s t : String} (h : Reordered s t) :
    DefinitionDocument.ofText? s = DefinitionDocument.ofText? t := by
  induction h with
  | respaced first second same =>
    obtain rfl := Json.parse?_eq_of_unspaced first second same
    rw [DefinitionDocument.ofText?, DefinitionDocument.ofText?, Json.decode?, Json.decode?, first,
      second]
  | rearranged first second same =>
    rw [DefinitionDocument.ofText?, DefinitionDocument.ofText?, Json.decode?, Json.decode?, first,
      second]
    exact DefinitionDocument.read_of_rearranged same
  | trans _ _ ih ih' => exact ih.trans ih'

/-- What a definition comes to is the same in whatever order it is written. If it is refused although
it can be decoded, then for the first of its violations, and with the same message. -/
theorem parse_of_reordered {s t : String} (h : Reordered s t) :
    (∃ objects, parse s = .ok objects ∧ parse t = .ok objects) ∨
    (DefinitionDocument.ofText? s = none ∧ DefinitionDocument.ofText? t = none ∧
      parse s = .error .undecodable ∧ parse t = .error .undecodable) ∨
    ∃ document e, DefinitionDocument.ofText? s = some document ∧
      DefinitionDocument.ofText? t = some document ∧ parse s = .error e ∧ parse t = .error e ∧
      e.toBrokerError = .invalidDefinition e.message ∧ (Violation document).First e := by
  have htexts := h.ofText?_eq
  cases hs : DefinitionDocument.ofText? s with
  | none =>
    rw [hs] at htexts
    exact .inr (.inl ⟨rfl, htexts.symm, by rw [parse, hs], by rw [parse, ← htexts]⟩)
  | some document =>
    rw [hs] at htexts
    have hparse : parse s = build document ∧ parse t = build document := by
      rw [parse, parse, hs, ← htexts]
      exact ⟨rfl, rfl⟩
    cases hbuild : build document with
    | ok objects =>
      rw [hbuild] at hparse
      exact .inl ⟨objects, hparse⟩
    | error e =>
      rw [hbuild] at hparse
      exact .inr (.inr ⟨document, e, rfl, htexts.symm, hparse.1, hparse.2, rfl,
        (decide_build hs).first hbuild⟩)

set_option maxRecDepth 2000 in
theorem parse_of_reordered_sample :
    let s := "\x7b\"9\":\x7b\x7d,\"+9\":\x7b\"0\":\x7b\"1\":" ++
      "\x7b\"type\":\"time\",\"value\":true\x7d\x7d\x7d\x7d"
    let t := "\x7b \"+9\": \x7b\"0\": \x7b\"1\": " ++
      "\x7b\"value\": true, \"type\": \"time\"\x7d\x7d\x7d,\n \"9\": \x7b\x7d \x7d"
    Reordered s t ∧ parse s = .error (.invalidValue (.bool true) "/9/0/1" .time) ∧
      parse t = .error (.invalidValue (.bool true) "/9/0/1" .time) ∧
      ∃ document, DefinitionDocument.ofText? t = some document ∧
        (Violation document).First (.invalidValue (.bool true) "/9/0/1" .time) := by
  intro s t
  let dense := "\x7b\"+9\":\x7b\"0\":\x7b\"1\":" ++
    "\x7b\"value\":true,\"type\":\"time\"\x7d\x7d\x7d,\"9\":\x7b\x7d\x7d"
  let type : Json.Text × Json := (some "type", .string (some "time"))
  let value : Json.Text × Json := (some "value", .bool true)
  let instances (spec : List (Json.Text × Json)) : Json :=
    .object [(some "0", .object [(some "1", .object spec)])]
  have hs : Json.parse? s.toList =
      some (.object [(some "9", .object []), (some "+9", instances [type, value])]) := by cbv
  have hdense : Json.parse? dense.toList =
      some (.object [(some "+9", instances [value, type]), (some "9", .object [])]) := by cbv
  have ht : Json.parse? t.toList =
      some (.object [(some "+9", instances [value, type]), (some "9", .object [])]) := by cbv
  have hspec : Json.Shuffled (· = ·) (.object [type, value]) (.object [value, type]) :=
    .members (by decide) ⟨_, .cons ⟨rfl, rfl⟩ (.cons ⟨rfl, rfl⟩ .nil), .swap _ _ _⟩
  have hinstances : Json.Shuffled (Json.Shuffled (Json.Shuffled (· = ·)))
      (instances [type, value]) (instances [value, type]) := by
    refine .members (by decide) ⟨_, ?_, .refl _⟩
    refine .cons ⟨rfl, .members (by decide) ⟨_, ?_, .refl _⟩⟩ .nil
    exact .cons ⟨rfl, hspec⟩ .nil
  have hsame : DefinitionDocument.Rearranged
      (.object [(some "9", .object []), (some "+9", instances [type, value])])
      (.object [(some "+9", instances [value, type]), (some "9", .object [])]) := by
    refine .members (by decide) ⟨_, ?_, .swap _ _ _⟩
    exact .cons ⟨rfl, .same _⟩ (.cons ⟨rfl, hinstances⟩ .nil)
  have hunspaced : Json.unspaced dense.toList = Json.unspaced t.toList := by decide +kernel
  have hreordered : Reordered s t :=
    .trans (.rearranged hs hdense hsame) (.respaced hdense ht hunspaced)
  have hparse : parse s = .error (.invalidValue (.bool true) "/9/0/1" .time) := by
    rw [parse, DefinitionDocument.ofText?, Json.decode?, hs]
    cbv
  refine ⟨hreordered, hparse, ?_⟩
  obtain ⟨objects, hok, -⟩ | ⟨-, -, hundecodable, -⟩ | ⟨document, e, -, ht, he, hsecond, -, hfirst⟩ :=
    parse_of_reordered hreordered
  · cases hparse.symm.trans hok
  · cases hparse.symm.trans hundecodable
  · obtain rfl := Except.error.inj (hparse.symm.trans he)
    exact ⟨hsecond, document, ht, hfirst⟩

end Definition
end ResourceBroker
