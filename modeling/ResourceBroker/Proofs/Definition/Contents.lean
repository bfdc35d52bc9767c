import Mathlib
import ResourceBroker.Proofs.Definition.Grammar

/-!
What becomes of a definition that is accepted. Its entries and the resources that are built stand in
one-to-one correspondence, whatever the order of the keys, and each resource has the numbers, the path
and the contents that its entry gives it. The resources are in the order of their numbers at each of
the three levels, and no level is empty.
-/

namespace ResourceBroker

/-- Each of one list goes with one of the other, in some order. -/
def OneToOne {α β : Type} (R : α → β → Prop) (xs : List α) (ys : List β) : Prop :=
  ∃ zs, List.Forall₂ R xs zs ∧ zs.Perm ys

namespace OneToOne

variable {α β γ δ : Type} {R : α → β → Prop} {S : γ → δ → Prop} {xs : List α} {ys : List β}

theorem length_eq (h : OneToOne R xs ys) : xs.length = ys.length := by
  obtain ⟨zs, hzs, hperm⟩ := h
  exact hzs.length_eq.trans hperm.length_eq

theorem exists_of_mem (h : OneToOne R xs ys) {y : β} (hy : y ∈ ys) : ∃ x ∈ xs, R x y := by
  obtain ⟨zs, hzs, hperm⟩ := h
  have hy' := hperm.mem_iff.mpr hy
  clear hperm hy
  induction hzs with
  | nil => cases hy'
  | cons hfirst _ ih =>
    obtain rfl | hlater := List.mem_cons.mp hy'
    · exact ⟨_, List.mem_cons_self, hfirst⟩
    · obtain ⟨x, hx, hxy⟩ := ih hlater
      exact ⟨x, List.mem_cons_of_mem _ hx, hxy⟩

theorem map {f : α → γ} {g : β → δ} (h : OneToOne R xs ys)
    (himage : ∀ x y, R x y → S (f x) (g y)) : OneToOne S (xs.map f) (ys.map g) := by
  obtain ⟨zs, hzs, hperm⟩ := h
  refine ⟨zs.map g, ?_, hperm.map g⟩
  rw [List.forall₂_map_left_iff, List.forall₂_map_right_iff]
  exact hzs.imp himage

theorem flatMap {f : α → List γ} {g : β → List δ} (h : OneToOne R xs ys)
    (himage : ∀ x y, R x y → OneToOne S (f x) (g y)) :
    OneToOne S (xs.flatMap f) (ys.flatMap g) := by
  obtain ⟨zs, hzs, hperm⟩ := h
  have hinOrder : OneToOne S (xs.flatMap f) (zs.flatMap g) := by
    clear hperm
    induction hzs with
    | nil => exact ⟨[], .nil, .refl _⟩
    | cons hfirst _ ih =>
      obtain ⟨first, hfirst, hperm⟩ := himage _ _ hfirst
      obtain ⟨rest, hrest, hperm'⟩ := ih
      exact ⟨first ++ rest, List.rel_append hfirst hrest, hperm.append hperm'⟩
  obtain ⟨listed, hlisted, hperm'⟩ := hinOrder
  exact ⟨listed, hlisted, hperm'.trans (hperm.flatMap_right g)⟩

end OneToOne

/-- What a JSON value is as a value of a resource. A whole number may stand for a real one too. -/
inductive ResourceValue.WrittenAs : ResourceValue → Json → Prop where
  | string (text : String) : WrittenAs (.string text) (.string (some text))
  | integer (n : Int64) : WrittenAs (.integer n) (.number (.integer n.toInt))
  | float {n : Json.Number} {x : Binary64} (real : n.toReal? = some x) :
      WrittenAs (.float x) (.number n)
  | boolean (b : Bool) : WrittenAs (.boolean b) (.bool b)
  | bytes (content : List UInt8) :
      WrittenAs (.bytes content) (.array (content.map fun b => .number (.integer b.toNat)))
  | time (seconds : Int64) : WrittenAs (.time seconds) (.number (.integer seconds.toInt))
  | link {target : String} (linked : Definition.isLink target.toList) :
      WrittenAs (.link target) (.string (some target))

structure ResourceSpec.Describes (spec : ResourceSpec) (r : Resource) : Prop where
  mode : r.mode = spec.mode
  dataType : r.data.dataType = spec.dataType
  value : Option.Rel (fun json value => value.dataType = spec.dataType ∧ value.WrittenAs json)
    spec.value r.data.value
  operations : r.operations = spec.operations
  observable : r.observable = spec.observable

structure PlacedResource where
  object : UInt16
  inst : UInt16
  resource : Resource

namespace PlacedResource

def numbers (p : PlacedResource) : UInt16 × UInt16 × UInt16 := (p.object, p.inst, p.resource.id)

def path (p : PlacedResource) : String :=
  "/" ++ toString p.object.toNat ++ "/" ++ toString p.inst.toNat ++ "/" ++
    toString p.resource.id.toNat

end PlacedResource

def ResourceObject.placed (o : ResourceObject) : List PlacedResource :=
  o.instances.flatMap fun i => i.resources.map fun r => ⟨o.id, i.id, r⟩

structure DefinitionEntry where
  object : String
  inst : String
  resource : String
  spec : ResourceSpec

def DefinitionDocument.entries (document : DefinitionDocument) : List DefinitionEntry :=
  document.flatMap fun o => o.2.flatMap fun i => i.2.map fun r => ⟨o.1, i.1, r.1, r.2⟩

/-- The keys are numerals for the numbers, and the path spells them without a sign or leading zeros. -/
structure DefinitionEntry.Becomes (e : DefinitionEntry) (p : PlacedResource) : Prop where
  object : Text.Denotes e.object.toList p.object.toNat
  inst : Text.Denotes e.inst.toList p.inst.toNat
  resource : Text.Denotes e.resource.toList p.resource.id.toNat
  path : p.resource.data.path = p.path
  described : e.spec.Describes p.resource

namespace Definition

theorem eq_number_of_integer {low high n : Int} {o : Json.Origin} {json : Json}
    (h : Json.Reader.integer low high o json = some n) :
    json = .number (.integer n) ∧ low ≤ n ∧ n ≤ high := by
  unfold Json.Reader.integer at h
  split at h
  · split at h
    · next hrange =>
      cases h
      exact ⟨rfl, hrange⟩
    · cases h
  · cases h

theorem eq_string_of_string {o : Json.Origin} {json : Json} {text : String}
    (h : Json.Reader.string o json = some text) : json = .string (some text) := by
  unfold Json.Reader.string at h
  split at h
  · rw [h]
  · cases h

theorem eq_map_of_mapM {α β : Type} {read : α → Option β} {write : β → α}
    (hread : ∀ x y, read x = some y → x = write y) {xs : List α} {ys : List β}
    (h : xs.mapM read = some ys) : xs = ys.map write := by
  induction xs generalizing ys with
  | nil =>
    cases h
    rfl
  | cons x xs ih =>
    simp only [List.mapM_cons, Option.bind_eq_bind, Option.bind_eq_some_iff] at h
    obtain ⟨y, hy, rest, hrest, h⟩ := h
    cases h
    rw [List.map_cons, ← hread x y hy, ← ih hrest]

theorem eq_number_of_int64 {n : Int64} {json : Json} (h : Json.Reader.int64 .held json = some n) :
    json = .number (.integer n.toInt) := by
  obtain ⟨m, hm, rfl⟩ := Option.map_eq_some_iff.mp h
  obtain ⟨hjson, hlow, hhigh⟩ := eq_number_of_integer hm
  have hlow' : -2 ^ 63 ≤ m := hlow
  have hhigh' : m < 2 ^ 63 := Int.lt_of_le_sub_one hhigh
  rw [Int64.toInt_ofInt_of_le hlow' hhigh']
  exact hjson

theorem eq_number_of_uint8 {n : UInt8} {json : Json} {o : Json.Origin}
    (h : Json.Reader.uint8 o json = some n) : json = .number (.integer n.toNat) := by
  obtain ⟨m, hm, rfl⟩ := Option.map_eq_some_iff.mp h
  obtain ⟨hjson, hlow, hhigh⟩ := eq_number_of_integer hm
  have hlow' : 0 ≤ m := hlow
  have hhigh' : m ≤ 255 := hhigh
  have hsmall : m.toNat < UInt8.size := by
    rw [UInt8.size]
    omega
  rw [UInt8.toNat_ofNat_of_lt' hsmall, Int.toNat_of_nonneg hlow']
  exact hjson

theorem writtenAs_of_valueOf? {t : DataType} {json : Json} {value : ResourceValue}
    (h : valueOf? t json = some value) : value.WrittenAs json := by
  cases t with
  | string =>
    obtain ⟨text, htext, rfl⟩ := Option.map_eq_some_iff.mp h
    rw [eq_string_of_string htext]
    exact .string text
  | integer =>
    obtain ⟨n, hn, rfl⟩ := Option.map_eq_some_iff.mp h
    rw [eq_number_of_int64 hn]
    exact .integer n
  | float =>
    obtain ⟨x, hx, rfl⟩ := Option.map_eq_some_iff.mp h
    unfold Json.Reader.real at hx
    split at hx
    · exact .float hx
    · cases hx
  | boolean =>
    obtain ⟨b, hb, rfl⟩ := Option.map_eq_some_iff.mp h
    unfold Json.Reader.bool at hb
    split at hb
    · cases hb
      exact .boolean b
    · cases hb
  | bytes =>
    obtain ⟨content, hcontent, rfl⟩ := Option.map_eq_some_iff.mp h
    unfold Json.Reader.list at hcontent
    split at hcontent
    · next elements =>
      have helements : elements = content.map fun b => .number (.integer b.toNat) :=
        eq_map_of_mapM (fun _ _ => eq_number_of_uint8) hcontent
      rw [helements]
      exact .bytes content
    · cases hcontent
  | time =>
    obtain ⟨n, hn, rfl⟩ := Option.map_eq_some_iff.mp h
    rw [eq_number_of_int64 hn]
    exact .time n
  | link =>
    simp only [valueOf?, Option.bind_eq_bind, Option.bind_eq_some_iff] at h
    obtain ⟨target, htarget, h⟩ := h
    split at h
    · next hlink =>
      cases h
      rw [eq_string_of_string htarget]
      exact .link hlink
    · cases h

section Entries

variable {α β γ : Type} {path : String → String} {duplicate : UInt16 → String → DefinitionError}
  {build : UInt16 → String → α → Except DefinitionError β} {key : β → UInt16}

theorem entries_ok (hkey : ∀ id path content x, build id path content = .ok x → key x = id)
    {seen : List UInt16} {map : List (String × α)} {out : List β}
    (h : entries path duplicate build seen map = .ok out) :
    List.Forall₂ (fun e x => Text.Denotes e.1.toList (key x).toNat ∧
      build (key x) (path e.1) e.2 = .ok x) map out ∧
    (∀ x ∈ out, key x ∉ seen) ∧ out.Pairwise fun x y => key x ≠ key y := by
  induction map generalizing seen out with
  | nil =>
    cases h
    exact ⟨.nil, nofun, .nil⟩
  | cons entry map ih =>
    obtain ⟨id, hid, hfresh, x, hbuild, rest, hrest, rfl⟩ := entries_cons_eq_ok_iff.mp h
    obtain rfl := hkey _ _ _ _ hbuild
    obtain ⟨hpaired, hunseen, hdistinct⟩ := ih hrest
    refine ⟨.cons ⟨Text.idNumeral?_eq_some_iff.mp hid, hbuild⟩ hpaired, ?_, ?_⟩
    · rw [List.forall_mem_cons]
      exact ⟨hfresh, fun y hy hmem => hunseen y hy (List.mem_cons_of_mem _ hmem)⟩
    · refine .cons (fun y hy hsame => ?_) hdistinct
      rw [hsame] at hunseen
      exact hunseen y hy List.mem_cons_self

theorem ascending_mergeSort {out : List β} (h : out.Pairwise fun x y => key x ≠ key y) :
    (out.mergeSort fun x y => key x ≤ key y).Pairwise fun x y => key x < key y := by
  have hsorted : (out.mergeSort fun x y => key x ≤ key y).Pairwise fun x y =>
      decide (key x ≤ key y) = true :=
    List.pairwise_mergeSort (by simpa using fun x y z => UInt16.le_trans)
      (by simpa using fun x y => UInt16.le_total _ _) out
  have hdistinct := (List.mergeSort_perm out fun x y => decide (key x ≤ key y)).pairwise_iff
    (fun hne => hne.symm) |>.mpr h
  refine hsorted.imp₂ (fun x y hle hne => ?_) hdistinct
  exact UInt16.lt_of_le_of_ne (of_decide_eq_true hle) hne

structure Ascends (key : β → UInt16) (R : String × α → β → Prop) (map : List (String × α))
    (out : List β) : Prop where
  filled : out ≠ []
  ascending : out.Pairwise fun x y => key x < key y
  each : OneToOne (fun e x => Text.Denotes e.1.toList (key x).toNat ∧ R e x) map out

theorem ascends_of_level (wrap : List β → γ) {empty : DefinitionError} {map : List (String × α)}
    {out : γ} (hkey : ∀ id path content x, build id path content = .ok x → key x = id)
    (h : (do
      if map.isEmpty then throw empty
      let found ← entries path duplicate build [] map
      pure (wrap (found.mergeSort fun x y => key x ≤ key y))) = Except.ok out) :
    ∃ sorted, out = wrap sorted ∧
      Ascends key (fun e x => build (key x) (path e.1) e.2 = .ok x) map sorted := by
  obtain ⟨hfilled, found, hfound, rfl⟩ := (level_eq_ok_iff empty _).mp h
  obtain ⟨hpaired, -, hdistinct⟩ := entries_ok hkey hfound
  have hperm := (List.mergeSort_perm found fun x y => decide (key x ≤ key y)).symm
  refine ⟨_, rfl, ?_, ascending_mergeSort hdistinct, found, hpaired, hperm⟩
  intro hempty
  rw [hempty] at hperm
  rw [hperm.eq_nil, List.forall₂_nil_right_iff] at hpaired
  exact hfilled hpaired

end Entries

theorem path_eq (p : PlacedResource) :
    "/" ++ numbered [p.object, p.inst] ++ toString p.resource.id.toNat = p.path := by
  simp [numbered, PlacedResource.path, String.join, String.append_assoc]

theorem buildResource_eq {object inst id : UInt16} {spec : ResourceSpec} {r : Resource}
    (h : buildResource object inst id spec = .ok r) :
    ∃ value, r = ⟨id, spec.mode, ⟨"/" ++ numbered [object, inst] ++ toString id.toNat,
        spec.dataType, value⟩, spec.operations, spec.observable⟩ ∧
      Option.Rel (fun json value => valueOf? spec.dataType json = some value) spec.value value := by
  unfold buildResource at h
  cases hgiven : spec.value with
  | none =>
    rw [hgiven] at h
    cases h
    exact ⟨none, rfl, .none⟩
  | some json =>
    rw [hgiven] at h
    cases hread : valueOf? spec.dataType json with
    | none => simp only [hread] at h; cases h
    | some value =>
      simp only [hread] at h
      cases h
      exact ⟨some value, rfl, .some hread⟩

theorem buildResource_ok {object inst id : UInt16} {spec : ResourceSpec} {r : Resource}
    (h : buildResource object inst id spec = .ok r) :
    r.id = id ∧ r.data.path = PlacedResource.path ⟨object, inst, r⟩ ∧ spec.Describes r := by
  obtain ⟨value, hr, hvalue⟩ := buildResource_eq h
  have hid : r.id = id := by rw [hr]
  refine ⟨hid, ?_, by rw [hr], by rw [hr], ?_, by rw [hr], by rw [hr]⟩
  · rw [← path_eq, hid, hr]
  · rw [hr]
    dsimp only
    generalize spec.value = given at hvalue ⊢
    cases hvalue with
    | none => exact .none
    | some hread => exact .some ⟨dataType_of_valueOf? hread, writtenAs_of_valueOf? hread⟩

theorem buildInstance_ok {object id : UInt16} {path : String}
    {specs : List (String × ResourceSpec)} {i : ObjectInstance}
    (h : buildInstance object id path specs = .ok i) :
    i.id = id ∧ Ascends Resource.id (fun e r => buildResource object id r.id e.2 = .ok r)
      specs i.resources := by
  obtain ⟨sorted, rfl, hsorted⟩ :=
    ascends_of_level _ (fun _ _ _ _ hbuild => (buildResource_ok hbuild).1) h
  exact ⟨rfl, hsorted⟩

theorem buildObject_ok {id : UInt16} {instances : List (String × List (String × ResourceSpec))}
    {o : ResourceObject} (h : buildObject id instances = .ok o) :
    o.id = id ∧ Ascends ObjectInstance.id
      (fun e i => buildInstance id i.id (numbered [id] ++ e.1) e.2 = .ok i) instances o.instances := by
  obtain ⟨sorted, rfl, hsorted⟩ :=
    ascends_of_level _ (fun _ _ _ _ hbuild => (buildInstance_ok hbuild).1) h
  exact ⟨rfl, hsorted⟩

theorem build_ok {document : DefinitionDocument} {objects : List ResourceObject}
    (h : build document = .ok objects) :
    Ascends ResourceObject.id (fun e o => buildObject o.id e.2 = .ok o) document objects := by
  obtain ⟨sorted, rfl, hsorted⟩ :=
    ascends_of_level id (fun _ _ _ _ hbuild => (buildObject_ok hbuild).1) h
  exact hsorted

/-- Objects in the order of their numbers, down to the resources, with nothing empty. -/
structure WellOrdered (objects : List ResourceObject) : Prop where
  ascending : objects.Pairwise fun a b => a.id < b.id
  instances : ∀ o ∈ objects, o.instances ≠ [] ∧ o.instances.Pairwise fun a b => a.id < b.id
  resources : ∀ o ∈ objects, ∀ i ∈ o.instances,
    i.resources ≠ [] ∧ i.resources.Pairwise fun a b => a.id < b.id

theorem WellOrdered.nodup_numbers {objects : List ResourceObject} (h : WellOrdered objects) :
    ((objects.flatMap ResourceObject.placed).map PlacedResource.numbers).Nodup := by
  have hne {m n : UInt16} (hlt : m < n) : m ≠ n := fun heq => UInt16.lt_irrefl n (heq ▸ hlt)
  rw [List.Nodup, List.pairwise_map, List.pairwise_flatMap]
  refine ⟨fun o ho => ?_, h.ascending.imp fun hlt p hp q hq hsame => ?_⟩
  · rw [ResourceObject.placed, List.pairwise_flatMap]
    refine ⟨fun i hi => ?_, (h.instances o ho).2.imp fun hlt p hp q hq hsame => ?_⟩
    · rw [List.pairwise_map]
      refine (h.resources o ho i hi).2.imp fun hlt hsame => ?_
      exact hne hlt (congrArg (·.2.2) hsame)
    · obtain ⟨_, -, rfl⟩ := List.mem_map.mp hp
      obtain ⟨_, -, rfl⟩ := List.mem_map.mp hq
      exact hne hlt (congrArg (·.2.1) hsame)
  · obtain ⟨_, -, hp⟩ := List.mem_flatMap.mp hp
    obtain ⟨_, -, rfl⟩ := List.mem_map.mp hp
    obtain ⟨_, -, hq⟩ := List.mem_flatMap.mp hq
    obtain ⟨_, -, rfl⟩ := List.mem_map.mp hq
    exact hne hlt (congrArg (·.1) hsame)

theorem wellOrdered_of_build {document : DefinitionDocument} {objects : List ResourceObject}
    (h : build document = .ok objects) : WellOrdered objects := by
  have hobjects := build_ok h
  have hinstances (o : ResourceObject) (ho : o ∈ objects) :
      ∃ instances, Ascends ObjectInstance.id
        (fun e i => buildInstance o.id i.id (numbered [o.id] ++ e.1) e.2 = .ok i)
        instances o.instances := by
    obtain ⟨e, -, -, hbuild⟩ := hobjects.each.exists_of_mem ho
    exact ⟨_, (buildObject_ok hbuild).2⟩
  constructor
  · exact hobjects.ascending
  · intro o ho
    obtain ⟨_, hascends⟩ := hinstances o ho
    exact ⟨hascends.filled, hascends.ascending⟩
  · intro o ho i hi
    obtain ⟨_, hascends⟩ := hinstances o ho
    obtain ⟨e, -, -, hbuild⟩ := hascends.each.exists_of_mem hi
    have hresources := (buildInstance_ok hbuild).2
    exact ⟨hresources.filled, hresources.ascending⟩

theorem oneToOne_of_build {document : DefinitionDocument} {objects : List ResourceObject}
    (h : build document = .ok objects) :
    OneToOne DefinitionEntry.Becomes document.entries (objects.flatMap ResourceObject.placed) := by
  apply (build_ok h).each.flatMap
  rintro object o ⟨hobject, hbuild⟩
  apply (buildObject_ok hbuild).2.each.flatMap
  rintro inst i ⟨hinst, hbuild⟩
  apply (buildInstance_ok hbuild).2.each.map
  rintro resource r ⟨hresource, hbuild⟩
  obtain ⟨-, hpath, hdescribed⟩ := buildResource_ok hbuild
  exact ⟨hobject, hinst, hresource, hpath, hdescribed⟩

theorem foldl_add {α : Type} (count : α → Nat) (xs : List α) (n : Nat) :
    xs.foldl (fun n x => n + count x) n = n + (xs.map count).sum := by
  induction xs generalizing n with
  | nil => rfl
  | cons x xs ih => rw [List.foldl_cons, ih, List.map_cons, List.sum_cons, Nat.add_assoc]

theorem length_entries (document : DefinitionDocument) :
    document.entries.length = document.entryCount := by
  simp only [DefinitionDocument.entries, DefinitionDocument.entryCount, List.length_flatMap,
    List.length_map, foldl_add, Nat.zero_add]

theorem length_placed (o : ResourceObject) : o.placed.length = o.resourceCount := by
  rw [ResourceObject.placed, ResourceObject.resourceCount, List.length_flatMap,
    ← List.sum_eq_foldl]
  simp only [List.length_map]

theorem setValue_of_valueOf? {t : DataType} {json : Json} {value : ResourceValue}
    (h : valueOf? t json = some value) (path : String) :
    (ResourceData.declare path t).setValue value = .ok ⟨path, t, some value⟩ := by
  unfold ResourceData.setValue ResourceData.declare
  rw [if_pos (dataType_of_valueOf? h)]

/-- Nothing of a definition that is accepted is lost, and what is built of it is in order. -/
theorem parse_loses_nothing {text : String} {objects : List ResourceObject}
    (h : parse text = .ok objects) :
    ∃ document, DefinitionDocument.ofText? text = some document ∧
      WellOrdered objects ∧
      OneToOne DefinitionEntry.Becomes document.entries
        (objects.flatMap ResourceObject.placed) ∧
      ((objects.flatMap ResourceObject.placed).map PlacedResource.numbers).Nodup ∧
      (objects.map ResourceObject.resourceCount).sum = document.entryCount ∧
      ∀ t json value path, valueOf? t json = some value →
        (ResourceData.declare path t).setValue value = .ok ⟨path, t, some value⟩ := by
  unfold parse at h
  split at h
  · next document htext =>
    have hordered := wellOrdered_of_build h
    have hentries := oneToOne_of_build h
    refine ⟨document, htext, hordered, hentries, hordered.nodup_numbers, ?_,
      fun t json value path hread => setValue_of_valueOf? hread path⟩
    rw [← length_entries, hentries.length_eq, List.length_flatMap]
    simp only [length_placed]
  · cases h

set_option maxRecDepth 2000 in
theorem parse_loses_nothing_sample :
    let text := "\x7b\"10\":\x7b\"0\":\x7b\"007\":\x7b\"type\":\"integer\",\"value\":5\x7d\x7d\x7d," ++
      "\"9\":\x7b\"+2\":\x7b\"1\":\x7b\"type\":\"time\"\x7d\x7d\x7d\x7d"
    let document : DefinitionDocument :=
      [("10", [("0", [("007", ⟨.single, .integer, some (.number (.integer 5)), [], false⟩)])]),
        ("9", [("+2", [("1", ⟨.single, .time, none, [], false⟩)])])]
    let objects : List ResourceObject :=
      [⟨9, [⟨2, [⟨1, .single, ⟨"/9/2/1", .time, none⟩, [], false⟩]⟩]⟩,
        ⟨10, [⟨0, [⟨7, .single, ⟨"/10/0/7", .integer, some (.integer 5)⟩, [], false⟩]⟩]⟩]
    parse text = .ok objects ∧ WellOrdered objects ∧
      OneToOne DefinitionEntry.Becomes document.entries
        (objects.flatMap ResourceObject.placed) := by
  intro text document objects
  have htext : DefinitionDocument.ofText? text = some document := by cbv
  have hbuild : build document = .ok objects := by cbv
  have hparse : parse text = .ok objects := by
    rw [← hbuild, parse, htext]
  obtain ⟨read, hread, hordered, hentries, -⟩ := parse_loses_nothing hparse
  obtain rfl : document = read := Option.some.inj (htext.symm.trans hread)
  exact ⟨hparse, hordered, hentries⟩

end Definition
end ResourceBroker
