import Mathlib.Data.List.Lex
import ResourceBroker.Proofs.Definition.Grammar
import ResourceBroker.Proofs.SortedMap

/-!
Which of several violations is reported. Each has its place in a document, told by the keys that lead to
it, and of all that there are the first is reported: depth first, keys in the order of their bytes.
-/

namespace ResourceBroker

/-- What is wrong, and the keys of the entry where it is, from the object down. -/
abbrev Violations := List String → DefinitionError → Prop

namespace Violations

/-- The violation whose keys come before those of any other. -/
def First (V : Violations) (e : DefinitionError) : Prop :=
  ∃ keys, V keys e ∧ ∀ keys' e', V keys' e' →
    keys' = keys ∧ e' = e ∨ List.Lex Text.Precedes keys keys'

structure Decide {β : Type} (V : Violations) (outcome : Except DefinitionError β) : Prop where
  none {x : β} : outcome = .ok x → ∀ keys e, ¬ V keys e
  first {e : DefinitionError} : outcome = .error e → V.First e

end Violations

section Level

variable {α β : Type} (path : String → String) (duplicate : UInt16 → String → DefinitionError)
  (inside : UInt16 → String → α → Violations)

/-- What is wrong with one entry of a map, under its key or further down. -/
inductive EntryViolation (map : List (String × α)) (key : String) (content : α) : Violations where
  | notNumeral (malformed : ¬ Text.IsIdentifier key.toList) :
    EntryViolation map key content [] (.invalidId (path key) key)
  | repeated {earlier : String × α} {id : UInt16} (before : earlier ∈ map)
    (precedes : Text.Precedes earlier.1 key) (number : Text.Denotes key.toList id.toNat)
    (same : Text.Denotes earlier.1.toList id.toNat) :
    EntryViolation map key content [] (duplicate id (path key))
  | content {id : UInt16} {keys : List String} {e : DefinitionError}
    (number : Text.Denotes key.toList id.toNat)
    (fresh : ∀ earlier ∈ map, Text.Precedes earlier.1 key →
      ¬ Text.Denotes earlier.1.toList id.toNat)
    (found : inside id (path key) content keys e) : EntryViolation map key content keys e

inductive LevelViolation (empty : DefinitionError) (map : List (String × α)) : Violations where
  | empty (unfilled : map = []) : LevelViolation empty map [] empty
  | entry {key : String} {content : α} {keys : List String} {e : DefinitionError}
    (member : (key, content) ∈ map)
    (found : EntryViolation path duplicate inside map key content keys e) :
    LevelViolation empty map (key :: keys) e

end Level

namespace Definition

section Entries

variable {α β : Type} {path : String → String} {duplicate : UInt16 → String → DefinitionError}
  {build : UInt16 → String → α → Except DefinitionError β} {inside : UInt16 → String → α → Violations}

theorem entries_cons_of_none {seen : List UInt16} {key : String} {content : α}
    {map : List (String × α)} (hid : Text.idNumeral? key.toList = none) :
    entries path duplicate build seen ((key, content) :: map) = .error (.invalidId (path key) key) := by
  rw [entries, hid]

theorem entries_cons_of_mem {seen : List UInt16} {key : String} {content : α}
    {map : List (String × α)} {id : UInt16} (hid : Text.idNumeral? key.toList = some id)
    (hseen : id ∈ seen) :
    entries path duplicate build seen ((key, content) :: map) = .error (duplicate id (path key)) := by
  rw [entries, hid]
  exact if_pos (List.contains_iff_mem.mpr hseen)

theorem entries_cons_of_notMem {seen : List UInt16} {key : String} {content : α}
    {map : List (String × α)} {id : UInt16} (hid : Text.idNumeral? key.toList = some id)
    (hseen : id ∉ seen) : entries path duplicate build seen ((key, content) :: map) =
      (build id (path key) content).bind fun entry =>
        (entries path duplicate build (id :: seen) map).map (entry :: ·) := by
  rw [entries, hid]
  refine (if_neg (List.contains_iff_mem.not.mpr hseen)).trans ?_
  cases build id (path key) content with
  | error e => rfl
  | ok entry => cases entries path duplicate build (id :: seen) map <;> rfl

theorem precedes_iff_mem {before after : List (String × α)} {key : String} {content : α}
    (h : SortedMap.Ascending (before ++ (key, content) :: after)) {earlier : String × α}
    (hmem : earlier ∈ before ++ (key, content) :: after) :
    Text.Precedes earlier.1 key ↔ earlier ∈ before := by
  simp only [SortedMap.Ascending, Text.precedes_iff, List.pairwise_append, List.pairwise_cons] at h ⊢
  obtain ⟨-, ⟨hlater, -⟩, hbefore⟩ := h
  refine ⟨fun hlt => ?_, fun hearlier => hbefore earlier hearlier _ List.mem_cons_self⟩
  obtain hearlier | hmem := List.mem_append.mp hmem
  · exact hearlier
  · obtain rfl | hmem := List.mem_cons.mp hmem
    · exact absurd hlt (lt_irrefl _)
    · exact absurd hlt (hlater earlier hmem).asymm

section Entry

variable {map : List (String × α)} {key : String} {content : α}

theorem isIdentifier_of_denotes {s : List Char} {id : UInt16} (h : Text.Denotes s id.toNat) :
    Text.IsIdentifier s :=
  ⟨id.toNat, Nat.le_of_lt_succ id.toNat_lt, h⟩

theorem first_notNumeral (h : Text.idNumeral? key.toList = none) :
    (EntryViolation path duplicate inside map key content).First (.invalidId (path key) key) := by
  have hmalformed : ¬ Text.IsIdentifier key.toList := by
    intro hidentifier
    have hsome := (Text.isSome_idNumeral?_iff _).mpr hidentifier
    rw [h] at hsome
    cases hsome
  refine ⟨[], .notNumeral hmalformed, fun keys' e' h => .inl ?_⟩
  cases h with
  | notNumeral => exact ⟨rfl, rfl⟩
  | repeated _ _ number => exact absurd (isIdentifier_of_denotes number) hmalformed
  | content number => exact absurd (isIdentifier_of_denotes number) hmalformed

theorem denotes_iff {s : List Char} {id other : UInt16} (hid : Text.idNumeral? s = some id) :
    Text.Denotes s other.toNat ↔ other = id := by
  rw [← Text.idNumeral?_eq_some_iff, hid, Option.some.injEq, eq_comm]

theorem first_repeated {id : UInt16} (hid : Text.idNumeral? key.toList = some id)
    (hseen : ∃ earlier ∈ map, Text.Precedes earlier.1 key ∧ Text.Denotes earlier.1.toList id.toNat) :
    (EntryViolation path duplicate inside map key content).First (duplicate id (path key)) := by
  have hnumber := (denotes_iff hid).mpr rfl
  obtain ⟨earlier, hmem, hprecedes, hsame⟩ := hseen
  refine ⟨[], .repeated hmem hprecedes hnumber hsame, fun keys' e' h => .inl ?_⟩
  cases h with
  | notNumeral malformed => exact absurd (isIdentifier_of_denotes hnumber) malformed
  | repeated _ _ number =>
    obtain rfl := (denotes_iff hid).mp number
    exact ⟨rfl, rfl⟩
  | content number fresh =>
    obtain rfl := (denotes_iff hid).mp number
    exact absurd hsame (fresh earlier hmem hprecedes)

theorem entryViolation_iff_inside {id : UInt16} (hid : Text.idNumeral? key.toList = some id)
    (hfresh : ¬ ∃ earlier ∈ map, Text.Precedes earlier.1 key ∧
      Text.Denotes earlier.1.toList id.toNat) {keys : List String} {e : DefinitionError} :
    EntryViolation path duplicate inside map key content keys e ↔
      inside id (path key) content keys e := by
  have hnumber := (denotes_iff hid).mpr rfl
  constructor
  · rintro (malformed | ⟨before, precedes, number, same⟩ | ⟨number, -, found⟩)
    · exact absurd (isIdentifier_of_denotes hnumber) malformed
    · obtain rfl := (denotes_iff hid).mp number
      exact absurd ⟨_, before, precedes, same⟩ hfresh
    · obtain rfl := (denotes_iff hid).mp number
      exact found
  · exact .content hnumber fun earlier hmem hprecedes hsame =>
      hfresh ⟨earlier, hmem, hprecedes, hsame⟩

end Entry

/-- What comes of the rest of a map: either nothing is wrong with its entries, or the first violation
is at one of them and nothing is wrong with those before. -/
structure DecideEntries (path : String → String) (duplicate : UInt16 → String → DefinitionError)
    (inside : UInt16 → String → α → Violations) (whole map : List (String × α))
    (outcome : Except DefinitionError (List β)) : Prop where
  none {out : List β} : outcome = .ok out →
    ∀ e ∈ map, ∀ keys err, ¬ EntryViolation path duplicate inside whole e.1 e.2 keys err
  first {err : DefinitionError} : outcome = .error err →
    ∃ before key content after, map = before ++ (key, content) :: after ∧
      (∀ e ∈ before, ∀ keys err, ¬ EntryViolation path duplicate inside whole e.1 e.2 keys err) ∧
      (EntryViolation path duplicate inside whole key content).First err

theorem DecideEntries.here {whole map : List (String × α)} {key : String} {content : α}
    {err : DefinitionError}
    (h : (EntryViolation path duplicate inside whole key content).First err) :
    DecideEntries path duplicate inside whole ((key, content) :: map)
      (.error err : Except DefinitionError (List β)) where
  none := nofun
  first := by
    rintro _ ⟨⟩
    exact ⟨[], key, content, map, rfl, nofun, h⟩

theorem DecideEntries.later {whole map : List (String × α)} {e : String × α}
    {outcome : Except DefinitionError (List β)}
    (he : ∀ keys err, ¬ EntryViolation path duplicate inside whole e.1 e.2 keys err)
    (h : DecideEntries path duplicate inside whole map outcome) (f : List β → List β) :
    DecideEntries path duplicate inside whole (e :: map) (outcome.map f) where
  none hok := by
    cases outcome with
    | error => cases hok
    | ok out => exact List.forall_mem_cons.mpr ⟨he, h.none rfl⟩
  first herror := by
    cases outcome with
    | ok => cases herror
    | error err =>
      cases herror
      obtain ⟨before, key, content, after, rfl, hbefore, hfirst⟩ := h.first rfl
      exact ⟨e :: before, key, content, after, rfl, List.forall_mem_cons.mpr ⟨he, hbefore⟩, hfirst⟩

theorem mem_seen_iff {before map : List (String × α)} {key : String} {content : α}
    (h : SortedMap.Ascending (before ++ (key, content) :: map)) {seen : List UInt16}
    (hseen : ∀ id, id ∈ seen ↔ ∃ b ∈ before, Text.Denotes b.1.toList id.toNat) (id : UInt16) :
    id ∈ seen ↔ ∃ earlier ∈ before ++ (key, content) :: map, Text.Precedes earlier.1 key ∧
      Text.Denotes earlier.1.toList id.toNat := by
  rw [hseen]
  constructor
  · rintro ⟨b, hb, hdenotes⟩
    have hmem := List.mem_append_left ((key, content) :: map) hb
    exact ⟨b, hmem, (precedes_iff_mem h hmem).mpr hb, hdenotes⟩
  · rintro ⟨b, hb, hprecedes, hdenotes⟩
    exact ⟨b, (precedes_iff_mem h hb).mp hprecedes, hdenotes⟩

theorem mem_seen_cons_iff {before : List (String × α)} {key : String} (content : α) {id : UInt16}
    (hid : Text.idNumeral? key.toList = some id) {seen : List UInt16}
    (hseen : ∀ id, id ∈ seen ↔ ∃ b ∈ before, Text.Denotes b.1.toList id.toNat) (other : UInt16) :
    other ∈ id :: seen ↔
      ∃ b ∈ before ++ [(key, content)], Text.Denotes b.1.toList other.toNat := by
  simp [hseen, denotes_iff hid, or_and_right, exists_or, or_comm]

/-- The induction is on what is left of a map; what was seen so far tells which keys are repeated. -/
theorem decideEntries_entries {whole : List (String × α)} (hascending : SortedMap.Ascending whole)
    (hbuild : ∀ e ∈ whole, ∀ id, (inside id (path e.1) e.2).Decide (build id (path e.1) e.2))
    {seen : List UInt16} {before map : List (String × α)} (hwhole : whole = before ++ map)
    (hseen : ∀ id, id ∈ seen ↔ ∃ b ∈ before, Text.Denotes b.1.toList id.toNat) :
    DecideEntries path duplicate inside whole map (entries path duplicate build seen map) := by
  induction map generalizing seen before with
  | nil => exact ⟨nofun, nofun⟩
  | cons entry map ih =>
    obtain ⟨key, content⟩ := entry
    cases hid : Text.idNumeral? key.toList with
    | none =>
      rw [entries_cons_of_none hid]
      exact .here (first_notNumeral hid)
    | some id =>
      have hmem := mem_seen_iff (hwhole ▸ hascending) hseen id
      rw [← hwhole] at hmem
      by_cases hid' : id ∈ seen
      · rw [entries_cons_of_mem hid hid']
        exact .here (first_repeated hid (hmem.mp hid'))
      · rw [entries_cons_of_notMem hid hid']
        have hinside {keys : List String} {e : DefinitionError} :
            EntryViolation path duplicate inside whole key content keys e ↔
              inside id (path key) content keys e :=
          entryViolation_iff_inside hid (hmem.not.mp hid')
        have hdecide := hbuild (key, content) (by simp [hwhole]) id
        cases hbuilt : build id (path key) content with
        | error e =>
          obtain ⟨keys, hfound, hleast⟩ := hdecide.first hbuilt
          exact .here ⟨keys, hinside.mpr hfound, fun keys' e' h => hleast keys' e' (hinside.mp h)⟩
        | ok x =>
          refine .later (fun keys e h => hdecide.none hbuilt keys e (hinside.mp h)) ?_ (x :: ·)
          refine ih ?_ (mem_seen_cons_iff content hid hseen)
          rw [hwhole, List.append_assoc, List.singleton_append]

theorem first_level {empty : DefinitionError} {before after : List (String × α)} {key : String}
    {content : α} {e : DefinitionError}
    (hascending : SortedMap.Ascending (before ++ (key, content) :: after))
    (hbefore : ∀ b ∈ before, ∀ keys err, ¬ EntryViolation path duplicate inside
      (before ++ (key, content) :: after) b.1 b.2 keys err)
    (h : (EntryViolation path duplicate inside (before ++ (key, content) :: after) key
      content).First e) :
    (LevelViolation path duplicate inside empty (before ++ (key, content) :: after)).First e := by
  obtain ⟨keys, hfound, hleast⟩ := h
  refine ⟨key :: keys, .entry (by simp) hfound, fun keys' e' h' => ?_⟩
  cases h' with
  | empty unfilled => simp at unfilled
  | @entry key' content' keys' _ member found =>
    obtain hmem | hmem := List.mem_append.mp member
    · exact absurd found (hbefore _ hmem keys' e')
    · obtain heq | hmem := List.mem_cons.mp hmem
      · obtain ⟨rfl, rfl⟩ := Prod.mk.inj heq
        obtain ⟨rfl, rfl⟩ | hlater := hleast keys' e' found
        · exact .inl ⟨rfl, rfl⟩
        · exact .inr (.cons hlater)
      · have hlater := (List.pairwise_append.mp hascending).2.1
        exact .inr (.rel ((List.pairwise_cons.mp hlater).1 _ hmem))

theorem decide_level {γ : Type} {map : List (String × α)} (hascending : SortedMap.Ascending map)
    (hbuild : ∀ e ∈ map, ∀ id, (inside id (path e.1) e.2).Decide (build id (path e.1) e.2))
    (empty : DefinitionError) (finish : List β → γ) :
    Violations.Decide (LevelViolation path duplicate inside empty map) (do
      if map.isEmpty then throw empty
      let found ← entries path duplicate build [] map
      pure (finish found)) := by
  have hentries : DecideEntries path duplicate inside map map (entries path duplicate build [] map) :=
    decideEntries_entries hascending hbuild (List.nil_append map).symm (by simp)
  constructor
  · intro x hok keys e h
    obtain ⟨hfilled, found, hfound, -⟩ := (level_eq_ok_iff empty finish).mp hok
    cases h with
    | empty unfilled => exact hfilled unfilled
    | entry member found => exact hentries.none hfound _ member _ _ found
  · intro e herror
    cases map with
    | nil =>
      cases herror
      refine ⟨[], .empty rfl, fun keys' e' h => .inl ?_⟩
      cases h with
      | empty => exact ⟨rfl, rfl⟩
      | entry member => cases member
    | cons entry map =>
      cases hfound : entries path duplicate build [] (entry :: map) with
      | ok found =>
        simp only [List.isEmpty_cons, hfound, Bind.bind, Except.bind, Pure.pure, Except.pure] at herror
        cases herror
      | error e' =>
        simp only [List.isEmpty_cons, hfound, Bind.bind, Except.bind] at herror
        cases herror
        obtain ⟨before, key, content, after, heq, hbefore, hfirst⟩ := hentries.first hfound
        rw [heq] at hascending hbefore hfirst ⊢
        exact first_level hascending hbefore hfirst

end Entries

inductive ResourceViolation (object inst id : UInt16) (spec : ResourceSpec) : Violations where
  | value {json : Json} (given : spec.value = some json) (unfit : ¬ spec.dataType.Admits json) :
    ResourceViolation object inst id spec []
      (.invalidValue json ("/" ++ numbered [object, inst] ++ toString id.toNat) spec.dataType)

def InstanceViolation (object id : UInt16) (path : String) (specs : List (String × ResourceSpec)) :
    Violations :=
  LevelViolation (numbered [object, id] ++ ·) (fun _ path => .duplicateResource path)
    (fun resource _ spec => ResourceViolation object id resource spec) (.noResources path) specs

def ObjectViolation (id : UInt16) (instances : List (String × List (String × ResourceSpec))) :
    Violations :=
  LevelViolation (numbered [id] ++ ·) (fun _ path => .duplicateInstance path)
    (fun inst path specs => InstanceViolation id inst path specs) (.noInstances id) instances

def Violation (document : DefinitionDocument) : Violations :=
  LevelViolation (·) (fun id _ => .duplicateObject id)
    (fun id _ instances => ObjectViolation id instances) .noObjects document

theorem decide_buildResource {spec : ResourceSpec} (hreal : HasReal spec) (object inst id : UInt16) :
    (ResourceViolation object inst id spec).Decide (buildResource object inst id spec) := by
  have hok := buildResource_ok_iff hreal object inst id
  constructor
  · rintro x hx keys e ⟨given, unfit⟩
    exact unfit (hok.mp ⟨x, hx⟩ _ given)
  · intro e herror
    unfold buildResource at herror
    cases hvalue : spec.value with
    | none => rw [hvalue] at herror; cases herror
    | some json =>
      rw [hvalue] at herror
      cases hread : valueOf? spec.dataType json with
      | some value => simp only [hread] at herror; cases herror
      | none =>
        simp only [hread] at herror
        cases herror
        have hunfit : ¬ spec.dataType.Admits json := by
          rw [← isSome_valueOf?_iff fun n hn => hreal n (hn ▸ hvalue), hread]
          exact nofun
        refine ⟨[], .value hvalue hunfit, ?_⟩
        rintro keys' e' ⟨given, -⟩
        obtain rfl := Option.some.inj (hvalue.symm.trans given)
        exact .inl ⟨rfl, rfl⟩

theorem decide_buildInstance {specs : List (String × ResourceSpec)}
    (hascending : SortedMap.Ascending specs) (hreal : ∀ r ∈ specs, HasReal r.2) (object id : UInt16)
    (path : String) :
    (InstanceViolation object id path specs).Decide (buildInstance object id path specs) :=
  decide_level hascending (fun r hr resource => decide_buildResource (hreal r hr) object id resource)
    _ _

theorem decide_buildObject {instances : List (String × List (String × ResourceSpec))}
    (hascending : SortedMap.Ascending instances)
    (hinstances : ∀ i ∈ instances, SortedMap.Ascending i.2)
    (hreal : ∀ i ∈ instances, ∀ r ∈ i.2, HasReal r.2) (id : UInt16) :
    (ObjectViolation id instances).Decide (buildObject id instances) :=
  decide_level hascending
    (fun i hi inst => decide_buildInstance (hinstances i hi) (hreal i hi) id inst _) _ _

end Definition

namespace DefinitionDocument

/-- Keys in the order of their bytes, each once, at all three levels. -/
structure Sorted (document : DefinitionDocument) : Prop where
  objects : SortedMap.Ascending document
  instances : ∀ o ∈ document, SortedMap.Ascending o.2
  resources : ∀ o ∈ document, ∀ i ∈ o.2, SortedMap.Ascending i.2

theorem ascending_of_map {α : Type} {read : Json.Reader α} {o : Json.Origin} {v : Json}
    {map : List (String × α)} (h : Json.Reader.map read o v = some map) :
    SortedMap.Ascending map ∧ ∀ e ∈ map, ∃ inside v', read inside v' = some e.2 := by
  cases v with
  | object members =>
    simp only [Json.Reader.map, Option.bind_eq_bind, Option.bind_eq_some_iff] at h
    obtain ⟨inside, -, pairs, -, contents, hcontents, h⟩ := h
    obtain rfl := Option.some.inj h
    refine ⟨SortedMap.ascending_ofList contents, fun e he => ?_⟩
    obtain ⟨m, -, hcontent⟩ := exists_of_mem_mapM hcontents (SortedMap.mem_of_mem_ofList he)
    obtain ⟨content, hread, rfl⟩ := Option.map_eq_some_iff.mp hcontent
    exact ⟨inside, m.2, hread⟩
  | _ => cases h

theorem sorted_of_ofText? {text : String} {document : DefinitionDocument}
    (h : ofText? text = some document) : document.Sorted := by
  obtain ⟨v, -, hread⟩ := Option.bind_eq_some_iff.mp h
  obtain ⟨hobjects, heach⟩ := ascending_of_map hread
  refine ⟨hobjects, fun o ho => ?_, fun o ho i hi => ?_⟩
  · obtain ⟨_, _, hread⟩ := heach o ho
    exact (ascending_of_map hread).1
  · obtain ⟨_, _, hread⟩ := heach o ho
    obtain ⟨_, _, hread⟩ := (ascending_of_map hread).2 i hi
    exact (ascending_of_map hread).1

end DefinitionDocument

namespace Definition

theorem decide_build {text : String} {document : DefinitionDocument}
    (h : DefinitionDocument.ofText? text = some document) :
    (Violation document).Decide (build document) := by
  have hsorted := DefinitionDocument.sorted_of_ofText? h
  have hreal := DefinitionDocument.hasReal_of_ofText? h
  refine decide_level hsorted.objects (fun o ho id => ?_) _ _
  exact decide_buildObject (hsorted.instances o ho) (hsorted.resources o ho) (hreal o ho) id

end Definition
end ResourceBroker
