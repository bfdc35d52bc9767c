import ResourceBroker.Definition.Basic
import ResourceBroker.Proofs.Json.Reader

/-!
The language of definitions. A text is accepted if and only if it decodes as a document whose maps are
filled, whose keys are numerals for different identifiers, and whose values are of their types.
-/

namespace ResourceBroker

def Text.IsIdentifier (s : List Char) : Prop := ∃ n ≤ 65535, Denotes s n

/-- What an initial value may be, by the declared type. -/
def DataType.Admits : DataType → Json → Prop
  | .string, v => ∃ s, v = .string (some s)
  | .integer, v | .time, v =>
    ∃ n, v = .number (.integer n) ∧ -9223372036854775808 ≤ n ∧ n ≤ 9223372036854775807
  | .float, v => ∃ n, v = .number n
  | .boolean, v => ∃ b, v = .bool b
  | .bytes, v => ∃ elements, v = .array elements ∧
      ∀ e ∈ elements, ∃ n, e = .number (.integer n) ∧ 0 ≤ n ∧ n ≤ 255
  | .link, v => ∃ s object inst, v = .string (some s) ∧ s.toList = object ++ ':' :: inst ∧
      ':' ∉ object ∧ Text.IsIdentifier object ∧ Text.IsIdentifier inst

def ResourceSpec.WellTyped (spec : ResourceSpec) : Prop :=
  ∀ v, spec.value = some v → spec.dataType.Admits v

namespace DefinitionDocument

/-- One map of a document, whose contents are to be good. -/
structure Level {α : Type} (Good : α → Prop) (map : List (String × α)) : Prop where
  filled : map ≠ []
  identifiers : ∀ e ∈ map, Text.IsIdentifier e.1.toList
  distinct : map.Pairwise fun a b =>
    ∀ n, Text.Denotes a.1.toList n → ¬ Text.Denotes b.1.toList n
  contents : ∀ e ∈ map, Good e.2

def WellFormed (document : DefinitionDocument) : Prop :=
  Level (Level (Level ResourceSpec.WellTyped)) document

end DefinitionDocument

namespace Definition

theorem isLink_iff (target : List Char) :
    isLink target ↔ ∃ object inst, target = object ++ ':' :: inst ∧ ':' ∉ object ∧
      Text.IsIdentifier object ∧ Text.IsIdentifier inst := by
  simp only [Text.IsIdentifier, ← Text.isSome_idNumeral?_iff]
  constructor
  · intro h
    have hcut := List.takeWhile_append_dropWhile (p := (· ≠ ':')) (l := target)
    have hcolon : ':' ∉ target.takeWhile (· ≠ ':') := fun hmem => by
      simpa using List.all_eq_true.mp List.all_takeWhile _ hmem
    unfold isLink at h
    split at h
    · next inst hdrop =>
      rw [hdrop] at hcut
      rw [Bool.and_eq_true] at h
      exact ⟨_, inst, hcut.symm, hcolon, h⟩
    · cases h
  · rintro ⟨object, inst, rfl, hcolon, hobject, hinst⟩
    have hpos : ∀ c ∈ object, decide (c ≠ ':') = true := by
      intro c hc
      simpa using ne_of_mem_of_not_mem hc hcolon
    have htake : (object ++ ':' :: inst).takeWhile (· ≠ ':') = object := by
      rw [List.takeWhile_append_of_pos hpos]
      simp
    have hdrop : (object ++ ':' :: inst).dropWhile (· ≠ ':') = ':' :: inst := by
      rw [List.dropWhile_append_of_pos hpos]
      simp
    simp only [isLink, hdrop, htake, hobject, hinst, Bool.and_self]

theorem isSome_integer_iff {low high : Int} {o : Json.Origin} {v : Json} :
    (Json.Reader.integer low high o v).isSome ↔
      ∃ n, v = .number (.integer n) ∧ low ≤ n ∧ n ≤ high := by
  unfold Json.Reader.integer
  split
  · next n => split <;> simp_all
  · next h => exact ⟨nofun, fun ⟨n, hn, _⟩ => absurd hn (h n)⟩

theorem isSome_byte_iff {o : Json.Origin} {v : Json} :
    (Json.Reader.uint8 o v).isSome ↔ ∃ n, v = .number (.integer n) ∧ 0 ≤ n ∧ n ≤ 255 := by
  rw [Json.Reader.uint8, Option.isSome_map]
  exact isSome_integer_iff

theorem isSome_valueOf?_iff {t : DataType} {json : Json}
    (hreal : ∀ n, json = .number n → n.toReal?.isSome) :
    (valueOf? t json).isSome ↔ t.Admits json := by
  cases t with
  | string =>
    rw [valueOf?, Option.isSome_map]
    cases json <;> simp [Json.Reader.string, DataType.Admits, Option.isSome_iff_exists]
  | integer | time =>
    rw [valueOf?, Option.isSome_map, Json.Reader.int64, Option.isSome_map]
    exact isSome_integer_iff
  | float =>
    rw [valueOf?, Option.isSome_map]
    cases json <;> simp_all [Json.Reader.real, DataType.Admits]
  | boolean =>
    rw [valueOf?, Option.isSome_map]
    cases json <;> simp [Json.Reader.bool, DataType.Admits]
  | bytes =>
    rw [valueOf?, Option.isSome_map]
    cases json with
    | array elements =>
      change (elements.mapM (Json.Reader.uint8 .held)).isSome ↔ _
      simp only [isSome_mapM_iff, isSome_byte_iff]
      simp [DataType.Admits]
    | _ => simp [Json.Reader.list, DataType.Admits]
  | link =>
    rcases json with _ | _ | _ | text | _ | _
    case string =>
      cases text with
      | none => simp [valueOf?, Json.Reader.string, DataType.Admits]
      | some s =>
        have h := isLink_iff s.toList
        by_cases hlink : isLink s.toList <;>
          simp_all [valueOf?, Json.Reader.string, DataType.Admits]
    all_goals simp [valueOf?, Json.Reader.string, DataType.Admits]

section Entries

variable {α β : Type} {path : String → String} {duplicate : UInt16 → String → DefinitionError}
  {build : UInt16 → String → α → Except DefinitionError β}

theorem entries_cons_eq_ok_iff {seen : List UInt16} {key : String} {content : α}
    {map : List (String × α)} {out : List β} :
    entries path duplicate build seen ((key, content) :: map) = .ok out ↔
      ∃ id, Text.idNumeral? key.toList = some id ∧ id ∉ seen ∧
        ∃ entry, build id (path key) content = .ok entry ∧
          ∃ more, entries path duplicate build (id :: seen) map = .ok more ∧ entry :: more = out := by
  cases hid : Text.idNumeral? key.toList with
  | none => simp [entries, hid]
  | some id =>
    by_cases hseen : id ∈ seen
    · simp [entries, hid, hseen]
    · simp only [entries, hid, List.contains_iff_mem, hseen, if_false, Option.some.injEq,
        exists_eq_left', not_false_eq_true, true_and]
      cases build id (path key) content with
      | error e => simp [Bind.bind, Except.bind]
      | ok entry =>
        cases entries path duplicate build (id :: seen) map <;>
          simp [Bind.bind, Except.bind, Pure.pure, Except.pure]

theorem entries_ok_iff {Good : α → Prop} {map : List (String × α)}
    (hbuild : ∀ e ∈ map, ∀ id path, (∃ out, build id path e.2 = .ok out) ↔ Good e.2)
    (seen : List UInt16) :
    (∃ out, entries path duplicate build seen map = .ok out) ↔
      (∀ e ∈ map, ∃ id, Text.idNumeral? e.1.toList = some id ∧ id ∉ seen) ∧
        (map.Pairwise fun a b => Text.idNumeral? a.1.toList ≠ Text.idNumeral? b.1.toList) ∧
        ∀ e ∈ map, Good e.2 := by
  induction map generalizing seen with
  | nil => simp [entries]
  | cons entry map ih =>
    obtain ⟨key, content⟩ := entry
    -- whether the rest is accepted depends on the identifiers so far, so these vary in the induction
    have hrest := fun id => ih (fun e he => hbuild e (List.mem_cons_of_mem _ he)) (id :: seen)
    have hhead := hbuild (key, content) List.mem_cons_self
    cases hid : Text.idNumeral? key.toList with
    | none => simp [entries_cons_eq_ok_iff, hid]
    | some id =>
      by_cases hseen : id ∈ seen
      · simp [entries_cons_eq_ok_iff, hid, hseen]
      · have hentries : (∃ out, entries path duplicate build seen ((key, content) :: map) = .ok out) ↔
            (∃ entry, build id (path key) content = .ok entry) ∧
              ∃ more, entries path duplicate build (id :: seen) map = .ok more := by
          simp only [entries_cons_eq_ok_iff, hid, Option.some.injEq, exists_eq_left', hseen,
            not_false_eq_true, true_and]
          exact ⟨fun ⟨_, entry, hentry, more, hmore, _⟩ => ⟨⟨entry, hentry⟩, more, hmore⟩,
            fun ⟨⟨entry, hentry⟩, more, hmore⟩ => ⟨_, entry, hentry, more, hmore, rfl⟩⟩
        have hfresh : (∀ e ∈ map, ∃ other, Text.idNumeral? e.1.toList = some other ∧
              other ∉ id :: seen) ↔
            (∀ e ∈ map, ∃ other, Text.idNumeral? e.1.toList = some other ∧ other ∉ seen) ∧
              ∀ e ∈ map, some id ≠ Text.idNumeral? e.1.toList := by
          rw [← forall₂_and]
          refine forall₂_congr fun e _ => ?_
          cases Text.idNumeral? e.1.toList with
          | none => simp
          | some other => simp [and_comm, eq_comm]
        rw [hentries, hhead, hrest, hfresh, List.forall_mem_cons, List.forall_mem_cons,
          List.pairwise_cons]
        simp only [hid, Option.some.injEq, exists_eq_left', hseen, not_false_eq_true, true_and]
        tauto

theorem idNumeral?_ne_iff {s t : List Char} (h : Text.IsIdentifier s) :
    Text.idNumeral? s ≠ Text.idNumeral? t ↔ ∀ n, Text.Denotes s n → ¬ Text.Denotes t n := by
  obtain ⟨id, hid⟩ := Option.isSome_iff_exists.mp ((Text.isSome_idNumeral?_iff s).mpr h)
  have hs := Text.idNumeral?_eq_some_iff.mp hid
  constructor
  · intro hne n hn ht
    rw [hn.unique hs] at ht
    exact hne (hid.trans (Text.idNumeral?_eq_some_iff.mpr ht).symm)
  · intro hdistinct heq
    exact hdistinct id.toNat hs (Text.idNumeral?_eq_some_iff.mp (heq ▸ hid))

theorem level_eq_ok_iff {γ : Type} {map : List (String × α)} {out : γ} (empty : DefinitionError)
    (finish : List β → γ) :
    (do
      if map.isEmpty then throw empty
      let found ← entries path duplicate build [] map
      pure (finish found)) = Except.ok out ↔
    map ≠ [] ∧ ∃ found, entries path duplicate build [] map = .ok found ∧ finish found = out := by
  cases map with
  | nil => simp [Bind.bind, Except.bind, throw, throwThe, MonadExceptOf.throw]
  | cons e map =>
    cases entries path duplicate build [] (e :: map) <;>
      simp [Bind.bind, Except.bind, Pure.pure, Except.pure]

theorem level_ok_iff {γ : Type} {Good : α → Prop} {map : List (String × α)}
    (hbuild : ∀ e ∈ map, ∀ id path, (∃ out, build id path e.2 = .ok out) ↔ Good e.2)
    (empty : DefinitionError) (finish : List β → γ) :
    (∃ out, (do
        if map.isEmpty then throw empty
        let found ← entries path duplicate build [] map
        pure (finish found)) = Except.ok out) ↔ DefinitionDocument.Level Good map := by
  have hentries : (∃ out, (do
        if map.isEmpty then throw empty
        let found ← entries path duplicate build [] map
        pure (finish found)) = Except.ok out) ↔
      map ≠ [] ∧ ∃ found, entries path duplicate build [] map = .ok found := by
    simp only [level_eq_ok_iff]
    exact ⟨fun ⟨_, hfilled, found, hfound, _⟩ => ⟨hfilled, found, hfound⟩,
      fun ⟨hfilled, found, hfound⟩ => ⟨_, hfilled, found, hfound, rfl⟩⟩
  rw [hentries, entries_ok_iff hbuild]
  simp only [List.not_mem_nil, not_false_eq_true, and_true, ← Option.isSome_iff_exists,
    Text.isSome_idNumeral?_iff]
  constructor
  · rintro ⟨filled, identifiers, distinct, contents⟩
    refine ⟨filled, identifiers, distinct.imp_of_mem ?_, contents⟩
    exact fun ha _ hne => (idNumeral?_ne_iff (identifiers _ ha)).mp hne
  · rintro ⟨filled, identifiers, distinct, contents⟩
    refine ⟨filled, identifiers, distinct.imp_of_mem ?_, contents⟩
    exact fun ha _ hne => (idNumeral?_ne_iff (identifiers _ ha)).mpr hne

end Entries

theorem buildResource_ok_iff {spec : ResourceSpec}
    (hreal : ∀ n, spec.value = some (.number n) → n.toReal?.isSome) (object inst id : UInt16) :
    (∃ out, buildResource object inst id spec = .ok out) ↔ spec.WellTyped := by
  unfold buildResource ResourceSpec.WellTyped
  cases hvalue : spec.value with
  | none => simp [Bind.bind, Except.bind, Pure.pure, Except.pure]
  | some json =>
    have hadmits := isSome_valueOf?_iff (t := spec.dataType) fun n hn => hreal n (hn ▸ hvalue)
    simp only [Option.some.injEq, forall_eq', ← hadmits]
    cases valueOf? spec.dataType json <;>
      simp [Bind.bind, Except.bind, Pure.pure, Except.pure, throw, throwThe, MonadExceptOf.throw]

/-- The only numbers among the values are real numbers or can be rounded to one. -/
def HasReal (spec : ResourceSpec) : Prop :=
  ∀ n, spec.value = some (.number n) → n.toReal?.isSome

theorem buildInstance_ok_iff {specs : List (String × ResourceSpec)}
    (hreal : ∀ r ∈ specs, HasReal r.2) (object id : UInt16) (path : String) :
    (∃ out, buildInstance object id path specs = .ok out) ↔
      DefinitionDocument.Level ResourceSpec.WellTyped specs :=
  level_ok_iff (fun r hr resource _ => buildResource_ok_iff (hreal r hr) object id resource) _ _

theorem buildObject_ok_iff {instances : List (String × List (String × ResourceSpec))}
    (hreal : ∀ i ∈ instances, ∀ r ∈ i.2, HasReal r.2) (id : UInt16) :
    (∃ out, buildObject id instances = .ok out) ↔
      DefinitionDocument.Level (DefinitionDocument.Level ResourceSpec.WellTyped) instances :=
  level_ok_iff (fun i hi inst path => buildInstance_ok_iff (hreal i hi) id inst path) _ _

theorem build_ok_iff {document : DefinitionDocument}
    (hreal : ∀ o ∈ document, ∀ i ∈ o.2, ∀ r ∈ i.2, HasReal r.2) :
    (∃ out, build document = .ok out) ↔ document.WellFormed :=
  level_ok_iff (fun o ho id _ => buildObject_ok_iff (hreal o ho) id) _ _

end Definition

/-! Documents that were read from a text hold no number that is too large. -/

namespace DefinitionDocument

theorem hasReal_of_readValue {room : Nat} {v : Json} (hwordy : v.Wordy) {n : Json.Number}
    (h : ResourceSpec.readValue (.text room) v = some (some (.number n))) : n.toReal?.isSome := by
  cases v with
  | null => cases h
  | number m =>
    simp only [ResourceSpec.readValue, Json.sorted, Option.ite_none_right_eq_some,
      Option.some.injEq, Json.number.injEq] at h
    obtain ⟨hholds, rfl⟩ := h
    cases hwordy with
    | number word =>
      exact Json.Number.isSome_toReal? word (by simpa [Json.Origin.canHold, Json.isHoldable] using hholds)
  | _ => simp [ResourceSpec.readValue, Json.sorted, Json.record] at h

theorem yields_readSpec : Json.Reader.Yields ResourceSpec.read Definition.HasReal := by
  intro room v spec hwordy hread n hn
  simp only [ResourceSpec.read, Option.bind_eq_bind, Option.bind_eq_some_iff] at hread
  obtain ⟨r, hr, mode, -, dataType, -, value, hvalue, operations, -, observable, -, h⟩ := hread
  obtain rfl := Option.some.inj h
  obtain ⟨⟨room, horigin⟩, hmembers⟩ := Json.Reader.Yields.closedRecord _ _ _ _ hwordy hr
  dsimp only at hn
  subst hn
  unfold Json.Record.withDefault at hvalue
  split at hvalue
  · cases hvalue
  · next json hlookup =>
    rw [horigin] at hvalue
    exact hasReal_of_readValue (hmembers _ (Json.mem_of_lookup hlookup)) hvalue

theorem hasReal_of_ofText? {text : String} {document : DefinitionDocument}
    (h : ofText? text = some document) :
    ∀ o ∈ document, ∀ i ∈ o.2, ∀ r ∈ i.2, Definition.HasReal r.2 := by
  obtain ⟨v, hparse, hread⟩ := Option.bind_eq_some_iff.mp h
  exact yields_readSpec.map.map.map _ v document (Json.wordy_of_parse? hparse) hread

end DefinitionDocument

namespace Definition

/-- A text is accepted exactly if it decodes as a well-formed document. Any other is refused, and
whatever is wrong with it, the broker is told of an invalid definition. -/
theorem parse_accepts_wellFormed (text : String) :
    ((∃ objects, parse text = .ok objects) ↔
      ∃ document, DefinitionDocument.ofText? text = some document ∧ document.WellFormed) ∧
    ((¬ ∃ document, DefinitionDocument.ofText? text = some document ∧ document.WellFormed) →
      ∃ error message, parse text = .error error ∧
        error.toBrokerError = .invalidDefinition message) := by
  have hiff : (∃ objects, parse text = .ok objects) ↔
      ∃ document, DefinitionDocument.ofText? text = some document ∧ document.WellFormed := by
    unfold parse
    split
    · next document h =>
      rw [build_ok_iff (DefinitionDocument.hasReal_of_ofText? h)]
      simp [h]
    · next h => simp [h]
  refine ⟨hiff, fun hrefused => ?_⟩
  rw [← hiff] at hrefused
  cases h : parse text with
  | ok objects => exact absurd ⟨objects, h⟩ hrefused
  | error error => exact ⟨error, error.message, rfl, rfl⟩

end Definition
end ResourceBroker
