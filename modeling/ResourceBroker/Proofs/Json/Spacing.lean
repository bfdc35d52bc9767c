import ResourceBroker.Proofs.Json.Parser

/-!
Space between tokens. A text that is read as a value is read as the same value without any such space,
so texts that differ in nothing else are read alike. Spaces inside a string stay.
-/

namespace ResourceBroker.Json

mutual

/-- The text without the space between its tokens. -/
def unspaced : List Char → List Char
  | [] => []
  | c :: s =>
    if isSpace c then unspaced s
    else if c = '"' then c :: unspacedString s
    else c :: unspaced s
termination_by structural s => s

def unspacedString : List Char → List Char
  | [] => []
  | '\\' :: c :: s => '\\' :: c :: unspacedString s
  | c :: s => if c = '"' then c :: unspaced s else c :: unspacedString s
termination_by structural s => s

end

@[simp] theorem unspaced_nil : unspaced [] = [] := rfl

theorem unspaced_token {c : Char} (hspace : isSpace c = false) (hquote : c ≠ '"') (s : List Char) :
    unspaced (c :: s) = c :: unspaced s := by
  simp [unspaced, hspace, hquote]

theorem unspaced_quote (s : List Char) : unspaced ('"' :: s) = '"' :: unspacedString s := rfl

theorem unspaced_skipSpace (s : List Char) : unspaced (skipSpace s) = unspaced s := by
  induction s with
  | nil => rfl
  | cons c s ih =>
    by_cases hc : isSpace c
    · rw [skipSpace, List.dropWhile_cons_of_pos hc, ← skipSpace, ih, unspaced, if_pos hc]
    · rw [skipSpace_cons (by simpa using hc)]

theorem head?_unspaced (s : List Char) : (unspaced s).head? = (skipSpace s).head? := by
  induction s with
  | nil => rfl
  | cons c s ih =>
    by_cases hc : isSpace c
    · rw [skipSpace, List.dropWhile_cons_of_pos hc, ← skipSpace, unspaced, if_pos hc, ih]
    · rw [skipSpace_cons (by simpa using hc), unspaced, if_neg hc]
      split <;> rfl

theorem isSpace_of_skipSpace {s t : List Char} {c : Char} (h : skipSpace s = c :: t) :
    isSpace c = false := by
  have hhead := List.head?_dropWhile_not isSpace s
  rw [← skipSpace, h] at hhead
  simpa using hhead

theorem skipSpace_skipSpace (s : List Char) : skipSpace (skipSpace s) = skipSpace s := by
  cases h : skipSpace s with
  | nil => rfl
  | cons c t => exact skipSpace_cons (isSpace_of_skipSpace h) t

theorem skipSpace_unspaced (s : List Char) : skipSpace (unspaced s) = unspaced s := by
  cases h : unspaced s with
  | nil => rfl
  | cons c t =>
    have hhead := head?_unspaced s
    rw [h, List.head?_cons] at hhead
    obtain ⟨after, hafter⟩ := List.head?_eq_some_iff.mp hhead.symm
    exact skipSpace_cons (isSpace_of_skipSpace hafter) t

/-! Numerals hold no space. They end where they ended, since what comes next comes next without space
too, or is nothing that a numeral could take in. -/

/-- A numeral that ends in front of the text ends there too when the text loses its space. -/
def Detached (t : List Char) : Prop :=
  (unspaced t).head? = t.head? ∨ EndsNumeral (unspaced t)

theorem detached_token {c : Char} (h : isSpace c = false) (s : List Char) : Detached (c :: s) := by
  refine .inl ?_
  rw [head?_unspaced, skipSpace_cons h]

theorem Detached.head {t : List Char} (h : Detached t) {P : Char → Prop}
    (hends : ∀ c, c.isDigit = false ∧ c ≠ '.' ∧ c ≠ 'e' ∧ c ≠ 'E' → P c)
    (ht : ∀ c ∈ t.head?, P c) : ∀ c ∈ (unspaced t).head?, P c := by
  obtain h | h := h
  · exact h ▸ ht
  · exact fun c hc => hends c (h c hc)

/-- What is scanned off a text is scanned off the text without its space. -/
def ScansUnspaced {α : Type} (scan : List Char → Option (α × List Char)) : Prop :=
  ∀ s a t, scan s = some (a, t) → Detached t →
    Detached s ∧ unspaced t <:+ unspaced s ∧ scan (unspaced s) = some (a, unspaced t)

theorem isSpace_of_isDigit {c : Char} (h : c.isDigit) : isSpace c = false :=
  isSpace_of_numeral (.inr h)

theorem unspaced_digit {c : Char} (h : c.isDigit) (s : List Char) :
    unspaced (c :: s) = c :: unspaced s := by
  refine unspaced_token (isSpace_of_isDigit h) ?_ s
  rintro rfl
  exact absurd h (by decide)

theorem spanDigits_of_head {s : List Char} (h : ∀ c ∈ s.head?, c.isDigit = false) :
    Text.spanDigits s = ([], s) := by
  cases s with
  | nil => rfl
  | cons c s => simp [Text.spanDigits, Text.isDigit_eq, h c rfl]

theorem spanDigits_digit {c : Char} (h : c.isDigit) (s : List Char) :
    Text.spanDigits (c :: s) =
      ((c.toNat - '0'.toNat) :: (Text.spanDigits s).1, (Text.spanDigits s).2) := by
  have hdigit := Text.digit?_eq_some_iff.mpr ⟨h, rfl⟩
  simp [Text.spanDigits, Text.isDigit_eq, h, hdigit]

theorem spanDigits_unspaced (s : List Char) (h : Detached (Text.spanDigits s).2) :
    Detached s ∧ unspaced (Text.spanDigits s).2 <:+ unspaced s ∧
      Text.spanDigits (unspaced s) = ((Text.spanDigits s).1, unspaced (Text.spanDigits s).2) := by
  induction s with
  | nil => exact ⟨h, List.suffix_rfl, rfl⟩
  | cons c s ih =>
    by_cases hc : c.isDigit
    · rw [spanDigits_digit hc] at h ⊢
      obtain ⟨-, hsuffix, hspan⟩ := ih h
      rw [unspaced_digit hc, spanDigits_digit hc, hspan]
      exact ⟨detached_token (isSpace_of_isDigit hc) s, hsuffix.trans (List.suffix_cons c _), rfl⟩
    · have hspan : Text.spanDigits (c :: s) = ([], c :: s) :=
        spanDigits_of_head (by simpa using hc)
      rw [hspan] at h ⊢
      refine ⟨h, List.suffix_rfl, spanDigits_of_head (h.head (fun _ hends => hends.1) ?_)⟩
      simpa using hc

theorem scansUnspaced_digits? : ScansUnspaced digits? := by
  intro s a t h ht
  unfold digits? at h
  split at h
  · cases h
  · next hdigits =>
    have hspan : Text.spanDigits s = (a, t) := Option.some.inj h
    obtain ⟨hs, hsuffix, hkept⟩ := spanDigits_unspaced s (by rwa [hspan])
    rw [hspan] at hsuffix hkept hdigits
    exact ⟨hs, hsuffix, by rw [digits?, hkept, if_neg hdigits]⟩

theorem ScansUnspaced.cons {α : Type} {scan scan' : List Char → Option (α × List Char)} {c : Char}
    (h : ScansUnspaced scan') (hspace : isSpace c = false) (hquote : c ≠ '"')
    (hscan : ∀ s, scan (c :: s) = scan' s) {s t : List Char} {a : α}
    (hs : scan (c :: s) = some (a, t)) (ht : Detached t) :
    Detached (c :: s) ∧ unspaced t <:+ unspaced (c :: s) ∧
      scan (unspaced (c :: s)) = some (a, unspaced t) := by
  rw [hscan] at hs
  obtain ⟨-, hsuffix, hkept⟩ := h s a t hs ht
  rw [unspaced_token hspace hquote, hscan]
  exact ⟨detached_token hspace s, hsuffix.trans (List.suffix_cons _ _), hkept⟩

theorem scansUnspaced_scanWhole : ScansUnspaced scanWhole := by
  intro s a t h ht
  obtain ⟨c, after, rfl, hc⟩ := head_of_scanWhole h
  by_cases hzero : c = '0'
  · subst hzero
    obtain ⟨rfl, rfl⟩ := Prod.mk.inj (Option.some.inj h)
    rw [unspaced_digit hc]
    exact ⟨detached_token (isSpace_of_isDigit hc) _, List.suffix_cons _ _, rfl⟩
  · have hscan (s : List Char) : scanWhole (c :: s) = digits? (c :: s) :=
      scanWhole_eq fun t heq => hzero (List.cons.inj heq).1
    rw [hscan] at h
    have hkept := scansUnspaced_digits? _ _ _ h ht
    rw [unspaced_digit hc] at hkept ⊢
    rwa [hscan]

theorem scansUnspaced_scanFraction : ScansUnspaced scanFraction := by
  intro s a t h ht
  by_cases hpoint : ∀ c ∈ s.head?, c ≠ '.'
  · rw [scanFraction_of_head hpoint] at h
    obtain ⟨rfl, rfl⟩ := Prod.mk.inj (Option.some.inj h)
    exact ⟨ht, List.suffix_rfl, scanFraction_of_head (ht.head (fun _ hends => hends.2.1) hpoint)⟩
  · simp only [ne_eq, not_forall, not_not] at hpoint
    obtain ⟨c, hc, rfl⟩ := hpoint
    obtain ⟨after, rfl⟩ := List.head?_eq_some_iff.mp hc
    exact scansUnspaced_digits?.cons (by decide) (by decide) scanFraction_point h ht

theorem scansUnspaced_scanExponentDigits (negative : Bool) :
    ScansUnspaced (scanExponentDigits negative) := by
  intro s a t h ht
  rw [scanExponentDigits_eq] at h ⊢
  obtain ⟨⟨digits, after⟩, hdigits, heq⟩ := Option.map_eq_some_iff.mp h
  obtain ⟨rfl, rfl⟩ := Prod.mk.inj heq
  obtain ⟨hs, hsuffix, hkept⟩ := scansUnspaced_digits? _ _ _ hdigits ht
  exact ⟨hs, hsuffix, by rw [hkept, Option.map_some]⟩

theorem head_of_digits? {s : List Char} {found : List Nat × List Char}
    (h : digits? s = some found) : ∃ c rest, s = c :: rest ∧ c.isDigit := by
  cases s with
  | nil => cases h
  | cons c rest =>
    refine ⟨c, rest, rfl, ?_⟩
    by_contra hc
    simp [digits?, spanDigits_of_head (s := c :: rest) (by simpa using hc)] at h

theorem scansUnspaced_scanSignedExponent : ScansUnspaced scanSignedExponent := by
  intro s a t h ht
  cases s with
  | nil => cases h
  | cons c s =>
    by_cases hplus : c = '+'
    · subst hplus
      exact (scansUnspaced_scanExponentDigits false).cons (by decide) (by decide) (fun _ => rfl) h ht
    · by_cases hminus : c = '-'
      · subst hminus
        exact (scansUnspaced_scanExponentDigits true).cons (by decide) (by decide) (fun _ => rfl) h ht
      · have hbare (u : List Char) :
            scanSignedExponent (c :: u) = scanExponentDigits false (c :: u) := by
          simp [scanSignedExponent, hplus, hminus]
        rw [hbare] at h
        have hkept := scansUnspaced_scanExponentDigits false _ _ _ h ht
        rw [scanExponentDigits_eq] at h
        obtain ⟨_, hdigits, -⟩ := Option.map_eq_some_iff.mp h
        obtain ⟨_, _, heq, hc⟩ := head_of_digits? hdigits
        obtain ⟨rfl, rfl⟩ := List.cons.inj heq
        rw [unspaced_digit hc] at hkept ⊢
        rwa [hbare]

theorem scansUnspaced_scanExponent : ScansUnspaced scanExponent := by
  intro s a t h ht
  by_cases hletter : ∀ c ∈ s.head?, c ≠ 'e' ∧ c ≠ 'E'
  · have hscan {s : List Char} (hs : ∀ c ∈ s.head?, c ≠ 'e' ∧ c ≠ 'E') :
        scanExponent s = some (none, s) := by
      cases s with
      | nil => rfl
      | cons c s => exact scanExponent_of_ne (hs c rfl).1 (hs c rfl).2 s
    rw [hscan hletter] at h
    obtain ⟨rfl, rfl⟩ := Prod.mk.inj (Option.some.inj h)
    exact ⟨ht, List.suffix_rfl, hscan (ht.head (fun _ hends => hends.2.2) hletter)⟩
  · simp only [not_forall, not_and_or, ne_eq, not_not] at hletter
    obtain ⟨c, hc, rfl | rfl⟩ := hletter
    all_goals
      obtain ⟨after, rfl⟩ := List.head?_eq_some_iff.mp hc
      exact scansUnspaced_scanSignedExponent.cons (by decide) (by decide) (fun _ => rfl) h ht

theorem scansUnspaced_scanUnsigned (negative : Bool) : ScansUnspaced (scanUnsigned negative) := by
  intro s a t h ht
  simp only [scanUnsigned, Option.bind_eq_bind, Option.bind_eq_some_iff] at h ⊢
  obtain ⟨⟨whole, s₁⟩, hwhole, ⟨fraction, s₂⟩, hfraction, ⟨exponent, s₃⟩, hexponent, h⟩ := h
  cases h
  obtain ⟨hs₂, hsuffix₂, hexponent⟩ := scansUnspaced_scanExponent _ _ _ hexponent ht
  obtain ⟨hs₁, hsuffix₁, hfraction⟩ := scansUnspaced_scanFraction _ _ _ hfraction hs₂
  obtain ⟨hs, hsuffix, hwhole⟩ := scansUnspaced_scanWhole _ _ _ hwhole hs₁
  exact ⟨hs, (hsuffix₂.trans hsuffix₁).trans hsuffix,
    _, hwhole, _, hfraction, _, hexponent, rfl⟩

theorem scansUnspaced_scanNumeral : ScansUnspaced scanNumeral := by
  intro s a t h ht
  obtain ⟨c, after, rfl, hc⟩ := head_of_scanNumeral h
  by_cases hminus : c = '-'
  · subst hminus
    exact (scansUnspaced_scanUnsigned true).cons (by decide) (by decide) (fun _ => rfl) h ht
  · rw [scanNumeral_of_ne hminus] at h
    have hkept := scansUnspaced_scanUnsigned false _ _ _ h ht
    rw [unspaced_digit (hc.resolve_left hminus)] at hkept ⊢
    rwa [scanNumeral_of_ne hminus]

/-! Strings keep their spaces. -/

theorem unspacedString_plain {c : Char} (hquote : c ≠ '"') (hescape : c ≠ '\\') (s : List Char) :
    unspacedString (c :: s) = c :: unspacedString s := by
  rw [unspacedString, if_neg hquote]
  exact fun _ _ h => absurd h hescape

theorem unspacedString_hexDigit {c : Char} {d : Nat} (h : Text.hexDigit? c = some d)
    (s : List Char) : unspacedString (c :: s) = c :: unspacedString s := by
  refine unspacedString_plain ?_ ?_ s
  · rintro rfl
    cases h
  · rintro rfl
    cases h

theorem scanString_unspaced {s t : List Char} {units : List CodeUnit}
    (h : scanString s = some (units, t)) :
    unspaced t <:+ unspacedString s ∧ scanString (unspacedString s) = some (units, unspaced t) := by
  fun_induction scanString s generalizing units with
  | case1 => cases h
  | case2 rest =>
    obtain ⟨rfl, rfl⟩ := Prod.mk.inj (Option.some.inj h)
    exact ⟨List.suffix_cons _ _, rfl⟩
  | case3 a b c d rest ih =>
    simp only [Option.bind_eq_bind, Option.bind_eq_some_iff] at h
    obtain ⟨digits, hdigits, ⟨found, after⟩, hrest, h⟩ := h
    cases h
    obtain ⟨hsuffix, hkept⟩ := ih hrest
    have hread := hdigits
    simp only [List.mapM_cons, Option.bind_eq_bind, Option.bind_eq_some_iff] at hread
    obtain ⟨_, ha, _, ⟨_, hb, _, ⟨_, hc, _, ⟨_, hd, -⟩, -⟩, -⟩, -⟩ := hread
    rw [unspacedString, unspacedString_hexDigit ha, unspacedString_hexDigit hb,
      unspacedString_hexDigit hc, unspacedString_hexDigit hd, scanString, hdigits, hkept]
    refine ⟨hsuffix.trans ?_, rfl⟩
    exact List.suffix_append ['\\', 'u', a, b, c, d] _
  | case4 c rest _ ih =>
    simp only [Option.bind_eq_bind, Option.bind_eq_some_iff] at h
    obtain ⟨escaped, hescaped, ⟨found, after⟩, hrest, h⟩ := h
    cases h
    obtain ⟨hsuffix, hkept⟩ := ih hrest
    have hunicode : c ≠ 'u' := by
      rintro rfl
      cases hescaped
    rw [unspacedString, scanString_escaped hescaped hunicode, hkept]
    exact ⟨hsuffix.trans (List.suffix_append ['\\', c] _), rfl⟩
  | case5 => cases h
  | case6 c rest hquote _ _ hplain ih =>
    simp only [Option.bind_eq_bind, Option.bind_eq_some_iff] at h
    obtain ⟨⟨found, after⟩, hrest, h⟩ := h
    cases h
    obtain ⟨hsuffix, hkept⟩ := ih hrest
    obtain ⟨hescape, hcontrol⟩ := not_or.mp hplain
    rw [unspacedString_plain hquote hescape, scanString_plain hquote hescape hcontrol, hkept]
    exact ⟨hsuffix.trans (List.suffix_cons _ _), rfl⟩

theorem readString_unspaced {s t : List Char} {text : Text} (h : readString s = some (text, t)) :
    unspaced t <:+ unspacedString s ∧ readString (unspacedString s) = some (text, unspaced t) := by
  obtain ⟨⟨units, after⟩, hscan, h⟩ := Option.bind_eq_some_iff.mp h
  cases h
  obtain ⟨hsuffix, hkept⟩ := scanString_unspaced hscan
  exact ⟨hsuffix, by rw [readString, hkept]; rfl⟩

theorem unspaced_of_skipSpace {s t : List Char} {c : Char} (h : skipSpace s = c :: t)
    (hquote : c ≠ '"') : unspaced s = c :: unspaced t := by
  rw [← unspaced_skipSpace, h, unspaced_token (isSpace_of_skipSpace h) hquote]

theorem readKey_unspaced {s t : List Char} {key : Text} (h : readKey s = some (key, t)) :
    unspaced t <:+ unspaced s ∧ readKey (unspaced s) = some (key, unspaced t) := by
  unfold readKey at h
  split at h
  · next after hopening =>
    obtain ⟨⟨text, rest⟩, hstring, h⟩ := Option.bind_eq_some_iff.mp h
    dsimp only at h
    split at h
    · next hcolon =>
      obtain ⟨rfl, rfl⟩ := Prod.mk.inj (Option.some.inj h)
      obtain ⟨hsuffix, hkept⟩ := readString_unspaced hstring
      have hs : unspaced s = '"' :: unspacedString after := by
        rw [← unspaced_skipSpace, hopening, unspaced_quote]
      have hrest := unspaced_of_skipSpace hcolon (by decide)
      rw [hrest] at hsuffix hkept
      refine ⟨?_, ?_⟩
      · rw [hs]
        exact ((List.suffix_cons _ _).trans hsuffix).trans (List.suffix_cons _ _)
      · rw [readKey, hs, skipSpace_cons (by decide)]
        simp only [hkept, Option.bind_eq_bind, Option.bind_some, skipSpace_cons (c := ':') (by decide)]
    · cases h
  · cases h

/-! Values. The calls that the reader may make are bounded by the length of the text, which is less
without space, so the bound is one for each of the two texts. -/

/-- What is read off a text is read off the text without its space, given calls for twice its length
and so many more. -/
def ReadsUnspaced {α : Type} (read : Nat → List Char → Option (α × List Char)) (more : Nat)
    (s : List Char) (a : α) (t : List Char) : Prop :=
  unspaced t <:+ unspaced s ∧
    ∀ fuel, 2 * (unspaced s).length + more ≤ fuel → read fuel (unspaced s) = some (a, unspaced t)

theorem ReadsUnspaced.of_cons {α : Type} {read : Nat → List Char → Option (α × List Char)}
    {more : Nat} {s r t : List Char} {a : α} {c : Char} (hs : unspaced s = c :: r)
    (hsuffix : unspaced t <:+ r)
    (h : ∀ fuel, 2 * r.length + more + 1 ≤ fuel →
      read (fuel + 1) (c :: r) = some (a, unspaced t)) : ReadsUnspaced read more s a t := by
  refine ⟨hs ▸ hsuffix.trans (List.suffix_cons c r), fun fuel hfuel => ?_⟩
  rw [hs, List.length_cons] at hfuel
  obtain ⟨fuel, rfl⟩ := Nat.exists_eq_add_one.mpr (show 0 < fuel by omega)
  rw [hs]
  exact h fuel (by omega)

structure ReadersUnspaced (fuel : Nat) : Prop where
  value {s t : List Char} {v : Json} : readValue fuel s = some (v, t) → Detached t →
    ReadsUnspaced readValue 0 s v t
  elements {s t : List Char} {vs : List Json} : readElements fuel s = some (vs, t) →
    ReadsUnspaced readElements 1 s vs t
  members {s t : List Char} {ms : List (Text × Json)} : readMembers fuel s = some (ms, t) →
    ReadsUnspaced readMembers 1 s ms t

theorem unspaced_of_skipSpace_quote {s t : List Char} (h : skipSpace s = '"' :: t) :
    unspaced s = '"' :: unspacedString t := by
  rw [← unspaced_skipSpace, h, unspaced_quote]

theorem unspaced_ne_of_skipSpace {s : List Char} {c : Char}
    (h : ∀ t, skipSpace s ≠ c :: t) (t : List Char) : unspaced (skipSpace s) ≠ c :: t := by
  intro heq
  have hhead := head?_unspaced (skipSpace s)
  rw [heq, List.head?_cons, skipSpace_skipSpace] at hhead
  obtain ⟨after, hafter⟩ := List.head?_eq_some_iff.mp hhead.symm
  exact h after hafter

theorem unspaced_append {word : List Char} (h : ∀ c ∈ word, isSpace c = false ∧ c ≠ '"')
    (t : List Char) : unspaced (word ++ t) = word ++ unspaced t := by
  induction word with
  | nil => rfl
  | cons c word ih =>
    rw [List.forall_mem_cons] at h
    rw [List.cons_append, unspaced_token h.1.1 h.1.2, ih h.2, List.cons_append]

theorem readsUnspaced_keyword (word : List Char) {s t : List Char} {v : Json}
    (hs : skipSpace s = word ++ t)
    (hword : word ≠ [] ∧ ∀ c ∈ word, isSpace c = false ∧ c ≠ '"')
    (hread : ∀ fuel rest, readValue (fuel + 1) (word ++ rest) = some (v, rest)) :
    ReadsUnspaced readValue 0 s v t := by
  have hunspaced : unspaced s = word ++ unspaced t := by
    rw [← unspaced_skipSpace, hs, unspaced_append hword.2]
  obtain ⟨c, rest, rfl⟩ := List.exists_cons_of_ne_nil hword.1
  exact .of_cons hunspaced (List.suffix_append rest _) fun fuel _ => hread fuel _

section

variable {fuel : Nat} {s t : List Char}

theorem ReadersUnspaced.value_succ (hless : ReadersUnspaced fuel) {v : Json}
    (h : readValue (fuel + 1) s = some (v, t)) (ht : Detached t) :
    ReadsUnspaced readValue 0 s v t := by
  rw [readValue] at h
  split at h
  · next rest hs =>
    cases h
    refine readsUnspaced_keyword ['n', 'u', 'l', 'l'] hs (by simp [isSpace]) fun fuel rest => ?_
    rw [readValue]
    rfl
  · next rest hs =>
    cases h
    refine readsUnspaced_keyword ['t', 'r', 'u', 'e'] hs (by simp [isSpace]) fun fuel rest => ?_
    rw [readValue]
    rfl
  · next rest hs =>
    cases h
    refine readsUnspaced_keyword ['f', 'a', 'l', 's', 'e'] hs (by simp [isSpace]) fun fuel rest => ?_
    rw [readValue]
    rfl
  · next rest hs =>
    obtain ⟨⟨text, after⟩, hread, heq⟩ := Option.map_eq_some_iff.mp h
    cases heq
    obtain ⟨hsuffix, hkept⟩ := readString_unspaced hread
    refine .of_cons (unspaced_of_skipSpace_quote hs) hsuffix fun fuel _ => ?_
    rw [readValue, skipSpace_cons (by decide)]
    simp only [hkept, Option.map_some]
  · next rest hs =>
    have hs := unspaced_of_skipSpace hs (by decide)
    rw [← unspaced_skipSpace rest] at hs
    split at h
    · next hclosed =>
      cases h
      rw [hclosed, unspaced_token (by decide) (by decide)] at hs
      refine .of_cons hs (List.suffix_cons _ _) fun fuel _ => ?_
      rw [readValue]
      rfl
    · next hopen =>
      obtain ⟨⟨vs, after⟩, hread, heq⟩ := Option.map_eq_some_iff.mp h
      cases heq
      obtain ⟨hsuffix, hkept⟩ := hless.elements hread
      refine .of_cons hs hsuffix fun fuel hfuel => ?_
      rw [readValue, skipSpace_cons (by decide)]
      simp only [skipSpace_unspaced]
      split
      · next after hafter => exact absurd hafter (unspaced_ne_of_skipSpace hopen after)
      · rw [hkept fuel hfuel, Option.map_some]
  · next rest hs =>
    have hs := unspaced_of_skipSpace hs (by decide)
    rw [← unspaced_skipSpace rest] at hs
    split at h
    · next hclosed =>
      cases h
      rw [hclosed, unspaced_token (by decide) (by decide)] at hs
      refine .of_cons hs (List.suffix_cons _ _) fun fuel _ => ?_
      rw [readValue]
      rfl
    · next hopen =>
      obtain ⟨⟨ms, after⟩, hread, heq⟩ := Option.map_eq_some_iff.mp h
      cases heq
      obtain ⟨hsuffix, hkept⟩ := hless.members hread
      refine .of_cons hs hsuffix fun fuel hfuel => ?_
      rw [readValue, skipSpace_cons (by decide)]
      simp only [skipSpace_unspaced]
      split
      · next after hafter => exact absurd hafter (unspaced_ne_of_skipSpace hopen after)
      · rw [hkept fuel hfuel, Option.map_some]
  · obtain ⟨⟨numeral, after⟩, hscan, heq⟩ := Option.map_eq_some_iff.mp h
    cases heq
    obtain ⟨c, rest, hs, hc⟩ := head_of_scanNumeral hscan
    obtain ⟨-, hsuffix, hkept⟩ := scansUnspaced_scanNumeral _ _ _ hscan ht
    have hunspaced : unspaced (skipSpace s) = c :: unspaced rest := by
      rw [hs, unspaced_token (isSpace_of_numeral hc)]
      rintro rfl
      exact absurd hc (by decide)
    rw [unspaced_skipSpace] at hunspaced hsuffix hkept
    refine ⟨hsuffix, fun fuel hfuel => ?_⟩
    rw [hunspaced, List.length_cons] at hfuel
    obtain ⟨fuel, rfl⟩ := Nat.exists_eq_add_one.mpr (show 0 < fuel by omega)
    rw [hunspaced] at hkept ⊢
    rw [readValue_of_numeral hc, readNumber, hkept, Option.map_some]

theorem detached_of_skipSpace {s t : List Char} {c : Char} (h : skipSpace s = c :: t)
    (hends : c.isDigit = false ∧ c ≠ '.' ∧ c ≠ 'e' ∧ c ≠ 'E') : Detached s := by
  refine .inr fun d hd => ?_
  rw [head?_unspaced, h, List.head?_cons, Option.mem_some_iff] at hd
  exact hd ▸ hends

theorem ReadersUnspaced.elements_succ (hless : ReadersUnspaced fuel) {vs : List Json}
    (h : readElements (fuel + 1) s = some (vs, t)) : ReadsUnspaced readElements 1 s vs t := by
  simp only [readElements, Option.bind_eq_bind, Option.bind_eq_some_iff] at h
  obtain ⟨⟨v, after⟩, hread, h⟩ := h
  dsimp only at h
  split at h
  · next rest hcomma =>
    obtain ⟨⟨vs, last⟩, hrest, h⟩ := Option.bind_eq_some_iff.mp h
    cases h
    have hafter := unspaced_of_skipSpace hcomma (by decide)
    obtain ⟨hsuffix, hvalue⟩ := hless.value hread (detached_of_skipSpace hcomma (by decide))
    obtain ⟨hsuffix', helements⟩ := hless.elements hrest
    rw [hafter] at hsuffix hvalue
    refine ⟨(hsuffix'.trans (List.suffix_cons _ _)).trans hsuffix, fun fuel hfuel => ?_⟩
    obtain ⟨fuel, rfl⟩ := Nat.exists_eq_add_one.mpr (show 0 < fuel by omega)
    have hlength := hsuffix.length_le
    rw [List.length_cons] at hlength
    rw [readElements, hvalue fuel (by omega), Option.bind_eq_bind, Option.bind_some]
    simp only [skipSpace_cons (show isSpace ',' = false by decide), helements fuel (by omega)]
    rfl
  · next rest hclosed =>
    cases h
    have hafter := unspaced_of_skipSpace hclosed (by decide)
    obtain ⟨hsuffix, hvalue⟩ := hless.value hread (detached_of_skipSpace hclosed (by decide))
    rw [hafter] at hsuffix hvalue
    refine ⟨(List.suffix_cons _ _).trans hsuffix, fun fuel hfuel => ?_⟩
    obtain ⟨fuel, rfl⟩ := Nat.exists_eq_add_one.mpr (show 0 < fuel by omega)
    rw [readElements, hvalue fuel (by omega), Option.bind_eq_bind, Option.bind_some]
    rfl
  · cases h

theorem ReadersUnspaced.members_succ (hless : ReadersUnspaced fuel) {ms : List (Text × Json)}
    (h : readMembers (fuel + 1) s = some (ms, t)) : ReadsUnspaced readMembers 1 s ms t := by
  simp only [readMembers, Option.bind_eq_bind, Option.bind_eq_some_iff] at h
  obtain ⟨⟨key, middle⟩, hkey, ⟨v, after⟩, hread, h⟩ := h
  obtain ⟨hfirst, hkey⟩ := readKey_unspaced hkey
  dsimp only at hread h
  split at h
  · next rest hcomma =>
    obtain ⟨⟨ms, last⟩, hrest, h⟩ := Option.bind_eq_some_iff.mp h
    cases h
    have hafter := unspaced_of_skipSpace hcomma (by decide)
    obtain ⟨hsuffix, hvalue⟩ := hless.value hread (detached_of_skipSpace hcomma (by decide))
    obtain ⟨hsuffix', hmembers⟩ := hless.members hrest
    rw [hafter] at hsuffix hvalue
    refine ⟨((hsuffix'.trans (List.suffix_cons _ _)).trans hsuffix).trans hfirst,
      fun fuel hfuel => ?_⟩
    obtain ⟨fuel, rfl⟩ := Nat.exists_eq_add_one.mpr (show 0 < fuel by omega)
    have hlength := hfirst.length_le
    have hlength' := hsuffix.length_le
    rw [List.length_cons] at hlength'
    rw [readMembers, hkey, Option.bind_eq_bind, Option.bind_some]
    simp only [hvalue fuel (by omega), Option.bind_eq_bind, Option.bind_some,
      skipSpace_cons (show isSpace ',' = false by decide), hmembers fuel (by omega)]
    rfl
  · next rest hclosed =>
    cases h
    have hafter := unspaced_of_skipSpace hclosed (by decide)
    obtain ⟨hsuffix, hvalue⟩ := hless.value hread (detached_of_skipSpace hclosed (by decide))
    rw [hafter] at hsuffix hvalue
    refine ⟨((List.suffix_cons _ _).trans hsuffix).trans hfirst, fun fuel hfuel => ?_⟩
    obtain ⟨fuel, rfl⟩ := Nat.exists_eq_add_one.mpr (show 0 < fuel by omega)
    have hlength := hfirst.length_le
    rw [readMembers, hkey, Option.bind_eq_bind, Option.bind_some]
    dsimp only
    rw [hvalue fuel (by omega), Option.bind_eq_bind, Option.bind_some]
    rfl
  · cases h

end

theorem readersUnspaced (fuel : Nat) : ReadersUnspaced fuel := by
  induction fuel with
  | zero => constructor <;> simp [readValue, readElements, readMembers]
  | succ fuel ih => exact ⟨ih.value_succ, ih.elements_succ, ih.members_succ⟩

theorem parse?_unspaced {s : List Char} {v : Json} (h : parse? s = some v) :
    parse? (unspaced s) = some v := by
  obtain ⟨⟨w, t⟩, hread, h⟩ := Option.bind_eq_some_iff.mp h
  dsimp only at h
  split at h
  · next hempty =>
    cases h
    have ht : unspaced t = [] := by
      rw [← unspaced_skipSpace, List.isEmpty_iff.mp hempty, unspaced_nil]
    have hdetached : Detached t := .inr (by rw [ht]; exact nofun)
    obtain ⟨-, hvalue⟩ := (readersUnspaced _).value hread hdetached
    rw [parse?, hvalue _ (by omega), ht]
    rfl
  · cases h

theorem parse?_eq_of_unspaced {s t : List Char} {v w : Json} (hs : parse? s = some v)
    (ht : parse? t = some w) (h : unspaced s = unspaced t) : v = w := by
  have hw := parse?_unspaced ht
  rw [← h, parse?_unspaced hs] at hw
  exact Option.some.inj hw

end ResourceBroker.Json
