import ResourceBroker.Message.Line
import ResourceBroker.Proofs.Json.Parser
import ResourceBroker.Proofs.Text.Line

/-!
A written tree is one line: what its strings hold of line feeds is escaped, and an object begins and ends
with characters that no trimming takes away.
-/

namespace ResourceBroker.Json

theorem lineFeed_notMem_escapeChar (c : Char) : '\n' ∉ escapeChar c := by
  by_cases hcontrol : c.toNat < 0x20
  · have hescaped : ∀ n : Fin 32, '\n' ∉ escapeChar (Char.ofNat n) := by decide
    simpa using hescaped ⟨c.toNat, hcontrol⟩
  · have hfeed : '\n' ≠ c := by
      rintro rfl
      exact hcontrol (by decide)
    unfold escapeChar
    split_ifs <;> simp [hfeed]

theorem lineFeed_notMem_renderString (s : String) : '\n' ∉ renderString s := by
  simp [renderString, lineFeed_notMem_escapeChar]

theorem lineFeed_notMem_decimal (n : Nat) : '\n' ∉ Text.decimal n :=
  fun h => absurd (Text.isDigit_of_mem_decimal h) (by decide)

theorem lineFeed_notMem_renderPositional {digits : List Char} (h : '\n' ∉ digits) (leading : Int) :
    '\n' ∉ renderPositional digits leading := by
  have htake : '\n' ∉ digits.take (leading.toNat + 1) := fun hmem => h (List.mem_of_mem_take hmem)
  have hdrop : '\n' ∉ digits.drop (leading.toNat + 1) := fun hmem => h (List.mem_of_mem_drop hmem)
  unfold renderPositional
  dsimp only
  split_ifs <;> simp [h, htake, hdrop]

theorem lineFeed_notMem_renderScientific {digits : List Char} (h : '\n' ∉ digits) (leading : Int) :
    '\n' ∉ renderScientific digits leading := by
  have htake : '\n' ∉ digits.take 1 := fun hmem => h (List.mem_of_mem_take hmem)
  have htail : '\n' ∉ digits.tail := fun hmem => h (List.mem_of_mem_tail hmem)
  unfold renderScientific
  split_ifs <;> simp [htake, htail, lineFeed_notMem_decimal]

theorem lineFeed_notMem_renderNumber (n : Number) : '\n' ∉ renderNumber n := by
  cases n with
  | integer n =>
    rw [renderNumber, renderInt]
    split_ifs <;> simp [lineFeed_notMem_decimal]
  | real x =>
    have hmagnitude (d : Decimal) : '\n' ∉ renderMagnitude d := by
      unfold renderMagnitude
      dsimp only
      split_ifs
      · exact lineFeed_notMem_renderPositional (lineFeed_notMem_decimal _) _
      · exact lineFeed_notMem_renderScientific (lineFeed_notMem_decimal _) _
    rw [renderNumber, renderReal]
    split_ifs <;> simp [hmagnitude]
  | tooLarge => decide

theorem lineFeed_notMem_renderElements {elements : List Json} (h : ∀ v ∈ elements, '\n' ∉ render v) :
    '\n' ∉ renderElements elements := by
  induction elements with
  | nil => simp [renderElements]
  | cons v elements ih =>
    rw [List.forall_mem_cons] at h
    simp [renderElements, h.1, ih h.2]

theorem lineFeed_notMem_renderMembers {members : List (Text × Json)}
    (h : ∀ m ∈ members, '\n' ∉ render m.2) : '\n' ∉ renderMembers members := by
  induction members with
  | nil => simp [renderMembers]
  | cons m members ih =>
    rw [List.forall_mem_cons] at h
    simp [renderMembers, lineFeed_notMem_renderString, h.1, ih h.2]

theorem lineFeed_notMem_render {depth : Nat} {v : Json} (h : Plain depth v) : '\n' ∉ render v := by
  induction h with
  | null => decide
  | bool b => cases b <;> decide
  | number word value => exact lineFeed_notMem_renderNumber _
  | string s => exact lineFeed_notMem_renderString s
  | @array _ elements each ih =>
    cases elements with
    | nil => decide
    | cons v elements =>
      rw [List.forall_mem_cons] at ih
      simp [render, ih.1, lineFeed_notMem_renderElements ih.2]
  | @record _ members each ih =>
    cases members with
    | nil => decide
    | cons m members =>
      rw [List.forall_mem_cons] at ih
      have hmembers : '\n' ∉ renderMembers (members.map fun m => (some m.1, m.2)) :=
        lineFeed_notMem_renderMembers (List.forall_mem_map.mpr ih.2)
      simp [record, render, lineFeed_notMem_renderString, ih.1, hmembers]

theorem exists_renderMembers (members : List (Text × Json)) :
    ∃ s, renderMembers members = s ++ ['}'] := by
  induction members with
  | nil => exact ⟨[], rfl⟩
  | cons m members ih =>
    obtain ⟨s, hs⟩ := ih
    rw [renderMembers, hs]
    exact ⟨_, (List.append_assoc ..).symm⟩

theorem exists_render_record (members : List (String × Json)) :
    ∃ s, render (record members) = '{' :: s ++ ['}'] := by
  cases members with
  | nil => exact ⟨[], rfl⟩
  | cons m members =>
    obtain ⟨s, hs⟩ := exists_renderMembers (members.map fun m => (some m.1, m.2))
    exact ⟨renderString m.1 ++ ':' :: render m.2 ++ s, by simp [record, render, hs]⟩

def line (v : Json) : List UInt8 := Text.encode v.render

theorem toLine_eq (v : Json) : v.toLine = v.line ++ [Text.lineFeed] := by
  rw [toLine, line, Text.encode_append, Text.encode_lineFeed]

theorem lineFeed_notMem_line {depth : Nat} {v : Json} (h : Plain depth v) :
    Text.lineFeed ∉ v.line :=
  Text.lineFeed_notMem_encode (lineFeed_notMem_render h)

/-- Nothing is trimmed off the line of an object. -/
theorem lineText?_line_record (members : List (String × Json)) :
    Text.lineText? (record members).line = some (render (record members)) := by
  obtain ⟨s, hs⟩ := exists_render_record members
  rw [line, Text.lineText?_encode, hs, Text.trim_of_ends (by decide) (by decide)]

end ResourceBroker.Json
