import Mathlib.Data.List.TakeWhile
import Mathlib.Tactic.SplitIfs
import ResourceBroker.Text.Line

/-!
Where a stream is cut. Only a line feed is encoded with the byte of one, so a text without line feeds
stays in one line; and a stream may be cut piece by piece as it arrives.
-/

namespace ResourceBroker.Text

theorem lineFeed_notMem_utf8EncodeChar {c : Char} (h : c ≠ '\n') :
    lineFeed ∉ String.utf8EncodeChar c := by
  have hval : c.val.toNat ≠ 10 := by
    intro heq
    exact h (Char.ext (UInt32.toNat_inj.mp heq))
  have hsmall (n : Nat) : lineFeed = n.toUInt8 ↔ n % 256 = 10 := by
    rw [← UInt8.toNat_inj]
    simp [lineFeed, eq_comm]
  rw [String.utf8EncodeChar]
  split_ifs <;> simp only [List.mem_cons, List.not_mem_nil, or_false, hsmall] <;> omega

theorem lineFeed_notMem_encode {s : List Char} (h : '\n' ∉ s) : lineFeed ∉ encode s := by
  intro hmem
  obtain ⟨c, hc, hbyte⟩ := List.mem_flatMap.mp hmem
  refine lineFeed_notMem_utf8EncodeChar ?_ hbyte
  rintro rfl
  exact h hc

theorem encode_append (s t : List Char) : encode (s ++ t) = encode s ++ encode t :=
  List.flatMap_append

theorem encode_lineFeed : encode ['\n'] = [lineFeed] := by decide

theorem splitLines_of_notMem {s : List UInt8} (h : lineFeed ∉ s) : splitLines s = ([], s) := by
  induction s with
  | nil => rfl
  | cons byte s ih =>
    rw [List.mem_cons, not_or] at h
    rw [splitLines, ih h.2]
    exact if_neg (Ne.symm h.1)

/-- A stream is cut into the same lines when it arrives in pieces. -/
theorem splitLines_append (s t : List UInt8) :
    splitLines (s ++ t) =
      ((splitLines s).1 ++ (splitLines ((splitLines s).2 ++ t)).1,
        (splitLines ((splitLines s).2 ++ t)).2) := by
  induction s with
  | nil => rfl
  | cons byte s ih =>
    rw [List.cons_append, splitLines, ih, splitLines]
    obtain ⟨lines, last⟩ := splitLines s
    by_cases hbyte : byte = lineFeed
    · simp [hbyte]
    · cases lines with
      | nil => simp [hbyte, splitLines]
      | cons line lines => simp [hbyte]

theorem splitLines_line {line : List UInt8} (h : lineFeed ∉ line) (rest : List UInt8) :
    splitLines (line ++ lineFeed :: rest) = (line :: (splitLines rest).1, (splitLines rest).2) := by
  have hrest : splitLines (lineFeed :: rest) = ([] :: (splitLines rest).1, (splitLines rest).2) := by
    rw [splitLines]
    exact if_pos rfl
  induction line with
  | nil => exact hrest
  | cons byte line ih =>
    rw [List.mem_cons, not_or] at h
    rw [List.cons_append, splitLines, ih h.2]
    exact if_neg (Ne.symm h.1)

theorem lineFeed_notMem_unended (s : List UInt8) : lineFeed ∉ (splitLines s).2 := by
  fun_induction splitLines s with
  | case1 => exact List.not_mem_nil
  | case2 rest last lines heq ih => simpa [heq] using ih
  | case3 byte rest last hbyte heq ih => simpa [heq, Ne.symm hbyte] using ih
  | case4 byte rest last hbyte line lines heq ih => simpa [heq] using ih

/-- The lines of a stream that has ended, of which the last need not be complete. -/
def allLines (s : List UInt8) : List (List UInt8) :=
  (splitLines s).1 ++ if (splitLines s).2.isEmpty then [] else [(splitLines s).2]

theorem splitLines_append_lineFeed (s : List UInt8) :
    splitLines (s ++ [lineFeed]) = ((splitLines s).1 ++ [(splitLines s).2], []) := by
  rw [splitLines_append, splitLines_line (lineFeed_notMem_unended s)]
  rfl

theorem lineText?_encode (s : List Char) : lineText? (encode s) = some (trim s) := by
  rw [lineText?, decode?_encode, Option.map_some]

theorem trim_of_blank {s : List Char} (h : ∀ c ∈ s, isBlank c) : trim s = [] := by
  rw [trim, trimStart, List.dropWhile_eq_nil_iff.mpr h]
  rfl

theorem trim_of_ends {first last : Char} (hfirst : isBlank first = false)
    (hlast : isBlank last = false) (s : List Char) :
    trim (first :: s ++ [last]) = first :: s ++ [last] := by
  rw [trim, List.cons_append, trimStart_of_not_isBlank _ hfirst, ← List.cons_append,
    trimEnd_of_not_isBlank _ hlast]

end ResourceBroker.Text
