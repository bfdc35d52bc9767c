import ResourceBroker.Identity
import ResourceBroker.Proofs.Text.Numeral

/-!
The text of a connection's identity is read back: its 32 digits denote the number they were written
from, and grouping them loses nothing.
-/

namespace ResourceBroker

namespace Text

theorem hexDigit?_digitChar (d : Fin 16) : hexDigit? d.val.digitChar = some d.val := by
  revert d
  decide

theorem ofDigits_append_singleton (base : Nat) (digits : List Nat) (d : Nat) :
    ofDigits base (digits ++ [d]) = ofDigits base digits * base + d := by
  simp [ofDigits]

theorem exists_digits_hexadecimal (n : Nat) :
    ∃ digits, (hexadecimal n).mapM hexDigit? = some digits ∧ ofDigits 16 digits = n := by
  induction n using Nat.strongRecOn with
  | ind n ih =>
    rw [hexadecimal, Nat.toDigits_eq_if (by decide)]
    by_cases hn : n < 16
    · refine ⟨[n], ?_, by simp [ofDigits]⟩
      simp [hn, hexDigit?_digitChar ⟨n, hn⟩]
    · obtain ⟨digits, hdigits, hvalue⟩ := ih (n / 16) (by omega)
      rw [hexadecimal] at hdigits
      refine ⟨digits ++ [n % 16], ?_, ?_⟩
      · simp [hn, List.mapM_append, hdigits, hexDigit?_digitChar ⟨n % 16, Nat.mod_lt n (by decide)⟩]
      · rw [ofDigits_append_singleton, hvalue]
        omega

theorem exists_digits_padZero {s : List Char} {digits : List Nat}
    (h : s.mapM hexDigit? = some digits) (width : Nat) :
    ∃ padded, (padZero width s).mapM hexDigit? = some padded ∧
      ofDigits 16 padded = ofDigits 16 digits := by
  rw [padZero]
  induction width - s.length with
  | zero => exact ⟨digits, h, rfl⟩
  | succ k ih =>
    obtain ⟨padded, hpadded, hvalue⟩ := ih
    have hzero : hexDigit? '0' = some 0 := by decide
    refine ⟨0 :: padded, ?_, by simpa [ofDigits] using hvalue⟩
    simp [List.replicate_succ, hpadded, hzero]

theorem hexadecimal?_padZero (width n : Nat) :
    hexadecimal? (padZero width (hexadecimal n)) = some n := by
  obtain ⟨digits, hdigits, hvalue⟩ := exists_digits_hexadecimal n
  obtain ⟨padded, hpadded, hsame⟩ := exists_digits_padZero hdigits width
  have hne : padZero width (hexadecimal n) ≠ [] := by
    simp [padZero, hexadecimal, Nat.toDigits_ne_nil]
  rw [hexadecimal?, if_neg (by simpa using hne), hpadded, Option.map_some, hsame, hvalue]

end Text

namespace ConnectionId

theorem ungroup?_cut {width : Nat} {widths : List Nat} {s : List Char}
    (h : s.length = (width :: widths).foldr Nat.add 0) :
    ungroup? (width :: widths) (List.intercalate ['-'] (cut (width :: widths) s)) = some s := by
  induction widths generalizing width s with
  | nil =>
    simp only [List.foldr_cons, List.foldr_nil, Nat.add_eq, Nat.add_zero] at h
    simp [cut, ungroup?, List.intercalate, List.take_of_length_le (Nat.le_of_eq h)]
  | cons next widths ih =>
    rw [List.foldr_cons, Nat.add_eq] at h
    have hfirst : (s.take width).length = width := by
      rw [List.length_take]
      omega
    have hrest := @ih next (s.drop width) (by rw [List.length_drop]; omega)
    have hsplit : List.intercalate ['-'] (cut (width :: next :: widths) s) =
        s.take width ++ '-' :: List.intercalate ['-'] (cut (next :: widths) (s.drop width)) := by
      simp [cut, List.intercalate]
    rw [hsplit, ungroup?, List.drop_left' hfirst, List.take_left' hfirst]
    · show (ungroup? (next :: widths) _).map (s.take width ++ ·) = some s
      rw [hrest, Option.map_some, List.take_append_drop]
    · exact List.cons_ne_nil _ _

theorem length_render (c : ConnectionId) : c.render.toList.length = 36 := by
  have hlength := @Text.length_padZero_toDigits 16 32 _ (by decide) (by decide) c.uuid.isLt
  simp [render, groupWidths, cut, List.intercalate, Text.hexadecimal, hlength]

theorem ofText?_render (c : ConnectionId) : ofText? c.render = some c := by
  have hlength : (Text.padZero 32 (Text.hexadecimal c.uuid.toNat)).length = 32 :=
    Text.length_padZero_toDigits (by decide) (by decide) c.uuid.isLt
  have hbare : ofDigits? c.render.toList = none := if_neg (by rw [length_render]; decide)
  have hungroup : ungroup? groupWidths c.render.toList =
      some (Text.padZero 32 (Text.hexadecimal c.uuid.toNat)) := by
    rw [render, String.toList_ofList]
    exact ungroup?_cut hlength
  have hgroups : ofGroups? c.render.toList = some c := by
    rw [ofGroups?, hungroup, Option.bind_eq_bind, Option.bind_some, ofDigits?,
      if_pos (hlength.trans (by decide)),
      Text.hexadecimal?_padZero, Option.map_some, BitVec.ofNat_toNat, BitVec.setWidth_eq]
  rw [ofText?, hbare, hgroups]
  rfl

end ConnectionId
end ResourceBroker
