import Mathlib.Data.List.Induction
import Mathlib.Data.List.Nodup
import Mathlib.Data.String.Basic
import Mathlib.Tactic.SplitIfs
import ResourceBroker.SortedMap
import ResourceBroker.Text.Line

/-!
The order of the keys of a map. It is that of their UTF-8 bytes, and a map made of pairs with different
keys is the same in whatever order they come.
-/

namespace ResourceBroker

namespace Text

def Precedes (s t : String) : Prop := encode s.toList < encode t.toList

/-- A smaller character has smaller bytes, and no character begins with those of another. -/
theorem utf8EncodeChar_append_lt {c d : Char} (h : c < d) (u v : List UInt8) :
    String.utf8EncodeChar c ++ u < String.utf8EncodeChar d ++ v := by
  have hlt : c.val.toNat < d.val.toNat := h
  have hmax : d.val.toNat < 1114112 := by
    obtain hsmall | ⟨-, hlarge⟩ := d.valid
    · exact Nat.lt_trans hsmall (by decide)
    · exact hlarge
  -- the digits to the base 64, one taken off the other
  have hdigits (n : Nat) : n / 4096 = n / 64 / 64 ∧ n / 262144 = n / 64 / 64 / 64 := by
    simp only [Nat.div_div_eq_div_mul, and_self]
  have hc := hdigits c.val.toNat
  have hd := hdigits d.val.toNat
  rw [String.utf8EncodeChar, String.utf8EncodeChar]
  simp only [hc.1, hc.2, hd.1, hd.2]
  split_ifs <;>
    simp (disch := omega) only [List.cons_append, List.nil_append, List.cons_lt_cons_iff,
      UInt8.lt_iff_toNat_lt, ← UInt8.toNat_inj, UInt8.toNat_ofNat', Nat.mod_eq_of_lt] <;>
    omega

theorem encode_lt_encode {s t : List Char} (h : s < t) : encode s < encode t := by
  induction h with
  | @nil c t =>
    obtain ⟨byte, bytes, hbytes⟩ := List.exists_cons_of_ne_nil (String.utf8EncodeChar_ne_nil (c := c))
    rw [encode, encode, List.flatMap_nil, List.flatMap_cons, hbytes, List.cons_append]
    exact List.Lex.nil
  | rel hlt =>
    rw [encode, encode, List.flatMap_cons, List.flatMap_cons]
    exact utf8EncodeChar_append_lt hlt _ _
  | @cons c s t _ ih =>
    rw [encode, encode, List.flatMap_cons, List.flatMap_cons]
    exact List.Lex.append_left (· < ·) ih _

theorem precedes_iff {s t : String} : Precedes s t ↔ s < t := by
  refine ⟨fun h => ?_, fun h => encode_lt_encode (String.lt_iff_toList_lt.mp h)⟩
  obtain hlt | rfl | hlt := lt_trichotomy s t
  · exact hlt
  · exact absurd h (List.lt_irrefl (encode s.toList))
  · exact absurd h (List.lt_asymm (encode_lt_encode (String.lt_iff_toList_lt.mp hlt)))

end Text

namespace SortedMap

variable {α : Type}

/-- Each key once, in the order of the bytes. -/
def Ascending (map : List (String × α)) : Prop := map.Pairwise fun e f => Text.Precedes e.1 f.1

theorem mem_of_mem_insert {key : String} {value : α} {e : String × α} {map : List (String × α)}
    (h : e ∈ insert key value map) : e = (key, value) ∨ e ∈ map := by
  fun_induction insert key value map <;> grind

theorem mem_of_mem_ofList {e : String × α} {pairs : List (String × α)} (h : e ∈ ofList pairs) :
    e ∈ pairs := by
  induction pairs using List.reverseRecOn with
  | nil => exact h
  | append_singleton pairs last ih =>
    rw [ofList_append_singleton] at h
    obtain rfl | h := mem_of_mem_insert h
    · simp
    · exact List.mem_append_left _ (ih h)

theorem ascending_insert (key : String) (value : α) {map : List (String × α)} (h : Ascending map) :
    Ascending (insert key value map) := by
  simp only [Ascending, Text.precedes_iff] at h ⊢
  fun_induction insert key value map with
  | case1 => exact List.pairwise_singleton _ _
  | case2 other old rest hlt =>
    refine .cons (List.forall_mem_cons.mpr ⟨hlt, fun e he => ?_⟩) h
    exact hlt.trans ((List.pairwise_cons.mp h).1 e he)
  | case3 old rest hlt =>
    exact .cons (List.pairwise_cons.mp h).1 (List.pairwise_cons.mp h).2
  | case4 other old rest hlt hne ih =>
    obtain ⟨hfirst, hrest⟩ := List.pairwise_cons.mp h
    refine .cons (fun e he => ?_) (ih hrest)
    obtain rfl | he := mem_of_mem_insert he
    · exact lt_of_le_of_ne (not_lt.mp hlt) (Ne.symm hne)
    · exact hfirst e he

theorem ascending_ofList (pairs : List (String × α)) : Ascending (ofList pairs) := by
  induction pairs using List.reverseRecOn with
  | nil => exact .nil
  | append_singleton pairs last ih =>
    rw [ofList_append_singleton]
    exact ascending_insert _ _ ih

theorem insert_comm {key other : String} (h : key ≠ other) (value old : α)
    (map : List (String × α)) :
    insert key value (insert other old map) = insert other old (insert key value map) := by
  induction map with
  | nil => grind [insert]
  | cons e map ih => grind [insert]

theorem ofList_perm {pairs others : List (String × α)} (hperm : pairs.Perm others)
    (hdistinct : (pairs.map Prod.fst).Nodup) : ofList pairs = ofList others := by
  refine hperm.foldl_eq' (fun e he f hf map => ?_) []
  by_cases hkey : e.1 = f.1
  · rw [List.inj_on_of_nodup_map hdistinct he hf hkey]
  · exact insert_comm (Ne.symm hkey) _ _ _

end SortedMap
end ResourceBroker
