/-!
Maps as lists of pairs in ascending order of their keys. Texts are compared character by character,
which is also the order of their UTF-8 bytes.
-/

namespace ResourceBroker.SortedMap

/-- A later value of a key takes the place of an earlier one. -/
def insert {α : Type} (key : String) (value : α) : List (String × α) → List (String × α)
  | [] => [(key, value)]
  | (other, old) :: rest =>
    if key < other then (key, value) :: (other, old) :: rest
    else if key = other then (key, value) :: rest
    else (other, old) :: insert key value rest

def ofList {α : Type} (pairs : List (String × α)) : List (String × α) :=
  pairs.foldl (fun map (key, value) => insert key value map) []

theorem ofList_append_singleton {α : Type} (pairs : List (String × α)) (key : String) (value : α) :
    ofList (pairs ++ [(key, value)]) = insert key value (ofList pairs) := by
  simp [ofList]

end ResourceBroker.SortedMap
