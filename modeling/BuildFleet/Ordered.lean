/-!
# Sets and dictionaries as sorted lists

A set is the list of its elements in strictly ascending order, a dictionary the
list of its entries in strictly ascending order of their keys.
-/

namespace BuildFleet.Ordered

/-- Add an element to a set. -/
def insert [LT α] [DecidableEq α] [DecidableLT α] (value : α) : List α → List α
  | [] => [value]
  | head :: tail =>
    if value = head then head :: tail
    else if value < head then value :: head :: tail
    else head :: insert value tail

/-- The set of the elements of a list. -/
def ofList [LT α] [DecidableEq α] [DecidableLT α] (values : List α) : List α :=
  values.foldl (fun set value => insert value set) []

/-- Give a key a value in a dictionary, in place of the one it had. -/
def put [LT κ] [DecidableEq κ] [DecidableLT κ] (key : κ) (value : β) :
    List (κ × β) → List (κ × β)
  | [] => [(key, value)]
  | (head, current) :: tail =>
    if key = head then (key, value) :: tail
    else if key < head then (key, value) :: (head, current) :: tail
    else (head, current) :: put key value tail

/-- The dictionary of a list of entries; of two entries with one key the last counts. -/
def ofEntries [LT κ] [DecidableEq κ] [DecidableLT κ] (entries : List (κ × β)) : List (κ × β) :=
  entries.foldl (fun dictionary entry => put entry.1 entry.2 dictionary) []

end BuildFleet.Ordered
