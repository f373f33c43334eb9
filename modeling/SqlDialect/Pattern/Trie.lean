/-!
# Tries of words

Words that share their beginnings. A word may end where others go on; words that come later than
such an end do not share the branches of those that came earlier, so that the order among words is
kept.
-/

namespace SqlDialect.Pattern

/-- A place in a trie. -/
inductive Trie
  /-- The branches before each end of a word at this place, and those after the last end. -/
  | node (ended : List (List (Nat × Trie))) (current : List (Nat × Trie))

namespace Trie

/-- A place where nothing is. -/
def empty : Trie := .node [] []

/-- Whether there is no branch at this place. -/
def isLeaf : Trie → Bool
  | .node ended branches => branches.isEmpty && ended.all List.isEmpty

/-- The branch of a byte changed, or made if there is none. -/
def update (byte : Nat) (change : Trie → Trie) : List (Nat × Trie) → List (Nat × Trie)
  | [] => [(byte, change empty)]
  | (b, t) :: rest => if b = byte then (b, change t) :: rest else (b, t) :: update byte change rest

/-- The trie with one more word. A second end at a place without branches changes nothing. -/
def add : List Nat → Trie → Trie
  | [], .node ended branches =>
    if !ended.isEmpty && Trie.isLeaf (.node ended branches) then .node ended branches
    else .node (ended ++ [branches]) []
  | byte :: word, .node ended branches => .node ended (update byte (add word) branches)

/-- The trie of some words. -/
def ofWords (words : List (List Nat)) : Trie := words.foldl (fun t word => t.add word) empty

end Trie

end SqlDialect.Pattern
