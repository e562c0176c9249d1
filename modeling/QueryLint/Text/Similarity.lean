/-!
# Similar texts

The similarity of two texts is twice the number of characters in matching blocks
over the number of characters in both. The blocks are found greedily: the longest
common stretch first, the earliest of several, and then on both sides of it.
-/

namespace QueryLint.Text

/-- The length of the longest common beginning. -/
def commonPrefixLength : List Char → List Char → Nat
  | a :: as, b :: bs => if a == b then commonPrefixLength as bs + 1 else 0
  | _, _ => 0

/-- The longest common stretch of two texts: where it starts in each, and its
length. The earliest in the first text wins, then the earliest in the second. -/
def longestCommon (as bs : List Char) : Nat × Nat × Nat :=
  (List.range as.length).foldl (fun best i =>
    (List.range bs.length).foldl (fun (bi, bj, size) j =>
      let n := commonPrefixLength (as.drop i) (bs.drop j)
      if size < n then (i, j, n) else (bi, bj, size)) best) (0, 0, 0)

/-- The number of characters in matching blocks. -/
def matchingChars : Nat → List Char → List Char → Nat
  | 0, _, _ => 0
  | fuel + 1, as, bs =>
      let (i, j, n) := longestCommon as bs
      if n = 0 then 0
      else
        n + matchingChars fuel (as.take i) (bs.take j) +
          matchingChars fuel (as.drop (i + n)) (bs.drop (j + n))

/-- Similarity as a fraction. -/
def similarity (a b : String) : Nat × Nat :=
  (2 * matchingChars (a.length + 1) a.toList b.toList, a.length + b.length)

/-- Whether a similarity is six tenths or more. -/
def isSimilar : Nat × Nat → Bool
  | (n, d) => 6 * d ≤ 10 * n && 0 < d

/-- The most similar of several texts, if one has a similarity of six tenths or
more. Of equally similar ones the greatest is taken. A candidate of a very different
length cannot be similar and is not looked at. -/
def closest? (word : String) (candidates : List String) : Option String :=
  let near := candidates.filter fun c =>
    isSimilar (2 * min c.length word.length, c.length + word.length)
  let scored := near.map fun c => (similarity c word, c)
  let good := scored.filter fun (s, _) => isSimilar s
  let better : (Nat × Nat) × String → (Nat × Nat) × String → Bool := fun ((n, d), c) ((m, e), b) =>
    m * d < n * e || (m * d == n * e && b < c)
  (good.foldl (fun best x =>
    match best with
    | none => some x
    | some y => if better x y then some x else some y) none).map Prod.snd

end QueryLint.Text
