import PluginStudio.Number.Binary64

/-
  Words that may have been meant.

  Key definitions include:
    * `PluginStudio.Cli.isSimilar`
    * `PluginStudio.Cli.similarTo`

  Two words are similar if they share most of their letters in
  about the same places.  The measure is the mean of three
  shares: of letters matched in either word, and of matched
  letters that keep their order.  It is rounded to 53 bits
  after each step.
-/

------------------------------------------------------------
-- Matching Letters
------------------------------------------------------------

namespace PluginStudio

namespace Cli

/- The first free place of a letter within bounds. -/
def freePlace?
    (c : Char)
    (low high : Nat)
    (taken : List Nat) :
    Nat → List Char → Option Nat
  | _, [] => none
  | j, d :: ds =>
    if low ≤ j && j < high && c = d && j ∉ taken then
      some j
    else
      freePlace? c low high taken (j + 1) ds

/- Places in the second word of letters of the first, in order. -/
def matchLetters
    (range : Nat)
    (second : List Char) :
    Nat → List Char → List (Char × Nat) → List (Char × Nat)
  | _, [], acc => acc.reverse
  | i, c :: cs, acc =>
    match freePlace? c (i - range) (i + range + 1)
        (acc.map fun entry => entry.2) 0 second with
    | some j => matchLetters range second (i + 1) cs ((c, j) :: acc)
    | none => matchLetters range second (i + 1) cs acc

/- How many of two lists' items differ, place by place. -/
def differences : List Char → List Char → Nat
  | c :: cs, d :: ds => (if c = d then 0 else 1) + differences cs ds
  | _, _ => 0

end Cli

end PluginStudio

------------------------------------------------------------
-- Similarity
------------------------------------------------------------

namespace PluginStudio

namespace Cli

/- A quotient of counts, rounded. -/
def share (n d : Nat) : Binary64 :=
  (Binary64.ofRatio? n d).getD .zero

/- The mean of three shares, rounded at each step. -/
def mean (x y z : Binary64) : Binary64 :=
  (do
    let two ← x.add? y
    let sum ← two.add? z
    sum.div? (share 3 1)).getD .zero

/- The likeness of two words. -/
def likeness
    (first second : List Char) : Binary64 :=
  if first.isEmpty || second.isEmpty then
    if first.isEmpty && second.isEmpty then share 1 1 else .zero
  else
    let a := first.length
    let b := second.length
    let range := max a b / 2 - 1
    let matched := matchLetters range second 0 first []
    let m := matched.length
    let kept := (matched.mergeSort fun x y => x.2 ≤ y.2).map fun e => e.1
    let t := differences (matched.map fun e => e.1) kept / 2
    if m = 0 then .zero
    else mean (share m a) (share m b) (share (m - t) m)

/- Are two words similar? -/
def isSimilar (first second : String) : Bool :=
  (share 7 10).less (likeness first.toList second.toList)

/- The similar ones among some words, the most similar last. -/
def similarTo
    (word : String)
    (words : List String) : List String :=
  (words.filter (isSimilar word)).mergeSort fun x y =>
    !(likeness word.toList y.toList).less (likeness word.toList x.toList)

end Cli

end PluginStudio
