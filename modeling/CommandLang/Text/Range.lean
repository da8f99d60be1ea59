/-
  CommandLang/Text/Range.lean
  ===========================
  **Ranges and runs of code points.**

  What Unicode says about characters is kept as data.  A class of characters is a list of ranges.  A
  mapping of letters is a list of runs, since neighbouring letters are moved by the same distance.
-/

namespace CommandLang

/-- A class of characters: the first and the last code point of each of its ranges. -/
abbrev CodeRanges := List (Nat × Nat)

/-- Whether a code point lies in one of the ranges. -/
def CodeRanges.covers (ranges : CodeRanges) (n : Nat) : Bool :=
  ranges.any fun (first, last) => first ≤ n && n ≤ last

/-- The letters `first, first + stride, …, last`, each of which is mapped to the letter `shift`
    places further on. -/
structure CaseRun where
  first : Nat
  last : Nat
  stride : Nat
  shift : Int

/-- Whether a code point belongs to the run. -/
def CaseRun.covers (r : CaseRun) (n : Nat) : Bool :=
  r.first ≤ n && n ≤ r.last && (n - r.first) % r.stride == 0

/-- The code point that a member of the run is mapped to. -/
def CaseRun.image (r : CaseRun) (n : Nat) : Nat := (n + r.shift).toNat

end CommandLang
