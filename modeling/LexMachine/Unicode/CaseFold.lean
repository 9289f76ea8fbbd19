import LexMachine.Unicode.CodeSet
import LexMachine.Unicode.Table.CaseOrbit

/-!
# Simple case folding

Two characters differ only in case when they lie in one orbit of simple case folding. A set is
closed under case by adding the whole orbit of each of its members.
-/

namespace LexMachine.Unicode

/-- The members of an orbit from the distances between them. -/
def accumulate : Nat → List Nat → List Nat
  | _, [] => []
  | last, d :: rest => (last + d) :: accumulate (last + d) rest

/-- Orbits from the packed distances, where the least member is counted from that of the orbit
before. -/
def orbitsFrom : Nat → List (List Nat) → List (List Nat)
  | _, [] => []
  | _, [] :: rest => orbitsFrom 0 rest
  | base, (d :: ds) :: rest =>
    ((base + d) :: accumulate (base + d) ds) :: orbitsFrom (base + d) rest

/-- The case orbits, each with its members in increasing order. -/
def caseOrbits : List (List Nat) :=
  orbitsFrom 0 (Table.caseOrbits.flatMap fun line =>
    (line.splitOn " ").map fun o => unpack o.toList none)

/-- A set together with every code point that differs from a member only in case. -/
def CodeSet.foldCase (s : CodeSet) : CodeSet :=
  CodeSet.ofRuns (s.runs ++
    (caseOrbits.filter (fun o => o.any (CodeSet.covers s.runs))).flatMap
      fun o => o.map fun n => (n, n))

/-- An ASCII set together with the other case of each of its letters. -/
def CodeSet.foldAsciiCase (s : CodeSet) : CodeSet :=
  CodeSet.ofRuns (s.runs ++ (List.range 26).flatMap fun i =>
    if CodeSet.covers s.runs (0x41 + i) || CodeSet.covers s.runs (0x61 + i) then
      [(0x41 + i, 0x41 + i), (0x61 + i, 0x61 + i)]
    else [])

end LexMachine.Unicode
