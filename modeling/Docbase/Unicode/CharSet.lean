import Docbase.Text.Hex

/-!
Sets of code points. A set is kept as the ascending list of the code points where membership
changes, from outside at the start: 41, 5B holds the capital letters of ASCII. So each set has
one form, and every operation on sets is one walk along two lists (`combine`). The main
statement says that the walk combines membership point by point (`contains_combine`).
-/
namespace Docbase.Unicode

/-- The last code point. -/
def lastCode : Nat := 0x10FFFF

structure CharSet where
  changes : List Nat
  deriving DecidableEq, Repr, Inhabited

namespace CharSet

/-- Whether a code point is inside, from whether the first ones are. -/
def containsFrom : Bool → List Nat → Nat → Bool
  | inside, [], _ => inside
  | inside, p :: rest, c => if c < p then inside else containsFrom (!inside) rest c

def contains (s : CharSet) (c : Nat) : Bool := containsFrom false s.changes c

def empty : CharSet := ⟨[]⟩

def isEmpty (s : CharSet) : Bool := s.changes.isEmpty

def range (low high : Nat) : CharSet := if low ≤ high then ⟨[low, high + 1]⟩ else empty

def single (c : Nat) : CharSet := ⟨[c, c + 1]⟩

def all : CharSet := range 0 lastCode

/-- A change at a place, if the two values differ. -/
def change (before after : Bool) (place : Nat) (rest : List Nat) : List Nat :=
  if before = after then rest else place :: rest

/-- Walks along two lists of changes and keeps the places where the combined value changes. -/
def combineFrom (op : Bool → Bool → Bool) : Bool → Bool → List Nat → List Nat → List Nat
  | _, _, [], [] => []
  | a, b, x :: xs, [] => change (op a b) (op (!a) b) x (combineFrom op (!a) b xs [])
  | a, b, [], y :: ys => change (op a b) (op a (!b)) y (combineFrom op a (!b) [] ys)
  | a, b, x :: xs, y :: ys =>
    if x < y then change (op a b) (op (!a) b) x (combineFrom op (!a) b xs (y :: ys))
    else if y < x then change (op a b) (op a (!b)) y (combineFrom op a (!b) (x :: xs) ys)
    else change (op a b) (op (!a) (!b)) x (combineFrom op (!a) (!b) xs ys)
termination_by _ _ xs ys => xs.length + ys.length

/-- Combines two sets point by point. What is in neither has to stay outside. -/
def combine (op : Bool → Bool → Bool) (s t : CharSet) : CharSet :=
  ⟨combineFrom op false false s.changes t.changes⟩

def union (s t : CharSet) : CharSet := combine (· || ·) s t

def inter (s t : CharSet) : CharSet := combine (· && ·) s t

def diff (s t : CharSet) : CharSet := combine (fun a b => a && !b) s t

def symDiff (s t : CharSet) : CharSet := combine (fun a b => a != b) s t

def complement (s : CharSet) : CharSet := diff all s

def unionAll (sets : List CharSet) : CharSet := sets.foldl union empty

private def pairUp : List Nat → List (Nat × Nat)
  | low :: stop :: rest => (low, stop - 1) :: pairUp rest
  | [low] => [(low, lastCode)]
  | [] => []

/-- The largest ranges in the set, ends included, in ascending order. -/
def ranges (s : CharSet) : List (Nat × Nat) := pairUp s.changes

/-- No member beyond ASCII. -/
def isAscii (s : CharSet) : Bool := s.ranges.all fun r => r.2 ≤ 0x7F

/-- The only member of a set with one member. -/
def onlyMember? (s : CharSet) : Option Nat :=
  match s.changes with
  | [low, stop] => if stop = low + 1 then some low else none
  | _ => none

/-- The set that ascending ranges without gaps or common members between them make up. -/
def ofRanges (rs : List (Nat × Nat)) : CharSet :=
  unionAll (rs.map fun r => range r.1 r.2)

/-- Adds a range to the changes read so far, the last first; a range that starts where the last
one stops prolongs it. -/
private def push (low stop : Nat) : List Nat → List Nat
  | last :: rest => if last = low then stop :: rest else stop :: low :: last :: rest
  | [] => [stop, low]

/-- The set of some code points, each listed once. -/
def ofCodes (codes : List Nat) : CharSet :=
  ⟨((codes.mergeSort (· ≤ ·)).foldl (fun done c => push c (c + 1) done) []).reverse⟩

private structure Reading where
  done : List Nat
  current : Nat
  started : Bool
  inRange : Bool

private def Reading.close (r : Reading) : List Nat :=
  if !r.started then r.done
  else
    match r.inRange, r.done with
    | true, low :: rest => push low (r.current + 1) rest
    | _, done => push r.current (r.current + 1) done

private def Reading.step (r : Reading) (c : Char) : Reading :=
  if c = ' ' ∨ c = '\n' then ⟨r.close, 0, false, false⟩
  else if c = '-' then ⟨r.current :: r.done, 0, true, true⟩
  else ⟨r.done, 16 * r.current + (Hex.digitValue? c).getD 0, true, r.inRange⟩

/-- Reads ascending ranges such as `41-5A 61-7A AA`. -/
def ofText (text : String) : CharSet :=
  ⟨(text.toList.foldl Reading.step ⟨[], 0, false, false⟩).close.reverse⟩

/-! Membership in a combined set. -/

theorem containsFrom_of_lt {inside : Bool} {l : List Nat} {c : Nat} (h : ∀ p ∈ l, c < p) :
    containsFrom inside l c = inside := by
  cases l with
  | nil => rfl
  | cons p rest => simp [containsFrom, h p (by simp)]

private theorem containsFrom_change {before after : Bool} {place c : Nat} {rest : List Nat}
    (h : c < place → containsFrom after rest c = after) :
    containsFrom before (change before after place rest) c =
      if c < place then before else containsFrom after rest c := by
  by_cases hc : c < place <;> cases before <;> cases after <;>
    simp_all [change, containsFrom]

/-- A combined walk reads, at every point, the combination of what the two walks read. -/
theorem containsFrom_combineFrom (op : Bool → Bool → Bool) {a b : Bool} {xs ys : List Nat}
    (hx : xs.Pairwise (· < ·)) (hy : ys.Pairwise (· < ·)) (c : Nat) :
    containsFrom (op a b) (combineFrom op a b xs ys) c =
      op (containsFrom a xs c) (containsFrom b ys c) := by
  fun_induction combineFrom op a b xs ys with
  | case1 => rfl
  | case2 a b x xs ih =>
    obtain ⟨hlt, hx⟩ := List.pairwise_cons.1 hx
    rw [containsFrom_change fun hc => by
      rw [ih hx hy, containsFrom_of_lt fun p hp => by have := hlt p hp; omega]; rfl]
    by_cases hc : c < x <;> simp [containsFrom, hc, ih hx hy]
  | case3 a b y ys ih =>
    obtain ⟨hlt, hy⟩ := List.pairwise_cons.1 hy
    rw [containsFrom_change fun hc => by
      rw [ih hx hy, containsFrom_of_lt (l := ys) fun p hp => by have := hlt p hp; omega]; rfl]
    by_cases hc : c < y <;> simp [containsFrom, hc, ih hx hy]
  | case4 a b x xs y ys hxy ih =>
    have hx' := hx
    obtain ⟨hlt, hx⟩ := List.pairwise_cons.1 hx
    rw [containsFrom_change fun hc => by
      rw [ih hx hy, containsFrom_of_lt fun p hp => by have := hlt p hp; omega]
      simp [containsFrom, show c < y by omega]]
    by_cases hc : c < x
    · simp [containsFrom, hc, show c < y by omega]
    · simp [containsFrom, hc, ih hx hy]
  | case5 a b x xs y ys hxy hyx ih =>
    obtain ⟨hlt, hy⟩ := List.pairwise_cons.1 hy
    rw [containsFrom_change fun hc => by
      rw [ih hx hy, containsFrom_of_lt (l := ys) fun p hp => by have := hlt p hp; omega]
      simp [containsFrom, show c < x by omega]]
    by_cases hc : c < y
    · simp [containsFrom, hc, show c < x by omega]
    · simp [containsFrom, hc, ih hx hy]
  | case6 a b x xs y ys hxy hyx ih =>
    obtain rfl : x = y := by omega
    obtain ⟨hltx, hx⟩ := List.pairwise_cons.1 hx
    obtain ⟨hlty, hy⟩ := List.pairwise_cons.1 hy
    rw [containsFrom_change fun hc => by
      rw [ih hx hy, containsFrom_of_lt fun p hp => by have := hltx p hp; omega,
        containsFrom_of_lt fun p hp => by have := hlty p hp; omega]]
    by_cases hc : c < x <;> simp [containsFrom, hc, ih hx hy]

/-- Membership in a combined set is the combination of memberships. -/
theorem contains_combine {op : Bool → Bool → Bool} (h : op false false = false)
    {s t : CharSet} (hs : s.changes.Pairwise (· < ·)) (ht : t.changes.Pairwise (· < ·))
    (c : Nat) : (combine op s t).contains c = op (s.contains c) (t.contains c) := by
  have := containsFrom_combineFrom op hs ht c (a := false) (b := false)
  rwa [h] at this

end CharSet

end Docbase.Unicode
