import UriRouting.Path
import UriRouting.Text.Access
import UriRouting.Text.Utf8

/-!
# Normalization by places

`Path.walk` cuts the whole path into segments and then reads them.  In memory there is one pass
over the bytes of the path: a round of it (`Scan.round`) looks for the next `/`, and what stands
before it is kept as a `Range`, a place with a length.  No text is copied before the pass is over;
then every range that is left is cut out of the path (`joinRanges`).

Here normalization is written in this way, and every access is checked (`Checked`): a slice that
leaves the path, a total that falls below zero, or a range that cuts a character in two ends it with
a `Trap`.
-/

namespace UriRouting.Path

open Checked

/-- The byte between segments. -/
def slash : UInt8 := 47

/-- The byte of a `.`. -/
def dot : UInt8 := 46

/-- A segment by its place in the path. -/
structure Range where
  start : Nat
  length : Nat
  deriving DecidableEq, Repr

/-- The place just behind a range. -/
def Range.stop (r : Range) : Nat := r.start + r.length

/-- A pass over a path: where it stands, the ranges that are left so far, the last one first, and
the running total of their lengths. -/
structure Scan where
  place : Nat
  ranges : List Range
  total : Nat
  deriving DecidableEq, Repr

namespace Scan

/-- A pass stands behind the first `/`. -/
def start : Scan := ⟨1, [], 0⟩

/-- Take a segment into account that has been read between two places. -/
def take (s : Scan) (stop : Nat) (segment : List UInt8) : Except Trap (Except Fault Scan) :=
  if segment = [] ∨ segment = [dot] then .ok (.ok ⟨stop + 1, s.ranges, s.total⟩)
  else if segment = [dot, dot] then
    match s.ranges with
    | [] => .ok (.error .aboveRoot)
    | last :: above =>
      (less s.total last.length).map fun total => .ok ⟨stop + 1, above, total⟩
  else
    (less stop s.place).map fun length =>
      .ok ⟨stop + 1, ⟨s.place, length⟩ :: s.ranges, s.total + length⟩

/-- Read the segment at which a pass stands, and go on behind the `/` that ends it. -/
def round (bytes : List UInt8) (s : Scan) : Except Trap (Except Fault Scan) := do
  let stop ← stopBefore bytes slash s.place
  let segment ← slice bytes s.place stop
  s.take stop segment

/-- A pass that has taken a segment stands behind the `/` that ends it. -/
theorem place_of_take {s next : Scan} {stop : Nat} {segment : List UInt8}
    (h : s.take stop segment = .ok (.ok next)) : next.place = stop + 1 := by
  unfold take at h
  split at h
  · rw [← Except.ok.inj (Except.ok.inj h)]
  · split at h
    · split at h
      · simp at h
      · next last above _ =>
        cases htotal : less s.total last.length with
        | error trap => simp [htotal, Except.map] at h
        | ok total =>
          rw [htotal, Except.map, Except.ok.injEq, Except.ok.injEq] at h
          rw [← h]
    · cases hlength : less stop s.place with
      | error trap => simp [hlength, Except.map] at h
      | ok length =>
        rw [hlength, Except.map, Except.ok.injEq, Except.ok.injEq] at h
        rw [← h]

/-- A round goes forward. -/
theorem place_lt_of_round {bytes : List UInt8} {s next : Scan}
    (h : s.round bytes = .ok (.ok next)) : s.place < next.place := by
  unfold round at h
  cases hstop : stopBefore bytes slash s.place with
  | error trap => simp [hstop, bind, Except.bind] at h
  | ok stop =>
    cases hsegment : slice bytes s.place stop with
    | error trap => simp [hstop, hsegment, bind, Except.bind] at h
    | ok segment =>
      have hforward : ¬ stop < s.place := by
        intro hback
        simp [slice, hback] at hsegment
      simp only [hstop, hsegment, bind, Except.bind] at h
      rw [place_of_take h]
      omega

/-- Go through the rest of a path, round by round. -/
def run (bytes : List UInt8) (s : Scan) : Except Trap (Except Fault Scan) :=
  if s.place < bytes.length then
    match _h : s.round bytes with
    | .error trap => .error trap
    | .ok (.error fault) => .ok (.error fault)
    | .ok (.ok next) => next.run bytes
  else .ok (.ok s)
termination_by bytes.length - s.place
decreasing_by
  have := place_lt_of_round _h
  omega

end Scan

/-- Write some ranges of a path down, each behind a `/`. -/
def joinRanges (raw : String) (ranges : List Range) : Except Trap String :=
  ranges.foldlM (fun canonical r =>
    (textSlice raw r.start r.stop).map fun text => canonical ++ "/" ++ text) ""

/-- The canonical form of a path, by places. -/
def normalizeAt (raw : String) : Except Trap (Except Fault String) :=
  let bytes := Text.utf8 raw.toList
  if bytes.head? ≠ some slash then .ok (.error .relative)
  else do
    let scanned ← Scan.start.run bytes
    match scanned with
    | .error fault => .ok (.error fault)
    | .ok s =>
      if s.ranges = [] then .ok (.ok "/")
      else (joinRanges raw s.ranges.reverse).map .ok

end UriRouting.Path
