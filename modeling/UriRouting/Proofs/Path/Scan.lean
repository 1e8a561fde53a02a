import UriRouting.Path.Scan
import UriRouting.Proofs.Path.Canonical
import UriRouting.Proofs.Text.Bytes

/-!
# The running total is exact

The pass over a path (`Path.normalizeAt`) keeps places and lengths where the walk keeps segments.
`Trail.scan` is the state of a pass for a trail, and a round of the pass is a step of the walk
(`Trail.round_scan`), as long as the trail fits the place where the pass stands: its segments stand
in the path in their order, before this place, and its total is the sum of their lengths
(`Trail.Fits`).  A segment that is read keeps this (`Trail.Fits.step`), so it holds of every state
that a pass goes through (`Scan.Reached.exists_trail`).

Two things follow.  Normalization by places never ends with a trap and comes to what normalization
comes to (`normalizeAt_eq`).  And the room that is made for the result is what it takes
(`running_total_exact`): a segment with the `/` in front of it takes as much as it adds to the total
and to the number of the segments.
-/

namespace UriRouting.Path

open Checked

/-! ## Lengths in bytes -/

lemma length_utf8 (cs : List Char) : (Text.utf8 cs).length = byteLength cs := by
  induction cs with
  | nil => rfl
  | cons c cs ih =>
    rw [Text.utf8_cons, List.length_append, String.length_utf8EncodeChar, ih, byteLength]

lemma utf8ByteSize_ofList (cs : List Char) : (String.ofList cs).utf8ByteSize = byteLength cs := by
  rw [← length_utf8, ← String.size_toByteArray, String.toByteArray_ofList, List.utf8Encode,
    List.size_toByteArray]
  rfl

/-! ## The segments of a text, one by one -/

lemma segmentsFrom_of_not_mem (start : ℕ) {segment : List Char} (h : '/' ∉ segment) :
    segmentsFrom start segment = [⟨start, segment⟩] := by
  induction segment generalizing start with
  | nil => rfl
  | cons c segment ih =>
    simp only [List.mem_cons, not_or] at h
    rw [segmentsFrom, if_neg (Ne.symm h.1), ih _ h.2]

lemma segmentsFrom_append (start : ℕ) {segment : List Char} (h : '/' ∉ segment)
    (rest : List Char) : segmentsFrom start (segment ++ '/' :: rest) =
      ⟨start, segment⟩ :: segmentsFrom (start + byteLength segment + 1) rest := by
  induction segment generalizing start with
  | nil => rw [List.nil_append, segmentsFrom, if_pos rfl, byteLength, Nat.add_zero]
  | cons c segment ih =>
    simp only [List.mem_cons, not_or] at h
    rw [List.cons_append, segmentsFrom, if_neg (Ne.symm h.1), ih _ h.2, byteLength, ← Nat.add_assoc]

/-- A text is read as its first segment and the segments of what stands behind the next `/`. -/
lemma exists_segmentsFrom_eq_cons (start : ℕ) {segment behind : List Char} (h : '/' ∉ segment)
    (hbehind : Behind behind) :
    ∃ tail, segmentsFrom start (segment ++ behind) = ⟨start, segment⟩ :: tail ∧
      ((behind = [] ∧ tail = []) ∨ ∃ more, behind = '/' :: more ∧
        tail = segmentsFrom (start + byteLength segment + 1) more) := by
  rcases hbehind with rfl | ⟨more, rfl⟩
  · rw [List.append_nil, segmentsFrom_of_not_mem start h]
    exact ⟨[], rfl, .inl ⟨rfl, rfl⟩⟩
  · exact ⟨_, segmentsFrom_append start h more, .inr ⟨more, rfl, rfl⟩⟩

/-! ## Trails by places -/

/-- A segment as a range. -/
def Segment.range (s : Segment) : Range := ⟨s.start, s.length⟩

/-- The pass that stands at a place with the segments of a trail. -/
def Trail.scan (t : Trail) (place : ℕ) : Scan := ⟨place, t.segments.map Segment.range, t.total⟩

/-- A segment stands in a text at the place where it starts. -/
def Segment.StandsIn (raw : List Char) (s : Segment) : Prop :=
  '/' ∉ s.text ∧ ∃ before after, raw = before ++ s.text ++ after ∧ byteLength before = s.start

/-- What holds of the trail of a pass that stands at a place. -/
structure Trail.Fits (raw : List Char) (place : ℕ) (t : Trail) : Prop where
  stands : ∀ s ∈ t.segments, s.StandsIn raw
  /-- There is a `/` at least between two segments. -/
  apart : t.segments.Pairwise fun later earlier => earlier.stop < later.start
  behind : ∀ s ∈ t.segments, s.stop < place
  total_eq : t.total = (t.segments.map Segment.length).sum
  /-- A `/` stands in front of every segment. -/
  room : t.total + t.segments.length < place

namespace Trail

variable {raw front segment rest : List Char} {place : ℕ} {t t' : Trail}

lemma fits_root (raw : List Char) : root.Fits raw 1 :=
  ⟨by simp [root], by simp [root], by simp [root], by simp [root], by simp [root]⟩

/-- What fits at a place fits behind it. -/
lemma Fits.mono (h : t.Fits raw place) {place' : ℕ} (hle : place ≤ place') : t.Fits raw place' :=
  ⟨h.stands, h.apart, fun s hs => (h.behind s hs).trans_le hle, h.total_eq, h.room.trans_le hle⟩

/-- Without the last segment, the others still fit. -/
lemma Fits.pop {last : Segment} {above : List Segment} (h : t.Fits raw place)
    (hsegments : t.segments = last :: above) :
    last.length ≤ t.total ∧ (⟨above, t.total - last.length⟩ : Trail).Fits raw place := by
  obtain ⟨hstands, hapart, hbehind, htotal, hroom⟩ := h
  rw [hsegments] at hstands hapart hbehind htotal hroom
  rw [List.forall_mem_cons] at hstands hbehind
  rw [List.map_cons, List.sum_cons] at htotal
  rw [List.length_cons] at hroom
  refine ⟨by omega, hstands.2, (List.pairwise_cons.1 hapart).2, hbehind.2, ?_, ?_⟩
  · show t.total - last.length = (above.map Segment.length).sum
    omega
  · show t.total - last.length + above.length < place
    omega

/-- A segment that is read at a place stands behind the others. -/
lemma Fits.push (h : t.Fits raw (byteLength front)) (hraw : raw = front ++ segment ++ rest)
    (hsegment : '/' ∉ segment) :
    (⟨⟨byteLength front, segment⟩ :: t.segments, t.total + byteLength segment⟩ : Trail).Fits raw
      (byteLength front + byteLength segment + 1) := by
  obtain ⟨hstands, hapart, hbehind, htotal, hroom⟩ := h
  refine ⟨?_, ?_, ?_, ?_, ?_⟩
  · exact List.forall_mem_cons.2 ⟨⟨hsegment, front, rest, hraw, rfl⟩, hstands⟩
  · exact List.pairwise_cons.2 ⟨hbehind, hapart⟩
  · refine List.forall_mem_cons.2 ⟨Nat.lt_succ_self _, fun s hs => ?_⟩
    have := hbehind s hs
    omega
  · rw [List.map_cons, List.sum_cons, ← htotal]
    exact Nat.add_comm _ _
  · rw [List.length_cons]
    show t.total + byteLength segment + (t.segments.length + 1) < _
    omega

/-- Reading a segment keeps what holds of a trail. -/
theorem Fits.step (h : t.Fits raw (byteLength front)) (hraw : raw = front ++ segment ++ rest)
    (hsegment : '/' ∉ segment) (hstep : t.step ⟨byteLength front, segment⟩ = .ok t') :
    t'.Fits raw (byteLength front + byteLength segment + 1) := by
  have hle : byteLength front ≤ byteLength front + byteLength segment + 1 := by omega
  by_cases hsilent : segment = [] ∨ segment = ['.']
  · rw [step_of_silent hsilent] at hstep
    obtain rfl := Except.ok.inj hstep
    exact h.mono hle
  · by_cases hparent : segment = ['.', '.']
    · rw [step_of_parent hparent] at hstep
      cases hsegments : t.segments with
      | nil => simp [hsegments] at hstep
      | cons last above =>
        rw [hsegments] at hstep
        obtain rfl := Except.ok.inj hstep
        exact (h.pop hsegments).2.mono hle
    · rw [not_or] at hsilent
      rw [step_of_ordinary ⟨hsilent.1, hsilent.2, hparent, hsegment⟩] at hstep
      obtain rfl := Except.ok.inj hstep
      exact h.push hraw hsegment

/-! ## A round -/

/-- A pass takes a segment into account as the walk does, and its total does not fall below zero. -/
lemma take_scan (h : t.Fits raw place) (hsegment : '/' ∉ segment) :
    (t.scan place).take (place + byteLength segment) (Text.utf8 segment) =
      .ok ((t.step ⟨place, segment⟩).map fun t' =>
        t'.scan (place + byteLength segment + 1)) := by
  have hempty : Text.utf8 segment = [] ↔ segment = [] := Text.utf8_injective.eq_iff (b := [])
  have hdot : Text.utf8 segment = [dot] ↔ segment = ['.'] := Text.utf8_injective.eq_iff (b := ['.'])
  have hdots : Text.utf8 segment = [dot, dot] ↔ segment = ['.', '.'] :=
    Text.utf8_injective.eq_iff (b := ['.', '.'])
  simp only [Scan.take, hempty, hdot, hdots]
  by_cases hsilent : segment = [] ∨ segment = ['.']
  · rw [if_pos hsilent, step_of_silent hsilent]
    rfl
  · rw [if_neg hsilent]
    by_cases hparent : segment = ['.', '.']
    · rw [if_pos hparent, step_of_parent hparent]
      cases hsegments : t.segments with
      | nil => simp [scan, hsegments, Except.map]
      | cons last above =>
        have hless : less t.total last.range.length = .ok (t.total - last.length) :=
          less_of_le (h.pop hsegments).1
        simp [scan, hsegments, hless]
    · have hless : less (place + byteLength segment) place = .ok (byteLength segment) := by
        rw [less_of_le (Nat.le_add_right _ _), Nat.add_sub_cancel_left]
      rw [not_or] at hsilent
      rw [if_neg hparent, step_of_ordinary ⟨hsilent.1, hsilent.2, hparent, hsegment⟩]
      simp [scan, hless, Segment.range, Segment.length]

/-- A round of the pass takes one segment off the rest of the path. -/
theorem round_scan (h : t.Fits raw (byteLength front)) (hraw : raw = front ++ segment ++ rest)
    (hsegment : '/' ∉ segment) (hrest : Behind rest) :
    (t.scan (byteLength front)).round (Text.utf8 raw) =
      .ok ((t.step ⟨byteLength front, segment⟩).map fun t' =>
        t'.scan (byteLength front + byteLength segment + 1)) := by
  have hbytes : Text.utf8 raw = Text.utf8 front ++ Text.utf8 segment ++ Text.utf8 rest := by
    rw [hraw, Text.utf8_append, Text.utf8_append]
  have hmark : slash ∉ Text.utf8 segment :=
    mt (Text.mem_utf8_iff (by decide : '/'.toNat < 128) segment).1 hsegment
  have hstop : stopBefore (Text.utf8 raw) slash (byteLength front) =
      .ok (byteLength front + byteLength segment) := by
    rw [hbytes, ← length_utf8 front, ← length_utf8 segment, List.append_assoc]
    rcases hrest with rfl | ⟨more, rfl⟩
    · rw [Text.utf8_nil, List.append_nil, stopBefore_end hmark]
    · rw [Text.utf8_cons_of_ascii (by decide : '/'.toNat < 128)]
      exact stopBefore_append hmark _
  have hslice : slice (Text.utf8 raw) (byteLength front) (byteLength front + byteLength segment) =
      .ok (Text.utf8 segment) := by
    rw [hbytes, ← length_utf8 front, ← length_utf8 segment, slice_append]
  have hplace : (t.scan (byteLength front)).place = byteLength front := rfl
  rw [Scan.round, hplace, hstop, Success.ok_bind, hslice, Success.ok_bind, take_scan h hsegment]

end Trail

/-! ## The states of a pass -/

/-- The states that the pass over a path goes through. -/
inductive Scan.Reached (raw : String) : Scan → Prop
  | start (rooted : (Text.utf8 raw.toList).head? = some slash) : Reached raw Scan.start
  | round {s next : Scan} (before : Reached raw s) (more : s.place < (Text.utf8 raw.toList).length)
      (taken : s.round (Text.utf8 raw.toList) = .ok (.ok next)) : Reached raw next

/-- A pass stands behind some front of the text, or behind the `/` that is missing at its end. -/
def Onward (raw : List Char) (place : ℕ) : Prop :=
  place = byteLength raw + 1 ∨ ∃ front rest, raw = front ++ rest ∧ byteLength front = place

lemma utf8EncodeChar_ne_nil (c : Char) : String.utf8EncodeChar c ≠ [] := by
  rw [← List.length_pos_iff, String.length_utf8EncodeChar]
  exact c.utf8Size_pos

lemma head?_utf8_eq_slash {cs : List Char} :
    (Text.utf8 cs).head? = some slash ↔ ∃ rest, cs = '/' :: rest := by
  constructor
  · intro h
    cases cs with
    | nil => simp at h
    | cons c cs =>
      have hmem : slash ∈ Text.utf8 [c] := by
        rw [Text.utf8_cons, Text.utf8_nil, List.append_nil]
        rw [Text.utf8_cons, List.head?_append_of_ne_nil _ (utf8EncodeChar_ne_nil c)] at h
        exact List.mem_of_head? h
      have hc : '/' ∈ [c] := (Text.mem_utf8_iff (by decide : '/'.toNat < 128) [c]).1 hmem
      exact ⟨cs, by rw [List.mem_singleton.1 hc]⟩
  · rintro ⟨rest, rfl⟩
    rfl

/-- Every text has a first segment, and more behind it if it has more. -/
lemma exists_segment (front rest : List Char) : ∃ segment behind, '/' ∉ segment ∧ Behind behind ∧
    rest = segment ++ behind ∧ front ++ rest = front ++ segment ++ behind := by
  obtain ⟨segment, more, -, hrest, hsegment, -⟩ := exists_segments rest
  refine ⟨segment, _, hsegment, behind_flatMap more, hrest, ?_⟩
  rw [hrest, List.append_assoc]

lemma onward_next {raw front segment rest : List Char} (hraw : raw = front ++ segment ++ rest)
    (hrest : Behind rest) : Onward raw (byteLength front + byteLength segment + 1) := by
  rcases hrest with rfl | ⟨more, rfl⟩
  · refine .inl ?_
    rw [hraw, List.append_nil, byteLength_append]
  · refine .inr ⟨front ++ segment ++ ['/'], more, by simp [hraw], ?_⟩
    rw [byteLength_append, byteLength_append]
    rfl

lemma Onward.place_le {raw : List Char} {place : ℕ} (h : Onward raw place) :
    place ≤ byteLength raw + 1 := by
  rcases h with rfl | ⟨front, rest, rfl, rfl⟩
  · exact le_refl _
  · rw [byteLength_append]
    omega

/-- From a place before the end there is a round, which is a step of the walk and keeps what holds of
a trail. -/
lemma Trail.Fits.exists_round {raw : List Char} {place : ℕ} {t : Trail} (h : t.Fits raw place)
    (honward : Onward raw place) (hlt : place < byteLength raw) :
    ∃ segment, (t.scan place).round (Text.utf8 raw) =
        .ok ((t.step ⟨place, segment⟩).map fun t' => t'.scan (place + byteLength segment + 1)) ∧
      Onward raw (place + byteLength segment + 1) ∧
      ∀ t', t.step ⟨place, segment⟩ = .ok t' → t'.Fits raw (place + byteLength segment + 1) := by
  rcases honward with hend | ⟨front, rest, hraw, rfl⟩
  · omega
  · obtain ⟨segment, behind, hsegment, hbehind, -, happend⟩ := exists_segment front rest
    have hraw' := hraw.trans happend
    exact ⟨segment, Trail.round_scan h hraw' hsegment hbehind, onward_next hraw' hbehind,
      fun t' hstep => h.step hraw' hsegment hstep⟩

/-- At every state of a pass, the ranges are the segments of a trail that fits. -/
theorem Scan.Reached.exists_trail {raw : String} {s : Scan} (h : Scan.Reached raw s) :
    ∃ t : Trail, s = t.scan s.place ∧ t.Fits raw.toList s.place ∧ Onward raw.toList s.place := by
  induction h with
  | start rooted =>
    obtain ⟨rest, hrest⟩ := head?_utf8_eq_slash.1 rooted
    exact ⟨Trail.root, rfl, Trail.fits_root _, .inr ⟨['/'], rest, hrest, rfl⟩⟩
  | @round s next before more taken ih =>
    obtain ⟨t, hs, hfits, honward⟩ := ih
    rw [length_utf8] at more
    obtain ⟨segment, hround, hnext, hkept⟩ := hfits.exists_round honward more
    rw [hs, hround, Except.ok.injEq] at taken
    obtain ⟨t', hstep, rfl⟩ := Success.map_eq_ok.1 taken
    exact ⟨t', rfl, hkept t' hstep, hnext⟩

/-- What holds at a state of the pass over a path. -/
structure Scan.Exact (raw : String) (s : Scan) : Prop where
  /-- The ranges start and end where characters do. -/
  boundaries : ∀ r ∈ s.ranges,
    (String.Pos.Raw.mk r.start).IsValid raw ∧ (String.Pos.Raw.mk r.stop).IsValid raw
  /-- A range holds no `/`. -/
  within : ∀ r ∈ s.ranges, ∃ text, textSlice raw r.start r.stop = .ok text ∧ '/' ∉ text.toList
  /-- Every range ends before the next one starts, and before the place of the pass. -/
  apart : s.ranges.Pairwise fun later earlier => earlier.stop < later.start
  behind : ∀ r ∈ s.ranges, r.stop < s.place
  /-- The total is exact. -/
  total_eq : s.total = (s.ranges.map Range.length).sum

namespace Segment

/-- A path around a segment that stands in it. -/
lemma StandsIn.exists_around {raw : String} {s : Segment} (h : s.StandsIn raw.toList) :
    ∃ before after : String, raw = before ++ String.ofList s.text ++ after ∧
      before.utf8ByteSize = s.start ∧
      (String.ofList s.text).utf8ByteSize = s.length := by
  obtain ⟨-, before, after, hraw, hstart⟩ := h
  refine ⟨String.ofList before, String.ofList after, ?_, ?_, utf8ByteSize_ofList s.text⟩
  · rw [← String.ofList_append, ← String.ofList_append, ← hraw, String.ofList_toList]
  · rw [utf8ByteSize_ofList, hstart]

lemma StandsIn.textSlice {raw : String} {s : Segment} (h : s.StandsIn raw.toList) :
    textSlice raw s.range.start s.range.stop = .ok (String.ofList s.text) := by
  obtain ⟨before, after, hraw, hstart, hlength⟩ := h.exists_around
  have hslice := textSlice_append before (String.ofList s.text) after
  rwa [← hraw, hstart, hlength] at hslice

lemma StandsIn.isValid {raw : String} {s : Segment} (h : s.StandsIn raw.toList) :
    (String.Pos.Raw.mk s.range.start).IsValid raw ∧ (String.Pos.Raw.mk s.range.stop).IsValid raw := by
  obtain ⟨before, after, hraw, hstart, hlength⟩ := h.exists_around
  have hfirst := isValid_append before (String.ofList s.text ++ after)
  have hlast := isValid_append (before ++ String.ofList s.text) after
  rw [← String.append_assoc, ← hraw, hstart] at hfirst
  rw [← hraw, String.utf8ByteSize_append, hstart, hlength] at hlast
  exact ⟨hfirst, hlast⟩

end Segment

lemma Trail.Fits.exact {raw : String} {t : Trail} {place : ℕ} (h : t.Fits raw.toList place) :
    (t.scan place).Exact raw := by
  refine ⟨?_, ?_, ?_, ?_, ?_⟩
  · intro r hr
    obtain ⟨s, hs, rfl⟩ := List.mem_map.1 hr
    exact (h.stands s hs).isValid
  · intro r hr
    obtain ⟨s, hs, rfl⟩ := List.mem_map.1 hr
    refine ⟨_, (h.stands s hs).textSlice, ?_⟩
    rw [String.toList_ofList]
    exact (h.stands s hs).1
  · exact List.pairwise_map.2 h.apart
  · intro r hr
    obtain ⟨s, hs, rfl⟩ := List.mem_map.1 hr
    exact h.behind s hs
  · rw [show (t.scan place).total = t.total from rfl, h.total_eq, Trail.scan, List.map_map]
    rfl

/-! ## The whole pass -/

namespace Scan

lemma run_of_le {bytes : List UInt8} {s : Scan} (h : bytes.length ≤ s.place) :
    s.run bytes = .ok (.ok s) := by
  rw [run, if_neg (Nat.not_lt.2 h)]

lemma run_of_fault {bytes : List UInt8} {s : Scan} {fault : Fault} (h : s.place < bytes.length)
    (hround : s.round bytes = .ok (.error fault)) : s.run bytes = .ok (.error fault) := by
  rw [run, if_pos h]
  split
  · next trap htrap => simp [hround] at htrap
  · next fault' hfault => rw [← hround, hfault]
  · next next hnext => simp [hround] at hnext

lemma run_of_next {bytes : List UInt8} {s next : Scan} (h : s.place < bytes.length)
    (hround : s.round bytes = .ok (.ok next)) : s.run bytes = next.run bytes := by
  rw [run, if_pos h]
  split
  · next trap htrap => simp [hround] at htrap
  · next fault hfault => simp [hround] at hfault
  · next next' hnext =>
    obtain rfl := Except.ok.inj (Except.ok.inj (hround.symm.trans hnext))
    rfl

end Scan

/-- The pass comes to what the walk comes to, and ends behind the path. -/
theorem run_scan {raw : String} {front rest : List Char} {t : Trail}
    (hraw : raw.toList = front ++ rest) (h : t.Fits raw.toList (byteLength front))
    (hreached : Scan.Reached raw (t.scan (byteLength front))) :
    ∃ place, (t.scan (byteLength front)).run (Text.utf8 raw.toList) =
        .ok (((segmentsFrom (byteLength front) rest).foldlM Trail.step t).map fun t' =>
          t'.scan place) ∧
      ∀ t', (segmentsFrom (byteLength front) rest).foldlM Trail.step t = .ok t' →
        Scan.Reached raw (t'.scan place) ∧ t'.Fits raw.toList place := by
  obtain ⟨segment, behind, hsegment, hbehind, hrest, happend⟩ := exists_segment front rest
  have hround := Trail.round_scan h (hraw.trans happend) hsegment hbehind
  by_cases hmore : rest = []
  · have hplace : (Text.utf8 raw.toList).length ≤ (t.scan (byteLength front)).place := by
      rw [length_utf8, hraw, hmore, List.append_nil]
      exact le_refl _
    have hfold : (segmentsFrom (byteLength front) []).foldlM Trail.step t = .ok t := by
      rw [segmentsFrom, List.foldlM_cons, Trail.step_of_silent (.inl rfl)]
      rfl
    rw [hmore, hfold, Scan.run_of_le hplace]
    refine ⟨byteLength front, rfl, fun t' ht' => ?_⟩
    obtain rfl := Except.ok.inj ht'
    exact ⟨hreached, h⟩
  · have hlt : (t.scan (byteLength front)).place < (Text.utf8 raw.toList).length := by
      have hpos := byteLength_pos hmore
      rw [length_utf8, hraw, byteLength_append]
      exact Nat.lt_add_of_pos_right hpos
    obtain ⟨tail, hsegments, htail⟩ :=
      exists_segmentsFrom_eq_cons (byteLength front) hsegment hbehind
    rw [hrest, hsegments, List.foldlM_cons]
    cases hstep : t.step ⟨byteLength front, segment⟩ with
    | error fault =>
      rw [hstep] at hround
      rw [Scan.run_of_fault hlt hround]
      exact ⟨0, rfl, fun t' ht' => by simp [bind, Except.bind] at ht'⟩
    | ok t' =>
      rw [hstep, Success.ok_map] at hround
      have hreached' := hreached.round hlt hround
      have hfits := h.step (hraw.trans happend) hsegment hstep
      rw [Scan.run_of_next hlt hround, Success.ok_bind]
      rcases htail with ⟨rfl, rfl⟩ | ⟨more, rfl, rfl⟩
      · have hend : (Text.utf8 raw.toList).length ≤
            (t'.scan (byteLength front + byteLength segment + 1)).place := by
          rw [length_utf8, hraw, happend, List.append_nil, byteLength_append]
          exact Nat.le_succ _
        rw [Scan.run_of_le hend]
        refine ⟨_, rfl, fun u hu => ?_⟩
        obtain rfl := Except.ok.inj hu
        exact ⟨hreached', hfits⟩
      · have hfront : byteLength (front ++ segment ++ ['/']) =
            byteLength front + byteLength segment + 1 := by
          rw [byteLength_append, byteLength_append]
          rfl
        have hraw' : raw.toList = front ++ segment ++ ['/'] ++ more := by
          rw [hraw, happend, List.append_assoc (front ++ segment)]
          rfl
        rw [← hfront] at hfits hreached' ⊢
        exact run_scan hraw' hfits hreached'
termination_by rest.length
decreasing_by
  rw [hrest, List.length_append, List.length_cons]
  omega

/-- The pass over a path comes to what the walk through it comes to. -/
theorem run_start {raw : String} (hrooted : (Text.utf8 raw.toList).head? = some slash) :
    ∃ place, Scan.start.run (Text.utf8 raw.toList) =
        .ok ((walk raw.toList).map fun t => t.scan place) ∧
      ∀ t, walk raw.toList = .ok t →
        Scan.Reached raw (t.scan place) ∧ t.Fits raw.toList place := by
  obtain ⟨rest, hrest⟩ := head?_utf8_eq_slash.1 hrooted
  have hwalk : walk raw.toList = (segmentsFrom 1 rest).foldlM Trail.step Trail.root := by
    rw [hrest, walk]
  have hraw : raw.toList = ['/'] ++ rest := hrest
  rw [hwalk]
  exact run_scan hraw (Trail.fits_root _) (.start hrooted)

/-- Segments that stand in a path are cut out of it and written down. -/
lemma joinRanges_eq {raw : String} {segments : List Segment}
    (h : ∀ s ∈ segments, s.StandsIn raw.toList) :
    joinRanges raw (segments.map Segment.range) =
      .ok (String.ofList (segments.flatMap fun s => '/' :: s.text)) := by
  have hjoin : ∀ canonical : String, (segments.map Segment.range).foldlM (fun canonical r =>
      (textSlice raw r.start r.stop).map fun text => canonical ++ "/" ++ text) canonical =
        .ok (canonical ++ String.ofList (segments.flatMap fun s => '/' :: s.text)) := by
    induction segments with
    | nil =>
      intro canonical
      rw [List.flatMap_nil, String.ofList_nil, String.append_empty]
      rfl
    | cons s segments ih =>
      intro canonical
      rw [List.forall_mem_cons] at h
      have hslash : String.ofList ('/' :: s.text) = "/" ++ String.ofList s.text := by
        rw [← List.singleton_append, String.ofList_append]
      rw [List.map_cons, List.foldlM_cons, h.1.textSlice, Success.ok_map, Success.ok_bind,
        ih h.2, List.flatMap_cons, String.ofList_append, hslash, String.append_assoc,
        String.append_assoc, String.append_assoc]
  exact (hjoin "").trans (by rw [String.empty_append])

lemma byteLength_flatMap (segments : List Segment) :
    byteLength (segments.flatMap fun s => '/' :: s.text) =
      (segments.map Segment.length).sum + segments.length := by
  induction segments with
  | nil => rfl
  | cons s segments ih =>
    have hslash : byteLength ('/' :: s.text) = 1 + s.length := rfl
    rw [List.flatMap_cons, byteLength_append, ih, hslash, List.map_cons, List.sum_cons,
      List.length_cons]
    omega

lemma Trail.text_of_ne_nil {t : Trail} (h : t.segments ≠ []) :
    t.text = t.segments.reverse.flatMap fun s => '/' :: s.text := by
  unfold Trail.text
  split
  · next hnil => exact absurd hnil h
  · rfl

lemma walk_of_not_rooted {cs : List Char} (h : ¬ ∃ rest, cs = '/' :: rest) :
    walk cs = .error .relative := by
  unfold walk
  split
  · next rest => exact absurd ⟨rest, rfl⟩ h
  · rfl

namespace Trail.Fits

variable {raw : String} {t : Trail} {place : ℕ}

/-- The ranges of a pass are joined to the text of its trail. -/
lemma joinRanges_scan (h : t.Fits raw.toList place) (hne : t.segments ≠ []) :
    joinRanges raw (t.scan place).ranges.reverse = .ok (String.ofList t.text) := by
  have hstands : ∀ s ∈ t.segments.reverse, s.StandsIn raw.toList := fun s hs =>
    h.stands s (List.mem_reverse.1 hs)
  rw [show (t.scan place).ranges = t.segments.map Segment.range from rfl, ← List.map_reverse,
    joinRanges_eq hstands, Trail.text_of_ne_nil hne]

/-- The text of a trail has as many bytes as its total says, and a `/` for every segment. -/
lemma byteLength_text (h : t.Fits raw.toList place) (hne : t.segments ≠ []) :
    byteLength t.text = t.total + t.segments.length := by
  rw [Trail.text_of_ne_nil hne, byteLength_flatMap, List.map_reverse, List.sum_reverse,
    List.length_reverse, h.total_eq]

end Trail.Fits

/-- Normalization by places is normalization. -/
theorem normalizeAt_eq (raw : String) : normalizeAt raw = .ok (normalize raw) := by
  unfold normalizeAt normalize
  by_cases hrooted : (Text.utf8 raw.toList).head? = some slash
  · obtain ⟨place, hrun, hwalk⟩ := run_start hrooted
    simp only [ne_eq, hrooted, not_true_eq_false, if_false, hrun, Success.ok_bind]
    cases hresult : walk raw.toList with
    | error fault => rfl
    | ok t =>
      simp only [Success.ok_map]
      by_cases hne : t.segments = []
      · have hranges : (t.scan place).ranges = [] := by rw [Trail.scan, hne, List.map_nil]
        rw [if_pos hranges, Trail.text, hne]
      · have hranges : (t.scan place).ranges ≠ [] := by simpa [Trail.scan] using hne
        rw [if_neg hranges, (hwalk t hresult).2.joinRanges_scan hne, Success.ok_map]
  · have hrelative : walk raw.toList = .error .relative :=
      walk_of_not_rooted fun h => hrooted (head?_utf8_eq_slash.2 h)
    simp only [ne_eq, hrooted, not_false_eq_true, if_true, hrelative]
    rfl

/-- A round from a state of a pass that is not at its end finds no segment to take back, or goes on
within the path, and nothing else can happen to it. -/
lemma Scan.Reached.exists_round {raw : String} {s : Scan} (h : Scan.Reached raw s)
    (hmore : s.place < (Text.utf8 raw.toList).length) :
    ∃ outcome, s.round (Text.utf8 raw.toList) = .ok outcome ∧ ∀ next, outcome = .ok next →
      s.place < next.place ∧ next.place ≤ (Text.utf8 raw.toList).length + 1 := by
  obtain ⟨t, hs, hfits, honward⟩ := h.exists_trail
  rw [length_utf8] at hmore
  obtain ⟨segment, hround, hnext, -⟩ := hfits.exists_round honward hmore
  rw [← hs] at hround
  refine ⟨_, hround, fun next hok => ?_⟩
  rw [hok] at hround
  obtain ⟨t', -, rfl⟩ := Success.map_eq_ok.1 hok
  rw [length_utf8]
  exact ⟨Scan.place_lt_of_round hround, hnext.place_le⟩

/-- The running total of a pass is exact, and its ranges are segments.

At every state that the pass over a path goes through, the ranges start and end where characters do,
hold no `/` and stand apart in their order, and the total is the sum of their lengths.  From a state
before the end there is another round, which goes forward without a trap.  So normalization by
places ends, without a trap, and comes to what normalization comes to; and if that is not `/`, it has
as many bytes as the total and the number of the ranges say, which are no more than those of the
path. -/
theorem running_total_exact (raw : String) :
    (∀ s, Scan.Reached raw s → s.Exact raw ∧ (s.place < (Text.utf8 raw.toList).length →
      ∃ outcome, s.round (Text.utf8 raw.toList) = .ok outcome ∧ ∀ next, outcome = .ok next →
        s.place < next.place ∧ next.place ≤ (Text.utf8 raw.toList).length + 1)) ∧
    normalizeAt raw = .ok (normalize raw) ∧
    ∀ path, normalize raw = .ok path → path ≠ "/" → ∃ s, Scan.Reached raw s ∧
      Scan.start.run (Text.utf8 raw.toList) = .ok (.ok s) ∧
      joinRanges raw s.ranges.reverse = .ok path ∧
      path.utf8ByteSize = s.total + s.ranges.length ∧ path.utf8ByteSize ≤ raw.utf8ByteSize := by
  refine ⟨fun s hs => ⟨?_, hs.exists_round⟩, normalizeAt_eq raw, fun path hpath hne => ?_⟩
  · obtain ⟨t, ht, hfits, -⟩ := hs.exists_trail
    rw [ht]
    exact hfits.exact
  · obtain ⟨t, ht, rfl⟩ := Success.map_eq_ok.1 hpath
    have hrooted : (Text.utf8 raw.toList).head? = some slash := by
      by_contra h
      rw [walk_of_not_rooted fun hr => h (head?_utf8_eq_slash.2 hr)] at ht
      simp at ht
    obtain ⟨place, hrun, hwalk⟩ := run_start hrooted
    obtain ⟨hreached, hfits⟩ := hwalk t ht
    have hsegments : t.segments ≠ [] := by
      intro hnil
      rw [Trail.text, hnil] at hne
      exact hne rfl
    have hsize : (String.ofList t.text).utf8ByteSize = t.total + t.segments.length := by
      rw [utf8ByteSize_ofList, hfits.byteLength_text hsegments]
    refine ⟨t.scan place, hreached, ?_, hfits.joinRanges_scan hsegments, ?_, ?_⟩
    · rw [hrun, ht]
      rfl
    · rw [hsize, Trail.scan, List.length_map]
    · obtain ⟨-, -, -, honward⟩ := hreached.exists_trail
      have hle : place ≤ byteLength raw.toList + 1 := honward.place_le
      have hraw : raw.utf8ByteSize = byteLength raw.toList := by
        rw [← utf8ByteSize_ofList, String.ofList_toList]
      have hroom := hfits.room
      omega

/-- A path with characters of several bytes, one of which is taken back. -/
def accentedPath : String := "/é/./ü//../x/"

/-- The pass over `accentedPath` ends with the ranges of two segments. -/
theorem accented_path_scanned :
    normalizeAt accentedPath = .ok (.ok "/é/x") ∧
      (Scan.Reached accentedPath Scan.start ∧ Scan.start.Exact accentedPath) ∧
      ∃ s, Scan.Reached accentedPath s ∧ joinRanges accentedPath s.ranges.reverse = .ok "/é/x" ∧
        s.total + s.ranges.length = 5 := by
  obtain ⟨hstates, hnormal, hfinal⟩ := running_total_exact accentedPath
  have hpath : normalize accentedPath = .ok "/é/x" := by decide +kernel
  have hstart : Scan.Reached accentedPath Scan.start := .start (by decide +kernel)
  obtain ⟨s, hs, -, hjoin, hsize, -⟩ := hfinal "/é/x" hpath (by decide)
  refine ⟨hnormal.trans (congrArg _ hpath), ⟨hstart, (hstates Scan.start hstart).1⟩, s, hs, hjoin, ?_⟩
  rw [← hsize]
  decide +kernel

end UriRouting.Path
