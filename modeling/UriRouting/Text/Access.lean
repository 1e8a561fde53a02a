/-!
# Checked access

Bytes and texts are read by place.  A place may lie behind the end, a range may end before it
starts, a range of a text may cut a character in two, and a difference of lengths may fall below
zero; each of these ends a program.  The accesses here give the reason for it, a `Trap`, so that a
computation which is written with them succeeds only if none of its accesses is out of order.

Where an access is in order, it gives what the lists and texts themselves give: `byteAt_append`,
`suffix_append`, `slice_append` and `textSlice_append` say so for bytes and texts that are put
together from parts.
-/

namespace UriRouting

/-- Why an access ends a program. -/
inductive Trap where
  /-- A place behind the end. -/
  | outside (place length : Nat)
  /-- A range that ends before it starts. -/
  | backwards (start stop : Nat)
  /-- A place inside a character. -/
  | withinCharacter (place : Nat)
  /-- A difference below zero. -/
  | belowZero (total less : Nat)
  deriving DecidableEq, Repr

namespace Checked

/-- The byte at a place. -/
def byteAt (bytes : List UInt8) (place : Nat) : Except Trap UInt8 :=
  match bytes[place]? with
  | some b => .ok b
  | none => .error (.outside place bytes.length)

/-- The bytes from a place on. -/
def suffix (bytes : List UInt8) (start : Nat) : Except Trap (List UInt8) :=
  if bytes.length < start then .error (.outside start bytes.length)
  else .ok (bytes.drop start)

/-- The bytes from one place up to another. -/
def slice (bytes : List UInt8) (start stop : Nat) : Except Trap (List UInt8) :=
  if stop < start then .error (.backwards start stop)
  else if bytes.length < stop then .error (.outside stop bytes.length)
  else .ok ((bytes.take stop).drop start)

/-- The difference of two lengths. -/
def less (total part : Nat) : Except Trap Nat :=
  if total < part then .error (.belowZero total part) else .ok (total - part)

/-- The place of the first `mark` from a place on, or the end if there is none. -/
def stopBefore (bytes : List UInt8) (mark : UInt8) (place : Nat) : Except Trap Nat :=
  (suffix bytes place).map fun rest =>
    match rest.idxOf? mark with
    | none => bytes.length
    | some i => place + i

/-- The text from one place up to another, both counted in bytes. -/
def textSlice (text : String) (start stop : Nat) : Except Trap String :=
  if stop < start then .error (.backwards start stop)
  else if text.utf8ByteSize < stop then .error (.outside stop text.utf8ByteSize)
  else if hstart : (String.Pos.Raw.mk start).IsValid text then
    if hstop : (String.Pos.Raw.mk stop).IsValid text then
      .ok (String.extract (s := text) ⟨⟨start⟩, hstart⟩ ⟨⟨stop⟩, hstop⟩)
    else .error (.withinCharacter stop)
  else .error (.withinCharacter start)

/-! ## Accesses that are in order -/

theorem byteAt_append (front : List UInt8) (b : UInt8) (rest : List UInt8) :
    byteAt (front ++ b :: rest) front.length = .ok b := by
  simp [byteAt]

theorem suffix_eq_ok {bytes : List UInt8} {start : Nat} {rest : List UInt8} :
    suffix bytes start = .ok rest ↔ start ≤ bytes.length ∧ rest = bytes.drop start := by
  unfold suffix
  split
  · next h => simp [Nat.not_le.2 h]
  · next h => simp [Nat.not_lt.1 h, eq_comm]

theorem suffix_append (front rest : List UInt8) : suffix (front ++ rest) front.length = .ok rest :=
  suffix_eq_ok.2 ⟨by simp, by simp⟩

theorem slice_append (front middle rest : List UInt8) :
    slice (front ++ middle ++ rest) front.length (front.length + middle.length) = .ok middle := by
  have horder : ¬ front.length + middle.length < front.length := by omega
  have hinside : ¬ (front ++ middle ++ rest).length < front.length + middle.length := by
    simp only [List.length_append]
    omega
  rw [slice, if_neg horder, if_neg hinside, ← List.length_append, List.take_left, List.drop_left]

/-- Where a byte is found that does not stand in front of that. -/
theorem idxOf?_append {b : UInt8} {front : List UInt8} (h : b ∉ front) (rest : List UInt8) :
    (front ++ b :: rest).idxOf? b = some front.length := by
  induction front with
  | nil => simp [List.idxOf?_cons]
  | cons c front ih =>
    simp only [List.mem_cons, not_or] at h
    simp [List.idxOf?_cons, Ne.symm h.1, ih h.2]

theorem stopBefore_append {front segment : List UInt8} {mark : UInt8} (h : mark ∉ segment)
    (rest : List UInt8) : stopBefore (front ++ (segment ++ mark :: rest)) mark front.length =
      .ok (front.length + segment.length) := by
  rw [stopBefore, suffix_append, Except.map, idxOf?_append h]

theorem stopBefore_end {front rest : List UInt8} {mark : UInt8} (h : mark ∉ rest) :
    stopBefore (front ++ rest) mark front.length = .ok (front.length + rest.length) := by
  rw [stopBefore, suffix_append, Except.map, List.idxOf?_eq_none_iff.2 h, List.length_append]

theorem less_of_le {total part : Nat} (h : part ≤ total) : less total part = .ok (total - part) :=
  if_neg (Nat.not_lt.2 h)

/-- A place behind some text is on the boundary of a character. -/
theorem isValid_append (before after : String) :
    (String.Pos.Raw.mk before.utf8ByteSize).IsValid (before ++ after) :=
  String.Pos.Raw.isValid_iff_exists_append.2 ⟨before, after, rfl, rfl⟩

theorem textSlice_append (before text after : String) :
    textSlice (before ++ text ++ after) before.utf8ByteSize
      (before.utf8ByteSize + text.utf8ByteSize) = .ok text := by
  have horder : ¬ before.utf8ByteSize + text.utf8ByteSize < before.utf8ByteSize := by omega
  have hinside : ¬ (before ++ text ++ after).utf8ByteSize <
      before.utf8ByteSize + text.utf8ByteSize := by
    simp only [String.utf8ByteSize_append]
    omega
  have hstart : (String.Pos.Raw.mk before.utf8ByteSize).IsValid (before ++ text ++ after) := by
    rw [String.append_assoc]
    exact isValid_append before (text ++ after)
  have hstop : (String.Pos.Raw.mk (before.utf8ByteSize + text.utf8ByteSize)).IsValid
      (before ++ text ++ after) := by
    rw [← String.utf8ByteSize_append]
    exact isValid_append (before ++ text) after
  have hbytes : (before ++ text ++ after).toByteArray.extract before.utf8ByteSize
      (before.utf8ByteSize + text.utf8ByteSize) = text.toByteArray := by
    rw [String.append_assoc, String.toByteArray_append, String.toByteArray_append]
    exact (ByteArray.extract_append_size_add' (i := 0) (j := text.utf8ByteSize) rfl).trans
      (ByteArray.extract_append_eq_left rfl)
  rw [textSlice, if_neg horder, if_neg hinside, dif_pos hstart, dif_pos hstop, Except.ok.injEq,
    ← String.toByteArray_inj, String.toByteArray_extract]
  exact hbytes

end Checked

end UriRouting
