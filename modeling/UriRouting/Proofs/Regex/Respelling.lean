import UriRouting.Proofs.Regex.Unanchored

/-!
# Chains with and without backslashes

Outside of classes and of verbose mode four of the characters that are escaped are no operators:
`#`, `&`, `-` and `~`.  A chain whose characters are no operators (`Link.isPlain`) can be written
with backslashes or without (`Link.written`), and the reader takes either text for the same
expression, or refuses both (`Link.ofText?_written_congr`).  A character is read in one round,
whether there is a backslash in front of it or not, and a hole is written in one way only; whether
it can be read depends on the names before it, which both texts share.
-/

namespace UriRouting.Regex.Link

/-- A character that is no operator, or a hole whose name does not end early. -/
def isPlain : Link → Bool
  | char c => !isOperator c
  | hole name => !name.contains '>'

/-! ## A link -/

section Link

variable {fuel : ℕ} {s t : ReaderState} {link : Link} {rest : List Char}

lemma not_mem_of_isPlain (h : link.isPlain = true) :
    ∀ name, link = .hole name → '>' ∉ name := by
  rintro name rfl
  simpa [isPlain] using h

lemma not_isOperator_of_isPlain {c : Char} {escaped : Bool} (h : (char c).isPlain = true) :
    isOperator c = true → escaped = true := by
  intro hc
  simp [isPlain, hc] at h

/-- What stands behind a plain link is read after it. -/
lemma readAll_written {escaped : Bool} (hflags : s.flags = {}) (hplain : link.isPlain = true)
    (h : readAll fuel s (link.written escaped ++ rest) = some t) :
    ∃ fuel', readAll fuel' (read s link) rest = some t := by
  cases link with
  | char c =>
    cases fuel with
    | zero => simp [readAll] at h
    | succ fuel =>
      rw [readAll_char fuel hflags (not_isOperator_of_isPlain hplain)] at h
      exact ⟨fuel, h⟩
  | hole name => exact readAll_source hflags (not_mem_of_isPlain hplain) h

/-- A plain link that can be read can be read as it is written the other way. -/
lemma readAll_rewritten {escaped : Bool} (hflags : s.flags = {}) (hplain : link.isPlain = true)
    (h : readAll fuel s (link.written escaped ++ rest) = some t) (escaped' : Bool)
    {fuel' : ℕ} {t' : ReaderState} {rest' : List Char}
    (hrest : readAll fuel' (read s link) rest' = some t') :
    readAll (fuel' + (link.written escaped').length) s (link.written escaped' ++ rest') =
      some t' := by
  cases link with
  | char c =>
    have hround : readAll (fuel' + 1) s ((char c).written escaped' ++ rest') = some t' := by
      rw [readAll_char fuel' hflags (not_isOperator_of_isPlain hplain)]
      exact hrest
    exact readAll_mono hround (Nat.add_le_add_left (length_written_pos escaped' (char c)) fuel')
  | hole name => exact readAll_append hflags hflags rfl (not_mem_of_isPlain hplain) h hrest

end Link

/-! ## A chain -/

variable {links : List Link}

/-- What stands behind a chain of plain links is read after it, and the chain can be read in front
of it as it is written the other way. -/
lemma readAll_rewritten_chain {fuel : ℕ} {s t : ReaderState} {rest : List Char} {escaped : Bool}
    (hflags : s.flags = {}) (hplain : ∀ link ∈ links, link.isPlain = true)
    (h : readAll fuel s (links.flatMap (written escaped) ++ rest) = some t) (escaped' : Bool) :
    (∃ fuel', readAll fuel' (links.foldl read s) rest = some t) ∧
      ∀ fuel', readAll fuel' (links.foldl read s) rest = some t →
        readAll (fuel' + (links.flatMap (written escaped')).length) s
          (links.flatMap (written escaped') ++ rest) = some t := by
  induction links generalizing fuel s with
  | nil => exact ⟨⟨fuel, h⟩, fun fuel' h' => h'⟩
  | cons link links ih =>
    obtain ⟨hlink, hlinks⟩ := List.forall_mem_cons.1 hplain
    rw [List.flatMap_cons, List.append_assoc] at h
    obtain ⟨fuel₁, hbehind⟩ := readAll_written hflags hlink h
    obtain ⟨hread, hrewritten⟩ := ih ((flags_read s link).trans hflags) hlinks hbehind
    refine ⟨hread, fun fuel' h' => ?_⟩
    have hlink' := readAll_rewritten hflags hlink h escaped' (hrewritten fuel' h')
    rw [List.flatMap_cons, List.append_assoc, List.length_append, Nat.add_comm (List.length _),
      ← Nat.add_assoc]
    exact hlink'

/-- The anchor at the end takes one round, and one more sees that the text has ended. -/
lemma readAll_dollar {fuel : ℕ} {s t : ReaderState} (hflags : s.flags = {})
    (h : readAll fuel s ['$'] = some t) : readAll 2 s ['$'] = some t := by
  obtain ⟨fuel', h⟩ := readAll_eq_some hflags h
  obtain ⟨r, hsign, h⟩ := Option.bind_eq_some_iff.1 h
  obtain rfl := Option.some.inj hsign
  obtain rfl := readAll_nil (s := s.push _) hflags h
  rw [readAll_cons 1 hflags, hsign, Option.bind_some]
  exact readAll_end 0 _

/-- A chain of plain links that is read between anchors is read as it is written the other way. -/
lemma ofText?_rewritten {escaped : Bool} (hplain : ∀ link ∈ links, link.isPlain = true) {x : Expr}
    (h : Expr.ofText? ('^' :: (links.flatMap (written escaped) ++ ['$'])) = some x)
    (escaped' : Bool) :
    Expr.ofText? ('^' :: (links.flatMap (written escaped') ++ ['$'])) = some x := by
  obtain ⟨t, ht, hfinish⟩ := Option.bind_eq_some_iff.1 h
  obtain ⟨fuel, ht⟩ := readAll_eq_some rfl ht
  have hbody : readAll fuel (ReaderState.start.push (.leaf (.look .textStart)))
      (links.flatMap (written escaped) ++ ['$']) = some t := ht
  obtain ⟨⟨fuel₁, hend⟩, hrewritten⟩ :=
    readAll_rewritten_chain (s := ReaderState.start.push _) rfl hplain hbody escaped'
  have hlast := readAll_dollar (flags_foldl_read _ links) hend
  have hrounds := hrewritten 2 hlast
  refine Option.bind_eq_some_iff.2 ⟨t, ?_, hfinish⟩
  rw [readAll_cons _ rfl]
  refine readAll_mono hrounds ?_
  rw [List.length_cons, List.length_append, List.length_singleton]
  omega

/-- Backslashes do not change what a chain of plain links is read as. -/
theorem ofText?_written_congr (hplain : ∀ link ∈ links, link.isPlain = true)
    (escaped escaped' : Bool) :
    Expr.ofText? ('^' :: (links.flatMap (written escaped) ++ ['$'])) =
      Expr.ofText? ('^' :: (links.flatMap (written escaped') ++ ['$'])) := by
  apply Option.ext
  intro x
  exact ⟨fun h => ofText?_rewritten hplain h escaped', fun h => ofText?_rewritten hplain h escaped⟩

end UriRouting.Regex.Link
