import UriRouting.Proofs.Regex.Meaning
import UriRouting.Regex.Expr.Reader

/-!
# Reading in front of a sign more

What the reader takes from the front of a text it also takes if a `$` is put behind the text.  It
looks ahead in many places, but for other signs, and it stops for the end of the text in no place
where it would go on for a `$`.  There is one exception: in verbose mode the text may end in a
comment, and then the sign belongs to the comment.  `Flags.Sees` leaves it out.
-/

namespace UriRouting.Regex

open Unicode

/-! ## Blanks -/

namespace Flags

/-- What is put behind a text does not fall into a comment, be it because there is text left. -/
def Sees (f : Flags) (rest : List Char) : Prop := rest ≠ [] ∨ f.verbose = false

variable {f : Flags} {cs rest : List Char}

lemma Sees.of_cons (f : Flags) (c : Char) (cs : List Char) : f.Sees (c :: cs) :=
  .inl (List.cons_ne_nil c cs)

lemma Sees.of_imp (h : f.Sees rest) (himp : cs = [] → rest = []) : f.Sees cs := h.imp_left (mt himp)

lemma dropBlanks_append {inComment : Bool} (h : dropBlanks inComment cs ≠ []) :
    dropBlanks inComment (cs ++ ['$']) = dropBlanks inComment cs ++ ['$'] := by
  induction cs generalizing inComment with
  | nil => exact absurd rfl h
  | cons c cs ih =>
    simp only [List.cons_append, dropBlanks] at h ⊢
    split
    · next hcomment =>
      rw [if_pos hcomment] at h
      exact ih h
    · next hcomment =>
      rw [if_neg hcomment] at h
      split
      · next hspace =>
        rw [if_pos hspace] at h
        exact ih h
      · next hspace =>
        rw [if_neg hspace] at h
        split
        · next hsign =>
          rw [if_pos hsign] at h
          exact ih h
        · rfl

lemma skip_append (h : f.Sees (f.skip cs)) : f.skip (cs ++ ['$']) = f.skip cs ++ ['$'] := by
  unfold skip at h ⊢
  split
  · next hverbose =>
    rw [if_pos hverbose] at h
    exact dropBlanks_append (h.resolve_right (by simp [hverbose]))
  · rfl

lemma skip_nil (f : Flags) : f.skip [] = [] := by
  unfold skip
  split <;> rfl

/-- The items of a setting end with a sign of their own. -/
lemma readItems_append {seen : List FlagItem} {r : List FlagItem × Char × List Char}
    (h : readItems seen cs = some r) :
    readItems seen (cs ++ ['$']) = some (r.1, r.2.1, r.2.2 ++ ['$']) := by
  induction cs generalizing seen with
  | nil => simp [readItems] at h
  | cons c cs ih =>
    simp only [List.cons_append, readItems] at h ⊢
    split
    · next hend =>
      rw [if_pos hend] at h
      split
      · next hseen => simp [hseen] at h
      · next hseen =>
        rw [if_neg hseen, Option.some.injEq] at h
        rw [← h]
    · next hend =>
      rw [if_neg hend] at h
      cases hitem : FlagItem.ofChar? c with
      | none => simp [hitem] at h
      | some item =>
        simp only [hitem] at h ⊢
        split
        · next hmem =>
          rw [if_pos hmem] at h
          simp at h
        · next hmem =>
          rw [if_neg hmem] at h
          exact ih h

end Flags

/-! ## Escapes -/

section

variable {f : Flags} {cs rest : List Char} {fuel : ℕ}

lemma readHexDigits_nil {value count v : ℕ} (h : readHexDigits f value count [] = some (v, rest)) :
    rest = [] := by
  cases count with
  | zero => exact (Prod.mk.inj (Option.some.inj h)).2.symm
  | succ count => simp [readHexDigits] at h

lemma readHexDigits_append {value count v : ℕ} (hrest : f.Sees rest)
    (h : readHexDigits f value count cs = some (v, rest)) :
    readHexDigits f value count (cs ++ ['$']) = some (v, rest ++ ['$']) := by
  induction count generalizing value cs with
  | zero =>
    obtain ⟨rfl, rfl⟩ := Prod.mk.inj (Option.some.inj h)
    rfl
  | succ count ih =>
    cases cs with
    | nil => simp [readHexDigits] at h
    | cons c cs =>
      obtain ⟨d, hd, h⟩ := Option.bind_eq_some_iff.1 h
      have hskip : f.Sees (f.skip cs) := hrest.of_imp fun hnil => by
        rw [hnil] at h
        exact readHexDigits_nil h
      rw [List.cons_append, readHexDigits, hd, Option.bind_some, f.skip_append hskip]
      exact ih h

lemma readHexBraced_append {value : Option ℕ} {v : ℕ} (hrest : f.Sees rest)
    (h : readHexBraced f value fuel cs = some (v, rest)) :
    readHexBraced f value (fuel + 1) (cs ++ ['$']) = some (v, rest ++ ['$']) := by
  induction fuel generalizing value cs with
  | zero => simp [readHexBraced] at h
  | succ fuel ih =>
    cases cs with
    | nil => simp [readHexBraced] at h
    | cons c cs =>
      rw [readHexBraced] at h
      rw [List.cons_append, readHexBraced]
      split
      · next hend =>
        rw [if_pos hend, Option.map_eq_some_iff] at h
        obtain ⟨v', rfl, h⟩ := h
        obtain ⟨rfl, rfl⟩ := Prod.mk.inj h
        rw [Option.map_some, f.skip_append hrest]
      · next hend =>
        rw [if_neg hend] at h
        obtain ⟨d, hd, h⟩ := Option.bind_eq_some_iff.1 h
        have hskip : f.Sees (f.skip cs) := .inl fun hnil => by
          rw [hnil] at h
          cases fuel <;> simp [readHexBraced] at h
        rw [hd, Option.bind_some, f.skip_append hskip]
        exact ih h

/-- The sign behind a text is not taken for another one at its front. -/
lemma append_ne_cons {c : Char} (hc : c ≠ '$') (h : ∀ rest, cs = c :: rest → False)
    (rest : List Char) : cs ++ ['$'] ≠ c :: rest := by
  intro heq
  cases cs with
  | nil => exact hc (List.cons.inj heq).1.symm
  | cons d cs => exact h cs (by rw [(List.cons.inj heq).1])

lemma readHex_append {count : ℕ} {a : Atom} (hrest : f.Sees rest)
    (h : readHex f count cs = some (a, rest)) :
    readHex f count (cs ++ ['$']) = some (a, rest ++ ['$']) := by
  have hskip : f.Sees (f.skip cs) := hrest.of_imp fun hnil => by
    simp only [readHex, hnil] at h
    obtain ⟨⟨v, rest'⟩, hv, h⟩ := Option.bind_eq_some_iff.1 h
    obtain ⟨c, -, h⟩ := Option.bind_eq_some_iff.1 h
    obtain ⟨-, rfl⟩ := Prod.mk.inj (Option.some.inj h)
    exact readHexDigits_nil hv
  unfold readHex at h ⊢
  rw [f.skip_append hskip]
  split at h
  · next rest' heq =>
    obtain ⟨⟨v, rest''⟩, hv, h⟩ := Option.bind_eq_some_iff.1 h
    obtain ⟨c, hc, h⟩ := Option.bind_eq_some_iff.1 h
    obtain ⟨rfl, rfl⟩ := Prod.mk.inj (Option.some.inj h)
    have hskip' : f.Sees (f.skip rest') := .inl fun hnil => by
      rw [hnil] at hv
      simp [readHexBraced] at hv
    have hv' := readHexBraced_append hrest hv
    simp only [heq, List.cons_append, f.skip_append hskip', List.length_append,
      List.length_singleton]
    simp only [hv', hc, Option.bind_eq_bind, Option.bind_some]
    rfl
  · next hne =>
    obtain ⟨⟨v, rest'⟩, hv, h⟩ := Option.bind_eq_some_iff.1 h
    obtain ⟨c, hc, h⟩ := Option.bind_eq_some_iff.1 h
    obtain ⟨rfl, rfl⟩ := Prod.mk.inj (Option.some.inj h)
    split
    · next heq => exact absurd heq (append_ne_cons (by decide) hne _)
    · simp only [readHexDigits_append hrest hv, hc, Option.bind_eq_bind, Option.bind_some]
      rfl

lemma readBraced_append {text v : List Char} (h : readBraced f text fuel cs = some (v, rest)) :
    readBraced f text (fuel + 1) (cs ++ ['$']) = some (v, rest ++ ['$']) := by
  induction fuel generalizing text cs with
  | zero => simp [readBraced] at h
  | succ fuel ih =>
    cases cs with
    | nil => simp [readBraced] at h
    | cons c cs =>
      rw [readBraced] at h
      rw [List.cons_append, readBraced]
      split
      · next hend =>
        rw [if_pos hend] at h
        obtain ⟨rfl, rfl⟩ := Prod.mk.inj (Option.some.inj h)
        rfl
      · next hend =>
        rw [if_neg hend] at h
        have hskip : f.Sees (f.skip cs) := .inl fun hnil => by
          rw [hnil] at h
          cases fuel <;> simp [readBraced] at h
        rw [f.skip_append hskip]
        exact ih h

lemma readProperty_append {negated : Bool} {a : Atom} (hrest : f.Sees rest)
    (h : readProperty f negated cs = some (a, rest)) :
    readProperty f negated (cs ++ ['$']) = some (a, rest ++ ['$']) := by
  have hskip : f.Sees (f.skip cs) := .inl fun hnil => by
    simp [readProperty, hnil] at h
  unfold readProperty at h ⊢
  rw [f.skip_append hskip]
  split at h
  · simp at h
  · simp at h
  · next rest' heq =>
    obtain ⟨⟨text, rest''⟩, htext, h⟩ := Option.bind_eq_some_iff.1 h
    have hskip' : f.Sees (f.skip rest') := .inl fun hnil => by
      rw [hnil] at htext
      simp [readBraced] at htext
    simp only [heq, List.cons_append, f.skip_append hskip', List.length_append,
      List.length_singleton, readBraced_append htext, Option.bind_eq_bind, Option.bind_some]
    obtain ⟨b, hb, h⟩ := Option.bind_eq_some_iff.1 h
    obtain ⟨rfl, rfl⟩ := Prod.mk.inj (Option.some.inj h)
    exact Option.bind_eq_some_iff.2 ⟨b, hb, rfl⟩
  · next c rest' hne hne' heq =>
    obtain ⟨b, hb, h⟩ := Option.bind_eq_some_iff.1 h
    obtain ⟨rfl, rfl⟩ := Prod.mk.inj (Option.some.inj h)
    rw [heq, List.cons_append]
    simp only [hb, f.skip_append hrest, Option.bind_eq_bind, Option.bind_some]
    rfl

lemma readBoundaryName_append {name : List Char} {v : String}
    (h : readBoundaryName f name fuel cs = some (v, rest)) :
    readBoundaryName f name (fuel + 1) (cs ++ ['$']) = some (v, rest ++ ['$']) := by
  induction fuel generalizing name cs with
  | zero => simp [readBoundaryName] at h
  | succ fuel ih =>
    cases cs with
    | nil => simp [readBoundaryName] at h
    | cons c cs =>
      rw [readBoundaryName] at h
      rw [List.cons_append, readBoundaryName]
      split
      · next hletter =>
        rw [if_pos hletter] at h
        have hskip : f.Sees (f.skip cs) := .inl fun hnil => by
          rw [hnil] at h
          cases fuel <;> simp [readBoundaryName] at h
        rw [f.skip_append hskip]
        exact ih h
      · next hletter =>
        rw [if_neg hletter] at h
        split
        · next hend =>
          rw [if_pos hend] at h
          obtain ⟨rfl, rfl⟩ := Prod.mk.inj (Option.some.inj h)
          rfl
        · next hend =>
          rw [if_neg hend] at h
          simp at h

lemma readBoundary_append {a : Atom} (h : readBoundary f cs = some (a, rest)) :
    readBoundary f (cs ++ ['$']) = some (a, rest ++ ['$']) := by
  unfold readBoundary at h ⊢
  split at h
  · next rest' =>
    cases hskip : f.skip rest' with
    | nil => simp [hskip] at h
    | cons c more =>
      have hsees : f.Sees (f.skip rest') := hskip ▸ .of_cons f c more
      simp only [hskip] at h
      simp only [List.cons_append, f.skip_append hsees, hskip]
      split
      · next hletter =>
        rw [if_pos hletter] at h
        cases hname : readBoundaryName f [] (more.length + 2) (c :: more) with
        | none => simp [hname] at h
        | some r =>
          have hname' := readBoundaryName_append hname
          rw [List.cons_append] at hname'
          rw [List.length_append, List.length_singleton, Nat.add_right_comm, hname']
          obtain ⟨name, rest''⟩ := r
          simp only [hname] at h
          split at h
          iterate 4
            · next heq =>
              obtain ⟨rfl, rfl⟩ := Prod.mk.inj (Option.some.inj heq)
              obtain ⟨rfl, rfl⟩ := Prod.mk.inj (Option.some.inj h)
              rfl
          · simp at h
      · next hletter =>
        rw [if_neg hletter] at h
        obtain ⟨rfl, rfl⟩ := Prod.mk.inj (Option.some.inj h)
        rfl
  · next hne =>
    obtain ⟨rfl, rfl⟩ := Prod.mk.inj (Option.some.inj h)
    split
    · next heq => exact absurd heq (append_ne_cons (by decide) hne _)
    · rfl

lemma atom_append {a b : Atom} (h : some (b, cs) = some (a, rest)) :
    some (b, cs ++ ['$']) = some (a, rest ++ ['$']) := by
  obtain ⟨rfl, rfl⟩ := Prod.mk.inj (Option.some.inj h)
  rfl

lemma map_append {α β : Type} (g : α → β) {o : Option α} {v : β}
    (h : (o.map fun x => (g x, cs)) = some (v, rest)) :
    (o.map fun x => (g x, cs ++ ['$'])) = some (v, rest ++ ['$']) := by
  cases o with
  | none => simp at h
  | some x =>
    obtain ⟨rfl, rfl⟩ := Prod.mk.inj (Option.some.inj h)
    rfl

lemma readEscape_append {a : Atom} (hrest : f.Sees rest) (h : readEscape f cs = some (a, rest)) :
    readEscape f (cs ++ ['$']) = some (a, rest ++ ['$']) := by
  cases cs with
  | nil => simp [readEscape] at h
  | cons c cs =>
    unfold readEscape at h ⊢
    by_cases hescape : isEscapable c = true
    · simp only [if_pos hescape] at h
      simp only [List.cons_append, if_pos hescape]
      exact atom_append h
    · simp only [if_neg hescape] at h
      simp only [List.cons_append, if_neg hescape]
      split at h
      iterate 3 exact readHex_append hrest h
      iterate 2 exact readProperty_append hrest h
      iterate 6 exact map_append Atom.cls h
      iterate 8 exact atom_append h
      · exact readBoundary_append h
      iterate 3 exact atom_append h
      · simp at h

/-! ## Brackets -/

lemma append_ne_cons_cons {c d : Char} (hc : c ≠ '$') (hd : d ≠ '$')
    (h : ∀ rest, cs = c :: d :: rest → False) (rest : List Char) :
    cs ++ ['$'] ≠ c :: d :: rest := by
  cases cs with
  | nil => exact append_ne_cons hc (by simp) _
  | cons b cs =>
    rw [List.cons_append, ne_eq, List.cons.injEq, not_and]
    rintro rfl
    exact append_ne_cons hd (fun rest hrest => h rest (congrArg _ hrest)) rest

lemma readHyphens_append {items v : List ClassPiece}
    (h : readHyphens f items fuel cs = some (v, rest)) :
    rest ≠ [] ∧ readHyphens f items (fuel + 1) (cs ++ ['$']) = some (v, rest ++ ['$']) := by
  induction fuel generalizing items cs with
  | zero => simp [readHyphens] at h
  | succ fuel ih =>
    unfold readHyphens at h
    split at h
    · simp at h
    · next rest' =>
      have hskip : f.Sees (f.skip rest') := .inl fun hnil => by
        rw [hnil] at h
        cases fuel <;> simp [readHyphens] at h
      obtain ⟨hne, hread⟩ := ih h
      refine ⟨hne, ?_⟩
      rw [List.cons_append, readHyphens, f.skip_append hskip]
      exact hread
    · next hnil hhyphen =>
      obtain ⟨rfl, rfl⟩ := Prod.mk.inj (Option.some.inj h)
      refine ⟨hnil, ?_⟩
      unfold readHyphens
      split
      · next heq => simp at heq
      · next heq => exact absurd heq (append_ne_cons (by decide) hhyphen _)
      · rfl

lemma readListStart_append {negated : Bool} {b : Bracket}
    (h : readListStart f negated cs = some (b, rest)) :
    rest ≠ [] ∧ readListStart f negated (cs ++ ['$']) = some (b, rest ++ ['$']) := by
  unfold readListStart at h ⊢
  cases hlist : readHyphens f [] (cs.length + 1) cs with
  | none => simp [hlist] at h
  | some r =>
    obtain ⟨items, rest'⟩ := r
    obtain ⟨hne, hread⟩ := readHyphens_append hlist
    simp only [hlist] at h
    simp only [List.length_append, List.length_singleton, hread]
    split at h
    · simp at h
    · next rest'' heq =>
      obtain ⟨rfl, rfl⟩ := Prod.mk.inj (Option.some.inj heq)
      cases hskip : f.skip rest'' with
      | nil => simp [hskip] at h
      | cons c more =>
        have hsees : f.Sees (f.skip rest'') := hskip ▸ .of_cons f c more
        simp only [hskip] at h
        obtain ⟨rfl, rfl⟩ := Prod.mk.inj (Option.some.inj h)
        refine ⟨List.cons_ne_nil c more, ?_⟩
        simp only [List.cons_append, f.skip_append hsees, hskip]
    · next hbracket heq =>
      obtain ⟨rfl, rfl⟩ := Prod.mk.inj (Option.some.inj heq)
      obtain ⟨rfl, rfl⟩ := Prod.mk.inj (Option.some.inj h)
      refine ⟨hne, ?_⟩
      split
      · next heq => simp at heq
      · next heq =>
        obtain ⟨rfl, htext⟩ := Prod.mk.inj (Option.some.inj heq)
        exact absurd htext (append_ne_cons (by decide) (fun rest h => hbracket rest rfl h) _)
      · next heq =>
        obtain ⟨rfl, rfl⟩ := Prod.mk.inj (Option.some.inj heq)
        rfl

lemma readOpening_append {b : Bracket} (h : readOpening f cs = some (b, rest)) :
    rest ≠ [] ∧ readOpening f (cs ++ ['$']) = some (b, rest ++ ['$']) := by
  have hne : (readNegation f cs).2 ≠ [] := fun hnil => by
    simp [readOpening, hnil, readListStart, readHyphens] at h
  have hnegation : readNegation f (cs ++ ['$']) =
      ((readNegation f cs).1, (readNegation f cs).2 ++ ['$']) := by
    unfold readNegation at hne ⊢
    split at hne
    · next rest' heq =>
      have hsees : f.Sees (f.skip cs) := heq ▸ .of_cons f '^' rest'
      rw [f.skip_append hsees, heq, List.cons_append]
      simp only [f.skip_append (.inl hne)]
    · next hcaret =>
      rw [f.skip_append (.inl hne)]
      split
      · next heq => exact absurd heq (append_ne_cons (by decide) hcaret _)
      · rfl
  unfold readOpening at h ⊢
  rw [hnegation]
  exact readListStart_append h

lemma readAsciiName_append (f : Flags) (negated : Bool) (cs : List Char) :
    readAsciiName f negated (cs ++ ['$']) =
      (readAsciiName f negated cs).map fun r => (r.1, r.2 ++ ['$']) := by
  unfold readAsciiName
  by_cases hcolon : (cs.takeWhile (· != ':')).length = cs.length
  · -- without a colon the sign falls into the name, and no name is found
    have hname : (cs ++ ['$']).takeWhile (· != ':') = cs ++ ['$'] := by
      rw [List.takeWhile_append, if_pos hcolon]
      rfl
    simp only [hname, hcolon, List.drop_length]
    rfl
  · have hname : (cs ++ ['$']).takeWhile (· != ':') = cs.takeWhile (· != ':') := by
      rw [List.takeWhile_append, if_neg hcolon]
    simp only [hname, List.drop_append_of_le_length (List.takeWhile_sublist _).length_le]
    generalize cs.drop (cs.takeWhile (· != ':')).length = tail
    split
    · next heq =>
      split
      · cases heq
        cases CharClass.asciiNamed? (String.ofList (cs.takeWhile (· != ':'))) <;> rfl
      · next hend => exact absurd heq (append_ne_cons_cons (by decide) (by decide) hend _)
    · next hend =>
      split
      · exact absurd rfl (hend _)
      · rfl

lemma readAsciiClass_append (f : Flags) (cs : List Char) :
    readAsciiClass f (cs ++ ['$']) =
      (readAsciiClass f cs).map fun r => (r.1, r.2 ++ ['$']) := by
  cases cs with
  | nil => rfl
  | cons c cs =>
    by_cases hc : c = ':'
    · subst hc
      cases cs with
      | nil => exact readAsciiName_append f false []
      | cons d cs =>
        by_cases hd : d = '^'
        · subst hd
          exact readAsciiName_append f true cs
        · have hname := readAsciiName_append f false (d :: cs)
          unfold readAsciiClass
          simpa [hd] using hname
    · unfold readAsciiClass
      simp [hc]

lemma readItem_append {a : Atom} (hrest : f.Sees rest) (h : readItem f cs = some (a, rest)) :
    readItem f (cs ++ ['$']) = some (a, rest ++ ['$']) := by
  unfold readItem at h
  split at h
  · simp at h
  · exact readEscape_append hrest h
  · next c rest' hne =>
    rw [List.cons_append]
    unfold readItem
    split
    · next heq => simp at heq
    · next heq => exact absurd (List.cons.inj heq).1 hne
    · next heq =>
      obtain ⟨rfl, rfl⟩ := List.cons.inj heq
      exact atom_append h

lemma readRange_append {a : CharClass} (hrest : f.Sees rest)
    (h : readRange f cs = some (a, rest)) :
    readRange f (cs ++ ['$']) = some (a, rest ++ ['$']) := by
  obtain ⟨⟨first, behind⟩, hfirst, h⟩ := Option.bind_eq_some_iff.1 h
  have hskip : f.skip behind ≠ [] := fun hnil => by simp [hnil] at h
  have hbehind : f.Sees behind := .inl fun hnil => hskip (by rw [hnil, f.skip_nil])
  refine Option.bind_eq_some_iff.2 ⟨_, readItem_append hbehind hfirst, ?_⟩
  simp only [f.skip_append (.inl hskip)]
  simp only at h
  split at h
  · simp at h
  · next more heq =>
    have hmore : f.skip more ≠ [] := fun hnil => by simp [hnil] at h
    simp only [heq, List.cons_append, f.skip_append (.inl hmore)]
    split at h
    · simp at h
    · next heq =>
      rw [heq, List.cons_append]
      exact map_append id h
    · next heq =>
      rw [heq, List.cons_append]
      exact map_append id h
    · next hbracket hhyphen =>
      obtain ⟨⟨last, rest'⟩, hlast, h⟩ := Option.bind_eq_some_iff.1 h
      obtain ⟨low, hlow, h⟩ := Option.bind_eq_some_iff.1 h
      obtain ⟨high, hhigh, h⟩ := Option.bind_eq_some_iff.1 h
      split at h
      · next hle =>
        obtain ⟨rfl, rfl⟩ := Prod.mk.inj (Option.some.inj h)
        split
        · next heq => simp at heq
        · next heq => exact absurd heq (append_ne_cons (by decide) hbracket _)
        · next heq => exact absurd heq (append_ne_cons (by decide) hhyphen _)
        · refine Option.bind_eq_some_iff.2 ⟨_, readItem_append hrest hlast, ?_⟩
          simp only [hlow, hhigh, Option.bind_eq_bind, Option.bind_some, if_pos hle]
      · simp at h
  · next hnil hhyphen =>
    split
    · next heq => simp at heq
    · next heq => exact absurd heq (append_ne_cons (by decide) hhyphen _)
    · exact map_append id h

lemma readBrackets_append {below : List Bracket} {p : ClassPiece}
    (h : readBrackets f fuel below cs = some (p, rest)) :
    readBrackets f (fuel + 1) below (cs ++ ['$']) = some (p, rest ++ ['$']) := by
  induction fuel generalizing below cs with
  | zero => simp [readBrackets] at h
  | succ fuel ih =>
    cases below with
    | nil => simp [readBrackets] at h
    | cons b below =>
      have hskip : f.skip cs ≠ [] := fun hnil => by simp [readBrackets, hnil] at h
      unfold readBrackets at h ⊢
      simp only [f.skip_append (.inl hskip)]
      split at h
      · simp at h
      · next rest' heq =>
        rw [heq, List.cons_append]
        simp only [readAsciiClass_append]
        cases hclass : readAsciiClass f rest' with
        | some r =>
          obtain ⟨c, rest''⟩ := r
          simp only [hclass] at h
          cases c with
          | none => simp at h
          | some a => exact ih h
        | none =>
          simp only [hclass] at h
          cases hopening : readOpening f rest' with
          | none => simp [hopening] at h
          | some r =>
            simp only [hopening] at h
            simp only [Option.map_none, (readOpening_append hopening).2]
            exact ih h
      · next rest' heq =>
        rw [heq, List.cons_append]
        cases hclose : b.close f with
        | none => simp [hclose] at h
        | some q =>
          simp only [hclose] at h
          cases below with
          | nil => exact map_append id (o := some q) h
          | cons outer more => exact ih h
      iterate 3
        · next heq =>
          rw [heq, List.cons_append, List.cons_append]
          exact ih h
      · next hnil hopen hclose hand hhyphen htilde =>
        cases hrange : readRange f (f.skip cs) with
        | none => simp [hrange] at h
        | some r =>
          simp only [hrange] at h
          have hsees : f.Sees r.2 := .inl fun hnil => by
            rw [hnil] at h
            cases fuel <;> simp [readBrackets, f.skip_nil] at h
          split
          · next heq => simp at heq
          · next heq => exact absurd heq (append_ne_cons (by decide) hopen _)
          · next heq => exact absurd heq (append_ne_cons (by decide) hclose _)
          · next heq => exact absurd heq (append_ne_cons_cons (by decide) (by decide) hand _)
          · next heq => exact absurd heq (append_ne_cons_cons (by decide) (by decide) hhyphen _)
          · next heq => exact absurd heq (append_ne_cons_cons (by decide) (by decide) htilde _)
          · rw [readRange_append hsees hrange]
            exact ih h

/-- A bracketed class is read in front of a sign more as it is read without it. -/
theorem readBracket_append {p : ClassPiece} (h : readBracket f cs = some (p, rest)) :
    readBracket f (cs ++ ['$']) = some (p, rest ++ ['$']) := by
  obtain ⟨⟨b, rest'⟩, hopening, h⟩ := Option.bind_eq_some_iff.1 h
  refine Option.bind_eq_some_iff.2 ⟨_, (readOpening_append hopening).2, ?_⟩
  have hread := readBrackets_append h
  change readBrackets f ((rest' ++ ['$']).length + 1) [b] (rest' ++ ['$']) = _
  rwa [List.length_append]

/-! ## Repetitions -/

lemma readGreed_append (cs : List Char) :
    readGreed (cs ++ ['$']) = ((readGreed cs).1, (readGreed cs).2 ++ ['$']) := by
  cases cs with
  | nil => rfl
  | cons c cs =>
    by_cases hc : c = '?'
    · subst hc
      rfl
    · unfold readGreed
      simp [hc]

lemma dropSpace_append (cs : List Char) : dropSpace (cs ++ ['$']) = dropSpace cs ++ ['$'] := by
  induction cs with
  | nil => decide
  | cons c cs ih =>
    rw [List.cons_append, dropSpace, dropSpace, ih]
    split <;> rfl

lemma length_skip_le (f : Flags) (cs : List Char) : (f.skip cs).length ≤ cs.length := by
  have hblanks : ∀ inComment, (Flags.dropBlanks inComment cs).length ≤ cs.length := by
    induction cs with
    | nil => exact fun _ => le_rfl
    | cons c cs ih =>
      intro inComment
      rw [Flags.dropBlanks]
      split
      · exact (ih _).trans (Nat.le_succ _)
      · split
        · exact (ih _).trans (Nat.le_succ _)
        · split
          · exact (ih _).trans (Nat.le_succ _)
          · exact le_rfl
  unfold Flags.skip
  split
  · exact hblanks false
  · exact le_rfl

lemma readDigits_append {value v : Option ℕ} (hfuel : cs.length < fuel) (hrest : f.Sees rest)
    (h : readDigits f value fuel cs = (v, rest)) :
    readDigits f value (fuel + 1) (cs ++ ['$']) = (v, rest ++ ['$']) := by
  induction fuel generalizing value cs with
  | zero => omega
  | succ fuel ih =>
    cases cs with
    | nil =>
      obtain ⟨rfl, rfl⟩ := Prod.mk.inj h
      rfl
    | cons c cs =>
      rw [readDigits] at h
      rw [List.cons_append, readDigits]
      split
      · next hdigit =>
        rw [if_pos hdigit] at h
        have hskip : f.Sees (f.skip cs) := hrest.of_imp fun hnil => by
          rw [hnil] at h
          cases fuel <;> exact (Prod.mk.inj h).2.symm
        have hlength : (f.skip cs).length < fuel :=
          (length_skip_le f cs).trans_lt (Nat.lt_of_succ_lt_succ hfuel)
        rw [f.skip_append hskip]
        exact ih hlength h
      · next hdigit =>
        rw [if_neg hdigit] at h
        obtain ⟨rfl, rfl⟩ := Prod.mk.inj h
        rfl

lemma length_dropSpace_le (cs : List Char) : (dropSpace cs).length ≤ cs.length := by
  induction cs with
  | nil => exact le_rfl
  | cons c cs ih =>
    rw [dropSpace]
    split
    · exact ih.trans (Nat.le_succ _)
    · exact le_rfl

lemma readCount_append {n : ℕ} (hrest : f.Sees rest) (h : readCount f cs = some (n, rest)) :
    readCount f (cs ++ ['$']) = some (n, rest ++ ['$']) := by
  unfold readCount at h ⊢
  split at h
  · simp at h
  · next n' rest' hdigits =>
    split at h
    · next hlimit =>
      obtain ⟨rfl, rfl⟩ := Prod.mk.inj (Option.some.inj h)
      have hsees : f.Sees rest' := hrest.of_imp fun hnil => by rw [hnil, dropSpace]
      have hlength := Nat.lt_succ_of_le (length_dropSpace_le cs)
      rw [List.length_append, List.length_singleton, dropSpace_append,
        readDigits_append hlength hsees hdigits]
      simp only [if_pos hlimit, dropSpace_append]
    · simp at h

/-- The counts of a repetition end with a sign of their own. -/
theorem readBounds_append {bounds : ℕ × Option ℕ} (h : readBounds f cs = some (bounds, rest)) :
    readBounds f (cs ++ ['$']) = some (bounds, rest ++ ['$']) := by
  have hnil : readCount f [] = none := rfl
  obtain ⟨⟨least, behind⟩, hleast, h⟩ := Option.bind_eq_some_iff.1 h
  have hskip : f.Sees (f.skip cs) := .inl fun heq => by
    rw [heq, hnil] at hleast
    simp at hleast
  have hbehind : f.Sees behind := .inl fun heq => by simp [heq] at h
  unfold readBounds
  rw [f.skip_append hskip, readCount_append hbehind hleast]
  simp only [Option.bind_eq_bind, Option.bind_some]
  simp only at h
  split at h
  · obtain ⟨rfl, rfl⟩ := Prod.mk.inj (Option.some.inj h)
    rfl
  · next more =>
    have hmore : f.skip more ≠ [] := fun heq => by simp [heq, hnil] at h
    simp only [List.cons_append, f.skip_append (.inl hmore)]
    split at h
    · next heq =>
      obtain ⟨rfl, rfl⟩ := Prod.mk.inj (Option.some.inj h)
      rw [heq]
      rfl
    · next hbrace =>
      obtain ⟨⟨most, behind⟩, hmost, h⟩ := Option.bind_eq_some_iff.1 h
      have hbehind : f.Sees behind := .inl fun heq => by simp [heq] at h
      split
      · next heq => exact absurd heq (append_ne_cons (by decide) hbrace _)
      · rw [readCount_append hbehind hmost]
        simp only at h
        split at h
        · split at h
          · next hle =>
            obtain ⟨rfl, rfl⟩ := Prod.mk.inj (Option.some.inj h)
            simp only [Option.bind_some, List.cons_append, if_pos hle]
          · simp at h
        · simp at h
  · simp at h

/-! ## Groups -/

/-- The name of a group ends with a sign of its own. -/
lemma readGroupName_append {name : List Char} {v : String}
    (h : readGroupName name cs = some (v, rest)) :
    readGroupName name (cs ++ ['$']) = some (v, rest ++ ['$']) := by
  induction cs generalizing name with
  | nil => simp [readGroupName] at h
  | cons c cs ih =>
    rw [readGroupName] at h
    rw [List.cons_append, readGroupName]
    split_ifs at h ⊢
    · obtain ⟨rfl, rfl⟩ := Prod.mk.inj (Option.some.inj h)
      rfl
    · exact ih h
    · exact ih h

end

end UriRouting.Regex
