import UriRouting.Proofs.Path.Cleaning
import UriRouting.Proofs.Regex.Respelling
import UriRouting.Proofs.Template.Links

/-!
# Templates that need no escaping

A variable template is compiled with its text escaped or as it is.  Where nothing in the text is an
operator of a regular expression, and no name has a `>`, the two cannot be told apart
(`Template.escaping_changes_nothing`): either both compile or neither does, under the same key, and
both capture the same of every path.  Only the texts of their expressions may differ, since four of
the characters that are escaped are no operators.

What counts is the canonical text, which is what is cut into parts (`Template.Unmarked`).  It is not
enough that the text is unmarked as it is written: a brace that is closed behind a `..` may lose its
opening half, and then what was a name is part of the expression
(`Template.dropped_brace_escaped`).  But the canonical text is unmarked if the segments of the text
that was given are (`Template.unmarked_of_segments`), so a template may be looked at as it is written
as long as every brace is closed in its own segment.
-/

namespace UriRouting

open Regex

namespace Regex.Link

/-- A text that leaves no brace open is read before what stands behind it. -/
lemma ofTextFrom_append {name : Option (List Char)} {cs : List Char}
    (h : .char '\x7b' ∉ ofTextFrom name cs) (rest : List Char) :
    ofTextFrom name (cs ++ rest) = ofTextFrom name cs ++ ofTextFrom none rest := by
  induction cs generalizing name with
  | nil =>
    cases name with
    | none => rfl
    | some inner => exact absurd List.mem_cons_self h
  | cons c cs ih =>
    cases name with
    | none =>
      simp only [List.cons_append, ofTextFrom] at h ⊢
      split at h
      · next hc => rw [if_pos hc, if_pos hc, ih h]
      · next hc =>
        have hrest : .char '\x7b' ∉ ofTextFrom none cs := fun hmem =>
          h (List.mem_cons_of_mem _ hmem)
        rw [if_neg hc, if_neg hc, ih hrest, List.cons_append]
    | some inner =>
      simp only [List.cons_append, ofTextFrom] at h ⊢
      split at h
      · next hc =>
        have hrest : .char '\x7b' ∉ ofTextFrom none cs := fun hmem =>
          h (List.mem_cons_of_mem _ hmem)
        rw [if_pos hc, if_pos hc, ih hrest, List.cons_append]
      · next hc => rw [if_neg hc, if_neg hc, ih h]

end Regex.Link

namespace Template

open TemplatePart

/-! ## Unmarked texts -/

/-- A text that has no operator of a regular expression outside of its holes, and no `>` in their
names. -/
def Unmarked (path : List Char) : Prop := ∀ link ∈ Link.ofTextFrom none path, link.isPlain = true

instance (path : List Char) : Decidable (Unmarked path) :=
  inferInstanceAs (Decidable (∀ link ∈ _, _))

lemma unmarked_append {cs rest : List Char} (h : Unmarked cs) (hrest : Unmarked rest) :
    Unmarked (cs ++ rest) := by
  have hclosed : .char '\x7b' ∉ Link.ofTextFrom none cs := fun hmem =>
    absurd (h _ hmem) (by decide)
  rw [Unmarked, Link.ofTextFrom_append hclosed]
  exact List.forall_mem_append.2 ⟨h, hrest⟩

lemma unmarked_flatMap {segments : List (List Char)} (h : ∀ s ∈ segments, Unmarked s) :
    Unmarked (segments.flatMap ('/' :: ·)) := by
  induction segments with
  | nil => decide
  | cons s segments ih =>
    obtain ⟨hs, hsegments⟩ := List.forall_mem_cons.1 h
    have hslash : Unmarked ['/'] := by decide
    exact unmarked_append (unmarked_append hslash hs) (ih hsegments)

/-- A path of unmarked segments is unmarked. -/
lemma unmarked_spell {segments : List (List Char)} (h : ∀ s ∈ segments, Unmarked s) :
    Unmarked (Path.spell segments) := by
  unfold Path.spell
  split
  · decide
  · exact unmarked_flatMap h

/-- Normalization leaves the segments of a text as they are, or drops them. -/
theorem unmarked_of_segments {text path : String}
    (h : ∀ s ∈ text.toList.splitOn '/', Path.Ordinary s → Unmarked s)
    (hpath : canonicalPath text = .ok path) : Unmarked path.toList := by
  have hnormalize := Success.mapError_eq_ok.1 hpath
  rw [Path.normalize_eq] at hnormalize
  split at hnormalize
  · obtain ⟨stack, hstack, rfl⟩ := Success.map_eq_ok.1 hnormalize
    obtain rfl := Path.standing_of_foldlM hstack
    rw [String.toList_ofList]
    exact unmarked_spell fun s hs =>
      h s (Path.mem_of_mem_standing s hs) (Path.ordinary_of_mem_standing s hs)
  · simp at hnormalize

/-! ## The same template with another text of its expression -/

/-- The template with another text of its expression. -/
def respelled (source : String) (t : Template) : Template :=
  { t with regex := t.regex.map fun r => { r with source := source } }

/-- What is captured does not depend on the text of the expression. -/
lemma capture?_respelled (source : String) (t : Template) (path : String) :
    (t.respelled source).capture? path = t.capture? path := by
  cases hr : t.regex <;> simp [capture?, respelled, hr, captures?, namedValues]

/-- Bodies that are read alike are compiled alike, but for the texts that are kept. -/
lemma compileRegex_congr (template : String) {body body' : List Char}
    (h : Expr.ofText? ('^' :: (body ++ ['$'])) = Expr.ofText? ('^' :: (body' ++ ['$']))) :
    compileRegex template body' =
      (compileRegex template body).map fun r => { r with source := anchored body' } := by
  simp only [compileRegex, ofText?, anchored, String.toList_ofList, h]
  cases Expr.ofText? ('^' :: (body' ++ ['$'])) with
  | none => rfl
  | some x => by_cases hfits : x.fits <;> simp [hfits] <;> rfl

/-- Escaping plays no part until the expression is compiled. -/
lemma variableTemplate_cases (text : String) :
    (∃ e, ∀ escaped, variableTemplate text escaped = .error e) ∨
    ∃ path parts, canonicalPath text = .ok path ∧ variableParts path.toList = .ok parts ∧
      ∀ escaped, variableTemplate text escaped =
        (compileRegex text (variableBody escaped parts)).map fun regex =>
          ⟨path, keyOf (shape parts), some regex, .variable⟩ := by
  unfold variableTemplate
  cases canonicalPath text with
  | error e => exact .inl ⟨e, fun escaped => rfl⟩
  | ok path =>
    by_cases hbrace : path.toList.contains '\x7b' = true
    · cases hparts : variableParts path.toList with
      | error fault =>
        refine .inl ⟨.unsupportedTemplate text fault, fun escaped => ?_⟩
        change (if _ then _ else _) = _
        rw [if_pos hbrace, hparts]
        rfl
      | ok parts =>
        refine .inr ⟨path, parts, rfl, hparts, fun escaped => ?_⟩
        change (if _ then _ else _) = _
        rw [if_pos hbrace, hparts]
        change (compileRegex _ _).bind _ = _
        cases compileRegex text (variableBody escaped parts) <;> rfl
    · refine .inl ⟨.unsupportedTemplate text (.noVariable (path.toList.contains '(')),
        fun escaped => ?_⟩
      change (if _ then _ else _) = _
      rw [if_neg hbrace]

/-- An unmarked text is compiled alike with and without escaping. -/
lemma exists_respelled {text : String}
    (h : ∀ path, canonicalPath text = .ok path → Unmarked path.toList) (escaped escaped' : Bool) :
    ∃ source, variableTemplate text escaped' =
      (variableTemplate text escaped).map (respelled source) := by
  rcases variableTemplate_cases text with ⟨e, herror⟩ | ⟨path, parts, hpath, hparts, hcompile⟩
  · rw [herror, herror]
    exact ⟨"", rfl⟩
  · have hlinks : links parts = Link.ofTextFrom none path.toList :=
      links_of_variablePartsFrom hparts
    have hplain : ∀ link ∈ links parts, link.isPlain = true := by
      rw [hlinks]
      exact h path hpath
    have hread := Link.ofText?_written_congr hplain escaped escaped'
    rw [← variableBody_eq, ← variableBody_eq] at hread
    refine ⟨anchored (variableBody escaped' parts), ?_⟩
    rw [hcompile, hcompile, compileRegex_congr text hread]
    cases compileRegex text (variableBody escaped parts) <;> rfl

/-- A template whose canonical text is unmarked compiles with its text escaped exactly if it
compiles with its text as it is, and is refused with the same error otherwise.  The two have the
same text and the same key, and they capture the same of every path. -/
theorem escaping_changes_nothing {text : String}
    (h : ∀ path, canonicalPath text = .ok path → Unmarked path.toList) :
    ((variableTemplate text false).toOption.isSome ↔
      (variableTemplate text true).toOption.isSome) ∧
    (∀ e, variableTemplate text false = .error e ↔ variableTemplate text true = .error e) ∧
    ∀ t u, variableTemplate text false = .ok t → variableTemplate text true = .ok u →
      t.path = u.path ∧ t.key = u.key ∧ t.style = u.style ∧
        ∀ path, t.capture? path = u.capture? path := by
  obtain ⟨source, hsource⟩ := exists_respelled h false true
  rw [hsource]
  cases variableTemplate text false with
  | error e => simp [Except.map, Except.toOption]
  | ok t =>
    refine ⟨by simp [Except.map, Except.toOption], by simp [Except.map], ?_⟩
    intro t' u ht hu
    obtain rfl := Except.ok.inj ht
    obtain rfl := Except.ok.inj hu
    exact ⟨rfl, rfl, rfl, fun path => (capture?_respelled source t path).symm⟩

/-- A template with three of the characters that are escaped without being operators. -/
def feedEntry (escaped : Bool) : Template :=
  .ofText .variable "/feed-#1/./\x7buser\x7d~\x7bentry\x7d" escaped
    (by cases escaped <;> decide +kernel)

/-- The two expressions of `feedEntry` are different texts, and capture the same. -/
theorem feed_entry_unchanged :
    (∀ path, canonicalPath "/feed-#1/./\x7buser\x7d~\x7bentry\x7d" = .ok path →
      Unmarked path.toList) ∧
    (feedEntry false).regex ≠ (feedEntry true).regex ∧
    (feedEntry false).key = (feedEntry true).key ∧
    (∀ path, (feedEntry false).capture? path = (feedEntry true).capture? path) ∧
    (feedEntry false).capture? "/feed-#1/ann~7" =
      some (.named [("user", "ann"), ("entry", "7")]) := by
  have hsegments : ∀ s ∈ "/feed-#1/./\x7buser\x7d~\x7bentry\x7d".toList.splitOn '/',
      Path.Ordinary s → Unmarked s := by
    decide +kernel
  have hunmarked : ∀ path, canonicalPath "/feed-#1/./\x7buser\x7d~\x7bentry\x7d" = .ok path →
      Unmarked path.toList := fun path => unmarked_of_segments hsegments
  have hcompile : ∀ escaped, compile .variable "/feed-#1/./\x7buser\x7d~\x7bentry\x7d" escaped =
      .ok (feedEntry escaped) := fun escaped => compile_eq_ofText _
  obtain ⟨-, -, hsame⟩ := escaping_changes_nothing hunmarked
  obtain ⟨-, hkey, -, hcapture⟩ := hsame _ _ (hcompile false) (hcompile true)
  exact ⟨hunmarked, by decide +kernel, hkey, hcapture, by decide +kernel⟩

/-- A template whose first brace is dropped with the segment that it opens in. -/
def droppedBrace (escaped : Bool) : Template :=
  .ofText .variable "/\x7ba/../b.c\x7d/\x7bd\x7d" escaped (by cases escaped <;> decide +kernel)

/-- Two texts that are unmarked as they are written, but not any more when they have been made
canonical.  The first one compiles either way, and only the unescaped expression lets a character
stand for the `.`; the second one has a parenthesis that is never closed, and compiles only if it is
escaped. -/
theorem dropped_brace_escaped :
    (Unmarked "/\x7ba/../b.c\x7d/\x7bd\x7d".toList ∧
      ∃ t u, variableTemplate "/\x7ba/../b.c\x7d/\x7bd\x7d" false = .ok t ∧
        variableTemplate "/\x7ba/../b.c\x7d/\x7bd\x7d" true = .ok u ∧
        t.capture? "/bXc\x7d/q" = some (.named [("d", "q")]) ∧
        u.capture? "/bXc\x7d/q" = none) ∧
    Unmarked "/\x7ba/../b(c\x7d/\x7bd\x7d".toList ∧
      ¬ (variableTemplate "/\x7ba/../b(c\x7d/\x7bd\x7d" false).toOption.isSome ∧
      (variableTemplate "/\x7ba/../b(c\x7d/\x7bd\x7d" true).toOption.isSome := by
  have hcompile : ∀ escaped, compile .variable "/\x7ba/../b.c\x7d/\x7bd\x7d" escaped =
      .ok (droppedBrace escaped) := fun escaped => compile_eq_ofText _
  refine ⟨⟨by decide +kernel, droppedBrace false, droppedBrace true, hcompile false,
    hcompile true, by decide +kernel, by decide +kernel⟩, by decide +kernel, ?_, ?_⟩
  · decide +kernel
  · decide +kernel

end Template

end UriRouting
