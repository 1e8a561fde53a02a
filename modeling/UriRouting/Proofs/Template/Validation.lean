import UriRouting.Proofs.Regex.Unanchored
import UriRouting.Proofs.Template.Links

/-!
# What a hit validates

A dynamic template puts its body between anchors and takes a path for its own if the anchored
expression matches.  `Template.hit_validates` says what a hit tells of the body alone: a body with a
single alternative, which does not end in verbose mode or in multi-line mode, matches the whole
path.

With more alternatives no more is known than that one of them matches a part of the path, for the
first anchor belongs to the first of them and the second one to the last:
`Template.partial_hit` is a path of which only a beginning matches.

An escaped template always has a single alternative, as long as no name of its holes has a `>`
(`Template.escaped_hit_validates`).
-/

namespace UriRouting.Template

open Regex TemplatePart

lemma anchored_injective : Function.Injective anchored := by
  intro body body' h
  exact List.append_cancel_right (List.cons.inj (String.ofList_injective h)).2

/-- The expression of a compiled template is its body between anchors. -/
lemma Compiled.exists_body {t : Template} (h : t.Compiled) {r : Regex} (hr : t.regex = some r) :
    ∃ body x, Expr.ofText? ('^' :: (body ++ ['$'])) = some x ∧
      r = Regex.ofExpr (anchored body) x := by
  obtain ⟨style, text, escaped, h⟩ := h
  cases style with
  | literal =>
    obtain ⟨path, -, -, -, -, rfl⟩ := literal_eq_ok.1 h
    simp at hr
  | «variable» =>
    obtain ⟨path, -, -, parts, -, regex, hregex, rfl⟩ := variableTemplate_eq_ok.1 h
    obtain rfl := Option.some.inj hr
    exact ⟨_, compileRegex_eq_ok hregex⟩
  | pattern =>
    obtain ⟨path, -, -, parts, -, regex, hregex, rfl⟩ := pattern_eq_ok.1 h
    obtain rfl := Option.some.inj hr
    exact ⟨_, compileRegex_eq_ok hregex⟩

/-- A path hits a template if the search for the template's expression is successful. -/
lemma isSome_captures?_of_hit {t : Template} {r : Regex} (hr : t.regex = some r) {path : String}
    (hit : (t.capture? path).isSome) : (r.captures? path.toList).isSome := by
  simpa [capture?, hr] using hit

/-- What a hit tells of the body of a template, taken on its own.  Unless the body ends in verbose
mode, one of its alternatives matches a part of the path, which starts with the path if it is the
first alternative, and ends where the closing anchor holds if it is the last.  So a body with a
single alternative matches the whole path, provided that it does not end in multi-line mode. -/
theorem hit_validates {t : Template} (ht : t.Compiled) {r : Regex} (hr : t.regex = some r)
    {path : String} (hit : (t.capture? path).isSome) :
    ∃ body, r.source = anchored body ∧
      ∀ s x, readAll (body.length + 1) .start body = some s → s.finish = some x →
        s.flags.verbose = false →
        (∃ i y front part back, s.alternatives[i]? = some y ∧
          path.toList = front ++ (part ++ back) ∧ y.MatchesPart front part back ∧
          (i = 0 → front = []) ∧ (i + 1 = s.alternatives.length →
            s.flags.dollar.holds (.between (front ++ part) back) = true)) ∧
        (s.alternatives.length = 1 → s.flags.multiLine = false → x.Matches path.toList) := by
  obtain ⟨body, y, hy, rfl⟩ := ht.exists_body hr
  refine ⟨body, rfl, fun s x hs hx hverbose => ?_⟩
  have hcaptures := isSome_captures?_of_hit hr hit
  exact ⟨Regex.exists_alternative_of_captures? hy hs hverbose hcaptures, fun hone hmulti =>
    Regex.matches_of_captures? hy hs hx hverbose hmulti hone hcaptures⟩

/-- A template with a single alternative. -/
def textFile : Template := .ofText .pattern "/files/([a-z]+)\\.txt" false (by decide +kernel)

/-- The body of `textFile` matches a path that hits it, from the start to the end. -/
theorem text_file_validated : textFile.Compiled ∧ (textFile.capture? "/files/abc.txt").isSome ∧
    ∃ r s x, textFile.regex = some r ∧ r.source = anchored "/files/([a-z]+)\\.txt".toList ∧
      readAll ("/files/([a-z]+)\\.txt".toList.length + 1) .start
        "/files/([a-z]+)\\.txt".toList = some s ∧
      s.finish = some x ∧ x.Matches "/files/abc.txt".toList := by
  have ht : textFile.Compiled := compiled_ofText _
  have hit : (textFile.capture? "/files/abc.txt").isSome := by decide +kernel
  obtain ⟨r, hr, hsource⟩ : ∃ r, textFile.regex = some r ∧
      r.source = anchored "/files/([a-z]+)\\.txt".toList :=
    Option.map_eq_some_iff.1 (by decide +kernel)
  -- the body ends outside of verbose and multi-line mode, and has no `|` of its own
  have hread : (readAll ("/files/([a-z]+)\\.txt".toList.length + 1) .start
      "/files/([a-z]+)\\.txt".toList).map (fun s =>
        (s.finish.isSome, s.flags.verbose, s.flags.multiLine, s.alternatives.length)) =
      some (true, false, false, 1) := by
    decide +kernel
  obtain ⟨s, hs, hread⟩ := Option.map_eq_some_iff.1 hread
  obtain ⟨hfinish, hverbose, hmulti, hone⟩ : s.finish.isSome ∧ s.flags.verbose = false ∧
      s.flags.multiLine = false ∧ s.alternatives.length = 1 := by
    simpa using hread
  obtain ⟨x, hx⟩ := Option.isSome_iff_exists.1 hfinish
  obtain ⟨body, hbody, hvalidates⟩ := hit_validates ht hr hit
  obtain rfl := anchored_injective (hsource.symm.trans hbody)
  exact ⟨ht, hit, r, s, x, hr, hsource, hs, hx, (hvalidates s x hs hx hverbose).2 hone hmulti⟩

/-- A template with two alternatives. -/
def twoAlternatives : Template := .ofText .pattern "/(a)|/b" false (by decide +kernel)

/-- A path hits `twoAlternatives` if its beginning matches the first alternative, for the anchor at
the end is the second one's. -/
theorem partial_hit :
    ¬ ∀ (t : Template) (r : Regex) (body : List Char) (path : String),
      t.Compiled → t.regex = some r → r.source = anchored body → (t.capture? path).isSome →
        ∃ x, Expr.ofText? body = some x ∧ x.Matches path.toList := by
  intro h
  obtain ⟨r, hr, hsource⟩ : ∃ r, twoAlternatives.regex = some r ∧
      r.source = anchored "/(a)|/b".toList :=
    Option.map_eq_some_iff.1 (by decide +kernel)
  obtain ⟨x, hx, hmatches⟩ := h twoAlternatives r "/(a)|/b".toList "/axyz"
    (compiled_ofText _) hr hsource (by decide +kernel)
  have hread : Expr.ofText? "/(a)|/b".toList = some
      (.alt (.cat (.item (.one '/')) (.group 1 none (.item (.one 'a'))))
        (.cat (.item (.one '/')) (.item (.one 'b')))) := by
    decide +kernel
  rw [hread, Option.some.injEq] at hx
  subst hx
  -- either alternative takes two characters, the path has five
  rcases hmatches with ⟨e, ⟨_, _, -, -, rfl⟩, _, _, -, -, hend⟩ |
    ⟨e, ⟨_, _, -, -, rfl⟩, _, _, -, -, hend⟩
  all_goals simp [Cursor.between] at hend

/-- An escaped template, whose holes have no `>` in their names, is hit by those paths only that its
body matches from the first character to the last. -/
theorem escaped_hit_validates {text : String} {t : Template} {parts : List TemplatePart}
    (h : variableTemplate text true = .ok t) (hparts : variableParts t.path.toList = .ok parts)
    (hnames : ∀ name, .hole name ∈ parts → '>' ∉ name) {path : String}
    (hit : (t.capture? path).isSome) :
    ∃ r x, t.regex = some r ∧ r.source = anchored (variableBody true parts) ∧
      Expr.ofText? (variableBody true parts) = some x ∧ x.Matches path.toList := by
  obtain ⟨y, hy, hregex, -⟩ := exists_expr_of_escaped h hparts
  have hholes : ∀ name, .hole name ∈ links parts → '>' ∉ name := fun name hmem =>
    hnames name (hole_mem_links.1 hmem)
  obtain ⟨x, hx, hmatches⟩ :=
    Link.exists_matches_of_captures? hholes hy (isSome_captures?_of_hit hregex hit)
  rw [variableBody_escaped] at hregex ⊢
  exact ⟨_, x, hregex, rfl, hx, hmatches⟩

end UriRouting.Template
