import UriRouting.Proofs.Template.Segments
import UriRouting.Proofs.Template.Variables

/-!
# Values for variables

To put a value in the place of every variable of a template is the other way round of capturing a
path.  An escaped template, whose names are without a `>`, captures exactly the paths that come about
in this way from values without a `/`, and what it captures gives the path again.

The values that are captured need not be the ones that the path came from, since a variable takes as
much of its segment as it can.  Where every variable fills a segment they are
(`Template.capture_inverts_substitution`).
-/

namespace UriRouting

open Regex

/-! ## Filling the holes of a chain -/

namespace Regex.Link

/-- What stands in the place of a link: the character itself, or the value of the name. -/
def fill (value : String → String) : Link → List Char
  | .char c => [c]
  | .hole name => (value (String.ofList name)).toList

variable {value : String → String} {ls : List Link} {cs : List Char} {vs : List (List Char)}

/-- The values of the holes. -/
def fillings (value : String → String) (ls : List Link) : List (List Char) :=
  (names ls).map fun name => (value (String.ofList name)).toList

lemma flatMap_fill_map_char (value : String → String) (cs : List Char) :
    (cs.map char).flatMap (fill value) = cs := by
  simp [List.flatMap_map, fill]

/-- What a chain has cut off a text, put in the places of the holes again, gives the text. -/
lemma flatMap_fill_of_cut (h : cut ls cs = some (fillings value ls)) :
    ls.flatMap (fill value) = cs := by
  induction ls generalizing cs with
  | nil => exact (cut_nil_eq_some.1 h).1.symm
  | cons link ls ih =>
    cases link with
    | char c =>
      obtain ⟨rest, rfl, hrest⟩ := cut_char_eq_some.1 h
      rw [List.flatMap_cons, ih hrest]
      rfl
    | hole name =>
      obtain ⟨v, rest, vs, -, rfl, hrest, hvs⟩ := exists_of_cut_hole h
      obtain ⟨rfl, rfl⟩ := List.cons.inj hvs
      rw [List.flatMap_cons, ih hrest]
      rfl

/-- A chain matches itself with values in the places of its holes. -/
lemma isSome_cut_fill (h : ∀ v ∈ fillings value ls, '/' ∉ v) :
    (cut ls (ls.flatMap (fill value))).isSome := by
  induction ls with
  | nil => rfl
  | cons link ls ih =>
    cases link with
    | char c =>
      rw [List.flatMap_cons, fill, List.singleton_append, cut, if_pos rfl]
      exact ih h
    | hole name =>
      obtain ⟨hv, hvs⟩ := List.forall_mem_cons.1 h
      rw [List.flatMap_cons, cut, Option.isSome_map]
      exact isSome_cutHole_append hv (ih hvs)

end Regex.Link

namespace Segment

open Regex.Link (fill fillings)

variable {value : String → String}

lemma behind_fill_tailLinks (value : String → String) (segments : List Segment) :
    Behind ((tailLinks segments).flatMap (fill value)) := by
  cases segments with
  | nil => exact .inl rfl
  | cons segment segments => exact .inr ⟨_, rfl⟩

lemma fillings_append (value : String → String) (ls ls' : List Link) :
    fillings value (ls ++ ls') = fillings value ls ++ fillings value ls' := by
  rw [fillings, names_append, List.map_append]
  rfl

/-- A segment takes its own filling if what follows it takes its own. -/
lemma cut_fill_links {segment : Segment} {ls : List Link}
    (hslash : ∀ v ∈ fillings value segment.links, '/' ∉ v)
    (hbehind : Behind (ls.flatMap (fill value)))
    (hcut : Link.cut ls (ls.flatMap (fill value)) = some (fillings value ls)) :
    Link.cut (segment.links ++ ls) ((segment.links ++ ls).flatMap (fill value)) =
      some (fillings value (segment.links ++ ls)) := by
  rw [List.flatMap_append, fillings_append]
  cases segment with
  | text cs =>
    have hnone : fillings value (text cs).links = [] := by
      rw [fillings, names_links]
      rfl
    rw [hnone, links, Link.flatMap_fill_map_char, cut_text]
    exact ⟨_, rfl, hcut⟩
  | hole name =>
    have hv : '/' ∉ (value (String.ofList name)).toList := hslash _ List.mem_cons_self
    rw [links, List.flatMap_singleton, List.singleton_append, Link.cut, fill,
      cutHole_append hv hbehind hcut]
    rfl

lemma cut_fill_tailLinks {segments : List Segment}
    (hslash : ∀ v ∈ fillings value (tailLinks segments), '/' ∉ v) :
    Link.cut (tailLinks segments) ((tailLinks segments).flatMap (fill value)) =
      some (fillings value (tailLinks segments)) := by
  induction segments with
  | nil => rfl
  | cons segment segments ih =>
    have hall : ∀ v ∈ fillings value (segment.links ++ tailLinks segments), '/' ∉ v := hslash
    rw [fillings_append, List.forall_mem_append] at hall
    rw [tailLinks, List.flatMap_cons, List.cons_append, List.flatMap_cons, fill,
      List.singleton_append, Link.cut, if_pos rfl]
    exact cut_fill_links hall.1 (behind_fill_tailLinks value segments) (ih hall.2)

/-- Segments with values in the places of the variables are cut into the values. -/
lemma cut_fill_chain {segments : List Segment}
    (hslash : ∀ v ∈ fillings value (chain segments), '/' ∉ v) :
    Link.cut (chain segments) ((chain segments).flatMap (fill value)) =
      some (fillings value (chain segments)) := by
  cases segments with
  | nil => rfl
  | cons segment segments =>
    rw [chain, fillings_append, List.forall_mem_append] at hslash
    exact cut_fill_links hslash.1 (behind_fill_tailLinks value segments)
      (cut_fill_tailLinks hslash.2)

end Segment

/-! ## Templates -/

/-- Values are found under their names if no name is used twice. -/
lemma map_lookup_zip {names values : List String} (hnames : names.Nodup)
    (hlength : values.length = names.length) :
    names.map (fun name => ((names.zip values).lookup name).getD "") = values := by
  induction names generalizing values with
  | nil => exact (List.length_eq_zero_iff.1 hlength).symm
  | cons name names ih =>
    obtain ⟨v, values, rfl⟩ := List.exists_cons_of_length_eq_add_one hlength
    obtain ⟨hnew, hnames⟩ := List.nodup_cons.1 hnames
    rw [List.map_cons, List.zip_cons_cons, List.lookup_cons_self, Option.getD_some,
      List.cons.injEq]
    refine ⟨rfl, Eq.trans (List.map_congr_left fun other hother => ?_)
      (ih hnames (Nat.succ.inj hlength))⟩
    have hne : (other == name) = false := beq_false_of_ne fun heq => hnew (heq ▸ hother)
    rw [List.lookup_cons, hne]

namespace Template

open TemplatePart

/-- The canonical text with a value in the place of every variable. -/
def substitute (t : Template) (value : String → String) : String :=
  String.ofList (t.textLinks.flatMap (Link.fill value))

variable {text : String} {t : Template} {value : String → String}

lemma fillings_textLinks (t : Template) (value : String → String) :
    Link.fillings value t.textLinks = t.variableNames.map fun name => (value name).toList := by
  rw [Link.fillings, variableNames, List.map_map]
  rfl

lemma slash_not_mem_fillings (h : ∀ name ∈ t.variableNames, '/' ∉ (value name).toList) :
    ∀ v ∈ Link.fillings value t.textLinks, '/' ∉ v := by
  rw [fillings_textLinks]
  exact List.forall_mem_map.2 h

section Escaped

variable (h : variableTemplate text true = .ok t)
    (hnames : ∀ name ∈ t.variableNames, '>' ∉ name.toList)

include h hnames

/-- What is captured are values for the variables, which give the path again. -/
lemma substitute_of_capture? {path : String} {params : PathParams}
    (hparams : t.capture? path = some params) :
    ∃ values, params = .named values ∧ values.map Prod.fst = t.variableNames ∧
      (∀ v ∈ values, '/' ∉ v.2.toList) ∧
      t.substitute (fun name => (values.lookup name).getD "") = path := by
  obtain ⟨vs, hvs, rfl, hslash⟩ := exists_cut_of_capture? h hnames hparams
  have hlength : (vs.map String.ofList).length = t.variableNames.length := by
    rw [List.length_map, Link.length_cut hvs, variableNames, List.length_map]
  refine ⟨_, rfl, List.map_fst_zip hlength.ge, hslash, ?_⟩
  set values := t.variableNames.zip (vs.map String.ofList)
  have hvalues : Link.fillings (fun name => (values.lookup name).getD "") t.textLinks = vs :=
    calc
      _ = (t.variableNames.map fun name => (values.lookup name).getD "").map String.toList := by
        rw [fillings_textLinks, List.map_map]
        rfl
      _ = (vs.map String.ofList).map String.toList := by
        rw [map_lookup_zip (nodup_variableNames h hnames) hlength]
      _ = vs := by simp [Function.comp_def]
  rw [substitute, Link.flatMap_fill_of_cut (hvalues ▸ hvs), String.ofList_toList]

/-- A path is captured if it comes about from values without a `/`. -/
lemma isSome_capture?_substitute (hvalue : ∀ name ∈ t.variableNames, '/' ∉ (value name).toList) :
    (t.capture? (t.substitute value)).isSome := by
  rw [capture?_eq_map_cut h hnames, Option.isSome_map, substitute, String.toList_ofList]
  exact Link.isSome_cut_fill (slash_not_mem_fillings hvalue)

/-- Where every variable fills a segment, the values are captured that were put there. -/
lemma capture?_substitute (hwhole : ∀ segment ∈ t.segments, segment.Whole)
    (hvalue : ∀ name ∈ t.variableNames, '/' ∉ (value name).toList) :
    t.capture? (t.substitute value) =
      some (.named (t.variableNames.map fun name => (name, value name))) := by
  obtain ⟨parts, -, hparts, hlinks, -⟩ := exists_of_escaped h
  have hchain : t.textLinks = Segment.chain t.segments :=
    hlinks.symm.trans (links_of_whole hparts hwhole).1
  have hcut : Link.cut t.textLinks (t.textLinks.flatMap (Link.fill value)) =
      some (Link.fillings value t.textLinks) := by
    have hvalues := slash_not_mem_fillings hvalue
    rw [hchain] at hvalues ⊢
    exact Segment.cut_fill_chain hvalues
  rw [capture?_eq_map_cut h hnames, substitute, String.toList_ofList, hcut, Option.map_some,
    fillings_textLinks, List.map_map]
  have htexts : t.variableNames.map (String.ofList ∘ fun name => (value name).toList) =
      t.variableNames.map value := by
    simp [Function.comp_def]
  rw [htexts, ← List.map_prod_left_eq_zip]

end Escaped

/-- Capturing a path of an escaped variable template, whose names are without a `>`, and putting
values in the places of the variables are inverse to each other.  The paths that are captured are
those that come about from values without a `/`; what is captured are values of the variables that
give the path again; and where every variable fills a segment, they are the ones that were put
there. -/
theorem capture_inverts_substitution (h : variableTemplate text true = .ok t)
    (hnames : ∀ name ∈ t.variableNames, '>' ∉ name.toList) :
    t.variableNames.Nodup ∧
      (∀ path, (t.capture? path).isSome ↔ ∃ value : String → String,
        (∀ name ∈ t.variableNames, '/' ∉ (value name).toList) ∧ path = t.substitute value) ∧
      (∀ path params, t.capture? path = some params →
        ∃ values, params = .named values ∧ values.map Prod.fst = t.variableNames ∧
          (∀ v ∈ values, '/' ∉ v.2.toList) ∧
          t.substitute (fun name => (values.lookup name).getD "") = path) ∧
      ((∀ segment ∈ t.segments, segment.Whole) → ∀ value : String → String,
        (∀ name ∈ t.variableNames, '/' ∉ (value name).toList) →
          t.capture? (t.substitute value) =
            some (.named (t.variableNames.map fun name => (name, value name)))) := by
  refine ⟨nodup_variableNames h hnames, fun path => ⟨fun hpath => ?_, ?_⟩,
    fun path params => substitute_of_capture? h hnames, fun hwhole value =>
      capture?_substitute h hnames hwhole⟩
  · obtain ⟨params, hparams⟩ := Option.isSome_iff_exists.1 hpath
    obtain ⟨values, -, -, hslash, hsubstitute⟩ := substitute_of_capture? h hnames hparams
    refine ⟨_, fun name _ => ?_, hsubstitute.symm⟩
    cases hlookup : values.lookup name with
    | none => simp
    | some v =>
      obtain ⟨front, rest, rfl, -⟩ := List.lookup_eq_some_iff.1 hlookup
      exact hslash (name, v) (List.mem_append_right _ List.mem_cons_self)
  · rintro ⟨value, hvalue, rfl⟩
    exact isSome_capture?_substitute h hnames hvalue

/-- A template with a text that would mean more in an expression, and two variables. -/
def blogPost : Template := .ofText .variable "/v1.0/\x7buser\x7d/\x7bpost\x7d" true (by decide +kernel)

/-- The values that are put in the places of the variables of `blogPost` are captured again. -/
theorem blog_post_inverted :
    variableTemplate "/v1.0/\x7buser\x7d/\x7bpost\x7d" true = .ok blogPost ∧
      (blogPost.capture? "/v1.0/ann/7").isSome ∧
      (∀ path, (blogPost.capture? path).isSome ↔ ∃ value : String → String,
        (∀ name ∈ ["user", "post"], '/' ∉ (value name).toList) ∧
          path = blogPost.substitute value) ∧
      (∀ path params, blogPost.capture? path = some params →
        ∃ values, params = .named values ∧ values.map Prod.fst = ["user", "post"] ∧
          (∀ v ∈ values, '/' ∉ v.2.toList) ∧
          blogPost.substitute (fun name => (values.lookup name).getD "") = path) ∧
      ∀ value : String → String, (∀ name ∈ ["user", "post"], '/' ∉ (value name).toList) →
        blogPost.capture? (blogPost.substitute value) =
          some (.named [("user", value "user"), ("post", value "post")]) := by
  have htemplate : compile .variable "/v1.0/\x7buser\x7d/\x7bpost\x7d" true = .ok blogPost :=
    compile_eq_ofText _
  have hvariables : blogPost.variableNames = ["user", "post"] := by decide +kernel
  have hwhole : ∀ segment ∈ blogPost.segments, segment.Whole := by decide +kernel
  have hnames : ∀ name ∈ blogPost.variableNames, '>' ∉ name.toList := by
    rw [hvariables]
    decide
  obtain ⟨-, hcaptured, hpieces, hfilled⟩ := capture_inverts_substitution htemplate hnames
  rw [hvariables] at hcaptured hpieces hfilled
  exact ⟨htemplate, by decide +kernel, hcaptured, hpieces, hfilled hwhole⟩

end Template

end UriRouting
