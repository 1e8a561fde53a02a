import Mathlib.Data.List.ReduceOption
import UriRouting.Proofs.Regex.GroupNames
import UriRouting.Proofs.Template.Links

/-!
# The variables of a template

The variables of a template are what stands between the braces of its canonical text
(`Template.variableNames`).  The key has a `*` for each of them.  The expression has a group for each of
them, too, and no other groups, as long as no name has a `>`: the name is written into the
expression as it is, so a `>` ends the name of the group and what stands behind it is read as part of
the expression.  A name without a `>` cannot do any harm, since the reader of the expression then
finds the group as it was meant (`Template.named_groups_iff`).
-/

namespace UriRouting

open Regex

/-! ## Names among the links -/

namespace Regex.Link

variable {ls : List Link}

lemma mem_names {name : List Char} : name ∈ names ls ↔ .hole name ∈ ls := by
  induction ls with
  | nil => simp [names]
  | cons link ls ih => cases link <;> simp [names, ih]

/-- A chain whose own characters are no `*` has the sign of a hole for every name. -/
lemma count_sign (h : ∀ c, .char c ∈ ls → c ≠ TemplatePart.wildcard) :
    (ls.map sign).count TemplatePart.wildcard = (names ls).length := by
  induction ls with
  | nil => rfl
  | cons link ls ih =>
    have hrest := ih fun c hc => h c (List.mem_cons_of_mem _ hc)
    rw [List.map_cons]
    cases link with
    | char c =>
      have hc : sign (.char c) ≠ TemplatePart.wildcard := h c List.mem_cons_self
      rw [List.count_cons_of_ne hc, hrest, names]
    | hole name =>
      rw [show sign (.hole name) = TemplatePart.wildcard from rfl, List.count_cons_self, hrest,
        names, List.length_cons]

end Regex.Link

/-! ## Variables -/

namespace Template

open TemplatePart

/-- The links of the canonical text. -/
def textLinks (t : Template) : List Link := Link.ofTextFrom none t.path.toList

/-- The names of the variables: what stands between the braces of the canonical text, in order. -/
def variableNames (t : Template) : List String := (Link.names t.textLinks).map String.ofList

variable {text : String} {t : Template}

lemma forall_variableNames {p : List Char → Prop} :
    (∀ name ∈ t.variableNames, p name.toList) ↔ ∀ name, .hole name ∈ t.textLinks → p name := by
  simp [variableNames, Link.mem_names]

/-- What an escaped variable template is made of, told by the links of its text. -/
lemma exists_of_escaped (h : variableTemplate text true = .ok t) :
    ∃ parts x, variableParts t.path.toList = .ok parts ∧ links parts = t.textLinks ∧
      Expr.ofText? ('^' :: (t.textLinks.flatMap Link.source ++ ['$'])) = some x ∧
      ∃ source, t.regex = some (ofExpr source x) := by
  obtain ⟨parts, hparts, -, -⟩ := of_variableTemplate_eq_ok h
  obtain ⟨x, hx, hregex, -⟩ := exists_expr_of_escaped h hparts
  have hlinks : links parts = t.textLinks := links_of_variablePartsFrom hparts
  rw [hlinks] at hx
  exact ⟨parts, x, hparts, hlinks, hx, _, hregex⟩

/-- The key of a variable template has a `*` for every variable, and no other. -/
lemma count_key {escaped : Bool} (h : variableTemplate text escaped = .ok t) :
    t.key.count wildcardByte = t.variableNames.length := by
  obtain ⟨parts, hparts, hkey, -⟩ := of_variableTemplate_eq_ok h
  have hlinks : links parts = t.textLinks := links_of_variablePartsFrom hparts
  have hutf8 := Text.count_utf8 (by decide : wildcard.toNat < 128) ((links parts).map Link.sign)
  rw [Link.count_sign fun c hc => ((runsClean_variablePartsFrom hparts).of_char_mem hc).1,
    hlinks] at hutf8
  rw [hkey, shape_eq, keyOf_terminated, List.count_append, hlinks, variableNames, List.length_map,
    ← hutf8]
  rfl

section Escaped

variable (h : variableTemplate text true = .ok t)
    (hnames : ∀ name ∈ t.variableNames, '>' ∉ name.toList)

include h hnames

/-- No name is used for two variables. -/
lemma nodup_variableNames : t.variableNames.Nodup := by
  obtain ⟨parts, x, -, -, hx, -⟩ := exists_of_escaped h
  have hnodup := Link.nodup_names_of_ofText? (forall_variableNames.1 hnames) hx
  exact hnodup.map fun _ _ => String.ofList_injective

/-- The groups of the expression are the variables. -/
lemma groupNames_eq {r : Regex} (hr : t.regex = some r) :
    r.groupNames = t.variableNames.map some := by
  obtain ⟨parts, x, -, -, hx, source, hsource⟩ := exists_of_escaped h
  obtain rfl : ofExpr source x = r := Option.some.inj (hsource.symm.trans hr)
  rw [Link.ofText?_eq_some (forall_variableNames.1 hnames) hx, variableNames, List.map_map]
  exact Link.groupTable_expr _

/-- What is captured is what the links cut off, under the names of the variables. -/
lemma capture?_eq_map_cut (path : String) :
    t.capture? path = (Link.cut t.textLinks path.toList).map fun values =>
      .named (t.variableNames.zip (values.map String.ofList)) := by
  obtain ⟨parts, -, hparts, hlinks, -⟩ := exists_of_escaped h
  have hlinked : ∀ name, .hole name ∈ t.textLinks → '>' ∉ name := forall_variableNames.1 hnames
  have hholes : ∀ name, .hole name ∈ parts → '>' ∉ name := fun name hmem =>
    hlinked name (hlinks ▸ hole_mem_links.2 hmem)
  rw [capture?_of_escaped h hparts hholes, hlinks]
  rfl

/-- A path that is captured is cut by the links, and the values are the pieces, none of which holds
a `/`. -/
lemma exists_cut_of_capture? {path : String} {params : PathParams}
    (hparams : t.capture? path = some params) :
    ∃ vs, Link.cut t.textLinks path.toList = some vs ∧
      params = .named (t.variableNames.zip (vs.map String.ofList)) ∧
      ∀ v ∈ t.variableNames.zip (vs.map String.ofList), '/' ∉ v.2.toList := by
  rw [capture?_eq_map_cut h hnames] at hparams
  obtain ⟨vs, hvs, rfl⟩ := Option.map_eq_some_iff.1 hparams
  refine ⟨vs, hvs, rfl, fun v hv => ?_⟩
  obtain ⟨cs, hcs, hcv⟩ := List.mem_map.1 (List.of_mem_zip hv).2
  rw [← hcv, String.toList_ofList]
  exact Link.slash_not_mem_of_cut hvs cs hcs

end Escaped

/-- The named groups of an escaped template's expression are its variables, one for every `*` of the
key, exactly if no name has a `>`; then there are no other groups, and no value that is captured
holds a `/`. -/
theorem named_groups_iff (h : variableTemplate text true = .ok t) :
    ∃ r, t.regex = some r ∧ t.key.count wildcardByte = t.variableNames.length ∧
      (r.groupNames.reduceOption = t.variableNames ↔ ∀ name ∈ t.variableNames, '>' ∉ name.toList) ∧
      ((∀ name ∈ t.variableNames, '>' ∉ name.toList) → r.groupNames = t.variableNames.map some ∧
        ∀ path params, t.capture? path = some params →
          ∃ values, params = .named values ∧ ∀ v ∈ values, '/' ∉ v.2.toList) := by
  obtain ⟨parts, x, -, -, hx, source, hr⟩ := exists_of_escaped h
  refine ⟨_, hr, count_key h, ⟨fun hgroups name hname => ?_, fun hnames => ?_⟩, fun hnames =>
    ⟨groupNames_eq h hnames hr, fun path params hparams => ?_⟩⟩
  · rw [← hgroups, List.reduceOption_mem_iff] at hname
    exact not_mem_of_mem_groupNames hx hname
  · rw [groupNames_eq h hnames hr, List.reduceOption, List.filterMap_map]
    exact List.filterMap_some
  · obtain ⟨vs, -, rfl, hslash⟩ := exists_cut_of_capture? h hnames hparams
    exact ⟨_, rfl, hslash⟩

/-- A template with a variable that fills its segment, and one between pieces of text. -/
def page : Template :=
  .ofText .variable "/\x7brepo\x7d/v\x7bversion\x7d.html" true (by decide +kernel)

/-- The expression of `page` has its two variables for groups, and what it captures stays within
the segments. -/
theorem page_groups_named :
    variableTemplate "/\x7brepo\x7d/v\x7bversion\x7d.html" true = .ok page ∧
      (page.capture? "/core/v4.html").isSome ∧
      ∃ r, page.regex = some r ∧ page.key.count wildcardByte = 2 ∧
        r.groupNames = [some "repo", some "version"] ∧
        ∀ path params, page.capture? path = some params →
          ∃ values, params = .named values ∧ ∀ v ∈ values, '/' ∉ v.2.toList := by
  have htemplate : compile .variable "/\x7brepo\x7d/v\x7bversion\x7d.html" true =
      .ok page := compile_eq_ofText _
  have hvariables : page.variableNames = ["repo", "version"] := by decide +kernel
  have hnames : ∀ name ∈ page.variableNames, '>' ∉ name.toList := by
    rw [hvariables]
    decide
  obtain ⟨r, hr, hcount, -, hplain⟩ := named_groups_iff htemplate
  obtain ⟨hgroups, hvalues⟩ := hplain hnames
  rw [hvariables] at hcount hgroups
  exact ⟨htemplate, by decide +kernel, r, hr, hcount, hgroups, hvalues⟩

/-- A template with a single variable, whose name ends a group and begins another one. -/
def injected : Template := .ofText .variable "/\x7ba>.*)(?<b\x7d" true (by decide +kernel)

/-- The expression of `injected` has two groups for one variable, and the first one takes a path of
two segments. -/
theorem injected_spans_segments :
    ¬ ∀ (text : String) (t : Template), variableTemplate text true = .ok t →
      ∃ r, t.regex = some r ∧ t.key.count wildcardByte = t.variableNames.length ∧
        r.groupNames.reduceOption = t.variableNames ∧
        ∀ path params, t.capture? path = some params →
          ∃ values, params = .named values ∧ ∀ v ∈ values, '/' ∉ v.2.toList := by
  intro h
  have htemplate : compile .variable "/\x7ba>.*)(?<b\x7d" true = .ok injected :=
    compile_eq_ofText _
  have hcaptured : injected.capture? "/x/y" = some (.named [("a", "x/y"), ("b", "")]) := by
    decide +kernel
  obtain ⟨r, -, -, -, hvalues⟩ := h _ _ htemplate
  obtain ⟨values, hnamed, hslash⟩ := hvalues _ _ hcaptured
  obtain rfl := PathParams.named.inj hnamed
  exact hslash ("a", "x/y") List.mem_cons_self (by decide)

end Template

end UriRouting
