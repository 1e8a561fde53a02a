import UriRouting.Proofs.Regex.ChainSearch
import UriRouting.Proofs.Regex.Reading
import UriRouting.Proofs.Template.Key

/-!
# Escaped templates as chains

The parts of a variable template whose text is escaped make a chain of links
(`TemplatePart.links`): its expression is the expression of the chain, and its key is the chain
with a `*` for every hole.  So what such a template captures is what the chain cuts off, under the
names of its holes (`Template.capture?_of_escaped`).

The links can be read off the text of the template without the parts in between
(`Regex.Link.ofTextFrom`), and `TemplatePart.ReadsAs` tells them piece by piece.
-/

namespace UriRouting

open Regex

/-- The character that stands for a link in a key. -/
def Regex.Link.sign : Link → Char
  | .char c => c
  | .hole _ => TemplatePart.wildcard

/-- How a link is written in a template. -/
def Regex.Link.spelling : Link → List Char
  | .char c => [c]
  | .hole name => '\x7b' :: (name ++ ['\x7d'])

namespace Regex.Link

/-! ## The links of a text -/

/-- The links of a text: what stands from a `{` to the next `}` is a hole, and every other character
stands for itself.  Inside a hole the reversed name so far is given.  A hole that the text leaves
open is none. -/
def ofTextFrom : Option (List Char) → List Char → List Link
  | none, [] => []
  | some inner, [] => .char '\x7b' :: inner.reverse.map .char
  | none, c :: cs =>
    if c = '\x7b' then ofTextFrom (some []) cs else .char c :: ofTextFrom none cs
  | some inner, c :: cs =>
    if c = '\x7d' then .hole inner.reverse :: ofTextFrom none cs
    else ofTextFrom (some (c :: inner)) cs

lemma spelling_map_char (cs : List Char) : (cs.map char).flatMap spelling = cs := by
  simp [List.flatMap_map, spelling]

/-- The links of a text are written as the text. -/
lemma spelling_ofTextFrom (name : Option (List Char)) (cs : List Char) :
    (ofTextFrom name cs).flatMap spelling =
      (name.elim [] fun inner => '\x7b' :: inner.reverse) ++ cs := by
  induction cs generalizing name with
  | nil =>
    cases name with
    | none => rfl
    | some inner =>
      rw [ofTextFrom, List.flatMap_cons, spelling_map_char, List.append_nil]
      rfl
  | cons c cs ih =>
    cases name with
    | none =>
      rw [ofTextFrom]
      split
      · next hc =>
        rw [ih, hc]
        rfl
      · rw [List.flatMap_cons, ih]
        rfl
    | some inner =>
      rw [ofTextFrom]
      split
      · next hc =>
        rw [List.flatMap_cons, ih, spelling, hc]
        simp
      · rw [ih]
        simp

end Regex.Link

namespace TemplatePart

/-! ## Links -/

/-- The links that some parts stand for. -/
def links (parts : List TemplatePart) : List Link :=
  parts.flatMap fun
    | .run text => text.map .char
    | .hole name => [.hole name]

lemma links_run_cons (text : List Char) (parts : List TemplatePart) :
    links (.run text :: parts) = text.map .char ++ links parts := rfl

lemma links_hole_cons (name : List Char) (parts : List TemplatePart) :
    links (.hole name :: parts) = .hole name :: links parts := rfl

lemma hole_mem_links {name : List Char} {parts : List TemplatePart} :
    Link.hole name ∈ links parts ↔ .hole name ∈ parts := by
  rw [links, List.mem_flatMap]
  constructor
  · rintro ⟨part, hpart, hmem⟩
    cases part with
    | run text => simp at hmem
    | hole inner =>
      simp only [List.mem_singleton, Link.hole.injEq] at hmem
      exact hmem ▸ hpart
  · exact fun h => ⟨.hole name, h, List.mem_singleton_self _⟩

/-- The body of a variable template's expression is its links, written one after another. -/
lemma variableBody_eq (escaped : Bool) (parts : List TemplatePart) :
    Template.variableBody escaped parts = (links parts).flatMap (Link.written escaped) := by
  induction parts with
  | nil => rfl
  | cons part parts ih =>
    have hcons : Template.variableBody escaped (part :: parts) =
        Template.variableBody escaped [part] ++ Template.variableBody escaped parts := by
      simp [Template.variableBody]
    rw [hcons, ih]
    cases part with
    | run text =>
      rw [links_run_cons, List.flatMap_append]
      congr 1
      cases escaped <;> simp [Template.variableBody, Regex.escape, List.flatMap_map, Link.written]
    | hole name =>
      rw [links_hole_cons, List.flatMap_cons]
      congr 1
      simp [Template.variableBody, Template.variableGroup, Link.written, Link.source]

/-- The body of an escaped template's expression is the text of its links. -/
lemma variableBody_escaped (parts : List TemplatePart) :
    Template.variableBody true parts = (links parts).flatMap Link.source := by
  rw [variableBody_eq, Link.written_true]

/-- The shape of some parts is that of their links. -/
lemma shape_eq (parts : List TemplatePart) :
    shape parts = (links parts).map Link.sign ++ [terminator] := by
  rw [shape]
  congr 1
  induction parts with
  | nil => rfl
  | cons part parts ih =>
    rw [List.flatMap_cons, ih]
    cases part with
    | run text => simp [links_run_cons, Link.sign, Function.comp_def]
    | hole name => rfl

/-- The text between the holes holds neither of the marks of a key. -/
lemma RunsClean.of_char_mem {parts : List TemplatePart} (h : RunsClean parts) {c : Char}
    (hc : .char c ∈ links parts) : c ≠ wildcard ∧ c ≠ terminator := by
  obtain ⟨part, hpart, hmem⟩ := List.mem_flatMap.1 hc
  cases part with
  | run text =>
    have hmem : c ∈ text := by simpa using hmem
    obtain ⟨hnul, hstar⟩ := h text hpart
    exact ⟨fun heq => hstar (heq ▸ hmem), fun heq => hnul (heq ▸ hmem)⟩
  | hole name => simp at hmem

/-! ## Reading a template -/

/-- What has been read of a template, and what is left of it, has the links of its text. -/
lemma links_of_variablePartsFrom {cs text : List Char} {name : Option (List Char)}
    {parts : List TemplatePart} (h : variablePartsFrom text name cs = .ok parts) :
    links parts = text.reverse.map .char ++ Link.ofTextFrom name cs := by
  induction cs generalizing text name parts with
  | nil =>
    cases name with
    | some inner => simp [variablePartsFrom] at h
    | none =>
      obtain ⟨u, -, rfl⟩ := Success.map_eq_ok.1 h
      rw [links_run_cons]
      rfl
  | cons c cs ih =>
    cases name with
    | none =>
      simp only [variablePartsFrom] at h
      rw [Link.ofTextFrom]
      split at h
      · next hc => rw [ih h, if_pos hc]
      · next hc =>
        rw [ih h, if_neg hc]
        simp
    | some inner =>
      simp only [variablePartsFrom] at h
      rw [Link.ofTextFrom]
      split at h
      · next hc =>
        cases hu : checkRun text.reverse with
        | error fault => simp [hu] at h
        | ok u =>
          simp only [hu] at h
          obtain ⟨rest, hrest, rfl⟩ := Success.map_eq_ok.1 h
          rw [links_run_cons, links_hole_cons, ih hrest, if_pos hc]
          rfl
      · next hc => rw [ih h, if_neg hc]

/-- What has been read of a template, and what is left of it, is how its links are written. -/
lemma spelling_links {cs text : List Char} {name : Option (List Char)} {parts : List TemplatePart}
    (h : variablePartsFrom text name cs = .ok parts) :
    (links parts).flatMap Link.spelling =
      text.reverse ++ (name.elim [] fun inner => '\x7b' :: inner.reverse) ++ cs := by
  rw [links_of_variablePartsFrom h, List.flatMap_append, Link.spelling_map_char,
    Link.spelling_ofTextFrom, List.append_assoc]

/-- Whatever has been read before it, the text adds the links. -/
def ReadsAs (cs : List Char) (ls : List Link) : Prop :=
  ∀ text parts, variablePartsFrom text none cs = .ok parts →
    links parts = text.reverse.map .char ++ ls

lemma readsAs_nil : ReadsAs [] [] := by
  intro text parts h
  obtain ⟨u, -, rfl⟩ := Success.map_eq_ok.1 h
  simp [links]

lemma ReadsAs.text {cs rest : List Char} {ls : List Link} (h : ReadsAs rest ls)
    (hcs : '\x7b' ∉ cs) :
    ReadsAs (cs ++ rest) (cs.map .char ++ ls) := by
  induction cs with
  | nil => exact h
  | cons c cs ih =>
    simp only [List.mem_cons, not_or] at hcs
    intro text parts hparts
    rw [List.cons_append, variablePartsFrom, if_neg (Ne.symm hcs.1)] at hparts
    rw [ih hcs.2 (c :: text) parts hparts]
    simp

/-- Up to the next `}` a name is read. -/
lemma variablePartsFrom_name {name : List Char} (hname : '\x7d' ∉ name)
    (text inner rest : List Char) :
    variablePartsFrom text (some inner) (name ++ '\x7d' :: rest) =
      variablePartsFrom text (some (name.reverse ++ inner)) ('\x7d' :: rest) := by
  induction name generalizing inner with
  | nil => rfl
  | cons c name ih =>
    simp only [List.mem_cons, not_or] at hname
    rw [List.cons_append, variablePartsFrom, if_neg (Ne.symm hname.1), ih hname.2]
    simp

lemma ReadsAs.hole {name rest : List Char} {ls : List Link} (h : ReadsAs rest ls)
    (hname : '\x7d' ∉ name) :
    ReadsAs ('\x7b' :: (name ++ '\x7d' :: rest)) (.hole name :: ls) := by
  intro text parts hparts
  rw [variablePartsFrom, if_pos rfl, variablePartsFrom_name hname, List.append_nil,
    variablePartsFrom, if_pos rfl] at hparts
  cases hrun : checkRun text.reverse with
  | error fault => simp [hrun] at hparts
  | ok u =>
    simp only [hrun] at hparts
    obtain ⟨parts', hparts', rfl⟩ := Success.map_eq_ok.1 hparts
    rw [links_run_cons, links_hole_cons, h [] parts' hparts', List.reverse_reverse]
    rfl

end TemplatePart

namespace Template

open TemplatePart

/-- The values of groups that all have a name and have all taken part. -/
lemma namedValues_map (r : Regex) (names values : List (List Char))
    (hnames : r.groupNames = names.map fun name => some (String.ofList name)) :
    namedValues r (values.map some) = (names.map String.ofList).zip (values.map String.ofList) := by
  rw [namedValues, hnames]
  clear hnames
  induction names generalizing values with
  | nil => rfl
  | cons name names ih =>
    cases values with
    | nil => rfl
    | cons value values => simp [ih]

/-- A variable template is cut into parts, which make its key. -/
lemma of_variableTemplate_eq_ok {text : String} {escaped : Bool} {t : Template}
    (h : variableTemplate text escaped = .ok t) :
    ∃ parts, variableParts t.path.toList = .ok parts ∧ t.key = keyOf (shape parts) ∧
      t.isLiteral = false := by
  obtain ⟨path, -, -, parts, hparts, regex, -, rfl⟩ := variableTemplate_eq_ok.1 h
  exact ⟨parts, hparts, rfl, rfl⟩

/-- The expression of an escaped template is read from the text of its links. -/
lemma exists_expr_of_escaped {text : String} {t : Template} {parts : List TemplatePart}
    (h : variableTemplate text true = .ok t) (hparts : variableParts t.path.toList = .ok parts) :
    ∃ x, Expr.ofText? ('^' :: ((links parts).flatMap Link.source ++ ['$'])) = some x ∧
      t.regex = some (ofExpr (anchored (variableBody true parts)) x) ∧ t.style = .variable := by
  obtain ⟨canonical, -, -, parts', hparts', regex, hregex, rfl⟩ := variableTemplate_eq_ok.1 h
  obtain rfl : parts' = parts := Except.ok.inj (hparts'.symm.trans hparts)
  obtain ⟨x, hx, rfl⟩ := compileRegex_eq_ok hregex
  rw [variableBody_escaped] at hx
  exact ⟨x, hx, rfl, rfl⟩

/-- What an escaped template captures is what its links cut off, under the names of its holes. -/
theorem capture?_of_escaped {text : String} {t : Template} {parts : List TemplatePart}
    (h : variableTemplate text true = .ok t) (hparts : variableParts t.path.toList = .ok parts)
    (hnames : ∀ name, .hole name ∈ parts → '>' ∉ name) (path : String) :
    t.capture? path = (Link.cut (links parts) path.toList).map fun values =>
      .named (((Link.names (links parts)).map String.ofList).zip (values.map String.ofList)) := by
  obtain ⟨x, hx, hregex, hstyle⟩ := exists_expr_of_escaped h hparts
  obtain rfl := Link.ofText?_eq_some (fun name hmem => hnames name (hole_mem_links.1 hmem)) hx
  simp only [capture?, hregex, hstyle, Link.captures?_ofExpr, Option.map_map]
  congr 1
  funext values
  rw [Function.comp_apply, namedValues_map _ _ _ (Link.groupTable_expr _)]

end Template

end UriRouting
