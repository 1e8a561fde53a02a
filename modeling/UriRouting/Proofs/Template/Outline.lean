import UriRouting.Proofs.Template.Variables

/-!
# Templates up to the names of their variables

The key of a template does not tell how its variables are called, and it tells everything else.  The
outline of a template is its canonical text with a `{}` in the place of every variable
(`Template.outline`).  Two variable templates have the same key exactly if they have the same
outline (`Template.key_eq_iff_of_variable`), whether or not the text around the variables is escaped
in either of them, and two literal templates exactly if they have the same text
(`Template.key_eq_iff_of_literal`).

The key and the outline are two spellings of the same chain of links, one with a `*` for a hole and
one with braces.  Both signs can be told from the text of a variable template that compiles: a `*`
in it is refused, and a `{` always begins a variable.
-/

namespace UriRouting

open Regex

/-! ## Two spellings of a chain -/

namespace Regex.Link

/-- How a link is written in a template, without its name. -/
def outline : Link → List Char
  | .char c => [c]
  | .hole _ => ['\x7b', '\x7d']

/-- Where the characters of two chains are told from the signs of a hole, a `*` for every hole tells
as much of a chain as braces do. -/
lemma map_sign_eq_iff {ls ls' : List Link}
    (h : ∀ c, .char c ∈ ls → c ≠ TemplatePart.wildcard ∧ c ≠ '\x7b')
    (h' : ∀ c, .char c ∈ ls' → c ≠ TemplatePart.wildcard ∧ c ≠ '\x7b') :
    ls.map sign = ls'.map sign ↔ ls.flatMap outline = ls'.flatMap outline := by
  induction ls generalizing ls' with
  | nil =>
    cases ls' with
    | nil => exact Iff.rfl
    | cons link ls' => cases link <;> simp [outline]
  | cons link ls ih =>
    cases ls' with
    | nil => cases link <;> simp [outline]
    | cons link' ls' =>
      have hrest := ih (fun c hc => h c (List.mem_cons_of_mem link hc))
        fun c hc => h' c (List.mem_cons_of_mem link' hc)
      rw [List.map_cons, List.map_cons, List.flatMap_cons, List.flatMap_cons, List.cons.injEq,
        hrest]
      cases link with
      | char c =>
        obtain ⟨hstar, hbrace⟩ := h c List.mem_cons_self
        cases link' with
        | char d => simp [sign, outline]
        | hole name => simp [sign, outline, hstar, hbrace]
      | hole name =>
        cases link' with
        | char d =>
          obtain ⟨hstar, hbrace⟩ := h' d List.mem_cons_self
          simp [sign, outline, Ne.symm hstar, Ne.symm hbrace]
        | hole name' => simp [sign, outline]

/-- A text without a `{` has no holes. -/
lemma ofTextFrom_of_not_mem {cs : List Char} (h : '\x7b' ∉ cs) :
    ofTextFrom none cs = cs.map .char := by
  induction cs with
  | nil => rfl
  | cons c cs ih =>
    simp only [List.mem_cons, not_or] at h
    rw [ofTextFrom, if_neg (Ne.symm h.1), ih h.2, List.map_cons]

end Regex.Link

namespace TemplatePart

/-- In a text that is cut into parts every `{` begins a hole. -/
lemma brace_not_mem_links {cs text : List Char} {name : Option (List Char)}
    {parts : List TemplatePart} (h : variablePartsFrom text name cs = .ok parts)
    (htext : '\x7b' ∉ text) : .char '\x7b' ∉ links parts := by
  induction cs generalizing text name parts with
  | nil =>
    cases name with
    | some inner => simp [variablePartsFrom] at h
    | none =>
      obtain ⟨u, -, rfl⟩ := Success.map_eq_ok.1 h
      simpa [links] using htext
  | cons c cs ih =>
    cases name with
    | none =>
      simp only [variablePartsFrom] at h
      split at h
      · exact ih h htext
      · next hc => exact ih h (by simp [htext, Ne.symm hc])
    | some inner =>
      simp only [variablePartsFrom] at h
      split at h
      · cases hu : checkRun text.reverse with
        | error fault => simp [hu] at h
        | ok u =>
          simp only [hu] at h
          obtain ⟨rest, hrest, rfl⟩ := Success.map_eq_ok.1 h
          rw [links_run_cons, links_hole_cons, List.mem_append, List.mem_cons]
          rintro (hmem | hmem | hmem)
          · simp [htext] at hmem
          · simp at hmem
          · exact ih hrest List.not_mem_nil hmem
      · exact ih h htext

end TemplatePart

/-! ## Keys and outlines -/

namespace Template

open TemplatePart

/-- The canonical text with a `{}` in the place of every variable. -/
def outline (t : Template) : String := String.ofList (t.textLinks.flatMap Link.outline)

variable {text text' : String} {escaped escaped' : Bool} {t t' : Template}

/-- The key of a variable template spells the links of its text. -/
lemma key_of_variable (h : variableTemplate text escaped = .ok t) :
    t.key = Text.utf8 (t.textLinks.map Link.sign) ++ [endByte] ∧
      ∀ c, .char c ∈ t.textLinks → c ≠ wildcard ∧ c ≠ '\x7b' := by
  obtain ⟨parts, hparts, hkey, -⟩ := of_variableTemplate_eq_ok h
  have hlinks : links parts = t.textLinks := links_of_variablePartsFrom hparts
  constructor
  · rw [hkey, shape_eq, keyOf_terminated, hlinks]
  · intro c hc
    rw [← hlinks] at hc
    refine ⟨((runsClean_variablePartsFrom hparts).of_char_mem hc).1, ?_⟩
    rintro rfl
    exact brace_not_mem_links hparts List.not_mem_nil hc

/-- Variable templates have the same key exactly if they differ in the names of their variables at
most. -/
theorem key_eq_iff_of_variable (h : variableTemplate text escaped = .ok t)
    (h' : variableTemplate text' escaped' = .ok t') : t.key = t'.key ↔ t.outline = t'.outline := by
  obtain ⟨hkey, hclean⟩ := key_of_variable h
  obtain ⟨hkey', hclean'⟩ := key_of_variable h'
  rw [hkey, hkey', List.append_cancel_right_eq, Text.utf8_injective.eq_iff,
    Link.map_sign_eq_iff hclean hclean', outline, outline, String.ofList_inj]

/-- Literal templates have the same key exactly if they have the same text. -/
theorem key_eq_iff_of_literal (h : literal text = .ok t) (h' : literal text' = .ok t') :
    t.key = t'.key ↔ t.path = t'.path := by
  obtain ⟨path, -, -, -, -, rfl⟩ := literal_eq_ok.1 h
  obtain ⟨path', -, -, -, -, rfl⟩ := literal_eq_ok.1 h'
  rw [keyOf_terminated, keyOf_terminated, List.append_cancel_right_eq, Text.utf8_injective.eq_iff,
    String.toList_inj]

/-- A literal template is its own outline. -/
lemma outline_of_literal (h : literal text = .ok t) : t.outline = t.path := by
  obtain ⟨path, -, hbrace, -, -, rfl⟩ := literal_eq_ok.1 h
  rw [outline, textLinks, Link.ofTextFrom_of_not_mem hbrace, List.flatMap_map]
  simp [Link.outline]

end Template

end UriRouting
