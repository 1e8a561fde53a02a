import Mathlib.Tactic
import UriRouting.Proofs.Success
import UriRouting.Proofs.Text.Bytes
import UriRouting.Trie.Node

/-!
# The keys of compiled templates

The trie relies on one property of its keys: the mark of the end stands at the end of a key and
nowhere else in it (`Ended`).  Two such keys part before either of them ends
(`Ended.eq_of_front`), which is why a split of the trie always finds a byte on both sides.

Every template that compiles has a key of this kind, in each of the three styles
(`Template.Compiled.ended`): a NUL in the text is refused, and the parts of a dynamic template are
checked for it one by one.
-/

namespace UriRouting

/-! ## Bytes closed by the mark of the end -/

/-- Bytes that the mark of the end closes and that hold it nowhere else. -/
def Ended (bs : List UInt8) : Prop := ∃ body, bs = body ++ [endByte] ∧ endByte ∉ body

namespace Ended

/-- The first byte is the mark only if it is all there is. -/
lemma cons_iff {b : UInt8} {bs : List UInt8} :
    Ended (b :: bs) ↔ (b = endByte ∧ bs = []) ∨ (b ≠ endByte ∧ Ended bs) := by
  constructor
  · rintro ⟨body, h, hbody⟩
    cases body with
    | nil =>
      simp only [List.nil_append, List.cons.injEq] at h
      exact .inl h
    | cons c body =>
      simp only [List.cons_append, List.cons.injEq] at h
      obtain ⟨rfl, rfl⟩ := h
      simp only [List.mem_cons, not_or] at hbody
      exact .inr ⟨Ne.symm hbody.1, body, rfl, hbody.2⟩
  · rintro (⟨rfl, rfl⟩ | ⟨hb, body, rfl, hbody⟩)
    · exact ⟨[], rfl, by simp⟩
    · exact ⟨b :: body, rfl, by simp [Ne.symm hb, hbody]⟩

/-- The mark stands behind everything in front of a rest. -/
lemma append_iff {as bs : List UInt8} (hbs : bs ≠ []) :
    Ended (as ++ bs) ↔ endByte ∉ as ∧ Ended bs := by
  induction as with
  | nil => simp
  | cons a as ih =>
    have hne : as ++ bs ≠ [] := by simp [hbs]
    rw [List.cons_append, cons_iff, ih, List.mem_cons, not_or, ne_comm, and_assoc]
    simp [hne]

/-- Nothing follows the mark. -/
lemma append_eq_nil {as bs : List UInt8} (ha : Ended as) (h : Ended (as ++ bs)) : bs = [] := by
  by_contra hbs
  obtain ⟨body, rfl, -⟩ := ha
  exact ((append_iff hbs).1 h).1 (by simp)

/-- No key is the beginning of another one. -/
theorem eq_of_front {as bs : List UInt8} (ha : Ended as) (hb : Ended bs) (h : as <+: bs) :
    as = bs := by
  obtain ⟨cs, rfl⟩ := h
  rw [append_eq_nil ha hb, List.append_nil]

end Ended

/-! ## The parts of a template -/

namespace TemplatePart

open Success

lemma checkRun_eq_ok {text : List Char} {u : Unit} :
    checkRun text = .ok u ↔ terminator ∉ text ∧ wildcard ∉ text := by
  unfold checkRun
  by_cases h0 : terminator ∈ text
  · simp [h0]
  · by_cases h1 : wildcard ∈ text <;> simp [h0, h1]

/-- What stands between the holes of some parts is free of the marks of a key. -/
def RunsClean (parts : List TemplatePart) : Prop :=
  ∀ text, run text ∈ parts → terminator ∉ text ∧ wildcard ∉ text

lemma runsClean_singleton {text : List Char} (h : terminator ∉ text ∧ wildcard ∉ text) :
    RunsClean [run text] := by
  intro t ht
  simp only [List.mem_singleton, run.injEq] at ht
  rwa [ht]

lemma RunsClean.cons_hole {text name : List Char} {parts : List TemplatePart}
    (h : terminator ∉ text ∧ wildcard ∉ text) (hp : RunsClean parts) :
    RunsClean (run text :: hole name :: parts) := by
  intro t ht
  simp only [List.mem_cons, run.injEq, reduceCtorEq, false_or] at ht
  rcases ht with rfl | ht
  · exact h
  · exact hp t ht

theorem runsClean_variablePartsFrom {cs : List Char} {text : List Char} {name : Option (List Char)}
    {parts : List TemplatePart} (h : variablePartsFrom text name cs = .ok parts) :
    RunsClean parts := by
  induction cs generalizing text name parts with
  | nil =>
    cases name with
    | some inner => simp [variablePartsFrom] at h
    | none =>
      obtain ⟨u, hu, rfl⟩ := map_eq_ok.1 h
      exact runsClean_singleton (checkRun_eq_ok.1 hu)
  | cons c cs ih =>
    cases name with
    | none =>
      simp only [variablePartsFrom] at h
      split at h <;> exact ih h
    | some inner =>
      simp only [variablePartsFrom] at h
      split at h
      · cases hu : checkRun text.reverse with
        | error e => simp [hu] at h
        | ok u =>
          simp only [hu] at h
          obtain ⟨rest, hrest, rfl⟩ := map_eq_ok.1 h
          exact (ih hrest).cons_hole (checkRun_eq_ok.1 hu)
      · exact ih h

theorem runsClean_patternPartsFrom {cs : List Char} {text : List Char} {group : Option (List Char)}
    {parts : List TemplatePart} (h : patternPartsFrom text group cs = .ok parts) :
    RunsClean parts := by
  induction cs generalizing text group parts with
  | nil =>
    obtain ⟨u, hu, rfl⟩ := map_eq_ok.1 h
    exact runsClean_singleton (checkRun_eq_ok.1 hu)
  | cons c cs ih =>
    cases group with
    | none =>
      simp only [patternPartsFrom] at h
      split at h <;> exact ih h
    | some inner =>
      simp only [patternPartsFrom] at h
      split at h
      · cases hu : checkRun text.reverse with
        | error e => simp [hu] at h
        | ok u =>
          simp only [hu] at h
          obtain ⟨rest, hrest, rfl⟩ := map_eq_ok.1 h
          exact (ih hrest).cons_hole (checkRun_eq_ok.1 hu)
      · exact ih h

end TemplatePart

/-! ## Keys -/

namespace Template

open TemplatePart Success

/-- A template that the compiler has made of some text. -/
def Compiled (t : Template) : Prop :=
  ∃ style text escaped, compile style text escaped = .ok t

/-- The template that is made of a text which compiles. -/
@[irreducible] def ofText (style : TemplateStyle) (text : String) (escaped : Bool)
    (h : (compile style text escaped).toOption.isSome) : Template :=
  (compile style text escaped).toOption.get h

lemma compile_eq_ofText {style : TemplateStyle} {text : String} {escaped : Bool}
    (h : (compile style text escaped).toOption.isSome) :
    compile style text escaped = .ok (ofText style text escaped h) := by
  unfold ofText
  exact eq_ok_get h

lemma compiled_ofText {style : TemplateStyle} {text : String} {escaped : Bool}
    (h : (compile style text escaped).toOption.isSome) : (ofText style text escaped h).Compiled :=
  ⟨style, text, escaped, compile_eq_ofText h⟩

lemma keyOf_terminated (cs : List Char) :
    keyOf (cs ++ [terminator]) = Text.utf8 cs ++ [endByte] := by
  rw [keyOf, Text.utf8_append]
  rfl

/-- Text without a NUL makes a key once the mark is put behind it. -/
lemma ended_keyOf {cs : List Char} (h : terminator ∉ cs) : Ended (keyOf (cs ++ [terminator])) :=
  ⟨Text.utf8 cs, keyOf_terminated cs, fun hmem =>
    h ((Text.mem_utf8_iff (by decide : terminator.toNat < 128) cs).1 hmem)⟩

lemma ended_keyOf_shape {parts : List TemplatePart} (h : RunsClean parts) :
    Ended (keyOf (shape parts)) := by
  refine ended_keyOf fun hmem => ?_
  obtain ⟨part, hpart, hc⟩ := List.mem_flatMap.1 hmem
  cases part with
  | run text => exact (h text hpart).1 hc
  | hole inner =>
    simp only [List.mem_singleton] at hc
    exact absurd hc (by decide)

/-- What a literal template is made of. -/
lemma literal_eq_ok {text : String} {t : Template} :
    literal text = .ok t ↔ ∃ path, canonicalPath text = .ok path ∧ '\x7b' ∉ path.toList ∧
      '(' ∉ path.toList ∧ terminator ∉ path.toList ∧
      t = ⟨path, keyOf (path.toList ++ [terminator]), none, .literal⟩ := by
  simp only [literal, bind_eq_ok, ite_error_eq_ok, List.contains_iff_mem, Bool.or_eq_true,
    not_or, Except.ok.injEq, and_assoc, eq_comm (b := t)]

/-- A compiled expression is the one that the text between the anchors is read as. -/
lemma compileRegex_eq_ok {template : String} {body : List Char} {r : Regex}
    (h : compileRegex template body = .ok r) :
    ∃ x, Regex.Expr.ofText? ('^' :: (body ++ ['$'])) = some x ∧
      r = Regex.ofExpr (anchored body) x := by
  unfold compileRegex at h
  split at h
  · next r' hr =>
    obtain rfl := Except.ok.inj h
    obtain ⟨x, hx, hr⟩ := Option.bind_eq_some_iff.1 hr
    rw [anchored, String.toList_ofList] at hx
    split at hr
    · exact ⟨x, hx, (Option.some.inj hr).symm⟩
    · simp at hr
  · simp at h

/-- What a variable template is made of. -/
lemma variableTemplate_eq_ok {text : String} {escaped : Bool} {t : Template} :
    variableTemplate text escaped = .ok t ↔ ∃ path, canonicalPath text = .ok path ∧
      '\x7b' ∈ path.toList ∧ ∃ parts, variableParts path.toList = .ok parts ∧
      ∃ regex, compileRegex text (variableBody escaped parts) = .ok regex ∧
      t = ⟨path, keyOf (shape parts), some regex, .variable⟩ := by
  simp only [variableTemplate, bind_eq_ok, ite_else_error_eq_ok, List.contains_iff_mem,
    unsupported, mapError_eq_ok, Except.ok.injEq, eq_comm (b := t)]

/-- What a pattern template is made of. -/
lemma pattern_eq_ok {text : String} {t : Template} :
    pattern text = .ok t ↔ ∃ path, canonicalPath text = .ok path ∧ '(' ∈ path.toList ∧
      ∃ parts, patternParts path.toList = .ok parts ∧
      ∃ regex, compileRegex text path.toList = .ok regex ∧
      t = ⟨path, keyOf (shape parts), some regex, .pattern⟩ := by
  simp only [pattern, bind_eq_ok, ite_else_error_eq_ok, List.contains_iff_mem,
    unsupported, mapError_eq_ok, Except.ok.injEq, eq_comm (b := t)]

/-- The key of a compiled template has the mark of the end at its end and nowhere else. -/
theorem Compiled.ended {t : Template} (h : t.Compiled) : Ended t.key := by
  obtain ⟨style, text, escaped, h⟩ := h
  cases style with
  | literal =>
    obtain ⟨path, -, -, -, hnul, rfl⟩ := literal_eq_ok.1 h
    exact ended_keyOf hnul
  | «variable» =>
    obtain ⟨path, -, -, parts, hparts, regex, -, rfl⟩ := variableTemplate_eq_ok.1 h
    exact ended_keyOf_shape (runsClean_variablePartsFrom hparts)
  | pattern =>
    obtain ⟨path, -, -, parts, hparts, regex, -, rfl⟩ := pattern_eq_ok.1 h
    exact ended_keyOf_shape (runsClean_patternPartsFrom hparts)

/-- The key of a compiled literal template is its path. -/
lemma Compiled.key_of_isLiteral {t : Template} (h : t.Compiled) (hl : t.isLiteral = true) :
    t.key = keyOf (t.path.toList ++ [terminator]) := by
  obtain ⟨style, text, escaped, h⟩ := h
  cases style with
  | literal =>
    obtain ⟨path, -, -, -, -, rfl⟩ := literal_eq_ok.1 h
    rfl
  | «variable» =>
    obtain ⟨path, -, -, parts, -, regex, -, rfl⟩ := variableTemplate_eq_ok.1 h
    simp [isLiteral] at hl
  | pattern =>
    obtain ⟨path, -, -, parts, -, regex, -, rfl⟩ := pattern_eq_ok.1 h
    simp [isLiteral] at hl

end Template

/-- A mapping whose template the compiler has made. -/
def Mapping.Compiled {H : Type} (m : Mapping H) : Prop := m.template.Compiled

end UriRouting
