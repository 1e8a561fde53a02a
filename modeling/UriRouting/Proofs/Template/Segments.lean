import UriRouting.Proofs.Template.Links
import UriRouting.Proofs.Text.Segments

/-!
# Matching segment by segment

Most templates are made of whole segments: each segment of the canonical text, as the `/` part
them, is either text or a single variable.  For such a template there is a simple notion of what
it matches: as many segments as it has itself, equal to its own where they are text
(`Template.Matches`), and the variables stand for the segments in their places
(`Template.bindings`).

`Template.Segmented` are the templates of this kind, literal ones and escaped variable ones.  For
them capturing a path is matching it segment by segment
(`Template.Segmented.capture?_eq_some_iff`).
-/

namespace UriRouting

open Regex

/-! ## Segments -/

/-- A segment of a template: text, or a variable that fills it. -/
inductive Segment where
  | text (cs : List Char)
  | hole (name : List Char)
  deriving DecidableEq, Repr

namespace Segment

/-- The segment that is written as the given text. -/
def read (cs : List Char) : Segment :=
  match cs with
  | '\x7b' :: rest => if rest.getLast? = some '\x7d' then .hole rest.dropLast else .text cs
  | _ => .text cs

/-- Text matches itself, and a variable any segment. -/
def Matches : Segment → List Char → Prop
  | text cs, s => s = cs
  | hole _, _ => True

/-- The segment of a path that stands in the place of a variable, with the name of the variable. -/
def binding : Segment × List Char → Option (String × String)
  | (text _, _) => none
  | (hole name, s) => some (String.ofList name, String.ofList s)

instance : ∀ (segment : Segment) (s : List Char), Decidable (segment.Matches s)
  | text _, _ => inferInstanceAs (Decidable (_ = _))
  | hole _, _ => inferInstanceAs (Decidable True)

/-- A segment of a template in which the braces stand around whole segments: text without a `{`,
or a variable with a name that a group can have. -/
def Whole : Segment → Prop
  | text cs => '\x7b' ∉ cs
  | hole name => '\x7d' ∉ name ∧ '>' ∉ name

instance : ∀ segment : Segment, Decidable segment.Whole
  | text _ => inferInstanceAs (Decidable (_ ∉ _))
  | hole _ => inferInstanceAs (Decidable (_ ∧ _))

/-- The text that a segment is read from. -/
lemma read_cases (cs : List Char) :
    read cs = .text cs ∨ ∃ name, read cs = .hole name ∧ cs = '\x7b' :: (name ++ ['\x7d']) := by
  unfold read
  split
  · next rest =>
    split
    · next hlast => exact .inr ⟨rest.dropLast, rfl, by rw [List.dropLast_append_getLast? _ hlast]⟩
    · exact .inl rfl
  · exact .inl rfl

example : read ['\x7b', 'i', 'd', '\x7d'] = .hole ['i', 'd'] := rfl

lemma read_of_not_mem {cs : List Char} (h : '\x7b' ∉ cs) : read cs = .text cs := by
  rcases read_cases cs with hread | ⟨name, -, rfl⟩
  · exact hread
  · simp at h

/-- The links of a segment. -/
def links : Segment → List Link
  | text cs => cs.map .char
  | hole name => [.hole name]

end Segment

/-- The segments of a path. -/
def pathSegments (path : String) : List (List Char) := path.toList.splitOn '/'

namespace Template

/-- The segments of a template. -/
def segments (t : Template) : List Segment := (pathSegments t.path).map Segment.read

/-- Whether a path has the segments that a template wants. -/
def Matches (t : Template) (path : String) : Prop :=
  List.Forall₂ Segment.Matches t.segments (pathSegments path)

instance (t : Template) (path : String) : Decidable (t.Matches path) :=
  inferInstanceAs (Decidable (List.Forall₂ Segment.Matches t.segments (pathSegments path)))

/-- The variables of a template with the segments of a path in their places. -/
def bindings (t : Template) (path : String) : List (String × String) :=
  (t.segments.zip (pathSegments path)).filterMap Segment.binding

/-- What a template that matches a path segment by segment should take from it. -/
def expectedParams (t : Template) (path : String) : PathParams :=
  if t.isLiteral then .none else .named (t.bindings path)

/-- A literal template without a `*`, or an escaped variable template in which every variable
fills a segment. -/
inductive Segmented (t : Template) : Prop
  | literal {text : String} {escaped : Bool} (compiled : compile .literal text escaped = .ok t)
      (noStar : '*' ∉ t.path.toList)
  | escaped {text : String} (compiled : compile .variable text true = .ok t)
      (whole : ∀ segment ∈ t.segments, segment.Whole)

end Template

/-! ## Cutting segment by segment -/

namespace Segment

/-- The links of the segments behind the first one. -/
def tailLinks (segments : List Segment) : List Link :=
  segments.flatMap fun segment => .char '/' :: segment.links

/-- The links of some segments. -/
def chain : List Segment → List Link
  | [] => []
  | segment :: rest => segment.links ++ tailLinks rest

/-- The key of a template with the given segments. -/
def key (segments : List Segment) : List UInt8 :=
  Text.utf8 ((chain segments).map Link.sign) ++ [endByte]

/-- The text of every segment is among the links. -/
lemma char_mem_chain {segments : List Segment} {cs : List Char} (h : .text cs ∈ segments) {c : Char}
    (hc : c ∈ cs) : .char c ∈ chain segments := by
  have hlink : .char c ∈ (text cs).links := List.mem_map_of_mem hc
  cases segments with
  | nil => simp at h
  | cons segment segments =>
    rcases List.mem_cons.1 h with rfl | h
    · exact List.mem_append_left _ hlink
    · exact List.mem_append_right _ (List.mem_flatMap.2 ⟨_, h, List.mem_cons_of_mem _ hlink⟩)

/-- What the links of a segment take of a segment of a path. -/
def values : Segment → List Char → List (List Char)
  | text _, _ => []
  | hole _, s => [s]

/-- The text of a segment lies within a segment. -/
def Within : Segment → Prop
  | text cs => '/' ∉ cs
  | hole _ => True

/-- The text of a segment has neither of the marks of a key. -/
def Clean : Segment → Prop
  | text cs => TemplatePart.wildcard ∉ cs ∧ TemplatePart.terminator ∉ cs
  | hole _ => True

variable {segment : Segment} {ls : List Link} {cs rest : List Char} {vs : List (List Char)}

lemma cut_text {text : List Char} : Link.cut (cs.map .char ++ ls) text = some vs ↔
    ∃ rest, text = cs ++ rest ∧ Link.cut ls rest = some vs := by
  induction cs generalizing text with
  | nil => simp
  | cons c cs ih =>
    rw [List.map_cons, List.cons_append, Link.cut_char_eq_some]
    simp only [ih]
    constructor
    · rintro ⟨_, rfl, rest, rfl, hcut⟩
      exact ⟨rest, rfl, hcut⟩
    · rintro ⟨rest, rfl, hcut⟩
      exact ⟨cs ++ rest, rfl, rest, rfl, hcut⟩

/-- Links that start with a `/`, if there are any, match only what stands behind a segment. -/
lemma behind_of_cut {segments : List Segment} (h : Link.cut (tailLinks segments) rest = some vs) :
    Behind rest := by
  cases segments with
  | nil => exact .inl (Link.cut_nil_eq_some.1 h).1
  | cons segment segments =>
    rw [tailLinks, List.flatMap_cons, List.cons_append] at h
    obtain ⟨more, rfl, -⟩ := Link.cut_char_eq_some.1 h
    exact .inr ⟨more, rfl⟩

/-- A hole takes a whole segment if the rest can be dealt with. -/
lemma cutHole_append {α : Type} {k : List Char → Option α} {v : List Char} {a : α} (hv : '/' ∉ v)
    (hrest : Behind rest) (h : k rest = some a) : Link.cutHole k (v ++ rest) = some (v, a) := by
  induction v with
  | nil =>
    rcases hrest with rfl | ⟨rest, rfl⟩
    · simp [Link.cutHole, h]
    · simp [Link.cutHole, h]
  | cons x v ih =>
    simp only [List.mem_cons, not_or] at hv
    rw [List.cons_append, Link.cutHole, if_neg (Ne.symm hv.1), ih hv.2]
    rfl

/-- The links of a segment take one segment, if it matches. -/
lemma cut_links {segments : List Segment} (hwithin : segment.Within) (hcs : '/' ∉ cs)
    (hrest : Behind rest) :
    Link.cut (segment.links ++ tailLinks segments) (cs ++ rest) = some vs ↔ segment.Matches cs ∧
      ∃ vs', Link.cut (tailLinks segments) rest = some vs' ∧ vs = segment.values cs ++ vs' := by
  cases segment with
  | text own =>
    rw [links, cut_text]
    constructor
    · rintro ⟨rest', heq, hcut⟩
      obtain ⟨rfl, rfl⟩ := segment_unique hcs hwithin hrest (behind_of_cut hcut) heq
      exact ⟨rfl, vs, hcut, rfl⟩
    · rintro ⟨hmatch, vs', hcut, rfl⟩
      obtain rfl : cs = own := hmatch
      exact ⟨rest, rfl, hcut⟩
  | hole name =>
    rw [links, List.singleton_append, Link.cut]
    constructor
    · intro h
      obtain ⟨⟨v, vs'⟩, hv, rfl⟩ := Option.map_eq_some_iff.1 h
      obtain ⟨hslash, rest', heq, hcut⟩ := Link.cutHole_eq_some hv
      obtain ⟨rfl, rfl⟩ := segment_unique hcs hslash hrest (behind_of_cut hcut) heq
      exact ⟨trivial, vs', hcut, rfl⟩
    · rintro ⟨-, vs', hcut, rfl⟩
      rw [cutHole_append hcs hrest hcut]
      rfl

/-- The links of some segments cut a text segment by segment. -/
theorem cut_chain {segments : List Segment} {ss : List (List Char)}
    (hwithin : segment.Within ∧ ∀ s ∈ segments, s.Within) (hcs : '/' ∉ cs)
    (hss : ∀ s ∈ ss, '/' ∉ s) (vs : List (List Char)) :
    Link.cut (chain (segment :: segments)) (cs ++ ss.flatMap ('/' :: ·)) = some vs ↔
      List.Forall₂ Matches (segment :: segments) (cs :: ss) ∧
        vs = ((segment :: segments).zip (cs :: ss)).flatMap fun r => r.1.values r.2 := by
  induction segments generalizing segment cs ss vs with
  | nil =>
    rw [chain, cut_links hwithin.1 hcs (behind_flatMap ss)]
    cases ss with
    | nil => simp [tailLinks, Link.cut]
    | cons s ss => simp [tailLinks, Link.cut]
  | cons next segments ih =>
    rw [chain, cut_links hwithin.1 hcs (behind_flatMap ss), List.forall₂_cons, and_assoc]
    refine and_congr_right fun _ => ?_
    cases ss with
    | nil => simp [tailLinks, Link.cut]
    | cons s ss =>
      have hnext := hwithin.2 next List.mem_cons_self
      have hmore : ∀ s ∈ segments, s.Within := fun s hs => hwithin.2 s (List.mem_cons_of_mem _ hs)
      have hstep : Link.cut (tailLinks (next :: segments)) ((s :: ss).flatMap ('/' :: ·)) =
          Link.cut (chain (next :: segments)) (s ++ ss.flatMap ('/' :: ·)) := by
        rw [tailLinks, List.flatMap_cons, List.flatMap_cons, List.cons_append, List.cons_append,
          Link.cut, if_pos rfl]
        rfl
      rw [hstep]
      have hrest := ih ⟨hnext, hmore⟩ (hss s List.mem_cons_self)
        fun x hx => hss x (List.mem_cons_of_mem _ hx)
      simp only [hrest]
      rw [List.zip_cons_cons, List.flatMap_cons]
      constructor
      · rintro ⟨vs', ⟨hmatches, rfl⟩, rfl⟩
        exact ⟨hmatches, rfl⟩
      · rintro ⟨hmatches, rfl⟩
        exact ⟨_, ⟨hmatches, rfl⟩, rfl⟩

/-- The links of some segments match a text segment by segment, and take the segments in the
places of the holes. -/
theorem cut_eq_some_iff {segments : List Segment} (hne : segments ≠ [])
    (hwithin : ∀ s ∈ segments, s.Within) (cs : List Char) (vs : List (List Char)) :
    Link.cut (chain segments) cs = some vs ↔ List.Forall₂ Matches segments (cs.splitOn '/') ∧
      vs = (segments.zip (cs.splitOn '/')).flatMap fun r => r.1.values r.2 := by
  obtain ⟨s, ss, hsplit, hcs, hs, hss⟩ := exists_segments cs
  obtain ⟨segment, segments, rfl⟩ := List.exists_cons_of_ne_nil hne
  rw [hsplit]
  conv_lhs => rw [hcs]
  rw [List.forall_mem_cons] at hwithin
  exact cut_chain hwithin hs hss vs

/-! ## Bindings -/

/-- The name of a variable. -/
def names : Segment → List (List Char)
  | text _ => []
  | hole name => [name]

lemma names_append (ls ls' : List Link) :
    Link.names (ls ++ ls') = Link.names ls ++ Link.names ls' := by
  induction ls with
  | nil => rfl
  | cons link ls ih => cases link <;> simp [Link.names, ih]

lemma names_links (segment : Segment) : Link.names segment.links = segment.names := by
  cases segment with
  | text cs =>
    induction cs with
    | nil => rfl
    | cons c cs ih => exact ih
  | hole name => rfl

lemma names_tailLinks (segments : List Segment) :
    Link.names (tailLinks segments) = segments.flatMap names := by
  induction segments with
  | nil => rfl
  | cons segment segments ih =>
    rw [tailLinks, List.flatMap_cons, List.cons_append, Link.names, names_append, names_links,
      List.flatMap_cons, ← ih]
    rfl

lemma names_chain (segments : List Segment) :
    Link.names (chain segments) = segments.flatMap names := by
  cases segments with
  | nil => rfl
  | cons segment segments =>
    rw [chain, names_append, names_links, names_tailLinks, List.flatMap_cons]

/-- The names of the variables and what their links take are the bindings. -/
lemma zip_names_values {segments : List Segment} {ss : List (List Char)}
    (h : List.Forall₂ Matches segments ss) :
    ((segments.flatMap names).map String.ofList).zip
        (((segments.zip ss).flatMap fun r => r.1.values r.2).map String.ofList) =
      (segments.zip ss).filterMap binding := by
  induction h with
  | nil => rfl
  | @cons segment s segments ss _ _ ih =>
    cases segment with
    | text cs => exact ih
    | hole name =>
      rw [List.zip_cons_cons, List.filterMap_cons, ← ih]
      rfl

end Segment

/-! ## Templates made of whole segments -/

namespace Template

open TemplatePart

variable {t : Template}

/-- A segment of a template is read as its own links. -/
lemma readsAs_segment {cs rest : List Char} {ls : List Link} (hwhole : (Segment.read cs).Whole)
    (h : ReadsAs rest ls) : ReadsAs (cs ++ rest) ((Segment.read cs).links ++ ls) := by
  rcases Segment.read_cases cs with hread | ⟨name, hread, rfl⟩
  · rw [hread] at hwhole ⊢
    exact h.text hwhole
  · rw [hread] at hwhole ⊢
    rw [List.cons_append, List.append_assoc]
    exact h.hole hwhole.1

lemma readsAs_tail {segments : List (List Char)}
    (hwhole : ∀ segment ∈ segments.map Segment.read, segment.Whole) :
    ReadsAs (segments.flatMap ('/' :: ·)) (Segment.tailLinks (segments.map Segment.read)) := by
  induction segments with
  | nil => exact readsAs_nil
  | cons cs segments ih =>
    rw [List.map_cons, List.forall_mem_cons] at hwhole
    have hslash : ReadsAs (['/'] ++ (cs ++ segments.flatMap ('/' :: ·)))
        (['/'].map .char ++ ((Segment.read cs).links ++
          Segment.tailLinks (segments.map Segment.read))) :=
      (readsAs_segment hwhole.1 (ih hwhole.2)).text (by decide)
    exact hslash

lemma readsAs_path {cs : List Char}
    (hwhole : ∀ segment ∈ (cs.splitOn '/').map Segment.read, segment.Whole) :
    ReadsAs cs (Segment.chain ((cs.splitOn '/').map Segment.read)) := by
  obtain ⟨s, rest, hsplit, hcs, -, -⟩ := exists_segments cs
  rw [hsplit] at hwhole ⊢
  rw [List.map_cons, List.forall_mem_cons] at hwhole
  have hpath := readsAs_segment hwhole.1 (readsAs_tail hwhole.2)
  rw [← hcs] at hpath
  exact hpath

/-- A hole among the links is a variable of the template. -/
lemma hole_mem_of_mem_chain {segments : List Segment} {name : List Char}
    (h : .hole name ∈ Segment.chain segments) : .hole name ∈ segments := by
  have hlinks : ∀ {segment : Segment}, .hole name ∈ segment.links → segment = .hole name := by
    intro segment hmem
    cases segment with
    | text cs => simp [Segment.links] at hmem
    | hole name' =>
      obtain rfl : name = name' := by simpa [Segment.links] using hmem
      rfl
  cases segments with
  | nil => simp [Segment.chain] at h
  | cons segment segments =>
    rw [Segment.chain, List.mem_append] at h
    rcases h with h | h
    · rw [hlinks h]
      exact List.mem_cons_self
    · obtain ⟨segment', hsegment, hmem⟩ := List.mem_flatMap.1 h
      have hmem : .hole name ∈ segment'.links := by simpa using hmem
      exact List.mem_cons_of_mem _ (hlinks hmem ▸ hsegment)

/-- The links of an escaped template that is made of whole segments. -/
lemma links_of_whole {parts : List TemplatePart} (hparts : variableParts t.path.toList = .ok parts)
    (hwhole : ∀ segment ∈ t.segments, segment.Whole) :
    links parts = Segment.chain t.segments ∧ ∀ name, .hole name ∈ parts → '>' ∉ name := by
  have hlinks : links parts = Segment.chain t.segments :=
    readsAs_path hwhole [] parts hparts
  refine ⟨hlinks, fun name hmem => ?_⟩
  rw [← hole_mem_links, hlinks] at hmem
  exact (hwhole _ (hole_mem_of_mem_chain hmem)).2

lemma within_read {cs : List Char} (h : '/' ∉ cs) : (Segment.read cs).Within := by
  rcases Segment.read_cases cs with hread | ⟨name, hread, -⟩
  · rw [hread]
    exact h
  · rw [hread]
    trivial

/-- The segments of a literal template are text. -/
lemma read_of_literal {cs : List Char} (h : '\x7b' ∉ cs) :
    (cs.splitOn '/').map Segment.read = (cs.splitOn '/').map Segment.text := by
  refine List.map_congr_left fun s hs => Segment.read_of_not_mem fun hmem => h ?_
  exact mem_of_mem_splitOn hs hmem

lemma sign_chain_text (s : List Char) (rest : List (List Char)) :
    (Segment.chain ((s :: rest).map Segment.text)).map Link.sign =
      s ++ rest.flatMap ('/' :: ·) := by
  have htext : ∀ cs : List Char, (Segment.text cs).links.map Link.sign = cs := by
    intro cs
    rw [Segment.links, List.map_map]
    exact List.map_id cs
  rw [List.map_cons, Segment.chain, List.map_append, htext, List.append_cancel_left_eq]
  induction rest with
  | nil => rfl
  | cons cs rest ih =>
    rw [List.map_cons, Segment.tailLinks, List.flatMap_cons, List.map_append, List.map_cons, htext,
      List.flatMap_cons, ← ih]
    rfl

/-- Text matches text only if it is the same, segment by segment. -/
lemma forall₂_text_iff {as bs : List (List Char)} :
    List.Forall₂ Segment.Matches (as.map Segment.text) bs ↔ as = bs := by
  rw [List.forall₂_map_left_iff]
  constructor
  · intro h
    induction h with
    | nil => rfl
    | cons heq _ ih => rw [ih, show _ = _ from heq]
  · rintro rfl
    exact List.forall₂_same.2 fun s _ => rfl

lemma of_literal_eq_ok {text : String} (h : literal text = .ok t) :
    '\x7b' ∉ t.path.toList ∧ terminator ∉ t.path.toList ∧
      t.key = keyOf (t.path.toList ++ [terminator]) ∧ t.regex = none := by
  obtain ⟨path, -, hbrace, -, hnul, rfl⟩ := literal_eq_ok.1 h
  exact ⟨hbrace, hnul, rfl, rfl⟩

lemma segments_ne_nil (t : Template) : t.segments ≠ [] := by
  obtain ⟨s, rest, hsplit, -, -, -⟩ := exists_segments t.path.toList
  simp [segments, pathSegments, hsplit]

lemma within_segments (t : Template) : ∀ segment ∈ t.segments, segment.Within := by
  intro segment hsegment
  obtain ⟨cs, hcs, rfl⟩ := List.mem_map.1 hsegment
  exact within_read (slash_not_mem_of_mem_splitOn hcs)

namespace Segmented

lemma compiled (h : t.Segmented) : t.Compiled := by
  cases h with
  | @literal text escaped compiled _ => exact ⟨.literal, text, escaped, compiled⟩
  | @escaped text compiled _ => exact ⟨.variable, text, true, compiled⟩

/-- The key of a template is put together from its segments. -/
lemma key_eq (h : t.Segmented) : t.key = Segment.key t.segments := by
  cases h with
  | literal compiled noStar =>
    obtain ⟨hbrace, -, hkey, -⟩ := of_literal_eq_ok compiled
    obtain ⟨s, rest, hsplit, hpath, -, -⟩ := exists_segments t.path.toList
    rw [Segment.key, segments, pathSegments, read_of_literal hbrace, hsplit, sign_chain_text,
      ← hpath, hkey, keyOf_terminated]
  | escaped compiled whole =>
    obtain ⟨parts, hparts, hkey, -⟩ := of_variableTemplate_eq_ok compiled
    rw [Segment.key, ← (links_of_whole hparts whole).1, hkey, shape_eq, keyOf_terminated]

/-- The text of a template holds neither of the marks of a key. -/
lemma clean (h : t.Segmented) : ∀ segment ∈ t.segments, segment.Clean := by
  cases h with
  | literal compiled noStar =>
    obtain ⟨hbrace, hnul, -, -⟩ := of_literal_eq_ok compiled
    rw [segments, pathSegments, read_of_literal hbrace]
    intro segment hsegment
    obtain ⟨cs, hcs, rfl⟩ := List.mem_map.1 hsegment
    exact ⟨fun hmem => noStar (mem_of_mem_splitOn hcs hmem),
      fun hmem => hnul (mem_of_mem_splitOn hcs hmem)⟩
  | escaped compiled whole =>
    obtain ⟨parts, hparts, -, -⟩ := of_variableTemplate_eq_ok compiled
    have hchar : ∀ c, .char c ∈ Segment.chain t.segments → c ≠ wildcard ∧ c ≠ terminator := by
      intro c hc
      rw [← (links_of_whole hparts whole).1] at hc
      exact (runsClean_variablePartsFrom hparts).of_char_mem hc
    intro segment hsegment
    cases segment with
    | text cs =>
      have hmem := fun c (hc : c ∈ cs) => hchar c (Segment.char_mem_chain hsegment hc)
      exact ⟨fun hc => (hmem _ hc).1 rfl, fun hc => (hmem _ hc).2 rfl⟩
    | hole name => trivial

/-- Without a variable, matching segment by segment is being the same text. -/
lemma matches_iff_of_literal (h : '\x7b' ∉ t.path.toList) {path : String} :
    t.Matches path ↔ t.path = path := by
  rw [Matches, segments, pathSegments, pathSegments, read_of_literal h, forall₂_text_iff]
  constructor
  · intro heq
    have hjoin : ['/'].intercalate (t.path.toList.splitOn '/') =
        ['/'].intercalate (path.toList.splitOn '/') := by rw [heq]
    rw [List.intercalate_splitOn, List.intercalate_splitOn] at hjoin
    exact String.toList_inj.1 hjoin
  · intro heq
    rw [heq]

/-- What a template made of whole segments captures: the paths that match it segment by segment,
with the segments in the places of its variables. -/
theorem capture?_eq_some_iff (h : t.Segmented) {path : String} {params : PathParams} :
    t.capture? path = some params ↔ t.Matches path ∧ params = t.expectedParams path := by
  cases h with
  | literal compiled noStar =>
    obtain ⟨hbrace, -, -, hregex⟩ := of_literal_eq_ok compiled
    have hcapture : t.capture? path = if t.path = path then some .none else none := by
      rw [capture?, hregex]
    have hexpected : t.expectedParams path = .none := by
      rw [expectedParams, isLiteral, hregex]
      rfl
    rw [matches_iff_of_literal hbrace, hcapture, hexpected]
    by_cases hown : t.path = path
    · simp [hown, eq_comm]
    · simp [hown]
  | escaped compiled whole =>
    obtain ⟨parts, hparts, -, hholes⟩ := of_variableTemplate_eq_ok compiled
    obtain ⟨hlinks, hnames⟩ := links_of_whole hparts whole
    have hcut := Segment.cut_eq_some_iff (segments_ne_nil t) (within_segments t) path.toList
    have hexpected : t.expectedParams path = .named (t.bindings path) := by
      rw [expectedParams, hholes]
      rfl
    rw [capture?_of_escaped compiled hparts hnames, hlinks, Option.map_eq_some_iff,
      Segment.names_chain, hexpected]
    simp only [hcut]
    constructor
    · rintro ⟨vs, ⟨hmatches, rfl⟩, rfl⟩
      exact ⟨hmatches, congrArg _ (Segment.zip_names_values hmatches)⟩
    · rintro ⟨hmatches, rfl⟩
      exact ⟨_, ⟨hmatches, rfl⟩, congrArg _ (Segment.zip_names_values hmatches)⟩

end Segmented

end Template

end UriRouting
