import UriRouting.Proofs.Regex.Chain
import UriRouting.Regex.Basic

/-!
# Reading a chain

The text of an escaped template is the text of a chain: characters, with a backslash where they
might mean something else, and groups `(?<name>[^/]*)`.  If the reader takes such a text at all,
it reads the chain (`Link.ofText?_eq_some`).  It may refuse it, for a name that is none or that
stands twice, but no name can make it read anything else as long as it has no `>`.
-/

namespace UriRouting.Regex

/-! ## Single signs -/

lemma skip_default (cs : List Char) : ({} : Flags).skip cs = cs := rfl

lemma readAll_cons (fuel : ℕ) {s : ReaderState} (hflags : s.flags = {}) (c : Char)
    (cs : List Char) :
    readAll (fuel + 1) s (c :: cs) = (readSign s c cs).bind fun r => readAll fuel r.1 r.2 := by
  rw [readAll, hflags, skip_default]

lemma readAll_eq_some {fuel : ℕ} {s t : ReaderState} {c : Char} {cs : List Char}
    (hflags : s.flags = {})
    (h : readAll fuel s (c :: cs) = some t) :
    ∃ fuel', (readSign s c cs).bind (fun r => readAll fuel' r.1 r.2) = some t := by
  cases fuel with
  | zero => simp [readAll] at h
  | succ fuel =>
    rw [readAll_cons fuel hflags] at h
    exact ⟨fuel, h⟩

lemma readAll_nil {fuel : ℕ} {s t : ReaderState} (hflags : s.flags = {})
    (h : readAll fuel s [] = some t) : t = s := by
  cases fuel with
  | zero => simp [readAll] at h
  | succ fuel =>
    rw [readAll, hflags, skip_default] at h
    exact (Option.some.inj h).symm

lemma Piece.expr_sequence (ps : List Piece) :
    (Piece.sequence ps).expr = .catList (ps.reverse.map Piece.expr) := by
  cases ps with
  | nil => rfl
  | cons p ps => cases ps <;> rfl

/-- The characters that mean something other than themselves outside of classes and of verbose
mode. -/
def isOperator (c : Char) : Bool :=
  "\\.+*?()|[]\x7b\x7d^$".toList.contains c

lemma isMeta_eq (c : Char) : isMeta c = (isOperator c || "#&-~".toList.contains c) := by
  simp [isMeta, isOperator, Bool.or_assoc]

/-- A sign that is no operator stands for itself. -/
lemma readSign_of_not_isOperator {s : ReaderState} {c : Char} (hflags : s.flags = {})
    (hc : isOperator c = false) (rest : List Char) :
    readSign s c rest = some (s.push (.leaf (.item (.one c))), rest) := by
  have hne : ∀ d, isOperator d = true → c ≠ d := fun d hd h => by simp [h, hd] at hc
  unfold readSign
  split
  iterate 12 exact absurd rfl (hne _ (by decide))
  rw [hflags]
  rfl

/-- A backslash takes the meaning from a sign. -/
lemma readSign_backslash {s : ReaderState} {c : Char} (hflags : s.flags = {}) (hc : isMeta c = true)
    (rest : List Char) :
    readSign s '\\' (c :: rest) = some (s.push (.leaf (.item (.one c))), rest) := by
  have hescape : isEscapable c = true := by simp [isEscapable, hc]
  have hread : readEscape {} (c :: rest) = some (.char c false, rest) := by
    unfold readEscape
    exact if_pos hescape
  unfold readSign
  rw [hflags]
  simp only [hread, Option.bind_eq_bind, Option.bind_some]
  rfl

/-- The class of the groups. -/
lemma readBracket_notSlash (rest : List Char) :
    readBracket {} ('^' :: '/' :: ']' :: rest) = some (⟨Link.notSlash, 1⟩, rest) := by
  rfl

/-- The name of a group ends at the first `>`. -/
lemma readGroupName_eq_some {read name rest : List Char} {r : String × List Char}
    (hname : '>' ∉ name) (h : readGroupName read (name ++ '>' :: rest) = some r) :
    r = (String.ofList (read.reverse ++ name), rest) := by
  induction name generalizing read with
  | nil =>
    simp only [List.nil_append, readGroupName, if_true] at h
    split at h
    · simp at h
    · rw [List.append_nil]
      exact (Option.some.inj h).symm
  | cons c name ih =>
    simp only [List.mem_cons, not_or] at hname
    simp only [List.cons_append, readGroupName, if_neg (Ne.symm hname.1)] at h
    have hrest (h : readGroupName (c :: read) (name ++ '>' :: rest) = some r) :
        r = (String.ofList (read.reverse ++ c :: name), rest) := by
      rw [ih hname.2 h, List.reverse_cons, List.append_assoc, List.singleton_append]
    split at h
    · exact hrest h
    · split at h
      · exact hrest h
      · simp at h

/-- A group with a name is opened if no other group has the name. -/
lemma openCapture_some (s : ReaderState) (name : String) :
    s.openCapture (some name) =
      if name ∈ s.names then none
      else some ({ s with groups := s.groups + 1, names := name :: s.names }.openGroup
        (some (s.groups + 1, some name)) s.flags) := by
  simp [ReaderState.openCapture]

/-- A named group whose name is no look-around sign. -/
lemma readGroup_named {s : ReaderState} (hflags : s.flags = {}) {c : Char} (hahead : c ≠ '=')
    (hnot : c ≠ '!') (cs : List Char) :
    readGroup s ('?' :: '<' :: c :: cs) = (readGroupName [] (c :: cs)).bind fun r =>
      (s.openCapture (some r.1)).bind fun t => some (t, r.2) := by
  simp [readGroup, hflags, skip_default, hahead, hnot]

/-- The name of a group that is opened starts with no look-around sign, it can be read, and no group
before has it. -/
lemma exists_name_of_readGroup {s : ReaderState} {name rest : List Char}
    {r : ReaderState × List Char} (hflags : s.flags = {}) (hname : '>' ∉ name)
    (h : readGroup s ('?' :: '<' :: (name ++ '>' :: rest)) = some r) :
    ∃ c inner, name = c :: inner ∧ c ≠ '=' ∧ c ≠ '!' ∧
      readGroupName [] (name ++ '>' :: rest) = some (String.ofList name, rest) ∧
      String.ofList name ∉ s.names := by
  cases name with
  | nil => simp [readGroup, hflags, skip_default, readGroupName] at h
  | cons c name =>
    have hahead : c ≠ '=' := by
      rintro rfl
      simp [readGroup, hflags, skip_default] at h
    have hnot : c ≠ '!' := by
      rintro rfl
      simp [readGroup, hflags, skip_default] at h
    rw [List.cons_append, readGroup_named hflags hahead hnot] at h
    obtain ⟨read, hread, h⟩ := Option.bind_eq_some_iff.1 h
    obtain ⟨t, ht, -⟩ := Option.bind_eq_some_iff.1 h
    obtain rfl := readGroupName_eq_some hname hread
    refine ⟨c, name, rfl, hahead, hnot, hread, fun hmem => ?_⟩
    rw [openCapture_some, List.reverse_nil, List.nil_append, if_pos hmem] at ht
    simp at ht

/-- A named group is opened under its name. -/
lemma readGroup_eq_some {s : ReaderState} {name rest : List Char} {r : ReaderState × List Char}
    (hflags : s.flags = {}) (hname : '>' ∉ name)
    (h : readGroup s ('?' :: '<' :: (name ++ '>' :: rest)) = some r) :
    r = ({ s with
        groups := s.groups + 1
        names := String.ofList name :: s.names }.openGroup
          (some (s.groups + 1, some (String.ofList name))) {}, rest) := by
  obtain ⟨c, inner, rfl, hahead, hnot, hread, hnew⟩ := exists_name_of_readGroup hflags hname h
  rw [List.cons_append, readGroup_named hflags hahead hnot, ← List.cons_append, hread,
    Option.bind_some, openCapture_some, if_neg hnew, Option.bind_some] at h
  rw [← Option.some.inj h, hflags]

namespace Link

/-! ## Links -/

/-- The text of a link. -/
def source : Link → List Char
  | char c => escape [c]
  | hole name => "(?<".toList ++ name ++ ">[^/]*)".toList

/-- The text of a link, with a backslash in front of the characters that are escaped, or without. -/
def written (escaped : Bool) : Link → List Char
  | char c => if escaped then escape [c] else [c]
  | hole name => (hole name).source

lemma written_true : written true = source := by
  funext link
  cases link <;> rfl

lemma length_written_pos (escaped : Bool) (link : Link) : 0 < (link.written escaped).length := by
  cases link with
  | char c =>
    cases escaped with
    | false => exact Nat.one_pos
    | true =>
      rw [written, if_pos rfl, escape, List.flatMap_singleton]
      split <;> simp
  | hole name => simp [written, source]

lemma source_hole_append (name rest : List Char) :
    (hole name).source ++ rest =
      '(' :: '?' :: '<' :: (name ++ '>' :: '[' :: '^' :: '/' :: ']' :: '*' :: ')' :: rest) := by
  simp [source]

/-- What the reader has read after one link more. -/
def read (s : ReaderState) : Link → ReaderState
  | char c => s.push (.leaf (.item (.one c)))
  | hole name =>
    { s with
      groups := s.groups + 1
      names := String.ofList name :: s.names
      items := ⟨.group (s.groups + 1) (some (String.ofList name))
        (.rep 0 none true (.item notSlash)),
        3, true⟩ :: s.items }

lemma flags_read (s : ReaderState) (link : Link) : (read s link).flags = s.flags := by
  cases link <;> rfl

/-- A character takes one round, with a backslash or without, and only an operator needs one. -/
lemma readAll_char (fuel : ℕ) {s : ReaderState} {c : Char} {escaped : Bool} (hflags : s.flags = {})
    (hc : isOperator c = true → escaped = true) (rest : List Char) :
    readAll (fuel + 1) s ((char c).written escaped ++ rest) =
      readAll fuel (read s (char c)) rest := by
  have hself (h : isOperator c = false) :
      readAll (fuel + 1) s (c :: rest) = readAll fuel (read s (char c)) rest := by
    rw [readAll_cons fuel hflags, readSign_of_not_isOperator hflags h]
    rfl
  cases escaped with
  | false => exact hself (by simpa using hc)
  | true =>
    rw [written, if_pos rfl, escape, List.flatMap_singleton]
    cases hmeta : isMeta c with
    | true =>
      rw [if_pos rfl, List.cons_append, List.singleton_append, readAll_cons fuel hflags,
        readSign_backslash hflags hmeta]
      rfl
    | false =>
      rw [isMeta_eq, Bool.or_eq_false_iff] at hmeta
      rw [if_neg Bool.false_ne_true]
      exact hself hmeta.1

/-- The reader takes a link as a whole, or not at all. -/
lemma readAll_source {fuel : ℕ} {s t : ReaderState} {link : Link} {rest : List Char}
    (hflags : s.flags = {}) (hname : ∀ name, link = .hole name → '>' ∉ name)
    (h : readAll fuel s (link.source ++ rest) = some t) :
    ∃ fuel', readAll fuel' (read s link) rest = some t := by
  cases link with
  | char c =>
    cases fuel with
    | zero => simp [readAll] at h
    | succ fuel =>
      rw [← written_true, readAll_char fuel hflags fun _ => rfl] at h
      exact ⟨fuel, h⟩
  | hole name =>
    rw [source_hole_append] at h
    -- the parenthesis with the name of the group
    obtain ⟨fuel₁, h⟩ := readAll_eq_some hflags h
    obtain ⟨r, hopen, h⟩ := Option.bind_eq_some_iff.1 h
    obtain rfl := readGroup_eq_some hflags (hname name rfl) hopen
    -- the class
    obtain ⟨fuel₂, h⟩ := readAll_eq_some rfl h
    simp only [readSign, ReaderState.openGroup, readBracket_notSlash, Option.map_some,
      Option.bind_some] at h
    -- its repetition
    obtain ⟨fuel₃, h⟩ := readAll_eq_some rfl h
    simp only [readSign, readGreed, ReaderState.push, ReaderState.repeatLast, if_true,
      Option.map_some, Option.bind_some] at h
    -- the end of the group
    obtain ⟨fuel₄, h⟩ := readAll_eq_some rfl h
    simp only [readSign, ReaderState.closeGroup, Option.map_some, Option.bind_some] at h
    refine ⟨fuel₄, ?_⟩
    rw [← h, read]
    rfl

/-- The reader takes the text of a chain link by link. -/
lemma readAll_sources {fuel : ℕ} {s t : ReaderState} {links : List Link} {rest : List Char}
    (hflags : s.flags = {}) (hnames : ∀ name, .hole name ∈ links → '>' ∉ name)
    (h : readAll fuel s (links.flatMap source ++ rest) = some t) :
    ∃ fuel', readAll fuel' (links.foldl read s) rest = some t ∧
      (links.foldl read s).flags = {} := by
  induction links generalizing fuel s with
  | nil => exact ⟨fuel, h, hflags⟩
  | cons link links ih =>
    rw [List.flatMap_cons, List.append_assoc] at h
    obtain ⟨fuel', h⟩ := readAll_source hflags
      (fun name hlink => hnames name (hlink ▸ List.mem_cons_self)) h
    exact ih ((flags_read s link).trans hflags)
      (fun name hmem => hnames name (List.mem_cons_of_mem _ hmem)) h

/-- What has been read of a chain and the end of the text. -/
lemma items_foldl_read (s : ReaderState) (links : List Link) :
    (.look .textEnd :: (links.foldl read s).items.map Piece.expr).reverse =
      (s.items.map Piece.expr).reverse ++ exprs links (s.groups + 1) := by
  induction links generalizing s with
  | nil => simp [exprs]
  | cons link links ih =>
    rw [List.foldl_cons, ih]
    cases link <;> simp [read, exprs, ReaderState.push, Piece.leaf]

lemma stack_foldl_read (s : ReaderState) (links : List Link) :
    (links.foldl read s).stack = s.stack ∧ (links.foldl read s).branches = s.branches := by
  induction links generalizing s with
  | nil => exact ⟨rfl, rfl⟩
  | cons link links ih =>
    rw [List.foldl_cons, (ih _).1, (ih _).2]
    cases link <;> exact ⟨rfl, rfl⟩

/-- If the text of a chain is taken for an expression, it is the expression of the chain. -/
theorem ofText?_eq_some {links : List Link} {x : Expr}
    (hnames : ∀ name, .hole name ∈ links → '>' ∉ name)
    (h : Expr.ofText? ('^' :: (links.flatMap source ++ ['$'])) = some x) : x = expr links := by
  obtain ⟨t, ht, hfinish⟩ := Option.bind_eq_some_iff.1 h
  obtain ⟨fuel, ht⟩ := readAll_eq_some rfl ht
  have ht : readAll fuel (ReaderState.start.push (.leaf (.look .textStart)))
      (links.flatMap source ++ ['$']) = some t := ht
  obtain ⟨fuel', ht, hflags⟩ := readAll_sources rfl hnames ht
  obtain ⟨fuel'', ht⟩ := readAll_eq_some hflags ht
  simp only [readSign, Option.bind_some, hflags] at ht
  generalize hs : links.foldl read (ReaderState.start.push (.leaf (.look .textStart))) = s at *
  obtain rfl : t = s.push (.leaf (.look .textEnd)) :=
    readAll_nil (s := s.push (.leaf (.look .textEnd))) hflags ht
  have hbranches : s.branches = [] := by rw [← hs, (stack_foldl_read _ links).2]; rfl
  have hitems := items_foldl_read (ReaderState.start.push (.leaf (.look .textStart))) links
  unfold ReaderState.finish at hfinish
  split at hfinish
  · have hbody : (s.push (.leaf (.look .textEnd))).body =
        Piece.sequence (.leaf (.look .textEnd) :: s.items) := by
      simp only [ReaderState.body, ReaderState.push, hbranches, Piece.choice]
    rw [← Option.some.inj hfinish, hbody, Piece.expr_sequence, expr, List.map_reverse]
    rw [hs] at hitems
    exact congrArg Expr.catList hitems
  · simp at hfinish

end Link

end UriRouting.Regex
