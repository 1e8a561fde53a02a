import UriRouting.Proofs.Regex.Anchors

/-!
# Chains without anchors

A template is compiled between anchors, and nothing is known at first of its body alone.  The text
of a chain, however, is read link by link, and whether a link can be read does not depend on what
stands around it, but for the names that are taken (`Link.readAll_append`).  So a chain that can be
read between anchors can be read alone (`Link.readAll_alone`).  It has a single alternative, and it
ends outside of verbose mode and of multi-line mode: what is found between the anchors is a match of
the chain alone, from the first character to the last (`Link.exists_matches_of_captures?`).
-/

namespace UriRouting.Regex

/-! ## Rounds -/

/-- More rounds than are needed change nothing. -/
lemma readAll_mono {fuel fuel' : ℕ} {s t : ReaderState} {cs : List Char}
    (h : readAll fuel s cs = some t) (hle : fuel ≤ fuel') : readAll fuel' s cs = some t := by
  induction fuel generalizing fuel' s cs with
  | zero => simp [readAll] at h
  | succ fuel ih =>
    obtain ⟨fuel', rfl⟩ : ∃ n, fuel' = n + 1 := ⟨fuel' - 1, by omega⟩
    rw [readAll] at h ⊢
    split at h
    · exact h
    · obtain ⟨⟨s', cs'⟩, hsign, h⟩ := Option.bind_eq_some_iff.1 h
      exact Option.bind_eq_some_iff.2 ⟨_, hsign, ih h (by omega)⟩

/-! ## Names -/

/-- Whether a name can be read does not depend on what follows it. -/
lemma readGroupName_exchange {read name rest : List Char} {r : String × List Char}
    (hname : '>' ∉ name) (h : readGroupName read (name ++ '>' :: rest) = some r)
    (rest' : List Char) :
    readGroupName read (name ++ '>' :: rest') =
      some (String.ofList (read.reverse ++ name), rest') := by
  induction name generalizing read with
  | nil =>
    simp only [List.nil_append, readGroupName, if_true] at h ⊢
    split at h
    · simp at h
    · next hread => rw [if_neg hread, List.append_nil]
  | cons c name ih =>
    simp only [List.mem_cons, not_or] at hname
    simp only [List.cons_append, readGroupName, if_neg (Ne.symm hname.1)] at h ⊢
    have hrest (h : readGroupName (c :: read) (name ++ '>' :: rest) = some r) :
        readGroupName (c :: read) (name ++ '>' :: rest') =
          some (String.ofList (read.reverse ++ c :: name), rest') := by
      rw [ih hname.2 h, List.reverse_cons, List.append_assoc, List.singleton_append]
    split at h
    · next hc => rw [if_pos hc, hrest h]
    · next hc =>
      rw [if_neg hc]
      split at h
      · next hc' => rw [if_pos hc', hrest h]
      · simp at h

/-- Whether a named group can be opened depends on its name and on the names before it. -/
lemma readGroup_exchange {s s' : ReaderState} {name rest : List Char}
    {r : ReaderState × List Char} (hflags : s.flags = {}) (hflags' : s'.flags = {})
    (hnames : s'.names = s.names) (hname : '>' ∉ name)
    (h : readGroup s ('?' :: '<' :: (name ++ '>' :: rest)) = some r) (rest' : List Char) :
    readGroup s' ('?' :: '<' :: (name ++ '>' :: rest')) =
      some ({ s' with
        groups := s'.groups + 1
        names := String.ofList name :: s'.names }.openGroup
          (some (s'.groups + 1, some (String.ofList name))) {}, rest') := by
  obtain ⟨c, inner, rfl, hahead, hnot, hread, hnew⟩ := exists_name_of_readGroup hflags hname h
  have hread' := readGroupName_exchange hname hread rest'
  rw [List.cons_append, readGroup_named hflags' hahead hnot, ← List.cons_append, hread',
    Option.bind_some, List.reverse_nil, List.nil_append, openCapture_some, hnames, if_neg hnew,
    Option.bind_some, hflags']

namespace Link

/-! ## Links -/

/-- A link that is read in front of one text is read in front of any other, in any state with the
same names. -/
lemma readAll_append {fuel fuel' : ℕ} {s s' t t' : ReaderState} {link : Link}
    {rest rest' : List Char} (hflags : s.flags = {}) (hflags' : s'.flags = {})
    (hnames : s'.names = s.names) (hname : ∀ name, link = .hole name → '>' ∉ name)
    (h : readAll fuel s (link.source ++ rest) = some t)
    (hrest : readAll fuel' (read s' link) rest' = some t') :
    readAll (fuel' + link.source.length) s' (link.source ++ rest') = some t' := by
  cases link with
  | char c =>
    have hround : readAll (fuel' + 1) s' ((char c).source ++ rest') = some t' := by
      rw [← written_true, readAll_char fuel' hflags' fun _ => rfl]
      exact hrest
    exact readAll_mono hround (Nat.add_le_add_left (length_written_pos true (char c)) fuel')
  | hole name =>
    rw [source_hole_append] at h ⊢
    obtain ⟨fuel₁, h⟩ := readAll_eq_some hflags h
    obtain ⟨r, hopen, -⟩ := Option.bind_eq_some_iff.1 h
    have hopen' := readGroup_exchange hflags hflags' hnames (hname name rfl) hopen
      ('[' :: '^' :: '/' :: ']' :: '*' :: ')' :: rest')
    have hgreed : readGreed (')' :: rest') = (true, ')' :: rest') := rfl
    -- the rounds are those of the parenthesis, the class, its repetition and the end of the group
    have hrounds : readAll (fuel' + 4) s'
        ('(' :: '?' :: '<' :: (name ++ '>' :: '[' :: '^' :: '/' :: ']' :: '*' :: ')' :: rest')) =
          some t' := by
      rw [readAll_cons _ hflags', readSign, hopen', Option.bind_some, readAll_cons _ rfl]
      simp only [readSign, ReaderState.openGroup, readBracket_notSlash, Option.map_some,
        Option.bind_some]
      rw [readAll_cons _ rfl]
      simp only [readSign, hgreed, ReaderState.push, ReaderState.repeatLast, if_true,
        Option.map_some, Option.bind_some]
      rw [readAll_cons _ rfl]
      simp only [readSign, ReaderState.closeGroup, Option.map_some, Option.bind_some]
      rw [← hrest, read]
      rfl
    exact readAll_mono hrounds (by simp [source])

/-- A chain that is read in front of some text is read alone. -/
theorem readAll_alone {fuel : ℕ} {s s' t : ReaderState} {links : List Link} {rest : List Char}
    (hflags : s.flags = {}) (hflags' : s'.flags = {}) (hnames : s'.names = s.names)
    (hholes : ∀ name, .hole name ∈ links → '>' ∉ name)
    (h : readAll fuel s (links.flatMap source ++ rest) = some t) :
    readAll ((links.flatMap source).length + 1) s' (links.flatMap source) =
      some (links.foldl read s') := by
  induction links generalizing fuel s s' with
  | nil => exact readAll_end 0 s'
  | cons link links ih =>
    rw [List.flatMap_cons, List.append_assoc] at h
    have hname : ∀ name, link = .hole name → '>' ∉ name := fun name hlink =>
      hholes name (hlink ▸ List.mem_cons_self)
    obtain ⟨fuel', hrest⟩ := readAll_source hflags hname h
    have hnames' : (read s' link).names = (read s link).names := by
      cases link with
      | char c => exact hnames
      | hole name => exact congrArg (String.ofList name :: ·) hnames
    have halone := ih ((flags_read s link).trans hflags) ((flags_read s' link).trans hflags')
      hnames' (fun name hmem => hholes name (List.mem_cons_of_mem _ hmem)) hrest
    rw [List.flatMap_cons, List.length_append, List.foldl_cons, Nat.add_assoc, Nat.add_comm]
    exact readAll_append hflags hflags' hnames hname h halone

lemma flags_foldl_read (s : ReaderState) (links : List Link) :
    (links.foldl read s).flags = s.flags := by
  induction links generalizing s with
  | nil => rfl
  | cons link links ih => exact (ih _).trans (flags_read s link)

/-! ## Nesting -/

lemma depth_le_of_mem_items {s : ReaderState} (links : List Link)
    (h : ∀ p ∈ s.items, p.depth ≤ 3) : ∀ p ∈ (links.foldl read s).items, p.depth ≤ 3 := by
  induction links generalizing s with
  | nil => exact h
  | cons link links ih =>
    refine ih ?_
    cases link with
    | char c => exact List.forall_mem_cons.2 ⟨Nat.zero_le 3, h⟩
    | hole name => exact List.forall_mem_cons.2 ⟨le_refl 3, h⟩

lemma depth_sequence_le {ps : List Piece} {n : ℕ} (h : ∀ p ∈ ps, p.depth ≤ n) :
    (Piece.sequence ps).depth ≤ n + 1 := by
  have habove : Piece.depthAbove ps ≤ n + 1 := by
    have hmax : (ps.map Piece.depth).foldl max 0 ≤ n :=
      List.foldlRecOn (motive := (· ≤ n)) _ _ (Nat.zero_le n) fun m hm d hd => by
        obtain ⟨p, hp, rfl⟩ := List.mem_map.1 hd
        exact max_le hm (h p hp)
    rw [Piece.depthAbove, Nat.add_comm]
    exact Nat.succ_le_succ hmax
  cases ps with
  | nil => exact Nat.zero_le _
  | cons p ps =>
    cases ps with
    | nil => exact (h p List.mem_cons_self).trans n.le_succ
    | cons q ps => exact habove

/-- A chain alone is an expression. -/
lemma exists_finish (links : List Link) :
    ∃ x, (links.foldl read .start).finish = some x := by
  have hbranches := (stack_foldl_read .start links).2
  have hdepth : (links.foldl read .start).body.depth ≤ depthLimit := by
    rw [ReaderState.body, hbranches]
    have hitems : ∀ p ∈ (links.foldl read .start).items, p.depth ≤ 3 :=
      depth_le_of_mem_items links (by simp [ReaderState.start])
    exact (depth_sequence_le hitems).trans (by decide)
  refine ⟨_, if_pos ?_⟩
  rw [(stack_foldl_read .start links).1, Bool.and_eq_true, decide_eq_true_eq]
  exact ⟨rfl, hdepth⟩

/-- Where the search for the chain between anchors is successful, the chain alone matches the whole
text. -/
theorem exists_matches_of_captures? {links : List Link} {y : Expr}
    (hholes : ∀ name, .hole name ∈ links → '>' ∉ name)
    (hy : Expr.ofText? ('^' :: (links.flatMap Link.source ++ ['$'])) = some y) {source : String}
    {text : List Char} (h : ((ofExpr source y).captures? text).isSome) :
    ∃ x, Expr.ofText? (links.flatMap Link.source) = some x ∧ x.Matches text := by
  obtain ⟨s, hs, -⟩ := Option.bind_eq_some_iff.1 hy
  obtain ⟨fuel, hs⟩ := readAll_eq_some rfl hs
  have hread : readAll fuel (ReaderState.start.push (.leaf (.look .textStart)))
      (links.flatMap Link.source ++ ['$']) = some s := hs
  have halone : readAll ((links.flatMap Link.source).length + 1) .start
      (links.flatMap Link.source) = some (links.foldl read .start) :=
    readAll_alone (s := ReaderState.start.push _) rfl rfl rfl hholes hread
  obtain ⟨x, hx⟩ := exists_finish links
  have hflags := flags_foldl_read .start links
  have hone : (links.foldl read .start).alternatives.length = 1 := by
    rw [ReaderState.alternatives, (stack_foldl_read .start links).2]
    rfl
  refine ⟨x, ?_, Regex.matches_of_captures? hy halone hx (by rw [hflags]; rfl)
    (by rw [hflags]; rfl) hone h⟩
  rw [Expr.ofText?, halone, Option.bind_some, hx]

end Link

end UriRouting.Regex
