import UriRouting.Proofs.Router.Literal

/-!
# Literal routes in the trie

Nothing keeps a literal mapping out of a trie, where its text may hold a `*` that looks like a hole.
Its own path finds it all the same, whatever else is stored: at every branch the byte of the path is
tried before the edge for a hole, so the first leaf that is asked is the one whose key the path
spells (`Node.search_of_spelled`).

So a trie of literal mappings is a table of paths.  `RouteTrie.Agree` relates the two, an insertion
keeps them together unless the trie refuses it (`RouteTrie.Agree.insert`), and in the end they cannot
be told apart (`RouteTrie.literals_found_first`).
-/

namespace UriRouting

variable {H : Type}

namespace Node

/-- A path that spells what is left of a key leads to the mapping under the key before any other
one is asked. -/
theorem search_of_spelled {node : Node H} {path : List UInt8} (h : node.Valid path) {m : Mapping H}
    (hm : m ∈ node.leaves) {rest : List UInt8} (hkey : m.key = path ++ (rest ++ [endByte]))
    {p : String} {r : Match H} (hacc : m.match? p = some r) : node.search p rest = some r := by
  induction h generalizing rest with
  | leaf =>
    rw [Node.leaves, List.mem_singleton] at hm
    rw [Node.search, ← hm]
    exact hacc
  | @branch path run size edges shape children ih =>
    have hv := Valid.branch shape children
    obtain ⟨key, c, below, hget, hmc, hbelow⟩ := hv.exists_child hm
    have hrest : rest ++ [endByte] = run ++ key :: below := by
      rw [hkey, List.append_assoc, List.append_cancel_left_eq] at hbelow
      exact hbelow
    obtain ⟨rest, rfl⟩ : ∃ more, rest = run ++ more := by
      rcases List.append_eq_append_iff.1 hrest with ⟨more, hrun, hend⟩ | ⟨more, hmore, -⟩
      · cases more with
        | nil => exact ⟨[], by simpa using hrun.symm⟩
        | cons b more =>
          -- the mark of the end would stand within the run
          obtain ⟨rfl, -⟩ := List.cons.inj hend
          exact absurd (by simp [hrun]) shape.noEnd
      · exact ⟨more, hmore⟩
    rw [List.append_assoc, List.append_cancel_left_eq] at hrest
    rw [search_branch, Edges.searchLiteral_eq]
    have hfirst : ((edges.get? (rest.headD endByte)).bind fun c => c.search p rest.tail) =
        some r := by
      cases rest with
      | nil =>
        obtain ⟨rfl, -⟩ := List.cons.inj hrest
        obtain ⟨n, rfl, -⟩ := hv.leaf_of_end hget
        rw [Node.leaves, List.mem_singleton] at hmc
        rw [List.headD_nil, hget, Option.bind_some, Node.search, ← hmc]
        exact hacc
      | cons b rest =>
        rw [List.cons_append, List.cons.injEq] at hrest
        obtain ⟨rfl, rfl⟩ := hrest
        rw [List.headD_cons, List.tail_cons, hget, Option.bind_some]
        exact ih b c hget hmc (by rw [hbelow]; simp)
    rw [hfirst]
    rfl

end Node

namespace RouteTrie

/-! ## The path of a literal mapping -/

lemma match?_of_isLiteral {m : Mapping H} (h : m.template.isLiteral = true) {p : String}
    {r : Match H} : m.match? p = some r ↔ m.template.path = p ∧ r = Router.literalMatch m := by
  rw [Template.isLiteral, Option.isNone_iff_eq_none] at h
  rw [Mapping.match?, Template.capture?, h]
  by_cases hpath : m.template.path = p
  · simp [hpath, Router.literalMatch, eq_comm]
  · simp [hpath]

/-- A literal mapping is found under its own path. -/
lemma lookup_path_of_isLiteral {t : RouteTrie H} (h : t.Valid) {m : Mapping H} (hm : m ∈ t.leaves)
    (hc : m.Compiled) (hl : m.template.isLiteral = true) :
    t.lookup m.template.path = some (Router.literalMatch m) := by
  cases hroot : t.root with
  | none => simp [leaves, hroot] at hm
  | some root =>
    rw [leaves, hroot] at hm
    have hkey : m.key = [] ++ (bytesOf m.template.path ++ [endByte]) := by
      rw [List.nil_append, ← Template.keyOf_terminated]
      exact hc.key_of_isLiteral hl
    rw [lookup, hroot, Option.bind_some]
    exact Node.search_of_spelled (h.nodes root hroot) hm hkey
      ((match?_of_isLiteral hl).2 ⟨rfl, rfl⟩)

/-! ## A table of paths -/

/-- A trie and a table that hold the same literal mappings, the table under their paths. -/
structure Agree (t : RouteTrie H) (e : ExactTable H) : Prop where
  valid : t.Valid
  literal : ∀ m ∈ t.leaves, m.Compiled ∧ m.template.isLiteral = true
  entries : ∀ path m, e.get? path = some m ↔ m ∈ t.leaves ∧ m.template.path = path
  size_eq : t.size = e.size

lemma agree_empty : Agree (empty : RouteTrie H) ExactTable.empty where
  valid := valid_empty
  literal := by simp [empty, leaves]
  entries := by simp [empty, leaves, ExactTable.empty, ExactTable.get?]
  size_eq := rfl

namespace Agree

variable {t : RouteTrie H} {e : ExactTable H} {m : Mapping H}

/-- The two find the same. -/
theorem lookup_eq (h : t.Agree e) (p : String) :
    t.lookup p = (e.get? p).map Router.literalMatch := by
  refine Option.ext fun r => ?_
  rw [Option.map_eq_some_iff]
  constructor
  · intro hr
    obtain ⟨hmem, hmatch⟩ := lookup_eq_some hr
    obtain ⟨hpath, heq⟩ := (match?_of_isLiteral (h.literal _ hmem).2).1 hmatch
    exact ⟨r.mapping, (h.entries p r.mapping).2 ⟨hmem, hpath⟩, heq.symm⟩
  · rintro ⟨m, hget, rfl⟩
    obtain ⟨hmem, rfl⟩ := (h.entries p m).1 hget
    obtain ⟨hc, hl⟩ := h.literal m hmem
    exact lookup_path_of_isLiteral h.valid hmem hc hl

/-- A literal mapping that the trie does not refuse is taken in by both or by neither. -/
theorem insert (h : t.Agree e) (hc : m.Compiled) (hl : m.template.isLiteral = true)
    (hroom : (t.insert m).isFull = false) :
    (t.after m).Agree (e.insert m.template.path m).2 ∧
      ((e.insert m.template.path m).1 = true ↔ ∃ t', t.insert m = .added t') ∧
      ((e.insert m.template.path m).1 = false ↔ t.insert m = .present) := by
  have hspec := insert_spec h.valid hc.ended
  cases hins : t.insert m with
  | added t' =>
    rw [hins] at hspec
    cases hspec with
    | added valid leaves fresh =>
      have hnone : e.get? m.template.path = none := by
        refine Option.eq_none_iff_forall_ne_some.2 fun n hget => ?_
        obtain ⟨hn, hpath⟩ := (h.entries _ n).1 hget
        obtain ⟨hnc, hnl⟩ := h.literal n hn
        have hkey : n.key = m.key := by
          rw [Mapping.key, Mapping.key, hnc.key_of_isLiteral hnl, hc.key_of_isLiteral hl, hpath]
        exact fresh n hn hkey
      have hentered : (e.insert m.template.path m).1 = true := by
        rw [ExactTable.insert_fst, hnone]
        rfl
      rw [after_of_added hins]
      refine ⟨⟨valid, fun n hn => ?_, fun path n => ?_, ?_⟩, by simp [hentered], by simp [hentered]⟩
      · rcases List.mem_cons.1 (leaves.mem_iff.1 hn) with rfl | hn
        · exact ⟨hc, hl⟩
        · exact h.literal n hn
      · rw [ExactTable.get?_insert, leaves.mem_iff, List.mem_cons, Option.or_eq_some_iff,
          h.entries]
        by_cases hpath : m.template.path = path
        · subst hpath
          simp only [hnone, if_true, Option.some.injEq, true_and]
          constructor
          · rintro (⟨hn, hnpath⟩ | rfl)
            · exact ⟨.inr hn, hnpath⟩
            · exact ⟨.inl rfl, rfl⟩
          · rintro ⟨rfl | hn, hnpath⟩
            · exact .inr rfl
            · exact .inl ⟨hn, hnpath⟩
        · simp only [hpath, if_false, reduceCtorEq, and_false, or_false]
          constructor
          · exact fun ⟨hn, hnpath⟩ => ⟨.inr hn, hnpath⟩
          · rintro ⟨rfl | hn, hnpath⟩
            · exact absurd hnpath hpath
            · exact ⟨hn, hnpath⟩
      · rw [size_of_added hins, ExactTable.size_insert hentered, h.size_eq]
  | present =>
    rw [hins] at hspec
    cases hspec with
    | @present n mem key_eq =>
      obtain ⟨hnc, hnl⟩ := h.literal n mem
      have hget : e.get? m.template.path = some n :=
        (h.entries _ n).2 ⟨mem, Template.path_eq_of_key_eq hnc hc hnl hl key_eq⟩
      have hsame : e.insert m.template.path m = (false, e) := by rw [ExactTable.insert, hget]
      rw [after_of_not_added (by simp [hins]), hsame]
      exact ⟨h, by simp, by simp⟩
  | full run => simp [hins, Insertion.isFull] at hroom

/-- Along a history of literal mappings that the trie does not refuse, the two stay together. -/
theorem insertAll {ms : List (Mapping H)} (h : t.Agree e)
    (hms : ∀ m ∈ ms, m.Compiled ∧ m.template.isLiteral = true) (ha : t.Admits ms) :
    (t.insertAll ms).Agree (e.insertAll ms) := by
  induction ms generalizing t e with
  | nil => exact h
  | cons m ms ih =>
    obtain ⟨hroom, ha⟩ := ha
    obtain ⟨hc, hl⟩ := hms m List.mem_cons_self
    exact ih (h.insert hc hl hroom).1 (fun n hn => hms n (List.mem_cons_of_mem m hn)) ha

end Agree

/-- Literal mappings in a trie with any history.  One that is stored is what its own path finds,
without parameters, whatever other routes match the path.  And where only literal mappings were
inserted and none was refused, the trie is a table of paths: it answers every insertion as the table
does, holds as many mappings, and every text finds the same in both. -/
theorem literals_found_first (ms : List (Mapping H)) (hms : ∀ m ∈ ms, m.Compiled) :
    (∀ m ∈ storedIn ms, m.template.isLiteral = true →
      (ofHistory ms).lookup m.template.path = some ⟨m, .none⟩) ∧
    ((∀ m ∈ ms, m.template.isLiteral = true) → (empty : RouteTrie H).Admits ms →
      (∀ before m after, ms = before ++ m :: after →
        (((ExactTable.empty.insertAll before).insert m.template.path m).1 = true ↔
          ∃ t, (ofHistory before).insert m = .added t) ∧
        (((ExactTable.empty.insertAll before).insert m.template.path m).1 = false ↔
          (ofHistory before).insert m = .present)) ∧
      (ofHistory ms).size = (ExactTable.empty.insertAll ms).size ∧
      ∀ p, (ofHistory ms).lookup p =
        ((ExactTable.empty.insertAll ms).get? p).map Router.literalMatch) := by
  constructor
  · intro m hm hl
    exact lookup_path_of_isLiteral (valid_ofHistory hms) ((mem_leaves_ofHistory hms).2 hm)
      (hms m (mem_of_mem_stored hm)) hl
  · intro hl ha
    have hboth : ∀ m ∈ ms, m.Compiled ∧ m.template.isLiteral = true := fun m hm =>
      ⟨hms m hm, hl m hm⟩
    have hagree := agree_empty.insertAll hboth ha
    refine ⟨fun before m after hsplit => ?_, hagree.size_eq, hagree.lookup_eq⟩
    subst hsplit
    obtain ⟨hbefore, hroom, -⟩ := (admits_append empty before (m :: after)).1 ha
    have hfront : ∀ n ∈ before, n.Compiled ∧ n.template.isLiteral = true := fun n hn =>
      hboth n (List.mem_append_left _ hn)
    obtain ⟨hc, hlm⟩ := hboth m (List.mem_append_right _ List.mem_cons_self)
    exact ((agree_empty.insertAll hfront hbefore).insert hc hlm hroom).2

/-- A text with a `*`. -/
def starredText : Mapping ℕ := ⟨[.get], .ofText .literal "/docs/*" true (by decide +kernel), 1⟩

/-- `starredText` behind two routes that match its path as well, or share its bytes. -/
def starredRoutes : List (Mapping ℕ) :=
  [⟨[.get], .ofText .variable "/docs/\x7bpage\x7d/notes" true (by decide +kernel), 2⟩,
    ⟨[.get], .ofText .pattern "/docs/(.+)s?" true (by decide +kernel), 3⟩, starredText]

/-- `starredText` among texts, one of which is another spelling of it. -/
def starredTexts : List (Mapping ℕ) :=
  [starredText, ⟨[.get], .ofText .literal "/docs" true (by decide +kernel), 4⟩,
    ⟨[.put], .ofText .literal "/docs//*/" true (by decide +kernel), 5⟩]

lemma compiled_starredRoutes : ∀ m ∈ starredRoutes, m.Compiled := by
  simp only [starredRoutes, List.forall_mem_cons, List.not_mem_nil, false_imp_iff, implies_true,
    and_true]
  exact ⟨Template.compiled_ofText _, Template.compiled_ofText _, Template.compiled_ofText _⟩

lemma compiled_starredTexts : ∀ m ∈ starredTexts, m.Compiled := by
  simp only [starredTexts, List.forall_mem_cons, List.not_mem_nil, false_imp_iff, implies_true,
    and_true]
  exact ⟨Template.compiled_ofText _, Template.compiled_ofText _, Template.compiled_ofText _⟩

/-- The text is found before the pattern that matches it, and the other spelling is present. -/
theorem starred_text_found :
    (∀ m ∈ starredRoutes, m.Compiled) ∧ starredText ∈ storedIn starredRoutes ∧
    (starredRoutes[1].match? "/docs/*").isSome ∧
    (ofHistory starredRoutes).lookup starredText.template.path = some ⟨starredText, .none⟩ ∧
    (∀ m ∈ starredTexts, m.Compiled) ∧ (∀ m ∈ starredTexts, m.template.isLiteral = true) ∧
    (empty : RouteTrie ℕ).Admits starredTexts ∧
    (ofHistory (starredTexts.take 2)).insert starredTexts[2] = .present ∧
    (ofHistory starredTexts).size = 2 ∧ (ofHistory starredTexts).lookup "/docs/new" = none := by
  have hstored : starredText ∈ storedIn starredRoutes := by decide +kernel
  have hliteral : starredText.template.isLiteral = true := by decide +kernel
  have hliterals : ∀ m ∈ starredTexts, m.template.isLiteral = true := by decide +kernel
  have hadmits : (empty : RouteTrie ℕ).Admits starredTexts := by
    refine ⟨?_, ?_, ?_, trivial⟩
    all_goals decide +kernel
  obtain ⟨hfound, -⟩ := literals_found_first starredRoutes compiled_starredRoutes
  obtain ⟨-, htable⟩ := literals_found_first starredTexts compiled_starredTexts
  obtain ⟨hanswers, hsize, hlookup⟩ := htable hliterals hadmits
  obtain ⟨-, hpresent⟩ := hanswers (starredTexts.take 2) starredTexts[2] [] rfl
  refine ⟨compiled_starredRoutes, hstored, by decide +kernel, hfound starredText hstored hliteral,
    compiled_starredTexts, hliterals, hadmits, hpresent.1 (by decide +kernel), ?_, ?_⟩
  · rw [hsize]
    decide +kernel
  · rw [hlookup]
    decide +kernel

end RouteTrie

end UriRouting
