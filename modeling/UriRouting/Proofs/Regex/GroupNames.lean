import UriRouting.Proofs.Regex.ChainSearch
import UriRouting.Proofs.Regex.Unanchored

/-!
# The names of groups

The reader takes the name of a group up to the first `>`, and takes no name twice.  So no group of an
expression has a `>` in its name, whatever the text was (`Regex.not_mem_of_mem_groupNames`), and the
holes of a chain that can be read have names of their own (`Link.nodup_names_of_ofText?`).
-/

namespace UriRouting.Regex

/-! ## Names without a `>` -/

lemma exists_mem_of_mem_groupTable {groups : List (ℕ × Option String)} {name : String}
    (h : some name ∈ groupTable groups) : ∃ i, (i, some name) ∈ groups := by
  obtain ⟨i, -, hi⟩ := List.mem_map.1 h
  obtain ⟨front, rest, heq, -⟩ := List.lookup_eq_some_iff.1 (Option.join_eq_some_iff.1 hi)
  exact ⟨i + 1, heq ▸ List.mem_append_right _ List.mem_cons_self⟩

/-- The name of a group is without a `>`, which would have ended it. -/
theorem not_mem_of_mem_groupNames {cs : List Char} {x : Expr} (hx : Expr.ofText? cs = some x)
    {source name : String} (h : some name ∈ (ofExpr source x).groupNames) : '>' ∉ name.toList := by
  obtain ⟨i, hi⟩ := exists_mem_of_mem_groupTable h
  exact (Expr.proper_of_ofText? hx).not_mem_name _ hi name rfl

/-! ## Names of their own -/

namespace Link

/-- The holes of a chain that is read have names of their own, and none that was read before. -/
lemma nodup_names_of_readAll {fuel : ℕ} {s t : ReaderState} {links : List Link} {rest : List Char}
    (hflags : s.flags = {}) (hholes : ∀ name, .hole name ∈ links → '>' ∉ name)
    (h : readAll fuel s (links.flatMap source ++ rest) = some t) :
    (names links).Nodup ∧ ∀ name ∈ names links, String.ofList name ∉ s.names := by
  induction links generalizing fuel s with
  | nil => simp [names]
  | cons link links ih =>
    rw [List.flatMap_cons, List.append_assoc] at h
    have hname : ∀ name, link = .hole name → '>' ∉ name := fun name hlink =>
      hholes name (hlink ▸ List.mem_cons_self)
    obtain ⟨fuel', hrest⟩ := readAll_source hflags hname h
    have hmore := ih ((flags_read s link).trans hflags)
      (fun name hmem => hholes name (List.mem_cons_of_mem _ hmem)) hrest
    cases link with
    | char c => exact hmore
    | hole name =>
      obtain ⟨hnodup, hnew⟩ := hmore
      have hown : String.ofList name ∉ s.names := by
        rw [source_hole_append] at h
        obtain ⟨fuel₁, h⟩ := readAll_eq_some hflags h
        obtain ⟨r, hopen, -⟩ := Option.bind_eq_some_iff.1 h
        obtain ⟨-, -, -, -, -, -, hnew⟩ := exists_name_of_readGroup hflags (hname name rfl) hopen
        exact hnew
      -- the names behind the hole are read with the name of the hole among those before them
      have hbehind : ∀ other ∈ names links, String.ofList other ≠ String.ofList name ∧
          String.ofList other ∉ s.names := fun other hother =>
        not_or.1 fun hmem => hnew other hother (List.mem_cons.2 hmem)
      refine ⟨List.nodup_cons.2 ⟨fun hmem => (hbehind name hmem).1 rfl, hnodup⟩, ?_⟩
      exact List.forall_mem_cons.2 ⟨hown, fun other hother => (hbehind other hother).2⟩

/-- The holes of a chain that can be read between anchors have names of their own. -/
theorem nodup_names_of_ofText? {links : List Link} {x : Expr}
    (hholes : ∀ name, .hole name ∈ links → '>' ∉ name)
    (h : Expr.ofText? ('^' :: (links.flatMap Link.source ++ ['$'])) = some x) :
    (names links).Nodup := by
  obtain ⟨s, hs, -⟩ := Option.bind_eq_some_iff.1 h
  obtain ⟨fuel, hs⟩ := readAll_eq_some rfl hs
  have hread : readAll fuel (ReaderState.start.push (.leaf (.look .textStart)))
      (links.flatMap Link.source ++ ['$']) = some s := hs
  exact (nodup_names_of_readAll (s := ReaderState.start.push _) rfl hholes hread).1

end Link

end UriRouting.Regex
