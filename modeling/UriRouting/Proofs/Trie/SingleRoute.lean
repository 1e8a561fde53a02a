import Mathlib.Data.List.DropRight
import UriRouting.Proofs.Path.Canonical
import UriRouting.Proofs.Template.Links
import UriRouting.Proofs.Trie.Lookup

/-!
# A route by itself

A trie that keeps a single route still compares a part of its key with a path before the template
is asked: the part in front of the last hole.  So the trie is an index of the template's expression
only for paths that go along this part, and misses what the expression matches beyond them
(`RouteTrie.lookup_single`).

Key and expression read one text in two ways.  The bytes of the text between the holes stand for
themselves in the key whatever they mean in the expression, and a hole takes all of a segment in the
one and whatever the rest lets it in the other.  For escaped variable templates only the second
matters, and `Separated` says of the keys alone when the two agree: unless a hole has text of its
own segment behind it, and another hole after that.  Where they do not agree, it is the path with an
`x` for every hole that is matched and missed (`Regex.Link.filled`).
-/

namespace UriRouting

open Regex

variable {H : Type}

/-! ## Up to the last hole -/

/-- A path goes along a key as far as the last of its holes. -/
def ReachesLast (key path : List UInt8) : Prop :=
  ∀ front rest, key = front ++ wildcardByte :: rest → wildcardByte ∉ rest → Goes front path

/-- A path that goes along some bytes goes along the first of them. -/
lemma Goes.of_append {front more path : List UInt8} (h : Goes (front ++ more) path) :
    Goes front path := by
  induction front generalizing path with
  | nil => exact .nil
  | cons b front ih =>
    cases h with
    | byte head tail => exact .byte head (ih tail)
    | segment tail => exact .segment (ih tail)

lemma exists_last_hole {key : List UInt8} (h : wildcardByte ∈ key) :
    ∃ front rest, key = front ++ wildcardByte :: rest ∧ wildcardByte ∉ rest := by
  induction key with
  | nil => simp at h
  | cons b key ih =>
    by_cases hkey : wildcardByte ∈ key
    · obtain ⟨front, rest, rfl, hrest⟩ := ih hkey
      exact ⟨b :: front, rest, rfl, hrest⟩
    · have hb : wildcardByte = b := (List.mem_cons.1 h).resolve_right hkey
      exact ⟨[], key, by rw [hb, List.nil_append], hkey⟩

/-- A key has one last hole. -/
lemma last_hole_unique {front rest front' rest' : List UInt8} (hrest : wildcardByte ∉ rest)
    (hrest' : wildcardByte ∉ rest')
    (h : front ++ wildcardByte :: rest = front' ++ wildcardByte :: rest') : front = front' := by
  rcases List.append_eq_append_iff.1 h with ⟨more, hfront, hmore⟩ | ⟨more, hfront, hmore⟩
  · cases more with
    | nil => rw [hfront, List.append_nil]
    | cons b more => exact absurd (by simp [(List.cons.inj hmore).2]) hrest
  · cases more with
    | nil => rw [hfront, List.append_nil]
    | cons b more => exact absurd (by simp [(List.cons.inj hmore).2]) hrest'

/-- While no other key is stored, a key is compared up to its last hole. -/
theorem exists_compared_single_iff {m : Mapping H} (hm : Ended m.key) {path : List UInt8} :
    (∃ front, Compared [m] m.key front ∧ Goes front path) ↔ ReachesLast m.key path := by
  constructor
  · rintro ⟨front, hcomp, hgoes⟩ last rest hkey hrest
    cases hcomp with
    | @alone rest' key_eq noWildcard _ =>
      rw [hkey] at key_eq
      rcases List.append_eq_append_iff.1 key_eq with ⟨more, hfront, -⟩ | ⟨more, -, hmore⟩
      · rw [hfront] at hgoes
        exact hgoes.of_append
      · exact absurd (by simp [hmore]) noWildcard
    | @shared run key_eq noWildcard _ =>
      rw [hkey] at key_eq
      have hend : wildcardByte ∉ run ++ [endByte] := by
        rw [List.mem_append, not_or]
        exact ⟨noWildcard, by decide⟩
      rwa [last_hole_unique hrest hend key_eq]
  · intro h
    by_cases hhole : wildcardByte ∈ m.key
    · obtain ⟨front, rest, hkey, hrest⟩ := exists_last_hole hhole
      have hended : Ended rest := by
        rw [hkey, Ended.append_iff (List.cons_ne_nil _ _), Ended.cons_iff] at hm
        rcases hm.2 with ⟨heq, -⟩ | ⟨-, hrest⟩
        · exact absurd heq (by decide)
        · exact hrest
      obtain ⟨run, rfl, -⟩ := hended
      have hrun : wildcardByte ∉ run := fun hmem => hrest (List.mem_append_left _ hmem)
      refine ⟨front, .shared hkey hrun fun n hn _ => ?_, h front _ hkey hrest⟩
      rw [List.mem_singleton.1 hn, hkey]
      exact ⟨[endByte], by simp⟩
    · refine ⟨[], .alone (List.nil_append _).symm hhole fun n hn _ => ?_, .nil⟩
      rw [List.mem_singleton.1 hn]

namespace RouteTrie

lemma mem_leaves_single {m n : Mapping H} (hm : m.Compiled) :
    n ∈ (ofHistory [m]).leaves ↔ n = m := by
  have hms : ∀ n ∈ [m], n.Compiled := by simpa using hm
  rw [mem_leaves_ofHistory hms]
  have hstored : storedIn [m] = [m] := rfl
  rw [hstored, List.mem_singleton]

/-- A trie that keeps a single route answers with it if the template matches the path and the path
goes along the key up to the last hole. -/
theorem lookup_single_eq_some_iff {m : Mapping H} (hm : m.Compiled) {path : String} {r : Match H} :
    (ofHistory [m]).lookup path = some r ↔
      m.match? path = some r ∧ ReachesLast m.key (bytesOf path) := by
  have hvalid : (ofHistory [m]).Valid := valid_ofHistory (by simpa using hm)
  have hleaves : ∀ n, n ∈ (ofHistory [m]).leaves ↔ n ∈ [m] := fun n => by
    rw [mem_leaves_single hm, List.mem_singleton]
  have hserved : ((ofHistory [m]).lookup path).isSome ↔
      (m.match? path).isSome ∧ ReachesLast m.key (bytesOf path) := by
    rw [lookup_isSome_iff hvalid]
    simp only [hleaves, Compared.congr hleaves, List.mem_singleton, exists_eq_left,
      exists_compared_single_iff hm.ended]
  constructor
  · intro h
    obtain ⟨hmem, hmatch⟩ := lookup_eq_some h
    rw [(mem_leaves_single hm).1 hmem] at hmatch
    have hsome : ((ofHistory [m]).lookup path).isSome := by rw [h]; rfl
    exact ⟨hmatch, (hserved.1 hsome).2⟩
  · rintro ⟨hmatch, hreaches⟩
    obtain ⟨r', hr'⟩ := Option.isSome_iff_exists.1 (hserved.2 ⟨by rw [hmatch]; rfl, hreaches⟩)
    have hmatch' := (lookup_eq_some hr').2
    rw [(mem_leaves_single hm).1 (lookup_eq_some hr').1, hmatch] at hmatch'
    rw [hr', hmatch']

end RouteTrie

/-! ## Going along a key, piece by piece -/

section Reaching

variable {run key path : List UInt8} {b : UInt8}

lemma reachesLast_of_not_mem (h : wildcardByte ∉ key) (path : List UInt8) :
    ReachesLast key path := by
  intro front rest hkey _
  exact absurd (by simp [hkey]) h

/-- Text in front of a key stands in front of the path as well. -/
lemma reachesLast_run_append_iff (hw : wildcardByte ∉ run) (he : endByte ∉ run) :
    ReachesLast (run ++ key) (run ++ path) ↔ ReachesLast key path := by
  constructor
  · intro h front rest hkey hrest
    have hfront := h (run ++ front) rest (by rw [hkey, List.append_assoc]) hrest
    obtain ⟨path', heq, hgoes⟩ := (goes_run_append hw he).1 hfront
    rwa [List.append_cancel_left heq]
  · intro h front rest hkey hrest
    rcases List.append_eq_append_iff.1 hkey with ⟨more, rfl, hmore⟩ | ⟨more, hrun, hmore⟩
    · exact (goes_run_append hw he).2 ⟨path, rfl, h more rest hmore hrest⟩
    · cases more with
      | nil =>
        rw [List.append_nil] at hrun
        rw [← hrun]
        exact goes_self_append run path
      | cons c more => exact absurd (by simp [hrun, ← (List.cons.inj hmore).1]) hw

/-- If the last hole is not the first byte of a key, the path meets this byte or a segment. -/
lemma ReachesLast.of_cons (h : ReachesLast (b :: key) path) (hkey : wildcardByte ∈ key) :
    (path.headD endByte = b ∧ ReachesLast key path.tail) ∨
      b = wildcardByte ∧ ReachesLast key (path.dropWhile (· != slashByte)) := by
  obtain ⟨front, rest, rfl, hrest⟩ := exists_last_hole hkey
  have hgoes : Goes (b :: front) path := h (b :: front) rest rfl hrest
  cases hgoes with
  | byte head tail =>
    refine .inl ⟨head, fun front' rest' heq hrest' => ?_⟩
    rwa [← last_hole_unique hrest hrest' heq]
  | segment tail =>
    refine .inr ⟨rfl, fun front' rest' heq hrest' => ?_⟩
    rwa [← last_hole_unique hrest hrest' heq]

/-- A hole takes what is left of a segment. -/
lemma ReachesLast.cons_hole (h : ReachesLast key (path.dropWhile (· != slashByte))) :
    ReachesLast (wildcardByte :: key) path := by
  intro front rest hkey hrest
  cases front with
  | nil => exact .nil
  | cons c front =>
    obtain ⟨hc, hkey⟩ := List.cons.inj hkey
    rw [← hc]
    exact .segment (h front rest hkey hrest)

/-- A hole that does not meet a `*` of the path takes what is left of a segment. -/
lemma not_reachesLast_hole (hkey : wildcardByte ∈ key) (hpath : path.headD endByte ≠ wildcardByte)
    (h : ¬ ReachesLast key (path.dropWhile (· != slashByte))) :
    ¬ ReachesLast (wildcardByte :: key) path := by
  intro hreaches
  rcases hreaches.of_cons hkey with ⟨heq, -⟩ | ⟨-, hrest⟩
  · exact hpath heq
  · exact h hrest

end Reaching

/-! ## Holes with text behind them -/

/-- A key that goes on behind a hole as the path does behind a segment, or with another hole. -/
def Detached (key : List UInt8) : Prop :=
  key.head? = some slashByte ∨ key.head? = some wildcardByte

instance (key : List UInt8) : Decidable (Detached key) := inferInstanceAs (Decidable (_ ∨ _))

/-- No hole but the last has text of its own segment behind it. -/
def Separated : List UInt8 → Prop
  | [] => True
  | b :: key => (b = wildcardByte → wildcardByte ∈ key → Detached key) ∧ Separated key

instance decidableSeparated : ∀ key : List UInt8, Decidable (Separated key)
  | [] => inferInstanceAs (Decidable True)
  | _ :: key =>
    have := decidableSeparated key
    inferInstanceAs (Decidable (_ ∧ _))

/-- A key that goes on with text does not go on as a path does behind a segment. -/
lemma not_reachesLast_behind {key : List UInt8} (hended : Ended key) (hkey : wildcardByte ∈ key)
    (hd : ¬ Detached key) (path : List UInt8) :
    ¬ ReachesLast key (path.dropWhile (· != slashByte)) := by
  intro hreaches
  obtain ⟨b, below, rfl⟩ := List.exists_cons_of_ne_nil (List.ne_nil_of_mem hkey)
  rw [Detached, not_or] at hd
  have hslash : b ≠ slashByte := fun heq => hd.1 (by rw [heq]; rfl)
  have hwild : b ≠ wildcardByte := fun heq => hd.2 (by rw [heq]; rfl)
  have hbelow : wildcardByte ∈ below := (List.mem_cons.1 hkey).resolve_left (Ne.symm hwild)
  have hend : b ≠ endByte := by
    rcases Ended.cons_iff.1 hended with ⟨-, hnil⟩ | ⟨hne, -⟩
    · exact absurd hnil (List.ne_nil_of_mem hbelow)
    · exact hne
  rcases hreaches.of_cons hbelow with ⟨hhead, -⟩ | ⟨heq, -⟩
  · rcases headD_dropWhile path with hq | hq
    · exact hend (hhead.symm.trans hq)
    · exact hslash (hhead.symm.trans hq)
  · exact hwild heq

lemma separated_run_append_iff {run key : List UInt8} (hw : wildcardByte ∉ run) :
    Separated (run ++ key) ↔ Separated key := by
  induction run with
  | nil => exact Iff.rfl
  | cons b run ih =>
    rw [List.mem_cons, not_or] at hw
    rw [List.cons_append, Separated, ih hw.2]
    exact and_iff_right fun hb => absurd hb.symm hw.1

lemma separated_of_not_mem {key : List UInt8} (h : wildcardByte ∉ key) : Separated key := by
  rw [← List.append_nil key, separated_run_append_iff h]
  trivial

/-! ## Chains of links -/

namespace Regex.Link

/-- The key of a chain. -/
def key (ls : List Link) : List UInt8 := Text.utf8 (ls.map sign) ++ [endByte]

/-- The characters of a chain are none of the marks of a key. -/
def Clean (ls : List Link) : Prop :=
  ∀ c, .char c ∈ ls → c ≠ TemplatePart.wildcard ∧ c ≠ TemplatePart.terminator

/-- A text that a chain matches: its own characters, and an `x` for every hole. -/
def filled (ls : List Link) : List Char :=
  ls.map fun
    | char c => c
    | hole _ => 'x'

variable {ls : List Link} {c : Char} {name : List Char}

lemma key_char_cons (c : Char) (ls : List Link) :
    key (.char c :: ls) = String.utf8EncodeChar c ++ key ls := by
  rw [key, List.map_cons, Text.utf8_cons, List.append_assoc]
  rfl

lemma key_hole_cons (name : List Char) (ls : List Link) :
    key (.hole name :: ls) = wildcardByte :: key ls := by
  rw [key, List.map_cons, sign, Text.utf8_cons_of_ascii (by decide)]
  rfl

lemma Clean.tail {link : Link} (h : Clean (link :: ls)) : Clean ls := fun c hc =>
  h c (List.mem_cons_of_mem link hc)

/-- The bytes of a character of a chain are none of the marks of a key. -/
lemma Clean.not_mem_encode (h : Clean (.char c :: ls)) :
    wildcardByte ∉ String.utf8EncodeChar c ∧ endByte ∉ String.utf8EncodeChar c := by
  obtain ⟨hstar, hnul⟩ := h c List.mem_cons_self
  have hbytes : Text.utf8 [c] = String.utf8EncodeChar c := by simp [Text.utf8_cons]
  have hw := Text.mem_utf8_iff (by decide : TemplatePart.wildcard.toNat < 128) [c]
  have he := Text.mem_utf8_iff (by decide : TemplatePart.terminator.toNat < 128) [c]
  rw [hbytes, List.mem_singleton] at hw he
  exact ⟨fun hmem => hstar (hw.1 hmem).symm, fun hmem => hnul (he.1 hmem).symm⟩

lemma ended_key (h : Clean ls) : Ended (key ls) := by
  have hnul : TemplatePart.terminator ∉ ls.map sign := by
    intro hmem
    obtain ⟨link, hlink, hsign⟩ := List.mem_map.1 hmem
    cases link with
    | char c => exact (h c hlink).2 hsign
    | hole name => exact absurd (show TemplatePart.wildcard = _ from hsign) (by decide)
  have hended := Template.ended_keyOf hnul
  rwa [Template.keyOf_terminated] at hended

/-- A character has a first byte, which is a `/` only if the character is one. -/
lemma exists_encode (c : Char) :
    ∃ b bs, String.utf8EncodeChar c = b :: bs ∧ (b = slashByte → c = '/') := by
  cases hbytes : String.utf8EncodeChar c with
  | nil => exact absurd hbytes String.utf8EncodeChar_ne_nil
  | cons b bs =>
    refine ⟨b, bs, rfl, fun hb => ?_⟩
    by_contra hne
    have hslash : slashByte ∉ Text.utf8 [c] :=
      slash_not_mem_utf8 fun hmem => hne (List.mem_singleton.1 hmem).symm
    exact hslash (by simp [Text.utf8_cons, hbytes, hb])

/-- A key that starts with a character is detached only if the character is a `/`. -/
lemma eq_slash_of_detached (h : Clean (.char c :: ls)) (hd : Detached (key (.char c :: ls))) :
    c = '/' := by
  obtain ⟨b, bs, hbytes, hslash⟩ := exists_encode c
  rw [key_char_cons, hbytes] at hd
  rcases hd with hd | hd
  · exact hslash (Option.some.inj hd)
  · have hw := h.not_mem_encode.1
    rw [hbytes, ← Option.some.inj hd] at hw
    exact absurd List.mem_cons_self hw

lemma dropWhile_utf8_slash (cs : List Char) :
    (Text.utf8 ('/' :: cs)).dropWhile (· != slashByte) = Text.utf8 ('/' :: cs) := by
  rw [Text.utf8_cons_of_ascii (by decide : '/'.toNat < 128)]
  rfl

/-- A text that a chain matches goes along the key of the chain if the holes are separated, and the
rest of it behind a segment does if the chain goes on as a path does there. -/
theorem reachesLast_of_cut (hclean : Clean ls) (hsep : Separated (key ls)) {cs : List Char}
    {vs : List (List Char)} (h : cut ls cs = some vs) : ReachesLast (key ls) (Text.utf8 cs) ∧
      (Detached (key ls) →
        ReachesLast (key ls) ((Text.utf8 cs).dropWhile (· != slashByte))) := by
  have hsome : (cut ls cs).isSome := by
    rw [h]
    rfl
  clear h
  induction ls, cs, hsome using cut_induction with
  | nil =>
    have hnone : wildcardByte ∉ key [] := by decide
    exact ⟨reachesLast_of_not_mem hnone _, fun _ => reachesLast_of_not_mem hnone _⟩
  | char c ls cs _ _ ih =>
    obtain ⟨hw, he⟩ := hclean.not_mem_encode
    rw [key_char_cons, separated_run_append_iff hw] at hsep
    have hrest := (ih hclean.tail hsep).1
    have hall : ReachesLast (key (.char c :: ls)) (Text.utf8 (c :: cs)) := by
      rw [key_char_cons, Text.utf8_cons, reachesLast_run_append_iff hw he]
      exact hrest
    refine ⟨hall, fun hd => ?_⟩
    obtain rfl := eq_slash_of_detached hclean hd
    rwa [dropWhile_utf8_slash]
  | hole name ls v rest _ _ hslash ih =>
    rw [key_hole_cons, Separated] at hsep
    rw [key_hole_cons, Text.utf8_append]
    have hbehind : ReachesLast (key ls) ((Text.utf8 rest).dropWhile (· != slashByte)) := by
      by_cases hmore : wildcardByte ∈ key ls
      · exact (ih hclean.tail hsep.2).2 (hsep.1 rfl hmore)
      · exact reachesLast_of_not_mem hmore _
    rw [← dropWhile_append_of_not_mem (slash_not_mem_utf8 hslash)] at hbehind
    refine ⟨hbehind.cons_hole, fun _ => ReachesLast.cons_hole ?_⟩
    rwa [List.dropWhile_idempotent]

/-! ## Filled holes -/

lemma filled_hole_cons (name : List Char) (ls : List Link) :
    filled (.hole name :: ls) = 'x' :: filled ls := rfl

lemma filled_char_cons (c : Char) (ls : List Link) :
    filled (.char c :: ls) = c :: filled ls := rfl

/-- A chain matches its filled text. -/
lemma isSome_cut_filled (ls : List Link) : (cut ls (filled ls)).isSome := by
  induction ls with
  | nil => rfl
  | cons link ls ih =>
    cases link with
    | char c =>
      rw [filled_char_cons, cut, if_pos rfl]
      exact ih
    | hole name =>
      rw [filled_hole_cons, cut, Option.isSome_map]
      exact isSome_cutHole_append (v := ['x']) (by decide) ih

/-- The filled text does not go along the key if the holes are not separated, and no more does the
rest of it behind a segment if the chain goes on as a path does there. -/
theorem not_reachesLast_filled (hclean : Clean ls) (hsep : ¬ Separated (key ls)) :
    ¬ ReachesLast (key ls) (Text.utf8 (filled ls)) ∧
      (Detached (key ls) →
        ¬ ReachesLast (key ls) ((Text.utf8 (filled ls)).dropWhile (· != slashByte))) := by
  induction ls with
  | nil => exact absurd (by decide) hsep
  | cons link ls ih =>
    cases link with
    | char c =>
      obtain ⟨hw, he⟩ := hclean.not_mem_encode
      rw [key_char_cons, separated_run_append_iff hw] at hsep
      have hall : ¬ ReachesLast (key (.char c :: ls)) (Text.utf8 (filled (.char c :: ls))) := by
        rw [key_char_cons, filled_char_cons, Text.utf8_cons, reachesLast_run_append_iff hw he]
        exact (ih hclean.tail hsep).1
      refine ⟨hall, fun hd => ?_⟩
      obtain rfl := eq_slash_of_detached hclean hd
      rwa [filled_char_cons, dropWhile_utf8_slash]
    | hole name =>
      rw [key_hole_cons, Separated] at hsep
      rw [key_hole_cons, filled_hole_cons]
      have hmore : wildcardByte ∈ key ls := by
        by_contra hnone
        exact hsep ⟨fun _ hmem => absurd hmem hnone, separated_of_not_mem hnone⟩
      have hbehind :
          ¬ ReachesLast (key ls) ((Text.utf8 (filled ls)).dropWhile (· != slashByte)) := by
        by_cases hd : Detached (key ls)
        · exact (ih hclean.tail fun hrest => hsep ⟨fun _ _ => hd, hrest⟩).2 hd
        · exact not_reachesLast_behind (ended_key hclean.tail) hmore hd _
      have hx : slashByte ∉ Text.utf8 ['x'] := by decide
      have hdrop := dropWhile_append_of_not_mem hx (Text.utf8 (filled ls))
      rw [← Text.utf8_append, List.singleton_append] at hdrop
      rw [← hdrop] at hbehind
      refine ⟨not_reachesLast_hole hmore ?_ hbehind, fun _ => not_reachesLast_hole hmore ?_ ?_⟩
      · rw [Text.utf8_cons_of_ascii (by decide : 'x'.toNat < 128)]
        exact (by decide : UInt8.ofNat 'x'.toNat ≠ wildcardByte)
      · rcases headD_dropWhile (Text.utf8 ('x' :: filled ls)) with hq | hq
        · rw [hq]
          decide
        · rw [hq]
          decide
      · rwa [List.dropWhile_idempotent]

/-- The characters of a filled text around no hole are characters of the chain. -/
lemma spelling_of_filled (h : 'x' ∉ filled ls) : ls.flatMap spelling = filled ls := by
  induction ls with
  | nil => rfl
  | cons link ls ih =>
    cases link with
    | char c =>
      rw [filled_char_cons, List.mem_cons, not_or] at h
      rw [List.flatMap_cons, ih h.2]
      rfl
    | hole name => exact absurd List.mem_cons_self h

/-- A chain that goes on with a `/` is written so. -/
lemma exists_of_filled_eq_slash_cons {rest : List Char} (h : filled ls = '/' :: rest) :
    ∃ ls', ls = .char '/' :: ls' ∧ filled ls' = rest := by
  cases ls with
  | nil => simp [filled] at h
  | cons link ls =>
    cases link with
    | char c =>
      rw [filled_char_cons] at h
      obtain ⟨rfl, hrest⟩ := List.cons.inj h
      exact ⟨ls, rfl, hrest⟩
    | hole name =>
      rw [filled_hole_cons] at h
      exact absurd (List.cons.inj h).1 (by decide)

lemma behind_spelling {rest : List Char} (h : filled ls = rest) (hrest : Behind rest) :
    Behind (ls.flatMap spelling) := by
  rcases hrest with rfl | ⟨rest, rfl⟩
  · obtain rfl : ls = [] := List.map_eq_nil_iff.1 h
    exact .inl rfl
  · obtain ⟨ls', rfl, -⟩ := exists_of_filled_eq_slash_cons h
    exact .inr ⟨_, rfl⟩

/-- If a chain is written as a canonical path, its filled text is a canonical path as well. -/
theorem canonical_filled (h : Path.Canonical (String.ofList (ls.flatMap spelling)))
    (hne : ls.flatMap spelling ≠ ['/']) : Path.Canonical (String.ofList (filled ls)) := by
  obtain ⟨segments, hsegments, hpath⟩ := Path.canonical_iff.1 h
  have htext : ls.flatMap spelling = Path.spell segments := by
    rw [← String.toList_ofList (l := ls.flatMap spelling), hpath, String.toList_ofList]
  obtain ⟨body, hspell, -⟩ := Path.exists_spell_eq_cons fun s hs => (hsegments s hs).2.2.2
  rw [hspell] at htext
  have hslash : ∃ ls', ls = .char '/' :: ls' := by
    cases ls with
    | nil => simp at htext
    | cons link ls' =>
      cases link with
      | char c =>
        obtain ⟨rfl, -⟩ := List.cons.inj htext
        exact ⟨ls', rfl⟩
      | hole name => exact absurd (List.cons.inj htext).1 (by decide)
  obtain ⟨ls', hls⟩ := hslash
  have hfilled : filled ls = '/' :: filled ls' := by rw [hls, filled_char_cons]
  rw [hfilled]
  refine Path.canonical_of_between fun front s rest hs hrest heq => ?_
  by_contra hnot
  -- a segment that is not ordinary holds no `x`, so it is one of the chain
  have hx : 'x' ∉ s := by
    intro hmem
    refine hnot ⟨List.ne_nil_of_mem hmem, ?_, ?_, hs⟩
    · rintro rfl
      simp at hmem
    · rintro rfl
      simp at hmem
  rw [← hfilled] at heq
  obtain ⟨ls₁, ls₂, hsplit, -, hls₂⟩ := List.map_eq_append_iff.1 heq
  obtain ⟨ls₃, rfl, hls₃⟩ := exists_of_filled_eq_slash_cons hls₂
  obtain ⟨ls₄, ls₅, rfl, rfl, hls₅⟩ := List.map_eq_append_iff.1 hls₃
  have hwritten : ls.flatMap spelling = ls₁.flatMap spelling ++
      '/' :: (filled ls₄ ++ ls₅.flatMap spelling) := by
    rw [hsplit, List.flatMap_append, List.flatMap_cons, List.flatMap_append, spelling_of_filled hx]
    rfl
  exact hnot (h.ordinary_between hne hs (behind_spelling hls₅ hrest) hwritten)

end Regex.Link

/-! ## Routes by themselves -/

namespace Template

open TemplatePart

variable {text : String} {t : Template} {parts : List TemplatePart}

/-- The links of a variable template are clean, make its key and are written as its path. -/
lemma links_of_variableTemplate {escaped : Bool} (h : variableTemplate text escaped = .ok t)
    (hparts : variableParts t.path.toList = .ok parts) :
    Link.Clean (links parts) ∧ t.key = Link.key (links parts) ∧
      (links parts).flatMap Link.spelling = t.path.toList := by
  obtain ⟨path, -, -, parts', hparts', regex, -, rfl⟩ := variableTemplate_eq_ok.1 h
  obtain rfl : parts' = parts := Except.ok.inj (hparts'.symm.trans hparts)
  refine ⟨fun c hc => (runsClean_variablePartsFrom hparts).of_char_mem hc, ?_, ?_⟩
  · show keyOf (shape parts') = _
    rw [shape_eq, keyOf_terminated, Link.key]
  · rw [spelling_links hparts]
    simp

/-- The path with an `x` for every variable is canonical. -/
lemma canonical_filled {escaped : Bool} (h : variableTemplate text escaped = .ok t)
    (hparts : variableParts t.path.toList = .ok parts) :
    Path.Canonical (String.ofList (Link.filled (links parts))) := by
  have hspelling := (links_of_variableTemplate h hparts).2.2
  have hpath : Path.Canonical t.path ∧ '\x7b' ∈ t.path.toList := by
    obtain ⟨path, hpath, hbrace, -, -, -, -, rfl⟩ := variableTemplate_eq_ok.1 h
    exact ⟨canonical_of_canonicalPath hpath, hbrace⟩
  refine Link.canonical_filled ?_ fun hslash => ?_
  · rw [hspelling, String.ofList_toList]
    exact hpath.1
  · have hbrace := hpath.2
    rw [← hspelling, hslash] at hbrace
    exact absurd hbrace (by decide)

end Template

namespace RouteTrie

open Template TemplatePart

/-- A trie that keeps a single route answers with what the template captures, for the paths that go
along the key up to its last hole, and misses all others.  If the route is an escaped variable one
(with names that a group can have), it is found under every canonical path that its template
captures exactly if no hole but the last has text of its own segment behind it. -/
theorem lookup_single (m : Mapping H) (hm : m.Compiled) :
    (∀ path r, (ofHistory [m]).lookup path = some r ↔ r.mapping = m ∧
      m.template.capture? path = some r.params ∧ ReachesLast m.key (bytesOf path)) ∧
    ∀ text parts, variableTemplate text true = .ok m.template →
      variableParts m.template.path.toList = .ok parts →
      (∀ name, .hole name ∈ parts → '>' ∉ name) →
      ((∀ path, Path.Canonical path →
          ((ofHistory [m]).lookup path).map Match.params = m.template.capture? path) ↔
        Separated m.key) := by
  have hlookup : ∀ path r, (ofHistory [m]).lookup path = some r ↔ r.mapping = m ∧
      m.template.capture? path = some r.params ∧ ReachesLast m.key (bytesOf path) := by
    intro path r
    rw [lookup_single_eq_some_iff hm, Mapping.match?_eq_some_iff, and_assoc]
  refine ⟨hlookup, fun text parts htemplate hparts hnames => ?_⟩
  have hclean : Link.Clean (links parts) := (links_of_variableTemplate htemplate hparts).1
  have hkey : m.key = Link.key (links parts) := (links_of_variableTemplate htemplate hparts).2.1
  have hcapture := capture?_of_escaped htemplate hparts hnames
  constructor
  · intro hindex
    by_contra hsep
    rw [hkey] at hsep
    obtain ⟨vs, hvs⟩ := Option.isSome_iff_exists.1 (Link.isSome_cut_filled (links parts))
    have hfound := hindex _ (canonical_filled htemplate hparts)
    rw [hcapture, String.toList_ofList, hvs, Option.map_some] at hfound
    obtain ⟨r, hr, -⟩ := Option.map_eq_some_iff.1 hfound
    have hreaches := ((hlookup _ r).1 hr).2.2
    rw [hkey, bytesOf, String.toList_ofList] at hreaches
    exact (Link.not_reachesLast_filled hclean hsep).1 hreaches
  · intro hsep path _
    rw [hkey] at hsep
    cases hvalue : m.template.capture? path with
    | none =>
      rw [Option.map_eq_none_iff, Option.eq_none_iff_forall_ne_some]
      intro r hr
      have hsome := ((hlookup path r).1 hr).2.1
      rw [hvalue] at hsome
      simp at hsome
    | some params =>
      have hreaches : ReachesLast m.key (bytesOf path) := by
        rw [hcapture] at hvalue
        obtain ⟨vs, hvs, -⟩ := Option.map_eq_some_iff.1 hvalue
        rw [hkey]
        exact (Link.reachesLast_of_cut hclean hsep hvs).1
      rw [(hlookup path ⟨m, params⟩).2 ⟨rfl, hvalue, hreaches⟩]
      rfl

/-- A route with text that would mean more in an expression, and with a text behind its last
variable. -/
def reportRoute : Mapping Unit :=
  ⟨[.get], .ofText .variable "/v1.0/\x7buser\x7d/\x7bid\x7d.txt" true (by decide +kernel), ()⟩

/-- The route is found under every canonical path that its template captures. -/
theorem report_found : reportRoute.Compiled ∧ Separated reportRoute.key ∧
    ∀ path, Path.Canonical path →
      ((ofHistory [reportRoute]).lookup path).map Match.params =
        reportRoute.template.capture? path := by
  have hcompiled : reportRoute.Compiled := Template.compiled_ofText _
  have hsep : Separated reportRoute.key := by decide +kernel
  have htemplate : compile .variable "/v1.0/\x7buser\x7d/\x7bid\x7d.txt" true =
      .ok reportRoute.template := compile_eq_ofText _
  have hparts : variableParts reportRoute.template.path.toList =
      .ok [.run "/v1.0/".toList, .hole "user".toList, .run ['/'], .hole "id".toList,
        .run ".txt".toList] := by
    decide +kernel
  have hindexed := (lookup_single reportRoute hcompiled).2 _ _ htemplate hparts (by simp)
  exact ⟨hcompiled, hsep, hindexed.2 hsep⟩

/-- A pattern with an escaped sign in front of its group. -/
def dottedRoute : Mapping Unit :=
  ⟨[.get], .ofText .pattern "/v1\\.0/([a-z]+)" true (by decide +kernel), ()⟩

/-- The key of `dottedRoute` has the `\` of its expression, which the path has not. -/
theorem dotted_route_missed :
    ¬ ∀ (m : Mapping Unit) (path : String),
      ((∃ text, variableTemplate text true = .ok m.template) ∨
        ∃ text, pattern text = .ok m.template) →
      Path.Canonical path →
        ((ofHistory [m]).lookup path).map Match.params = m.template.capture? path := by
  intro h
  have htemplate : compile .pattern "/v1\\.0/([a-z]+)" true = .ok dottedRoute.template :=
    compile_eq_ofText _
  have hcanonical : Path.Canonical "/v1.0/abc" := by
    unfold Path.Canonical
    decide +kernel
  have hfound := h dottedRoute "/v1.0/abc" (.inr ⟨_, htemplate⟩) hcanonical
  have hmissed : (ofHistory [dottedRoute]).lookup "/v1.0/abc" = none := by decide +kernel
  have hcaptured : dottedRoute.template.capture? "/v1.0/abc" = some (.positional ["abc"]) := by
    decide +kernel
  rw [hmissed, hcaptured] at hfound
  simp at hfound

end RouteTrie

end UriRouting
